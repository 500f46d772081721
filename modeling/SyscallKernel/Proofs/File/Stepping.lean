import Mathlib.Data.List.Induction
import SyscallKernel.Proofs.File.Descriptors
import SyscallKernel.Proofs.File.Refinement
import SyscallKernel.Proofs.File.Releases
import SyscallKernel.Proofs.Sessions

/-!
# What an operation of a file session can come to

An operation leaves the session alone, or it makes one change to the store, to a held handle or
to a table. The possibilities are listed here for every operation. A handle is held, is in one
table, or is on its way between the two; the store counts each of them once, whatever is done.
-/

namespace SyscallKernel

/-- An entry is found as before when those of another key are taken out. -/
theorem lookup_filter_ne {α : Type} (entries : List (Nat × α)) (key other : Nat) :
    (entries.filter fun entry => entry.1 ≠ key).lookup other =
      if other = key then none else entries.lookup other := by
  induction entries with
  | nil => rw [List.filter_nil, List.lookup_nil, ite_self]
  | cons first rest ih =>
    obtain ⟨n, value⟩ := first
    by_cases dropped : n = key
    · rw [List.filter_cons_of_neg (by rw [decide_eq_true_eq]; exact not_not_intro dropped), ih,
        List.lookup_cons]
      by_cases same : other = key
      · rw [if_pos same, if_pos same]
      · have apart : other ≠ n := fun equal => same (equal.trans dropped)
        simp only [if_neg same, beq_eq_false_iff_ne.2 apart]
    · rw [List.filter_cons_of_pos (by rw [decide_eq_true_eq]; exact dropped), List.lookup_cons,
        List.lookup_cons, ih]
      by_cases found : other = n
      · have apart : other ≠ key := fun equal => dropped (found.symm.trans equal)
        simp only [found, beq_self_eq_true, if_neg (found ▸ apart)]
      · simp only [beq_eq_false_iff_ne.2 found]

namespace FileSession

variable {session : FileSession}

/-! ### Held handles and tables after a change -/

theorem lookup_forget (session : FileSession) (n m : Nat) :
    (session.forget n).handles.lookup m = if m = n then none else session.handles.lookup m :=
  lookup_filter_ne session.handles n m

theorem lookup_setHandle (session : FileSession) (n m : Nat) (handle : FileHandle) :
    (session.setHandle n handle).handles.lookup m =
      if m = n then some handle else session.handles.lookup m := by
  rw [setHandle, List.lookup_cons]
  by_cases same : m = n
  · rw [if_pos same, beq_iff_eq.2 same]
  · rw [if_neg same, beq_eq_false_iff_ne.2 same]
    exact (session.lookup_forget n m).trans (if_neg same)

theorem lookup_obtain (session : FileSession) (handle : FileHandle) (m : Nat) :
    (session.obtain handle).1.handles.lookup m =
      if m = session.nextHandle then some handle else session.handles.lookup m := by
  rw [obtain, List.lookup_cons]
  by_cases same : m = session.nextHandle
  · rw [if_pos same, beq_iff_eq.2 same]
  · rw [if_neg same, beq_eq_false_iff_ne.2 same]

theorem table_setTable (session : FileSession) (n m : Nat) (table : DescriptorTable) :
    (session.setTable n table).table m = if m = n then table else session.table m := by
  rw [FileSession.table, setTable, List.lookup_cons]
  by_cases same : m = n
  · rw [if_pos same, beq_iff_eq.2 same]
    rfl
  · rw [if_neg same, beq_eq_false_iff_ne.2 same, lookup_filter_ne, if_neg same]
    rfl

/-! ### What an operation can do -/

/-- What an operation can do to a session. -/
inductive Stepping (session : FileSession) : FileAction → FileSession → Prop where
  /-- The session is left alone. -/
  | idle (action : FileAction) : Stepping session action session
  /-- A file is created or emptied, and a handle on it is held. -/
  | created {bytes : Bytes} {name : FileName} {owner : Pid} {store' : FileStore}
    {creation : FileStore.Creation} {handle : FileHandle} (valid : FileName.ofBytes bytes = .ok name)
    (creating : FileStore.Creating session.store name owner store' creation)
    (gives : creation.handle? = some handle) :
    Stepping session (.create bytes owner) ({ session with store := store' }.obtain handle).1
  /-- A file is opened, and a handle on it is held. -/
  | opened {bytes : Bytes} {name : FileName} {owner : Pid} {store' : FileStore}
    {handle : FileHandle} (valid : FileName.ofBytes bytes = .ok name)
    (opening : FileStore.Opening session.store name owner (some (store', handle))) :
    Stepping session (.openLinked bytes owner) ({ session with store := store' }.obtain handle).1
  /-- A name is removed. -/
  | removed {bytes : Bytes} {name : FileName} {store' : FileStore}
    {unlinking : FileStore.Unlinking} (valid : FileName.ofBytes bytes = .ok name)
    (removing : FileStore.Removing session.store name (some (store', unlinking))) :
    Stepping session (.unlink bytes) { session with store := store' }
  /-- A held handle is read through. -/
  | read {n count : Nat} {handle : FileHandle} (held : session.handles.lookup n = some handle) :
    Stepping session (.read n count) (session.setHandle n (session.store.read handle count).2)
  /-- A held handle is written through. -/
  | written {n : Nat} {handle : FileHandle} {data : Bytes}
    (held : session.handles.lookup n = some handle) :
    Stepping session (.write n data)
      ({ session with store := (session.store.write handle data).1 }.setHandle n
        (handle.advance data.length))
  /-- A handle in a table is read through. -/
  | readFd {t count : Nat} {raw : Register} {fd : Fd} {handle : FileHandle}
    (names : Fd.ofRegister? raw = some fd)
    (bound : (session.table t).resolve? fd = some (.file handle)) :
    Stepping session (.readFd t raw count)
      (session.setTable t
        ((session.table t).assign fd (some (.file (session.store.read handle count).2))))
  /-- A handle in a table is written through. -/
  | writtenFd {t : Nat} {raw : Register} {fd : Fd} {handle : FileHandle} {data : Bytes}
    (names : Fd.ofRegister? raw = some fd)
    (bound : (session.table t).resolve? fd = some (.file handle)) :
    Stepping session (.writeFd t raw data)
      ({ session with store := (session.store.write handle data).1 }.setTable t
        ((session.table t).assign fd (some (.file (handle.advance data.length)))))
  /-- A held handle is released. -/
  | dropped {n : Nat} {handle : FileHandle} (held : session.handles.lookup n = some handle) :
    Stepping session (.drop n) ((session.forget n).releaseAll [handle])
  /-- A held handle is released because the table that it was to go into is full. -/
  | overflowed {t n : Nat} {handle : FileHandle} (held : session.handles.lookup n = some handle)
    (full : (session.table t).allocate handle = none) :
    Stepping session (.allocate t n) ((session.forget n).releaseAll [handle])
  /-- A held handle goes into a table. -/
  | installed {t n : Nat} {handle : FileHandle} {table' : DescriptorTable} {fd : Fd}
    (held : session.handles.lookup n = some handle)
    (allocated : (session.table t).allocate handle = some (table', fd)) :
    Stepping session (.allocate t n) ((session.forget n).setTable t table')
  /-- A handle in a table is held from now on. -/
  | taken {t : Nat} {raw : Register} {fd : Fd} {handle : FileHandle} {table' : DescriptorTable}
    (names : Fd.ofRegister? raw = some fd)
    (released : (session.table t).release fd = some (table', handle)) :
    Stepping session (.release t raw) ((session.setTable t table').obtain handle).1
  /-- A handle in a table is released. -/
  | closed {t : Nat} {raw : Register} {fd : Fd} {handle : FileHandle} {table' : DescriptorTable}
    (names : Fd.ofRegister? raw = some fd)
    (released : (session.table t).release fd = some (table', handle)) :
    Stepping session (.close t raw) ((session.setTable t table').releaseAll [handle])
  /-- All handles in a table are released. -/
  | cleared {t : Nat} :
    Stepping session (.clear t)
      ((session.releaseAll (session.table t).handles).setTable t .cleared)

/-- Creating a file comes to one of the possibilities. -/
theorem stepping_create (arranged : session.store.Arranged) (bytes : Bytes) (owner : Pid) :
    session.Stepping (.create bytes owner) (session.step (.create bytes owner)).1 := by
  rw [step, withName]
  split
  · exact .idle _
  · rename_i name valid
    have creating := FileStore.creating arranged name owner
    generalize session.store.create name owner = result at creating
    obtain ⟨store', creation⟩ := result
    cases gives : creation.handle? with
    | some handle =>
      simp only [gives]
      exact .created valid creating gives
    | none =>
      simp only [gives]
      cases creating with
      | full => exact .idle _
      | truncated => cases gives
      | created => cases gives

/-- What is done with a held handle comes to one of the possibilities if there is one. -/
theorem stepping_withHandle {n : Nat} {action : FileAction}
    {use : FileHandle → FileSession × FileAnswer}
    (used : ∀ handle, session.handles.lookup n = some handle →
      session.Stepping action (use handle).1) :
    session.Stepping action (session.withHandle n use).1 := by
  rw [withHandle]
  split
  · exact .idle _
  · exact used _ ‹_›

/-- What is done with a handle in a table comes to one of the possibilities if there is one. -/
theorem stepping_withFile {t : Nat} {raw : Register} {action : FileAction}
    {use : Fd → FileHandle → FileSession × FileAnswer}
    (used : ∀ fd handle, Fd.ofRegister? raw = some fd →
      (session.table t).resolve? fd = some (.file handle) →
      session.Stepping action (use fd handle).1) :
    session.Stepping action (session.withFile t raw use).1 := by
  rw [withFile, withFd]
  split
  · exact .idle _
  · split
    · exact .idle _
    · exact used _ _ ‹_› ‹_›
    · exact .idle _

/-- What is done with a handle taken out of a table comes to one of the possibilities if there is
one. -/
theorem stepping_takeOut {t : Nat} {raw : Register} {action : FileAction}
    {use : FileSession → FileHandle → FileSession × FileAnswer}
    (used : ∀ fd table' handle, Fd.ofRegister? raw = some fd →
      (session.table t).release fd = some (table', handle) →
      session.Stepping action (use (session.setTable t table') handle).1) :
    session.Stepping action (session.takeOut t raw use).1 := by
  rw [takeOut, withFd]
  split
  · exact .idle _
  · split
    · exact .idle _
    · exact used _ _ _ ‹_› ‹_›

/-- Every operation comes to one of the possibilities. -/
theorem stepping (arranged : session.store.Arranged) (action : FileAction) :
    session.Stepping action (session.step action).1 := by
  cases action with
  | create bytes owner => exact stepping_create arranged bytes owner
  | openLinked bytes owner =>
    rw [step, withName]
    split
    · exact .idle _
    · rename_i name valid
      have opening := FileStore.opening arranged name owner
      generalize session.store.openLinked name owner = result at opening
      cases result with
      | none => exact .idle _
      | some found => exact .opened valid opening
  | unlink bytes =>
    rw [step, withName]
    split
    · exact .idle _
    · rename_i name valid
      have removing := FileStore.removing arranged name
      generalize session.store.unlink name = result at removing
      cases result with
      | none => exact .idle _
      | some found => exact .removed valid removing
  | contains bytes =>
    rw [step, withName]
    split <;> exact .idle _
  | stat bytes =>
    rw [step, withName]
    split <;> exact .idle _
  | isEmpty => exact .idle _
  | read n count => exact stepping_withHandle fun handle held => .read held
  | write n data =>
    exact stepping_withHandle fun handle held => .written held
  | info n => exact stepping_withHandle fun handle held => .idle _
  | drop n => exact stepping_withHandle fun handle held => .dropped held
  | allocate t n =>
    refine stepping_withHandle fun handle held => ?_
    cases allocated : (session.table t).allocate handle with
    | none =>
      simp only
      exact .overflowed held allocated
    | some installed =>
      simp only
      exact .installed held allocated
  | resolve t raw =>
    rw [step, withFd]
    split
    · exact .idle _
    · split <;> exact .idle _
  | readFd t raw count => exact stepping_withFile fun fd handle names bound => .readFd names bound
  | writeFd t raw data =>
    exact stepping_withFile fun fd handle names bound => .writtenFd names bound
  | release t raw =>
    exact stepping_takeOut fun fd table' handle names released => .taken names released
  | close t raw =>
    exact stepping_takeOut fun fd table' handle names released => .closed names released
  | clear t => exact .cleared
  | table t => exact .idle _

/-! ### No handle is lost or counted twice -/

/-- The handles that a session holds or keeps in its tables. -/
def openHandles (session : FileSession) : List FileHandle :=
  session.handles.map Prod.snd ++ session.tables.flatMap fun entry => entry.2.handles

/-- The handles that a session holds or keeps in its other tables. -/
def handlesApart (session : FileSession) (t : Nat) : List FileHandle :=
  session.handles.map Prod.snd ++
    (session.tables.filter fun entry => entry.1 ≠ t).flatMap fun entry => entry.2.handles

/-- The handles that are held, are in a table or are on their way between the two. -/
def allHandles (session : FileSession) (loose : List FileHandle) : List FileHandle :=
  session.openHandles ++ loose

/-- A session in which every handle has one place and shares contents that are there. -/
structure Orderly (session : FileSession) (loose : List FileHandle) : Prop where
  /-- The store is in order. -/
  regular : session.store.Regular
  /-- The contents that a handle shares are there. -/
  shares : ∀ handle ∈ session.allHandles loose, handle.data < session.store.data.length
  /-- Held handles have different numbers. -/
  numbers_nodup : (session.handles.map Prod.fst).Nodup
  /-- The next number was not used. -/
  numbers_lt : ∀ held ∈ session.handles, held.1 < session.nextHandle
  /-- Tables have different numbers. -/
  tables_nodup : (session.tables.map Prod.fst).Nodup

/-- A session whose store counts each handle once, and in which each handle shares the contents of
the entry that it designates. -/
structure Balanced (session : FileSession) (loose : List FileHandle) : Prop
    extends Orderly session loose where
  /-- The store is well formed. -/
  wellFormed : session.store.WellFormed
  /-- It counts every handle once. -/
  accounts : session.store.Accounts ((session.allHandles loose).map FileHandle.link)

/-! ### Where handles go -/

section Places

variable {loose loose' : List FileHandle} {n t : Nat} {handle handle' : FileHandle}

theorem allHandles_nil (session : FileSession) : session.allHandles [] = session.openHandles :=
  List.append_nil _

/-- A handle on its way is held from now on. -/
theorem perm_obtain (session : FileSession) (handle : FileHandle) (loose : List FileHandle) :
    (session.allHandles (handle :: loose)).Perm ((session.obtain handle).1.allHandles loose) :=
  List.perm_middle

/-- A held handle is on its way. -/
theorem perm_forget (loose : List FileHandle) (distinct : (session.handles.map Prod.fst).Nodup)
    (held : session.handles.lookup n = some handle) :
    (session.allHandles loose).Perm ((session.forget n).allHandles (handle :: loose)) := by
  have front := (perm_cons_filter_of_lookup distinct held).map Prod.snd
  exact ((front.append_right _).append_right _).trans List.perm_middle.symm

/-- The handles of a session are those of one table and the others. -/
theorem openHandles_perm (distinct : (session.tables.map Prod.fst).Nodup) (t : Nat) :
    session.openHandles.Perm ((session.table t).handles ++ session.handlesApart t) := by
  have tables : (session.tables.flatMap fun entry => entry.2.handles).Perm
      ((session.table t).handles ++
        (session.tables.filter fun entry => entry.1 ≠ t).flatMap fun entry => entry.2.handles) := by
    rw [FileSession.table]
    cases found : session.tables.lookup t with
    | some table => exact (perm_cons_filter_of_lookup distinct found).flatMap_right _
    | none =>
      have others : (session.tables.filter fun entry => entry.1 ≠ t) = session.tables := by
        rw [List.filter_eq_self]
        rintro ⟨m, table⟩ member
        rw [decide_eq_true_eq]
        rintro rfl
        exact bne_iff_ne.1 (List.lookup_eq_none_iff.1 found _ member) rfl
      rw [others, Option.getD_none, DescriptorTable.handles_new, List.nil_append]
  exact (tables.append_left _).trans (List.perm_append_comm_assoc _ _ _)

/-- Handles go into a table or come out of it. -/
theorem perm_setTable {table' : DescriptorTable} (distinct : (session.tables.map Prod.fst).Nodup)
    (moved : ((table'.handles ++ loose').map FileHandle.link).Perm
      (((session.table t).handles ++ loose).map FileHandle.link)) :
    ((session.allHandles loose).map FileHandle.link).Perm
      (((session.setTable t table').allHandles loose').map FileHandle.link) := by
  have around : ∀ table loose : List FileHandle,
      ((table ++ session.handlesApart t) ++ loose).Perm
        ((table ++ loose) ++ session.handlesApart t) := by
    intro table loose
    rw [List.append_assoc, List.append_assoc]
    exact List.perm_append_comm.append_left _
  have before := ((openHandles_perm distinct t).append_right loose).trans (around _ _)
  have after : ((session.setTable t table').allHandles loose').Perm
      ((table'.handles ++ loose') ++ session.handlesApart t) := by
    refine List.Perm.trans (List.Perm.append_right _ ?_) (around _ _)
    exact List.perm_append_comm_assoc _ _ _
  have swapped := moved.append_right ((session.handlesApart t).map FileHandle.link)
  rw [← List.map_append, ← List.map_append] at swapped
  exact (before.map _).trans (swapped.symm.trans (after.map _).symm)

/-- Contents that are shared before handles move are shared after it. -/
theorem shares_of_perm {handles handles' : List FileHandle} {length : Nat}
    (shares : ∀ handle ∈ handles, handle.data < length)
    (same : (handles.map FileHandle.link).Perm (handles'.map FileHandle.link)) :
    ∀ handle ∈ handles', handle.data < length := by
  intro handle member
  obtain ⟨earlier, member', link⟩ :=
    List.mem_map.1 (same.mem_iff.2 (List.mem_map_of_mem (f := FileHandle.link) member))
  have data : earlier.data = handle.data := congrArg Prod.snd link
  exact data ▸ shares earlier member'

end Places

namespace Orderly

variable {loose loose' : List FileHandle} {n t : Nat} {handle handle' : FileHandle}
  {store' : FileStore}

theorem new (capacity : Nat) : (FileSession.new capacity).Orderly [] where
  regular := FileStore.regular_empty capacity
  shares _ member := nomatch member
  numbers_nodup := List.nodup_nil
  numbers_lt _ member := nomatch member
  tables_nodup := List.nodup_nil

/-- Another store with the contents that the handles share. -/
theorem withStore (orderly : session.Orderly loose) (regular : store'.Regular)
    (shares : ∀ handle ∈ session.allHandles loose', handle.data < store'.data.length) :
    Orderly { session with store := store' } loose' :=
  ⟨regular, shares, orderly.numbers_nodup, orderly.numbers_lt, orderly.tables_nodup⟩

theorem obtain (orderly : session.Orderly (handle :: loose)) :
    (session.obtain handle).1.Orderly loose where
  regular := orderly.regular
  shares := shares_of_perm orderly.shares ((session.perm_obtain handle loose).map _)
  numbers_nodup := by
    refine List.nodup_cons.2 ⟨?_, orderly.numbers_nodup⟩
    intro member
    obtain ⟨held, listed, same⟩ := List.mem_map.1 member
    exact Nat.ne_of_lt (orderly.numbers_lt held listed) same
  numbers_lt := by
    intro held member
    rcases List.mem_cons.1 member with rfl | member
    · exact Nat.lt_succ_self _
    · exact Nat.lt_succ_of_lt (orderly.numbers_lt held member)
  tables_nodup := orderly.tables_nodup

theorem forget (orderly : session.Orderly loose)
    (held : session.handles.lookup n = some handle) :
    (session.forget n).Orderly (handle :: loose) where
  regular := orderly.regular
  shares := shares_of_perm orderly.shares ((perm_forget loose orderly.numbers_nodup held).map _)
  numbers_nodup := orderly.numbers_nodup.sublist (List.Sublist.map _ List.filter_sublist)
  numbers_lt := fun held member => orderly.numbers_lt held (List.mem_filter.1 member).1
  tables_nodup := orderly.tables_nodup

/-- A held handle has moved. -/
theorem perm_setHandle (orderly : session.Orderly loose)
    (held : session.handles.lookup n = some handle) (same : handle'.link = handle.link) :
    ((session.allHandles loose).map FileHandle.link).Perm
      (((session.setHandle n handle').allHandles loose).map FileHandle.link) := by
  have moved := (perm_forget loose orderly.numbers_nodup held).trans List.perm_middle
    |>.map FileHandle.link
  rw [List.map_cons, ← same, ← List.map_cons] at moved
  exact moved

theorem setHandle (orderly : session.Orderly loose)
    (held : session.handles.lookup n = some handle) (same : handle'.link = handle.link) :
    (session.setHandle n handle').Orderly loose := by
  have front := perm_cons_filter_of_lookup orderly.numbers_nodup held
  have apart := (front.map Prod.fst).nodup_iff.1 orderly.numbers_nodup
  refine ⟨orderly.regular, shares_of_perm orderly.shares (orderly.perm_setHandle held same), apart,
    ?_, orderly.tables_nodup⟩
  intro other member
  rcases List.mem_cons.1 member with rfl | member
  · exact orderly.numbers_lt (n, handle) (front.mem_iff.2 List.mem_cons_self)
  · exact orderly.numbers_lt other (List.mem_filter.1 member).1

theorem setTable {table' : DescriptorTable} (orderly : session.Orderly loose)
    (moved : ((table'.handles ++ loose').map FileHandle.link).Perm
      (((session.table t).handles ++ loose).map FileHandle.link)) :
    (session.setTable t table').Orderly loose' where
  regular := orderly.regular
  shares := shares_of_perm orderly.shares (perm_setTable orderly.tables_nodup moved)
  numbers_nodup := orderly.numbers_nodup
  numbers_lt := orderly.numbers_lt
  tables_nodup := by
    refine List.nodup_cons.2 ⟨?_,
      orderly.tables_nodup.sublist (List.Sublist.map _ List.filter_sublist)⟩
    intro member
    obtain ⟨entry, listed, same⟩ := List.mem_map.1 member
    exact of_decide_eq_true (List.mem_filter.1 listed).2 same

theorem releaseAll {handles : List FileHandle} (orderly : session.Orderly (handles ++ loose)) :
    (session.releaseAll handles).Orderly loose := by
  have released := FileStore.released_releaseAll orderly.regular handles
  refine orderly.withStore released.regular fun handle member => ?_
  rw [released.data]
  refine orderly.shares handle ?_
  rcases List.mem_append.1 member with kept | loose
  · exact List.mem_append_left _ kept
  · exact List.mem_append_right _ (List.mem_append_right _ loose)

end Orderly

/-- A handle in a table has moved. -/
theorem perm_assign_moved {t : Nat} {fd : Fd} {handle handle' : FileHandle}
    {loose : List FileHandle}
    (bound : (session.table t).resolve? fd = some (.file handle))
    (same : handle'.link = handle.link) :
    ((((session.table t).assign fd (some (.file handle'))).handles ++ loose).map
        FileHandle.link).Perm (((session.table t).handles ++ loose).map FileHandle.link) := by
  rw [List.map_append, List.map_append, DescriptorTable.handles_assign_moved FileHandle.link bound]
  exact congrArg some same

namespace Balanced

variable {loose loose' : List FileHandle} {n t : Nat} {handle handle' : FileHandle}
  {store' : FileStore}

theorem new (capacity : Nat) : (FileSession.new capacity).Balanced [] where
  toOrderly := .new capacity
  wellFormed := FileStore.wellFormed_empty capacity
  accounts := FileStore.accounts_empty capacity

theorem obtain (balanced : session.Balanced (handle :: loose)) :
    (session.obtain handle).1.Balanced loose where
  toOrderly := balanced.toOrderly.obtain
  wellFormed := balanced.wellFormed
  accounts := balanced.accounts.perm ((session.perm_obtain handle loose).map _)

theorem forget (balanced : session.Balanced loose)
    (held : session.handles.lookup n = some handle) :
    (session.forget n).Balanced (handle :: loose) where
  toOrderly := balanced.toOrderly.forget held
  wellFormed := balanced.wellFormed
  accounts := balanced.accounts.perm ((perm_forget loose balanced.numbers_nodup held).map _)

theorem setHandle (balanced : session.Balanced loose)
    (held : session.handles.lookup n = some handle) (same : handle'.link = handle.link) :
    (session.setHandle n handle').Balanced loose where
  toOrderly := balanced.toOrderly.setHandle held same
  wellFormed := balanced.wellFormed
  accounts := balanced.accounts.perm (balanced.perm_setHandle held same)

theorem setTable {table' : DescriptorTable} (balanced : session.Balanced loose)
    (moved : ((table'.handles ++ loose').map FileHandle.link).Perm
      (((session.table t).handles ++ loose).map FileHandle.link)) :
    (session.setTable t table').Balanced loose' where
  toOrderly := balanced.toOrderly.setTable moved
  wellFormed := balanced.wellFormed
  accounts := balanced.accounts.perm (perm_setTable balanced.tables_nodup moved)

/-- Handles on their way are released, each from an entry that counts it. -/
theorem releaseAll {handles : List FileHandle} (balanced : session.Balanced (handles ++ loose)) :
    (∀ release ∈ (session.store.releaseAll handles).2, release.IsClean) ∧
      (session.releaseAll handles).Balanced loose := by
  have accounts : session.store.Accounts
      (handles.map FileHandle.link ++ (session.allHandles loose).map FileHandle.link) := by
    rw [← List.map_append]
    exact balanced.accounts.perm ((List.perm_append_comm_assoc _ _ _).map _)
  obtain ⟨clean, wellFormed, accounts'⟩ :=
    FileStore.releaseAll_accounts balanced.wellFormed accounts
  exact ⟨clean, balanced.toOrderly.releaseAll, wellFormed, accounts'⟩

end Balanced

/-! ### What an operation keeps -/

/-- The slots of a session have indices of 32 bits, and 32 bits can count the handles on a file. -/
structure Fits (session : FileSession) : Prop where
  /-- Every slot has an index. -/
  indexed : session.store.Indexed
  /-- The handles on a file can be counted. -/
  count_lt : ∀ id, (session.openHandles.map FileHandle.id).count id < wordCount

variable {session' : FileSession} {action : FileAction}

/-- Every operation keeps a session orderly. -/
theorem Orderly.of_stepping (orderly : session.Orderly [])
    (stepping : session.Stepping action session') : session'.Orderly [] := by
  have regular := orderly.regular
  have shares := orderly.shares
  rw [allHandles_nil] at shares
  -- A handle that is opened shares contents that are there, and the others go on sharing theirs.
  have opened : ∀ {store' : FileStore} {handle : FileHandle},
      session.store.data.length ≤ store'.data.length → handle.data < store'.data.length →
      ∀ other ∈ session.allHandles [handle], other.data < store'.data.length := by
    intro store' handle grown within other member
    rcases List.mem_append.1 member with old | new
    · exact Nat.lt_of_lt_of_le (shares other old) grown
    · cases List.mem_singleton.1 new
      exact within
  cases stepping with
  | idle => exact orderly
  | created valid creating gives =>
    refine (orderly.withStore (creating.regular regular) ?_).obtain
    cases creating with
    | truncated linked change data =>
      cases gives
      have size := congrArg List.length data
      rw [List.length_set] at size
      exact opened (Nat.le_of_eq size.symm)
        (size ▸ regular.data_lt (FileStore.live_of_linked? linked))
    | created unlinked room fresh issued_eq change data =>
      cases gives
      have size := congrArg List.length data
      rw [List.length_append, List.length_singleton] at size
      exact opened (by omega) (by rw [size]; exact Nat.lt_succ_self _)
    | full => cases gives
  | opened valid opening =>
    refine (orderly.withStore (opening.regular regular) ?_).obtain
    cases opening with
    | opened linked change data =>
      have size := congrArg List.length data
      exact opened (Nat.le_of_eq size.symm)
        (size ▸ regular.data_lt (FileStore.live_of_linked? linked))
  | removed valid removing =>
    refine orderly.withStore (removing.regular regular) ?_
    rw [removing.data_eq]
    exact orderly.shares
  | read held => exact orderly.setHandle held rfl
  | written held =>
    refine (orderly.withStore (FileStore.regular_write regular _ _) ?_).setHandle held rfl
    simp only [FileStore.write, List.length_modify]
    exact orderly.shares
  | readFd names bound => exact orderly.setTable (perm_assign_moved bound rfl)
  | writtenFd names bound =>
    refine (orderly.withStore (FileStore.regular_write regular _ _) ?_).setTable
      (by exact perm_assign_moved bound rfl)
    simp only [FileStore.write, List.length_modify]
    exact orderly.shares
  | dropped held => exact (orderly.forget held).releaseAll
  | overflowed held full => exact (orderly.forget held).releaseAll
  | installed held allocated =>
    refine (orderly.forget held).setTable ?_
    rw [List.append_nil]
    exact ((DescriptorTable.handles_allocate allocated).trans
      (List.perm_append_singleton _ _).symm).map _
  | taken names released =>
    refine (orderly.setTable ?_).obtain
    rw [List.append_nil]
    exact ((List.perm_append_singleton _ _).trans
      (DescriptorTable.handles_release released).symm).map _
  | closed names released =>
    refine (orderly.setTable ?_).releaseAll
    rw [List.append_nil, List.append_nil]
    exact ((List.perm_append_singleton _ _).trans
      (DescriptorTable.handles_release released).symm).map _
  | @cleared t =>
    refine (Orderly.setTable (t := t) orderly ?_).releaseAll
    rw [DescriptorTable.handles_cleared, List.append_nil, List.nil_append]

/-- One more handle on an entry can be counted if the handles can be counted that there are then. -/
theorem Balanced.openCount_succ_lt {store' : FileStore} {handle : FileHandle} {entry : FileEntry}
    (balanced : session.Balanced []) (live : session.store.entry? handle.id = some entry)
    (fits : ({ session with store := store' }.obtain handle).1.Fits) :
    entry.openCount + 1 < wordCount := by
  have counted := balanced.accounts.count_eq handle.id
  rw [FileStore.openCountOf_of_live live, allHandles_nil, List.map_map] at counted
  have all := fits.count_lt handle.id
  have one : (({ session with store := store' }.obtain handle).1.openHandles.map
      FileHandle.id).count handle.id =
        (session.openHandles.map FileHandle.id).count handle.id + 1 := List.count_cons_self
  rw [one] at all
  exact counted ▸ all

/-- A handle that was opened is held, and the store counts it. -/
theorem Balanced.accounts_obtain {store' : FileStore} {handle : FileHandle}
    (accounts : store'.Accounts (handle.link :: session.openHandles.map FileHandle.link)) :
    store'.Accounts ((({ session with store := store' }.obtain handle).1.allHandles []).map
      FileHandle.link) := by
  rw [allHandles_nil]
  exact accounts

/-- An operation keeps the balance if the numbers of 32 bits suffice after it. -/
theorem Balanced.of_stepping (balanced : session.Balanced [])
    (stepping : session.Stepping action session') (fits : session'.Fits) :
    session'.Balanced [] := by
  have wellFormed := balanced.wellFormed
  have accounts := balanced.accounts
  rw [allHandles_nil] at accounts
  have orderly := balanced.toOrderly.of_stepping stepping
  cases stepping with
  | idle => exact balanced
  | created valid creating gives =>
    refine ⟨orderly, creating.wellFormed wellFormed fits.indexed, Balanced.accounts_obtain ?_⟩
    have accounts' := creating.accounts fits.indexed ?_ accounts
    · rwa [gives, Option.toList_some] at accounts'
    · intro id entry linked
      cases creating with
      | truncated linked' =>
        cases gives
        rw [linked] at linked'
        cases linked'
        exact balanced.openCount_succ_lt (FileStore.live_of_linked? linked) fits
      | created unlinked =>
        rw [linked] at unlinked
        cases unlinked
      | full => cases gives
  | opened valid opening =>
    refine ⟨orderly, opening.wellFormed wellFormed,
      Balanced.accounts_obtain (opening.accounts ?_ accounts)⟩
    intro id entry linked
    cases opening with
    | opened linked' =>
      rw [linked] at linked'
      cases linked'
      exact balanced.openCount_succ_lt (FileStore.live_of_linked? linked) fits
  | removed valid removing =>
    exact ⟨orderly, removing.wellFormed wellFormed, removing.accounts balanced.accounts⟩
  | read held => exact balanced.setHandle held rfl
  | @written n handle data held =>
    have moved : (session.setHandle n (handle.advance data.length)).Balanced [] :=
      balanced.setHandle held rfl
    exact ⟨orderly, FileStore.wellFormed_write wellFormed handle data,
      FileStore.accounts_write moved.accounts handle data⟩
  | readFd names bound => exact balanced.setTable (perm_assign_moved bound rfl)
  | @writtenFd t raw fd handle data names bound =>
    have moved : (session.setTable t ((session.table t).assign fd
        (some (.file (handle.advance data.length))))).Balanced [] :=
      balanced.setTable (perm_assign_moved bound rfl)
    exact ⟨orderly, FileStore.wellFormed_write wellFormed handle data,
      FileStore.accounts_write moved.accounts handle data⟩
  | dropped held => exact (balanced.forget held).releaseAll.2
  | overflowed held full => exact (balanced.forget held).releaseAll.2
  | installed held allocated =>
    refine (balanced.forget held).setTable ?_
    rw [List.append_nil]
    exact ((DescriptorTable.handles_allocate allocated).trans
      (List.perm_append_singleton _ _).symm).map _
  | taken names released =>
    refine (balanced.setTable ?_).obtain
    rw [List.append_nil]
    exact ((List.perm_append_singleton _ _).trans
      (DescriptorTable.handles_release released).symm).map _
  | closed names released =>
    refine (balanced.setTable ?_).releaseAll.2
    rw [List.append_nil, List.append_nil]
    exact ((List.perm_append_singleton _ _).trans
      (DescriptorTable.handles_release released).symm).map _
  | @cleared t =>
    refine (Balanced.setTable (t := t) balanced ?_).releaseAll.2
    rw [DescriptorTable.handles_cleared, List.append_nil, List.nil_append]

/-- The store stays well formed while slots have indices. -/
theorem wellFormed_of_stepping (wellFormed : session.store.WellFormed)
    (stepping : session.Stepping action session') (indexed : session'.store.Indexed) :
    session'.store.WellFormed := by
  have released := FileStore.wellFormed_releaseAll wellFormed
  cases stepping with
  | idle => exact wellFormed
  | created valid creating gives => exact creating.wellFormed wellFormed indexed
  | opened valid opening => exact opening.wellFormed wellFormed
  | removed valid removing => exact removing.wellFormed wellFormed
  | read held => exact wellFormed
  | written held => exact FileStore.wellFormed_write wellFormed _ _
  | readFd names bound => exact wellFormed
  | writtenFd names bound => exact FileStore.wellFormed_write wellFormed _ _
  | dropped held => exact released _
  | overflowed held full => exact released _
  | installed held allocated => exact wellFormed
  | taken => exact wellFormed
  | closed => exact released _
  | cleared => exact released _

/-- The session after some operations on a new store. -/
abbrev reached (capacity : Nat) (actions : List FileAction) : FileSession :=
  Session.after step (new capacity) actions

theorem reached_append (capacity : Nat) (actions : List FileAction) (action : FileAction) :
    reached capacity (actions ++ [action]) = ((reached capacity actions).step action).1 :=
  Session.after_append step (new capacity) actions [action]

/-- Whatever was done, every handle has one place and shares contents that are there. -/
theorem orderly_reached (capacity : Nat) (actions : List FileAction) :
    (reached capacity actions).Orderly [] := by
  have preserved : ∀ (session : FileSession) (action : FileAction), session.Orderly [] →
      (session.step action).1.Orderly [] :=
    fun _ action orderly => orderly.of_stepping (stepping orderly.regular.arranged action)
  exact Session.after_induction preserved (Orderly.new capacity) actions

/-- One more operation was done. -/
theorem stepping_reached (capacity : Nat) (actions : List FileAction) (action : FileAction) :
    (reached capacity actions).Stepping action (reached capacity (actions ++ [action])) := by
  rw [reached_append]
  exact stepping (orderly_reached capacity actions).regular.arranged action

/-- The numbers of 32 bits sufficed all along. -/
def Fitting (capacity : Nat) (actions : List FileAction) : Prop :=
  ∀ time, (reached capacity (actions.take time)).Fits

namespace Fitting

variable {capacity : Nat} {actions later : List FileAction}

theorem now (fitting : Fitting capacity actions) : (reached capacity actions).Fits := by
  have whole := fitting actions.length
  rwa [List.take_length] at whole

theorem before (fitting : Fitting capacity (actions ++ later)) : Fitting capacity actions := by
  intro time
  have first := fitting (min time actions.length)
  rwa [List.take_append_of_le_length (Nat.min_le_right _ _), ← List.take_eq_take_min] at first

end Fitting

/-- As long as the numbers of 32 bits suffice, the store counts every handle once. -/
theorem balanced_reached {capacity : Nat} {actions : List FileAction}
    (fitting : Fitting capacity actions) : (reached capacity actions).Balanced [] := by
  induction actions using List.reverseRecOn with
  | nil => exact Balanced.new capacity
  | append_singleton actions action ih =>
    exact (ih fitting.before).of_stepping (stepping_reached capacity actions action) fitting.now

end FileSession

end SyscallKernel
