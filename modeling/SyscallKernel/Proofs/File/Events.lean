import SyscallKernel.Proofs.File.Slots
import SyscallKernel.Proofs.File.Stepping

/-!
# What clients learn about names and references

A client that opens a file learns a reference to the entry that a name leads to, and a client that
removes a name learns that it leads nowhere any more. Nothing else that a client does makes an
entry, gives out a reference or moves a name.
-/

namespace SyscallKernel

namespace FileStore

variable {store store' : FileStore} {id other : FileId} {entry : FileEntry} {name : FileName}
  {owner : Pid}

/-- The name leads to the entry that the reference designates. -/
def Links (store : FileStore) (name : FileName) (id : FileId) : Prop :=
  ∃ entry, store.entry? id = some entry ∧ entry.name = name ∧ entry.unlinked = false

/-- A reference to which a name leads was given out. -/
theorem Numbered.hasIssued_of_links (numbered : store.Numbered) (links : store.Links name id) :
    store.HasIssued id := by
  obtain ⟨entry, live, -⟩ := links
  exact numbered.hasIssued_of_live live

/-! ### Names after a change -/

/-- A name leads to what it led to before, unless that is what changed. -/
theorem Change.links_iff {new : Option FileEntry} {names : List (FileName × Nat)}
    (change : Change store id new names store') :
    store'.Links name other ↔
      if other = id then ∃ entry, new = some entry ∧ entry.name = name ∧ entry.unlinked = false
      else store.Links name other := by
  rw [Links, change.entry?_eq]
  split <;> rfl

/-- Names stay when an entry changes that keeps its own. -/
theorem Change.links_iff_of_same_link {new : FileEntry} {names : List (FileName × Nat)}
    (change : Change store id (some new) names store') (live : store.entry? id = some entry)
    (same : new.name = entry.name) (unlinked : new.unlinked = entry.unlinked) :
    store'.Links name other ↔ store.Links name other := by
  rw [change.links_iff]
  split
  · rename_i own
    simp only [own, Links, live, Option.some.injEq, exists_eq_left', same, unlinked]
  · rfl

namespace WellFormed

variable (wellFormed : store.WellFormed)
include wellFormed

theorem links_iff : store.Links name id ↔ ∃ entry, store.linked? name = some (id, entry) := by
  simp only [Links, wellFormed.linked?_eq_some_iff]

/-- A name leads to one entry at most. -/
theorem eq_of_links (first : store.Links name id) (second : store.Links name other) :
    id = other := by
  obtain ⟨entry, leads⟩ := wellFormed.links_iff.1 first
  obtain ⟨entry', leads'⟩ := wellFormed.links_iff.1 second
  rw [leads] at leads'
  cases leads'
  rfl

theorem not_links_of_unlinked (unlinked : store.linked? name = none) (id : FileId) :
    ¬ store.Links name id := by
  rw [wellFormed.links_iff, unlinked]
  simp only [reduceCtorEq, exists_false, not_false_eq_true]

end WellFormed

/-! ### Operations that move no name -/

/-- What becomes of slots and names when no entry is made and no name is removed. -/
structure Settles (store store' : FileStore) : Prop extends Carries store store' where
  /-- Every name leads to what it led to before. -/
  links_iff : ∀ name id, store'.Links name id ↔ store.Links name id

namespace Settles

theorem refl (store : FileStore) : Settles store store := ⟨.refl store, fun _ _ => .rfl⟩

theorem trans {middle : FileStore} (first : Settles store middle)
    (second : Settles middle store') : Settles store store' :=
  ⟨first.toCarries.trans second.toCarries,
    fun name id => (second.links_iff name id).trans (first.links_iff name id)⟩

end Settles

/-- Opening a linked file moves no name. -/
theorem Opening.links_iff {handle : FileHandle}
    (opening : Opening store name owner (some (store', handle))) {name' : FileName} :
    store'.Links name' other ↔ store.Links name' other := by
  cases opening with
  | opened leads change =>
    exact change.links_iff_of_same_link (live_of_linked? leads) rfl rfl

/-- Emptying a linked file moves no name. -/
theorem Creating.links_iff_of_linked {creation : Creation} {found : FileId × FileEntry}
    (creating : Creating store name owner store' creation)
    (leads : store.linked? name = some found) {name' : FileName} :
    store'.Links name' other ↔ store.Links name' other := by
  cases creating with
  | truncated leads change =>
    exact change.links_iff_of_same_link (live_of_linked? leads) rfl rfl
  | created unlinked =>
    rw [leads] at unlinked
    cases unlinked
  | full => rfl

/-- A new file is linked under its name, and no other name moves. -/
theorem Creating.links_iff_of_unlinked {creation : Creation} {handle : FileHandle}
    (creating : Creating store name owner store' creation) (indexed : store'.Indexed)
    (unlinked : store.linked? name = none) (gives : creation.handle? = some handle)
    {name' : FileName} :
    store'.Links name' other ↔ (name' = name ∧ other = handle.id) ∨ store.Links name' other := by
  cases creating with
  | truncated leads =>
    rw [unlinked] at leads
    cases leads
  | full => cases gives
  | created _ room fresh issued_eq change =>
    cases gives
    cases issued_eq (change.index_lt indexed)
    rw [change.links_iff]
    split
    · rename_i own
      subst own
      have before : ¬ store.Links name' other := by
        rintro ⟨entry, live, -⟩
        rw [fresh] at live
        cases live
      simp only [Option.some.injEq, exists_eq_left', and_true, FileHandle.atStart, before, or_false]
      exact eq_comm
    · rename_i apart
      simp only [FileHandle.atStart, apart, and_false, false_or]

/-- Releasing moves no name: the last release of an entry takes it away only after its name was
removed. -/
theorem Releasing.links_iff {release : Release} (releasing : Releasing store id store' release) :
    store'.Links name other ↔ store.Links name other := by
  cases releasing with
  | stale => rfl
  | unheld => rfl
  | kept live positive stays change => exact change.links_iff_of_same_link live rfl rfl
  | freed live one unlinked change =>
    rw [change.links_iff]
    split
    · rename_i own
      simp only [own, Links, live, Option.some.injEq, exists_eq_left', unlinked, reduceCtorEq,
        Bool.true_eq_false, false_and, and_false, exists_false]
    · rfl

theorem settles_create {found : FileId × FileEntry} (arranged : store.Arranged)
    (leads : store.linked? name = some found) : Settles store (store.create name owner).1 :=
  ⟨carries_create leads, fun _ _ => (creating arranged name owner).links_iff_of_linked leads⟩

theorem settles_openLinked {handle : FileHandle} (arranged : store.Arranged)
    (opened : store.openLinked name owner = some (store', handle)) : Settles store store' := by
  have opening := opening arranged name owner
  rw [opened] at opening
  exact ⟨carries_openLinked opened, fun _ _ => opening.links_iff⟩

theorem settles_write (store : FileStore) (handle : FileHandle) (bytes : Bytes) :
    Settles store (store.write handle bytes).1 :=
  ⟨carries_write store handle bytes, fun _ _ => .rfl⟩

theorem settles_release (arranged : store.Arranged) (id : FileId) :
    Settles store (store.release id).1 :=
  ⟨carries_release store id, fun _ _ => (releasing arranged id).links_iff⟩

theorem settles_releaseAll (regular : store.Regular) (handles : List FileHandle) :
    Settles store (store.releaseAll handles).1 := by
  induction handles generalizing store with
  | nil => exact .refl store
  | cons handle rest ih =>
    have first := (releasing regular.arranged handle.id).regular regular
    exact (settles_release regular.arranged handle.id).trans (ih first)

variable (wellFormed : store.WellFormed)
include wellFormed

/-- Removing a name moves no other. -/
theorem links_iff_of_unlink {unlinking : Unlinking}
    (removed : store.unlink name = some (store', unlinking)) (name' : FileName) (other : FileId) :
    store'.Links name' other ↔ store.Links name' other ∧ name' ≠ name := by
  -- Only the name that is removed led to the entry that changes.
  have own_name : ∀ {id entry}, store.linked? name = some (id, entry) →
      (store.Links name' id ↔ name' = name) := by
    intro id entry leads
    obtain ⟨live, named, linked⟩ := wellFormed.linked?_eq_some_iff.1 leads
    simp only [Links, live, Option.some.injEq, exists_eq_left', named, linked, and_true, eq_comm]
  have other_name : ∀ {id entry}, store.linked? name = some (id, entry) → other ≠ id →
      store.Links name' other → name' ≠ name := by
    rintro id entry leads apart links rfl
    exact apart (wellFormed.eq_of_links links (wellFormed.links_iff.2 ⟨entry, leads⟩))
  have removing := removing wellFormed.arranged name
  rw [removed] at removing
  cases removing with
  | pending leads held change =>
    rw [change.links_iff]
    split
    · rename_i own
      rw [own, own_name leads]
      simp only [Option.some.injEq, exists_eq_left', Bool.true_eq_false, and_false, ne_eq,
        and_not_self]
    · exact (and_iff_left_of_imp (other_name leads ‹_›)).symm
  | freed leads unheld change =>
    rw [change.links_iff]
    split
    · rename_i own
      rw [own, own_name leads]
      simp only [reduceCtorEq, false_and, exists_false, ne_eq, and_not_self]
    · exact (and_iff_left_of_imp (other_name leads ‹_›)).symm
  | dangling listed unlinked => exact absurd unlinked (wellFormed.not_dangling listed)

end FileStore

/-! ### Events -/

/-- What a client can learn about names and references. -/
inductive FileEvent where
  /-- The name leads to the entry that the reference designates. -/
  | opened (name : FileName) (id : FileId)
  /-- The name leads nowhere any more. -/
  | removed (name : FileName)

/-- What a client learns from an operation and its answer. -/
def FileEvent.of? : FileAction × FileAnswer → Option FileEvent
  | (.create bytes _, .obtained handle _) =>
    (FileName.ofBytes bytes).toOption.map fun name => .opened name handle.id
  | (.openLinked bytes _, .obtained handle _) =>
    (FileName.ofBytes bytes).toOption.map fun name => .opened name handle.id
  | (.unlink bytes, .done) => (FileName.ofBytes bytes).toOption.map .removed
  | _ => none

/-- What an operation does to slots and names, by what the client learns from it. -/
inductive FileStore.Happens (store : FileStore) : Option FileEvent → FileStore → Prop where
  /-- No entry is made and no name is removed. -/
  | quiet {store' : FileStore} (settles : Settles store store') : Happens store none store'
  /-- A reference is given out once more for an entry that has a name. -/
  | reopened {name : FileName} {id : FileId} {store' : FileStore} (links : store.Links name id)
    (settles : Settles store store') : Happens store (some (.opened name id)) store'
  /-- An entry is made under a name that led nowhere. -/
  | made {name : FileName} {id : FileId} {store' : FileStore}
    (unlinked : ∀ other, ¬ store.Links name other) (takes : Takes store id store')
    (links_iff : ∀ name' other, store'.Links name' other ↔
      (name' = name ∧ other = id) ∨ store.Links name' other) :
    Happens store (some (.opened name id)) store'
  /-- A name is removed. -/
  | removed {name : FileName} {store' : FileStore} (carries : Carries store store')
    (links_iff : ∀ name' id, store'.Links name' id ↔ store.Links name' id ∧ name' ≠ name) :
    Happens store (some (.removed name)) store'

namespace FileStore

variable {store store' : FileStore} {name : FileName} {owner : Pid} {handle : FileHandle}

/-- A creation that gives no handle does nothing. -/
theorem Creating.eq_of_refused {creation : Creation}
    (creating : Creating store name owner store' creation) (refused : creation.handle? = none) :
    store' = store := by
  cases creating with
  | truncated => cases refused
  | created => cases refused
  | full => rfl

/-- A creation that empties a file gives a handle on it. -/
theorem Creating.fst_eq_of_linked {creation : Creation} {found : FileId × FileEntry}
    (creating : Creating store name owner store' creation)
    (leads : store.linked? name = some found) (gives : creation.handle? = some handle) :
    found.1 = handle.id := by
  cases creating with
  | truncated leads' =>
    cases gives
    rw [leads] at leads'
    cases leads'
    rfl
  | created unlinked =>
    rw [leads] at unlinked
    cases unlinked
  | full => cases gives

theorem happens_create (wellFormed : store.WellFormed) (numbered : store.Numbered)
    (indexed : (store.create name owner).1.Indexed)
    (gives : (store.create name owner).2.handle? = some handle) :
    store.Happens (some (.opened name handle.id)) (store.create name owner).1 := by
  have creating := creating wellFormed.arranged name owner
  cases leads : store.linked? name with
  | some found =>
    have same := creating.fst_eq_of_linked leads gives
    refine .reopened ?_ (settles_create wellFormed.arranged leads)
    exact same ▸ wellFormed.links_iff.2 ⟨found.2, leads⟩
  | none =>
    exact .made (wellFormed.not_links_of_unlinked leads)
      (takes_create wellFormed.arranged numbered indexed leads gives)
      fun _ _ => creating.links_iff_of_unlinked indexed leads gives

theorem happens_openLinked (wellFormed : store.WellFormed)
    (opened : store.openLinked name owner = some (store', handle)) :
    store.Happens (some (.opened name handle.id)) store' := by
  have opening := opening wellFormed.arranged name owner
  rw [opened] at opening
  cases opening with
  | opened leads change =>
    exact .reopened (wellFormed.links_iff.2 ⟨_, leads⟩)
      (settles_openLinked wellFormed.arranged opened)

end FileStore

namespace FileSession

open FileStore (Settles)

variable {session : FileSession}

theorem settles_withHandle {n : Nat} {use : FileHandle → FileSession × FileAnswer}
    (used : ∀ handle, Settles session.store (use handle).1.store) :
    Settles session.store (session.withHandle n use).1.store := by
  rw [withHandle]
  split
  · exact .refl _
  · exact used _

theorem settles_withFd {raw : Register} {use : Fd → FileSession × FileAnswer}
    (used : ∀ fd, Settles session.store (use fd).1.store) :
    Settles session.store (session.withFd raw use).1.store := by
  rw [withFd]
  split
  · exact .refl _
  · exact used _

theorem settles_withFile {t : Nat} {raw : Register}
    {use : Fd → FileHandle → FileSession × FileAnswer}
    (used : ∀ fd handle, Settles session.store (use fd handle).1.store) :
    Settles session.store (session.withFile t raw use).1.store := by
  refine settles_withFd fun fd => ?_
  split
  · exact .refl _
  · exact used _ _
  · exact .refl _

theorem settles_takeOut {t : Nat} {raw : Register}
    {use : FileSession → FileHandle → FileSession × FileAnswer}
    (used : ∀ table handle, Settles session.store (use (session.setTable t table) handle).1.store) :
    Settles session.store (session.takeOut t raw use).1.store := by
  refine settles_withFd fun fd => ?_
  split
  · exact .refl _
  · exact used _ _

/-- What is done under a name happens if the name keeps the naming rules; otherwise nothing does. -/
theorem happens_withName {bytes : Bytes} {action : FileAction}
    {use : FileName → FileSession × FileAnswer}
    (silent : ∀ error, FileEvent.of? (action, .refused error) = none)
    (used : ∀ name, FileName.ofBytes bytes = .ok name →
      session.store.Happens (FileEvent.of? (action, (use name).2)) (use name).1.store) :
    session.store.Happens (FileEvent.of? (action, (session.withName bytes use).2))
      (session.withName bytes use).1.store := by
  rw [withName]
  split
  · rw [silent]
    exact .quiet (.refl _)
  · exact used _ ‹_›

/-- Every operation makes slots and frees them as the store does. -/
theorem Stepping.grows {session' : FileSession} {action : FileAction}
    (stepping : session.Stepping action session') (regular : session.store.Regular) :
    session.store.Grows session'.store := by
  have released := FileStore.grows_releaseAll regular
  cases stepping with
  | idle => exact .refl _
  | created valid creating gives => exact creating.grows
  | opened valid opening => exact opening.grows
  | removed valid removing => exact removing.grows
  | read held => exact .refl _
  | written held => exact FileStore.grows_write _ _ _
  | readFd names bound => exact .refl _
  | writtenFd names bound => exact FileStore.grows_write _ _ _
  | dropped held => exact released _
  | overflowed held full => exact released _
  | installed held allocated => exact .refl _
  | taken => exact .refl _
  | closed => exact released _
  | cleared => exact released _

/-- No handle is lost or made where handles only move. -/
theorem length_openHandles_of_perm {session' : FileSession} {loose loose' : List FileHandle}
    (moved : ((session.allHandles loose).map FileHandle.link).Perm
      ((session'.allHandles loose').map FileHandle.link)) :
    session'.openHandles.length + loose'.length = session.openHandles.length + loose.length := by
  have length := moved.length_eq
  rw [List.length_map, List.length_map, allHandles, allHandles, List.length_append,
    List.length_append] at length
  exact length.symm

/-- Forgetting a handle that is held leaves one handle less. -/
theorem Orderly.length_openHandles_forget {n : Nat} {handle : FileHandle}
    (orderly : session.Orderly []) (held : session.handles.lookup n = some handle) :
    (session.forget n).openHandles.length + 1 = session.openHandles.length := by
  have moved := (perm_forget [] orderly.numbers_nodup held).map FileHandle.link
  exact length_openHandles_of_perm moved

/-- What leaves a table is no longer open. -/
theorem Orderly.length_openHandles_setTable {t : Nat} {table' : DescriptorTable}
    {loose : List FileHandle} (orderly : session.Orderly [])
    (moved : ((table'.handles ++ loose).map FileHandle.link).Perm
      ((session.table t).handles.map FileHandle.link)) :
    (session.setTable t table').openHandles.length + loose.length =
      session.openHandles.length := by
  rw [← List.append_nil (session.table t).handles] at moved
  exact length_openHandles_of_perm (perm_setTable orderly.tables_nodup moved)

/-- A handle that moves on in its table stays open. -/
theorem Orderly.length_openHandles_assign {t : Nat} {fd : Fd} {handle handle' : FileHandle}
    (orderly : session.Orderly []) (bound : (session.table t).resolve? fd = some (.file handle))
    (same : handle'.link = handle.link) :
    (session.setTable t ((session.table t).assign fd (some (.file handle')))).openHandles.length =
      session.openHandles.length := by
  have moved : ((((session.table t).assign fd (some (.file handle'))).handles ++ []).map
      FileHandle.link).Perm (((session.table t).handles ++ []).map FileHandle.link) :=
    perm_assign_moved bound same
  rw [List.append_nil (session.table t).handles] at moved
  exact orderly.length_openHandles_setTable moved

/-- A handle that is taken out of its table is no longer open. -/
theorem Orderly.length_openHandles_release {t : Nat} {fd : Fd} {handle : FileHandle}
    {table' : DescriptorTable} (orderly : session.Orderly [])
    (released : (session.table t).release fd = some (table', handle)) :
    (session.setTable t table').openHandles.length + 1 = session.openHandles.length := by
  have moved : (table'.handles ++ [handle]).Perm (session.table t).handles :=
    (List.perm_append_singleton _ _).trans (DescriptorTable.handles_release released).symm
  exact orderly.length_openHandles_setTable (moved.map _)

/-- An operation opens one handle at most. -/
theorem Stepping.length_openHandles_le {session' : FileSession} {action : FileAction}
    (stepping : session.Stepping action session') (orderly : session.Orderly []) :
    session'.openHandles.length ≤ session.openHandles.length + 1 := by
  cases stepping with
  | idle => exact Nat.le_succ _
  | created valid creating gives => exact Nat.le_refl _
  | opened valid opening => exact Nat.le_refl _
  | removed valid removing => exact Nat.le_succ _
  | read held =>
    have moved := orderly.perm_setHandle held rfl
    exact Nat.le_succ_of_le (Nat.le_of_eq (length_openHandles_of_perm moved))
  | written held =>
    have moved := orderly.perm_setHandle held rfl
    exact Nat.le_succ_of_le (Nat.le_of_eq (length_openHandles_of_perm moved))
  | readFd names bound =>
    exact Nat.le_succ_of_le (Nat.le_of_eq (orderly.length_openHandles_assign bound rfl))
  | writtenFd names bound =>
    exact Nat.le_succ_of_le (Nat.le_of_eq (orderly.length_openHandles_assign bound rfl))
  | dropped held =>
    have fewer := orderly.length_openHandles_forget held
    exact Nat.le_succ_of_le (Nat.le_of_succ_le (Nat.le_of_eq fewer))
  | overflowed held full =>
    have fewer := orderly.length_openHandles_forget held
    exact Nat.le_succ_of_le (Nat.le_of_succ_le (Nat.le_of_eq fewer))
  | @installed t n handle table' fd held allocated =>
    have entered : (table'.handles ++ []).Perm
        (((session.forget n).table t).handles ++ [handle]) := by
      rw [List.append_nil]
      exact (DescriptorTable.handles_allocate allocated).trans (List.perm_append_singleton _ _).symm
    have apart : (((session.forget n).allHandles [handle]).map FileHandle.link).Perm
        ((((session.forget n).setTable t table').allHandles []).map FileHandle.link) :=
      perm_setTable orderly.tables_nodup (entered.map _)
    have moved := (perm_forget [] orderly.numbers_nodup held).map FileHandle.link
    exact Nat.le_succ_of_le (Nat.le_of_eq (length_openHandles_of_perm (moved.trans apart)))
  | taken names released =>
    exact Nat.le_succ_of_le (Nat.le_of_eq (orderly.length_openHandles_release released))
  | closed names released =>
    have fewer := orderly.length_openHandles_release released
    exact Nat.le_succ_of_le (Nat.le_of_succ_le (Nat.le_of_eq fewer))
  | @cleared t =>
    have left : (DescriptorTable.cleared.handles ++ (session.table t).handles).Perm
        (session.table t).handles := by
      rw [DescriptorTable.handles_cleared, List.nil_append]
    have fewer := orderly.length_openHandles_setTable (left.map _)
    exact Nat.le_succ_of_le (Nat.le_of_add_right_le (Nat.le_of_eq fewer))

/-- The numbers of 32 bits suffice for as many operations. -/
theorem fitting_of_length_lt (capacity : Nat) {actions : List FileAction}
    (few : actions.length < wordCount) : Fitting capacity actions := by
  have bounded : ∀ actions : List FileAction,
      (reached capacity actions).store.arena.length ≤ actions.length ∧
        (reached capacity actions).openHandles.length ≤ actions.length := by
    intro actions
    induction actions using List.reverseRecOn with
    | nil => exact ⟨Nat.le_refl 0, Nat.le_refl 0⟩
    | append_singleton actions action ih =>
      have orderly := orderly_reached capacity actions
      have stepping := stepping_reached capacity actions action
      have slots := (stepping.grows orderly.regular).length_arena
      have handles := stepping.length_openHandles_le orderly
      rw [List.length_append, List.length_singleton]
      omega
  intro time
  obtain ⟨slots, handles⟩ := bounded (actions.take time)
  have taken := actions.length_take_le' time
  refine ⟨Nat.le_trans slots (by omega), fun id => ?_⟩
  refine Nat.lt_of_le_of_lt List.count_le_length ?_
  rw [List.length_map]
  omega

theorem happens_create (wellFormed : session.store.WellFormed)
    (numbered : session.store.Numbered) (bytes : Bytes) (owner : Pid)
    (indexed : (session.step (.create bytes owner)).1.store.Indexed) :
    session.store.Happens
      (FileEvent.of? (.create bytes owner, (session.step (.create bytes owner)).2))
      (session.step (.create bytes owner)).1.store := by
  refine happens_withName (fun _ => rfl) fun name valid => ?_
  simp only [step, withName, valid] at indexed
  cases gives : (session.store.create name owner).2.handle? with
  | none =>
    simp only [gives]
    have same := (FileStore.creating wellFormed.arranged name owner).eq_of_refused gives
    rw [same]
    exact .quiet (.refl _)
  | some handle =>
    simp only [gives, obtain, FileEvent.of?, valid, Except.toOption, Option.map_some] at indexed ⊢
    exact FileStore.happens_create wellFormed numbered indexed gives

variable (wellFormed : session.store.WellFormed)
include wellFormed

theorem happens_openLinked (bytes : Bytes) (owner : Pid) :
    session.store.Happens
      (FileEvent.of? (.openLinked bytes owner, (session.step (.openLinked bytes owner)).2))
      (session.step (.openLinked bytes owner)).1.store := by
  refine happens_withName (fun _ => rfl) fun name valid => ?_
  cases found : session.store.openLinked name owner with
  | none => exact .quiet (.refl _)
  | some opening =>
    simp only [opened, obtain, FileEvent.of?, valid, Except.toOption, Option.map_some]
    exact FileStore.happens_openLinked wellFormed found

theorem happens_unlink (bytes : Bytes) :
    session.store.Happens (FileEvent.of? (.unlink bytes, (session.step (.unlink bytes)).2))
      (session.step (.unlink bytes)).1.store := by
  refine happens_withName (fun _ => rfl) fun name valid => ?_
  cases found : session.store.unlink name with
  | none => exact .quiet (.refl _)
  | some removal =>
    simp only [FileEvent.of?, valid, Except.toOption, Option.map_some]
    exact .removed (FileStore.carries_unlink found) (FileStore.links_iff_of_unlink wellFormed found)

/-- Every operation does to slots and names what the client learns from it, as long as numbers do
not go round. -/
theorem happens (numbered : session.store.Numbered) (action : FileAction)
    (indexed : (session.step action).1.store.Indexed) :
    session.store.Happens (FileEvent.of? (action, (session.step action).2))
      (session.step action).1.store := by
  have released := FileStore.settles_releaseAll wellFormed.toRegular
  cases action with
  | create bytes owner => exact happens_create wellFormed numbered bytes owner indexed
  | openLinked bytes owner => exact happens_openLinked wellFormed bytes owner
  | unlink bytes => exact happens_unlink wellFormed bytes
  | contains bytes => exact happens_withName (fun _ => rfl) fun name valid => .quiet (.refl _)
  | stat bytes => exact happens_withName (fun _ => rfl) fun name valid => .quiet (.refl _)
  | isEmpty => exact .quiet (.refl _)
  | read n count => exact .quiet (settles_withHandle fun handle => .refl _)
  | write n data =>
    exact .quiet (settles_withHandle fun handle => FileStore.settles_write _ handle data)
  | info n => exact .quiet (settles_withHandle fun handle => .refl _)
  | drop n => exact .quiet (settles_withHandle fun handle => released [handle])
  | allocate t n =>
    refine .quiet (settles_withHandle fun handle => ?_)
    split
    · exact released [handle]
    · exact .refl _
  | resolve t raw =>
    refine .quiet (settles_withFd fun fd => ?_)
    split <;> exact .refl _
  | readFd t raw count => exact .quiet (settles_withFile fun fd handle => .refl _)
  | writeFd t raw data =>
    exact .quiet (settles_withFile fun fd handle => FileStore.settles_write _ handle data)
  | release t raw => exact .quiet (settles_takeOut fun table handle => .refl _)
  | close t raw => exact .quiet (settles_takeOut fun table handle => released [handle])
  | clear t => exact .quiet (released _)
  | table t => exact .quiet (.refl _)

end FileSession

end SyscallKernel
