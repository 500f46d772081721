import SyscallKernel.Proofs.File.Events
import SyscallKernel.Proofs.File.Patches

/-!
# Why contents change and cursors move

The contents of an entry change when a file is created under the name that leads to it, which
empties it, and when something is written through a handle on it. Writing nothing is writing all
the same: where the cursor has been left behind the end, the contents grow up to it. Every other
operation leaves all contents alone, and a cursor moves only when its own handle is used.
-/

namespace SyscallKernel

/-- Where a session keeps a handle. -/
inductive HandlePlace where
  /-- It is held under a number. -/
  | held (n : Nat)
  /-- It is in a table, behind a descriptor. -/
  | bound (table : Nat) (fd : Fd)
  deriving DecidableEq

namespace FileAction

/-- The place of the handle that an operation reads or writes through. -/
def through? : FileAction → Option HandlePlace
  | .read n _ => some (.held n)
  | .write n _ => some (.held n)
  | .readFd t raw _ => (Fd.ofRegister? raw).map (.bound t)
  | .writeFd t raw _ => (Fd.ofRegister? raw).map (.bound t)
  | _ => none

/-- The bytes that an operation writes. -/
def data? : FileAction → Option Bytes
  | .write _ data => some data
  | .writeFd _ _ data => some data
  | _ => none

/-- The name under which an operation creates a file. -/
def created? : FileAction → Option FileName
  | .create bytes _ => (FileName.ofBytes bytes).toOption
  | _ => none

/-- Whether an operation opens a file, be it a new one. -/
def opens : FileAction → Bool
  | .create _ _ => true
  | .openLinked _ _ => true
  | _ => false

end FileAction

namespace FileSession

variable {session session' : FileSession} {action : FileAction} {place : HandlePlace}
  {handle : FileHandle} {id : FileId} {entry entry' : FileEntry} {data : Bytes}

/-- The handle at a place. -/
def handleAt? (session : FileSession) : HandlePlace → Option FileHandle
  | .held n => session.handles.lookup n
  | .bound t fd => ((session.table t).resolve? fd).bind OpenFile.handle?

/-- The entry that an operation empties. -/
def emptied? (session : FileSession) (action : FileAction) : Option FileId :=
  action.created?.bind fun name => (session.store.linked? name).map Prod.fst

/-- The handle that an operation writes through, and the bytes. -/
def written? (session : FileSession) (action : FileAction) : Option (FileHandle × Bytes) :=
  action.data?.bind fun data =>
    (action.through?.bind session.handleAt?).map fun handle => (handle, data)

/-! ### Places after a change -/

theorem handleAt?_setHandle (session : FileSession) (n : Nat) (handle : FileHandle)
    (place : HandlePlace) :
    (session.setHandle n handle).handleAt? place =
      if place = .held n then some handle else session.handleAt? place := by
  cases place with
  | held m => simp only [handleAt?, lookup_setHandle, HandlePlace.held.injEq]
  | bound t fd =>
    rw [if_neg HandlePlace.noConfusion]
    rfl

theorem handleAt?_forget (session : FileSession) (n : Nat) (place : HandlePlace) :
    (session.forget n).handleAt? place =
      if place = .held n then none else session.handleAt? place := by
  cases place with
  | held m => simp only [handleAt?, lookup_forget, HandlePlace.held.injEq]
  | bound t fd =>
    rw [if_neg HandlePlace.noConfusion]
    rfl

theorem handleAt?_obtain (session : FileSession) (handle : FileHandle) (place : HandlePlace) :
    (session.obtain handle).1.handleAt? place =
      if place = .held session.nextHandle then some handle else session.handleAt? place := by
  cases place with
  | held m => simp only [handleAt?, lookup_obtain, HandlePlace.held.injEq]
  | bound t fd =>
    rw [if_neg HandlePlace.noConfusion]
    rfl

theorem handleAt?_assign (session : FileSession) (t : Nat) (fd : Fd) (file : Option OpenFile)
    (place : HandlePlace) :
    (session.setTable t ((session.table t).assign fd file)).handleAt? place =
      if place = .bound t fd then file.bind OpenFile.handle? else session.handleAt? place := by
  cases place with
  | held m =>
    rw [if_neg HandlePlace.noConfusion]
    rfl
  | bound u other =>
    rw [handleAt?, table_setTable]
    by_cases same : u = t
    · rw [if_pos same, DescriptorTable.resolve?_assign, handleAt?, same]
      by_cases own : fd = other
      · rw [if_pos own, if_pos (congrArg _ own.symm)]
      · rw [if_neg own, if_neg]
        intro equal
        cases equal
        exact own rfl
    · rw [if_neg same, if_neg]
      · rfl
      · intro equal
        cases equal
        exact same rfl

/-- The handle at a place is one of those that the session keeps. -/
theorem Orderly.mem_of_handleAt? (orderly : session.Orderly [])
    (there : session.handleAt? place = some handle) : handle ∈ session.openHandles := by
  cases place with
  | held n =>
    have front := perm_cons_filter_of_lookup orderly.numbers_nodup there
    exact List.mem_append_left _
      (List.mem_map.2 ⟨(n, handle), front.mem_iff.2 List.mem_cons_self, rfl⟩)
  | bound t fd =>
    obtain ⟨file, found, holds⟩ := Option.bind_eq_some_iff.1 there
    cases file with
    | stdin => cases holds
    | stdout => cases holds
    | file stored =>
      cases holds
      exact (openHandles_perm orderly.tables_nodup t).mem_iff.2
        (List.mem_append_left _ (DescriptorTable.mem_handles_of_resolve? found))

/-- The contents that the handle at a place shares are there. -/
theorem Orderly.shares_of_handleAt? (orderly : session.Orderly []) (place : HandlePlace)
    (there : session.handleAt? place = some handle) : handle.data < session.store.data.length :=
  orderly.shares handle (List.mem_append_left _ (orderly.mem_of_handleAt? there))

/-- No handle has the next number yet. -/
theorem Orderly.vacant_next (orderly : session.Orderly []) :
    session.handleAt? (.held session.nextHandle) = none := by
  rw [handleAt?, List.lookup_eq_none_iff]
  intro held member
  rw [bne_iff_ne]
  exact Nat.ne_of_gt (orderly.numbers_lt held member)

/-- Every handle that a session keeps designates a live entry and shares its contents. -/
def Attached (session : FileSession) : Prop :=
  ∀ place handle, session.handleAt? place = some handle →
    ∃ entry, session.store.entry? handle.id = some entry ∧ entry.data = handle.data

theorem Balanced.attached (balanced : session.Balanced []) : session.Attached := by
  intro place handle there
  have counted := balanced.accounts
  rw [allHandles_nil] at counted
  obtain ⟨entry, live, shared, -⟩ := counted.live
    (List.mem_map.2 ⟨handle, balanced.mem_of_handleAt? there, rfl⟩)
  exact ⟨entry, live, shared⟩

/-! ### Contents -/

theorem written?_write {n : Nat} (held : session.handles.lookup n = some handle) (data : Bytes) :
    session.written? (.write n data) = some (handle, data) := by
  rw [written?, FileAction.data?, Option.bind_some, FileAction.through?, Option.bind_some,
    handleAt?, held, Option.map_some]

theorem written?_writeFd {t : Nat} {raw : Register} {fd : Fd}
    (names : Fd.ofRegister? raw = some fd)
    (bound : (session.table t).resolve? fd = some (.file handle)) (data : Bytes) :
    session.written? (.writeFd t raw data) = some (handle, data) := by
  rw [written?, FileAction.data?, Option.bind_some, FileAction.through?, names, Option.map_some,
    Option.bind_some, handleAt?, bound, Option.bind_some, OpenFile.handle?, Option.map_some]

/-- An operation that writes writes through its handle. -/
theorem store_step_of_written (writes : session.written? action = some (handle, data)) :
    (session.step action).1.store = (session.store.write handle data).1 := by
  obtain ⟨bytes, carries, goes⟩ := Option.bind_eq_some_iff.1 writes
  obtain ⟨found, there, same⟩ := Option.map_eq_some_iff.1 goes
  cases same
  obtain ⟨place, through, there⟩ := Option.bind_eq_some_iff.1 there
  cases action with
  | write n bytes =>
    cases carries
    cases through
    have held : session.handles.lookup n = some handle := there
    rw [step, withHandle, held]
    rfl
  | writeFd t raw bytes =>
    cases carries
    obtain ⟨fd, names, rfl⟩ := Option.map_eq_some_iff.1 through
    obtain ⟨file, found, holds⟩ := Option.bind_eq_some_iff.1 there
    cases file with
    | stdin => cases holds
    | stdout => cases holds
    | file stored =>
      cases holds
      simp only [step, withFile, withFd, names, found]
      rfl
  | _ => cases carries

/-- What becomes of what a reference designates in an operation. -/
inductive Fares (session : FileSession) (action : FileAction) (session' : FileSession)
    (id : FileId) : Option FileEntry → Option FileEntry → Prop where
  /-- There was no entry, and there is none. -/
  | absent : Fares session action session' id none none
  /-- An entry is made, with contents of its own. -/
  | made {entry' : FileEntry} (data : entry'.data = session.store.data.length) :
    Fares session action session' id none (some entry')
  /-- The contents of the entry are left alone. -/
  | kept {entry entry' : FileEntry} (data : entry'.data = entry.data)
    (contents : session'.store.contents entry.data = session.store.contents entry.data) :
    Fares session action session' id (some entry) (some entry')
  /-- A file is created under its name, which empties it. -/
  | emptied {entry entry' : FileEntry} (data : entry'.data = entry.data)
    (empties : session.emptied? action = some id) :
    Fares session action session' id (some entry) (some entry')
  /-- It is written to through a handle. -/
  | written {entry entry' : FileEntry} {handle : FileHandle} {bytes : Bytes}
    (data : entry'.data = entry.data) (writes : session.written? action = some (handle, bytes))
    (own : handle.data = entry.data) :
    Fares session action session' id (some entry) (some entry')
  /-- It goes, because it was unlinked or the name that leads to it is being removed. -/
  | gone {entry : FileEntry} (unlinked : entry.unlinked = true ∨
      ∃ bytes name, action = .unlink bytes ∧ FileName.ofBytes bytes = .ok name ∧
        session.store.linked? name = some (id, entry)) :
    Fares session action session' id (some entry) none

/-- An entry whose contents are left alone may stay as it is. -/
theorem fares_same (contents : ∀ entry, session.store.entry? id = some entry →
      session'.store.contents entry.data = session.store.contents entry.data) :
    session.Fares action session' id (session.store.entry? id) (session.store.entry? id) := by
  cases live : session.store.entry? id with
  | none => exact .absent
  | some entry => exact .kept rfl (contents entry live)

/-- An entry is left alone if no contents change and the entry of another reference does. -/
theorem fares_of_change {changed : FileId} {new : Option FileEntry}
    {names : List (FileName × Nat)}
    (change : FileStore.Change session.store changed new names session'.store)
    (contents : ∀ entry, session.store.entry? id = some entry → id ≠ changed →
      session'.store.contents entry.data = session.store.contents entry.data)
    (own : id = changed → session.Fares action session' id (session.store.entry? id) new) :
    session.Fares action session' id (session.store.entry? id) (session'.store.entry? id) := by
  rw [change.entry?_eq]
  split
  · exact own ‹_›
  · rename_i other
    exact fares_same fun entry live => contents entry live other

/-- Releases leave contents alone, and take away only what was unlinked. -/
theorem fares_of_releaseAll (regular : session.store.Regular) {handles : List FileHandle}
    (released : session'.store = (session.store.releaseAll handles).1) :
    session.Fares action session' id (session.store.entry? id) (session'.store.entry? id) := by
  have releases := FileStore.released_releaseAll regular handles
  rw [← released] at releases
  rw [releases.entry?_eq]
  cases live : session.store.entry? id with
  | none =>
    rw [FileStore.afterReleases_none]
    exact .absent
  | some entry =>
    rcases FileStore.afterReleases_cases ((handles.map FileHandle.id).count id) entry with
      ⟨entry', left, data⟩ | ⟨gone, unlinked⟩
    · rw [left]
      refine .kept data ?_
      rw [FileStore.contents, FileStore.contents, releases.data]
    · rw [gone]
      exact .gone (.inl unlinked)

/-- A write changes the contents that its handle shares, and no entry. -/
theorem fares_of_write {own : FileHandle} {bytes : Bytes}
    (within : own.data < session.store.data.length)
    (writes : session.written? action = some (own, bytes))
    (written : session'.store = (session.store.write own bytes).1) :
    session.Fares action session' id (session.store.entry? id) (session'.store.entry? id) := by
  rw [written, FileStore.entry?_write]
  cases live : session.store.entry? id with
  | none => exact .absent
  | some entry =>
    by_cases shared : entry.data = own.data
    · exact .written rfl writes shared.symm
    · refine .kept rfl ?_
      rw [written, FileStore.contents_write within, if_neg shared]

/-- Whatever a reference designates fares in one of these ways. -/
theorem fares_of_stepping (orderly : session.Orderly [])
    (stepping : session.Stepping action session') (id : FileId) :
    session.Fares action session' id (session.store.entry? id) (session'.store.entry? id) := by
  have regular := orderly.regular
  have same : ∀ {store' : FileStore} (data : Nat), store'.data = session.store.data →
      store'.contents data = session.store.contents data := by
    intro store' data unchanged
    rw [FileStore.contents, FileStore.contents, unchanged]
  -- The entry that a name leads to is the one that is live under its reference.
  have live_of_linked : ∀ {name id' linked}, session.store.linked? name = some (id', linked) →
      id = id' → session.store.entry? id = some linked := by
    rintro name id' linked leads rfl
    exact FileStore.live_of_linked? leads
  cases stepping with
  | idle => exact fares_same fun _ _ => rfl
  | created valid creating gives =>
    cases creating with
    | @truncated id' linked _ leads change data =>
      refine fares_of_change change ?_ fun own => ?_
      · intro entry live other
        refine (FileStore.contents_of_emptied data entry.data).trans (if_neg ?_)
        exact fun shared => other (regular.data_inj live (FileStore.live_of_linked? leads) shared)
      · rw [live_of_linked leads own]
        refine .emptied rfl ?_
        rw [emptied?, FileAction.created?, valid, Except.toOption, Option.bind_some, leads,
          Option.map_some, own]
    | created unlinked room fresh issued_eq change data =>
      refine fares_of_change change
        (fun entry _ _ => FileStore.contents_of_made data entry.data) fun own => ?_
      rw [own, fresh]
      exact .made rfl
    | full => cases gives
  | opened valid opening =>
    cases opening with
    | opened leads change data =>
      refine fares_of_change change (fun entry _ _ => same entry.data data) fun own => ?_
      rw [live_of_linked leads own]
      exact .kept rfl (same _ data)
  | removed valid removing =>
    cases removing with
    | pending leads held change data =>
      refine fares_of_change change (fun entry _ _ => same entry.data data) fun own => ?_
      rw [live_of_linked leads own]
      exact .kept rfl (same _ data)
    | freed leads unheld change data =>
      refine fares_of_change change (fun entry _ _ => same entry.data data) fun own => ?_
      rw [live_of_linked leads own]
      exact .gone (.inr ⟨_, _, rfl, valid, own ▸ leads⟩)
    | dangling => exact fares_same fun _ _ => rfl
  | read held => exact fares_same fun _ _ => rfl
  | @written n handle bytes held =>
    exact fares_of_write (orderly.shares_of_handleAt? (.held n) held)
      (written?_write held bytes) rfl
  | readFd names bound => exact fares_same fun _ _ => rfl
  | @writtenFd t raw fd handle bytes names bound =>
    refine fares_of_write (orderly.shares_of_handleAt? (.bound t fd) ?_)
      (written?_writeFd names bound bytes) rfl
    exact congrArg (·.bind OpenFile.handle?) bound
  | dropped held => exact fares_of_releaseAll regular rfl
  | overflowed held full => exact fares_of_releaseAll regular rfl
  | installed held allocated => exact fares_same fun _ _ => rfl
  | taken names released => exact fares_same fun _ _ => rfl
  | closed names released => exact fares_of_releaseAll regular rfl
  | cleared => exact fares_of_releaseAll regular rfl

/-! ### Cursors -/

/-- Where the handle that an operation leaves at a place comes from. -/
inductive CameFrom (session : FileSession) (action : FileAction) (session' : FileSession)
    (place : HandlePlace) : FileHandle → Prop where
  /-- It was there and was not used. -/
  | stayed {handle : FileHandle} (there : session.handleAt? place = some handle)
    (unused : action.through? ≠ some place) : CameFrom session action session' place handle
  /-- It was there, and its own cursor moved on. -/
  | used {handle : FileHandle} {count : Nat} (there : session.handleAt? place = some handle)
    (through : action.through? = some place) :
    CameFrom session action session' place (handle.advance count)
  /-- It was at another place and is not there any more, and nothing was here. -/
  | moved {handle : FileHandle} {other : HandlePlace}
    (there : session.handleAt? other = some handle) (gone : session'.handleAt? other = none)
    (vacant : session.handleAt? place = none) (unused : action.through? = none) :
    CameFrom session action session' place handle
  /-- It was opened at the start of a file, and nothing was here. -/
  | opened {handle : FileHandle} (opens : action.opens = true) (start : handle.offset = 0)
    (vacant : session.handleAt? place = none) : CameFrom session action session' place handle

/-- A handle that is opened is held under the next number, and every other one stays. -/
theorem cameFrom_of_obtain {opened : FileHandle} (orderly : session.Orderly [])
    (unused : action.through? = none) (opens : action.opens = true) (start : opened.offset = 0)
    (there : (session.obtain opened).1.handleAt? place = some handle) :
    session.CameFrom action session' place handle := by
  rw [handleAt?_obtain] at there
  split at there
  · rename_i next
    cases there
    exact .opened opens start (next ▸ orderly.vacant_next)
  · refine .stayed there ?_
    rw [unused]
    exact nofun

/-- A held handle that is used moves on, and every other handle stays. -/
theorem cameFrom_of_setHandle {n count : Nat} {own : FileHandle}
    (held : session.handles.lookup n = some own) (through : action.through? = some (.held n))
    (there : (session.setHandle n (own.advance count)).handleAt? place = some handle) :
    session.CameFrom action session' place handle := by
  rw [handleAt?_setHandle] at there
  split at there
  · rename_i same
    cases there
    exact .used (same ▸ held) (same ▸ through)
  · rename_i other
    exact .stayed there fun same => other (Option.some.inj (same.symm.trans through))

/-- A handle in a table that is used moves on, and every other handle stays. -/
theorem cameFrom_of_moved {t count : Nat} {fd : Fd} {own : FileHandle}
    (bound : (session.table t).resolve? fd = some (.file own))
    (through : action.through? = some (.bound t fd))
    (there : (session.setTable t ((session.table t).assign fd
      (some (.file (own.advance count))))).handleAt? place = some handle) :
    session.CameFrom action session' place handle := by
  rw [handleAt?_assign] at there
  split at there
  · rename_i same
    cases there
    subst same
    exact .used (congrArg (·.bind OpenFile.handle?) bound) through
  · rename_i other
    exact .stayed there fun same => other (Option.some.inj (same.symm.trans through))

/-- A handle that is left when one is held no longer stays where it was. -/
theorem cameFrom_of_forget {n : Nat} (unused : action.through? = none)
    (there : (session.forget n).handleAt? place = some handle) :
    session.CameFrom action session' place handle := by
  rw [handleAt?_forget] at there
  split at there
  · cases there
  · refine .stayed there ?_
    rw [unused]
    exact nofun

/-- A handle that is left when one is taken out of a table stays where it was. -/
theorem cameFrom_of_emptied {t : Nat} {fd : Fd} (unused : action.through? = none)
    (there : (session.setTable t ((session.table t).assign fd none)).handleAt? place =
      some handle) :
    session.CameFrom action session' place handle := by
  rw [handleAt?_assign] at there
  split at there
  · cases there
  · refine .stayed there ?_
    rw [unused]
    exact nofun

/-- Every handle that an operation leaves anywhere comes from somewhere. -/
theorem cameFrom_of_stepping (orderly : session.Orderly [])
    (stepping : session.Stepping action session') (there : session'.handleAt? place = some handle) :
    session.CameFrom action session' place handle := by
  cases stepping with
  | idle =>
    by_cases through : action.through? = some place
    · exact @CameFrom.used _ _ _ _ handle 0 there through
    · exact .stayed there through
  | created valid creating gives =>
    refine cameFrom_of_obtain orderly rfl rfl ?_ there
    cases creating with
    | truncated => cases gives; rfl
    | created => cases gives; rfl
    | full => cases gives
  | opened valid opening =>
    refine cameFrom_of_obtain orderly rfl rfl ?_ there
    cases opening
    rfl
  | removed valid removing => exact .stayed there nofun
  | read held => exact cameFrom_of_setHandle held rfl there
  | written held => exact cameFrom_of_setHandle held rfl there
  | readFd names bound =>
    refine cameFrom_of_moved bound ?_ there
    rw [FileAction.through?, names, Option.map_some]
  | writtenFd names bound =>
    refine cameFrom_of_moved bound ?_ there
    rw [FileAction.through?, names, Option.map_some]
  | dropped held => exact cameFrom_of_forget rfl there
  | overflowed held full => exact cameFrom_of_forget rfl there
  | @installed t n own table' fd held allocated =>
    obtain ⟨free, rfl⟩ := DescriptorTable.allocate_eq_some_iff.1 allocated
    have vacant := (DescriptorTable.resolve?_of_lowestFree? free).2
    have before : session.handleAt? (.held n) = some own := held
    have after : ∀ place, ((session.forget n).setTable t
        ((session.table t).assign fd (some (.file own)))).handleAt? place =
          if place = .bound t fd then some own else (session.forget n).handleAt? place :=
      (session.forget n).handleAt?_assign t fd (some (.file own))
    rw [after] at there
    split at there
    · rename_i same
      cases there
      subst same
      refine .moved before ?_ (congrArg (·.bind OpenFile.handle?) vacant) rfl
      rw [after, if_neg HandlePlace.noConfusion, handleAt?_forget, if_pos rfl]
    · exact cameFrom_of_forget rfl there
  | @taken t raw fd own table' names released =>
    obtain ⟨-, bound, rfl⟩ := DescriptorTable.release_eq_some_iff.1 released
    have before : session.handleAt? (.bound t fd) = some own :=
      congrArg (·.bind OpenFile.handle?) bound
    rw [handleAt?_obtain] at there
    split at there
    · rename_i next
      cases there
      subst next
      refine .moved before ?_ orderly.vacant_next rfl
      rw [handleAt?_obtain, if_neg HandlePlace.noConfusion, handleAt?_assign, if_pos rfl,
        Option.bind_none]
    · exact cameFrom_of_emptied rfl there
  | closed names released =>
    obtain ⟨-, bound, rfl⟩ := DescriptorTable.release_eq_some_iff.1 released
    exact cameFrom_of_emptied rfl there
  | @cleared t =>
    refine .stayed ?_ nofun
    cases place with
    | held n => exact there
    | bound u fd =>
      rw [handleAt?, table_setTable] at there
      split at there
      · rw [DescriptorTable.resolve?_cleared] at there
        cases there
      · exact there

/-! ### Reasons -/

/-- An operation that changes contents and cursors for the reasons there are, and for no other. -/
structure ChangesDuly (session : FileSession) (action : FileAction) (session' : FileSession) :
    Prop where
  /-- Creating a file under the name of an entry empties it. -/
  emptied : ∀ id, session.emptied? action = some id →
    ∃ entry, session'.store.entry? id = some entry ∧ session'.store.contents entry.data = []
  /-- Writing through a handle puts the bytes into the contents that it shares. Where there are
  none, the contents stay as they are if the cursor is not behind their end, and otherwise grow
  up to it. -/
  written : ∀ handle bytes, session.written? action = some (handle, bytes) →
    Contents.Patched (session.store.contents handle.data) handle.offset bytes
        (session'.store.contents handle.data) ∧
      (bytes = [] →
        (session'.store.contents handle.data = session.store.contents handle.data ↔
          handle.offset ≤ (session.store.contents handle.data).length))
  /-- An entry shares the same contents as long as it lives, and unless it is emptied or written
  to through a handle that shares them, they stay as they are. -/
  kept : ∀ id entry entry', session.store.entry? id = some entry →
    session'.store.entry? id = some entry' → entry'.data = entry.data ∧
      (session.emptied? action ≠ some id →
        (∀ handle bytes, session.written? action = some (handle, bytes) →
          handle.data ≠ entry.data) →
        session'.store.contents entry'.data = session.store.contents entry.data)
  /-- An entry goes only if it was unlinked or if the name that leads to it is being removed. -/
  lost : ∀ id entry, session.store.entry? id = some entry → session'.store.entry? id = none →
    entry.unlinked = true ∨
      ∃ bytes name, action = .unlink bytes ∧ FileName.ofBytes bytes = .ok name ∧
        session.store.linked? name = some (id, entry)
  /-- No cursor moves but the one that is read or written with. -/
  cursors : ∀ place handle, session'.handleAt? place = some handle →
    session.CameFrom action session' place handle

theorem changesDuly_of_orderly (orderly : session.Orderly []) (action : FileAction) :
    session.ChangesDuly action (session.step action).1 where
  emptied id empties := by
    obtain ⟨name, creates, found⟩ := Option.bind_eq_some_iff.1 empties
    obtain ⟨⟨id', entry⟩, leads, rfl⟩ := Option.map_eq_some_iff.1 found
    cases action with
    | create bytes owner =>
      have valid : FileName.ofBytes bytes = .ok name := by
        rw [FileAction.created?] at creates
        cases result : FileName.ofBytes bytes with
        | error => rw [result] at creates; cases creates
        | ok found => rw [result] at creates; cases creates; rfl
      have live := FileStore.live_of_linked? leads
      simp only [step, withName, valid, FileStore.create, leads]
      exact ⟨_, (FileStore.entry?_modifyEntry live _ id').trans (if_pos rfl),
        (FileStore.contents_of_emptied rfl entry.data).trans (if_pos rfl)⟩
    | _ => cases creates
  written handle bytes writes := by
    obtain ⟨place, there⟩ : ∃ place, session.handleAt? place = some handle := by
      obtain ⟨bytes, -, goes⟩ := Option.bind_eq_some_iff.1 writes
      obtain ⟨found, there, same⟩ := Option.map_eq_some_iff.1 goes
      cases same
      obtain ⟨place, -, there⟩ := Option.bind_eq_some_iff.1 there
      exact ⟨place, there⟩
    have patched := Contents.patched_writeAt (session.store.contents handle.data) handle.offset
      bytes
    rw [store_step_of_written writes,
      FileStore.contents_write (orderly.shares_of_handleAt? place there), if_pos rfl]
    refine ⟨patched, ?_⟩
    rintro rfl
    exact patched.eq_iff_of_nil
  kept id entry entry' live live' := by
    have fares := fares_of_stepping orderly (stepping orderly.regular.arranged action) id
    rw [live, live'] at fares
    cases fares with
    | kept data contents => exact ⟨data, fun _ _ => data ▸ contents⟩
    | emptied data empties => exact ⟨data, fun full => absurd empties full⟩
    | written data writes own => exact ⟨data, fun _ spared => absurd own (spared _ _ writes)⟩
  lost id entry live gone := by
    have fares := fares_of_stepping orderly (stepping orderly.regular.arranged action) id
    rw [live, gone] at fares
    cases fares with
    | gone unlinked => exact unlinked
  cursors _ _ there :=
    cameFrom_of_stepping orderly (stepping orderly.regular.arranged action) there

/-- An operation between states in which every handle shares the contents of the live entry that
it designates. -/
structure StaysAttached (session session' : FileSession) : Prop where
  /-- That is so before. -/
  before : session.Attached
  /-- It is so after. -/
  after : session'.Attached
  /-- No handle is left on an entry that goes. -/
  lost : ∀ id entry, session.store.entry? id = some entry → session'.store.entry? id = none →
    ∀ place handle, session'.handleAt? place = some handle →
      handle.id ≠ id ∧ handle.data ≠ entry.data

theorem staysAttached_of_attached (orderly : session.Orderly []) (before : session.Attached)
    (stepping : session.Stepping action session') (after : session'.Attached) :
    session.StaysAttached session' where
  before := before
  after := after
  lost id entry live gone place handle there := by
    obtain ⟨entry', live', shared⟩ := after place handle there
    have apart : handle.id ≠ id := by
      rintro rfl
      rw [gone] at live'
      cases live'
    refine ⟨apart, fun own => apart ?_⟩
    -- The entry that is left was there before, with the same contents, or has new ones.
    have fares := fares_of_stepping orderly stepping handle.id
    rw [live'] at fares
    have within := orderly.regular.data_lt live
    generalize old : session.store.entry? handle.id = earlier at fares
    cases fares with
    | made data => omega
    | kept data => exact orderly.regular.data_inj old live (by omega)
    | emptied data => exact orderly.regular.data_inj old live (by omega)
    | written data => exact orderly.regular.data_inj old live (by omega)

/-- Whatever was done before, every operation changes contents and cursors for a reason, and as
long as the numbers of 32 bits suffice every handle keeps the entry that it designates. -/
theorem changesDuly (capacity : Nat) (actions : List FileAction) (action : FileAction) :
    (reached capacity actions).ChangesDuly action ((reached capacity actions).step action).1 ∧
      (Fitting capacity (actions ++ [action]) →
        (reached capacity actions).StaysAttached ((reached capacity actions).step action).1) := by
  have orderly := orderly_reached capacity actions
  refine ⟨changesDuly_of_orderly orderly action, fun fitting => ?_⟩
  have after := (balanced_reached fitting).attached
  rw [reached_append] at after
  exact staysAttached_of_attached orderly (balanced_reached fitting.before).attached
    (stepping orderly.regular.arranged action) after

/-- A file that was unlinked under its handle is written to while another one has its name. -/
theorem changesDuly_of_unlinked_file :
    let actions : List FileAction :=
      [.create [122] ⟨1⟩, .write 0 [97], .unlink [122], .create [122] ⟨2⟩]
    Fitting 2 (actions ++ [.write 0 [98]]) ∧
      (reached 2 actions).written? (.write 0 [98]) =
        some (⟨⟨0, 0⟩, 0, 1, .readWrite, ⟨1⟩⟩, [98]) ∧
      (reached 2 (actions ++ [.write 0 [98]])).store.data = [[97, 98], []] ∧
      (reached 2 actions).ChangesDuly (.write 0 [98])
        ((reached 2 actions).step (.write 0 [98])).1 ∧
      (reached 2 actions).StaysAttached ((reached 2 actions).step (.write 0 [98])).1 := by
  intro actions
  have fitting : Fitting 2 (actions ++ [.write 0 [98]]) :=
    fitting_of_length_lt 2 (by decide : 5 < wordCount)
  have changes := changesDuly 2 actions (.write 0 [98])
  exact ⟨fitting, by decide +kernel, by decide +kernel, changes.1, changes.2 fitting⟩

/-- A file that was emptied grows up to a cursor behind its end when nothing is written there. -/
example (owner : Pid) :
    (Session.transcript step (new 1)
      [.create [122] owner, .write 0 [97, 98, 99, 100], .create [122] owner, .write 0 [],
        .stat [122]]).getLast?.map Prod.snd = some (.stat (some ⟨4, 2⟩)) := rfl

end FileSession

end SyscallKernel
