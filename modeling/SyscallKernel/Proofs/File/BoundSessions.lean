import SyscallKernel.Proofs.File.Bindings
import SyscallKernel.Proofs.File.Reasons

/-!
# Sessions whose tables are partial maps

A file session cannot be told apart from one whose descriptor tables are partial maps: handles go
to the least descriptor that is not bound, come back as they are by then, and are released once
when there is no descriptor for them or when their table is cleared.
-/

namespace SyscallKernel

/-- What is seen of an answer. -/
inductive BoundAnswer where
  /-- Everything, if it is not about a whole table. -/
  | plain (answer : FileAnswer)
  /-- How many descriptors are bound, whether one is not, and what each of them refers to. -/
  | map (size : Nat) (free : Bool) (file? : Fd → Option OpenFile)

/-- What is seen of an answer of a file session. -/
def FileAnswer.seen : FileAnswer → BoundAnswer
  | .table slots => .map slots.openCount slots.hasFree slots.resolve?
  | answer => .plain answer

/-- A session whose tables are partial maps. -/
structure BoundSession where
  /-- The store and the handles that are held. There are no tables in it. -/
  rest : FileSession
  /-- The partial maps, by number. -/
  map : Nat → Bindings

namespace BoundSession

/-- A session on an empty store, with nothing bound. -/
def new (capacity : Nat) : BoundSession := ⟨.new capacity, fun _ => .new⟩

/-- The session with a partial map changed. -/
def setMap (session : BoundSession) (t : Nat) (map : Bindings) : BoundSession :=
  { session with map := fun u => if u = t then map else session.map u }

/-- Does something with the handle that a descriptor is bound to. -/
def withFile (session : BoundSession) (t : Nat) (raw : Register)
    (use : Fd → FileHandle → BoundSession × BoundAnswer) : BoundSession × BoundAnswer :=
  match Fd.ofRegister? raw with
  | none => (session, .plain .noDescriptor)
  | some fd =>
    match (session.map t).file? fd with
    | none => (session, .plain (.refused .invalidDescriptor))
    | some (.file handle) => use fd handle
    | some _ => (session, .plain .console)

/-- Takes the handle away that a descriptor is bound to. -/
def takeOut (session : BoundSession) (t : Nat) (raw : Register)
    (use : BoundSession → FileHandle → BoundSession × BoundAnswer) : BoundSession × BoundAnswer :=
  match Fd.ofRegister? raw with
  | none => (session, .plain .noDescriptor)
  | some fd =>
    match (session.map t).release fd with
    | none => (session, .plain (.refused .invalidDescriptor))
    | some (map, handle) => use (session.setMap t map) handle

/-- The session after an operation, and what is seen of the answer. Operations that are not about
a table are those of a file session. -/
def step (session : BoundSession) : FileAction → BoundSession × BoundAnswer
  | .allocate t n =>
    match session.rest.handles.lookup n with
    | none => (session, .plain .noHandle)
    | some handle =>
      let rest := session.rest.forget n
      match (session.map t).allocate handle with
      | none => ({ session with rest := rest.releaseAll [handle] }, .plain (.refused .tableFull))
      | some (map, fd) => ({ session with rest }.setMap t map, .plain (.installed fd))
  | .resolve t raw =>
    match Fd.ofRegister? raw with
    | none => (session, .plain .noDescriptor)
    | some fd =>
      match (session.map t).file? fd with
      | none => (session, .plain (.refused .invalidDescriptor))
      | some file => (session, .plain (.resolved file))
  | .readFd t raw count =>
    session.withFile t raw fun fd handle =>
      let (data, handle) := session.rest.store.read handle count
      (session.setMap t ((session.map t).bind fd (some handle)), .plain (.bytes data handle.offset))
  | .writeFd t raw data =>
    session.withFile t raw fun fd handle =>
      let (store, handle) := session.rest.store.write handle data
      ({ session with rest := { session.rest with store } }.setMap t
          ((session.map t).bind fd (some handle)),
        .plain (.written data.length handle.offset))
  | .release t raw =>
    session.takeOut t raw fun session handle =>
      let (rest, answer) := session.rest.obtain handle
      ({ session with rest }, .plain answer)
  | .close t raw =>
    session.takeOut t raw fun session handle =>
      ({ session with rest := session.rest.releaseAll [handle] }, .plain .done)
  | .clear t =>
    ({ session with rest := session.rest.releaseAll (session.map t).handles }.setMap t .cleared,
      .plain .done)
  | .table t =>
    (session, .map (session.map t).size (!(session.map t).unbound.isEmpty) (session.map t).file?)
  | action =>
    let (rest, answer) := session.rest.step action
    ({ session with rest }, .plain answer)

end BoundSession

namespace FileSession

variable {session session' : FileSession} {bound : BoundSession} {action : FileAction} {t : Nat}
  {raw : Register}

/-- A session without its tables. -/
def withoutTables (session : FileSession) : FileSession := { session with tables := [] }

/-- What an operation comes to that has nothing to do with tables. -/
structure Untabled (session : FileSession) (result result' : FileSession × FileAnswer) :
    Prop where
  /-- It comes to the same without them. -/
  same : result' = (result.1.withoutTables, result.2)
  /-- It leaves them alone. -/
  tables : result.1.tables = session.tables
  /-- It is not answered by one. -/
  plain : result.2.seen = .plain result.2

theorem untabled_withName {bytes : Bytes} {use use' : FileName → FileSession × FileAnswer}
    (used : ∀ name, session.Untabled (use name) (use' name)) :
    session.Untabled (session.withName bytes use) (session.withoutTables.withName bytes use') := by
  rw [withName, withName]
  split
  · exact ⟨rfl, rfl, rfl⟩
  · exact used _

theorem untabled_withHandle {n : Nat} {use use' : FileHandle → FileSession × FileAnswer}
    (used : ∀ handle, session.Untabled (use handle) (use' handle)) :
    session.Untabled (session.withHandle n use) (session.withoutTables.withHandle n use') := by
  have held : session.withoutTables.handles = session.handles := rfl
  rw [withHandle, withHandle, held]
  split
  · exact ⟨rfl, rfl, rfl⟩
  · exact used _

/-- A session that matches one whose tables are partial maps. -/
structure Matches (session : FileSession) (bound : BoundSession) : Prop where
  /-- The stores and the held handles are the same. -/
  rest : bound.rest = session.withoutTables
  /-- The tables refer to what the partial maps say. -/
  shows : ∀ t, (session.table t).Shows (bound.map t)

/-- Sessions that go on matching each other and are answered alike. -/
def Follows (result : FileSession × FileAnswer) (result' : BoundSession × BoundAnswer) : Prop :=
  result.1.Matches result'.1 ∧ result.2.seen = result'.2

namespace Matches

theorem new (capacity : Nat) : (FileSession.new capacity).Matches (.new capacity) :=
  ⟨rfl, fun _ => DescriptorTable.shows_new⟩

/-- The tables stay as they are. -/
theorem withRest (aligned : session.Matches bound) (tables : session'.tables = session.tables) :
    session'.Matches { bound with rest := session'.withoutTables } := by
  refine ⟨rfl, fun t => ?_⟩
  rw [FileSession.table, tables]
  exact aligned.shows t

/-- A table changes as its partial map does. -/
theorem setTable {table' : DescriptorTable} {map' : Bindings} (aligned : session.Matches bound)
    (shows : table'.Shows map') : (session.setTable t table').Matches (bound.setMap t map') := by
  refine ⟨aligned.rest, fun u => ?_⟩
  have changed : (bound.setMap t map').map u = if u = t then map' else bound.map u := rfl
  rw [table_setTable, changed]
  split
  · exact shows
  · exact aligned.shows u

/-- An operation that has nothing to do with tables is followed. -/
theorem untabled (aligned : session.Matches bound)
    (delegated : bound.step action =
      ({ bound with rest := (bound.rest.step action).1 }, .plain (bound.rest.step action).2))
    (untabled : session.Untabled (session.step action) (session.withoutTables.step action)) :
    Follows (session.step action) (bound.step action) := by
  rw [delegated, aligned.rest, untabled.same]
  exact ⟨aligned.withRest untabled.tables, untabled.plain⟩

/-- What is done with the handle behind a descriptor is followed if it is so for every handle. -/
theorem withFile (aligned : session.Matches bound)
    {use : Fd → FileHandle → FileSession × FileAnswer}
    {use' : Fd → FileHandle → BoundSession × BoundAnswer}
    (used : ∀ fd handle, (session.table t).resolve? fd = some (.file handle) →
      Follows (use fd handle) (use' fd handle)) :
    Follows (session.withFile t raw use) (bound.withFile t raw use') := by
  rw [FileSession.withFile, withFd, BoundSession.withFile]
  cases Fd.ofRegister? raw with
  | none => exact ⟨aligned, rfl⟩
  | some fd =>
    simp only [← aligned.shows t fd]
    cases found : (session.table t).resolve? fd with
    | none => exact ⟨aligned, rfl⟩
    | some file =>
      cases file with
      | stdin => exact ⟨aligned, rfl⟩
      | stdout => exact ⟨aligned, rfl⟩
      | file handle => exact used fd handle found

/-- What is done with a handle taken out of a table is followed if it is so for every handle. -/
theorem takeOut (aligned : session.Matches bound)
    {use : FileSession → FileHandle → FileSession × FileAnswer}
    {use' : BoundSession → FileHandle → BoundSession × BoundAnswer}
    (used : ∀ session' bound' handle, Matches session' bound' →
      Follows (use session' handle) (use' bound' handle)) :
    Follows (session.takeOut t raw use) (bound.takeOut t raw use') := by
  rw [FileSession.takeOut, withFd, BoundSession.takeOut]
  cases Fd.ofRegister? raw with
  | none => exact ⟨aligned, rfl⟩
  | some fd =>
    rcases (aligned.shows t).release fd with ⟨refused, refused'⟩ | ⟨handle, user, taken, taken'⟩
    · simp only [refused, refused']
      exact ⟨aligned, rfl⟩
    · simp only [taken, taken']
      exact used _ _ handle (aligned.setTable ((aligned.shows t).assign user none))

/-- A handle behind a descriptor moves on as the handle does that the descriptor is bound to. -/
theorem moved (aligned : session.Matches bound) {fd : Fd} {handle : FileHandle}
    (found : (session.table t).resolve? fd = some (.file handle)) (handle' : FileHandle) :
    (session.setTable t ((session.table t).assign fd (some (.file handle')))).Matches
      (bound.setMap t ((bound.map t).bind fd (some handle'))) := by
  refine aligned.setTable ((aligned.shows t).assign ?_ (some handle'))
  refine Bool.eq_false_iff.2 fun reserved => ?_
  exact (aligned.shows t).resolve?_reserved reserved found

/-- Every operation is followed. -/
theorem step (aligned : session.Matches bound) (action : FileAction) :
    Follows (session.step action) (bound.step action) := by
  have store : bound.rest.store = session.store := by
    rw [aligned.rest]
    rfl
  cases action with
  | create bytes owner =>
    refine aligned.untabled rfl (untabled_withName fun name => ?_)
    have same : session.withoutTables.store = session.store := rfl
    rw [same]
    generalize session.store.create name owner = result
    obtain ⟨store', creation⟩ := result
    cases gives : creation.handle? with
    | none =>
      simp only [gives]
      exact ⟨rfl, rfl, rfl⟩
    | some handle =>
      simp only [gives]
      exact ⟨rfl, rfl, rfl⟩
  | openLinked bytes owner =>
    refine aligned.untabled rfl (untabled_withName fun name => ?_)
    have same : session.withoutTables.store = session.store := rfl
    rw [same]
    cases session.store.openLinked name owner with
    | none => exact ⟨rfl, rfl, rfl⟩
    | some found => exact ⟨rfl, rfl, rfl⟩
  | unlink bytes =>
    refine aligned.untabled rfl (untabled_withName fun name => ?_)
    have same : session.withoutTables.store = session.store := rfl
    rw [same]
    cases session.store.unlink name with
    | none => exact ⟨rfl, rfl, rfl⟩
    | some found => exact ⟨rfl, rfl, rfl⟩
  | contains bytes => exact aligned.untabled rfl (untabled_withName fun name => ⟨rfl, rfl, rfl⟩)
  | stat bytes => exact aligned.untabled rfl (untabled_withName fun name => ⟨rfl, rfl, rfl⟩)
  | isEmpty => exact aligned.untabled rfl ⟨rfl, rfl, rfl⟩
  | read n count =>
    exact aligned.untabled rfl (untabled_withHandle fun handle => ⟨rfl, rfl, rfl⟩)
  | write n data =>
    exact aligned.untabled rfl (untabled_withHandle fun handle => ⟨rfl, rfl, rfl⟩)
  | info n => exact aligned.untabled rfl (untabled_withHandle fun handle => ⟨rfl, rfl, rfl⟩)
  | drop n => exact aligned.untabled rfl (untabled_withHandle fun handle => ⟨rfl, rfl, rfl⟩)
  | allocate t n =>
    have held : bound.rest.handles = session.handles := by
      rw [aligned.rest]
      rfl
    rw [FileSession.step, withHandle, BoundSession.step, held]
    cases session.handles.lookup n with
    | none => exact ⟨aligned, rfl⟩
    | some handle =>
      have forgotten : bound.rest.forget n = (session.forget n).withoutTables := by
        rw [aligned.rest]
        rfl
      rcases (aligned.shows t).allocate handle with ⟨full, full'⟩ | ⟨fd, user, installed, installed'⟩
      · simp only [full, full', forgotten]
        exact ⟨aligned.withRest rfl, rfl⟩
      · simp only [installed, installed', forgotten]
        have aside : (session.forget n).Matches
            { bound with rest := (session.forget n).withoutTables } := aligned.withRest rfl
        exact ⟨aside.setTable ((aligned.shows t).assign user (some handle)), rfl⟩
  | resolve t raw =>
    rw [FileSession.step, withFd, BoundSession.step]
    cases Fd.ofRegister? raw with
    | none => exact ⟨aligned, rfl⟩
    | some fd =>
      simp only [← aligned.shows t fd]
      cases (session.table t).resolve? fd with
      | none => exact ⟨aligned, rfl⟩
      | some file => exact ⟨aligned, rfl⟩
  | readFd t raw count =>
    refine aligned.withFile fun fd handle found => ?_
    rw [store]
    exact ⟨aligned.moved found _, rfl⟩
  | writeFd t raw data =>
    refine aligned.withFile fun fd handle found => ?_
    have aside : ({ session with store := (session.store.write handle data).1 } : FileSession).Matches
        { bound with rest := { bound.rest with store := (session.store.write handle data).1 } } := by
      rw [aligned.rest]
      exact aligned.withRest rfl
    rw [store]
    exact ⟨aside.moved found _, rfl⟩
  | release t raw =>
    refine aligned.takeOut fun session' bound' handle aligned' => ?_
    rw [aligned'.rest]
    exact ⟨aligned'.withRest rfl, rfl⟩
  | close t raw =>
    refine aligned.takeOut fun session' bound' handle aligned' => ?_
    rw [aligned'.rest]
    exact ⟨aligned'.withRest rfl, rfl⟩
  | clear t =>
    have handles := (aligned.shows t).handles_eq
    rw [FileSession.step, BoundSession.step, ← handles, aligned.rest]
    have aside : (session.releaseAll (session.table t).handles).Matches
        { bound with rest := session.withoutTables.releaseAll (session.table t).handles } :=
      aligned.withRest rfl
    exact ⟨aside.setTable DescriptorTable.shows_cleared, rfl⟩
  | table t =>
    refine ⟨aligned, ?_⟩
    have shows := aligned.shows t
    rw [FileSession.step, FileAnswer.seen, shows.openCount_eq, shows.hasFree_eq, funext shows]
    rfl

end Matches

/-- The same session with partial maps for tables. -/
abbrev reachedBound (capacity : Nat) (actions : List FileAction) : BoundSession :=
  Session.after BoundSession.step (.new capacity) actions

/-- A session whose tables act as partial maps that are filled from the lowest descriptor on. -/
structure ActsBound (capacity : Nat) (actions : List FileAction) : Prop where
  /-- Every operation was answered as the partial maps have it. -/
  answers : (Session.transcript step (new capacity) actions).map
      (fun entry => (entry.1, entry.2.seen)) =
    Session.transcript BoundSession.step (.new capacity) actions
  /-- The tables refer to what the partial maps say, and the rest of both sessions is the same. -/
  aligned : (reached capacity actions).Matches (reachedBound capacity actions)
  /-- A handle goes into the lowest empty slot. -/
  installs : ∀ t handle table' fd,
    ((reached capacity actions).table t).allocate handle = some (table', fd) →
    ((reached capacity actions).table t).Installs handle table' fd
  /-- It is refused exactly if all fourteen slots are taken. -/
  full_iff : ∀ t handle, ((reached capacity actions).table t).allocate handle = none ↔
    ((reached capacity actions).table t).openCount = 14
  /-- Whether a slot is free tells whether it is installed. -/
  free_iff : ∀ t handle, ((reached capacity actions).table t).hasFree = true ↔
    ((reached capacity actions).table t).allocate handle ≠ none
  /-- A handle comes back from the slot that it was in. -/
  handsBack : ∀ t fd table' handle,
    ((reached capacity actions).table t).release fd = some (table', handle) →
    ((reached capacity actions).table t).HandsBack fd table' handle
  /-- None comes back exactly if the slot is a console slot or empty. -/
  refused_iff : ∀ t fd, ((reached capacity actions).table t).release fd = none ↔
    fd.isReserved = true ∨ ((reached capacity actions).table t).resolve? fd = none
  /-- No console slot holds a handle. -/
  consoles : ∀ t fd handle, fd.isReserved = true →
    ((reached capacity actions).table t).resolve? fd ≠ some (.file handle)
  /-- The next operation leaves a handle where it was, or moves it to an empty place from one where
  it is not any more. -/
  origins : ∀ action place handle,
    ((reached capacity actions).step action).1.handleAt? place = some handle →
    (reached capacity actions).CameFrom action ((reached capacity actions).step action).1 place
      handle
  /-- Every handle has one place and shares contents that are there. -/
  orderly : (reached capacity actions).Orderly []
  /-- Clearing a table takes as many handles off every entry as the table has on it. -/
  released : ∀ t, (reached capacity actions).store.Released
    ((reached capacity actions).table t).handles
    ((reached capacity actions).store.releaseAll ((reached capacity actions).table t).handles).1
  /-- As long as the numbers of 32 bits suffice, the store counts every handle that is held or in a
  table, and counts it once. -/
  balanced : Fitting capacity actions → (reached capacity actions).Balanced []
  /-- So clearing a table releases each of its handles from an entry that counts it. -/
  clears : Fitting capacity actions → ∀ t, ∀ release ∈ ((reached capacity actions).store.releaseAll
      ((reached capacity actions).table t).handles).2, release.IsClean

/-- The handles of a table can be released, each from an entry that counts it. -/
theorem Balanced.clean_releaseAll (balanced : session.Balanced []) (t : Nat) :
    ∀ release ∈ (session.store.releaseAll (session.table t).handles).2, release.IsClean := by
  have accounts := balanced.accounts
  rw [allHandles_nil] at accounts
  have split := accounts.perm ((openHandles_perm balanced.tables_nodup t).map FileHandle.link)
  rw [List.map_append] at split
  exact (FileStore.releaseAll_accounts balanced.wellFormed split).1

/-- Tables act as partial maps, whatever was done before. -/
theorem acts_bound (capacity : Nat) (actions : List FileAction) : ActsBound capacity actions := by
  have square : ∀ (session : FileSession) (bound : BoundSession) (action : FileAction),
      session.Matches bound →
      (session.step action).1.Matches (bound.step action).1 ∧
        (session.step action).2.seen = (bound.step action).2 :=
    fun _ _ action aligned => aligned.step action
  have both := Session.simulation square (Matches.new capacity) actions
  have shows := both.1.shows
  have orderly := orderly_reached capacity actions
  constructor
  case answers => exact both.2
  case aligned => exact both.1
  case installs => exact fun t _ _ _ => DescriptorTable.installs_of_allocate
  case full_iff => exact fun t => (shows t).allocate_eq_none_iff
  case free_iff => exact fun t => DescriptorTable.hasFree_iff _
  case handsBack => exact fun t _ _ _ => DescriptorTable.handsBack_of_release
  case refused_iff => exact fun t => (shows t).release_eq_none_iff
  case consoles => exact fun t _ _ => (shows t).resolve?_reserved
  case origins =>
    exact fun action _ _ =>
      cameFrom_of_stepping orderly (stepping orderly.regular.arranged action)
  case orderly => exact orderly
  case released => exact fun t => FileStore.released_releaseAll orderly.regular _
  case balanced => exact balanced_reached
  case clears => exact fun fitting => (balanced_reached fitting).clean_releaseAll

/-- Two handles on one file go into a table, one comes back, and the table is cleared. -/
theorem acts_bound_with_shared_file :
    let actions : List FileAction := [.create [122] ⟨1⟩, .openLinked [122] ⟨1⟩, .allocate 0 0,
      .allocate 0 1, .release 0 ⟨2⟩, .unlink [122], .clear 0]
    Fitting 1 actions ∧ ActsBound 1 actions ∧ (reached 1 actions).Balanced [] ∧
      (reached 1 actions).store.entry? ⟨0, 0⟩ = some ⟨⟨[122], by decide +kernel⟩, 0, 1, true⟩ := by
  intro actions
  have fitting : Fitting 1 actions := fitting_of_length_lt 1 (by decide : 7 < wordCount)
  have bound := acts_bound 1 actions
  exact ⟨fitting, bound, bound.balanced fitting, by decide +kernel⟩

end FileSession

end SyscallKernel
