import SyscallKernel.Proofs.Process.Forest

/-!
# Joining children and shutting down

What the two successful answers to a join change, as one structure each, and what
a shutdown leaves of every record.
-/

namespace SyscallKernel.ProcessTable

variable {table table' : ProcessTable}

/-- What the reaping of a child does. -/
structure Reaping (table : ProcessTable) (caller child : Pid) (how : Termination)
    (table' : ProcessTable) : Prop where
  /-- The machine has not halted. -/
  notShutdown : table.isShutdown = false
  /-- The caller is the parent. -/
  parent : table.parent? child = some caller
  /-- The child has terminated. -/
  ended : table.state? child = some (.zombie how)
  /-- The child is forgotten, the caller remembers whom it reaped. -/
  lookup : ∀ other, table'.records.get? other =
    if other = child then none
    else if other = caller then
      (table.records.get? other).map fun r =>
        { r with children := r.children.filter (· ≠ child), lastReaped := some child }
    else table.records.get? other
  /-- The records stay in order. -/
  ascending : table'.records.Ascending
  /-- There are no more records than before. -/
  length : table'.records.length ≤ table.records.length
  /-- The root stays. -/
  root : table'.root = table.root
  /-- The next pid stays. -/
  nextPid : table'.nextPid = table.nextPid
  /-- The capacity stays. -/
  capacity : table'.capacity = table.capacity
  /-- The machine does not halt. -/
  isShutdown : table'.isShutdown = table.isShutdown

/-- What waiting for a running child does. -/
structure Awaiting (table : ProcessTable) (caller child : Pid) (table' : ProcessTable) : Prop where
  /-- The machine has not halted. -/
  notShutdown : table.isShutdown = false
  /-- The caller is the parent. -/
  parent : table.parent? child = some caller
  /-- The child runs. -/
  running : table.isRunning child = true
  /-- The caller becomes the waiter of the child. -/
  lookup : ∀ other, table'.records.get? other =
    if other = child then
      (table.records.get? other).map fun r => { r with waiter := some caller }
    else table.records.get? other
  /-- Everything but the records stays. -/
  rest : table' = { table with records := table'.records }
  /-- No record comes or goes. -/
  pids : table'.records.map ProcessRecord.pid = table.records.map ProcessRecord.pid

theorem reaping_of_pollJoin (wellFormed : table.WellFormed) {caller child : Pid}
    {how : Termination} (joined : table.pollJoin caller child = .ok (table', .ready how)) :
    Reaping table caller child how table' := by
  simp only [pollJoin] at joined
  split at joined
  · cases joined
  split at joined
  · cases joined
  rename_i notShutdown _ record found
  split at joined
  · rename_i member
    split at joined
    · cases joined
    rename_i childRecord childFound
    split at joined
    · cases joined
    · rename_i how' state
      cases joined
      have parent := (wellFormed.mem_children found child).1 member
      have apart : child ≠ caller := fun same => (wellFormed.parent_running parent).1 same.symm
      exact
        { notShutdown := by simpa only [Bool.not_eq_true] using notShutdown
          parent
          ended := by rw [state?, childFound, Option.map_some, state]
          lookup := by
            intro other
            rw [ProcessRecords.get?_update _ _ (by intro; rfl), ProcessRecords.get?_remove]
            by_cases same : other = child
            · subst same
              simp only [apart, if_true, if_false]
            · simp only [same, if_false]
          ascending := ProcessRecords.ascending_update
            (ProcessRecords.ascending_remove wellFormed.ascending _) _ (by intro; rfl)
          length := by
            rw [ProcessRecords.length_update]
            exact ProcessRecords.length_remove_le _ _
          root := rfl
          nextPid := rfl
          capacity := rfl
          isShutdown := rfl }
  · split at joined
    · cases joined
    · split at joined <;> cases joined

theorem awaiting_of_pollJoin (wellFormed : table.WellFormed) {caller child : Pid}
    (joined : table.pollJoin caller child = .ok (table', .pending)) :
    Awaiting table caller child table' := by
  simp only [pollJoin] at joined
  split at joined
  · cases joined
  split at joined
  · cases joined
  rename_i notShutdown _ record found
  split at joined
  · rename_i member
    split at joined
    · cases joined
    rename_i childRecord childFound
    split at joined
    · rename_i state
      cases joined
      exact
        { notShutdown := by simpa only [Bool.not_eq_true] using notShutdown
          parent := (wellFormed.mem_children found child).1 member
          running := isRunning_iff.2 ⟨childRecord, childFound, state⟩
          lookup := fun other => ProcessRecords.get?_update _ _ (by intro; rfl) other
          rest := rfl
          pids := ProcessRecords.map_pid_update (by intro; rfl) }
    · cases joined
  · split at joined
    · cases joined
    · split at joined <;> cases joined

/-- Reaping a child takes its link away and no other. -/
theorem Reaping.parent?_eq {caller child : Pid} {how : Termination}
    (reaping : Reaping table caller child how table') (other : Pid) :
    table'.parent? other = if other = child then none else table.parent? other := by
  simp only [parent?, reaping.lookup]
  by_cases same : other = child
  · simp only [same, if_true, Option.bind_none]
  · simp only [same, if_false]
    split
    · cases table.records.get? other <;> rfl
    · rfl

/-- Reaping a child changes nothing about who runs. -/
theorem Reaping.isRunning_eq {caller child : Pid} {how : Termination}
    (reaping : Reaping table caller child how table') (other : Pid) :
    table'.isRunning other = table.isRunning other := by
  simp only [isRunning, reaping.lookup]
  by_cases same : other = child
  · subst same
    obtain ⟨record, found, state⟩ := Option.map_eq_some_iff.1 reaping.ended
    simp only [if_true, found, Option.any_none, Option.any_some, ProcessRecord.isRunning, state,
      reduceCtorEq, decide_false]
  · simp only [same, if_false]
    split
    · cases table.records.get? other <;> rfl
    · rfl

/-- Each remaining record is the old one, but for the caller's account of its children. -/
theorem Reaping.origin {caller child other : Pid} {how : Termination} {found : ProcessRecord}
    (reaping : Reaping table caller child how table')
    (lookup : table'.records.get? other = some found) :
    other ≠ child ∧ ∃ old, table.records.get? other = some old ∧
      found = if other = caller then { old with
        children := old.children.filter (· ≠ child), lastReaped := some child } else old := by
  rw [reaping.lookup] at lookup
  split at lookup
  · cases lookup
  · refine ⟨‹_›, ?_⟩
    split at lookup
    · obtain ⟨old, held, rfl⟩ := Option.map_eq_some_iff.1 lookup
      exact ⟨old, held, by simp only [*, if_true]⟩
    · exact ⟨found, lookup, by simp only [*, if_false]⟩

theorem Reaping.wellFormed {caller child : Pid} {how : Termination}
    (reaping : Reaping table caller child how table') (wellFormed : table.WellFormed) :
    table'.WellFormed := by
  constructor
  case ascending => exact reaping.ascending
  case fits =>
    rw [reaping.capacity]
    exact Nat.le_trans reaping.length wellFormed.fits
  case nextPid_mem =>
    rw [reaping.nextPid]
    exact wellFormed.nextPid_mem
  case pid_mem =>
    intro other found lookup
    obtain ⟨_, old, held, _⟩ := reaping.origin lookup
    exact wellFormed.pid_mem held
  case mem_children =>
    intro other found lookup x
    obtain ⟨_, old, held, rfl⟩ := reaping.origin lookup
    have members := wellFormed.mem_children held x
    rw [reaping.parent?_eq]
    by_cases isChild : x = child
    · subst isChild
      simp only [if_true, reduceCtorEq, iff_false]
      split
      · simp only [List.mem_filter, ne_eq, not_true_eq_false, decide_false, Bool.false_eq_true,
          and_false, not_false_eq_true]
      · rename_i notCaller
        rw [members, reaping.parent]
        exact fun same => notCaller (Option.some.inj same).symm
    · simp only [isChild, if_false, ← members]
      split
      · simp only [List.mem_filter, ne_eq, isChild, not_false_eq_true, decide_true, and_true]
      · rfl
  case parent_running =>
    intro x p adopted
    rw [reaping.parent?_eq] at adopted
    rw [reaping.isRunning_eq]
    split at adopted
    · cases adopted
    · exact wellFormed.parent_running adopted
  case zombie =>
    intro other found how' lookup state
    obtain ⟨_, old, held, rfl⟩ := reaping.origin lookup
    by_cases isCaller : other = caller
    · subst isCaller
      simp only [if_true] at state
      obtain ⟨running, held', runs⟩ :=
        isRunning_iff.1 (wellFormed.parent_running reaping.parent).2
      rw [held] at held'
      cases held'
      rw [runs] at state
      cases state
    · simp only [isCaller, if_false] at state ⊢
      exact wellFormed.zombie held state
  case waiter_parent =>
    intro other waiter found lookup waits
    obtain ⟨_, old, held, rfl⟩ := reaping.origin lookup
    have law : old.waiter = some waiter → old.parent = none ∨ old.parent = some waiter :=
      wellFormed.waiter_parent held
    by_cases isCaller : other = caller
    · simp only [isCaller, if_true] at waits ⊢
      exact law waits
    · simp only [isCaller, if_false] at waits ⊢
      exact law waits
  case root_running =>
    intro root found
    rw [reaping.root] at found
    rw [reaping.isRunning_eq]
    exact wellFormed.root_running found

/-- Waiting changes nothing about parents. -/
theorem Awaiting.parent?_eq {caller child : Pid} (awaiting : Awaiting table caller child table')
    (other : Pid) : table'.parent? other = table.parent? other := by
  simp only [parent?, awaiting.lookup]
  split
  · cases table.records.get? other <;> rfl
  · rfl

/-- Waiting changes nothing about who runs. -/
theorem Awaiting.isRunning_eq {caller child : Pid} (awaiting : Awaiting table caller child table')
    (other : Pid) : table'.isRunning other = table.isRunning other := by
  simp only [isRunning, awaiting.lookup]
  split
  · cases table.records.get? other <;> rfl
  · rfl

/-- Each record is the old one, but for the waiter of the child. -/
theorem Awaiting.origin {caller child other : Pid} {found : ProcessRecord}
    (awaiting : Awaiting table caller child table')
    (lookup : table'.records.get? other = some found) :
    ∃ old, table.records.get? other = some old ∧
      found = if other = child then { old with waiter := some caller } else old := by
  rw [awaiting.lookup] at lookup
  split at lookup
  · obtain ⟨old, held, rfl⟩ := Option.map_eq_some_iff.1 lookup
    exact ⟨old, held, by simp only [*, if_true]⟩
  · exact ⟨found, lookup, by simp only [*, if_false]⟩

theorem Awaiting.wellFormed {caller child : Pid} (awaiting : Awaiting table caller child table')
    (wellFormed : table.WellFormed) : table'.WellFormed := by
  have rest := awaiting.rest
  constructor
  case ascending => exact ProcessRecords.ascending_of_map_pid awaiting.pids wellFormed.ascending
  case fits =>
    have length := congrArg List.length awaiting.pids
    rw [List.length_map, List.length_map] at length
    rw [rest, length]
    exact wellFormed.fits
  case nextPid_mem =>
    rw [rest]
    exact wellFormed.nextPid_mem
  case pid_mem =>
    intro other found lookup
    obtain ⟨old, held, _⟩ := awaiting.origin lookup
    exact wellFormed.pid_mem held
  case mem_children =>
    intro other found lookup x
    obtain ⟨old, held, rfl⟩ := awaiting.origin lookup
    rw [awaiting.parent?_eq, ← wellFormed.mem_children held x]
    split <;> rfl
  case parent_running =>
    intro x p adopted
    rw [awaiting.parent?_eq] at adopted
    rw [awaiting.isRunning_eq]
    exact wellFormed.parent_running adopted
  case zombie =>
    intro other found how lookup state
    obtain ⟨old, held, rfl⟩ := awaiting.origin lookup
    by_cases isChild : other = child
    · subst isChild
      simp only [if_true] at state
      obtain ⟨running, held', runs⟩ := isRunning_iff.1 awaiting.running
      rw [held] at held'
      cases held'
      rw [runs] at state
      cases state
    · simp only [isChild, if_false] at state ⊢
      exact wellFormed.zombie held state
  case waiter_parent =>
    intro other waiter found lookup waits
    obtain ⟨old, held, rfl⟩ := awaiting.origin lookup
    by_cases isChild : other = child
    · subst isChild
      obtain ⟨record, held', adopted⟩ := parent?_eq_some_iff.1 awaiting.parent
      rw [held] at held'
      cases held'
      simp only [if_true] at waits ⊢
      rw [← waits]
      exact .inr adopted
    · simp only [isChild, if_false] at waits ⊢
      exact wellFormed.waiter_parent held waits
  case root_running =>
    intro root found
    rw [rest] at found
    rw [awaiting.isRunning_eq]
    exact wellFormed.root_running found

/-! ### Shutdown -/

/-- A shutdown takes the waiter out of every record. -/
theorem get?_shutdown (table : ProcessTable) (pid : Pid) :
    table.shutdown.1.records.get? pid =
      (table.records.get? pid).map fun r => { r with waiter := none } := by
  simp only [shutdown, ProcessRecords.get?, List.find?_map, Function.comp_def]

/-- A shutdown reports exactly the registered waiters. -/
theorem mem_shutdown (wellFormed : table.WellFormed) {waiter : Pid} :
    waiter ∈ table.shutdown.2 ↔
      ∃ pid record, table.records.get? pid = some record ∧ record.waiter = some waiter := by
  simp only [shutdown, List.mem_filterMap]
  constructor
  · rintro ⟨record, member, waits⟩
    exact ⟨record.pid, record,
      (ProcessRecords.get?_eq_some_iff wellFormed.ascending).2 ⟨member, rfl⟩, waits⟩
  · rintro ⟨pid, record, found, waits⟩
    exact ⟨record, ((ProcessRecords.get?_eq_some_iff wellFormed.ascending).1 found).1, waits⟩

theorem parent?_shutdown (table : ProcessTable) (pid : Pid) :
    table.shutdown.1.parent? pid = table.parent? pid := by
  simp only [parent?, get?_shutdown]
  cases table.records.get? pid <;> rfl

theorem isRunning_shutdown (table : ProcessTable) (pid : Pid) :
    table.shutdown.1.isRunning pid = table.isRunning pid := by
  simp only [isRunning, get?_shutdown]
  cases table.records.get? pid <;> rfl

/-- Each record is the old one without its waiter. -/
theorem origin_shutdown {other : Pid} {found : ProcessRecord}
    (lookup : table.shutdown.1.records.get? other = some found) :
    ∃ old, table.records.get? other = some old ∧ found = { old with waiter := none } := by
  rw [get?_shutdown] at lookup
  obtain ⟨old, held, rfl⟩ := Option.map_eq_some_iff.1 lookup
  exact ⟨old, held, rfl⟩

theorem wellFormed_shutdown (wellFormed : table.WellFormed) : table.shutdown.1.WellFormed := by
  constructor
  case ascending =>
    refine ProcessRecords.ascending_of_map_pid ?_ wellFormed.ascending
    simp only [shutdown, List.map_map, Function.comp_def]
  case fits =>
    simp only [shutdown, List.length_map]
    exact wellFormed.fits
  case nextPid_mem => exact wellFormed.nextPid_mem
  case pid_mem =>
    intro other found lookup
    obtain ⟨old, held, _⟩ := origin_shutdown lookup
    exact wellFormed.pid_mem held
  case mem_children =>
    intro other found lookup x
    obtain ⟨old, held, rfl⟩ := origin_shutdown lookup
    rw [parent?_shutdown]
    exact wellFormed.mem_children held x
  case parent_running =>
    intro x p adopted
    rw [parent?_shutdown] at adopted
    rw [isRunning_shutdown]
    exact wellFormed.parent_running adopted
  case zombie =>
    intro other found how lookup state
    obtain ⟨old, held, rfl⟩ := origin_shutdown lookup
    obtain ⟨parent, children, lastReaped, _⟩ := wellFormed.zombie held state
    exact ⟨parent, children, lastReaped, rfl⟩
  case waiter_parent =>
    intro other waiter found lookup waits
    obtain ⟨old, held, rfl⟩ := origin_shutdown lookup
    cases waits
  case root_running =>
    intro root found
    rw [isRunning_shutdown]
    exact wellFormed.root_running found

end SyscallKernel.ProcessTable
