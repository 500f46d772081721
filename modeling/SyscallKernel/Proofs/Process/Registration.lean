import SyscallKernel.Proofs.Process.Forest

/-!
# Registering processes

What a successful registration needs and what it changes, as one structure. Later
proofs use its fields and never open the operation.
-/

namespace SyscallKernel.ProcessTable

variable {table table' : ProcessTable}

/-- A pid that was found is free, the one after it comes next, and it may be handed
out if the search began at such a pid. -/
theorem freePid_eq_some {records : ProcessRecords} {tries : Nat} {first pid next : Pid}
    (found : freePid records tries first = some (pid, next)) :
    records.get? pid = none ∧ next = pid.next ∧
      (1 ≤ first.number ∧ first.number ≤ Pid.limit →
        1 ≤ pid.number ∧ pid.number ≤ Pid.limit) := by
  induction tries generalizing first with
  | zero => cases found
  | succ tries ih =>
    simp only [freePid] at found
    split at found
    · obtain ⟨free, after, bounds⟩ := ih found
      exact ⟨free, after, fun _ => bounds first.next_mem⟩
    · rename_i free
      cases found
      refine ⟨?_, rfl, id⟩
      simpa only [ProcessRecords.has, Bool.not_eq_true, Option.isSome_eq_false_iff,
        Option.isNone_iff_eq_none] using free

/-- What the registration of a process does. -/
structure Registration (table : ProcessTable) (parent : Option Pid) (table' : ProcessTable)
    (pid : Pid) : Prop where
  /-- The machine has not halted. -/
  notShutdown : table.isShutdown = false
  /-- There is room for one more record. -/
  room : table.records.length < table.capacity
  /-- The parent runs. -/
  parent_running : ∀ p, parent = some p → table.isRunning p = true
  /-- The pid is the one the search finds. -/
  chosen : table.choosePid = some (pid, table'.nextPid)
  /-- The new process has a fresh record, its parent one more child. -/
  lookup : ∀ other, table'.records.get? other =
    if other = pid then some (.fresh pid parent)
    else if parent = some other then
      (table.records.get? other).map fun r => { r with children := r.children ++ [pid] }
    else table.records.get? other
  /-- The records stay in order. -/
  ascending : table.records.Ascending → table'.records.Ascending
  /-- There is one more record. -/
  length : table'.records.length = table.records.length + 1
  /-- A process without a parent takes the role of the root if it is free. -/
  root : table'.root = if parent = none then table.root.or (some pid) else table.root
  /-- The capacity stays. -/
  capacity : table'.capacity = table.capacity
  /-- The machine does not halt. -/
  isShutdown : table'.isShutdown = table.isShutdown

/-- The pid of a registered process was free before. -/
theorem Registration.free {parent : Option Pid} {pid : Pid}
    (registration : Registration table parent table' pid) : table.records.get? pid = none :=
  (freePid_eq_some registration.chosen).1

theorem registration_of_register {parent : Option Pid} {pid : Pid}
    (registered : table.register parent = .ok (table', pid)) :
    Registration table parent table' pid := by
  simp only [register] at registered
  split at registered
  · cases registered
  split at registered
  · cases registered
  split at registered
  · cases registered
  rename_i notShutdown room running
  split at registered
  · cases registered
  rename_i first next chosen
  have running : ∀ p, parent = some p → table.isRunning p = true := by
    intro p equal
    subst equal
    simpa only [Option.any_some, Bool.not_eq_true', Bool.not_eq_false] using running
  have free : table.records.get? first = none := (freePid_eq_some chosen).1
  have found : ∀ other, (table.records.insert (.fresh first parent)).get? other =
      if other = first then some (.fresh first parent) else table.records.get? other :=
    ProcessRecords.get?_insert free
  cases parent with
  | none =>
    cases registered
    exact
      { notShutdown := by simpa only [Bool.not_eq_true] using notShutdown
        room := Nat.lt_of_not_le room
        parent_running := running
        chosen
        lookup := by simpa only [reduceCtorEq, if_false] using found
        ascending := fun ascending => ProcessRecords.ascending_insert ascending free
        length := ProcessRecords.length_insert _ _
        root := by simp only [if_true]
        capacity := rfl
        isShutdown := rfl }
  | some p =>
    cases registered
    have apart : p ≠ pid := by
      intro equal
      subst equal
      obtain ⟨record, held, _⟩ := isRunning_iff.1 (running p rfl)
      rw [held] at free
      cases free
    exact
      { notShutdown := by simpa only [Bool.not_eq_true] using notShutdown
        room := Nat.lt_of_not_le room
        parent_running := running
        chosen
        lookup := by
          intro other
          rw [ProcessRecords.get?_update _ _ (by intro; rfl), found]
          by_cases same : other = p
          · subst same
            simp only [apart, if_true, if_false]
          · have same' : ¬ some p = some other := fun equal => same (Option.some.inj equal).symm
            simp only [same, same', if_false]
        ascending := fun ascending =>
          ProcessRecords.ascending_update (ProcessRecords.ascending_insert ascending free) _
            (by intro; rfl)
        length := by rw [ProcessRecords.length_update, ProcessRecords.length_insert]
        root := by simp only [reduceCtorEq, if_false]
        capacity := rfl
        isShutdown := rfl }

/-- A registration gives the new process its parent and no other. -/
theorem Registration.parent?_eq {parent : Option Pid} {pid : Pid}
    (registration : Registration table parent table' pid) (other : Pid) :
    table'.parent? other = if other = pid then parent else table.parent? other := by
  simp only [parent?, registration.lookup]
  by_cases same : other = pid
  · simp only [same, if_true, Option.bind_some, ProcessRecord.fresh]
  · simp only [same, if_false]
    split
    · cases table.records.get? other <;> rfl
    · rfl

/-- A registration adds one running process. -/
theorem Registration.isRunning_eq {parent : Option Pid} {pid : Pid}
    (registration : Registration table parent table' pid) (other : Pid) :
    table'.isRunning other = (decide (other = pid) || table.isRunning other) := by
  simp only [isRunning, registration.lookup]
  by_cases same : other = pid
  · simp only [same, if_true, Option.any_some, decide_true, Bool.true_or,
      ProcessRecord.isRunning, ProcessRecord.fresh]
  · simp only [same, if_false, decide_false, Bool.false_or]
    split
    · cases table.records.get? other <;> rfl
    · rfl

/-- Each record is the new one, or the old one but for a parent's list of children. -/
theorem Registration.origin {parent : Option Pid} {pid other : Pid} {found : ProcessRecord}
    (registration : Registration table parent table' pid)
    (lookup : table'.records.get? other = some found) :
    (other = pid ∧ found = .fresh pid parent) ∨
      (other ≠ pid ∧ ∃ old, table.records.get? other = some old ∧
        found = if parent = some other then { old with children := old.children ++ [pid] }
          else old) := by
  rw [registration.lookup] at lookup
  split at lookup
  · exact .inl ⟨‹_›, (Option.some.inj lookup).symm⟩
  · refine .inr ⟨‹_›, ?_⟩
    split at lookup
    · obtain ⟨old, held, changed⟩ := Option.map_eq_some_iff.1 lookup
      exact ⟨old, held, by simp only [*, if_true]⟩
    · exact ⟨found, lookup, by simp only [*, if_false]⟩

/-- The new process is nobody's parent and not its own. -/
theorem Registration.apart {parent : Option Pid} {pid : Pid}
    (registration : Registration table parent table' pid) (wellFormed : table.WellFormed) :
    parent ≠ some pid ∧ ∀ child, table.parent? child ≠ some pid := by
  have idle : table.isRunning pid = false := by
    rw [isRunning, registration.free, Option.any_none]
  constructor
  · intro same
    have running := registration.parent_running pid same
    rw [idle] at running
    cases running
  · intro child adopted
    have running := (wellFormed.parent_running adopted).2
    rw [idle] at running
    cases running

/-- The lists of children match the links to the parents after a registration. -/
theorem Registration.mem_children {parent : Option Pid} {pid other : Pid} {found : ProcessRecord}
    (registration : Registration table parent table' pid) (wellFormed : table.WellFormed)
    (lookup : table'.records.get? other = some found) (child : Pid) :
    child ∈ found.children ↔ table'.parent? child = some other := by
  obtain ⟨notOwn, childless⟩ := registration.apart wellFormed
  have free : table.parent? pid = none := by
    rw [parent?, registration.free, Option.bind_none]
  rw [registration.parent?_eq]
  rcases registration.origin lookup with ⟨same, rfl⟩ | ⟨_, old, held, rfl⟩
  · subst same
    have barren := childless child
    by_cases new : child = other
    · simp only [ProcessRecord.fresh, List.not_mem_nil, new, if_true, notOwn]
    · simp only [ProcessRecord.fresh, List.not_mem_nil, new, if_false, barren]
  · have members := wellFormed.mem_children held child
    by_cases new : child = pid
    · subst new
      rw [free] at members
      by_cases chosen : parent = some other
      · simp only [chosen, if_true, List.mem_append, List.mem_singleton, or_true]
      · simp only [chosen, if_true, if_false, members, reduceCtorEq]
    · split
      · simp only [List.mem_append, List.mem_singleton, new, or_false, members]
      · simp only [members]

theorem Registration.wellFormed {parent : Option Pid} {pid : Pid}
    (registration : Registration table parent table' pid) (wellFormed : table.WellFormed) :
    table'.WellFormed := by
  have bounds := (freePid_eq_some registration.chosen).2
  constructor
  case ascending => exact registration.ascending wellFormed.ascending
  case fits =>
    rw [registration.length, registration.capacity]
    exact registration.room
  case nextPid_mem =>
    rw [bounds.1]
    exact pid.next_mem
  case pid_mem =>
    intro other found lookup
    rcases registration.origin lookup with ⟨same, _⟩ | ⟨_, old, held, _⟩
    · rw [same]
      exact bounds.2 wellFormed.nextPid_mem
    · exact wellFormed.pid_mem held
  case mem_children => exact registration.mem_children wellFormed
  case parent_running =>
    intro child p adopted
    rw [registration.parent?_eq] at adopted
    rw [registration.isRunning_eq, Bool.or_eq_true]
    split at adopted
    · rename_i new
      subst new
      have notOwn := (registration.apart wellFormed).1
      exact ⟨fun same => notOwn (same ▸ adopted), .inr (registration.parent_running p adopted)⟩
    · obtain ⟨apart, running⟩ := wellFormed.parent_running adopted
      exact ⟨apart, .inr running⟩
  case zombie =>
    intro other found how lookup state
    rcases registration.origin lookup with ⟨_, rfl⟩ | ⟨_, old, held, rfl⟩
    · cases state
    · by_cases chosen : parent = some other
      · obtain ⟨running, held', runs⟩ := isRunning_iff.1 (registration.parent_running other chosen)
        rw [held, Option.some.injEq] at held'
        simp only [chosen, if_true, held', runs, reduceCtorEq] at state
      · simp only [chosen, if_false] at state ⊢
        exact wellFormed.zombie held state
  case waiter_parent =>
    intro other waiter found lookup waits
    rcases registration.origin lookup with ⟨_, rfl⟩ | ⟨_, old, held, rfl⟩
    · cases waits
    · have law : old.waiter = some waiter → old.parent = none ∨ old.parent = some waiter :=
        wellFormed.waiter_parent held
      by_cases chosen : parent = some other
      · simp only [chosen, if_true] at waits ⊢
        exact law waits
      · simp only [chosen, if_false] at waits ⊢
        exact law waits
  case root_running =>
    intro root found
    rw [registration.root] at found
    rw [registration.isRunning_eq, Bool.or_eq_true, decide_eq_true_eq]
    split at found
    · rcases Option.or_eq_some_iff.1 found with old | ⟨_, new⟩
      · exact .inr (wellFormed.root_running old)
      · exact .inl (Option.some.inj new).symm
    · exact .inr (wellFormed.root_running found)

end SyscallKernel.ProcessTable
