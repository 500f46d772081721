import SyscallKernel.Proofs.Process.Forest

/-!
# Terminating processes

What the termination of a running process changes, as one structure: the process
leaves a zombie or nothing, its running children become orphans and its zombies
are forgotten. An orphan keeps the waiter it had.
-/

namespace SyscallKernel.ProcessRecord

/-- What a running process leaves behind: a zombie for its parent to join, or
nothing if it has no parent. -/
def ended? (record : ProcessRecord) (how : Termination) : Option ProcessRecord :=
  if record.parent = none then none
  else some { record with state := .zombie how, children := [], lastReaped := none, waiter := none }

end SyscallKernel.ProcessRecord

namespace SyscallKernel.ProcessTable

variable {table table' : ProcessTable}

/-- What the termination of a running process does. -/
structure Ending (table : ProcessTable) (pid : Pid) (how : Termination) (record : ProcessRecord)
    (table' : ProcessTable) (news : TerminationNews) : Prop where
  /-- The process has a record. -/
  found : table.records.get? pid = some record
  /-- The process runs. -/
  running : record.state = .running
  /-- The process leaves a zombie or nothing, its children are forsaken. -/
  lookup : ∀ other, table'.records.get? other =
    if other = pid then record.ended? how
    else if table.parent? other = some pid then
      (table.records.get? other).bind ProcessRecord.orphaned?
    else table.records.get? other
  /-- The records stay in order. -/
  ascending : table'.records.Ascending
  /-- There are no more records than before. -/
  length : table'.records.length ≤ table.records.length
  /-- The waiter of the process is reported. -/
  waiter : news.waiter = record.waiter
  /-- Whether no process runs any more is reported. -/
  last : news.last = !table'.records.any ProcessRecord.isRunning
  /-- The role of the root ends with the process. -/
  root : table'.root = if table.root = some pid then none else table.root
  /-- The next pid stays. -/
  nextPid : table'.nextPid = table.nextPid
  /-- The capacity stays. -/
  capacity : table'.capacity = table.capacity
  /-- The machine does not halt. -/
  isShutdown : table'.isShutdown = table.isShutdown

theorem ending_of_terminate (wellFormed : table.WellFormed) {pid : Pid} {how : Termination}
    {news : TerminationNews} (ended : table.terminate pid how = some (table', news)) :
    ∃ record, Ending table pid how record table' news := by
  simp only [terminate] at ended
  split at ended
  · cases ended
  rename_i record found
  split at ended
  · rename_i running
    have running := ProcessRecord.isRunning_iff.1 running
    have members := wellFormed.mem_children found
    have notOwnChild : pid ∉ record.children := fun member =>
      (wellFormed.parent_running ((members pid).1 member)).1 rfl
    cases ended
    refine ⟨record, ?_⟩
    have remaining : ∀ other, (if record.parent.isSome = true then
          table.records.update pid fun r =>
            { r with state := .zombie how, children := [], lastReaped := none, waiter := none }
        else table.records.remove pid).get? other =
        if other = pid then record.ended? how else table.records.get? other := by
      intro other
      cases parent : record.parent with
      | none =>
        simp only [Option.isSome_none, Bool.false_eq_true, if_false, ProcessRecords.get?_remove,
          ProcessRecord.ended?, parent, if_true]
      | some p =>
        simp only [Option.isSome_some, if_true]
        rw [ProcessRecords.get?_update _ _ (by intro; rfl)]
        by_cases same : other = pid
        · subst same
          simp only [if_true, found, Option.map_some, ProcessRecord.ended?, parent, reduceCtorEq,
            if_false]
        · simp only [same, if_false]
    have ascending : ProcessRecords.Ascending (if record.parent.isSome = true then
          table.records.update pid fun r =>
            { r with state := .zombie how, children := [], lastReaped := none, waiter := none }
        else table.records.remove pid) := by
      split
      · exact ProcessRecords.ascending_update wellFormed.ascending _ (by intro; rfl)
      · exact ProcessRecords.ascending_remove wellFormed.ascending _
    exact
      { found
        running
        lookup := by
          intro other
          rw [ProcessRecords.get?_forsake ascending, remaining]
          by_cases same : other = pid
          · subst same
            simp only [notOwnChild, if_true, if_false]
          · simp only [same, if_false, members other]
        ascending := ProcessRecords.ascending_forsake ascending _
        length := by
          refine Nat.le_trans (ProcessRecords.length_forsake_le _ _) ?_
          split
          · exact Nat.le_of_eq (ProcessRecords.length_update _ _ _)
          · exact ProcessRecords.length_remove_le _ _
        waiter := rfl
        last := rfl
        root := rfl
        nextPid := rfl
        capacity := rfl
        isShutdown := rfl }
  · cases ended

/-- A termination cuts the links to the process that ended and no other. -/
theorem Ending.parent?_eq {pid : Pid} {how : Termination} {record : ProcessRecord}
    {news : TerminationNews} (ending : Ending table pid how record table' news)
    (wellFormed : table.WellFormed) (other : Pid) :
    table'.parent? other = if table.parent? other = some pid then none else table.parent? other := by
  by_cases same : other = pid
  · subst same
    have notOwnParent : table.parent? other ≠ some other := fun own =>
      (wellFormed.parent_running own).1 rfl
    rw [if_neg notOwnParent]
    simp only [parent?, ending.lookup, if_true, ending.found, Option.bind_some,
      ProcessRecord.ended?]
    split
    · rename_i orphan
      rw [orphan, Option.bind_none]
    · rfl
  · rw [parent?, ending.lookup, if_neg same]
    split
    · cases table.records.get? other with
      | none => rfl
      | some record =>
        simp only [Option.bind_some, ProcessRecord.orphaned?]
        split <;> rfl
    · rfl

/-- A termination ends one process and no other. -/
theorem Ending.isRunning_eq {pid : Pid} {how : Termination} {record : ProcessRecord}
    {news : TerminationNews} (ending : Ending table pid how record table' news) (other : Pid) :
    table'.isRunning other = (decide (other ≠ pid) && table.isRunning other) := by
  simp only [isRunning, ending.lookup]
  by_cases same : other = pid
  · simp only [same, if_true, ProcessRecord.ended?, ne_eq, not_true_eq_false, decide_false,
      Bool.false_and]
    split
    · rfl
    · rfl
  · simp only [same, if_false, ne_eq, not_false_eq_true, decide_true, Bool.true_and]
    split
    · cases table.records.get? other with
      | none => rfl
      | some record =>
        simp only [Option.bind_some, ProcessRecord.orphaned?, Option.any_some]
        cases running : record.isRunning with
        | false => rfl
        | true => exact running
    · rfl

/-- Each remaining record is that of the process, of a child or of a stranger to it. -/
theorem Ending.origin {pid other : Pid} {how : Termination} {record found : ProcessRecord}
    {news : TerminationNews} (ending : Ending table pid how record table' news)
    (lookup : table'.records.get? other = some found) :
    (other = pid ∧ record.ended? how = some found) ∨
      (other ≠ pid ∧ table.parent? other = some pid ∧ ∃ old, table.records.get? other = some old ∧
        old.state = .running ∧ found = { old with parent := none }) ∨
      (other ≠ pid ∧ table.parent? other ≠ some pid ∧ table.records.get? other = some found) := by
  rw [ending.lookup] at lookup
  split at lookup
  · exact .inl ⟨‹_›, lookup⟩
  · split at lookup
    · obtain ⟨old, held, orphaned⟩ := Option.bind_eq_some_iff.1 lookup
      simp only [ProcessRecord.orphaned?] at orphaned
      split at orphaned
      · rename_i running
        cases orphaned
        exact .inr (.inl ⟨‹_›, ‹_›, old, held, ProcessRecord.isRunning_iff.1 running, rfl⟩)
      · cases orphaned
    · exact .inr (.inr ⟨‹_›, ‹_›, lookup⟩)

theorem Ending.wellFormed {pid : Pid} {how : Termination} {record : ProcessRecord}
    {news : TerminationNews} (ending : Ending table pid how record table' news)
    (wellFormed : table.WellFormed) : table'.WellFormed := by
  have parent := ending.parent?_eq wellFormed
  have zombie : ∀ {found}, record.ended? how = some found → record.parent ≠ none ∧
      found = { record with
        state := .zombie how, children := [], lastReaped := none, waiter := none } := by
    intro found ended
    simp only [ProcessRecord.ended?] at ended
    split at ended
    · cases ended
    · cases ended
      exact ⟨‹_›, rfl⟩
  constructor
  case ascending => exact ending.ascending
  case fits =>
    rw [ending.capacity]
    exact Nat.le_trans ending.length wellFormed.fits
  case nextPid_mem =>
    rw [ending.nextPid]
    exact wellFormed.nextPid_mem
  case pid_mem =>
    intro other found lookup
    rcases ending.origin lookup with ⟨rfl, _⟩ | ⟨_, _, old, held, _⟩ | ⟨_, _, held⟩
    · exact wellFormed.pid_mem ending.found
    · exact wellFormed.pid_mem held
    · exact wellFormed.pid_mem held
  case mem_children =>
    intro other found lookup child
    rw [parent]
    rcases ending.origin lookup with ⟨rfl, ended⟩ | ⟨apart, _, old, held, _, rfl⟩ | ⟨apart, _, held⟩
    · rw [(zombie ended).2]
      split
      · simp only [List.not_mem_nil, reduceCtorEq]
      · rename_i stranger
        simp only [List.not_mem_nil, stranger]
    · have members := wellFormed.mem_children held child
      split
      · rename_i childOfEnded
        rw [childOfEnded] at members
        simp only [members, reduceCtorEq, Option.some.injEq, Ne.symm apart]
      · exact members
    · have members := wellFormed.mem_children held child
      split
      · rename_i childOfEnded
        rw [childOfEnded] at members
        simp only [members, reduceCtorEq, Option.some.injEq, Ne.symm apart]
      · exact members
  case parent_running =>
    intro child p adopted
    rw [parent] at adopted
    rw [ending.isRunning_eq, Bool.and_eq_true, decide_eq_true_eq]
    split at adopted
    · cases adopted
    · rename_i stranger
      obtain ⟨apart, running⟩ := wellFormed.parent_running adopted
      refine ⟨apart, ?_, running⟩
      intro equal
      subst equal
      exact stranger adopted
  case zombie =>
    intro other found how' lookup state
    rcases ending.origin lookup with ⟨rfl, ended⟩ | ⟨_, _, old, _, running, rfl⟩ | ⟨_, _, held⟩
    · rw [(zombie ended).2]
      exact ⟨(zombie ended).1, rfl, rfl, rfl⟩
    · rw [running] at state
      cases state
    · exact wellFormed.zombie held state
  case waiter_parent =>
    intro other waiter found lookup waits
    rcases ending.origin lookup with ⟨rfl, ended⟩ | ⟨_, _, old, _, _, rfl⟩ | ⟨_, _, held⟩
    · rw [(zombie ended).2] at waits
      cases waits
    · exact .inl rfl
    · exact wellFormed.waiter_parent held waits
  case root_running =>
    intro root found
    rw [ending.root] at found
    rw [ending.isRunning_eq, Bool.and_eq_true, decide_eq_true_eq]
    split at found
    · cases found
    · rename_i notRoot
      exact ⟨fun same => notRoot (same ▸ found), wellFormed.root_running found⟩

/-- Exactly the processes that do not run cannot be terminated. -/
theorem terminate_eq_none_iff {pid : Pid} {how : Termination} :
    table.terminate pid how = none ↔ table.isRunning pid = false := by
  simp only [terminate, isRunning]
  cases found : table.records.get? pid with
  | none => simp only [Option.any_none]
  | some record => cases running : record.isRunning <;> simp [running]

end SyscallKernel.ProcessTable
