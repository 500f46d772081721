import SyscallKernel.Process.Table
import SyscallKernel.Proofs.Process.Records

/-!
# The forest of processes

Parent links and lists of children are two views of one forest whose inner nodes
run. This and what else holds of every process table is `WellFormed`; that each
operation keeps it is shown with the operation. A waiter is the parent of the
process it waits for, unless that process has become an orphan.
-/

namespace SyscallKernel.ProcessTable

variable {table table' : ProcessTable}

theorem isRunning_iff {pid : Pid} :
    table.isRunning pid = true ↔
      ∃ record, table.records.get? pid = some record ∧ record.state = .running := by
  simp only [isRunning, Option.any_eq_true, ProcessRecord.isRunning_iff]

theorem state?_eq_running_iff {pid : Pid} :
    table.state? pid = some .running ↔ table.isRunning pid = true := by
  rw [isRunning_iff, state?, Option.map_eq_some_iff]

theorem parent?_eq_some_iff {child parent : Pid} :
    table.parent? child = some parent ↔
      ∃ record, table.records.get? child = some record ∧ record.parent = some parent := by
  simp only [parent?, Option.bind_eq_some_iff]

/-- What holds of every process table between two operations. -/
structure WellFormed (table : ProcessTable) : Prop where
  /-- There is at most one record for a pid, in order. -/
  ascending : table.records.Ascending
  /-- The records fit into the table. -/
  fits : table.records.length ≤ table.capacity
  /-- The next pid to try is one that may be handed out. -/
  nextPid_mem : 1 ≤ table.nextPid.number ∧ table.nextPid.number ≤ Pid.limit
  /-- The pid of every record may be handed out. -/
  pid_mem : ∀ {pid : Pid} {record : ProcessRecord}, table.records.get? pid = some record →
    1 ≤ pid.number ∧ pid.number ≤ Pid.limit
  /-- The children of a process are the processes whose parent it is. -/
  mem_children : ∀ {pid : Pid} {record : ProcessRecord}, table.records.get? pid = some record →
    ∀ child, child ∈ record.children ↔ table.parent? child = some pid
  /-- A parent runs, and is not its own child. -/
  parent_running : ∀ {child parent : Pid}, table.parent? child = some parent →
    parent ≠ child ∧ table.isRunning parent = true
  /-- A zombie waits for its parent and for nothing else. -/
  zombie : ∀ {pid : Pid} {record : ProcessRecord} {how : Termination},
    table.records.get? pid = some record → record.state = .zombie how →
      record.parent ≠ none ∧ record.children = [] ∧ record.lastReaped = none ∧ record.waiter = none
  /-- Nobody but the parent waits for a process that has one. -/
  waiter_parent : ∀ {pid waiter : Pid} {record : ProcessRecord},
    table.records.get? pid = some record → record.waiter = some waiter →
      record.parent = none ∨ record.parent = some waiter
  /-- The root runs. -/
  root_running : ∀ {pid : Pid}, table.root = some pid → table.isRunning pid = true

/-- A table without processes is well formed. -/
theorem wellFormed_empty (capacity : Nat) : (empty capacity).WellFormed where
  ascending := List.Pairwise.nil
  fits := Nat.zero_le _
  nextPid_mem := ⟨Nat.le_refl 1, (by decide : 1 ≤ Pid.limit)⟩
  pid_mem found := nomatch found
  mem_children found := nomatch found
  parent_running found := nomatch found
  zombie found := nomatch found
  waiter_parent found := nomatch found
  root_running found := nomatch found

end SyscallKernel.ProcessTable
