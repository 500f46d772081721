import SyscallKernel.Process.Pid

/-!
# Process records

The record of a process and the ordered list of records. A record is kept from
registration until nobody can ask for the process any more: a running process has
one, and so has a terminated child that its parent has not joined. Records are
kept in ascending order of their pids.
-/

namespace SyscallKernel

/-- How a process ended. -/
inductive Termination where
  /-- It exited with a status. -/
  | exited (status : Register)
  /-- It was killed by a fault of its own. -/
  | killed
  deriving DecidableEq, Repr

namespace Termination

/-- The debug text of a termination. -/
def describe : Termination → String
  | exited status => s!"Exited({status.render})"
  | killed => "Killed"

end Termination

/-- The state of a registered process. -/
inductive ProcessState where
  /-- The process runs. -/
  | running
  /-- The process has terminated and waits for its parent to join it. -/
  | zombie (how : Termination)
  deriving DecidableEq, Repr

/-- What the kernel remembers of a process. -/
structure ProcessRecord where
  /-- The process. -/
  pid : Pid
  /-- The process that may join this one. -/
  parent : Option Pid
  /-- Running or terminated. -/
  state : ProcessState
  /-- The registered children, in order of registration. -/
  children : List Pid
  /-- The child most recently joined by this process. -/
  lastReaped : Option Pid
  /-- The process that waits for this one to terminate. -/
  waiter : Option Pid
  deriving DecidableEq, Repr

namespace ProcessRecord

/-- The record of a process that was just registered. -/
def fresh (pid : Pid) (parent : Option Pid) : ProcessRecord :=
  ⟨pid, parent, .running, [], none, none⟩

/-- Whether the process runs. -/
def isRunning (record : ProcessRecord) : Bool := record.state = .running

end ProcessRecord

/-- Records in ascending order of their pids. -/
abbrev ProcessRecords := List ProcessRecord

namespace ProcessRecords

/-- The record of a process. -/
def get? (records : ProcessRecords) (pid : Pid) : Option ProcessRecord :=
  records.find? fun record => record.pid = pid

/-- Whether a process has a record. -/
def has (records : ProcessRecords) (pid : Pid) : Bool := (records.get? pid).isSome

/-- The records with one more, in its place by pid. -/
def insert (record : ProcessRecord) : ProcessRecords → ProcessRecords
  | [] => [record]
  | first :: rest =>
    if record.pid.number < first.pid.number then record :: first :: rest
    else first :: insert record rest

/-- The records with the one of a process changed. -/
def update (records : ProcessRecords) (pid : Pid) (change : ProcessRecord → ProcessRecord) :
    ProcessRecords :=
  records.map fun record => if record.pid = pid then change record else record

/-- The records without the one of a process. -/
def remove (records : ProcessRecords) (pid : Pid) : ProcessRecords :=
  records.filter fun record => record.pid ≠ pid

/-- The records after some processes lost their parent: the running ones become
orphans and the terminated ones go. -/
def forsake (records : ProcessRecords) (children : List Pid) : ProcessRecords :=
  records.filterMap fun record =>
    if record.pid ∈ children then
      if record.isRunning then some { record with parent := none } else none
    else some record

theorem mem_insert {record other : ProcessRecord} {records : ProcessRecords} :
    other ∈ insert record records ↔ other = record ∨ other ∈ records := by
  induction records with
  | nil => simp [insert]
  | cons first rest ih =>
    simp only [insert]
    split
    · simp
    · simp only [List.mem_cons, ih]
      exact or_left_comm

/-- Removing a process hides its record and no other. -/
theorem get?_remove (records : ProcessRecords) (pid other : Pid) :
    (records.remove pid).get? other = if other = pid then none else records.get? other := by
  induction records with
  | nil => simp [remove, get?]
  | cons record rest ih =>
    simp only [remove, get?, List.filter_cons, List.find?_cons] at ih ⊢
    grind

/-- A record found under a pid is the record of that pid. -/
theorem pid_of_get? {records : ProcessRecords} {pid : Pid} {record : ProcessRecord}
    (h : records.get? pid = some record) : record.pid = pid := by
  simpa using List.find?_some h

/-- Changing a record that keeps its pid changes no pid at all. -/
theorem map_pid_update {records : ProcessRecords} {pid : Pid}
    {change : ProcessRecord → ProcessRecord} (h : ∀ record, (change record).pid = record.pid) :
    (records.update pid change).map ProcessRecord.pid = records.map ProcessRecord.pid := by
  simp only [update, List.map_map, List.map_inj_left, Function.comp_apply]
  intro record _
  split
  · exact h record
  · rfl

end ProcessRecords

end SyscallKernel
