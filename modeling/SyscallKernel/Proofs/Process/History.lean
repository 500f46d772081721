import SyscallKernel.Proofs.Process.Numbering
import SyscallKernel.Session.Processes

/-!
# Histories of a process table

A history is the list of calls made on a new table, each with its answer, the
latest first. Everything here is read off the calls and answers alone: who was
registered with which parent, who terminated and how, and who was reaped by whom.
-/

namespace SyscallKernel

/-- A call of one of the operations that can change a process table. -/
inductive TableCall where
  /-- Register a process. -/
  | register (parent : Option Pid)
  /-- Record a termination. -/
  | terminate (pid : Pid) (how : Termination)
  /-- Ask for a child once. -/
  | pollJoin (caller child : Pid)
  /-- Shut the table down. -/
  | shutdown
  deriving DecidableEq

/-- The call as a step of a session. -/
def TableCall.action : TableCall → ProcessAction
  | register parent => .register parent
  | terminate pid how => .terminate pid how
  | pollJoin caller child => .pollJoin caller child
  | shutdown => .shutdown

/-- The calls on a table and their answers, the latest first. -/
abbrev TableHistory := List (TableCall × ProcessAnswer)

namespace TableHistory

/-- The pid and the parent that a successful registration gives. -/
def registration? : TableCall × ProcessAnswer → Option (Pid × Option Pid)
  | (.register parent, .registered pid) => some (pid, parent)
  | _ => none

/-- The process that a termination was recorded for, and how it ended. -/
def termination? : TableCall × ProcessAnswer → Option (Pid × Termination)
  | (.terminate pid how, .news (some _)) => some (pid, how)
  | _ => none

/-- The parent and the child of a successful join. -/
def reaping? : TableCall × ProcessAnswer → Option (Pid × Pid)
  | (.pollJoin caller child, .polled (.ready _)) => some (caller, child)
  | _ => none

/-- The processes ever registered, each with its parent. -/
def registrations (history : TableHistory) : List (Pid × Option Pid) :=
  history.filterMap registration?

/-- The processes that terminated, each with its end. -/
def terminations (history : TableHistory) : List (Pid × Termination) :=
  history.filterMap termination?

/-- The successful joins, each with the parent and the child. -/
def reapings (history : TableHistory) : List (Pid × Pid) := history.filterMap reaping?

/-- Whether the table was shut down. -/
def isShutdown (history : TableHistory) : Bool := history.any fun entry => entry.1 = .shutdown

end TableHistory

namespace ProcessTable

/-- The histories of a new table, and the tables they lead to. -/
inductive Recorded (capacity : Nat) : TableHistory → ProcessTable → Prop where
  /-- Nothing was called yet. -/
  | start : Recorded capacity [] (empty capacity)
  /-- One more call. -/
  | call {history : TableHistory} {table : ProcessTable} (call : TableCall)
    (earlier : Recorded capacity history table) :
    Recorded capacity ((call, (call.action.run table).2) :: history) (call.action.run table).1

/-- What one call does to a table and answers. -/
inductive Happening (table : ProcessTable) : TableCall × ProcessAnswer → ProcessTable → Prop where
  /-- A process is registered. -/
  | registered {parent : Option Pid} {pid : Pid} {table' : ProcessTable}
    (registration : Registration table parent table' pid) :
    Happening table (.register parent, .registered pid) table'
  /-- A process terminates. -/
  | ended {pid : Pid} {how : Termination} {record : ProcessRecord} {table' : ProcessTable}
    {news : TerminationNews} (ending : Ending table pid how record table' news) :
    Happening table (.terminate pid how, .news (some news)) table'
  /-- A child is reaped. -/
  | reaped {caller child : Pid} {how : Termination} {table' : ProcessTable}
    (reaping : Reaping table caller child how table') :
    Happening table (.pollJoin caller child, .polled (.ready how)) table'
  /-- A parent is told to wait. -/
  | awaited {caller child : Pid} {table' : ProcessTable}
    (awaiting : Awaiting table caller child table') :
    Happening table (.pollJoin caller child, .polled .pending) table'
  /-- The table is shut down. -/
  | shutdown : Happening table (.shutdown, .waiters table.shutdown.2) table.shutdown.1
  /-- A registration is refused. -/
  | notRegistered {parent : Option Pid} {error : SysError} :
    Happening table (.register parent, .refused error) table
  /-- There is nobody to terminate. -/
  | notEnded {pid : Pid} {how : Termination} : Happening table (.terminate pid how, .news none) table
  /-- A join is refused. -/
  | notJoined {caller child : Pid} {error : SysError} :
    Happening table (.pollJoin caller child, .refused error) table

variable {table : ProcessTable} {capacity : Nat} {history : TableHistory}

/-- Each call is one of these happenings. -/
theorem happening (wellFormed : table.WellFormed) (call : TableCall) :
    Happening table (call, (call.action.run table).2) (call.action.run table).1 := by
  cases call with
  | register parent =>
    simp only [TableCall.action, ProcessAction.run]
    cases result : table.register parent with
    | error error => exact .notRegistered
    | ok registered => exact .registered (registration_of_register result)
  | terminate pid how =>
    simp only [TableCall.action, ProcessAction.run]
    cases result : table.terminate pid how with
    | none => exact .notEnded
    | some ended =>
      obtain ⟨record, ending⟩ := ending_of_terminate wellFormed result
      exact .ended ending
  | pollJoin caller child =>
    simp only [TableCall.action, ProcessAction.run]
    cases result : table.pollJoin caller child with
    | error error => exact .notJoined
    | ok joined =>
      obtain ⟨table', poll⟩ := joined
      cases poll with
      | ready how => exact .reaped (reaping_of_pollJoin wellFormed result)
      | pending => exact .awaited (awaiting_of_pollJoin wellFormed result)
  | shutdown => exact .shutdown

theorem Happening.wellFormed {entry : TableCall × ProcessAnswer} {table' : ProcessTable}
    (happening : Happening table entry table') (wellFormed : table.WellFormed) :
    table'.WellFormed := by
  cases happening with
  | registered registration => exact registration.wellFormed wellFormed
  | ended ending => exact ending.wellFormed wellFormed
  | reaped reaping => exact reaping.wellFormed wellFormed
  | awaited awaiting => exact awaiting.wellFormed wellFormed
  | shutdown => exact wellFormed_shutdown wellFormed
  | notRegistered => exact wellFormed
  | notEnded => exact wellFormed
  | notJoined => exact wellFormed

/-- Every table that calls can lead to is well formed. -/
theorem Recorded.wellFormed (recorded : Recorded capacity history table) :
    table.WellFormed := by
  induction recorded with
  | start => exact wellFormed_empty capacity
  | call call _ ih => exact (happening ih call).wellFormed ih

end ProcessTable

end SyscallKernel
