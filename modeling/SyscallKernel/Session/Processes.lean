import SyscallKernel.Process.Table

/-!
# Process sessions

One operation after another on a process table, each with its answer.
-/

namespace SyscallKernel

/-- An operation on a process table. -/
inductive ProcessAction where
  /-- Register a process. -/
  | register (parent : Option Pid)
  /-- Record a termination. -/
  | terminate (pid : Pid) (how : Termination)
  /-- Ask for a child once. -/
  | pollJoin (caller child : Pid)
  /-- Shut the table down. -/
  | shutdown
  /-- Ask whether the table is shut down. -/
  | isShutdown
  /-- Ask whether the table is empty. -/
  | isEmpty
  /-- Ask whether a process is the root. -/
  | isRoot (pid : Pid)
  /-- Ask for the state of a process. -/
  | state (pid : Pid)
  /-- Ask for the parent of a process. -/
  | parent (pid : Pid)
  /-- Register, terminate and join a child of `parent`, `count` times over. -/
  | churn (parent : Pid) (count : Nat)

/-- The answer to an operation on a process table. -/
inductive ProcessAnswer where
  /-- The pid of a new process. -/
  | registered (pid : Pid)
  /-- The news of a termination, unless the process was not running. -/
  | news (news : Option TerminationNews)
  /-- The answer to an attempt to join. -/
  | polled (poll : JoinPoll)
  /-- The waiters given up. -/
  | waiters (pids : List Pid)
  /-- A truth value. -/
  | flag (value : Bool)
  /-- The state of a process, if it is registered. -/
  | state (state : Option ProcessState)
  /-- A pid, if there is one. -/
  | pid (pid : Option Pid)
  /-- The operation failed. -/
  | refused (error : SysError)
  deriving DecidableEq

namespace ProcessTable

/-- Registers, terminates and joins children of `parent` one after the other. The
answer is the pid of the last, or the first error. -/
def churn (table : ProcessTable) (parent : Pid) :
    Nat → Option Pid → ProcessTable × ProcessAnswer
  | 0, last => (table, .pid last)
  | count + 1, _ =>
    match table.register (some parent) with
    | .error error => (table, .refused error)
    | .ok (table, pid) =>
      let table := ((table.terminate pid (.exited 0)).map Prod.fst).getD table
      match table.pollJoin parent pid with
      | .error error => (table, .refused error)
      | .ok (table, _) => table.churn parent count (some pid)

end ProcessTable

namespace ProcessAction

/-- The table after an operation, and the answer. -/
def run (table : ProcessTable) : ProcessAction → ProcessTable × ProcessAnswer
  | .register parent? =>
    match table.register parent? with
    | .error error => (table, .refused error)
    | .ok (table, pid) => (table, .registered pid)
  | .terminate pid how =>
    match table.terminate pid how with
    | none => (table, .news none)
    | some (table, news) => (table, .news (some news))
  | .pollJoin caller child =>
    match table.pollJoin caller child with
    | .error error => (table, .refused error)
    | .ok (table, poll) => (table, .polled poll)
  | .shutdown =>
    let (table, waiters) := table.shutdown
    (table, .waiters waiters)
  | .isShutdown => (table, .flag table.isShutdown)
  | .isEmpty => (table, .flag (table.size == 0))
  | .isRoot pid => (table, .flag (table.isRoot pid))
  | .state pid => (table, .state (table.state? pid))
  | .parent pid => (table, .pid (table.parent? pid))
  | .churn pid count => table.churn pid count none

/-- The answers to the operations of a session, each with the number of records
after it. -/
def runAll (table : ProcessTable) : List ProcessAction → List (ProcessAnswer × Nat)
  | [] => []
  | action :: rest =>
    let (table, answer) := action.run table
    (answer, table.size) :: runAll table rest

end ProcessAction

end SyscallKernel
