import SyscallKernel.Error
import SyscallKernel.Process.Record

/-!
# The process table

The table registers processes, records their termination and lets a parent join
its children. A process with a parent stays as a zombie until it is joined; a
process without one is forgotten at once. When a parent terminates its running
children become orphans and its zombies are discarded. After a shutdown nothing
is registered or joined any more.

Nothing here blocks: a join of a running child records the caller as its waiter
and answers that the join is pending.
-/

namespace SyscallKernel

/-- The answer to an attempt to join. -/
inductive JoinPoll where
  /-- The child had terminated and was reaped. -/
  | ready (how : Termination)
  /-- The child runs; the caller is its waiter. -/
  | pending
  deriving DecidableEq, Repr

/-- What a termination asks of whoever recorded it. -/
structure TerminationNews where
  /-- The process that waited for this termination. -/
  waiter : Option Pid
  /-- No process runs any more. -/
  last : Bool
  deriving DecidableEq, Repr

/-- The process table. -/
structure ProcessTable where
  /-- The greatest number of records. -/
  capacity : Nat
  /-- The records of running and of terminated processes. -/
  records : ProcessRecords
  /-- The next pid to try. -/
  nextPid : Pid
  /-- The process that may halt the machine. -/
  root : Option Pid
  /-- The machine has halted. -/
  isShutdown : Bool
  deriving DecidableEq, Repr

namespace ProcessTable

/-- A table without processes. -/
def empty (capacity : Nat) : ProcessTable := ⟨capacity, [], ⟨1⟩, none, false⟩

/-- The first pid without a record among `tries` consecutive ones from `pid` on,
and the pid to try after it; nothing if all of them have a record. -/
def freePid (records : ProcessRecords) : Nat → Pid → Option (Pid × Pid)
  | 0, _ => none
  | tries + 1, pid =>
    if records.has pid then freePid records tries pid.next else some (pid, pid.next)

/-- The pid for the next process. One more pid is tried than there are records, so
a free one is found unless every pid is taken. -/
def choosePid (table : ProcessTable) : Option (Pid × Pid) :=
  freePid table.records (table.records.length + 1) table.nextPid

/-- Whether a process is registered and running. -/
def isRunning (table : ProcessTable) (pid : Pid) : Bool :=
  (table.records.get? pid).any ProcessRecord.isRunning

/-- Registers a running process. The first one without a parent while there is no
root becomes the root. With a record for every pid the table answers that it is full:
a search for a free pid that knows no end would go on for ever there. A table that
holds fewer than `Pid.limit` records never comes to that. -/
def register (table : ProcessTable) (parent : Option Pid) : Except SysError (ProcessTable × Pid) :=
  if table.isShutdown then .error .shuttingDown
  else if table.capacity ≤ table.records.length then .error .tableFull
  else if parent.any (fun p => !table.isRunning p) then .error .notFound
  else
    match table.choosePid with
    | none => .error .tableFull
    | some (pid, nextPid) =>
      let records := table.records.insert (.fresh pid parent)
      match parent with
      | some p =>
        let records := records.update p fun r => { r with children := r.children ++ [pid] }
        .ok ({ table with records, nextPid }, pid)
      | none => .ok ({ table with records, nextPid, root := table.root.or (some pid) }, pid)

/-- Records the termination of a running process; nothing for any other pid. -/
def terminate (table : ProcessTable) (pid : Pid) (how : Termination) :
    Option (ProcessTable × TerminationNews) :=
  match table.records.get? pid with
  | none => none
  | some record =>
    if record.isRunning then
      let remaining :=
        if record.parent.isSome then
          table.records.update pid fun r =>
            { r with state := .zombie how, children := [], lastReaped := none, waiter := none }
        else table.records.remove pid
      let records := remaining.forsake record.children
      some ({ table with records, root := if table.root = some pid then none else table.root },
        ⟨record.waiter, !records.any ProcessRecord.isRunning⟩)
    else none

/-- Tries to reap a child on behalf of its parent. -/
def pollJoin (table : ProcessTable) (caller child : Pid) :
    Except SysError (ProcessTable × JoinPoll) :=
  if table.isShutdown then .error .shuttingDown
  else
    match table.records.get? caller with
    | none => .error .notFound
    | some record =>
      if child ∈ record.children then
        match table.records.get? child with
        | none => .error .notFound
        | some childRecord =>
          match childRecord.state with
          | .running =>
            let records := table.records.update child fun r => { r with waiter := some caller }
            .ok ({ table with records }, .pending)
          | .zombie how =>
            let records := (table.records.remove child).update caller fun r =>
              { r with children := r.children.filter (· ≠ child), lastReaped := some child }
            .ok ({ table with records }, .ready how)
      else if table.records.has child then .error .permissionDenied
      else if record.lastReaped = some child then .error .alreadyReaped
      else .error .notFound

/-- Shuts the table down and gives up every waiter, in ascending order of the
process waited for. -/
def shutdown (table : ProcessTable) : ProcessTable × List Pid :=
  ({ table with
      records := table.records.map fun r => { r with waiter := none }
      isShutdown := true },
    table.records.filterMap ProcessRecord.waiter)

/-- Whether a process is the root. -/
def isRoot (table : ProcessTable) (pid : Pid) : Bool := table.root = some pid

/-- The state of a registered process. -/
def state? (table : ProcessTable) (pid : Pid) : Option ProcessState :=
  (table.records.get? pid).map ProcessRecord.state

/-- The parent of a registered process, if it has one. -/
def parent? (table : ProcessTable) (pid : Pid) : Option Pid :=
  (table.records.get? pid).bind ProcessRecord.parent

/-- The number of records. -/
def size (table : ProcessTable) : Nat := table.records.length

end ProcessTable

end SyscallKernel
