import SyscallKernel.Console

/-!
# Console sessions

One operation after another on a console buffer, each with its answer.
-/

namespace SyscallKernel

/-- An operation on a console buffer. -/
inductive ConsoleAction where
  /-- Queue input. -/
  | push (data : Bytes)
  /-- Read queued input. -/
  | read (count : Nat)
  /-- Write output. -/
  | write (data : Bytes)
  /-- Take the captured output. -/
  | takeOutput

/-- The answer to an operation on a console buffer. -/
inductive ConsoleAnswer where
  /-- Nothing to say. -/
  | done
  /-- Bytes. -/
  | bytes (data : Bytes)
  /-- The number of bytes written. -/
  | count (n : Nat)
  deriving DecidableEq

namespace ConsoleAction

/-- The console after an operation, and the answer. -/
def run (console : ConsoleBuffer) : ConsoleAction → ConsoleBuffer × ConsoleAnswer
  | .push data => (console.push data, .done)
  | .read count =>
    let (data, console) := console.read count
    (console, .bytes data)
  | .write data => (console.write data, .count data.length)
  | .takeOutput =>
    let (data, console) := console.takeOutput
    (console, .bytes data)

/-- The answers to the operations of a session. -/
def runAll (console : ConsoleBuffer) : List ConsoleAction → List ConsoleAnswer
  | [] => []
  | action :: rest =>
    let (console, answer) := action.run console
    answer :: runAll console rest

end ConsoleAction

end SyscallKernel
