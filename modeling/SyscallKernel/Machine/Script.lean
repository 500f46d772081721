import SyscallKernel.Machine.Action

/-!
# Scripts

A script is a sequence of commands. A command is an action together with the
commands to run while the action waits, one at a time, until its process has been
woken. Each of those runs as a complete command of its own. An action that still
waits when none is left is in a deadlock: it is given up, and nothing is undone.
-/

namespace SyscallKernel

/-- An action, and the commands to run while it waits. -/
inductive Command where
  /-- A command. -/
  | mk (action : Action) (meanwhile : List Command)

/-- The sizes of the kernel's tables. -/
structure Tally where
  /-- The number of live files. -/
  files : Nat
  /-- The number of process records. -/
  processes : Nat
  /-- The machine has halted. -/
  isHalted : Bool
  deriving DecidableEq, Repr

/-- The report of a command: its answer, the tables after it, its own effects, and
the reports of the commands run while it waited. -/
inductive Report (σ : Type) where
  /-- A report. -/
  | mk (answer : Answer σ) (tally : Tally) (effects : List Effect) (nested : List (Report σ))

/-- The end of an action: the machine, its effects, the reports of the commands run
while it waited, and its answer. -/
structure Ending (σ : Type) where
  /-- The machine afterwards. -/
  machine : Machine σ
  /-- The effects of the action itself, in order. -/
  effects : List Effect
  /-- The reports of the commands run meanwhile. -/
  nested : List (Report σ)
  /-- The answer. -/
  answer : Answer σ

namespace Machine

variable {σ : Type} [AddressSpace σ]

/-- The sizes of the kernel's tables. -/
def tally (machine : Machine σ) : Tally :=
  ⟨machine.kernel.files.size, machine.kernel.processes.size, machine.kernel.isHalted⟩

mutual

/-- Runs a command to its end. -/
def run (machine : Machine σ) : Command → Machine σ × Report σ
  | .mk action meanwhile =>
    let ending := await (machine.perform action) meanwhile
    (ending.machine, .mk ending.answer ending.machine.tally ending.effects ending.nested)

/-- Brings an attempt to its end, running commands one by one while it waits. -/
def await (attempt : Attempt σ) : List Command → Ending σ
  | [] =>
    let reached := attempt.advance
    match reached.stage with
    | .done answer => ⟨reached.machine, reached.effects, [], answer⟩
    | .waiting what => ⟨reached.machine.abandon what, reached.effects, [], .deadlock⟩
  | command :: rest =>
    let reached := attempt.advance
    match reached.stage with
    | .done answer => ⟨reached.machine, reached.effects, [], answer⟩
    | .waiting _ =>
      let (machine, report) := run reached.machine command
      let ending := await { reached with machine } rest
      { ending with nested := report :: ending.nested }

end

/-- Runs a script. -/
def runAll (machine : Machine σ) : List Command → List (Report σ)
  | [] => []
  | command :: rest =>
    let (machine, report) := machine.run command
    report :: machine.runAll rest

end Machine

end SyscallKernel
