import SyscallKernel.Syscall.Dispatch

/-!
# The machine around a kernel

A machine is a kernel, the engine that runs its programs, the user processes that
are not in the middle of a step, and the wake-ups not yet used. A wake-up is a
permit: it waits for its process if the process does not wait for it.
-/

namespace SyscallKernel

/-- A kernel with the processes and wake-ups around it. -/
structure Machine (σ : Type) where
  /-- The engine that runs programs. -/
  engine : Engine σ
  /-- The kernel. -/
  kernel : Kernel
  /-- The processes that are not in the middle of a step, ended ones included. -/
  parked : List (UserProcess σ)
  /-- The processes with an unused wake-up. -/
  permits : List Pid

namespace Machine

variable {σ : Type}

/-- A machine that was just switched on. -/
def new (engine : Engine σ) (kernel : Kernel) : Machine σ := ⟨engine, kernel, [], []⟩

/-- A parked process. -/
def find? (machine : Machine σ) (pid : Pid) : Option (UserProcess σ) :=
  machine.parked.find? fun process => process.pid = pid

/-- Takes a process out of the parked ones. -/
def unpark (machine : Machine σ) (pid : Pid) : Machine σ :=
  { machine with parked := machine.parked.filter fun process => process.pid ≠ pid }

/-- Parks a process under its pid. -/
def park (machine : Machine σ) (process : UserProcess σ) : Machine σ :=
  { machine with parked := process :: (machine.unpark process.pid).parked }

/-- Leaves a process a permit. -/
def permit (machine : Machine σ) (pid : Pid) : Machine σ :=
  { machine with permits := pid :: machine.permits.filter (· ≠ pid) }

/-- Whether a process has a permit. -/
def hasPermit (machine : Machine σ) (pid : Pid) : Bool := machine.permits.contains pid

/-- Uses the permit of a process up. -/
def consume (machine : Machine σ) (pid : Pid) : Machine σ :=
  { machine with permits := machine.permits.filter (· ≠ pid) }

/-- The machine after the kernel has moved on with some effects: every wake-up
leaves a permit. -/
def absorb (machine : Machine σ) (kernel : Kernel) (effects : List Effect) : Machine σ :=
  (effects.filterMap Effect.wake?).foldl permit { machine with kernel }

end Machine

end SyscallKernel
