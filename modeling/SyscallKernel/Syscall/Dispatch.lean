import SyscallKernel.Syscall.Request
import SyscallKernel.Syscall.Service

/-!
# Dispatching system calls

The first turn of a call checks the request and performs it; a join of a running
child ends its turn suspended, and each later turn of it is a resume that asks for
the child again. Nothing is checked, and nothing is logged, once the machine has
halted.
-/

namespace SyscallKernel

namespace Request

variable {σ : Type} [AddressSpace σ]

/-- Performs a checked request. -/
def perform (engine : Engine σ) (kernel : Kernel) (caller : UserProcess σ) (number : Nat) :
    Request → Turn σ
  | .halt => Service.halt kernel caller
  | .exit status => Service.exit kernel caller status
  | .exec image => (Service.exec engine kernel caller image).conclude number
  | .join child status => (Service.join kernel caller ⟨child, status⟩).conclude number
  | .create name => (Service.create kernel caller name).conclude number
  | .openFile name => (Service.openFile kernel caller name).conclude number
  | .read fd file buffer count =>
    (Service.read kernel caller fd file buffer count).conclude number
  | .write fd file buffer count =>
    (Service.write kernel caller fd file buffer count).conclude number
  | .close fd => (Service.close kernel caller fd).conclude number
  | .unlink name => (Service.unlink kernel caller name).conclude number

end Request

namespace Kernel

variable {σ : Type} [AddressSpace σ]

/-- The first turn of a call by a process that still runs, on a machine that has
not halted. -/
def call (engine : Engine σ) (kernel : Kernel) (caller : UserProcess σ) (number : Nat)
    (args : Registers) : Turn σ :=
  match Syscall.ofNumber? number with
  | none =>
    ((Step.still kernel caller (Outcome.failed .notSupported)).conclude number).after
      [.note (.unknownCall caller.pid number)]
  | some call =>
    match Request.ofCall kernel.config caller args call with
    | .error error => (Step.still kernel caller (Outcome.failed error)).conclude number
    | .ok request => request.perform engine kernel caller number

/-- The first turn of a call. -/
def dispatch (engine : Engine σ) (kernel : Kernel) (caller : UserProcess σ) (number : Nat)
    (args : Registers) : Turn σ :=
  if kernel.isHalted then .still kernel caller (.finished .halted)
  else if caller.terminated then
    (Step.still kernel caller (.finished (.returned SysError.sentinel))).after
      [.note (.calledAfterEnd caller.pid number)]
  else
    (kernel.call engine caller number args).after [.note (.called caller.pid number args)]

/-- A later turn of a suspended join. -/
def resume (kernel : Kernel) (caller : UserProcess σ) (pending : PendingJoin) : Turn σ :=
  (Service.join kernel caller pending).conclude Syscall.join.number

end Kernel

end SyscallKernel
