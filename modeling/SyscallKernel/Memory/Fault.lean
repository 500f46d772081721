import SyscallKernel.Error
import SyscallKernel.Memory.Address

/-!
# Faults of user memory

A fault is a value: the first address that could not be accessed and what was
wrong with it. The kernel decides what a fault means; inside a system call every
fault is a bad address.
-/

namespace SyscallKernel

/-- What was wrong with an access to user memory. -/
inductive FaultKind where
  /-- The address is not mapped. -/
  | unmapped
  /-- The page is mapped read-only and a write was attempted. -/
  | readOnly
  /-- The range runs past the last address. -/
  | overflow
  deriving DecidableEq, Repr

/-- The direction of an access, seen from the kernel. -/
inductive AccessKind where
  /-- The kernel reads user memory. -/
  | read
  /-- The kernel writes user memory. -/
  | write
  deriving DecidableEq, Repr

/-- A failed access to user memory. -/
structure Fault where
  /-- The first address that could not be accessed. -/
  addr : UserAddr
  /-- What was wrong with it. -/
  kind : FaultKind
  deriving DecidableEq

namespace Fault

/-- The wording of a fault. -/
def message (fault : Fault) : String :=
  match fault.kind with
  | .unmapped => s!"unmapped address {fault.addr.render}"
  | .readOnly => s!"write to read-only address {fault.addr.render}"
  | .overflow => s!"address range overflow at {fault.addr.render}"

/-- Inside a system call every fault is a bad address. -/
def toSysError (_ : Fault) : SysError := .badAddress

end Fault

end SyscallKernel
