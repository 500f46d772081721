import SyscallKernel.Memory.Address

/-!
# Limits of the kernel

The limits that a kernel is built with. They bound tables and argument vectors;
the length of a single argument is fixed.
-/

namespace SyscallKernel

/-- The greatest length of one program argument in bytes. -/
def maxArgLength : Nat := 256

/-- The limits of a kernel. -/
structure Config where
  /-- Entries of the file store, unlinked ones still open included. -/
  maxFiles : Nat := 256
  /-- Processes of the process table, running or not yet joined. -/
  maxProcesses : Nat := 64
  /-- The most arguments of a program: one page of 32-bit pointers. -/
  maxArgs : Nat := pageSize / 4
  /-- The most bytes of all arguments of a program, terminators included. -/
  argBytes : Nat := pageSize
  deriving DecidableEq, Repr

end SyscallKernel
