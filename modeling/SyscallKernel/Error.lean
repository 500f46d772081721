/-!
# Why a system call is refused

One inductive type names every cause of failure inside the kernel, with its
wording. User code never sees the cause: every failure collapses to the one
sentinel value, and the cause is visible in the log only. Faults of user memory
have a type of their own, in `SyscallKernel.Memory.Fault`.
-/

namespace SyscallKernel

/-- The causes for which an operation of the kernel can be refused. -/
inductive SysError where
  /-- An integer argument is out of range. -/
  | invalidArgument
  /-- A name is empty, unterminated, oversized, malformed or unreachable. -/
  | invalidName
  /-- A descriptor is out of range, reserved or not allocated. -/
  | invalidDescriptor
  /-- A user buffer is not mapped or not writable. -/
  | badAddress
  /-- A file, a program image or a process does not exist. -/
  | notFound
  /-- A descriptor table, the file store or the process table is exhausted. -/
  | tableFull
  /-- The caller may not perform the operation. -/
  | permissionDenied
  /-- The child was reaped by the caller's most recent join. -/
  | alreadyReaped
  /-- The kernel has halted. -/
  | shuttingDown
  /-- The call number is unknown. -/
  | notSupported
  deriving DecidableEq, Repr

namespace SysError

/-- The wording of each cause. -/
def message : SysError → String
  | invalidArgument => "invalid argument"
  | invalidName => "invalid name"
  | invalidDescriptor => "invalid file descriptor"
  | badAddress => "bad user address"
  | notFound => "no such file or process"
  | tableFull => "table full"
  | permissionDenied => "permission denied"
  | alreadyReaped => "process already reaped"
  | shuttingDown => "kernel shutting down"
  | notSupported => "unknown system call"

/-- The value that user code receives for every failure. -/
def sentinel : Int32 := -1

/-- The return register for a failure: the same sentinel, whatever the cause. -/
def returnValue (_ : SysError) : Int32 := sentinel

end SysError

end SyscallKernel
