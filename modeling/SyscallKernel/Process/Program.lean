import SyscallKernel.File.Name
import SyscallKernel.Memory.Fault

/-!
# Programs and the engine that runs them

The kernel does not run user code. It hands a program image to an engine, which
builds the memory of the new process and then says what the process does first:
it may stay in the engine's hands, or it may end at once.
-/

namespace SyscallKernel

/-- A program to load, with its arguments. -/
structure ProgramImage where
  /-- The name of the executable. -/
  name : FileName
  /-- The argument strings, without terminators. -/
  args : List Bytes
  deriving DecidableEq

/-- What a process does as soon as it is started. -/
inductive Start where
  /-- It is parked and makes its calls later. -/
  | park
  /-- It exits. -/
  | exit (status : Register)
  /-- It is killed by a fault. -/
  | abort (fault : Fault)
  deriving DecidableEq

/-- Loads and runs programs. -/
structure Engine (σ : Type) where
  /-- Builds the memory for an image. -/
  load : ProgramImage → Except SysError σ
  /-- What a process started from an image does first. -/
  start : ProgramImage → Start

end SyscallKernel
