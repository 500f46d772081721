import SyscallKernel.File.Descriptor

/-!
# User processes

What the kernel needs to know of a caller: its pid, its descriptor table, its
memory, and whether it was already torn down. None of it is shared with another
process.
-/

namespace SyscallKernel

/-- The kernel's side of one user process, with memory of type `σ`. -/
structure UserProcess (σ : Type) where
  /-- The pid of the process. -/
  pid : Pid
  /-- The descriptor table. -/
  files : DescriptorTable
  /-- The user memory. -/
  memory : σ
  /-- The process was torn down. -/
  terminated : Bool

namespace UserProcess

/-- A process that has just been started. -/
def fresh {σ : Type} (pid : Pid) (memory : σ) : UserProcess σ := ⟨pid, .new, memory, false⟩

/-- The debug text of a process. -/
def describe {σ : Type} (process : UserProcess σ) : String :=
  "UserProcess \x7b pid: " ++ process.pid.describe ++
    ", open_files: " ++ toString process.files.openCount ++
    ", terminated: " ++ toString process.terminated ++ " \x7d"

end UserProcess

end SyscallKernel
