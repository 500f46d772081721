import SyscallKernel.Kernel.State
import SyscallKernel.Process.User

/-!
# Starting and ending processes

A process is torn down exactly once, whatever the cause: its handles are
released, its record becomes a zombie or goes, its waiter is woken, and the
machine halts with its last process. A program is loaded before its process is
registered, so a failed load leaves no trace.
-/

namespace SyscallKernel.Kernel

variable {σ : Type}

/-- Halts the machine if the process that terminated was the last one. -/
def haltIfLast (kernel : Kernel) (news : TerminationNews) : Reaction Unit :=
  if news.last && !kernel.isHalted then
    let down := kernel.shutdown
    ⟨down.kernel, .note .lastProcessExited :: down.effects, ()⟩
  else kernel.answer ()

/-- Tears a process down, unless that happened before. -/
def terminate (kernel : Kernel) (process : UserProcess σ) (how : Termination) :
    Reaction (UserProcess σ) :=
  if process.terminated then kernel.answer process
  else
    let ended := { process with terminated := true, files := .cleared }
    let released := kernel.releaseHandles process.files.handles
    let recorded := released.kernel.recordTermination process.pid how
    match recorded.value with
    | none => ⟨recorded.kernel, released.effects ++ recorded.effects, ended⟩
    | some news =>
      let wakes := news.waiter.toList.map Effect.wake
      let last := recorded.kernel.haltIfLast news
      ⟨last.kernel, released.effects ++ recorded.effects ++ wakes ++ last.effects, ended⟩

/-- Ends a process with a status. -/
def exit (kernel : Kernel) (process : UserProcess σ) (status : Register) :
    Reaction (UserProcess σ) :=
  kernel.terminate process (.exited status)

/-- Kills a process for a fault of its own. -/
def abort (kernel : Kernel) (process : UserProcess σ) (fault : Fault) :
    Reaction (UserProcess σ) :=
  let ended := kernel.terminate process .killed
  { ended with effects := .note (.killed process.pid fault) :: ended.effects }

/-- Lets a new process do what it does first. -/
def begin (kernel : Kernel) (process : UserProcess σ) : Start → Reaction (UserProcess σ)
  | .park => kernel.answer process
  | .exit status => kernel.exit process status
  | .abort fault => kernel.abort process fault

/-- Loads a program and starts it as a child of `parent`. -/
def spawn (engine : Engine σ) (kernel : Kernel) (parent : Option Pid) (image : ProgramImage) :
    Reaction (Except SysError (UserProcess σ)) :=
  if kernel.isHalted then kernel.answer (.error .shuttingDown)
  else
    match engine.load image with
    | .error error => kernel.answer (.error error)
    | .ok memory =>
      let registered := kernel.registerProcess parent
      match registered.value with
      | .error error => ⟨registered.kernel, registered.effects, .error error⟩
      | .ok pid =>
        let spawned := Effect.note (.spawned image.name pid parent image.args.length)
        let begun := registered.kernel.begin (.fresh pid memory) (engine.start image)
        { kernel := begun.kernel
          effects := registered.effects ++ [spawned, .started pid image] ++ begun.effects
          value := .ok begun.value }

/-- Starts the root process from a program name. -/
def boot (engine : Engine σ) (kernel : Kernel) (program : Bytes) (args : List Bytes) :
    Reaction (Except SysError (UserProcess σ)) :=
  match FileName.ofBytes program with
  | .error error => kernel.answer (.error error)
  | .ok name =>
    let spawned := kernel.spawn engine none ⟨name, args⟩
    { spawned with effects := .note (.booting name) :: spawned.effects }

end SyscallKernel.Kernel
