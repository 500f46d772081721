import SyscallKernel.Config
import SyscallKernel.Console
import SyscallKernel.Kernel.Notice
import SyscallKernel.Process.Table

/-!
# The state shared by all processes

The kernel owns the file store, the process table and the console. Each operation
on one of the two tables is lifted here to the kernel, together with the notices
that it gives; every change of the tables goes through these operations.
-/

namespace SyscallKernel

/-- The state of the kernel. -/
structure Kernel where
  /-- The limits the kernel was built with. -/
  config : Config
  /-- The files. -/
  files : FileStore
  /-- The processes. -/
  processes : ProcessTable
  /-- The console. -/
  console : ConsoleDevice

/-- The outcome of an operation on the kernel: the state after it, its effects in
order, and its value. -/
structure Reaction (α : Type) where
  /-- The state afterwards. -/
  kernel : Kernel
  /-- What happened outside the tables, in order. -/
  effects : List Effect
  /-- The answer. -/
  value : α

namespace Kernel

/-- A kernel with empty tables. -/
def new (config : Config) (console : ConsoleDevice) : Kernel :=
  ⟨config, .empty config.maxFiles, .empty config.maxProcesses, console⟩

/-- Whether the machine has halted. -/
def isHalted (kernel : Kernel) : Bool := kernel.processes.isShutdown

/-- The kernel as it is, with an answer. -/
def answer {α : Type} (kernel : Kernel) (value : α) : Reaction α := ⟨kernel, [], value⟩

/-- Creates or empties a file and opens it for `owner`. -/
def createFile (kernel : Kernel) (name : FileName) (owner : Pid) :
    Reaction (Except SysError FileHandle) :=
  let (files, creation) := kernel.files.create name owner
  { kernel := { kernel with files }
    effects := [.note (.ofCreation name creation)]
    value := creation.handle?.elim (.error .tableFull) .ok }

/-- Opens a linked file for `owner`. -/
def openFile (kernel : Kernel) (name : FileName) (owner : Pid) :
    Reaction (Except SysError FileHandle) :=
  match kernel.files.openLinked name owner with
  | none => kernel.answer (.error .notFound)
  | some (files, handle) => { kernel with files }.answer (.ok handle)

/-- Removes a file name. -/
def unlinkFile (kernel : Kernel) (name : FileName) : Reaction (Except SysError Unit) :=
  match kernel.files.unlink name with
  | none => kernel.answer (.error .notFound)
  | some (files, unlinking) =>
    { kernel := { kernel with files }
      effects := [.note (.ofUnlinking name unlinking)]
      value := .ok () }

/-- Releases handles, in order. -/
def releaseHandles (kernel : Kernel) (handles : List FileHandle) : Reaction Unit :=
  let (files, releases) := kernel.files.releaseAll handles
  { kernel := { kernel with files }
    effects := (releases.filterMap Notice.ofRelease?).map .note
    value := () }

/-- Registers a process. -/
def registerProcess (kernel : Kernel) (parent : Option Pid) : Reaction (Except SysError Pid) :=
  match kernel.processes.register parent with
  | .error error => kernel.answer (.error error)
  | .ok (processes, pid) =>
    { kernel := { kernel with processes }
      effects := [.note (.registered pid parent)]
      value := .ok pid }

/-- Records that a process terminated. -/
def recordTermination (kernel : Kernel) (pid : Pid) (how : Termination) :
    Reaction (Option TerminationNews) :=
  match kernel.processes.terminate pid how with
  | none => kernel.answer none
  | some (processes, news) =>
    { kernel := { kernel with processes }
      effects := [.note (.terminated pid how)]
      value := some news }

/-- Tries to reap a child. -/
def pollJoin (kernel : Kernel) (caller child : Pid) : Reaction (Except SysError JoinPoll) :=
  match kernel.processes.pollJoin caller child with
  | .error error => kernel.answer (.error error)
  | .ok (processes, .pending) => { kernel with processes }.answer (.ok .pending)
  | .ok (processes, .ready how) =>
    { kernel := { kernel with processes }
      effects := [.note (.reaped caller child)]
      value := .ok (.ready how) }

/-- Shuts the machine down and wakes everyone who waits for a child. -/
def shutdown (kernel : Kernel) : Reaction Unit :=
  let (processes, waiters) := kernel.processes.shutdown
  ⟨{ kernel with processes }, waiters.map .wake, ()⟩

/-- Shuts the machine down on behalf of the root process. -/
def halt (kernel : Kernel) (caller : Pid) : Reaction (Except SysError Unit) :=
  if kernel.processes.isRoot caller then
    let down := kernel.shutdown
    ⟨down.kernel, .note (.haltRequested caller) :: down.effects, .ok ()⟩
  else ⟨kernel, [.note (.haltDenied caller)], .error .permissionDenied⟩

end Kernel

end SyscallKernel
