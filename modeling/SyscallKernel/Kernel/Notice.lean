import SyscallKernel.File.Store
import SyscallKernel.File.Descriptor
import SyscallKernel.Memory.Fault
import SyscallKernel.Process.Record
import SyscallKernel.Process.Program
import SyscallKernel.Syscall.Number

/-!
# Notices and effects

What the kernel says and does to the world outside its tables. A notice is one
log record: what happened, with the facts its text shows. An effect is a notice,
a wake-up for a blocked process, or the report that a program was started. Texts
and levels are given here and nowhere else.
-/

namespace SyscallKernel

/-- The importance of a log record. -/
inductive Level where
  /-- Every call. -/
  | trace
  /-- Ordinary events. -/
  | debug
  /-- Events in the life of processes and of the machine. -/
  | info
  /-- Misuse and exhaustion. -/
  | warn
  deriving DecidableEq, Repr

namespace Level

/-- The name of a level. -/
def name : Level → String
  | trace => "TRACE"
  | debug => "DEBUG"
  | info => "INFO"
  | warn => "WARN"

end Level

/-- A log record. -/
inductive Notice where
  /-- A linked file was emptied and opened. -/
  | fileTruncated (name : FileName) (openCount : Nat)
  /-- A file could not be created for lack of room. -/
  | storeFull (name : FileName)
  /-- A file was created. -/
  | fileCreated (name : FileName) (id : FileId)
  /-- A name was removed while handles are open. -/
  | unlinkPending (name : FileName)
  /-- A name and its file were removed. -/
  | unlinkFreed (name : FileName)
  /-- A handle on a file that is gone was released. -/
  | releaseStale (id : FileId)
  /-- A handle was released on a file that has none open. -/
  | releaseUnheld (name : FileName)
  /-- The last handle of an unlinked file was released. -/
  | lastHandleReleased (name : FileName)
  /-- A created file was installed behind a descriptor. -/
  | descriptorCreated (pid : Pid) (name : FileName) (fd : Fd)
  /-- A process was registered. -/
  | registered (pid : Pid) (parent : Option Pid)
  /-- A program was started. -/
  | spawned (name : FileName) (pid : Pid) (parent : Option Pid) (argc : Nat)
  /-- A process terminated. -/
  | terminated (pid : Pid) (how : Termination)
  /-- A parent joined a terminated child. -/
  | reaped (caller child : Pid)
  /-- A process is about to be killed by a fault of its own. -/
  | killed (pid : Pid) (fault : Fault)
  /-- The root process is about to be started. -/
  | booting (name : FileName)
  /-- No process runs any more. -/
  | lastProcessExited
  /-- A process that is not the root tried to halt the machine. -/
  | haltDenied (pid : Pid)
  /-- The root halts the machine. -/
  | haltRequested (pid : Pid)
  /-- A process made a call. -/
  | called (pid : Pid) (number : Nat) (args : Registers)
  /-- A process that was already torn down made a call. -/
  | calledAfterEnd (pid : Pid) (number : Nat)
  /-- A call number is unknown. -/
  | unknownCall (pid : Pid) (number : Nat)
  /-- A call failed. -/
  | callFailed (pid : Pid) (number : Nat) (error : SysError)
  deriving DecidableEq

namespace Notice

/-- The level of each record. -/
def level : Notice → Level
  | fileTruncated .. => .debug
  | storeFull .. => .warn
  | fileCreated .. => .debug
  | unlinkPending .. => .debug
  | unlinkFreed .. => .debug
  | releaseStale .. => .warn
  | releaseUnheld .. => .warn
  | lastHandleReleased .. => .debug
  | descriptorCreated .. => .debug
  | registered .. => .debug
  | spawned .. => .info
  | terminated .. => .info
  | reaped .. => .info
  | killed .. => .warn
  | booting .. => .info
  | lastProcessExited => .info
  | haltDenied .. => .warn
  | haltRequested .. => .info
  | called .. => .trace
  | calledAfterEnd .. => .debug
  | unknownCall .. => .warn
  | callFailed .. => .debug

/-- The registers of a call, between brackets. -/
def registersText (args : Registers) : String :=
  "[" ++ String.intercalate ", " (args.toList.map Register.render) ++ "]"

/-- The text of each record. -/
def text : Notice → String
  | fileTruncated name openCount => s!"[FS] truncated {name.text} (open_count={openCount})"
  | storeFull name => s!"[FS] store full, cannot create {name.text}"
  | fileCreated name id => s!"[FS] created {name.text} as {id.describe}"
  | unlinkPending name => s!"[FS] {name.text} unlinked, deletion pending"
  | unlinkFreed name => s!"[FS] {name.text} unlinked and freed"
  | releaseStale id => s!"[FS] release of stale {id.describe}"
  | releaseUnheld name => s!"[FS] release of {name.text} with no open handles"
  | lastHandleReleased name => s!"[FS] last handle on unlinked {name.text} closed, freeing"
  | descriptorCreated pid name fd => s!"[FS] {pid.render} created {name.text} on {Fd.describe fd}"
  | registered pid parent =>
    s!"[PROCESS] registered {pid.render} (parent={Pid.describe? parent})"
  | spawned name pid parent argc =>
    s!"[PROCESS] spawned {name.text} as {pid.render} (parent={Pid.describe? parent}, argc={argc})"
  | terminated pid how => s!"[PROCESS] {pid.render} terminated: {how.describe}"
  | reaped caller child => s!"[PROCESS] {caller.render} reaped {child.render}"
  | killed pid fault => s!"[EXCEPTION] process {pid.render} killed: {fault.message}"
  | booting name => s!"[KERNEL] booting {name.text}"
  | lastProcessExited => "[KERNEL] last process exited, shutting down"
  | haltDenied pid => s!"[KERNEL] halt denied for non-root process {pid.render}"
  | haltRequested pid => s!"[KERNEL] halt requested by {pid.render}"
  | called pid number args =>
    s!"[SYSCALL] {pid.render}: {Syscall.nameOfNumber number}({registersText args})"
  | calledAfterEnd pid number =>
    s!"[SYSCALL] {Syscall.nameOfNumber number} from terminated process {pid.render}"
  | unknownCall pid number => s!"[SYSCALL] Unknown syscall {number} from {pid.render}"
  | callFailed pid number error =>
    s!"[SYSCALL] {Syscall.nameOfNumber number} failed for {pid.render}: {error.message}"

/-- A record as one line: the level and the text. -/
def line (notice : Notice) : String := notice.level.name ++ " " ++ notice.text

/-- What a creation reports. -/
def ofCreation (name : FileName) : FileStore.Creation → Notice
  | .truncated _ openCount => fileTruncated name openCount
  | .created handle => fileCreated name handle.id
  | .full => storeFull name

/-- What the removal of a name reports. -/
def ofUnlinking (name : FileName) : FileStore.Unlinking → Notice
  | .pending => unlinkPending name
  | .freed => unlinkFreed name

/-- What the release of a handle reports, if anything. -/
def ofRelease? : FileStore.Release → Option Notice
  | .stale id => some (releaseStale id)
  | .unheld name => some (releaseUnheld name)
  | .kept => none
  | .freed name => some (lastHandleReleased name)

end Notice

/-- What the kernel does to the world outside its tables. -/
inductive Effect where
  /-- A log record. -/
  | note (notice : Notice)
  /-- A wake-up: the process becomes runnable, or keeps a permit for its next wait. -/
  | wake (pid : Pid)
  /-- The engine took over a new process. -/
  | started (pid : Pid) (image : ProgramImage)
  deriving DecidableEq

namespace Effect

/-- The log record of an effect. -/
def notice? : Effect → Option Notice
  | note notice => some notice
  | wake _ => none
  | started .. => none

/-- The process an effect wakes. -/
def wake? : Effect → Option Pid
  | note _ => none
  | wake pid => some pid
  | started .. => none

/-- The process an effect starts, and its program. -/
def started? : Effect → Option (Pid × ProgramImage)
  | note _ => none
  | wake _ => none
  | started pid image => some (pid, image)

end Effect

end SyscallKernel
