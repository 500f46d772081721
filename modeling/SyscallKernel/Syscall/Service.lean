import SyscallKernel.Kernel.Lifecycle
import SyscallKernel.Syscall.Transfer
import SyscallKernel.Syscall.Turn

/-!
# The services behind the calls

What the kernel does for each call once its arguments are known to be good. Every
service works on the kernel and the caller alone; it answers a value, fails, or
waits for a child.
-/

namespace SyscallKernel

namespace Service

variable {σ : Type} [AddressSpace σ]

/-- Installs a handle for the caller. A handle that finds no descriptor is released. -/
def install (step : Step σ (Except SysError FileHandle)) : Step σ (Except SysError Fd) :=
  match step.value with
  | .error error => { step with value := .error error }
  | .ok handle =>
    match step.caller.files.allocate handle with
    | some (files, fd) => { step with caller := { step.caller with files }, value := .ok fd }
    | none =>
      let released := step.kernel.releaseHandles [handle]
      { step with
        kernel := released.kernel
        effects := step.effects ++ released.effects
        value := .error .tableFull }

/-- Creates a file and opens it on the lowest free descriptor. -/
def create (kernel : Kernel) (caller : UserProcess σ) (name : FileName) : Step σ Outcome :=
  let step := install ((kernel.createFile name caller.pid).toStep caller)
  match step.value with
  | .error error => { step with value := .failed error }
  | .ok fd =>
    { step with
      effects := step.effects ++ [.note (.descriptorCreated caller.pid name fd)]
      value := .answered (Fd.toRegister fd) }

/-- Opens a file on the lowest free descriptor. -/
def openFile (kernel : Kernel) (caller : UserProcess σ) (name : FileName) : Step σ Outcome :=
  let step := install ((kernel.openFile name caller.pid).toStep caller)
  match step.value with
  | .error error => { step with value := .failed error }
  | .ok fd => { step with value := .answered (Fd.toRegister fd) }

/-- Closes a descriptor and releases its handle. -/
def close (kernel : Kernel) (caller : UserProcess σ) (fd : Fd) : Step σ Outcome :=
  match caller.files.release fd with
  | none => .still kernel caller (.failed .invalidDescriptor)
  | some (files, handle) =>
    let released := kernel.releaseHandles [handle]
    ⟨released.kernel, { caller with files }, released.effects, none, .answered 0⟩

/-- Removes a file name. -/
def unlink (kernel : Kernel) (caller : UserProcess σ) (name : FileName) : Step σ Outcome :=
  let removed := kernel.unlinkFile name
  match removed.value with
  | .error error => { removed.toStep caller with value := .failed error }
  | .ok () => { removed.toStep caller with value := .answered 0 }

/-- Starts a program as a child of the caller. -/
def exec (engine : Engine σ) (kernel : Kernel) (caller : UserProcess σ) (image : ProgramImage) :
    Step σ Outcome :=
  let spawned := kernel.spawn engine (some caller.pid) image
  match spawned.value with
  | .error error => { spawned.toStep caller with value := .failed error }
  | .ok child =>
    { spawned.toStep caller with
      child := some child
      value := .answered child.pid.toRegister }

/-- Puts the parts a transfer has changed back into their places. -/
def settle (kernel : Kernel) (caller : UserProcess σ) (fd : Fd)
    (moved : Transferred σ ConsoleDevice) : Step σ Outcome :=
  let (t, result) := moved
  { kernel := { kernel with files := t.files, console := t.console }
    caller := { caller with files := caller.files.assign fd (some t.file), memory := t.memory }
    effects := []
    child := none
    value :=
      match result with
      | .error error => .failed error
      | .ok count => .answered (Register.ofNat count) }

/-- Reads from an open file into user memory. -/
def read (kernel : Kernel) (caller : UserProcess σ) (fd : Fd) (file : OpenFile)
    (buffer : UserAddr) (count : Nat) : Step σ Outcome :=
  settle kernel caller fd
    (Transfer.readInto ⟨kernel.files, kernel.console, file, caller.memory⟩ buffer 0 count)

/-- Writes user memory to an open file. -/
def write (kernel : Kernel) (caller : UserProcess σ) (fd : Fd) (file : OpenFile)
    (buffer : UserAddr) (count : Nat) : Step σ Outcome :=
  settle kernel caller fd
    (Transfer.writeFrom ⟨kernel.files, kernel.console, file, caller.memory⟩ buffer 0 count)

/-- Hands the status of a reaped child to the caller: 1 after an exit, 0 after a kill. -/
def deliver (step : Step σ (Except SysError JoinPoll)) (status : Option UserAddr)
    (how : Termination) : Step σ Outcome :=
  match how, status with
  | .killed, _ => { step with value := .answered 0 }
  | .exited _, none => { step with value := .answered 1 }
  | .exited code, some addr =>
    match AddressSpace.writeWord step.caller.memory addr code with
    | .error fault => { step with value := .failed fault.toSysError }
    | .ok memory => { step with caller := { step.caller with memory }, value := .answered 1 }

/-- Asks for a child once: reaps it, waits for it or fails. -/
def join (kernel : Kernel) (caller : UserProcess σ) (pending : PendingJoin) : Step σ Outcome :=
  let polled := (kernel.pollJoin caller.pid pending.child).toStep caller
  match polled.value with
  | .error error => { polled with value := .failed error }
  | .ok .pending => { polled with value := .waiting pending }
  | .ok (.ready how) => deliver polled pending.status how

/-- Halts the machine on behalf of the caller; a refusal is reported by the halt itself. -/
def halt (kernel : Kernel) (caller : UserProcess σ) : Turn σ :=
  let halted := kernel.halt caller.pid
  match halted.value with
  | .ok () => { halted.toStep caller with value := .finished .halted }
  | .error error => { halted.toStep caller with value := .finished (.returned error.returnValue) }

/-- Ends the caller. -/
def exit (kernel : Kernel) (caller : UserProcess σ) (status : Register) : Turn σ :=
  let ended := kernel.exit caller status
  { ended.toStep ended.value with value := .finished .exited }

end Service

end SyscallKernel
