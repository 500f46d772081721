import SyscallKernel.Process.Program
import SyscallKernel.Process.User
import SyscallKernel.Syscall.Argument
import SyscallKernel.Syscall.Number

/-!
# Checked requests

A call and its registers become a request: names and vectors are copied in,
buffers and the status pointer are checked, descriptors are looked up. The
request is formed from the caller's own table and memory alone and changes
nothing, so whatever is wrong with the registers leaves no trace.
-/

namespace SyscallKernel

/-- A call whose arguments have been checked. -/
inductive Request where
  /-- Halt the machine. -/
  | halt
  /-- End the caller with a status. -/
  | exit (status : Register)
  /-- Start a program. -/
  | exec (image : ProgramImage)
  /-- Wait for a child and store its status, if there is a place for it. -/
  | join (child : Pid) (status : Option UserAddr)
  /-- Create or empty a file and open it. -/
  | create (name : FileName)
  /-- Open a file. -/
  | openFile (name : FileName)
  /-- Read `count` bytes from an open file into a buffer. -/
  | read (fd : Fd) (file : OpenFile) (buffer : UserAddr) (count : Nat)
  /-- Write `count` bytes of a buffer to an open file. -/
  | write (fd : Fd) (file : OpenFile) (buffer : UserAddr) (count : Nat)
  /-- Close a descriptor. -/
  | close (fd : Fd)
  /-- Remove a file name. -/
  | unlink (name : FileName)
  deriving DecidableEq

namespace Request

variable {σ : Type} [AddressSpace σ]

/-- The descriptor a register names. -/
def descriptor (raw : Register) : Except SysError Fd :=
  match Fd.ofRegister? raw with
  | none => .error .invalidDescriptor
  | some fd => .ok fd

/-- The image that the registers of an `exec` describe: name, number of arguments,
argument vector. -/
def image (config : Config) (memory : σ) (args : Registers) : Except SysError ProgramImage := do
  let name ← Argument.fileName memory args.a0
  let args ← Argument.vector config memory args.a2 args.a1
  return ⟨name, args⟩

/-- The place for a child's status. A null pointer asks for none; any other has to
lead to four writable bytes, before the child is touched. -/
def statusPlace (memory : σ) (raw : Register) : Except SysError (Option UserAddr) :=
  match UserAddr.ofRegister? raw with
  | none => .error .badAddress
  | some addr =>
    if addr.isNull then .ok none
    else
      match AddressSpace.checkRange memory addr 4 .write with
      | .error fault => .error fault.toSysError
      | .ok () => .ok (some addr)

/-- The child and the place for its status. -/
def joinArguments (memory : σ) (args : Registers) : Except SysError (Pid × Option UserAddr) :=
  match Pid.ofRegister? args.a0 with
  | none => .error .notFound
  | some child => do
    let status ← statusPlace memory args.a1
    return (child, status)

/-- The name of a file to open, provided that a descriptor is free for it. -/
def nameToOpen (process : UserProcess σ) (raw : Register) : Except SysError FileName := do
  let name ← Argument.fileName process.memory raw
  if process.files.hasFree then return name else throw .tableFull

/-- The open file, the buffer and the length of a transfer in one direction. -/
def transferArguments (process : UserProcess σ) (allowed : Access → Bool) (kind : AccessKind)
    (args : Registers) : Except SysError (Fd × OpenFile × UserAddr × Nat) := do
  let count ← Argument.count args.a2
  let fd ← descriptor args.a0
  match process.files.resolve? fd with
  | none => throw .invalidDescriptor
  | some file =>
    if allowed file.access then
      let buffer ← Argument.buffer process.memory args.a1 count kind
      return (fd, file, buffer, count)
    else throw .permissionDenied

/-- The request that a call and its registers make. -/
def ofCall (config : Config) (process : UserProcess σ) (args : Registers) :
    Syscall → Except SysError Request
  | .halt => .ok .halt
  | .exit => .ok (.exit args.a0)
  | .exec => (image config process.memory args).map .exec
  | .join => (joinArguments process.memory args).map fun (child, status) => .join child status
  | .create => (nameToOpen process args.a0).map .create
  | .openFile => (nameToOpen process args.a0).map .openFile
  | .read =>
    (transferArguments process Access.reads .write args).map
      fun (fd, file, buffer, count) => .read fd file buffer count
  | .write =>
    (transferArguments process Access.writes .read args).map
      fun (fd, file, buffer, count) => .write fd file buffer count
  | .close => (descriptor args.a0).map .close
  | .unlink => (Argument.fileName process.memory args.a0).map .unlink

end Request

end SyscallKernel
