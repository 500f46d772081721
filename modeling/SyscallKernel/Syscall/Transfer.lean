import SyscallKernel.Kernel.State
import SyscallKernel.Memory.Space

/-!
# Moving bytes between files and user memory

A transfer moves at most one page at a time between an open file and a user
buffer and ends early when the file moves fewer bytes than it was asked to. The
cursor of the file, the console and the memory change together, page by page, so
a fault in the middle keeps what was moved before it. The console may be any.
-/

namespace SyscallKernel

/-- The parts of the system that a transfer changes. -/
structure Transfer (σ δ : Type) where
  /-- The file store. -/
  files : FileStore
  /-- The console. -/
  console : δ
  /-- The open file, with its cursor. -/
  file : OpenFile
  /-- The memory of the caller. -/
  memory : σ

/-- A transfer together with the number of bytes moved, or the fault that ended it. -/
abbrev Transferred (σ δ : Type) := Transfer σ δ × Except SysError Nat

namespace Transfer

variable {σ δ : Type} [AddressSpace σ] [Console δ]

/-- Takes at most `count` bytes from the file. -/
def fetch (t : Transfer σ δ) (count : Nat) : Bytes × Transfer σ δ :=
  match t.file with
  | .stdin =>
    let (bytes, console) := Console.read t.console count
    (bytes, { t with console })
  | .stdout => ([], t)
  | .file handle =>
    let (bytes, handle) := t.files.read handle count
    (bytes, { t with file := .file handle })

/-- Gives bytes to the file and says how many it took. -/
def put (t : Transfer σ δ) (data : Bytes) : Nat × Transfer σ δ :=
  match t.file with
  | .stdin => (0, t)
  | .stdout =>
    let (count, console) := Console.write t.console data
    (count, { t with console })
  | .file handle =>
    let (files, handle) := t.files.write handle data
    (data.length, { t with files, file := .file handle })

/-- Stores bytes in user memory, `done` bytes into the buffer. -/
def storeAt (t : Transfer σ δ) (buffer : UserAddr) (done : Nat) (data : Bytes) :
    Except SysError (Transfer σ δ) :=
  match buffer.add? done with
  | none => .error .badAddress
  | some addr =>
    match AddressSpace.writeBytes t.memory addr data with
    | .error fault => .error fault.toSysError
    | .ok memory => .ok { t with memory }

/-- Loads bytes from user memory, `done` bytes into the buffer. -/
def loadAt (t : Transfer σ δ) (buffer : UserAddr) (done count : Nat) : Except SysError Bytes :=
  match buffer.add? done with
  | none => .error .badAddress
  | some addr =>
    match AddressSpace.readBytes t.memory addr count with
    | .error fault => .error fault.toSysError
    | .ok data => .ok data

/-- Reads the file into the buffer: `done` bytes are moved and `remaining` are
wanted still. -/
def readInto (t : Transfer σ δ) (buffer : UserAddr) (done remaining : Nat) : Transferred σ δ :=
  if _h : remaining = 0 then (t, .ok done)
  else
    let want := min remaining pageSize
    let (data, fetched) := t.fetch want
    if data = [] then (fetched, .ok done)
    else
      match fetched.storeAt buffer done data with
      | .error error => (fetched, .error error)
      | .ok stored =>
        if data.length < want then (stored, .ok (done + data.length))
        else stored.readInto buffer (done + want) (remaining - want)
termination_by remaining
decreasing_by
  have : 0 < pageSize := by decide
  omega

/-- Writes the buffer to the file: `done` bytes are moved and `remaining` are left. -/
def writeFrom (t : Transfer σ δ) (buffer : UserAddr) (done remaining : Nat) : Transferred σ δ :=
  if _h : remaining = 0 then (t, .ok done)
  else
    let want := min remaining pageSize
    match t.loadAt buffer done want with
    | .error error => (t, .error error)
    | .ok data =>
      let (count, given) := t.put data
      if count < want then (given, .ok (done + count))
      else given.writeFrom buffer (done + want) (remaining - want)
termination_by remaining
decreasing_by
  have : 0 < pageSize := by decide
  omega

end Transfer

end SyscallKernel
