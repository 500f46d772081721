import SyscallKernel.Memory.Uniform
import SyscallKernel.Syscall.Argument

/-!
# Memory sessions

One operation after another on user memories, each with its answer. Operations on
an address space work for every kind of memory; operations on pages work for
paged memories, which are kept in a numbered list and can be cloned.
-/

namespace SyscallKernel

/-- The answer to an operation on user memory. -/
inductive MemoryAnswer where
  /-- Nothing to say. -/
  | done
  /-- Bytes. -/
  | bytes (data : Bytes)
  /-- A string, unless no terminator was found. -/
  | string (text : Option Bytes)
  /-- A number. -/
  | number (n : Nat)
  /-- An address. -/
  | address (addr : UserAddr)
  /-- An argument vector. -/
  | arguments (args : List Bytes)
  /-- The flags of a page, if there is such a page. -/
  | flags (flags : Option PageFlags)
  /-- The flags of all pages. -/
  | allFlags (flags : List PageFlags)
  /-- The access faulted. -/
  | faulted (fault : Fault)
  /-- The argument was refused. -/
  | refused (error : SysError)
  /-- No memory has the number. -/
  | noMemory
  deriving DecidableEq

namespace MemoryAnswer

/-- The answer for a value or a fault. -/
def ofAccess {α : Type} (answer : α → MemoryAnswer) : Except Fault α → MemoryAnswer
  | .ok value => answer value
  | .error fault => .faulted fault

/-- The answer for a value or an error. -/
def ofCheck {α : Type} (answer : α → MemoryAnswer) : Except SysError α → MemoryAnswer
  | .ok value => answer value
  | .error error => .refused error

end MemoryAnswer

/-- An operation on an address space. -/
inductive SpaceAction where
  /-- Store bytes. -/
  | write (addr : UserAddr) (data : Bytes)
  /-- Read bytes. -/
  | read (addr : UserAddr) (len : Nat)
  /-- Check a range. -/
  | check (addr : UserAddr) (len : Nat) (kind : AccessKind)
  /-- Read a string. -/
  | readString (addr : UserAddr) (maxLength : Nat)
  /-- Read a word. -/
  | readWord (addr : UserAddr)
  /-- Store a word. -/
  | writeWord (addr : UserAddr) (value : Register)
  /-- Read the file name behind a register. -/
  | fileName (raw : Register)
  /-- Check the buffer behind a register. -/
  | buffer (raw : Register) (len : Nat) (kind : AccessKind)
  /-- Read the argument vector behind two registers. -/
  | arguments (config : Config) (argv argc : Register)
  /-- Read a register as a count. -/
  | count (raw : Register)

namespace SpaceAction

variable {σ : Type} [AddressSpace σ]

/-- The memory after a store that may fault, and the answer. -/
def afterStore (memory : σ) : Except Fault σ → σ × MemoryAnswer
  | .ok memory => (memory, .done)
  | .error fault => (memory, .faulted fault)

/-- The memory after an operation, and the answer. -/
def run (memory : σ) : SpaceAction → σ × MemoryAnswer
  | .write addr data => afterStore memory (AddressSpace.writeBytes memory addr data)
  | .writeWord addr value => afterStore memory (AddressSpace.writeWord memory addr value)
  | .read addr len => (memory, .ofAccess .bytes (AddressSpace.readBytes memory addr len))
  | .check addr len kind =>
    (memory, .ofAccess (fun () => .done) (AddressSpace.checkRange memory addr len kind))
  | .readString addr maxLength =>
    (memory, .ofAccess .string (AddressSpace.readString memory addr maxLength))
  | .readWord addr =>
    (memory, .ofAccess (fun word => .number word.toNat) (AddressSpace.readWord memory addr))
  | .fileName raw =>
    (memory, .ofCheck (fun name => .bytes name.bytes) (Argument.fileName memory raw))
  | .buffer raw len kind => (memory, .ofCheck .address (Argument.buffer memory raw len kind))
  | .arguments config argv argc =>
    (memory, .ofCheck .arguments (Argument.vector config memory argv argc))
  | .count raw => (memory, .ofCheck .number (Argument.count raw))

end SpaceAction

/-- An operation on paged memory. -/
inductive PagedAction where
  /-- An operation that every address space has. -/
  | space (action : SpaceAction)
  /-- Mark a page read-only. -/
  | protect (page : Nat)
  /-- Invalidate a page. -/
  | unmap (page : Nat)
  /-- Store bytes with the rights of a loader. -/
  | load (addr : UserAddr) (data : Bytes)
  /-- Show the flags of a page. -/
  | flags (page : Nat)
  /-- Show the flags of all pages. -/
  | allFlags
  /-- Count the pages. -/
  | pages

namespace PagedAction

/-- The memory after an operation, and the answer. -/
def run (memory : PagedMemory) : PagedAction → PagedMemory × MemoryAnswer
  | .space action => action.run memory
  | .protect page => (memory.protect page, .done)
  | .unmap page => (memory.unmap page, .done)
  | .load addr data => SpaceAction.afterStore memory (memory.load addr data)
  | .flags page => (memory, .flags (memory.flags? page))
  | .allFlags => (memory, .allFlags (memory.pages.map Page.flags))
  | .pages => (memory, .number memory.pageCount)

end PagedAction

/-- A step of a session on numbered paged memories. -/
inductive MemoryStep where
  /-- An operation on one of them. -/
  | on (memory : Nat) (action : PagedAction)
  /-- Copy one of them under the next number. -/
  | clone (memory : Nat)

namespace MemoryStep

/-- The memories after a step, and the answer. -/
def run (memories : List PagedMemory) : MemoryStep → List PagedMemory × MemoryAnswer
  | .on n action =>
    match memories[n]? with
    | none => (memories, .noMemory)
    | some memory =>
      let (memory, answer) := action.run memory
      (memories.set n memory, answer)
  | .clone n =>
    match memories[n]? with
    | none => (memories, .noMemory)
    | some memory => (memories ++ [memory], .number memories.length)

/-- The answers to the steps of a session. -/
def runAll (memories : List PagedMemory) : List MemoryStep → List MemoryAnswer
  | [] => []
  | step :: rest =>
    let (memories, answer) := step.run memories
    answer :: runAll memories rest

end MemoryStep

namespace SpaceAction

/-- The answers to the operations of a session on one address space. -/
def runAll {σ : Type} [AddressSpace σ] (memory : σ) : List SpaceAction → List MemoryAnswer
  | [] => []
  | action :: rest =>
    let (memory, answer) := action.run memory
    answer :: runAll memory rest

end SpaceAction

end SyscallKernel
