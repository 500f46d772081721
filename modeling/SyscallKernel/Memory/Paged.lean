import SyscallKernel.Memory.Page

/-!
# Paged user memory

A user address space made of consecutive pages from address zero on. A range is
checked as a whole before any byte moves, so an access either succeeds completely
or changes nothing. Checking, reading and storing all walk the pages from the one
that holds the first address; whatever lies past the last page is unmapped.
-/

namespace SyscallKernel

/-- A single-level page table: page `n` is the `n`-th entry. -/
structure PagedMemory where
  /-- The entries, in order of their page numbers. -/
  pages : List Page
  deriving DecidableEq

namespace PagedMemory

/-- A memory of `count` valid and writable pages of zero bytes. -/
def ofPageCount (count : Nat) : PagedMemory := ⟨List.replicate count .zero⟩

/-- The number of pages. -/
def pageCount (memory : PagedMemory) : Nat := memory.pages.length

/-- The flags of page `n`, if the table has it. -/
def flags? (memory : PagedMemory) (n : Nat) : Option PageFlags :=
  memory.pages[n]?.map Page.flags

/-- Marks page `n` read-only. -/
def protect (memory : PagedMemory) (n : Nat) : PagedMemory :=
  ⟨memory.pages.modify n Page.protect⟩

/-- Invalidates page `n`: every later access to it faults. -/
def unmap (memory : PagedMemory) (n : Nat) : PagedMemory :=
  ⟨memory.pages.modify n Page.invalidate⟩

/-- The first address at which an access of `count` bytes from `addr` on is
refused, and why. The pages given are those from the one holding `addr` on. -/
def firstRefusal? (kind : AccessKind) : List Page → Nat → Nat → Option (Nat × FaultKind)
  | _, _, 0 => none
  | [], addr, _ + 1 => some (addr, .unmapped)
  | page :: rest, addr, count + 1 =>
    match page.flags.refusal? kind with
    | some refusal => some (addr, refusal)
    | none =>
      let covered := pageSize - addr % pageSize
      firstRefusal? kind rest (addr + covered) (count + 1 - covered)

/-- The bytes of a range of `count` bytes that begins at `offset` in the first page. -/
def gather : List Page → Nat → Nat → Bytes
  | _, _, 0 => []
  | [], _, _ + 1 => []
  | page :: rest, offset, count + 1 =>
    page.fetch offset (count + 1) ++ gather rest 0 (count + 1 - (pageSize - offset))

/-- The pages after `data` was stored from `offset` in the first page on. -/
def scatter : List Page → Nat → Bytes → List Page
  | pages, _, [] => pages
  | [], _, _ :: _ => []
  | page :: rest, offset, byte :: data =>
    page.store offset ((byte :: data).take (pageSize - offset)) ::
      scatter rest 0 ((byte :: data).drop (pageSize - offset))

/-- Checks that every byte of `[addr, addr + len)` may be accessed. An empty range
always may; a range that runs past the last address overflows at its start. -/
def checkRange (memory : PagedMemory) (addr : UserAddr) (len : Nat) (kind : AccessKind) :
    Except Fault Unit :=
  if len = 0 then .ok ()
  else if (addr.add? (len - 1)).isNone then .error ⟨addr, .overflow⟩
  else
    match firstRefusal? kind (memory.pages.drop addr.pageNumber) addr.value len with
    | some (bad, refusal) => .error ⟨.ofNat bad, refusal⟩
    | none => .ok ()

/-- The memory after an already checked store. -/
def store (memory : PagedMemory) (addr : UserAddr) (data : Bytes) : PagedMemory :=
  ⟨memory.pages.take addr.pageNumber ++
    scatter (memory.pages.drop addr.pageNumber) addr.pageOffset data⟩

/-- Stores bytes with the rights of a loader, which may write read-only pages. -/
def load (memory : PagedMemory) (addr : UserAddr) (data : Bytes) : Except Fault PagedMemory :=
  match memory.checkRange addr data.length .read with
  | .error fault => .error fault
  | .ok () => .ok (memory.store addr data)

/-- Reads `len` bytes. -/
def readBytes (memory : PagedMemory) (addr : UserAddr) (len : Nat) : Except Fault Bytes :=
  match memory.checkRange addr len .read with
  | .error fault => .error fault
  | .ok () => .ok (gather (memory.pages.drop addr.pageNumber) addr.pageOffset len)

/-- Stores bytes with the rights of the user. -/
def writeBytes (memory : PagedMemory) (addr : UserAddr) (data : Bytes) :
    Except Fault PagedMemory :=
  match memory.checkRange addr data.length .write with
  | .error fault => .error fault
  | .ok () => .ok (memory.store addr data)

end PagedMemory

end SyscallKernel
