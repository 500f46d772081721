import SyscallKernel.Process.Pid

/-!
# Open file handles

A handle is a private cursor over one file. It names the entry of the file store by
slot and generation, for the one release that it owes, and shares the contents of the
file on its own account: bytes move through that share, whatever became of the entry.
Slots, generations and counts of handles are numbers of 32 bits and go round.
-/

namespace SyscallKernel

/-- The number of values that 32 bits can hold. -/
def wordCount : Nat := 4294967296

/-- A reference to an entry of the file store that cannot be mistaken for a later
entry in the same slot, until the generation of the slot has gone round. -/
structure FileId where
  /-- The slot of the arena. -/
  index : Nat
  /-- The generation of the slot when the reference was made. -/
  generation : Nat
  deriving DecidableEq, Repr

namespace FileId

/-- The reference as it is issued: 32 bits of the slot remain. -/
def issued (id : FileId) : FileId := ⟨id.index % wordCount, id.generation⟩

/-- The debug text of a reference. -/
def describe (id : FileId) : String :=
  "FileId \x7b index: " ++ toString id.index ++
    ", generation: " ++ toString id.generation ++ " \x7d"

end FileId

/-- The directions in which bytes may move. -/
structure Access where
  /-- Bytes may be read. -/
  reads : Bool
  /-- Bytes may be written. -/
  writes : Bool
  deriving DecidableEq, Repr

namespace Access

/-- Reading only. -/
def readOnly : Access := ⟨true, false⟩

/-- Writing only. -/
def writeOnly : Access := ⟨false, true⟩

/-- Both directions. -/
def readWrite : Access := ⟨true, true⟩

/-- The directions as a number: reading 1, writing 2. -/
def bits (access : Access) : Nat := access.reads.toNat + 2 * access.writes.toNat

/-- The debug text of the directions. -/
def describe : Access → String
  | ⟨true, true⟩ => "Access(READ | WRITE)"
  | ⟨true, false⟩ => "Access(READ)"
  | ⟨false, true⟩ => "Access(WRITE)"
  | ⟨false, false⟩ => "Access(0x0)"

end Access

/-- A cursor over one file. -/
structure FileHandle where
  /-- The entry to release. -/
  id : FileId
  /-- The contents shared with the entry: their place among all that the store has made. -/
  data : Nat
  /-- The position of the next transfer. -/
  offset : Nat
  /-- The directions permitted. -/
  access : Access
  /-- The process that opened the handle. -/
  owner : Pid
  deriving DecidableEq, Repr

namespace FileHandle

/-- A new handle at the start of a file, open for both directions. -/
def atStart (id : FileId) (data : Nat) (owner : Pid) : FileHandle :=
  ⟨id, data, 0, .readWrite, owner⟩

/-- The handle, `n` bytes further on. -/
def advance (handle : FileHandle) (n : Nat) : FileHandle :=
  { handle with offset := handle.offset + n }

/-- The debug text of a handle. -/
def describe (handle : FileHandle) : String :=
  "FileHandle \x7b id: " ++ handle.id.describe ++ ", offset: " ++ toString handle.offset ++
    ", access: " ++ handle.access.describe ++ ", owner: " ++ handle.owner.describe ++ " \x7d"

end FileHandle

end SyscallKernel
