import SyscallKernel.File.Handle
import SyscallKernel.Register

/-!
# Descriptor tables

A process reaches its open files through a table of `maxOpenFiles` slots. Slots 0
and 1 hold the console streams and are never given out or closed; a new handle
goes into the lowest empty slot from 2 on.
-/

namespace SyscallKernel

/-- The number of slots in a descriptor table. -/
def maxOpenFiles : Nat := 16

/-- A descriptor: the number of a slot. -/
abbrev Fd := Fin maxOpenFiles

namespace Fd

/-- Standard input. -/
def stdin : Fd := ⟨0, by decide⟩

/-- Standard output. -/
def stdout : Fd := ⟨1, by decide⟩

/-- The lowest descriptor that can be given out. -/
def firstUser : Fd := ⟨2, by decide⟩

/-- The descriptor a register names; registers outside the table name none. -/
def ofRegister? (raw : Register) : Option Fd :=
  match raw.toNat? with
  | none => none
  | some n => if h : n < maxOpenFiles then some ⟨n, h⟩ else none

/-- The descriptor as a register. -/
def toRegister (fd : Fd) : Register := Register.ofNat fd.val

/-- Whether the slot is one of the console slots. -/
def isReserved (fd : Fd) : Bool := fd.val < firstUser.val

/-- The debug text of a descriptor. -/
def describe (fd : Fd) : String := s!"Fd({fd.val})"

end Fd

/-- What a descriptor slot refers to. -/
inductive OpenFile where
  /-- Console input. -/
  | stdin
  /-- Console output. -/
  | stdout
  /-- An entry of the file store. -/
  | file (handle : FileHandle)
  deriving DecidableEq, Repr

namespace OpenFile

/-- The directions permitted through the slot. -/
def access : OpenFile → Access
  | stdin => .readOnly
  | stdout => .writeOnly
  | file handle => handle.access

/-- The handle in the slot, if it refers to the file store. -/
def handle? : OpenFile → Option FileHandle
  | stdin => none
  | stdout => none
  | file handle => some handle

/-- The debug text of a slot that may be empty. -/
def describe? : Option OpenFile → String
  | none => "None"
  | some stdin => "Some(Stdin)"
  | some stdout => "Some(Stdout)"
  | some (file handle) => s!"Some(File({handle.describe}))"

end OpenFile

/-- The descriptor table of one process. -/
structure DescriptorTable where
  /-- The slots. -/
  slots : Vector (Option OpenFile) maxOpenFiles
  deriving DecidableEq

namespace DescriptorTable

/-- A table with the console streams only. -/
def new : DescriptorTable :=
  ⟨((Vector.replicate maxOpenFiles none).set Fd.stdin (some .stdin)).set Fd.stdout (some .stdout)⟩

/-- What a descriptor refers to. -/
def resolve? (table : DescriptorTable) (fd : Fd) : Option OpenFile := table.slots[fd]

/-- The lowest empty slot that can be given out. -/
def lowestFree? (table : DescriptorTable) : Option Fd :=
  (List.finRange maxOpenFiles).find? fun fd => !fd.isReserved && (table.resolve? fd).isNone

/-- Whether a handle can be installed. -/
def hasFree (table : DescriptorTable) : Bool := table.lowestFree?.isSome

/-- The table with another file behind a descriptor. -/
def assign (table : DescriptorTable) (fd : Fd) (file : Option OpenFile) : DescriptorTable :=
  ⟨table.slots.set fd file⟩

/-- Installs a handle in the lowest empty slot, unless the table is full. -/
def allocate (table : DescriptorTable) (handle : FileHandle) : Option (DescriptorTable × Fd) :=
  match table.lowestFree? with
  | none => none
  | some fd => some (table.assign fd (some (.file handle)), fd)

/-- Empties a slot and hands its handle back. Console slots and empty slots have
none to hand back. -/
def release (table : DescriptorTable) (fd : Fd) : Option (DescriptorTable × FileHandle) :=
  if fd.isReserved then none
  else
    match table.resolve? fd with
    | some (.file handle) => some (table.assign fd none, handle)
    | _ => none

/-- The handles in the table, in slot order. -/
def handles (table : DescriptorTable) : List FileHandle :=
  table.slots.toList.filterMap fun slot => slot.bind OpenFile.handle?

/-- The number of handles in the table. -/
def openCount (table : DescriptorTable) : Nat := table.handles.length

/-- A table with every slot empty, the console slots too. -/
def cleared : DescriptorTable := ⟨Vector.replicate maxOpenFiles none⟩

/-- The debug text of a table. -/
def describe (table : DescriptorTable) : String :=
  let slots := table.slots.toList.map OpenFile.describe?
  "HandleTable \x7b slots: [" ++ String.intercalate ", " slots ++ "] \x7d"

/-- Assigning changes what one descriptor refers to, and no other. -/
theorem resolve?_assign (table : DescriptorTable) (fd other : Fd) (file : Option OpenFile) :
    (table.assign fd file).resolve? other = if fd = other then file else table.resolve? other := by
  simp only [resolve?, assign, Fin.getElem_fin, Vector.getElem_set, Fin.ext_iff]

/-- A cleared table refers to nothing, not even to the console. -/
@[simp] theorem resolve?_cleared (fd : Fd) : cleared.resolve? fd = none := by
  simp [resolve?, cleared]

/-- The descriptor chosen for a new handle is empty and is not a console slot. -/
theorem resolve?_of_lowestFree? {table : DescriptorTable} {fd : Fd}
    (h : table.lowestFree? = some fd) : fd.isReserved = false ∧ table.resolve? fd = none := by
  have chosen := List.find?_some h
  simpa using chosen

end DescriptorTable

end SyscallKernel
