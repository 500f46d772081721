import SyscallKernel.Memory.Paged

/-!
# Address spaces

What the kernel needs of a user's memory: checking a range, and reading and
storing bytes. Strings and words are built on these three operations alone, so
they mean the same in every address space.
-/

namespace SyscallKernel

/-- A user's memory as the kernel sees it. Accesses are all or nothing. -/
class AddressSpace (σ : Type) where
  /-- Checks that every byte of a range may be accessed. -/
  checkRange : σ → UserAddr → Nat → AccessKind → Except Fault Unit
  /-- Reads a number of bytes. -/
  readBytes : σ → UserAddr → Nat → Except Fault Bytes
  /-- Stores bytes. -/
  writeBytes : σ → UserAddr → Bytes → Except Fault σ

namespace AddressSpace

variable {σ : Type} [AddressSpace σ]

/-- The text from `cursor` up to the first zero byte among the next `remaining`
bytes, or nothing if there is none. Each step stays inside one page, so a zero
byte before an unmapped page is still found. -/
def scanString (memory : σ) (cursor : UserAddr) (remaining : Nat) :
    Except Fault (Option Bytes) :=
  if _h : remaining = 0 then .ok none
  else
    let step := min (pageSize - cursor.pageOffset) remaining
    match readBytes memory cursor step with
    | .error fault => .error fault
    | .ok chunk =>
      if 0 ∈ chunk then .ok (some (chunk.takeWhile (· ≠ 0)))
      else
        match cursor.add? step with
        | none => .error ⟨cursor, .overflow⟩
        | some next =>
          match scanString memory next (remaining - step) with
          | .error fault => .error fault
          | .ok text => .ok (text.map (chunk ++ ·))
termination_by remaining
decreasing_by
  have : 0 < pageSize - cursor.pageOffset := Nat.sub_pos_of_lt cursor.pageOffset_lt
  omega

/-- The zero-terminated string of at most `maxLength` bytes at `addr`, or nothing
if no terminator follows within `maxLength + 1` bytes. The number of bytes looked at
stays below the number of addresses. -/
def readString (memory : σ) (addr : UserAddr) (maxLength : Nat) :
    Except Fault (Option Bytes) :=
  scanString memory addr (min (maxLength + 1) (addressCount - 1))

/-- The little-endian word at `addr`. -/
def readWord (memory : σ) (addr : UserAddr) : Except Fault UInt32 :=
  (readBytes memory addr 4).map Bytes.toWord

/-- Stores a register as a little-endian word. -/
def writeWord (memory : σ) (addr : UserAddr) (value : Register) : Except Fault σ :=
  writeBytes memory addr (Bytes.ofWord value.toUInt32)

end AddressSpace

instance : AddressSpace PagedMemory where
  checkRange := PagedMemory.checkRange
  readBytes := PagedMemory.readBytes
  writeBytes := PagedMemory.writeBytes

end SyscallKernel
