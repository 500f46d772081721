import SyscallKernel.Bytes

/-!
# File contents

The contents of a file are a byte string. Reading past the end gives nothing;
writing past the end first fills the gap with zero bytes, even when there is
nothing to write.
-/

namespace SyscallKernel.Contents

/-- At most `count` bytes from `offset` on. -/
def readAt (contents : Bytes) (offset count : Nat) : Bytes :=
  (contents.drop offset).take count

/-- The contents after `data` was written at `offset`. -/
def writeAt (contents : Bytes) (offset : Nat) (data : Bytes) : Bytes :=
  (contents.zeroExtend (offset + data.length)).overlay offset data

@[simp] theorem length_readAt (contents : Bytes) (offset count : Nat) :
    (readAt contents offset count).length = min count (contents.length - offset) := by
  simp [readAt]

@[simp] theorem length_writeAt (contents : Bytes) (offset : Nat) (data : Bytes) :
    (writeAt contents offset data).length = max contents.length (offset + data.length) := by
  simp [writeAt]

/-- A write shows its data where it put them, and elsewhere what was there before: the contents,
or a zero byte in a gap behind them. -/
theorem getElem?_writeAt (contents : Bytes) (offset : Nat) (data : Bytes) (i : Nat) :
    (writeAt contents offset data)[i]? =
      if offset ≤ i ∧ i < offset + data.length then data[i - offset]?
      else if i < contents.length then contents[i]?
      else if i < offset + data.length then some 0 else none := by
  rw [writeAt, Bytes.getElem?_overlay, Bytes.length_zeroExtend, Bytes.getElem?_zeroExtend]
  have room : offset ≤ i ∧ i < offset + data.length →
      i < max contents.length (offset + data.length) := by omega
  simp only [and_iff_right_of_imp room]

end SyscallKernel.Contents
