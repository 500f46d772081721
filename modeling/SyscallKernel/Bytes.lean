/-!
# Byte strings

Overlaying one byte string on another and the little-endian form of a 32-bit
word. User pages and file contents are both changed by overlays, so the two
facts that matter for them, the length and the bytes of the result, are proved
once here.
-/

namespace SyscallKernel

/-- A finite string of bytes. -/
abbrev Bytes := List UInt8

namespace Bytes

/-- `base` with `data` laid over it from position `offset` on; bytes of `data`
past the end of `base` are dropped, so the length stays. -/
def overlay (base : Bytes) (offset : Nat) (data : Bytes) : Bytes :=
  base.take offset ++ data.take (base.length - offset) ++ base.drop (offset + data.length)

@[simp] theorem length_overlay (base : Bytes) (offset : Nat) (data : Bytes) :
    (base.overlay offset data).length = base.length := by
  simp only [overlay, List.length_append, List.length_take, List.length_drop]
  omega

/-- Inside the covered range an overlay shows `data`, elsewhere `base`. -/
theorem getElem?_overlay (base : Bytes) (offset : Nat) (data : Bytes) (i : Nat) :
    (base.overlay offset data)[i]? =
      if i < base.length ∧ offset ≤ i ∧ i < offset + data.length then data[i - offset]?
      else base[i]? := by
  simp only [overlay, List.getElem?_append, List.length_append, List.length_take,
    List.getElem?_take, List.getElem?_drop]
  grind

/-- `contents` lengthened with zero bytes to at least `length` bytes. -/
def zeroExtend (contents : Bytes) (length : Nat) : Bytes :=
  contents ++ List.replicate (length - contents.length) 0

@[simp] theorem length_zeroExtend (contents : Bytes) (length : Nat) :
    (contents.zeroExtend length).length = max contents.length length := by
  simp only [zeroExtend, List.length_append, List.length_replicate]
  omega

/-- A byte string is lengthened behind its end. -/
theorem getElem?_zeroExtend (contents : Bytes) (length i : Nat) :
    (contents.zeroExtend length)[i]? =
      if i < contents.length then contents[i]? else if i < length then some 0 else none := by
  rw [zeroExtend]
  split
  · rename_i old
    rw [List.getElem?_append_left old]
  · rename_i new
    rw [List.getElem?_append_right (Nat.le_of_not_lt new), List.getElem?_replicate]
    split <;> split <;> first | rfl | omega

/-- The four bytes of a word, least significant first. -/
def ofWord (word : UInt32) : Bytes :=
  [word.toUInt8, (word >>> 8).toUInt8, (word >>> 16).toUInt8, (word >>> 24).toUInt8]

/-- The word whose bytes, least significant first, are given. -/
def toWord (bytes : Bytes) : UInt32 :=
  UInt32.ofNat (bytes.foldr (fun byte rest => byte.toNat + 256 * rest) 0)

@[simp] theorem length_ofWord (word : UInt32) : (ofWord word).length = 4 := rfl

/-- The four bytes of a word are its digits to the base 256. -/
theorem toNat_digits (word : UInt32) :
    (ofWord word).map UInt8.toNat =
      [word.toNat % 256, word.toNat / 256 % 256, word.toNat / 65536 % 256,
        word.toNat / 16777216 % 256] := by
  simp [ofWord, Nat.shiftRight_eq_div_pow]

/-- Four bytes spell a word, least significant first. -/
theorem toNat_toWord (a b c d : UInt8) :
    (toWord [a, b, c, d]).toNat =
      a.toNat + 256 * (b.toNat + 256 * (c.toNat + 256 * d.toNat)) := by
  have first := a.toNat_lt
  have second := b.toNat_lt
  have third := c.toNat_lt
  have fourth := d.toNat_lt
  simp only [toWord, List.foldr_cons, List.foldr_nil, UInt32.toNat_ofNat']
  omega

theorem toWord_ofWord (word : UInt32) : toWord (ofWord word) = word := by
  have small := word.toNat_lt
  obtain ⟨a, b, c, d, bytes⟩ : ∃ a b c d, ofWord word = [a, b, c, d] := ⟨_, _, _, _, rfl⟩
  have digits := toNat_digits word
  rw [bytes] at digits ⊢
  simp only [List.map_cons, List.map_nil, List.cons.injEq, and_true] at digits
  apply UInt32.toNat_inj.1
  rw [toNat_toWord]
  omega

/-- Four bytes are those of the word that they spell. -/
theorem ofWord_toWord {bytes : Bytes} (four : bytes.length = 4) :
    ofWord (toWord bytes) = bytes := by
  match bytes, four with
  | [a, b, c, d], _ =>
    have first := a.toNat_lt
    have second := b.toNat_lt
    have third := c.toNat_lt
    have fourth := d.toNat_lt
    have digits := toNat_digits (toWord [a, b, c, d])
    rw [toNat_toWord] at digits
    refine List.map_inj_right (fun _ _ => UInt8.toNat_inj.1) |>.1 ?_
    rw [digits]
    simp only [List.map_cons, List.map_nil, List.cons.injEq, and_true]
    omega

end Bytes

end SyscallKernel
