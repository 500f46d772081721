import Mathlib.Algebra.Group.Nat.Defs
import SyscallKernel.Memory.Page

/-!
# Words, indices and slices

Elsewhere numbers have no bound, and sequences are reached without an index. A machine has
words of 64 and of 32 bits, reaches sequences by index and by slice, and runs loops that have
to end; each of these can stop it in the middle of what it does. A strict computation meets
its hazards in the open: it computes with the operations below and with nothing else that
could go wrong. Allocation is taken to succeed.
-/

namespace SyscallKernel

/-- What stops a machine in the middle of a computation. -/
inductive Hazard where
  /-- An index, or an end of a slice, lies behind the end of its sequence. -/
  | outOfBounds
  /-- Bytes are copied between slices of different lengths. -/
  | lengthMismatch
  /-- A sum or a product does not fit into its word. -/
  | overflow
  /-- A number is taken away from a smaller one. -/
  | underflow
  /-- A loop goes round more often than it may. -/
  | endless
  /-- A branch is taken that only tables in disorder lead to. -/
  | disorder
  deriving DecidableEq, Repr

/-- A computation that a hazard may stop. -/
abbrev Strict (α : Type) := Except Hazard α

namespace Strict

variable {α β : Type} {a b first last i : Nat} {items : List α} {data : List α}

/-- What follows a computation that came to an end goes on with its value. -/
@[simp] theorem ok_bind (value : α) (next : α → Strict β) :
    (Except.ok value : Strict α) >>= next = next value := rfl

/-- Goes on only if the tables are in order. -/
def ensure (condition : Bool) : Strict Unit := if condition then .ok () else .error .disorder

/-- The sum in a word of 64 bits. -/
def add64 (a b : Nat) : Strict Nat := if a + b < 2 ^ 64 then .ok (a + b) else .error .overflow

/-- The product in a word of 64 bits. -/
def mul64 (a b : Nat) : Strict Nat := if a * b < 2 ^ 64 then .ok (a * b) else .error .overflow

/-- The sum in a word of 32 bits. -/
def add32 (a b : Nat) : Strict Nat := if a + b < 2 ^ 32 then .ok (a + b) else .error .overflow

/-- The difference in a word of any length. -/
def sub (a b : Nat) : Strict Nat := if b ≤ a then .ok (a - b) else .error .underflow

/-- The item at an index. -/
def index (items : List α) (i : Nat) : Strict α := items[i]?.elim (.error .outOfBounds) .ok

/-- The items from `first` on and before `last`. -/
def slice (items : List α) (first last : Nat) : Strict (List α) :=
  if first ≤ last ∧ last ≤ items.length then .ok ((items.drop first).take (last - first))
  else .error .outOfBounds

/-- Goes on only if two slices have the same length. -/
def sameLength (a b : Nat) : Strict Unit := if a = b then .ok () else .error .lengthMismatch

/-- The items with `data` copied to those from `first` on and before `last`. -/
def copyTo (items : List α) (first last : Nat) (data : List α) : Strict (List α) := do
  let covered ← slice items first last
  sameLength covered.length data.length
  return items.take first ++ data ++ items.drop last

theorem ensure_eq {condition : Bool} (inOrder : condition = true) : ensure condition = .ok () :=
  if_pos inOrder

theorem add64_eq (fits : a + b < 2 ^ 64) : add64 a b = .ok (a + b) := if_pos fits

theorem mul64_eq (fits : a * b < 2 ^ 64) : mul64 a b = .ok (a * b) := if_pos fits

theorem add32_eq (fits : a + b < 2 ^ 32) : add32 a b = .ok (a + b) := if_pos fits

theorem sub_eq (enough : b ≤ a) : sub a b = .ok (a - b) := if_pos enough

theorem index_eq {item : α} (found : items[i]? = some item) : index items i = .ok item := by
  rw [index, found, Option.elim_some]

theorem slice_eq (ascending : first ≤ last) (within : last ≤ items.length) :
    slice items first last = .ok ((items.drop first).take (last - first)) :=
  if_pos ⟨ascending, within⟩

/-- A slice from the start. -/
theorem slice_zero (within : last ≤ items.length) : slice items 0 last = .ok (items.take last) :=
  slice_eq (Nat.zero_le last) within

/-- A slice to the end. -/
theorem slice_length (within : first ≤ items.length) :
    slice items first items.length = .ok (items.drop first) := by
  rw [slice_eq within (Nat.le_refl _), List.take_of_length_le (Nat.le_of_eq List.length_drop)]

theorem sameLength_eq (same : a = b) : sameLength a b = .ok () := if_pos same

/-- Data that fits is copied. -/
theorem copyTo_eq (within : first + data.length ≤ items.length) :
    copyTo items first (first + data.length) data =
      .ok (items.take first ++ data ++ items.drop (first + data.length)) := by
  have covered : ((items.drop first).take (first + data.length - first)).length = data.length := by
    rw [List.length_take, List.length_drop]
    omega
  rw [copyTo, slice_eq (Nat.le_add_right _ _) within, ok_bind, sameLength_eq covered]
  rfl

/-- Data is copied to the start. -/
theorem copyTo_zero (within : data.length ≤ items.length) :
    copyTo items 0 data.length data = .ok (data ++ items.drop data.length) := by
  have copied := @copyTo_eq _ 0 items data (by omega)
  rw [Nat.zero_add, List.take_zero, List.nil_append] at copied
  exact copied

end Strict

/-! ### Byte strings and pages -/

/-- Laying data over bytes that are long enough replaces the bytes that it covers. -/
theorem Bytes.overlay_of_le {base data : Bytes} {offset : Nat}
    (within : offset + data.length ≤ base.length) :
    base.overlay offset data = base.take offset ++ data ++ base.drop (offset + data.length) := by
  have whole : data.take (base.length - offset) = data := List.take_of_length_le (by omega)
  rw [overlay, whole]

namespace Page

/-- Copies data to the part of the frame from `first` on and before `last`. -/
def strictStore (page : Page) (first last : Nat) (data : Bytes) : Strict Page := do
  let frame ← Strict.copyTo page.frame first last data
  if full : frame.length = pageSize then return ⟨page.flags.stored, frame, full⟩
  else throw .lengthMismatch

/-- A store inside the frame is what it is elsewhere. -/
theorem strictStore_eq (page : Page) {offset : Nat} {data : Bytes}
    (within : offset + data.length ≤ pageSize) :
    page.strictStore offset (offset + data.length) data = .ok (page.store offset data) := by
  have inFrame : offset + data.length ≤ page.frame.length := by rwa [page.length_frame]
  have same := Bytes.overlay_of_le inFrame
  rw [strictStore, Strict.copyTo_eq inFrame, Strict.ok_bind, dif_pos (by
    rw [← same, Bytes.length_overlay, page.length_frame])]
  simp only [store, same]
  rfl

end Page

end SyscallKernel
