import SyscallKernel.Proofs.File.Operations

/-!
# Contents that were written

Writing bytes at a position patches the contents: the bytes stand there, all others stay, and
a gap before them is filled with zero bytes. This determines the contents, and a patch behind a
patch is one patch. So writing a byte string piece by piece comes to the same as writing it
as a whole.
-/

namespace SyscallKernel

/-- Contents after some bytes were written at a position. -/
structure Contents.Patched (contents : Bytes) (offset : Nat) (data contents' : Bytes) : Prop where
  /-- They grow as far as the data reach. -/
  length : contents'.length = max contents.length (offset + data.length)
  /-- The data stand at the position. -/
  written : ∀ i < data.length, contents'[offset + i]? = data[i]?
  /-- Every other byte is as before. -/
  kept : ∀ i < contents.length, i < offset ∨ offset + data.length ≤ i →
    contents'[i]? = contents[i]?
  /-- A gap between the old end and the position holds zero bytes. -/
  gap : ∀ i, contents.length ≤ i → i < offset → contents'[i]? = some 0

namespace Contents

variable {contents contents' contents'' : Bytes} {offset : Nat} {data more : Bytes}

theorem patched_writeAt (contents : Bytes) (offset : Nat) (data : Bytes) :
    Patched contents offset data (writeAt contents offset data) where
  length := length_writeAt contents offset data
  written i within := by
    rw [getElem?_writeAt, if_pos (by omega), Nat.add_sub_cancel_left]
  kept i old outside := by rw [getElem?_writeAt, if_neg (by omega), if_pos old]
  gap i new before := by
    rw [getElem?_writeAt, if_neg (by omega), if_neg (by omega), if_pos (by omega)]

/-- What was written, and where, determines the contents. -/
theorem Patched.unique (patched : Patched contents offset data contents')
    (also : Patched contents offset data contents'') : contents' = contents'' := by
  refine List.ext_getElem? fun i => ?_
  by_cases written : offset ≤ i ∧ i < offset + data.length
  · obtain ⟨k, rfl⟩ := Nat.exists_eq_add_of_le written.1
    rw [patched.written k (by omega), also.written k (by omega)]
  · rcases Nat.lt_or_ge i contents.length with old | new
    · rw [patched.kept i old (by omega), also.kept i old (by omega)]
    · rcases Nat.lt_or_ge i offset with before | behind
      · rw [patched.gap i new before, also.gap i new before]
      · have end' := patched.length
        have end'' := also.length
        rw [List.getElem?_eq_none (by omega), List.getElem?_eq_none (by omega)]

/-- Writing nothing leaves the contents alone exactly if the position is not behind their end. -/
theorem Patched.eq_iff_of_nil (patched : Patched contents offset [] contents') :
    contents' = contents ↔ offset ≤ contents.length := by
  have length := patched.length
  rw [List.length_nil, Nat.add_zero] at length
  constructor
  · intro same
    rw [same] at length
    omega
  · intro within
    refine List.ext_getElem? fun i => ?_
    rcases Nat.lt_or_ge i contents.length with old | past
    · refine patched.kept i old ?_
      rw [List.length_nil]
      omega
    · rw [List.getElem?_eq_none past, List.getElem?_eq_none (by omega)]

/-- Two patches one behind the other are one. -/
theorem Patched.trans (first : Patched contents offset data contents')
    (second : Patched contents' (offset + data.length) more contents'') :
    Patched contents offset (data ++ more) contents'' := by
  have end' := first.length
  constructor
  case length =>
    rw [second.length, first.length, List.length_append]
    omega
  case written =>
    intro i within
    rw [List.length_append] at within
    rcases Nat.lt_or_ge i data.length with here | later
    · rw [second.kept _ (by omega) (.inl (by omega)), first.written i here,
        List.getElem?_append_left here]
    · obtain ⟨k, rfl⟩ := Nat.exists_eq_add_of_le later
      rw [← Nat.add_assoc, second.written k (by omega), List.getElem?_append_right later,
        Nat.add_sub_cancel_left]
  case kept =>
    intro i old outside
    rw [List.length_append] at outside
    rw [second.kept i (by omega) (by omega), first.kept i old (by omega)]
  case gap =>
    intro i new before
    rw [second.kept i (by omega) (.inl (by omega)), first.gap i new before]

theorem writeAt_writeAt (contents : Bytes) (offset : Nat) (data more : Bytes) :
    writeAt (writeAt contents offset data) (offset + data.length) more =
      writeAt contents offset (data ++ more) :=
  ((patched_writeAt contents offset data).trans (patched_writeAt _ _ more)).unique
    (patched_writeAt contents offset (data ++ more))

end Contents

theorem FileHandle.advance_advance (handle : FileHandle) (first second : Nat) :
    (handle.advance first).advance second = handle.advance (first + second) := by
  simp only [advance, Nat.add_assoc]

namespace FileStore

variable {store store' : FileStore} {handle : FileHandle}

/-- What empties one file leaves the contents of the others. -/
theorem contents_of_emptied {place : Nat} (emptied : store'.data = store.data.set place [])
    (data : Nat) : store'.contents data = if data = place then [] else store.contents data := by
  simp only [contents, emptied, List.getD_eq_getElem?_getD, List.getElem?_set]
  by_cases own : place = data
  · rw [if_pos own, if_pos own.symm]
    split <;> rfl
  · rw [if_neg own, if_neg (Ne.symm own)]

/-- A new file is empty. -/
theorem contents_of_made (made : store'.data = store.data ++ [[]]) (data : Nat) :
    store'.contents data = store.contents data := by
  simp only [contents, made, List.getD_eq_getElem?_getD]
  rcases Nat.lt_or_ge data store.data.length with old | new
  · rw [List.getElem?_append_left old]
  · rw [List.getElem?_append_right new, List.getElem?_eq_none new]
    cases data - store.data.length <;> rfl

/-- A write through a handle patches the contents that it shares. -/
theorem data_write_self (store : FileStore) (bytes : Bytes) {contents : Bytes}
    (shared : store.data[handle.data]? = some contents) :
    (store.write handle bytes).1.data[handle.data]? =
      some (Contents.writeAt contents handle.offset bytes) := by
  simp only [write, List.getElem?_modify, shared, if_true, Option.map_eq_map, Option.map_some]

/-- It leaves all others alone. -/
theorem data_write_other (store : FileStore) (handle : FileHandle) (bytes : Bytes) {other : Nat}
    (apart : other ≠ handle.data) :
    (store.write handle bytes).1.data[other]? = store.data[other]? := by
  simp only [write, List.getElem?_modify, Ne.symm apart, if_false, Option.map_eq_map,
    Option.map_id']

/-- A write through a handle patches the contents that it shares, and no others. -/
theorem contents_write (within : handle.data < store.data.length) (bytes : Bytes) (data : Nat) :
    (store.write handle bytes).1.contents data =
      if data = handle.data then Contents.writeAt (store.contents data) handle.offset bytes
      else store.contents data := by
  simp only [contents, List.getD_eq_getElem?_getD]
  by_cases own : data = handle.data
  · subst own
    have shared := List.getElem?_eq_getElem within
    rw [data_write_self store bytes shared, shared, if_pos rfl, Option.getD_some, Option.getD_some]
  · rw [data_write_other store handle bytes own, if_neg own]

/-- Two writes through a handle that moves on are one. -/
theorem write_write (store : FileStore) (handle : FileHandle) (first second : Bytes) :
    (store.write handle first).1.write (handle.advance first.length) second =
      store.write handle (first ++ second) := by
  have moved := handle.advance_advance first.length second.length
  have sameData : (handle.advance first.length).data = handle.data := rfl
  simp only [write, moved, sameData, List.length_append, List.modify_modify_eq]
  congr 2
  congr 1
  funext contents
  simp only [Function.comp_apply, FileHandle.advance, Contents.writeAt_writeAt]

end FileStore

end SyscallKernel
