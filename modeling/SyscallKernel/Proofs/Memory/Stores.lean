import SyscallKernel.Proofs.Memory.Ranges

/-!
# What a store does to the flags of the pages

A store marks the pages in which its bytes lie as used and dirty. It changes no other flag, so
it changes no page's rights and no answer to a check.
-/

namespace SyscallKernel

/-- Some byte of a range lies in page `n`. -/
def Touches (start count n : Nat) : Prop := ∃ i < count, (start + i) / pageSize = n

instance (start count n : Nat) : Decidable (Touches start count n) :=
  inferInstanceAs (Decidable (∃ i < count, (start + i) / pageSize = n))

namespace PagedMemory

variable {memory : PagedMemory} {kind : AccessKind} {start count n : Nat} {address : UserAddr}
  {data : Bytes}

/-- A range touches the pages that it overlaps. -/
theorem touches_iff :
    Touches start count n ↔
      0 < count ∧ start < (n + 1) * pageSize ∧ n * pageSize < start + count := by
  rw [Nat.add_one_mul]
  constructor
  · rintro ⟨i, within, rfl⟩
    have whole := Nat.div_add_mod (start + i) pageSize
    have offset : (start + i) % pageSize < pageSize := Nat.mod_lt _ pageSize_pos
    rw [Nat.mul_comm] at whole
    omega
  · rintro ⟨nonempty, before, behind⟩
    refine ⟨n * pageSize - start, by omega, ?_⟩
    have first : start + (n * pageSize - start) =
        n * pageSize + (start - n * pageSize) := by omega
    have inside : start - n * pageSize < pageSize := by
      have positive := pageSize_pos
      omega
    rw [first, div_of_offset inside]

/-- The walk along the pages marks those that it touches. -/
theorem flags_scatter {offset : Nat} (inside : offset < pageSize) (pages : List Page)
    (data : Bytes) (n : Nat) :
    (scatter pages offset data)[n]?.map Page.flags =
      (pages[n]?.map Page.flags).map fun flags =>
        if Touches offset data.length n then flags.stored else flags := by
  induction pages generalizing offset data n with
  | nil => cases data <;> rfl
  | cons page rest ih =>
    cases data with
    | nil =>
      have untouched : ¬ Touches offset 0 n := fun touched => Nat.lt_irrefl 0 (touches_iff.1 touched).1
      simp only [scatter, List.length_nil, untouched, if_false, Option.map_id']
    | cons byte data =>
      rw [scatter]
      have nonempty : 0 < (byte :: data).length := Nat.succ_pos _
      generalize byte :: data = data at nonempty
      cases n with
      | zero =>
        have touched : Touches offset data.length 0 := touches_iff.2 (by omega)
        simp only [List.getElem?_cons_zero, Option.map_some, touched, if_true, Page.store]
      | succ n =>
        have later : Touches 0 (data.drop (pageSize - offset)).length n ↔
            Touches offset data.length (n + 1) := by
          rw [touches_iff, touches_iff, List.length_drop, Nat.add_one_mul (n + 1),
            Nat.add_one_mul n]
          omega
        simp only [List.getElem?_cons_succ, ih pageSize_pos, later]

/-- The pages before the one that holds the address are not touched. -/
theorem not_touches_of_lt (before : n < address.pageNumber) :
    ¬ Touches address.value count n := by
  have position := address.pageNumber_mul_add_pageOffset
  have pages : (n + 1) * pageSize ≤ address.pageNumber * pageSize :=
    Nat.mul_le_mul_right pageSize before
  rw [touches_iff]
  omega

/-- A store marks the pages that it touches. -/
theorem flags?_store (memory : PagedMemory) (address : UserAddr) (data : Bytes) (n : Nat) :
    (memory.store address data).flags? n = (memory.flags? n).map fun flags =>
      if Touches address.value data.length n then flags.stored else flags := by
  rw [flags?, flags?, store]
  rcases Nat.lt_or_ge memory.pages.length address.pageNumber with outside | mapped
  · have nothing : scatter [] address.pageOffset data = [] := by cases data <;> rfl
    rw [List.drop_eq_nil_of_le (Nat.le_of_lt outside), nothing, List.append_nil,
      List.take_of_length_le (Nat.le_of_lt outside)]
    cases found : memory.pages[n]? with
    | none => rfl
    | some page =>
      have within := (List.getElem?_eq_some_iff.1 found).1
      simp only [Option.map_some, not_touches_of_lt (Nat.lt_trans within outside), if_false]
  · have front : (memory.pages.take address.pageNumber).length = address.pageNumber :=
      List.length_take_of_le mapped
    -- Both tables begin with the pages before the address.
    have old : memory.pages[n]? = (memory.pages.take address.pageNumber ++
        memory.pages.drop address.pageNumber)[n]? := by rw [List.take_append_drop]
    rw [old, List.getElem?_append, List.getElem?_append, front]
    split
    · rename_i before
      simp only [not_touches_of_lt before, if_false, Option.map_id']
    · rename_i behind
      have position := address.pageNumber_mul_add_pageOffset
      have touches : Touches address.pageOffset data.length (n - address.pageNumber) ↔
          Touches address.value data.length n := by
        have pages := Nat.sub_mul n address.pageNumber pageSize
        have less := Nat.mul_le_mul_right pageSize (Nat.le_of_not_lt behind)
        rw [touches_iff, touches_iff, Nat.add_one_mul, Nat.add_one_mul]
        omega
      simp only [flags_scatter address.pageOffset_lt, touches]

/-! ### Rights -/

/-- A store changes no page's rights. -/
theorem refusalIn?_store (memory : PagedMemory) (kind : AccessKind) (address : UserAddr)
    (data : Bytes) (other : Nat) :
    refusalIn? kind (memory.store address data).pages other =
      refusalIn? kind memory.pages other := by
  have refusal : ∀ memory : PagedMemory, refusalIn? kind memory.pages other =
      (memory.flags? (other / pageSize)).elim (some .unmapped)
        fun flags => flags.refusal? kind := by
    intro memory
    rw [refusalIn?, flags?]
    cases memory.pages[other / pageSize]? <;> rfl
  rw [refusal, refusal, flags?_store]
  cases memory.flags? (other / pageSize) with
  | none => rfl
  | some flags =>
    simp only [Option.map_some, Option.elim_some]
    split <;> rfl

theorem allows_store {other : Nat} :
    (memory.store address data).Allows kind other ↔ memory.Allows kind other := by
  rw [Allows, Allows, refusalIn?_store]

/-- A store changes no answer to a check. -/
theorem checkRange_store (memory : PagedMemory) (address : UserAddr) (data : Bytes)
    (addr : UserAddr) (len : Nat) (kind : AccessKind) :
    (memory.store address data).checkRange addr len kind = memory.checkRange addr len kind := by
  rw [checkRange_eq_checkBytes, checkRange_eq_checkBytes]
  exact congrArg (checkBytes · addr len) (funext (refusalIn?_store memory kind address data))

end PagedMemory

end SyscallKernel
