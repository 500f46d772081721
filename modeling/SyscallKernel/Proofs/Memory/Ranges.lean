import SyscallKernel.Memory.Paged

/-!
# Ranges of paged memory

Checking a range walks along the pages, and comes to the same as looking at its bytes one after
another. So a check succeeds exactly if each byte may be accessed, and it succeeds on every part
of a range on which it succeeds.
-/

namespace SyscallKernel

/-! ### Bytes one after another -/

section Bytes

variable {refusal? : Nat → Option FaultKind} {start count bad : Nat} {refusal : FaultKind}

/-- The first of `count` addresses from `start` on that is refused, and why. -/
def firstBad? (refusal? : Nat → Option FaultKind) :
    (start count : Nat) → Option (Nat × FaultKind)
  | _, 0 => none
  | start, count + 1 =>
    match refusal? start with
    | some refusal => some (start, refusal)
    | none => firstBad? refusal? (start + 1) count

/-- A check of a range, byte by byte. -/
def checkBytes (refusal? : Nat → Option FaultKind) (addr : UserAddr) (len : Nat) :
    Except Fault Unit :=
  if addressCount < addr.value + len then .error ⟨addr, .overflow⟩
  else
    match firstBad? refusal? addr.value len with
    | some (bad, refusal) => .error ⟨.ofNat bad, refusal⟩
    | none => .ok ()

theorem firstBad?_eq_none_iff :
    firstBad? refusal? start count = none ↔
      ∀ address, start ≤ address → address < start + count → refusal? address = none := by
  induction count generalizing start with
  | zero =>
    simp only [firstBad?, true_iff]
    intro address _ within
    omega
  | succ count ih =>
    rw [firstBad?]
    cases here : refusal? start with
    | some refusal =>
      simp only [reduceCtorEq, false_iff]
      intro all
      rw [all start (Nat.le_refl _) (by omega)] at here
      cases here
    | none =>
      simp only [ih]
      constructor
      · intro all address behind within
        rcases Nat.eq_or_lt_of_le behind with rfl | later
        · exact here
        · exact all address later (by omega)
      · intro all address behind within
        exact all address (by omega) (by omega)

/-- What is found first is refused, and nothing before it is. -/
theorem firstBad?_eq_some_iff :
    firstBad? refusal? start count = some (bad, refusal) ↔
      start ≤ bad ∧ bad < start + count ∧ refusal? bad = some refusal ∧
        ∀ address, start ≤ address → address < bad → refusal? address = none := by
  induction count generalizing start with
  | zero =>
    simp only [firstBad?, reduceCtorEq, false_iff]
    rintro ⟨behind, within, -⟩
    omega
  | succ count ih =>
    rw [firstBad?]
    cases here : refusal? start with
    | some first =>
      simp only [Option.some.injEq, Prod.mk.injEq]
      constructor
      · rintro ⟨rfl, rfl⟩
        exact ⟨Nat.le_refl _, by omega, here, fun address behind before => by omega⟩
      · rintro ⟨behind, -, refused, least⟩
        rcases Nat.eq_or_lt_of_le behind with rfl | later
        · rw [here, Option.some.injEq] at refused
          exact ⟨rfl, refused⟩
        · rw [least start (Nat.le_refl _) later] at here
          cases here
    | none =>
      simp only [ih]
      constructor
      · rintro ⟨behind, within, refused, least⟩
        refine ⟨by omega, by omega, refused, fun address after before => ?_⟩
        rcases Nat.eq_or_lt_of_le after with rfl | later
        · exact here
        · exact least address later before
      · rintro ⟨behind, within, refused, least⟩
        rcases Nat.eq_or_lt_of_le behind with rfl | later
        · rw [here] at refused
          cases refused
        · exact ⟨later, by omega, refused, fun address after before =>
            least address (by omega) before⟩

/-- Addresses that are not refused can be passed over. -/
theorem firstBad?_add {n : Nat}
    (clear : ∀ address, start ≤ address → address < start + n → refusal? address = none) :
    firstBad? refusal? start (n + count) = firstBad? refusal? (start + n) count := by
  induction n generalizing start with
  | zero => rw [Nat.zero_add, Nat.add_zero]
  | succ n ih =>
    rw [Nat.add_right_comm, firstBad?, clear start (Nat.le_refl _) (by omega)]
    simp only
    rw [ih fun address behind within => clear address (by omega) (by omega), Nat.add_right_comm,
      Nat.add_assoc]

/-- A check succeeds exactly if the range has addresses and no byte of it is refused. -/
theorem checkBytes_eq_ok_iff {addr : UserAddr} {len : Nat} :
    checkBytes refusal? addr len = .ok () ↔ addr.value + len ≤ addressCount ∧
      ∀ address, addr.value ≤ address → address < addr.value + len → refusal? address = none := by
  rw [checkBytes, ← firstBad?_eq_none_iff]
  split
  · simp only [reduceCtorEq, false_iff]
    omega
  · cases firstBad? refusal? addr.value len with
    | none => simp only [true_iff, and_true]; omega
    | some found => simp only [reduceCtorEq, and_false]

end Bytes

namespace PagedMemory

variable {memory : PagedMemory} {kind : AccessKind} {pages rest : List Page} {page : Page}
  {position : Nat}

/-- What speaks against an access to the byte at a position in a list of pages. -/
def refusalIn? (kind : AccessKind) (pages : List Page) (position : Nat) : Option FaultKind :=
  pages[position / pageSize]?.elim (some .unmapped) fun page => page.flags.refusal? kind

/-- The byte at an address may be accessed. -/
def Allows (memory : PagedMemory) (kind : AccessKind) (address : Nat) : Prop :=
  refusalIn? kind memory.pages address = none

theorem pageSize_pos : 0 < pageSize := by decide

theorem div_of_offset {vpn offset : Nat} (inside : offset < pageSize) :
    (vpn * pageSize + offset) / pageSize = vpn := by
  rw [Nat.mul_comm, Nat.mul_add_div pageSize_pos, Nat.div_eq_of_lt inside, Nat.add_zero]

theorem mod_of_offset {vpn offset : Nat} (inside : offset < pageSize) :
    (vpn * pageSize + offset) % pageSize = offset := by
  rw [Nat.mul_comm, Nat.mul_add_mod, Nat.mod_eq_of_lt inside]

/-! ### The walk along the pages -/

/-- The walk along the pages finds the first byte that is refused. -/
theorem firstRefusal?_eq_firstBad? {n address count : Nat} (start : address / pageSize = n) :
    firstRefusal? kind (pages.drop n) address count =
      firstBad? (refusalIn? kind pages) address count := by
  generalize left : pages.drop n = rest
  induction rest generalizing n address count with
  | nil =>
    cases count with
    | zero => rfl
    | succ count =>
      have absent : refusalIn? kind pages address = some .unmapped := by
        rw [refusalIn?, start, List.getElem?_eq_none (List.drop_eq_nil_iff.1 left)]
        rfl
      rw [firstRefusal?, firstBad?, absent]
  | cons page rest ih =>
    cases count with
    | zero => rfl
    | succ count =>
      have found : pages[n]? = some page := by
        rw [← List.head?_drop, left, List.head?_cons]
      have behind : pages.drop (n + 1) = rest := by
        rw [← List.tail_drop, left, List.tail_cons]
      have whole := Nat.div_add_mod address pageSize
      have offset : address % pageSize < pageSize := Nat.mod_lt _ pageSize_pos
      obtain ⟨covered, size⟩ : ∃ covered, pageSize - address % pageSize = covered := ⟨_, rfl⟩
      -- Until the next page begins, all bytes share the rights of this one.
      have same : ∀ position, address ≤ position → position < address + covered →
          refusalIn? kind pages position = page.flags.refusal? kind := by
        intro position after before
        have inside : position / pageSize = n := by
          rw [start, Nat.mul_comm] at whole
          have place : position = n * pageSize + (position - n * pageSize) := by omega
          rw [place, div_of_offset (by omega)]
        rw [refusalIn?, inside, found, Option.elim_some]
      have next : (address + covered) / pageSize = n + 1 := by
        have sum : address + covered = pageSize * (n + 1) := by
          rw [start] at whole
          rw [Nat.mul_add, Nat.mul_one]
          omega
        rw [sum, Nat.mul_div_cancel_left _ pageSize_pos]
      rw [firstRefusal?]
      cases refused : page.flags.refusal? kind with
      | some refusal =>
        rw [firstBad?, same address (Nat.le_refl _) (by omega), refused]
      | none =>
        simp only [size, ih next behind]
        rw [refused] at same
        rcases Nat.le_total (count + 1) covered with short | long
        · have empty : count + 1 - covered = 0 := by omega
          rw [empty, firstBad?, eq_comm, firstBad?_eq_none_iff]
          exact fun position after before => same position after (by omega)
        · obtain ⟨more, sum⟩ := Nat.exists_eq_add_of_le long
          rw [sum, Nat.add_sub_cancel_left, firstBad?_add same]

/-! ### Checks -/

/-- A check looks at the bytes of the range one after another. -/
theorem checkRange_eq_checkBytes (memory : PagedMemory) (addr : UserAddr) (len : Nat)
    (kind : AccessKind) :
    memory.checkRange addr len kind = checkBytes (refusalIn? kind memory.pages) addr len := by
  have inside := addr.isLt
  have walk : firstRefusal? kind (memory.pages.drop addr.pageNumber) addr.value len =
      firstBad? (refusalIn? kind memory.pages) addr.value len :=
    firstRefusal?_eq_firstBad? addr.pageNumber_eq.symm
  rw [checkRange, checkBytes, walk]
  split
  · rename_i empty
    rw [empty]
    exact (if_neg (by omega)).symm
  · rename_i nonempty
    rcases Nat.lt_or_ge (addr.value + (len - 1)) addressCount with fits | beyond
    · rw [UserAddr.add?, UserAddr.ofNat?, dif_pos fits, if_neg (by simp)]
      exact (if_neg (by omega)).symm
    · rw [UserAddr.add?, UserAddr.ofNat?, dif_neg (Nat.not_lt.2 beyond), if_pos (by rfl),
        if_pos (by omega)]

/-- A check succeeds exactly if each byte of the range has an address and may be
accessed. -/
theorem checkRange_eq_ok_iff {address : UserAddr} {len : Nat} :
    memory.checkRange address len kind = .ok () ↔
      ∀ i < len, address.value + i < addressCount ∧ memory.Allows kind (address.value + i) := by
  have inside := address.isLt
  rw [checkRange_eq_checkBytes, checkBytes_eq_ok_iff]
  constructor
  · rintro ⟨fits, clear⟩ i within
    exact ⟨by omega, clear _ (by omega) (by omega)⟩
  · intro all
    constructor
    · rcases Nat.eq_zero_or_pos len with rfl | nonempty
      · omega
      · have last := (all (len - 1) (by omega)).1
        omega
    · intro position after before
      obtain ⟨i, rfl⟩ := Nat.exists_eq_add_of_le after
      exact (all i (by omega)).2

end PagedMemory

end SyscallKernel
