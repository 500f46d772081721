import SyscallKernel.Proofs.Memory.Stores

/-!
# The contents of paged memory

Reading and storing walk along the pages. Byte by byte they are simple: a range that may
be read is read as its bytes stand there, and a store lays its data over a range, changes
no byte beside it and no right to any byte.
-/

namespace SyscallKernel.PagedMemory

variable {memory memory' memory'' : PagedMemory} {kind : AccessKind}
  {pages rest : List Page} {page : Page} {position start : Nat} {data more : Bytes}

/-- The byte at a position in a list of pages. -/
def byteIn? (pages : List Page) (position : Nat) : Option UInt8 :=
  pages[position / pageSize]?.bind fun page => page.frame[position % pageSize]?

/-- The byte at an address, whoever may access it. -/
def byte? (memory : PagedMemory) (address : Nat) : Option UInt8 := byteIn? memory.pages address

/-! ### Lists of pages -/

theorem byteIn?_of_lt (within : position < pageSize) :
    byteIn? (page :: rest) position = page.frame[position]? := by
  rw [byteIn?, Nat.div_eq_of_lt within, Nat.mod_eq_of_lt within]
  rfl

theorem byteIn?_of_le (beyond : pageSize ≤ position) :
    byteIn? (page :: rest) position = byteIn? rest (position - pageSize) := by
  have next : position / pageSize = (position - pageSize) / pageSize + 1 :=
    Nat.div_eq_sub_div pageSize_pos beyond
  rw [byteIn?, next, List.getElem?_cons_succ, Nat.mod_eq_sub_mod beyond]
  rfl

/-- Positions after some pages are positions among all pages. -/
theorem byteIn?_drop (n : Nat) :
    byteIn? (pages.drop n) position = byteIn? pages (n * pageSize + position) := by
  rw [byteIn?, byteIn?, List.getElem?_drop, Nat.mul_comm, Nat.mul_add_div pageSize_pos,
    Nat.mul_add_mod]

theorem byteIn?_append (front back : List Page) (position : Nat) :
    byteIn? (front ++ back) position =
      if position < front.length * pageSize then byteIn? front position
      else byteIn? back (position - front.length * pageSize) := by
  split
  · rename_i within
    have early : position / pageSize < front.length := by
      rwa [Nat.div_lt_iff_lt_mul pageSize_pos]
    rw [byteIn?, List.getElem?_append_left early]
    rfl
  · rename_i beyond
    have later := @byteIn?_drop (front ++ back) (position - front.length * pageSize) front.length
    rw [List.drop_left, Nat.add_sub_cancel' (Nat.le_of_not_lt beyond)] at later
    exact later.symm

/-- Where an access is not refused there is a byte. -/
theorem exists_byteIn? (allowed : refusalIn? kind pages position = none) :
    ∃ byte, byteIn? pages position = some byte := by
  rw [refusalIn?] at allowed
  cases found : pages[position / pageSize]? with
  | none =>
    rw [found] at allowed
    cases allowed
  | some page =>
    have inside : position % pageSize < page.frame.length := by
      rw [page.length_frame]
      exact Nat.mod_lt _ pageSize_pos
    rw [byteIn?, found, Option.bind_some, List.getElem?_eq_getElem inside]
    exact ⟨_, rfl⟩

/-- The walk along the pages gathers their bytes in order. -/
theorem getElem?_gather {offset : Nat} (inside : offset < pageSize) (pages : List Page)
    (count i : Nat) :
    (gather pages offset count)[i]? = if i < count then byteIn? pages (offset + i) else none := by
  induction pages generalizing offset count i with
  | nil => cases count <;> simp [gather, byteIn?]
  | cons page rest ih =>
    cases count with
    | zero => simp [gather]
    | succ count =>
      rw [gather, List.getElem?_append, Page.length_fetch, ih pageSize_pos, Page.fetch,
        List.getElem?_take, List.getElem?_drop, Nat.zero_add]
      rcases Nat.lt_or_ge (offset + i) pageSize with here | beyond
      · rw [byteIn?_of_lt here]
        split
        · rfl
        · rw [if_neg (by omega), if_neg (by omega)]
      · have later : offset + i - pageSize = i - min (count + 1) (pageSize - offset) ∨
            count + 1 ≤ i := by omega
        rw [byteIn?_of_le beyond, if_neg (by omega)]
        split
        · rw [if_pos (by omega), later.resolve_right (by omega)]
        · rw [if_neg (by omega)]

/-- The walk along the pages lays the data over their bytes, as far as there are pages. -/
theorem byteIn?_scatter {offset : Nat} (inside : offset < pageSize) (pages : List Page)
    (data : Bytes) (position : Nat) :
    byteIn? (scatter pages offset data) position =
      if offset ≤ position ∧ position < offset + data.length ∧
        position < pages.length * pageSize then data[position - offset]?
      else byteIn? pages position := by
  induction pages generalizing offset data position with
  | nil => cases data <;> simp [scatter]
  | cons page rest ih =>
    cases data with
    | nil =>
      rw [scatter, if_neg]
      simp only [List.length_nil]
      omega
    | cons byte data =>
      rw [scatter, @List.length_cons _ page rest, Nat.succ_mul]
      rcases Nat.lt_or_ge position pageSize with here | beyond
      · rw [byteIn?_of_lt here, byteIn?_of_lt here, Page.store, Bytes.getElem?_overlay,
          List.length_take, page.length_frame, List.getElem?_take]
        split <;> split
        · rw [if_pos (by omega)]
        · omega
        · omega
        · rfl
      · rw [byteIn?_of_le beyond, byteIn?_of_le beyond, ih pageSize_pos, List.length_drop,
          List.getElem?_drop]
        have same : pageSize - offset + (position - pageSize - 0) = position - offset := by omega
        rw [same]
        split <;> split
        · rfl
        · omega
        · omega
        · rfl

/-! ### Ranges -/

/-- Bytes stand in memory from an address on. -/
def Shows (memory : PagedMemory) (start : Nat) (data : Bytes) : Prop :=
  ∀ i < data.length, memory.byte? (start + i) = data[i]?

theorem shows_nil : memory.Shows start [] := fun _ within => nomatch within

/-- What stands behind other bytes continues them. -/
theorem Shows.append (first : memory.Shows start data)
    (second : memory.Shows (start + data.length) more) : memory.Shows start (data ++ more) := by
  intro i within
  rw [List.length_append] at within
  rcases Nat.lt_or_ge i data.length with here | beyond
  · rw [List.getElem?_append_left here, first i here]
  · have later := second (i - data.length) (by omega)
    rw [List.getElem?_append_right beyond, ← later]
    congr 1
    omega

/-- The first of some bytes stand there too. -/
theorem Shows.take (shows : memory.Shows start data) (n : Nat) :
    memory.Shows start (data.take n) := by
  intro i within
  rw [List.length_take] at within
  rw [List.getElem?_take, if_pos (by omega), shows i (by omega)]

/-- What can be read of a range is what stands there. -/
theorem readBytes_eq_ok_iff {address : UserAddr} {len : Nat} :
    memory.readBytes address len = .ok data ↔
      memory.checkRange address len .read = .ok () ∧ data.length = len ∧
        memory.Shows address.value data := by
  have gathered : ∀ i, (gather (memory.pages.drop address.pageNumber) address.pageOffset len)[i]? =
      if i < len then memory.byte? (address.value + i) else none := by
    intro i
    rw [getElem?_gather address.pageOffset_lt, byteIn?_drop, ← Nat.add_assoc,
      address.pageNumber_mul_add_pageOffset]
    rfl
  rw [readBytes]
  cases checked : memory.checkRange address len .read with
  | error fault => simp only [reduceCtorEq, false_and]
  | ok done =>
    simp only [Except.ok.injEq, true_and]
    generalize gather (memory.pages.drop address.pageNumber) address.pageOffset len = read
      at gathered
    constructor
    · rintro rfl
      have enough : len ≤ read.length := by
        refine Nat.le_of_not_lt fun short => ?_
        obtain ⟨byte, found⟩ := exists_byteIn? (checkRange_eq_ok_iff.1 checked _ short).2
        have last := gathered read.length
        rw [List.getElem?_eq_none (Nat.le_refl _), if_pos short, byte?, found] at last
        cases last
      have few : read.length ≤ len := by
        rw [← List.getElem?_eq_none_iff, gathered, if_neg (Nat.lt_irrefl len)]
      refine ⟨Nat.le_antisymm few enough, fun i within => ?_⟩
      rw [gathered, if_pos (Nat.lt_of_lt_of_le within few)]
    · rintro ⟨rfl, shows⟩
      refine List.ext_getElem? fun i => ?_
      rw [gathered]
      split
      · rename_i within
        exact shows i within
      · rename_i beyond
        exact (List.getElem?_eq_none (Nat.le_of_not_lt beyond)).symm

/-! ### Stores -/

/-- A memory after some bytes were laid over it from an address on. -/
structure Overlaid (memory : PagedMemory) (start : Nat) (data : Bytes) (memory' : PagedMemory) :
    Prop where
  /-- The bytes are there, and every other byte is as before. -/
  byte?_eq : ∀ address, memory'.byte? address =
    if start ≤ address ∧ address < start + data.length then data[address - start]?
    else memory.byte? address
  /-- Every byte may be accessed as before. -/
  allows_iff : ∀ kind address, memory'.Allows kind address ↔ memory.Allows kind address

theorem overlaid_nil (memory : PagedMemory) (start : Nat) : memory.Overlaid start [] memory := by
  refine ⟨fun address => ?_, fun _ _ => Iff.rfl⟩
  rw [if_neg]
  simp only [List.length_nil]
  omega

/-- Bytes laid behind others continue them. -/
theorem Overlaid.append (first : memory.Overlaid start data memory')
    (second : memory'.Overlaid (start + data.length) more memory'') :
    memory.Overlaid start (data ++ more) memory'' := by
  refine ⟨fun address => ?_, fun kind address =>
    (second.allows_iff kind address).trans (first.allows_iff kind address)⟩
  rw [second.byte?_eq, first.byte?_eq, List.length_append, List.getElem?_append]
  rcases Nat.lt_or_ge address (start + data.length) with left | right
  · rw [if_neg (by omega)]
    rcases Nat.lt_or_ge address start with before | inside
    · rw [if_neg (by omega), if_neg (by omega)]
    · rw [if_pos ⟨inside, left⟩, if_pos (by omega), if_pos (by omega)]
  · rcases Nat.lt_or_ge address (start + data.length + more.length) with inside | beyond
    · rw [if_pos ⟨right, inside⟩, if_pos (by omega), if_neg (by omega), Nat.sub_sub]
    · rw [if_neg (by omega), if_neg (by omega), if_neg (by omega)]

/-- What was laid over a memory stands there. -/
theorem Overlaid.shows (overlaid : memory.Overlaid start data memory') :
    memory'.Shows start data := by
  intro i within
  rw [overlaid.byte?_eq, if_pos (by omega), Nat.add_sub_cancel_left]

/-- Bytes that may be accessed lie in the pages. -/
theorem lt_of_allows {address : Nat} (allowed : memory.Allows kind address) :
    address < memory.pages.length * pageSize := by
  rw [← Nat.div_lt_iff_lt_mul pageSize_pos]
  refine Nat.lt_of_not_le fun beyond => ?_
  rw [Allows, refusalIn?, List.getElem?_eq_none beyond] at allowed
  cases allowed

/-- Whatever may be accessed may be read. -/
theorem allows_read {address : Nat} (allowed : memory.Allows kind address) :
    memory.Allows .read address := by
  unfold Allows refusalIn? at allowed ⊢
  cases found : memory.pages[address / pageSize]? with
  | none =>
    rw [found] at allowed
    cases allowed
  | some page =>
    rw [found] at allowed
    simp only [Option.elim_some, PageFlags.refusal?] at allowed ⊢
    split at allowed
    · cases allowed
    · rename_i valid
      rw [if_neg valid, if_neg (fun both => nomatch both.1)]

/-- A store over bytes that may be accessed lays its data over them. -/
theorem overlaid_store {address : UserAddr}
    (allowed : ∀ i < data.length, memory.Allows kind (address.value + i)) :
    memory.Overlaid address.value data (memory.store address data) := by
  rcases Nat.eq_zero_or_pos data.length with empty | nonempty
  · have same : memory.store address [] = memory := by
      rw [store, scatter, List.take_append_drop]
    rw [List.eq_nil_of_length_eq_zero empty, same]
    exact overlaid_nil memory address.value
  · refine ⟨fun other => ?_, fun kind other => allows_store⟩
    have position := address.pageNumber_mul_add_pageOffset
    have mapped : address.pageNumber ≤ memory.pages.length := by
      have first := lt_of_allows (allowed 0 nonempty)
      rw [Nat.add_zero, ← Nat.div_lt_iff_lt_mul pageSize_pos, ← UserAddr.pageNumber_eq] at first
      exact Nat.le_of_lt first
    have front : (memory.pages.take address.pageNumber).length = address.pageNumber :=
      List.length_take_of_le mapped
    -- Both memories begin with the pages before the address, and differ only behind them.
    have old := byteIn?_append (memory.pages.take address.pageNumber)
      (memory.pages.drop address.pageNumber) other
    rw [List.take_append_drop, front] at old
    rw [byte?, byte?, store, byteIn?_append, byteIn?_scatter address.pageOffset_lt, front, old,
      List.length_drop, Nat.sub_mul]
    rcases Nat.lt_or_ge other (address.pageNumber * pageSize) with before | behind
    · rw [if_pos before, if_pos before, if_neg (by omega)]
    · rw [if_neg (Nat.not_lt.2 behind), if_neg (Nat.not_lt.2 behind)]
      rcases Nat.lt_or_ge other (address.value + data.length) with left | right
      · rcases Nat.lt_or_ge other address.value with outside | inside
        · rw [if_neg (by omega), if_neg (by omega)]
        · have covered := lt_of_allows (allowed (other - address.value) (by omega))
          rw [Nat.add_sub_cancel' inside] at covered
          rw [if_pos (by omega), if_pos ⟨inside, left⟩]
          congr 1
          omega
      · rw [if_neg (by omega), if_neg (by omega)]

end SyscallKernel.PagedMemory
