import SyscallKernel.Proofs.Memory.Views

/-!
# Strings in user memory

A string is looked for page by page, and what is found depends on the view of the memory: the
first terminator among the bytes looked at ends the string, and a byte that may not be read
before it is a fault. Bytes that hold neither are no string, unless they end at the last
address: the step behind it overflows, although nothing more was to be read. No read goes beyond
the bytes looked at, and nothing but the answers to its reads decides what a search finds.
-/

namespace SyscallKernel

theorem Bytes.takeWhile_ne_zero (data : Bytes) :
    data.takeWhile (· ≠ 0) = data.take (data.idxOf 0) := by
  rw [List.takeWhile_eq_take_findIdx_not, List.idxOf]
  have same : (fun byte : UInt8 => !decide (byte ≠ 0)) = (· == 0) := by
    funext byte
    by_cases zero : byte = 0 <;> simp [zero]
  rw [same]

namespace ByteView

variable {view : ByteView} {start count more : Nat} {data text other : Bytes}

/-- Bytes that may be read, none of them a terminator. -/
def Unended (view : ByteView) (start count : Nat) : Prop :=
  ∀ i < count, ∃ byte, view (start + i) = some byte ∧ byte ≠ 0

/-- A string stands at an address, with a terminator behind it. -/
structure Spells (view : ByteView) (start : Nat) (text : Bytes) : Prop where
  /-- Its bytes are shown. -/
  holds : view.Holds start text
  /-- None of them is a terminator. -/
  nonzero : 0 ∉ text
  /-- A terminator follows. -/
  ends : view (start + text.length) = some 0

/-- A byte that may not be read comes before any terminator. -/
def Breaks (view : ByteView) (start count : Nat) : Prop :=
  ∃ i < count, view.Unended start i ∧ view (start + i) = none

theorem Unended.mono (unended : view.Unended start count) (fewer : more ≤ count) :
    view.Unended start more :=
  fun i within => unended i (Nat.lt_of_lt_of_le within fewer)

theorem Unended.append (first : view.Unended start count)
    (second : view.Unended (start + count) more) : view.Unended start (count + more) := by
  intro i within
  rcases Nat.lt_or_ge i count with here | beyond
  · exact first i here
  · obtain ⟨byte, shown, nonzero⟩ := second (i - count) (by omega)
    rw [Nat.add_assoc, Nat.add_sub_cancel' beyond] at shown
    exact ⟨byte, shown, nonzero⟩

theorem Holds.unended (holds : view.Holds start data) (nonzero : 0 ∉ data) :
    view.Unended start data.length := by
  intro i within
  refine ⟨data[i], (holds i within).trans (List.getElem?_eq_getElem within), fun zero => ?_⟩
  exact nonzero (zero ▸ List.getElem_mem within)

theorem Spells.unended (spells : view.Spells start text) : view.Unended start text.length :=
  spells.holds.unended spells.nonzero

/-- The bytes of a string and its terminator are not without a terminator. -/
theorem Spells.not_unended (spells : view.Spells start text) (short : text.length < count) :
    ¬ view.Unended start count := by
  intro unended
  obtain ⟨byte, shown, nonzero⟩ := unended text.length short
  rw [spells.ends, Option.some.injEq] at shown
  exact nonzero shown.symm

/-- Reading a string comes to its terminator first. -/
theorem Spells.not_breaks (spells : view.Spells start text) : ¬ view.Breaks start count := by
  rintro ⟨i, -, unended, dark⟩
  rcases Nat.lt_trichotomy i text.length with before | rfl | behind
  · obtain ⟨byte, shown, -⟩ := spells.unended i before
    rw [dark] at shown
    cases shown
  · exact nomatch spells.ends.symm.trans dark
  · exact spells.not_unended behind unended

theorem Unended.not_breaks (unended : view.Unended start count) : ¬ view.Breaks start count := by
  rintro ⟨i, within, -, dark⟩
  obtain ⟨byte, shown, -⟩ := unended i within
  rw [dark] at shown
  cases shown

/-- One string at most stands at an address. -/
theorem Spells.unique (spells : view.Spells start text) (also : view.Spells start other) :
    text = other := by
  have same : text.length = other.length := by
    refine Nat.le_antisymm (Nat.le_of_not_lt fun short => ?_) (Nat.le_of_not_lt fun short => ?_)
    · exact also.not_unended short spells.unended
    · exact spells.not_unended short also.unended
  exact spells.holds.unique also.holds same

/-- Bytes with a terminator among them begin with a string. -/
theorem Holds.spells (holds : view.Holds start data) (ends : 0 ∈ data) :
    view.Spells start (data.takeWhile (· ≠ 0)) := by
  have within : data.idxOf 0 < data.length := List.idxOf_lt_length_of_mem ends
  have length : (data.takeWhile (· ≠ 0)).length = data.idxOf 0 := by
    rw [Bytes.takeWhile_ne_zero, List.length_take_of_le (Nat.le_of_lt within)]
  constructor
  case holds =>
    intro i early
    rw [length] at early
    rw [Bytes.takeWhile_ne_zero, List.getElem?_take, if_pos early,
      holds i (Nat.lt_trans early within)]
  case nonzero =>
    intro member
    have all := List.all_eq_true.1 (List.all_takeWhile (l := data) (p := (· ≠ 0))) 0 member
    exact of_decide_eq_true all rfl
  case ends =>
    rw [length, holds _ within, List.getElem?_eq_getElem within, List.getElem_idxOf]

/-- Bytes without a terminator are a string if one follows. -/
theorem Unended.exists_spells (unended : view.Unended start count)
    (ends : view (start + count) = some 0) :
    ∃ text, text.length = count ∧ view.Spells start text := by
  have covers : view.Covers start count := by
    intro i within
    obtain ⟨byte, shown, -⟩ := unended i within
    rw [shown]
    rfl
  obtain ⟨text, rfl, holds⟩ := covers.exists_holds
  refine ⟨text, rfl, holds, fun member => ?_, ends⟩
  obtain ⟨i, within, zero⟩ := List.getElem_of_mem member
  obtain ⟨byte, shown, nonzero⟩ := unended i within
  rw [holds i within, List.getElem?_eq_getElem within, zero, Option.some.injEq] at shown
  exact nonzero shown.symm

/-- A string that begins with some bytes goes on behind them. -/
theorem Spells.append (holds : view.Holds start data) (nonzero : 0 ∉ data)
    (spells : view.Spells (start + data.length) text) : view.Spells start (data ++ text) where
  holds := holds.append spells.holds
  nonzero member := (List.mem_append.1 member).elim nonzero spells.nonzero
  ends := by
    rw [List.length_append, ← Nat.add_assoc]
    exact spells.ends

/-- Looking at some bytes comes to a terminator, to a byte that may not be read, or to neither. -/
theorem spells_or_unended_or_breaks (view : ByteView) (start count : Nat) :
    (∃ text, text.length < count ∧ view.Spells start text) ∨ view.Unended start count ∨
      view.Breaks start count := by
  induction count with
  | zero => exact .inr (.inl fun _ within => nomatch within)
  | succ count ih =>
    rcases ih with ⟨text, short, spells⟩ | unended | ⟨i, within, before, dark⟩
    · exact .inl ⟨text, Nat.lt_succ_of_lt short, spells⟩
    · cases shown : view (start + count) with
      | none => exact .inr (.inr ⟨count, Nat.lt_succ_self count, unended, shown⟩)
      | some byte =>
        by_cases zero : byte = 0
        · obtain ⟨text, rfl, spells⟩ := unended.exists_spells (zero ▸ shown)
          exact .inl ⟨text, Nat.lt_succ_self _, spells⟩
        · refine .inr (.inl fun i within => ?_)
          rcases Nat.lt_succ_iff_lt_or_eq.1 within with before | rfl
          · exact unended i before
          · exact ⟨byte, shown, zero⟩
    · exact .inr (.inr ⟨i, Nat.lt_succ_of_lt within, before, dark⟩)

/-! ### The same string in two views -/

variable {there : ByteView}

/-- Another view shows the same as far as a search for a string reads. -/
def SameString (view there : ByteView) (start count : Nat) : Prop :=
  ∀ i < count, view.Unended start i → there (start + i) = view (start + i)

/-- So it is read alike from the other side. -/
theorem SameString.symm (same : view.SameString there start count) :
    there.SameString view start count := by
  -- As long as the other view shows no terminator, this one shows none either.
  have back : ∀ part ≤ count, there.Unended start part → view.Unended start part := by
    intro part
    induction part with
    | zero => exact fun _ _ _ early => nomatch early
    | succ part ih =>
      intro within unended
      have before := ih (by omega) (unended.mono (Nat.le_succ part))
      intro i early
      rcases Nat.lt_succ_iff_lt_or_eq.1 early with behind | rfl
      · exact before i behind
      · rw [← same i (by omega) before]
        exact unended i early
  exact fun i within unended => (same i within (back i (Nat.le_of_lt within) unended)).symm

/-- Strings are the same in such a view. -/
theorem SameString.spells (same : view.SameString there start count) (short : text.length < count)
    (spells : view.Spells start text) : there.Spells start text where
  holds i within := by
    have before := spells.unended.mono (Nat.le_of_lt within)
    rw [same i (Nat.lt_trans within short) before, spells.holds i within]
  nonzero := spells.nonzero
  ends := by rw [same text.length short spells.unended, spells.ends]

/-! ### Searches -/

/-- What a search for a string among some bytes comes to. -/
inductive Scanned (view : ByteView) (start count : Nat) : Except Fault (Option Bytes) → Prop where
  /-- A string ends in time. -/
  | found {text : Bytes} (spells : view.Spells start text) (short : text.length < count) :
    Scanned view start count (.ok (some text))
  /-- None of the bytes is a terminator. -/
  | unended (unended : view.Unended start count) (room : start + count < addressCount) :
    Scanned view start count (.ok none)
  /-- None of the bytes is a terminator, but there is no address behind them. -/
  | overflow {place : UserAddr} (unended : view.Unended start count)
    (full : start + count = addressCount) (late : start ≤ place.value)
    (last : addressCount - pageSize ≤ place.value) :
    Scanned view start count (.error ⟨place, .overflow⟩)
  /-- A byte may not be read. -/
  | broken {fault : Fault} (breaks : view.Breaks start count) :
    Scanned view start count (.error fault)

variable {result : Except Fault (Option Bytes)}

/-- A search that starts with some bytes goes on behind them. -/
theorem Scanned.behind (holds : view.Holds start data) (nonzero : 0 ∉ data)
    (rest : view.Scanned (start + data.length) count result) :
    view.Scanned start (data.length + count) (result.map (Option.map (data ++ ·))) := by
  have first := holds.unended nonzero
  cases rest with
  | found spells short =>
    refine .found (.append holds nonzero spells) ?_
    rw [List.length_append]
    omega
  | unended unended room => exact .unended (first.append unended) (by omega)
  | overflow unended full late last =>
    exact .overflow (first.append unended) (by omega) (by omega) last
  | broken breaks =>
    obtain ⟨i, within, unended, dark⟩ := breaks
    rw [Nat.add_assoc] at dark
    exact .broken ⟨data.length + i, by omega, first.append unended, dark⟩

/-- A search finds a string exactly if it ends in time. -/
theorem Scanned.found_iff (scanned : view.Scanned start count result) :
    result = .ok (some text) ↔ text.length < count ∧ view.Spells start text := by
  cases scanned with
  | @found found spells short =>
    simp only [Except.ok.injEq, Option.some.injEq]
    constructor
    · rintro rfl
      exact ⟨short, spells⟩
    · rintro ⟨-, also⟩
      exact spells.unique also
  | unended unended room =>
    simp only [Except.ok.injEq, reduceCtorEq, false_iff]
    exact fun both => both.2.not_unended both.1 unended
  | overflow unended full late last =>
    simp only [reduceCtorEq, false_iff]
    exact fun both => both.2.not_unended both.1 unended
  | broken breaks =>
    simp only [reduceCtorEq, false_iff]
    exact fun both => both.2.not_breaks breaks

/-- It finds no string exactly if none of the bytes is a terminator, and an address follows. -/
theorem Scanned.none_iff (scanned : view.Scanned start count result) :
    result = .ok none ↔ view.Unended start count ∧ start + count < addressCount := by
  cases scanned with
  | found spells short =>
    simp only [Except.ok.injEq, reduceCtorEq, false_iff]
    exact fun both => spells.not_unended short both.1
  | unended unended room => exact iff_of_true rfl ⟨unended, room⟩
  | overflow unended full late last =>
    simp only [reduceCtorEq, false_iff]
    exact fun both => Nat.ne_of_lt both.2 full
  | broken breaks =>
    simp only [reduceCtorEq, false_iff]
    exact fun both => both.1.not_breaks breaks

/-- It faults exactly if a byte may not be read, as long as an address follows. -/
theorem Scanned.error_iff (scanned : view.Scanned start count result)
    (room : start + count < addressCount) :
    (∃ fault, result = .error fault) ↔ view.Breaks start count := by
  cases scanned with
  | found spells short =>
    simp only [reduceCtorEq, exists_false, false_iff]
    exact spells.not_breaks
  | unended unended _ =>
    simp only [reduceCtorEq, exists_false, false_iff]
    exact unended.not_breaks
  | overflow unended full late last => exact absurd full (Nat.ne_of_lt room)
  | @broken fault breaks => exact iff_of_true ⟨fault, rfl⟩ breaks

end ByteView

namespace AddressSpace

variable {σ τ : Type} [AddressSpace σ] [AddressSpace τ] {memory : σ} {view : ByteView}
  {cursor addr : UserAddr} {remaining maxLength : Nat}

/-- The page of an address ends inside the addresses. -/
theorem pageEnd_le (addr : UserAddr) :
    addr.value + (pageSize - addr.pageOffset) ≤ addressCount := by
  have position := addr.pageNumber_mul_add_pageOffset
  have inPage := addr.pageOffset_lt
  have bound := addr.isLt
  unfold pageSize addressCount at *
  omega

/-- A page that is not read breaks any string at its first byte: if that could be read, so could
the rest. -/
theorem Reads.breaks_of_error (reads : Reads memory view) {len count : Nat} {fault : Fault}
    (refused : readBytes memory cursor len = .error fault)
    (inPage : cursor.pageOffset + len ≤ pageSize) (wanted : 0 < count) :
    view.Breaks cursor.value count := by
  have first : view.Unended cursor.value 0 := fun _ within => nomatch within
  refine ⟨0, wanted, first, ?_⟩
  rw [Nat.add_zero, ← Option.not_isSome_iff_eq_none]
  intro seen
  obtain ⟨chunk, read, -⟩ := reads.exists_readBytes (reads.covers_page seen inPage)
  rw [refused] at read
  cases read

/-- A search for a string comes to what its bytes decide. -/
theorem Reads.scanned (reads : Reads memory view) (cursor : UserAddr) (remaining : Nat) :
    view.Scanned cursor.value remaining (scanString memory cursor remaining) := by
  induction remaining using Nat.strongRecOn generalizing cursor with
  | ind remaining ih =>
    rw [scanString]
    split
    · rename_i nothing
      subst nothing
      exact .unended (fun _ within => nomatch within) cursor.isLt
    · rename_i wanted
      have room : 0 < pageSize - cursor.pageOffset := Nat.sub_pos_of_lt cursor.pageOffset_lt
      have pageEnd := pageEnd_le cursor
      obtain ⟨step, least⟩ : ∃ step, min (pageSize - cursor.pageOffset) remaining = step := ⟨_, rfl⟩
      simp only [least]
      cases loaded : readBytes memory cursor step with
      | error fault =>
        exact .broken (reads.breaks_of_error loaded (by omega) (Nat.pos_of_ne_zero wanted))
      | ok chunk =>
        obtain ⟨length, holds⟩ := (reads.readBytes_eq_ok_iff cursor step chunk).1 loaded
        simp only
        split
        · rename_i ends
          refine .found (holds.spells ends) ?_
          have before := List.idxOf_lt_length_of_mem ends
          rw [Bytes.takeWhile_ne_zero, List.length_take]
          omega
        · rename_i nonzero
          have unended := length ▸ holds.unended nonzero
          cases reached : cursor.add? step with
          | none =>
            have full : cursor.value + step = addressCount :=
              Nat.le_antisymm (by omega) (UserAddr.le_of_add?_eq_none reached)
            rcases Nat.lt_or_ge step remaining with more | all
            · refine .broken ⟨step, more, unended, ?_⟩
              rw [← Option.not_isSome_iff_eq_none, full]
              exact fun seen => Nat.lt_irrefl _ (reads.lt_of_isSome _ seen)
            · have whole : step = remaining := by omega
              exact .overflow (whole ▸ unended) (whole ▸ full) (Nat.le_refl _) (by omega)
          | some next =>
            have value := UserAddr.add?_eq_some.1 reached
            have rest := ih (remaining - step) (by omega) next
            rw [← value, ← length] at rest
            have later := rest.behind holds nonzero
            rw [length, Nat.add_sub_cancel' (by omega)] at later
            simp only
            cases scanned : scanString memory next (remaining - step) with
            | error fault =>
              rw [scanned] at later
              exact later
            | ok text =>
              rw [scanned] at later
              exact later

/-- A string is searched for among one byte more than it may have. -/
theorem Reads.readString_scanned (reads : Reads memory view) (addr : UserAddr)
    (short : maxLength < addressCount - 1) :
    view.Scanned addr.value (maxLength + 1) (readString memory addr maxLength) := by
  have scanned := reads.scanned addr (maxLength + 1)
  rwa [readString, Nat.min_eq_left short]

/-! ### What a search reads -/

/-- The ranges a search for a string asks for, in order: each begins where the one before it ended. -/
def scanReads (memory : σ) (cursor : UserAddr) (remaining : Nat) : List (UserAddr × Nat) :=
  if _h : remaining = 0 then []
  else
    let step := min (pageSize - cursor.pageOffset) remaining
    (cursor, step) ::
      match readBytes memory cursor step with
      | .error _ => []
      | .ok chunk =>
        if 0 ∈ chunk then []
        else
          match cursor.add? step with
          | none => []
          | some next => scanReads memory next (remaining - step)
termination_by remaining
decreasing_by
  have : 0 < pageSize - cursor.pageOffset := Nat.sub_pos_of_lt cursor.pageOffset_lt
  omega

/-- A search asks for something each time, and for nothing outside the bytes it looks at. -/
theorem mem_scanReads {place : UserAddr} {len : Nat}
    (asked : (place, len) ∈ scanReads memory cursor remaining) :
    cursor.value ≤ place.value ∧ 0 < len ∧ place.value + len ≤ cursor.value + remaining := by
  induction remaining using Nat.strongRecOn generalizing cursor with
  | ind remaining ih =>
    rw [scanReads] at asked
    split at asked
    · cases asked
    · have room : 0 < pageSize - cursor.pageOffset := Nat.sub_pos_of_lt cursor.pageOffset_lt
      rcases List.mem_cons.1 asked with first | later
      · cases first
        omega
      · split at later
        · cases later
        · split at later
          · cases later
          · split at later
            · cases later
            · rename_i reached
              have value := UserAddr.add?_eq_some.1 reached
              have rest := ih _ (by omega) later
              omega

/-- Each time it asks for what lies behind all that it asked for before. -/
theorem pairwise_scanReads (memory : σ) (cursor : UserAddr) (remaining : Nat) :
    (scanReads memory cursor remaining).Pairwise fun earlier later =>
      earlier.1.value + earlier.2 ≤ later.1.value := by
  induction remaining using Nat.strongRecOn generalizing cursor with
  | ind remaining ih =>
    rw [scanReads]
    split
    · exact .nil
    · have room : 0 < pageSize - cursor.pageOffset := Nat.sub_pos_of_lt cursor.pageOffset_lt
      refine List.pairwise_cons.2 ⟨fun ⟨place, len⟩ asked => ?_, ?_⟩
      · split at asked
        · cases asked
        · split at asked
          · cases asked
          · split at asked
            · cases asked
            · rename_i reached
              rw [UserAddr.add?_eq_some.1 reached]
              exact (mem_scanReads asked).1
      · split
        · exact .nil
        · split
          · exact .nil
          · split
            · exact .nil
            · exact ih _ (by omega) _

/-- Another memory that answers the same to what a search asks for gives the same result. -/
theorem scanString_congr {other : τ} (same : ∀ place len,
      (place, len) ∈ scanReads memory cursor remaining →
        readBytes other place len = readBytes memory place len) :
    scanString other cursor remaining = scanString memory cursor remaining := by
  induction remaining using Nat.strongRecOn generalizing cursor with
  | ind remaining ih =>
    rw [scanString, scanString]
    rw [scanReads] at same
    split
    · rfl
    · rename_i wanted
      rw [dif_neg wanted] at same
      have room : 0 < pageSize - cursor.pageOffset := Nat.sub_pos_of_lt cursor.pageOffset_lt
      obtain ⟨step, least⟩ : ∃ step, min (pageSize - cursor.pageOffset) remaining = step := ⟨_, rfl⟩
      simp only [least] at same ⊢
      rw [same cursor step List.mem_cons_self]
      cases loaded : readBytes memory cursor step with
      | error fault => rfl
      | ok chunk =>
        simp only [loaded] at same ⊢
        split
        · rfl
        · rename_i nonzero
          cases reached : cursor.add? step with
          | none => rfl
          | some next =>
            simp only [reached, if_neg nonzero] at same ⊢
            rw [ih (remaining - step) (by omega) fun place len asked =>
              same place len (List.mem_cons_of_mem _ asked)]

/-- The ranges the search for the string at an address asks for. -/
def stringReads (memory : σ) (addr : UserAddr) (maxLength : Nat) : List (UserAddr × Nat) :=
  scanReads memory addr (min (maxLength + 1) (addressCount - 1))

/-- What the search for the string at an address finds, in a memory read as a view shows it. -/
structure FindsString (memory : σ) (view : ByteView) (addr : UserAddr) (maxLength : Nat) :
    Prop where
  /-- It finds exactly the strings of the allowed length, whatever follows their terminator. -/
  found_iff : ∀ text, readString memory addr maxLength = .ok (some text) ↔
    text.length ≤ maxLength ∧ view.Spells addr.value text
  /-- It finds none exactly if all the bytes it looks at may be read, none of them is a
  terminator, and they do not end at the last address. -/
  none_iff : readString memory addr maxLength = .ok none ↔
    view.Unended addr.value (maxLength + 1) ∧ addr.value + (maxLength + 1) < addressCount
  /-- If they end at the last address, the step behind it overflows from somewhere in the last
  page. -/
  overflow : view.Unended addr.value (maxLength + 1) →
    addr.value + (maxLength + 1) = addressCount →
      ∃ place : UserAddr, addr.value ≤ place.value ∧ addressCount - pageSize ≤ place.value ∧
        readString memory addr maxLength = .error ⟨place, .overflow⟩
  /-- If there is neither a string nor enough to look at, it faults. -/
  faults : (∀ text, text.length ≤ maxLength → ¬ view.Spells addr.value text) →
    ¬ view.Unended addr.value (maxLength + 1) →
      ∃ fault, readString memory addr maxLength = .error fault
  /-- Each of its reads asks for something, and for nothing outside the bytes it looks at. -/
  within : ∀ place len, (place, len) ∈ stringReads memory addr maxLength →
    addr.value ≤ place.value ∧ 0 < len ∧ place.value + len ≤ addr.value + (maxLength + 1)
  /-- Each read asks for what lies behind all reads before it, so for no byte twice. -/
  once : (stringReads memory addr maxLength).Pairwise fun earlier later =>
    earlier.1.value + earlier.2 ≤ later.1.value
  /-- Nothing but the answers to these reads decides what it finds. -/
  decided : ∀ (τ : Type) [AddressSpace τ] (other : τ),
    (∀ place len, (place, len) ∈ stringReads memory addr maxLength →
      readBytes other place len = readBytes memory place len) →
        readString other addr maxLength = readString memory addr maxLength

/-- The search for a string finds it wherever it stands. It finds none if it looked at enough
bytes, except at the end of the address space, and it never looks further than it has to. -/
theorem Reads.findsString (reads : Reads memory view) (addr : UserAddr)
    (short : maxLength < addressCount - 1) : FindsString memory view addr maxLength := by
  have scanned := reads.readString_scanned addr short
  have probe : min (maxLength + 1) (addressCount - 1) = maxLength + 1 := Nat.min_eq_left short
  have asked : stringReads memory addr maxLength = scanReads memory addr (maxLength + 1) := by
    rw [stringReads, probe]
  constructor
  case found_iff =>
    intro text
    rw [scanned.found_iff, Nat.lt_succ_iff]
  case none_iff => exact scanned.none_iff
  case overflow =>
    intro unended full
    generalize readString memory addr maxLength = result at scanned
    cases scanned with
    | found spells ends => exact absurd unended (spells.not_unended ends)
    | unended _ room => exact absurd full (Nat.ne_of_lt room)
    | @overflow place _ _ late last => exact ⟨place, late, last, rfl⟩
    | broken breaks => exact absurd breaks unended.not_breaks
  case faults =>
    intro nothing cut
    generalize readString memory addr maxLength = result at scanned
    cases scanned with
    | found spells ends => exact absurd spells (nothing _ (Nat.le_of_lt_succ ends))
    | unended unended _ => exact absurd unended cut
    | overflow unended _ _ _ => exact absurd unended cut
    | @broken fault _ => exact ⟨fault, rfl⟩
  case within =>
    intro place len
    rw [asked]
    exact mem_scanReads
  case once =>
    rw [asked]
    exact pairwise_scanReads memory addr (maxLength + 1)
  case decided =>
    intro τ _ other same
    exact scanString_congr same

/-- The last four addresses may all be read and hold no terminator, and four bytes are all there
is to look at: the search overflows all the same. -/
theorem findsString_at_the_last_addresses :
    3 < addressCount - 1 ∧
      (PagedMemory.uniform 97).view.Unended (addressCount - 4) 4 ∧
      ∃ place : UserAddr, addressCount - pageSize ≤ place.value ∧
        readString (PagedMemory.uniform 97) ⟨addressCount - 4, by decide⟩ 3 =
          .error ⟨place, .overflow⟩ := by
  have finds := (PagedMemory.uniform 97).reads.findsString ⟨addressCount - 4, by decide⟩
    (by decide : 3 < addressCount - 1)
  have unended : (PagedMemory.uniform 97).view.Unended (addressCount - 4) 4 := fun i within =>
    ⟨97, PagedMemory.view_uniform (by unfold addressCount; omega), by decide⟩
  obtain ⟨place, -, last, overflows⟩ := finds.overflow unended (by decide)
  exact ⟨by decide, unended, place, last, overflows⟩

end AddressSpace

end SyscallKernel
