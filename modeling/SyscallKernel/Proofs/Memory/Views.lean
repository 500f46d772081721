import SyscallKernel.Memory.Space
import SyscallKernel.Proofs.Memory.Contents

/-!
# Views of memory

A view shows the byte at each address that may be read, and nothing elsewhere. Whoever reads
memory in ranges learns its view and no more: a range is read exactly if the view shows all of
it, and then as the view shows it. Paged memory has such a view, in which a page is seen as a
whole or not at all.
-/

namespace SyscallKernel

/-- What may be read of a memory: the byte at each address, if there is one to read. -/
abbrev ByteView := Nat → Option UInt8

namespace ByteView

variable {view : ByteView} {start count : Nat} {data : Bytes}

/-- Some bytes are shown from an address on. -/
def Holds (view : ByteView) (start : Nat) (data : Bytes) : Prop :=
  ∀ i < data.length, view (start + i) = data[i]?

/-- A range is shown over its whole length. -/
def Covers (view : ByteView) (start count : Nat) : Prop :=
  ∀ i < count, (view (start + i)).isSome = true

/-- What is shown covers its range. -/
theorem Holds.covers (holds : view.Holds start data) : view.Covers start data.length := by
  intro i within
  rw [holds i within, List.getElem?_eq_getElem within]
  rfl

/-- A range that is covered holds some bytes. -/
theorem Covers.exists_holds (covers : view.Covers start count) :
    ∃ data : Bytes, data.length = count ∧ view.Holds start data := by
  refine ⟨(List.range count).map fun i => (view (start + i)).getD 0, ?_, fun i within => ?_⟩
  · rw [List.length_map, List.length_range]
  · rw [List.length_map, List.length_range] at within
    obtain ⟨byte, shown⟩ := Option.isSome_iff_exists.1 (covers i within)
    rw [List.getElem?_map, List.getElem?_range within, Option.map_some, shown, Option.getD_some]

/-- A range holds one byte string of each length. -/
theorem Holds.unique {other : Bytes} (holds : view.Holds start data) (also : view.Holds start other)
    (same : data.length = other.length) : data = other := by
  refine List.ext_getElem? fun i => ?_
  rcases Nat.lt_or_ge i data.length with within | beyond
  · rw [← holds i within, also i (same ▸ within)]
  · rw [List.getElem?_eq_none beyond, List.getElem?_eq_none (same ▸ beyond)]

/-- What is shown behind other bytes continues them. -/
theorem Holds.append {more : Bytes} (first : view.Holds start data)
    (second : view.Holds (start + data.length) more) : view.Holds start (data ++ more) := by
  intro i within
  rw [List.length_append] at within
  rcases Nat.lt_or_ge i data.length with here | beyond
  · rw [List.getElem?_append_left here, first i here]
  · have later := second (i - data.length) (by omega)
    rw [List.getElem?_append_right beyond, ← later]
    congr 1
    omega

end ByteView

/-! ### Address spaces -/

/-- A memory is read as a view shows it. -/
structure AddressSpace.Reads {σ : Type} [AddressSpace σ] (memory : σ) (view : ByteView) : Prop where
  /-- No byte is shown past the last address. -/
  lt_of_isSome : ∀ address, (view address).isSome = true → address < addressCount
  /-- A page is shown as a whole or not at all. -/
  isSome_eq : ∀ address other, address / pageSize = other / pageSize →
    (view address).isSome = (view other).isSome
  /-- A range is read exactly if the view covers it, and as the view shows it. -/
  readBytes_eq_ok_iff : ∀ (addr : UserAddr) (len : Nat) (data : Bytes),
    readBytes memory addr len = .ok data ↔ data.length = len ∧ view.Holds addr.value data

namespace AddressSpace.Reads

variable {σ : Type} [AddressSpace σ] {memory : σ} {view : ByteView} {addr : UserAddr} {len : Nat}

/-- A range that is covered can be read. -/
theorem exists_readBytes (reads : Reads memory view) (covers : view.Covers addr.value len) :
    ∃ data, readBytes memory addr len = .ok data ∧ data.length = len ∧
      view.Holds addr.value data := by
  obtain ⟨data, length, holds⟩ := covers.exists_holds
  exact ⟨data, (reads.readBytes_eq_ok_iff addr len data).2 ⟨length, holds⟩, length, holds⟩

/-- From a byte that is shown the rest of its page is shown too. -/
theorem covers_page (reads : Reads memory view) (seen : (view addr.value).isSome = true)
    (inPage : addr.pageOffset + len ≤ pageSize) : view.Covers addr.value len := by
  intro i within
  rw [← seen]
  refine reads.isSome_eq _ _ ?_
  have position := addr.pageNumber_mul_add_pageOffset
  have page : 0 < pageSize := by decide
  rw [← position, Nat.mul_comm, Nat.add_assoc, Nat.mul_add_div page, Nat.mul_add_div page,
    Nat.div_eq_of_lt (by omega), Nat.div_eq_of_lt addr.pageOffset_lt]

/-- A word is read exactly if its bytes are shown. -/
theorem readWord_eq_ok_iff (reads : Reads memory view) {word : UInt32} :
    readWord memory addr = .ok word ↔ view.Holds addr.value (Bytes.ofWord word) := by
  rw [readWord]
  constructor
  · intro read
    cases loaded : readBytes memory addr 4 with
    | error fault =>
      rw [loaded] at read
      cases read
    | ok data =>
      rw [loaded] at read
      cases read
      obtain ⟨length, holds⟩ := (reads.readBytes_eq_ok_iff addr 4 data).1 loaded
      rw [Bytes.ofWord_toWord length]
      exact holds
  · intro holds
    have loaded := (reads.readBytes_eq_ok_iff addr 4 _).2 ⟨Bytes.length_ofWord word, holds⟩
    rw [loaded, Except.map, Bytes.toWord_ofWord]

end AddressSpace.Reads

/-! ### Paged memory -/

namespace PagedMemory

variable {memory : PagedMemory} {address : Nat}

/-- What may be read of paged memory: the bytes of the valid pages. -/
def view (memory : PagedMemory) : ByteView := fun address =>
  if address < addressCount then
    memory.pages[address / pageSize]?.bind fun page =>
      if page.flags.valid then page.frame[address % pageSize]? else none
  else none

/-- The view shows what may be read. -/
theorem view_of_allows (bound : address < addressCount) (allowed : memory.Allows .read address) :
    memory.view address = memory.byte? address := by
  rw [view, if_pos bound, byte?, byteIn?]
  rw [Allows, refusalIn?] at allowed
  cases found : memory.pages[address / pageSize]? with
  | none => rfl
  | some page =>
    rw [found, Option.elim_some, PageFlags.refusal?] at allowed
    cases valid : page.flags.valid with
    | false =>
      rw [if_pos valid] at allowed
      cases allowed
    | true => simp only [Option.bind_some, valid, if_true]

/-- It shows nothing else. -/
theorem isSome_view : (memory.view address).isSome = true ↔
    address < addressCount ∧ memory.Allows .read address := by
  constructor
  · intro seen
    rw [view] at seen
    split at seen
    · rename_i bound
      refine ⟨bound, ?_⟩
      rw [Allows, refusalIn?]
      cases found : memory.pages[address / pageSize]? with
      | none =>
        rw [found] at seen
        cases seen
      | some page =>
        rw [found, Option.bind_some] at seen
        split at seen
        · rename_i valid
          rw [Option.elim_some, PageFlags.refusal?, valid, if_neg (by decide), if_neg]
          rintro ⟨reading, -⟩
          cases reading
        · cases seen
    · cases seen
  · rintro ⟨bound, allowed⟩
    obtain ⟨byte, found⟩ := exists_byteIn? allowed
    rw [view_of_allows bound allowed, byte?, found]
    rfl

/-- A check for reading succeeds exactly if the view covers the range. -/
theorem checkRange_read_eq_ok_iff {addr : UserAddr} {len : Nat} :
    memory.checkRange addr len .read = .ok () ↔ memory.view.Covers addr.value len := by
  rw [checkRange_eq_ok_iff]
  exact forall_congr' fun i => imp_congr_right fun _ => isSome_view.symm

/-- Bytes that may be read are shown as they stand in memory. -/
theorem shows_iff_holds {addr : UserAddr} {data : Bytes}
    (checked : memory.checkRange addr data.length .read = .ok ()) :
    memory.Shows addr.value data ↔ memory.view.Holds addr.value data := by
  refine forall_congr' fun i => imp_congr_right fun within => ?_
  obtain ⟨bound, allowed⟩ := checkRange_eq_ok_iff.1 checked i within
  rw [view_of_allows bound allowed]

/-- Paged memory is read as its view shows it. -/
theorem reads (memory : PagedMemory) : AddressSpace.Reads memory memory.view where
  lt_of_isSome address seen := (isSome_view.1 seen).1
  isSome_eq := by
    intro address other same
    have shared : ∀ {address other}, address / pageSize = other / pageSize →
        (memory.view address).isSome = true → (memory.view other).isSome = true := by
      intro address other same seen
      obtain ⟨bound, allowed⟩ := isSome_view.1 seen
      have whole : addressCount = pageSize * (addressCount / pageSize) := by decide
      have page : 0 < pageSize := by decide
      refine isSome_view.2 ⟨?_, ?_⟩
      · rw [whole, Nat.mul_comm, ← Nat.div_lt_iff_lt_mul page] at bound ⊢
        rwa [← same]
      · rwa [Allows, refusalIn?, ← same]
    exact Bool.eq_iff_iff.2 ⟨shared same, shared same.symm⟩
  readBytes_eq_ok_iff := by
    intro addr len data
    refine readBytes_eq_ok_iff.trans ⟨?_, ?_⟩
    · rintro ⟨checked, rfl, shows⟩
      exact ⟨rfl, (shows_iff_holds checked).1 shows⟩
    · rintro ⟨rfl, holds⟩
      have checked := checkRange_read_eq_ok_iff.2 holds.covers
      exact ⟨checked, rfl, (shows_iff_holds checked).2 holds⟩

/-- A memory in which every address may be read and holds the same byte. -/
def uniform (byte : UInt8) : PagedMemory :=
  ⟨List.replicate (addressCount / pageSize)
    ⟨.fresh, List.replicate pageSize byte, List.length_replicate⟩⟩

theorem view_uniform {byte : UInt8} (bound : address < addressCount) :
    (uniform byte).view address = some byte := by
  have page : address / pageSize < addressCount / pageSize :=
    Nat.div_lt_div_of_lt_of_dvd (by decide) bound
  have offset : address % pageSize < pageSize := Nat.mod_lt _ (by decide)
  rw [view, if_pos bound, uniform, List.getElem?_replicate_of_lt page, Option.bind_some]
  exact List.getElem?_replicate_of_lt offset

end PagedMemory

end SyscallKernel
