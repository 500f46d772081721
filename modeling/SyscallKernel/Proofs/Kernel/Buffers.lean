import SyscallKernel.Memory.Image
import SyscallKernel.Proofs.Memory.Stores
import SyscallKernel.Syscall.Transfer

/-!
# Transfers through checked buffers

A transfer moves one page at a time, and each page is checked again. In paged memory a
buffer that was checked as a whole passes every later check, whatever was stored in
between: so no transfer through such a buffer meets a fault.
-/

namespace SyscallKernel

variable {σ δ : Type}

theorem ConsoleDevice.cap_le (limit : Option Nat) (count : Nat) : cap limit count ≤ count := by
  cases limit with
  | none => exact Nat.le_refl count
  | some most => exact Nat.min_le_left count most

/-- A console hands out at most as many bytes as it is asked for. -/
theorem ConsoleDevice.length_read_le (device : ConsoleDevice) (count : Nat) :
    (device.read count).1.length ≤ count :=
  Nat.le_trans (List.length_take_le _ _) (cap_le _ _)

theorem ConsoleDevice.write_le (device : ConsoleDevice) (data : Bytes) :
    (device.write data).1 ≤ data.length := List.length_take_le' _ _

theorem ConsoleDevice.read_eq (device : ConsoleDevice) (count : Nat) :
    Console.read device count = device.read count := rfl

/-- A console that hands out and takes at most the length it is given. -/
class LawfulConsole (δ : Type) [Console δ] : Prop where
  /-- No more bytes are handed out than were asked for. -/
  length_read_le : ∀ (console : δ) (count : Nat), (Console.read console count).1.length ≤ count
  /-- No more bytes are accepted than were given. -/
  write_le : ∀ (console : δ) (data : Bytes), (Console.write console data).1 ≤ data.length

instance : LawfulConsole ConsoleDevice where
  length_read_le := ConsoleDevice.length_read_le
  write_le := ConsoleDevice.write_le

namespace Transfer

variable [Console δ]

/-- A file hands out at most as many bytes as it is asked for. -/
theorem length_fetch_le [LawfulConsole δ] (t : Transfer σ δ) (count : Nat) :
    (t.fetch count).1.length ≤ count := by
  unfold fetch
  split
  · exact LawfulConsole.length_read_le t.console count
  · exact Nat.zero_le count
  · exact List.length_take_le _ _

theorem memory_fetch (t : Transfer σ δ) (count : Nat) : (t.fetch count).2.memory = t.memory := by
  unfold fetch
  split <;> rfl

theorem memory_put (t : Transfer σ δ) (data : Bytes) : (t.put data).2.memory = t.memory := by
  unfold put
  split <;> rfl

end Transfer

variable [AddressSpace σ]

/-- Paged memory inside another kind of user memory, which may know other memory too. -/
structure PagedMemory.Embedding (σ : Type) [AddressSpace σ] where
  /-- Paged memory as memory of the other kind. -/
  embed : PagedMemory → σ
  /-- Ranges are checked alike. -/
  checkRange_embed : ∀ memory address len kind,
    AddressSpace.checkRange (embed memory) address len kind = memory.checkRange address len kind
  /-- Bytes are read alike. -/
  readBytes_embed : ∀ memory address len,
    AddressSpace.readBytes (embed memory) address len = memory.readBytes address len
  /-- Bytes are stored alike. -/
  writeBytes_embed : ∀ memory address data,
    AddressSpace.writeBytes (embed memory) address data = (memory.writeBytes address data).map embed

/-- Paged memory that does not waive its checks, among the memory of loaded programs. -/
def PagedMemory.Embedding.image : PagedMemory.Embedding ImageMemory where
  embed memory := ⟨memory, false⟩
  checkRange_embed _ _ _ _ := rfl
  readBytes_embed _ _ _ := rfl
  writeBytes_embed _ _ _ := rfl

/-- The memory of a loaded program is paged unless it waives its checks. -/
theorem ImageMemory.eq_embed {memory : ImageMemory} (checks : memory.waivesChecks = false) :
    memory = PagedMemory.Embedding.image.embed memory.paged := by
  obtain ⟨paged, waives⟩ := memory
  cases checks
  rfl

namespace PagedMemory

variable {memory : PagedMemory} {address : UserAddr}

/-- A part of a buffer has addresses and may be accessed. -/
def AllowsPart (memory : PagedMemory) (kind : AccessKind) (buffer : UserAddr)
    (first limit : Nat) : Prop :=
  ∀ i, first ≤ i → i < limit →
    buffer.value + i < addressCount ∧ memory.Allows kind (buffer.value + i)

/-- A buffer that was checked, unless it was empty, may be accessed. -/
theorem allowsPart_of_checkRange {kind : AccessKind} {count : Nat}
    (checked : count ≠ 0 → memory.checkRange address count kind = .ok ()) :
    memory.AllowsPart kind address 0 count := by
  intro i _ within
  have nonempty : count ≠ 0 := Nat.ne_zero_of_lt within
  exact checkRange_eq_ok_iff.1 (checked nonempty) i within

/-- Each piece of such a part passes its own check. -/
theorem AllowsPart.piece {kind : AccessKind} {first limit len : Nat}
    (allowed : memory.AllowsPart kind address first limit) (nonempty : 0 < len)
    (fits : first + len ≤ limit) :
    ∃ start, address.add? first = some start ∧ memory.checkRange start len kind = .ok () := by
  have bound := (allowed first (Nat.le_refl first) (by omega)).1
  refine ⟨⟨address.value + first, bound⟩, UserAddr.add?_eq_some.2 rfl, ?_⟩
  rw [checkRange_eq_ok_iff]
  intro i within
  rw [Nat.add_assoc]
  exact allowed (first + i) (Nat.le_add_right _ _) (by omega)

/-- A store takes no rights away. -/
theorem AllowsPart.store {kind : AccessKind} {first limit : Nat} {start : UserAddr} {data : Bytes}
    (allowed : memory.AllowsPart kind address first limit) :
    (memory.store start data).AllowsPart kind address first limit := by
  intro i after within
  obtain ⟨bound, byte⟩ := allowed i after within
  exact ⟨bound, allows_store.2 byte⟩

end PagedMemory

namespace Transfer

variable {E : PagedMemory.Embedding σ} {t t' : Transfer σ δ} {buffer : UserAddr}
  {kind : AccessKind} {first limit : Nat}

/-- The memory of a transfer is paged, and a part of the buffer may be accessed. -/
def Ready (E : PagedMemory.Embedding σ) (t : Transfer σ δ) (kind : AccessKind) (buffer : UserAddr)
    (first limit : Nat) : Prop :=
  ∃ memory, t.memory = E.embed memory ∧ memory.AllowsPart kind buffer first limit

/-- A buffer that was checked, unless it was empty, is ready as a whole. -/
theorem ready_of_checked {memory : PagedMemory} {count : Nat} (paged : t.memory = E.embed memory)
    (checked : count ≠ 0 → AddressSpace.checkRange t.memory buffer count kind = .ok ()) :
    t.Ready E kind buffer 0 (0 + count) := by
  rw [paged, E.checkRange_embed] at checked
  rw [Nat.zero_add]
  exact ⟨memory, paged, PagedMemory.allowsPart_of_checkRange checked⟩

/-- The rest of a part may be accessed as well. -/
theorem Ready.later (ready : t.Ready E kind buffer first limit) {next : Nat}
    (later : first ≤ next) : t.Ready E kind buffer next limit := by
  obtain ⟨memory, paged, allowed⟩ := ready
  exact ⟨memory, paged, fun i after within => allowed i (Nat.le_trans later after) within⟩

/-- Only the memory matters. -/
theorem Ready.of_same_memory (ready : t.Ready E kind buffer first limit)
    (same : t'.memory = t.memory) : t'.Ready E kind buffer first limit := by
  obtain ⟨memory, paged, allowed⟩ := ready
  exact ⟨memory, same.trans paged, allowed⟩

/-- Storing a piece of a checked buffer succeeds, where the buffer goes on. -/
theorem storeAt_of_allowsPart {memory : PagedMemory} {data : Bytes}
    (paged : t.memory = E.embed memory) (allowed : memory.AllowsPart .write buffer first limit)
    (nonempty : data ≠ []) (fits : first + data.length ≤ limit) :
    ∃ start, buffer.value + first = start.value ∧
      memory.checkRange start data.length .write = .ok () ∧
      t.storeAt buffer first data = .ok { t with memory := E.embed (memory.store start data) } := by
  obtain ⟨start, found, checked⟩ := allowed.piece (List.length_pos_iff.2 nonempty) fits
  have written : AddressSpace.writeBytes t.memory start data =
      .ok (E.embed (memory.store start data)) := by
    rw [paged, E.writeBytes_embed, PagedMemory.writeBytes, checked]
    rfl
  refine ⟨start, UserAddr.add?_eq_some.1 found, checked, ?_⟩
  simp only [storeAt, found, written]

/-- Loading a piece of a checked buffer succeeds, where the buffer goes on. -/
theorem loadAt_of_allowsPart {memory : PagedMemory} {len : Nat}
    (paged : t.memory = E.embed memory) (allowed : memory.AllowsPart .read buffer first limit)
    (nonempty : 0 < len) (fits : first + len ≤ limit) :
    ∃ start data, buffer.value + first = start.value ∧ memory.readBytes start len = .ok data ∧
      t.loadAt buffer first len = .ok data := by
  obtain ⟨start, found, checked⟩ := allowed.piece nonempty fits
  obtain ⟨data, loaded⟩ : ∃ data, memory.readBytes start len = .ok data := by
    rw [PagedMemory.readBytes, checked]
    exact ⟨_, rfl⟩
  refine ⟨start, data, UserAddr.add?_eq_some.1 found, loaded, ?_⟩
  simp only [loadAt, found, paged, E.readBytes_embed, loaded]

/-- Storing a piece of a checked buffer leaves the buffer as it was. -/
theorem Ready.exists_storeAt (ready : t.Ready E .write buffer first limit) {data : Bytes}
    (nonempty : data ≠ []) (fits : first + data.length ≤ limit) :
    ∃ stored, t.storeAt buffer first data = .ok stored ∧
      stored.Ready E .write buffer first limit := by
  obtain ⟨memory, paged, allowed⟩ := ready
  obtain ⟨start, -, -, storedAt⟩ := storeAt_of_allowsPart paged allowed nonempty fits
  exact ⟨_, storedAt, _, rfl, allowed.store⟩

theorem Ready.exists_loadAt (ready : t.Ready E .read buffer first limit) {len : Nat}
    (nonempty : 0 < len) (fits : first + len ≤ limit) :
    ∃ data, t.loadAt buffer first len = .ok data := by
  obtain ⟨memory, paged, allowed⟩ := ready
  obtain ⟨start, data, -, -, loaded⟩ := loadAt_of_allowsPart paged allowed nonempty fits
  exact ⟨data, loaded⟩

/-! ### Whole transfers -/

variable [Console δ] [LawfulConsole δ]

/-- Reading into a checked buffer meets no fault and moves at most what is wanted. -/
theorem Ready.readInto {done remaining : Nat}
    (ready : t.Ready E .write buffer done (done + remaining)) :
    ∃ count, (t.readInto buffer done remaining).2 = .ok count ∧ count ≤ done + remaining := by
  induction remaining using Nat.strongRecOn generalizing t done with
  | ind remaining ih =>
    rw [Transfer.readInto]
    split
    · exact ⟨done, rfl, Nat.le_add_right _ _⟩
    · rename_i wanted
      have few := length_fetch_le t (min remaining pageSize)
      have same := memory_fetch t (min remaining pageSize)
      simp only
      split
      · exact ⟨done, rfl, Nat.le_add_right _ _⟩
      · rename_i nonempty
        obtain ⟨stored, storedAt, still⟩ :=
          (ready.of_same_memory same).exists_storeAt nonempty (by omega)
        simp only [storedAt]
        split
        · exact ⟨_, rfl, by omega⟩
        · have page : 0 < pageSize := by decide
          have rest : done + remaining =
              done + min remaining pageSize + (remaining - min remaining pageSize) := by omega
          rw [rest] at still ⊢
          exact ih _ (by omega) (still.later (Nat.le_add_right _ _))

omit [LawfulConsole δ] in
/-- Writing a checked buffer meets no fault and moves at most what is there. -/
theorem Ready.writeFrom {done remaining : Nat}
    (ready : t.Ready E .read buffer done (done + remaining)) :
    ∃ count, (t.writeFrom buffer done remaining).2 = .ok count ∧ count ≤ done + remaining := by
  induction remaining using Nat.strongRecOn generalizing t done with
  | ind remaining ih =>
    rw [Transfer.writeFrom]
    split
    · exact ⟨done, rfl, Nat.le_add_right _ _⟩
    · rename_i wanted
      have page : 0 < pageSize := by decide
      have loads : ∃ data, t.loadAt buffer done (min remaining pageSize) = .ok data :=
        ready.exists_loadAt (by omega) (by omega)
      obtain ⟨data, loaded⟩ := loads
      simp only [loaded]
      split
      · exact ⟨_, rfl, by omega⟩
      · have still := ready.of_same_memory (memory_put t data)
        have rest : done + remaining =
            done + min remaining pageSize + (remaining - min remaining pageSize) := by omega
        rw [rest] at still ⊢
        exact ih _ (by omega) (still.later (Nat.le_add_right _ _))

end Transfer

end SyscallKernel
