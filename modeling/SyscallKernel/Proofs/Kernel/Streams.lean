import SyscallKernel.Proofs.Kernel.Answers
import SyscallKernel.Proofs.Memory.Contents

/-!
# Transfers between open files and user memory

A transfer asks for one page at a time and ends with the first short count. From a file it
takes what one plain read of the whole length takes. Through the console it moves in one go
what the device moves at once, if that is less than a page, and all that is wanted otherwise.
What it takes it has stored, in order and from the start of the buffer on; what it adds to the
output stands at the start of the buffer.
-/

namespace SyscallKernel

variable {σ : Type}

namespace ConsoleDevice

/-- The most bytes that a whole transfer moves. A device that moves less than a page at
once ends it with its first short count, any other never ends it. -/
def reach (limit : Option Nat) (count : Nat) : Nat :=
  limit.elim count fun most => if most < pageSize then min most count else count

/-- The bytes that a whole transfer takes from the input. -/
def supply (device : ConsoleDevice) (count : Nat) : Bytes :=
  device.buffer.input.take (reach device.readLimit count)

/-- The device after a number of bytes were taken from its input. -/
def drain (device : ConsoleDevice) (count : Nat) : ConsoleDevice :=
  { device with buffer := (device.buffer.read count).2 }

/-- The device after bytes were added to its output. -/
def emit (device : ConsoleDevice) (data : Bytes) : ConsoleDevice :=
  { device with buffer := device.buffer.write data }

variable {limit : Option Nat} {count : Nat} {device : ConsoleDevice}

@[simp] theorem emit_nil (device : ConsoleDevice) : device.emit [] = device := by
  simp only [emit, ConsoleBuffer.write, List.append_nil]

theorem drain_drain (device : ConsoleDevice) (first second : Nat) :
    (device.drain first).drain second = device.drain (first + second) := by
  simp only [drain, ConsoleBuffer.read, List.drop_drop]

theorem emit_emit (device : ConsoleDevice) (first second : Bytes) :
    (device.emit first).emit second = device.emit (first ++ second) := by
  simp only [emit, ConsoleBuffer.write, List.append_assoc]

theorem reach_le (limit : Option Nat) (count : Nat) : reach limit count ≤ count := by
  cases limit with
  | none => exact Nat.le_refl count
  | some most =>
    simp only [reach, Option.elim_some]
    split <;> omega

theorem reach_zero (limit : Option Nat) : reach limit 0 = 0 := Nat.le_zero.1 (reach_le limit 0)

theorem length_supply_le (device : ConsoleDevice) (count : Nat) :
    (device.supply count).length ≤ count :=
  Nat.le_trans (List.length_take_le _ _) (reach_le _ _)

/-- A transfer that moves less than a page at first moves no more. -/
theorem reach_of_short (short : cap limit (min count pageSize) < min count pageSize) :
    reach limit count = cap limit (min count pageSize) := by
  cases limit with
  | none => exact absurd short (Nat.lt_irrefl _)
  | some most =>
    simp only [reach, cap, Option.elim_some] at short ⊢
    split <;> omega

/-- A transfer that moves a page at first goes on behind it. -/
theorem reach_of_full (full : cap limit (min count pageSize) = min count pageSize) :
    reach limit count = min count pageSize + reach limit (count - min count pageSize) := by
  cases limit with
  | none =>
    simp only [reach, Option.elim_none]
    omega
  | some most =>
    simp only [reach, cap, Option.elim_some] at full ⊢
    split <;> omega

/-- What was handed out is gone from the input. -/
theorem read_snd (device : ConsoleDevice) (count : Nat) :
    (device.read count).2 = device.drain (device.read count).1.length := by
  simp only [read, drain, ConsoleBuffer.read, List.length_take, ← List.drop_eq_drop_min]

/-- A transfer whose first count is short takes what it was handed out. -/
theorem supply_of_short
    (short : (device.read (min count pageSize)).1.length < min count pageSize) :
    device.supply count = (device.read (min count pageSize)).1 := by
  have most := cap_le device.readLimit (min count pageSize)
  simp only [read, ConsoleBuffer.read, List.length_take] at short ⊢
  rcases Nat.lt_or_ge (cap device.readLimit (min count pageSize)) (min count pageSize) with
    limited | full
  · rw [supply, reach_of_short limited]
  · -- The device would have handed out a page, so the input has come to its end.
    have ends : device.buffer.input.length ≤ min count pageSize := by omega
    rw [supply, reach_of_full (Nat.le_antisymm most full), Nat.le_antisymm most full,
      List.take_of_length_le ends, List.take_of_length_le (by omega)]

/-- Any other transfer takes more behind it. -/
theorem supply_of_full
    (full : (device.read (min count pageSize)).1.length = min count pageSize) :
    device.supply count = (device.read (min count pageSize)).1 ++
      (device.read (min count pageSize)).2.supply (count - min count pageSize) := by
  have most := cap_le device.readLimit (min count pageSize)
  simp only [read, ConsoleBuffer.read, List.length_take] at full ⊢
  have all : cap device.readLimit (min count pageSize) = min count pageSize := by omega
  rw [supply, supply, reach_of_full all, all, List.take_add]

end ConsoleDevice

/-! ### Whole fetches -/

namespace FileStore

variable {store : FileStore} {handle : FileHandle} {count : Nat}

/-- A read whose first page is short takes what that page takes. -/
theorem read_of_short
    (short : (store.read handle (min count pageSize)).1.length < min count pageSize) :
    store.read handle count = store.read handle (min count pageSize) := by
  have same : Contents.readAt (store.contents handle.data) handle.offset count =
      Contents.readAt (store.contents handle.data) handle.offset (min count pageSize) := by
    simp only [read, Contents.readAt, List.length_take] at short ⊢
    rw [List.take_of_length_le (by omega), List.take_of_length_le (by omega)]
  rw [read, read, same]

/-- Any other read goes on behind its first page. -/
theorem read_of_full
    (full : (store.read handle (min count pageSize)).1.length = min count pageSize) :
    store.read handle count =
      ((store.read handle (min count pageSize)).1 ++
          (store.read (store.read handle (min count pageSize)).2 (count - min count pageSize)).1,
        (store.read (store.read handle (min count pageSize)).2 (count - min count pageSize)).2) := by
  have split : Contents.readAt (store.contents handle.data) handle.offset count =
      Contents.readAt (store.contents handle.data) handle.offset (min count pageSize) ++
        Contents.readAt (store.contents handle.data) (handle.offset + min count pageSize)
          (count - min count pageSize) := by
    rw [Contents.readAt, Contents.readAt, Contents.readAt, ← List.drop_drop, ← List.take_add]
    congr 1
    omega
  simp only [read] at full ⊢
  simp only [FileHandle.advance, full, split, List.length_append, Nat.add_assoc]

end FileStore

namespace Transfer

variable {t : Transfer σ ConsoleDevice} {count : Nat}

/-- What a whole transfer takes from the file: one plain read of a file, or the bytes that
the console supplies. -/
def fetchAll (t : Transfer σ ConsoleDevice) (count : Nat) : Bytes × Transfer σ ConsoleDevice :=
  match t.file with
  | .stdin =>
    (t.console.supply count, { t with console := t.console.drain (t.console.supply count).length })
  | .stdout => ([], t)
  | .file handle =>
    let (bytes, handle) := t.files.read handle count
    (bytes, { t with file := .file handle })

theorem fetchAll_zero (t : Transfer σ ConsoleDevice) : t.fetchAll 0 = ([], t) := by
  obtain ⟨files, console, file, memory⟩ := t
  cases file with
  | stdin => simp only [fetchAll, ConsoleDevice.supply, ConsoleDevice.reach_zero, List.take_zero]; rfl
  | stdout => rfl
  | file handle => rfl

/-- A transfer whose first count is short takes what it was handed out. -/
theorem fetchAll_of_short
    (short : (t.fetch (min count pageSize)).1.length < min count pageSize) :
    t.fetchAll count = t.fetch (min count pageSize) := by
  obtain ⟨files, console, file, memory⟩ := t
  cases file with
  | stdin =>
    have taken := @ConsoleDevice.supply_of_short count console short
    simp only [fetchAll, fetch, taken, ConsoleDevice.read_eq, ConsoleDevice.read_snd]
  | stdout => rfl
  | file handle =>
    have same := @FileStore.read_of_short files handle count short
    simp only [fetchAll, fetch, same]

/-- Any other transfer takes more behind it. -/
theorem fetchAll_of_full (full : (t.fetch (min count pageSize)).1.length = min count pageSize) :
    t.fetchAll count =
      ((t.fetch (min count pageSize)).1 ++
          ((t.fetch (min count pageSize)).2.fetchAll (count - min count pageSize)).1,
        ((t.fetch (min count pageSize)).2.fetchAll (count - min count pageSize)).2) := by
  obtain ⟨files, console, file, memory⟩ := t
  cases file with
  | stdin =>
    have more := @ConsoleDevice.supply_of_full count console full
    simp only [fetchAll, fetch, more, ConsoleDevice.read_eq, ConsoleDevice.read_snd,
      List.length_append, ConsoleDevice.drain_drain]
  | stdout =>
    rfl
  | file handle =>
    have more := @FileStore.read_of_full files handle count full
    simp only [fetchAll, fetch, more]

/-- What is in memory does not matter to a fetch. -/
theorem fetchAll_with_memory (t : Transfer σ ConsoleDevice) (memory : σ) (count : Nat) :
    fetchAll { t with memory } count =
      ((t.fetchAll count).1, { (t.fetchAll count).2 with memory }) := by
  obtain ⟨files, console, file, memory'⟩ := t
  cases file <;> rfl

end Transfer

namespace PagedMemory

variable {memory memory' : PagedMemory} {address : UserAddr} {kind : AccessKind}
  {first limit start : Nat} {data : Bytes}

/-- Laying bytes over memory takes no rights away. -/
theorem AllowsPart.overlaid (allowed : memory.AllowsPart kind address first limit)
    (overlaid : memory.Overlaid start data memory') :
    memory'.AllowsPart kind address first limit := by
  intro i after within
  obtain ⟨bound, byte⟩ := allowed i after within
  exact ⟨bound, (overlaid.allows_iff _ _).2 byte⟩

/-- What lies behind a piece of a buffer may be accessed as well. -/
theorem AllowsPart.behind {piece count : Nat}
    (allowed : memory.AllowsPart kind address first (first + count)) (fits : piece ≤ count) :
    memory.AllowsPart kind address (first + piece) (first + piece + (count - piece)) :=
  fun i after within => allowed i (by omega) (by omega)

/-- What stands at the start of a checked buffer can be read there. -/
theorem readBytes_of_shows (allowed : memory.AllowsPart kind address 0 limit)
    (fits : data.length ≤ limit) (shows : memory.Shows address.value data) :
    memory.readBytes address data.length = .ok data := by
  refine readBytes_eq_ok_iff.2 ⟨checkRange_eq_ok_iff.2 ?_, rfl, shows⟩
  intro i within
  obtain ⟨bound, byte⟩ := allowed i (Nat.zero_le i) (Nat.lt_of_lt_of_le within fits)
  exact ⟨bound, allows_read byte⟩

end PagedMemory

namespace Transfer

variable [AddressSpace σ] {E : PagedMemory.Embedding σ} {memory : PagedMemory} {buffer : UserAddr}
  {done remaining : Nat}

/-- Bytes that are stored in a checked buffer are laid over memory. -/
theorem exists_overlaid_of_storeAt (files : FileStore) (console : ConsoleDevice) (file : OpenFile)
    {limit : Nat} {data : Bytes} (allowed : memory.AllowsPart .write buffer done limit)
    (nonempty : data ≠ []) (fits : done + data.length ≤ limit) :
    ∃ memory', memory.Overlaid (buffer.value + done) data memory' ∧
      storeAt ⟨files, console, file, E.embed memory⟩ buffer done data =
        .ok ⟨files, console, file, E.embed memory'⟩ := by
  obtain ⟨start, place, checked, storedAt⟩ := storeAt_of_allowsPart
    (rfl : (⟨files, console, file, E.embed memory⟩ : Transfer σ ConsoleDevice).memory = _) allowed nonempty fits
  have bytes := PagedMemory.checkRange_eq_ok_iff.1 checked
  rw [place]
  exact ⟨memory.store start data, PagedMemory.overlaid_store fun i within => (bytes i within).2,
    storedAt⟩

/-- A whole transfer out of an open file takes in order what one fetch of the whole length
takes, and stores it where the buffer goes on. -/
theorem readInto_eq (files : FileStore) (console : ConsoleDevice) (file : OpenFile)
    (allowed : memory.AllowsPart .write buffer done (done + remaining)) :
    ∃ memory', memory.Overlaid (buffer.value + done)
        (fetchAll ⟨files, console, file, E.embed memory⟩ remaining).1 memory' ∧
      readInto ⟨files, console, file, E.embed memory⟩ buffer done remaining =
        ({ (fetchAll ⟨files, console, file, E.embed memory⟩ remaining).2 with
            memory := E.embed memory' },
          .ok (done + (fetchAll ⟨files, console, file, E.embed memory⟩ remaining).1.length)) := by
  -- One round moves a page at most; the rest of the transfer starts behind what it moved,
  -- from a file and a memory that differ from those before by just that.
  induction remaining using Nat.strongRecOn generalizing files console file memory done with
  | ind remaining ih =>
    have few := length_fetch_le ⟨files, console, file, E.embed memory⟩ (min remaining pageSize)
    have kept := memory_fetch ⟨files, console, file, E.embed memory⟩ (min remaining pageSize)
    have short := @fetchAll_of_short _ ⟨files, console, file, E.embed memory⟩ remaining
    have full := @fetchAll_of_full _ ⟨files, console, file, E.embed memory⟩ remaining
    rw [readInto]
    split
    · rename_i nothing
      rw [nothing, fetchAll_zero]
      exact ⟨memory, memory.overlaid_nil _, rfl⟩
    · rename_i wanted
      have page : 0 < pageSize := by decide
      simp only
      generalize fetch ⟨files, console, file, E.embed memory⟩ (min remaining pageSize) = fetched
        at few kept short full ⊢
      obtain ⟨chunk, files', console', file', memory'⟩ := fetched
      simp only at few kept short full ⊢
      subst kept
      split
      · rename_i nothing
        -- Nothing was handed out: this is the shortest of the short counts.
        rw [short (by rw [nothing, List.length_nil]; omega), nothing]
        exact ⟨memory, memory.overlaid_nil _, rfl⟩
      · rename_i nonempty
        obtain ⟨stored, overlaid, storedAt⟩ := exists_overlaid_of_storeAt (E := E) files' console'
          file' allowed nonempty (by omega)
        simp only [storedAt]
        split
        · rename_i less
          rw [short less]
          exact ⟨stored, overlaid, rfl⟩
        · rename_i notLess
          have whole := Nat.le_antisymm few (Nat.le_of_not_lt notLess)
          have rest := (allowed.overlaid overlaid).behind (Nat.min_le_left remaining pageSize)
          obtain ⟨memory', later, moved⟩ :=
            ih (remaining - min remaining pageSize) (by omega) files' console' file' rest
          have same := fetchAll_with_memory ⟨files', console', file', E.embed memory⟩
            (E.embed stored) (remaining - min remaining pageSize)
          simp only at same
          rw [same] at later moved
          rw [moved, full whole, List.length_append, ← Nat.add_assoc, whole]
          refine ⟨memory', overlaid.append ?_, rfl⟩
          rw [whole, Nat.add_assoc]
          exact later

/-- A transfer from the input takes the next bytes, as many as one transfer moves at most,
and stores them where the buffer goes on. -/
theorem readInto_stdin (files : FileStore) (console : ConsoleDevice)
    (allowed : memory.AllowsPart .write buffer done (done + remaining)) :
    ∃ memory', memory.Overlaid (buffer.value + done) (console.supply remaining) memory' ∧
      readInto ⟨files, console, .stdin, E.embed memory⟩ buffer done remaining =
        (⟨files, console.drain (console.supply remaining).length, .stdin, E.embed memory'⟩,
          .ok (done + (console.supply remaining).length)) :=
  readInto_eq files console .stdin allowed

/-- Bytes that are loaded from a checked buffer stand there. -/
theorem exists_shows_of_loadAt (files : FileStore) (console : ConsoleDevice) (file : OpenFile)
    {limit len : Nat} (allowed : memory.AllowsPart .read buffer done limit) (nonempty : 0 < len)
    (fits : done + len ≤ limit) :
    ∃ data, data.length = len ∧ memory.Shows (buffer.value + done) data ∧
      loadAt ⟨files, console, file, E.embed memory⟩ buffer done len = .ok data := by
  obtain ⟨start, data, place, read, loaded⟩ := loadAt_of_allowsPart
    (rfl : (⟨files, console, file, E.embed memory⟩ : Transfer σ ConsoleDevice).memory = _) allowed nonempty fits
  obtain ⟨-, length, shows⟩ := PagedMemory.readBytes_eq_ok_iff.1 read
  rw [place]
  exact ⟨data, length, shows, loaded⟩

/-- A transfer to the output adds the bytes of the buffer, as many as one transfer moves at
most, and changes nothing else. -/
theorem writeFrom_stdout (files : FileStore) (console : ConsoleDevice)
    (allowed : memory.AllowsPart .read buffer done (done + remaining)) :
    ∃ data, data.length = ConsoleDevice.reach console.writeLimit remaining ∧
      memory.Shows (buffer.value + done) data ∧
      writeFrom ⟨files, console, .stdout, E.embed memory⟩ buffer done remaining =
        (⟨files, console.emit data, .stdout, E.embed memory⟩, .ok (done + data.length)) := by
  induction remaining using Nat.strongRecOn generalizing console done with
  | ind remaining ih =>
    rw [writeFrom]
    split
    · rename_i nothing
      refine ⟨[], ?_, memory.shows_nil, ?_⟩
      · rw [nothing, ConsoleDevice.reach_zero, List.length_nil]
      · rw [ConsoleDevice.emit_nil, List.length_nil, Nat.add_zero]
    · rename_i wanted
      have page : 0 < pageSize := by decide
      have most := ConsoleDevice.cap_le console.writeLimit (min remaining pageSize)
      obtain ⟨chunk, length, shows, loaded⟩ := exists_shows_of_loadAt (E := E) files console .stdout
        allowed (by omega : 0 < min remaining pageSize) (by omega)
      -- The device accepts the first bytes of the chunk.
      obtain ⟨taken, accepted, stands, given⟩ : ∃ taken,
          taken.length = ConsoleDevice.cap console.writeLimit (min remaining pageSize) ∧
            memory.Shows (buffer.value + done) taken ∧
            put ⟨files, console, .stdout, E.embed memory⟩ chunk =
              (taken.length, ⟨files, console.emit taken, .stdout, E.embed memory⟩) := by
        refine ⟨chunk.take (ConsoleDevice.cap console.writeLimit chunk.length), ?_, shows.take _,
          rfl⟩
        rw [List.length_take, length]
        omega
      simp only [loaded, given]
      split
      · rename_i short
        rw [accepted] at short
        exact ⟨taken, by rw [accepted, ConsoleDevice.reach_of_short short], stands, rfl⟩
      · rename_i full
        rw [accepted] at full
        have full := Nat.le_antisymm most (Nat.le_of_not_lt full)
        have rest := allowed.behind (Nat.min_le_left remaining pageSize)
        obtain ⟨data, count, later, moved⟩ :=
          ih (remaining - min remaining pageSize) (by omega) (console.emit taken) rest
        refine ⟨taken ++ data, ?_, ?_, ?_⟩
        · rw [List.length_append, accepted, full, count, ConsoleDevice.reach_of_full full]
          rfl
        · rw [← Nat.add_assoc, ← full, ← accepted] at later
          exact stands.append later
        · rw [moved, ConsoleDevice.emit_emit, List.length_append, accepted, full, Nat.add_assoc]

end Transfer

end SyscallKernel
