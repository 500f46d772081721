import SyscallKernel.Proofs.Kernel.Buffers
import SyscallKernel.Proofs.Kernel.Cursors
import SyscallKernel.Proofs.Strict.Files
import SyscallKernel.Proofs.Strict.Memory

/-!
# Strict transfers

Transfers as a machine carries them out: through a buffer of one page, of which each round
fills or empties a part, with the bytes moved so far in a word. A round that finds no address
for its part of the user's buffer, or may not touch it, is a hazard, and so is a transfer that
needs more rounds than its length has pages. Neither happens where the user's buffer was
checked as a whole: every round but the last moves a page. Of the console nothing is known but
that it hands out and takes at most the length it is given.
-/

namespace SyscallKernel.Transfer

variable {δ : Type} [Console δ] {t : Transfer PagedMemory δ} {buffer : UserAddr}
  {first count : Nat}

/-- Takes bytes from the file to the start of a window, and counts them. -/
def strictFetch (t : Transfer PagedMemory δ) (window : Bytes) :
    Strict (Bytes × Nat × Transfer PagedMemory δ) :=
  match t.file with
  | .stdin => do
    let (bytes, console) := Console.read t.console window.length
    let window ← Strict.copyTo window 0 bytes.length bytes
    return (window, bytes.length, { t with console })
  | .stdout => .ok (window, 0, t)
  | .file handle => do
    let (window, n, handle) ← t.files.strictRead handle window
    return (window, n, { t with file := .file handle })

/-- Gives bytes to the file and says how many it took. -/
def strictPut (t : Transfer PagedMemory δ) (data : Bytes) : Strict (Nat × Transfer PagedMemory δ) :=
  match t.file with
  | .stdin => .ok (0, t)
  | .stdout =>
    let (count, console) := Console.write t.console data
    .ok (count, { t with console })
  | .file handle => do
    let (files, handle) ← t.files.strictWrite handle data
    return (data.length, { t with files, file := .file handle })

/-- Stores bytes in user memory, `done` bytes into the buffer. -/
def strictStoreAt (t : Transfer PagedMemory δ) (buffer : UserAddr) (done : Nat) (data : Bytes) :
    Strict (Transfer PagedMemory δ) :=
  match buffer.add? done with
  | none => .error .disorder
  | some addr => do
    match ← t.memory.strictWrite addr data with
    | .error _ => throw .disorder
    | .ok memory => return { t with memory }

/-- Loads bytes from user memory, `done` bytes into the buffer. -/
def strictLoadAt (t : Transfer PagedMemory δ) (buffer : UserAddr) (done count : Nat) :
    Strict Bytes :=
  match buffer.add? done with
  | none => .error .disorder
  | some addr => do
    match ← t.memory.strictRead addr count with
    | .error _ => throw .disorder
    | .ok data => return data

/-- One round of a read: fills the start of the chunk from the file, and stores what came in the
user's buffer. -/
def strictReadRound (buffer : UserAddr) (t : Transfer PagedMemory δ) (chunk : Bytes)
    (done want : Nat) : Strict (Nat × Transfer PagedMemory δ × Bytes) := do
  let window ← Strict.slice chunk 0 want
  let (window, got, t) ← t.strictFetch window
  let chunk ← Strict.copyTo chunk 0 want window
  if got = 0 then return (0, t, chunk)
  else
    let data ← Strict.slice chunk 0 got
    let t ← t.strictStoreAt buffer done data
    return (got, t, chunk)

/-- One round of a write: fills the start of the chunk from the user's buffer, and gives it to the
file. -/
def strictWriteRound (buffer : UserAddr) (t : Transfer PagedMemory δ) (chunk : Bytes)
    (done want : Nat) : Strict (Nat × Transfer PagedMemory δ × Bytes) := do
  let data ← t.strictLoadAt buffer done want
  let chunk ← Strict.copyTo chunk 0 want data
  let data ← Strict.slice chunk 0 want
  let (put, t) ← t.strictPut data
  return (put, t, chunk)

/-- Moves page after page until `count` bytes are moved, of which `done` are, or a round moves
less than it was asked to, in at most `rounds` rounds. -/
def strictMove (round : Transfer PagedMemory δ → (chunk : Bytes) → (done want : Nat) →
      Strict (Nat × Transfer PagedMemory δ × Bytes)) (count : Nat) :
    (rounds : Nat) → Transfer PagedMemory δ → (chunk : Bytes) → (done : Nat) →
      Strict (Transferred PagedMemory δ)
  | 0, t, _, done => if done < count then .error .endless else .ok (t, .ok done)
  | rounds + 1, t, chunk, done =>
    if done < count then do
      let left ← Strict.sub count done
      let want := min left pageSize
      let (moved, t, chunk) ← round t chunk done want
      let done ← Strict.add64 done moved
      if moved < want then return (t, .ok done)
      else strictMove round count rounds t chunk done
    else .ok (t, .ok done)

/-- Reads the file into a buffer of `count` bytes, through a chunk of one page, in no more rounds
than there are pages and one. -/
def strictReadInto (t : Transfer PagedMemory δ) (buffer : UserAddr) (count : Nat) :
    Strict (Transferred PagedMemory δ) :=
  strictMove (strictReadRound buffer) count (count / pageSize + 1) t (List.replicate pageSize 0) 0

/-- Writes a buffer of `count` bytes to the file, likewise. -/
def strictWriteFrom (t : Transfer PagedMemory δ) (buffer : UserAddr) (count : Nat) :
    Strict (Transferred PagedMemory δ) :=
  strictMove (strictWriteRound buffer) count (count / pageSize + 1) t (List.replicate pageSize 0) 0

/-! ### One round -/

/-- The cursor of the file, if it has one, is more than some bytes away from the last word. -/
def Near (t : Transfer PagedMemory δ) (ahead : Nat) : Prop :=
  ∀ handle, t.file = .file handle → handle.offset + ahead < 2 ^ 64

/-- All contents are shorter than half a word. -/
def Short (t : Transfer PagedMemory δ) : Prop :=
  ∀ data, (t.files.contents data).length < 2 ^ 63

omit [Console δ] in
theorem Near.mono {ahead less : Nat} (near : t.Near ahead) (fewer : less ≤ ahead) : t.Near less :=
  fun handle isFile => Nat.lt_of_le_of_lt (Nat.add_le_add_left fewer _) (near handle isFile)

theorem files_fetch (t : Transfer PagedMemory δ) (want : Nat) :
    (t.fetch want).2.files = t.files := by
  unfold fetch
  split <;> rfl

/-- A file that gives bytes moves its cursor past them. -/
theorem Near.fetch {ahead want : Nat} (near : t.Near ahead) (wanted : want ≤ ahead) :
    (t.fetch want).2.Near (ahead - want) := by
  intro handle isFile
  unfold Transfer.fetch at isFile
  split at isFile
  · rename_i stream
    rw [stream] at isFile
    cases isFile
  · rename_i stream
    rw [stream] at isFile
    cases isFile
  · rename_i old isOld
    have before := near old isOld
    have few : (t.files.read old want).1.length ≤ want := by
      rw [FileStore.read, Contents.length_readAt]
      exact Nat.min_le_left _ _
    cases isFile
    simp only [FileStore.read, FileHandle.advance] at few ⊢
    omega

/-- A file that takes bytes moves its cursor past them. -/
theorem Near.put {ahead : Nat} {data : Bytes} (near : t.Near ahead) (fits : data.length ≤ ahead) :
    (t.put data).2.Near (ahead - data.length) := by
  intro handle isFile
  unfold Transfer.put at isFile
  split at isFile
  · rename_i stream
    rw [stream] at isFile
    cases isFile
  · rename_i stream
    rw [stream] at isFile
    cases isFile
  · rename_i old isOld
    have before := near old isOld
    have moved : (t.files.write old data).2 = handle := OpenFile.file.inj isFile
    rw [FileStore.write_snd] at moved
    rw [← moved, FileHandle.advance]
    simp only
    omega

/-- Fetching from a live file with its cursor near fills the start of the window. -/
theorem strictFetch_eq [LawfulConsole δ] (sound : t.Sound) (short : t.Short) {window : Bytes}
    (near : t.Near window.length) :
    t.strictFetch window =
      .ok ((t.fetch window.length).1 ++ window.drop (t.fetch window.length).1.length,
        (t.fetch window.length).1.length, (t.fetch window.length).2) := by
  unfold strictFetch fetch
  cases isFile : t.file with
  | stdin =>
    have few := LawfulConsole.length_read_le t.console window.length
    simp only [Strict.copyTo_zero few, Strict.ok_bind]
    rfl
  | stdout => rfl
  | file handle =>
    have shared := List.getElem?_eq_getElem (sound handle isFile)
    have length := short handle.data
    rw [FileStore.contents, List.getD_eq_getElem?_getD, shared, Option.getD_some] at length
    simp only [FileStore.strictRead_eq shared length (near handle isFile), Strict.ok_bind]
    rfl

theorem strictPut_eq (sound : t.Sound) {data : Bytes} (near : t.Near data.length) :
    t.strictPut data = .ok (t.put data) := by
  unfold strictPut put
  cases isFile : t.file with
  | stdin | stdout => rfl
  | file handle =>
    have shared := List.getElem?_eq_getElem (sound handle isFile)
    simp only [FileStore.strictWrite_eq shared (near handle isFile), Strict.ok_bind]
    rfl

/-- A file takes at most what it is given. -/
theorem put_le [LawfulConsole δ] (t : Transfer PagedMemory δ) (data : Bytes) :
    (t.put data).1 ≤ data.length := by
  unfold put
  split
  · exact Nat.zero_le _
  · exact LawfulConsole.write_le t.console data
  · exact Nat.le_refl _

omit [Console δ] in
/-- Storing a piece of a checked buffer. -/
theorem strictStoreAt_eq (allowed : t.memory.AllowsPart .write buffer first count)
    (low : buffer.value + count < 2 ^ 64) {data : Bytes} (nonempty : data ≠ [])
    (fits : first + data.length ≤ count) :
    ∃ start,
      t.strictStoreAt buffer first data = .ok { t with memory := t.memory.store start data } ∧
        t.storeAt buffer first data = .ok { t with memory := t.memory.store start data } := by
  obtain ⟨start, found, checked⟩ := allowed.piece (List.length_pos_iff.2 nonempty) fits
  have value := UserAddr.add?_eq_some.1 found
  have written : t.memory.writeBytes start data = .ok (t.memory.store start data) := by
    rw [PagedMemory.writeBytes, checked]
  have strict : t.memory.strictWrite start data = _ := t.memory.strictWrite_eq (by omega)
  refine ⟨start, ?_, ?_⟩
  · simp only [strictStoreAt, found, strict, Strict.ok_bind, written]
    rfl
  · simp only [storeAt, found, AddressSpace.writeBytes, written]

omit [Console δ] in
/-- Loading a piece of a checked buffer. -/
theorem strictLoadAt_eq (allowed : t.memory.AllowsPart .read buffer first count)
    (low : buffer.value + count < 2 ^ 64) {len : Nat} (nonempty : 0 < len)
    (fits : first + len ≤ count) :
    ∃ data, t.strictLoadAt buffer first len = .ok data ∧ t.loadAt buffer first len = .ok data ∧
      data.length = len := by
  obtain ⟨start, found, checked⟩ := allowed.piece nonempty fits
  have value := UserAddr.add?_eq_some.1 found
  obtain ⟨data, loaded⟩ : ∃ data, t.memory.readBytes start len = .ok data := by
    rw [PagedMemory.readBytes, checked]
    exact ⟨_, rfl⟩
  have strict : t.memory.strictRead start len = _ := t.memory.strictRead_eq (by omega)
  refine ⟨data, ?_, ?_, (PagedMemory.readBytes_eq_ok_iff.1 loaded).2.1⟩
  · simp only [strictLoadAt, found, strict, Strict.ok_bind, loaded]
    rfl
  · simp only [loadAt, found, AddressSpace.readBytes, loaded]

/-! ### Whole transfers -/

/-- A window on the start of a page, filled at its own start, is put back into the page. -/
theorem exists_refilled {chunk data : Bytes} {want : Nat} (page : chunk.length = pageSize)
    (inPage : want ≤ pageSize) (few : data.length ≤ want) :
    ∃ rest, Strict.copyTo chunk 0 want (data ++ (chunk.take want).drop data.length) =
      .ok (data ++ rest) ∧ (data ++ rest).length = pageSize := by
  have window : (data ++ (chunk.take want).drop data.length).length = want := by
    rw [List.length_append, List.length_drop, List.length_take]
    omega
  have copied := @Strict.copyTo_zero _ chunk (data ++ (chunk.take want).drop data.length) (by omega)
  rw [window, List.append_assoc] at copied
  refine ⟨_, copied, ?_⟩
  rw [← List.append_assoc, List.length_append, window, List.length_drop]
  omega

/-- What a round comes to in the middle of a transfer, of which `left` bytes are left: it moves
what it should, and the transfer goes on, or it moves less, and the transfer is over. -/
structure Round (whole : Transfer PagedMemory δ → (done left : Nat) → Transferred PagedMemory δ)
    (Ready : Transfer PagedMemory δ → (done : Nat) → Prop) (t : Transfer PagedMemory δ)
    (done left want moved : Nat) (t' : Transfer PagedMemory δ) (chunk : Bytes) : Prop where
  /-- It moves no more than it should. -/
  moved_le : moved ≤ want
  /-- The chunk is still a page. -/
  page : chunk.length = pageSize
  /-- The transfer is over. -/
  stops : moved < want → whole t done left = (t', .ok (done + moved))
  /-- The transfer goes on. -/
  continues : moved = want → whole t done left = whole t' (done + want) (left - want)
  /-- It can go on. -/
  ready : moved = want → Ready t' (done + want)

omit [Console δ] in
/-- A transfer takes no more rounds than there are pages to move, each of them without hazard. -/
theorem strictMove_eq
    {round : Transfer PagedMemory δ → (chunk : Bytes) → (done want : Nat) →
      Strict (Nat × Transfer PagedMemory δ × Bytes)}
    {whole : Transfer PagedMemory δ → (done left : Nat) → Transferred PagedMemory δ}
    {Ready : Transfer PagedMemory δ → (done : Nat) → Prop} (word : count < 2 ^ 64)
    (none : ∀ t done, whole t done 0 = (t, .ok done))
    (some : ∀ {t chunk done left want}, Ready t done → chunk.length = pageSize →
      done + left = count → 0 < left → min left pageSize = want →
        ∃ moved t' chunk', round t chunk done want = .ok (moved, t', chunk') ∧
          Round whole Ready t done left want moved t' chunk')
    {rounds done left : Nat} {chunk : Bytes} (ready : Ready t done)
    (page : chunk.length = pageSize) (all : done + left = count)
    (enough : left ≤ rounds * pageSize) :
    strictMove round count rounds t chunk done = .ok (whole t done left) := by
  induction rounds generalizing t chunk done left with
  | zero =>
    obtain rfl : left = 0 := by omega
    rw [strictMove, if_neg (by omega), none]
  | succ rounds ih =>
    rw [strictMove]
    by_cases complete : left = 0
    · subst complete
      rw [if_neg (by omega), none]
    · obtain ⟨moved, t', chunk', moves, result⟩ :=
        some ready page all (Nat.pos_of_ne_zero complete) rfl
      have fewer := Nat.add_one_mul rounds pageSize
      have remains : count - done = left := by omega
      have few := result.moved_le
      rw [if_pos (by omega), Strict.sub_eq (by omega), Strict.ok_bind, remains]
      simp only [moves, Strict.ok_bind, Strict.add64_eq (by omega : done + moved < 2 ^ 64)]
      split
      · rw [result.stops ‹_›]
        rfl
      · have full : moved = min left pageSize := by omega
        rw [result.continues full, full]
        exact ih (result.ready full) result.page (by omega) (by omega)

/-- A transfer into a buffer can go on: what it reads from is live, short and near, and what is
left of the buffer may be written. -/
structure Reads (buffer : UserAddr) (count : Nat) (t : Transfer PagedMemory δ) (done : Nat) :
    Prop where
  /-- The file is live. -/
  sound : t.Sound
  /-- It is short. -/
  short : t.Short
  /-- Its cursor is near. -/
  near : t.Near (count - done)
  /-- The buffer may be written. -/
  allowed : t.memory.AllowsPart .write buffer done count

/-- A transfer from a buffer can go on. -/
structure Writes (buffer : UserAddr) (count : Nat) (t : Transfer PagedMemory δ) (done : Nat) :
    Prop where
  /-- The file is live. -/
  sound : t.Sound
  /-- Its cursor is near. -/
  near : t.Near (count - done)
  /-- The buffer may be read. -/
  allowed : t.memory.AllowsPart .read buffer done count

/-- What is left of a part may be accessed as well. -/
theorem allowsPart_later {memory : PagedMemory} {kind : AccessKind} {next : Nat}
    (allowed : memory.AllowsPart kind buffer first count) (later : first ≤ next) :
    memory.AllowsPart kind buffer next count :=
  fun i after within => allowed i (Nat.le_trans later after) within

/-- A round of a read fills a part of the chunk, and stores it where it belongs. -/
theorem exists_strictReadRound [LawfulConsole δ] (low : buffer.value + count < 2 ^ 64)
    {chunk : Bytes}
    {done left want : Nat} (reads : Reads buffer count t done) (page : chunk.length = pageSize)
    (all : done + left = count) (more : 0 < left) (wanted : min left pageSize = want) :
    ∃ moved t' chunk', strictReadRound buffer t chunk done want = .ok (moved, t', chunk') ∧
      Round (fun t => t.readInto buffer) (Reads buffer count) t done left want moved t' chunk' := by
  have positive : 0 < pageSize := by decide
  have window : (chunk.take want).length = want := List.length_take_of_le (by omega)
  have inPage : want ≤ pageSize := by omega
  have fetches := strictFetch_eq reads.sound reads.short
    (reads.near.mono (by omega : (chunk.take want).length ≤ count - done))
  have few := length_fetch_le t want
  have onward := advances_fetch reads.sound want
  have nearer : (t.fetch want).2.Near (count - done - want) := reads.near.fetch (by omega)
  have allowed : (t.fetch want).2.memory.AllowsPart .write buffer done count :=
    memory_fetch t want ▸ reads.allowed
  have short : (t.fetch want).2.Short := by
    rw [Short, files_fetch]
    exact reads.short
  have reading : t.readInto buffer done left = _ := readInto.eq_def _ _ _ _
  simp only [dif_neg (Nat.ne_of_gt more), wanted] at reading
  rw [window] at fetches
  rw [strictReadRound, Strict.slice_zero (by omega), Strict.ok_bind, fetches, Strict.ok_bind]
  clear fetches
  generalize t.fetch want = fetched at few onward nearer allowed short reading ⊢
  obtain ⟨data, t'⟩ := fetched
  simp only at few onward nearer allowed short ⊢
  obtain ⟨rest, refilled, page'⟩ := exists_refilled page inPage few
  rw [refilled, Strict.ok_bind]
  by_cases empty : data = []
  · rw [if_pos empty] at reading
    rw [if_pos (List.length_eq_zero_iff.2 empty)]
    refine ⟨0, t', _, rfl, Nat.zero_le _, page', fun _ => reading, ?_, ?_⟩
    · omega
    · omega
  · have taken : Strict.slice (data ++ rest) 0 data.length = .ok data := by
      rw [Strict.slice_zero (by omega), List.take_left]
    obtain ⟨start, strict, stored⟩ := strictStoreAt_eq allowed low empty (by omega)
    rw [if_neg empty, stored] at reading
    rw [if_neg (mt List.length_eq_zero_iff.1 empty), taken, Strict.ok_bind, strict, Strict.ok_bind]
    refine ⟨data.length, _, _, rfl, few, page', fun less => ?_, fun full => ?_, fun full => ?_⟩
    · exact reading.trans (if_pos less)
    · exact reading.trans (if_neg (full ▸ Nat.lt_irrefl _))
    · rw [Nat.sub_sub] at nearer
      exact ⟨onward.sound, short, nearer,
        (allowsPart_later allowed (Nat.le_add_right _ _)).store⟩

/-- A round of a write takes its part of the buffer, and gives it to the file. -/
theorem exists_strictWriteRound [LawfulConsole δ] (low : buffer.value + count < 2 ^ 64)
    {chunk : Bytes}
    {done left want : Nat} (writes : Writes buffer count t done) (page : chunk.length = pageSize)
    (all : done + left = count) (more : 0 < left) (wanted : min left pageSize = want) :
    ∃ moved t' chunk', strictWriteRound buffer t chunk done want = .ok (moved, t', chunk') ∧
      Round (fun t => t.writeFrom buffer) (Writes buffer count) t done left want moved t'
        chunk' := by
  have positive : 0 < pageSize := by decide
  have inPage : want ≤ pageSize := by omega
  have loads : ∃ data, t.strictLoadAt buffer done want = .ok data ∧
      t.loadAt buffer done want = .ok data ∧ data.length = want :=
    strictLoadAt_eq writes.allowed low (by omega) (by omega)
  obtain ⟨data, strict, loaded, length⟩ := loads
  have writing : t.writeFrom buffer done left = _ := writeFrom.eq_def _ _ _ _
  simp only [dif_neg (Nat.ne_of_gt more), wanted, loaded] at writing
  subst length
  have copied : Strict.copyTo chunk 0 data.length data = _ := Strict.copyTo_zero (by omega)
  have page' : (data ++ chunk.drop data.length).length = pageSize := by
    rw [List.length_append, List.length_drop]
    omega
  have taken : Strict.slice (data ++ chunk.drop data.length) 0 data.length = .ok data := by
    rw [Strict.slice_zero (by omega), List.take_left]
  have given : t.strictPut data = _ := strictPut_eq writes.sound (writes.near.mono (by omega))
  have nearer : (t.put data).2.Near (count - done - data.length) := writes.near.put (by omega)
  rw [strictWriteRound, strict, Strict.ok_bind, copied, Strict.ok_bind, taken, Strict.ok_bind,
    given, Strict.ok_bind]
  refine ⟨(t.put data).1, (t.put data).2, _, rfl, put_le t data, page', fun less => ?_,
    fun full => ?_, fun full => ?_⟩
  · exact writing.trans (if_pos less)
  · exact writing.trans (if_neg (full ▸ Nat.lt_irrefl _))
  · rw [Nat.sub_sub] at nearer
    have allowed : (t.put data).2.memory.AllowsPart .read buffer done count :=
      memory_put t data ▸ writes.allowed
    exact ⟨(advances_put writes.sound data).sound, nearer,
      allowsPart_later allowed (Nat.le_add_right _ _)⟩

/-- A transfer of any length has enough rounds. -/
theorem le_rounds (count : Nat) : count ≤ (count / pageSize + 1) * pageSize := by
  have split := Nat.div_add_mod count pageSize
  have inside : count % pageSize < pageSize := Nat.mod_lt count (by decide)
  rw [Nat.add_one_mul, Nat.mul_comm (count / pageSize)]
  omega

/-- Reading into a checked buffer meets no hazard. -/
theorem strictReadInto_eq [LawfulConsole δ] (low : buffer.value + count < 2 ^ 64)
    (reads : Reads buffer count t 0) :
    t.strictReadInto buffer count = .ok (t.readInto buffer 0 count) :=
  strictMove_eq (by omega) (fun _ _ => by rw [readInto, dif_pos rfl])
    (exists_strictReadRound low) reads List.length_replicate (Nat.zero_add count)
    (le_rounds count)

/-- Writing a checked buffer meets no hazard. -/
theorem strictWriteFrom_eq [LawfulConsole δ] (low : buffer.value + count < 2 ^ 64)
    (writes : Writes buffer count t 0) :
    t.strictWriteFrom buffer count = .ok (t.writeFrom buffer 0 count) :=
  strictMove_eq (by omega) (fun _ _ => by rw [writeFrom, dif_pos rfl])
    (exists_strictWriteRound low) writes List.length_replicate (Nat.zero_add count)
    (le_rounds count)

end SyscallKernel.Transfer
