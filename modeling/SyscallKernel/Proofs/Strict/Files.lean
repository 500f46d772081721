import SyscallKernel.Proofs.File.Accounting
import SyscallKernel.Proofs.Strict.Words

/-!
# The strict file store

The operations of the file store as a machine carries them out. A name leads to an index of
the arena, a free slot is taken by its index, counts are words, and the bytes of a file are
reached by slices. Where the store is well formed and accounts for the handles that are held,
no operation leaves the arena, no count wraps, and the slot that a name leads to is taken.
A number of a slot that is too long for a reference is cut off, as it is elsewhere.
-/

namespace SyscallKernel

variable {name : FileName} {owner : Pid}

namespace Contents

/-- Copies bytes from `offset` on to the start of a window, and counts them. -/
def strictReadAt (contents : Bytes) (offset : Nat) (window : Bytes) : Strict (Bytes × Nat) :=
  if contents.length ≤ offset then .ok (window, 0)
  else do
    let left ← Strict.sub contents.length offset
    let n := min window.length left
    let last ← Strict.add64 offset n
    let piece ← Strict.slice contents offset last
    let window ← Strict.copyTo window 0 n piece
    return (window, n)

/-- The contents after `data` was written at `offset`. -/
def strictWriteAt (contents : Bytes) (offset : Nat) (data : Bytes) : Strict Bytes := do
  let last ← Strict.add64 offset data.length
  Strict.copyTo (contents.zeroExtend last) offset last data

/-- A read inside contents shorter than `2 ^ 64`. -/
theorem strictReadAt_eq {contents window : Bytes} {offset : Nat}
    (short : contents.length < 2 ^ 64) :
    strictReadAt contents offset window =
      .ok (readAt contents offset window.length ++
        window.drop (readAt contents offset window.length).length,
        (readAt contents offset window.length).length) := by
  rw [strictReadAt]
  split
  · rename_i behind
    have nothing : readAt contents offset window.length = [] := by
      rw [readAt, List.drop_of_length_le behind, List.take_nil]
    rw [nothing, List.nil_append, List.length_nil, List.drop_zero]
  · rename_i inside
    have read := length_readAt contents offset window.length
    have piece : Strict.slice contents offset
        (offset + (readAt contents offset window.length).length) =
          .ok (readAt contents offset window.length) := by
      rw [Strict.slice_eq (Nat.le_add_right _ _) (by omega), Nat.add_sub_cancel_left, read,
        ← List.length_drop, ← List.take_eq_take_min, readAt]
    have few : (readAt contents offset window.length).length ≤ window.length := by omega
    rw [Strict.sub_eq (by omega), Strict.ok_bind, ← read]
    simp only [Strict.add64_eq (by omega : offset + (readAt contents offset window.length).length <
      2 ^ 64), Strict.ok_bind, piece, Strict.copyTo_zero few]
    rfl

/-- A write that ends before `2 ^ 64`. -/
theorem strictWriteAt_eq {contents data : Bytes} {offset : Nat}
    (fits : offset + data.length < 2 ^ 64) :
    strictWriteAt contents offset data = .ok (writeAt contents offset data) := by
  have inside : offset + data.length ≤ (contents.zeroExtend (offset + data.length)).length := by
    rw [Bytes.length_zeroExtend]
    exact Nat.le_max_right _ _
  rw [strictWriteAt, Strict.add64_eq fits, Strict.ok_bind, Strict.copyTo_eq inside, writeAt,
    Bytes.overlay_of_le inside]

-- A cursor at the last word leaves no room for a byte.
example : strictWriteAt [] (2 ^ 64 - 1) [0] = .error .overflow := rfl

end Contents

namespace FileStore

variable {store : FileStore} {id : FileId} {entry : FileEntry} {handle : FileHandle}
  {contents : Bytes}

/-! ### Slots -/

/-- The store with another slot at an index of the arena. -/
def setSlot (store : FileStore) (index : Nat) (slot : Slot) : FileStore :=
  { store with arena := store.arena.set index slot }

/-- Puts an entry into the slot freed last, or into a new slot if none is empty. -/
def strictInsert (store : FileStore) (entry : FileEntry) : Strict (FileStore × FileId) := do
  let live ← Strict.add64 store.live 1
  match store.free with
  | index :: rest =>
    let slot ← Strict.index store.arena index
    return ({ store.setSlot index { slot with entry := some entry } with free := rest, live },
      ⟨index, slot.generation⟩)
  | [] =>
    return ({ store with arena := store.arena ++ [⟨0, some entry⟩], live },
      FileId.issued ⟨store.arena.length, 0⟩)

/-- Empties a slot and raises its generation. -/
def strictVacate (store : FileStore) (index : Nat) : Strict FileStore := do
  let slot ← Strict.index store.arena index
  match slot.entry with
  | none => return store
  | some _ =>
    let live ← Strict.sub store.live 1
    return { store.setSlot index ⟨slot.freed + 1, none⟩ with
      free := index :: store.free
      live }

/-- The slot that a name leads to, which has to be taken, and its entry. -/
def strictSlot (store : FileStore) (index : Nat) : Strict (Slot × FileEntry) := do
  let slot ← Strict.index store.arena index
  match slot.entry with
  | none => throw .disorder
  | some entry => return (slot, entry)

/-- Changing an item that is there is setting it. -/
theorem modify_eq_set {α : Type} {items : List α} {index : Nat} {item : α}
    (found : items[index]? = some item) (change : α → α) :
    items.modify index change = items.set index (change item) := by
  have : Inhabited α := ⟨item⟩
  rw [List.modify_eq_set, found, Option.getD_some]

/-- Changing a slot that is there is setting it. -/
theorem modify_eq_setSlot {index : Nat} {slot : Slot} (found : store.arena[index]? = some slot)
    (change : Slot → Slot) :
    { store with arena := store.arena.modify index change } =
      store.setSlot index (change slot) := by
  rw [setSlot, modify_eq_set found]

/-- Changing the entry of a taken slot is setting the slot. -/
theorem modifyEntry_eq_setSlot {index : Nat} {slot : Slot}
    (found : store.arena[index]? = some slot) (taken : slot.entry = some entry)
    (change : FileEntry → FileEntry) :
    store.modifyEntry index change =
      store.setSlot index { slot with entry := some (change entry) } := by
  rw [modifyEntry, modify_eq_setSlot found, taken, Option.map_some]

/-- A store with room takes one more entry. -/
theorem strictInsert_eq (arranged : store.Arranged) (room : store.live + 1 < 2 ^ 64)
    (entry : FileEntry) : store.strictInsert entry = .ok (store.insert entry) := by
  rw [strictInsert, insert, Strict.add64_eq room, Strict.ok_bind]
  cases listed : store.free with
  | nil => rfl
  | cons index rest =>
    obtain ⟨slot, found, -⟩ := arranged.mem_free.1 (listed ▸ List.mem_cons_self)
    have set := modify_eq_setSlot found fun slot => { slot with entry := some entry }
    simp only [Strict.index_eq found, Strict.ok_bind, found, Option.map_some, Option.getD_some,
      ← set]
    rfl

/-- A taken slot is emptied. -/
theorem strictVacate_eq {index : Nat} {slot : Slot} (found : store.arena[index]? = some slot)
    (taken : slot.entry = some entry) (counted : 0 < store.live) :
    store.strictVacate index = .ok (store.vacate index) := by
  have set := modify_eq_setSlot found fun slot => ⟨slot.freed + 1, none⟩
  simp only [strictVacate, Strict.index_eq found, Strict.ok_bind, vacate, slotEntry?, found, taken,
    Option.map_some, Strict.sub_eq counted, ← set]
  rfl

theorem strictSlot_eq {index : Nat} {slot : Slot} (found : store.arena[index]? = some slot)
    (taken : slot.entry = some entry) : store.strictSlot index = .ok (slot, entry) := by
  rw [strictSlot, Strict.index_eq found, Strict.ok_bind, taken]
  rfl

/-- A store with a live entry counts it. -/
theorem Arranged.live_pos (arranged : store.Arranged) (live : store.entry? id = some entry) :
    0 < store.live := by
  rw [arranged.live_eq]
  exact List.length_pos_of_mem (mem_liveIds.2 (live ▸ Option.some_ne_none entry))

/-! ### Names -/

/-- Creates a file, or empties the linked file of that name, and opens it. -/
def strictCreate (store : FileStore) (name : FileName) (owner : Pid) :
    Strict (FileStore × Creation) :=
  match store.indexOf? name with
  | some index => do
    let (slot, entry) ← store.strictSlot index
    let openCount ← Strict.add32 entry.openCount 1
    let counted := store.setSlot index { slot with entry := some { entry with openCount } }
    return ({ counted with data := store.data.set entry.data [] },
      .truncated (.atStart ⟨index, slot.generation⟩ entry.data owner) openCount)
  | none =>
    if store.capacity ≤ store.live then .ok (store, .full)
    else do
      let data := store.data.length
      let (store, id) ← store.strictInsert ⟨name, data, 1, false⟩
      return ({ store with names := (name, id.index) :: store.names, data := store.data ++ [[]] },
        .created (.atStart id data owner))

/-- Opens a linked file at its start. -/
def strictOpen (store : FileStore) (name : FileName) (owner : Pid) :
    Strict (Option (FileStore × FileHandle)) :=
  match store.indexOf? name with
  | none => .ok none
  | some index => do
    let (slot, entry) ← store.strictSlot index
    let openCount ← Strict.add32 entry.openCount 1
    return some (store.setSlot index { slot with entry := some { entry with openCount } },
      .atStart ⟨index, slot.generation⟩ entry.data owner)

/-- Removes a name. -/
def strictUnlink (store : FileStore) (name : FileName) : Strict (Option (FileStore × Unlinking)) :=
  match store.indexOf? name with
  | none => .ok none
  | some index => do
    let hidden := { store with names := store.names.filter fun link => link.1 ≠ name }
    let (slot, entry) ← hidden.strictSlot index
    if 0 < entry.openCount then
      return some (hidden.setSlot index { slot with entry := some { entry with unlinked := true } },
        .pending)
    else
      let freed ← hidden.strictVacate index
      return some (freed, .freed)

/-- Size and open handles of a linked file. -/
def strictStat? (store : FileStore) (name : FileName) : Strict (Option FileStat) :=
  match store.indexOf? name with
  | none => .ok none
  | some index => do
    let (_, entry) ← store.strictSlot index
    let contents ← Strict.index store.data entry.data
    return some ⟨contents.length, entry.openCount⟩

/-- A listed name leads to a slot of the arena, and the slot is taken. -/
theorem WellFormed.exists_slot (wellFormed : store.WellFormed) {index : Nat}
    (listed : store.indexOf? name = some index) :
    ∃ slot entry, store.arena[index]? = some slot ∧ slot.entry = some entry ∧
      store.linked? name = some (⟨index, slot.generation⟩, entry) := by
  obtain ⟨⟨id, entry⟩, linked⟩ : ∃ link, store.linked? name = some link := by
    rw [← Option.ne_none_iff_exists', ne_eq, wellFormed.linked?_eq_none_iff, listed]
    exact Option.some_ne_none index
  have taken : store.slotEntry? index = some (id, entry) := by
    rw [linked?, listed, Option.bind_some] at linked
    exact linked
  obtain ⟨rfl, live⟩ := slotEntry?_eq_some_iff.1 taken
  obtain ⟨slot, found, generation, held⟩ := entry?_eq_some_iff.1 live
  refine ⟨slot, entry, found, held, ?_⟩
  rw [linked, generation]

/-- Creating a file, if one more handle can be counted. -/
theorem strictCreate_eq (wellFormed : store.WellFormed) (word : store.capacity < 2 ^ 64)
    (few : ∀ id entry, store.linked? name = some (id, entry) → entry.openCount + 1 < wordCount) :
    store.strictCreate name owner = .ok (store.create name owner) := by
  rw [strictCreate, create]
  cases listed : store.indexOf? name with
  | none =>
    rw [wellFormed.linked?_eq_none_iff.2 listed]
    simp only
    split
    · rfl
    · rename_i room
      rw [strictInsert_eq wellFormed.arranged (by omega)]
      rfl
  | some index =>
    obtain ⟨slot, entry, found, taken, linked⟩ := wellFormed.exists_slot listed
    simp only [strictSlot_eq found taken, linked, Strict.ok_bind,
      Strict.add32_eq (few _ _ linked), Nat.mod_eq_of_lt (few _ _ linked),
      modifyEntry_eq_setSlot found taken]
    rfl

/-- Opening a file, if one more handle can be counted. -/
theorem strictOpen_eq (wellFormed : store.WellFormed)
    (few : ∀ id entry, store.linked? name = some (id, entry) → entry.openCount + 1 < wordCount) :
    store.strictOpen name owner = .ok (store.openLinked name owner) := by
  rw [strictOpen, openLinked]
  cases listed : store.indexOf? name with
  | none => rw [wellFormed.linked?_eq_none_iff.2 listed]
  | some index =>
    obtain ⟨slot, entry, found, taken, linked⟩ := wellFormed.exists_slot listed
    simp only [strictSlot_eq found taken, linked, Strict.ok_bind,
      Strict.add32_eq (few _ _ linked), Nat.mod_eq_of_lt (few _ _ linked),
      modifyEntry_eq_setSlot found taken]
    rfl

theorem strictUnlink_eq (wellFormed : store.WellFormed) (name : FileName) :
    store.strictUnlink name = .ok (store.unlink name) := by
  rw [strictUnlink, unlink]
  cases listed : store.indexOf? name with
  | none => rfl
  | some index =>
    obtain ⟨slot, entry, found, taken, linked⟩ := wellFormed.exists_slot listed
    have live := (wellFormed.linked?_eq_some_iff.1 linked).1
    have counted := wellFormed.arranged.live_pos live
    -- Whatever the names are by now, the slots are the same.
    have seek := fun names => @strictSlot_eq { store with names } entry index slot found taken
    have hide := fun names => @modifyEntry_eq_setSlot { store with names } entry index slot found
      taken
    have free := fun names => @strictVacate_eq { store with names } entry index slot found taken
      counted
    simp only [seek, Strict.ok_bind, slotEntry?_eq_some_iff.2 ⟨rfl, live⟩]
    split
    · rw [hide]
      rfl
    · rw [free]
      rfl

theorem strictStat?_eq (wellFormed : store.WellFormed) (name : FileName) :
    store.strictStat? name = .ok (store.stat? name) := by
  rw [strictStat?, stat?]
  cases listed : store.indexOf? name with
  | none =>
    rw [wellFormed.linked?_eq_none_iff.2 listed]
    rfl
  | some index =>
    obtain ⟨slot, entry, found, taken, linked⟩ := wellFormed.exists_slot listed
    have shared := List.getElem?_eq_getElem (wellFormed.data_lt (live_of_linked? linked))
    simp only [strictSlot_eq found taken, linked, Strict.ok_bind, Strict.index_eq shared,
      Option.map_some, FileStore.contents, List.getD_eq_getElem?_getD, shared, Option.getD_some]
    rfl

/-! ### Handles -/

/-- Takes one handle off an entry, which has to be there and to have one. -/
def strictRelease (store : FileStore) (id : FileId) : Strict (FileStore × Release) :=
  match store.entry? id with
  | none => .error .disorder
  | some entry => do
    Strict.ensure (decide (entry.openCount ≠ 0))
    let openCount ← Strict.sub entry.openCount 1
    let store := store.modifyEntry id.index fun e => { e with openCount }
    if openCount = 0 ∧ entry.unlinked then
      let store ← store.strictVacate id.index
      return (store, .freed entry.name)
    else return (store, .kept)

/-- Releases handles one after the other. -/
def strictReleaseAll (store : FileStore) : List FileHandle → Strict (FileStore × List Release)
  | [] => .ok (store, [])
  | handle :: rest => do
    let (store, first) ← store.strictRelease handle.id
    let (store, others) ← store.strictReleaseAll rest
    return (store, first :: others)

/-- Reads through a handle to the start of a window, and moves its cursor past the bytes read. -/
def strictRead (store : FileStore) (handle : FileHandle) (window : Bytes) :
    Strict (Bytes × Nat × FileHandle) := do
  let contents ← Strict.index store.data handle.data
  let (window, n) ← Contents.strictReadAt contents handle.offset window
  let offset ← Strict.add64 handle.offset n
  return (window, n, { handle with offset })

/-- Writes through a handle and moves its cursor past the bytes written. -/
def strictWrite (store : FileStore) (handle : FileHandle) (bytes : Bytes) :
    Strict (FileStore × FileHandle) := do
  let contents ← Strict.index store.data handle.data
  let contents ← Contents.strictWriteAt contents handle.offset bytes
  let offset ← Strict.add64 handle.offset bytes.length
  return ({ store with data := store.data.set handle.data contents }, { handle with offset })

/-- A handle that is held can be released. -/
theorem strictRelease_eq (wellFormed : store.WellFormed) {link : FileId × Nat}
    {held : List (FileId × Nat)} (accounts : store.Accounts (link :: held)) :
    store.strictRelease link.1 = .ok (store.release link.1) := by
  obtain ⟨entry, live, -, positive⟩ := accounts.live List.mem_cons_self
  have counted : entry.openCount ≠ 0 := Nat.ne_of_gt positive
  have last : entry.openCount - 1 = 0 ↔ entry.openCount = 1 := by omega
  have change := change_modifyEntry wellFormed.arranged live
    fun e => { e with openCount := entry.openCount - 1 }
  have live' := change.entry?_eq link.1
  rw [if_pos rfl] at live'
  obtain ⟨slot, found, -, taken⟩ := entry?_eq_some_iff.1 live'
  rw [strictRelease, release, live]
  simp only [Strict.ensure_eq (decide_eq_true counted), Strict.ok_bind, Strict.sub_eq positive,
    counted, if_false, last]
  split
  · rw [strictVacate_eq found taken (change.arranged.live_pos live')]
    rfl
  · rfl

-- A handle that nobody accounts for leads nowhere.
example : (empty 1).strictRelease ⟨0, 0⟩ = .error .disorder := rfl

/-- All handles that a process holds can be released. -/
theorem strictReleaseAll_eq (wellFormed : store.WellFormed) {handles : List FileHandle}
    {held : List (FileId × Nat)} (accounts : store.Accounts (handles.map FileHandle.link ++ held)) :
    store.strictReleaseAll handles = .ok (store.releaseAll handles) := by
  induction handles generalizing store with
  | nil => rfl
  | cons handle rest ih =>
    have one : store.strictRelease handle.id = .ok (store.release handle.id) :=
      strictRelease_eq wellFormed accounts
    have first := releasing wellFormed.arranged handle.id
    have others := ih (first.wellFormed wellFormed) (first.accounts accounts).2
    simp only [strictReleaseAll, releaseAll, one, Strict.ok_bind, others]
    rfl

/-- A read through a handle whose cursor is far from the last word. -/
theorem strictRead_eq (shared : store.data[handle.data]? = some contents) {window : Bytes}
    (short : contents.length < 2 ^ 63) (near : handle.offset + window.length < 2 ^ 64) :
    store.strictRead handle window =
      .ok ((store.read handle window.length).1 ++
          window.drop (store.read handle window.length).1.length,
        (store.read handle window.length).1.length, (store.read handle window.length).2) := by
  have few : (Contents.readAt contents handle.offset window.length).length ≤ window.length := by
    rw [Contents.length_readAt]
    exact Nat.min_le_left _ _
  have read := @Contents.strictReadAt_eq contents window handle.offset (by omega)
  have own : store.contents handle.data = contents := by
    rw [FileStore.contents, List.getD_eq_getElem?_getD, shared, Option.getD_some]
  rw [strictRead, Strict.index_eq shared, Strict.ok_bind]
  simp only [read, Strict.ok_bind, FileStore.read, own,
    Strict.add64_eq (by omega : handle.offset +
      (Contents.readAt contents handle.offset window.length).length < 2 ^ 64)]
  rfl

theorem strictWrite_eq (shared : store.data[handle.data]? = some contents) {bytes : Bytes}
    (near : handle.offset + bytes.length < 2 ^ 64) :
    store.strictWrite handle bytes = .ok (store.write handle bytes) := by
  rw [strictWrite, Strict.index_eq shared, Strict.ok_bind]
  simp only [Contents.strictWriteAt_eq near, Strict.ok_bind, Strict.add64_eq near, write,
    modify_eq_set shared]
  rfl

end FileStore

end SyscallKernel
