import SyscallKernel.File.Contents
import SyscallKernel.File.Handle
import SyscallKernel.File.Name

/-!
# The file store

The store maps names to reference-counted entries. Entries live in an arena of
slots whose generation rises each time a slot is freed; the name index holds
linked entries only; an unlinked entry survives until its last handle is released.
The number of live entries, linked or not, never passes the capacity.

An entry and the handles open on it share the contents of the file. The store keeps
the contents of all files it ever made, and a share is a place among them; contents
that nobody shares any more are out of reach.

References, generations and counts of open handles have 32 bits.

Every operation returns what it did, so that a caller can report it.
-/

namespace SyscallKernel

/-- A live entry of the store. -/
structure FileEntry where
  /-- The name under which the entry was created. -/
  name : FileName
  /-- The contents shared with the handles open on the entry. -/
  data : Nat
  /-- The number of handles open on the entry. -/
  openCount : Nat
  /-- The name no longer leads to the entry. -/
  unlinked : Bool
  deriving DecidableEq

/-- A slot of the arena. -/
structure Slot where
  /-- How often the slot was freed. -/
  freed : Nat
  /-- The entry in the slot, if it is taken. -/
  entry : Option FileEntry
  deriving DecidableEq

/-- The generation of a slot: it goes round. -/
def Slot.generation (slot : Slot) : Nat := slot.freed % wordCount

/-- Size and number of open handles of a linked file. -/
structure FileStat where
  /-- Length of the contents in bytes. -/
  size : Nat
  /-- Number of handles open on the file. -/
  openCount : Nat
  deriving DecidableEq, Repr

/-- The file store. -/
structure FileStore where
  /-- The greatest number of live entries. -/
  capacity : Nat
  /-- The slots, taken and empty. -/
  arena : List Slot
  /-- The indices of the empty slots, the one freed last first. -/
  free : List Nat
  /-- The slots of the linked entries, by name. -/
  names : List (FileName × Nat)
  /-- The number of live entries. -/
  live : Nat
  /-- The contents of the files made so far, in the order in which they were made. -/
  data : List Bytes
  deriving DecidableEq

namespace FileStore

/-- A store without entries. -/
def empty (capacity : Nat) : FileStore := ⟨capacity, [], [], [], 0, []⟩

/-- The slot a name leads to. -/
def indexOf? (store : FileStore) (name : FileName) : Option Nat := store.names.lookup name

/-- The reference and the entry of a taken slot. -/
def slotEntry? (store : FileStore) (index : Nat) : Option (FileId × FileEntry) :=
  match store.arena[index]? with
  | none => none
  | some slot => slot.entry.map fun entry => (⟨index, slot.generation⟩, entry)

/-- The linked entry with a name, and the reference to it. -/
def linked? (store : FileStore) (name : FileName) : Option (FileId × FileEntry) :=
  (store.indexOf? name).bind store.slotEntry?

/-- The entry a reference designates, unless the reference is stale. -/
def entry? (store : FileStore) (id : FileId) : Option FileEntry :=
  match store.arena[id.index]? with
  | none => none
  | some slot => if slot.generation = id.generation then slot.entry else none

/-- Changes the entry in a slot. -/
def modifyEntry (store : FileStore) (index : Nat) (change : FileEntry → FileEntry) : FileStore :=
  { store with
    arena := store.arena.modify index fun slot => { slot with entry := slot.entry.map change } }

/-- Puts an entry into the slot freed last, or into a new slot if none is empty; the
reference to a new slot keeps 32 bits of its number. -/
def insert (store : FileStore) (entry : FileEntry) : FileStore × FileId :=
  match store.free with
  | index :: rest =>
    let generation := (store.arena[index]?.map Slot.generation).getD 0
    ({ store with
        arena := store.arena.modify index fun slot => { slot with entry := some entry }
        free := rest
        live := store.live + 1 },
      ⟨index, generation⟩)
  | [] =>
    ({ store with
        arena := store.arena ++ [⟨0, some entry⟩]
        live := store.live + 1 },
      FileId.issued ⟨store.arena.length, 0⟩)

/-- Empties a taken slot and raises its generation. -/
def vacate (store : FileStore) (index : Nat) : FileStore :=
  match store.slotEntry? index with
  | none => store
  | some _ =>
    { store with
      arena := store.arena.modify index fun slot => ⟨slot.freed + 1, none⟩
      free := index :: store.free
      live := store.live - 1 }

/-- What a creation did. -/
inductive Creation where
  /-- A linked file was emptied and opened; the number of its open handles follows. -/
  | truncated (handle : FileHandle) (openCount : Nat)
  /-- A new file was made and opened. -/
  | created (handle : FileHandle)
  /-- The store is at capacity and nothing changed. -/
  | full
  deriving DecidableEq, Repr

/-- The handle a creation gives. -/
def Creation.handle? : Creation → Option FileHandle
  | truncated handle _ => some handle
  | created handle => some handle
  | full => none

/-- Creates a file, or empties the linked file of that name, and opens it. -/
def create (store : FileStore) (name : FileName) (owner : Pid) : FileStore × Creation :=
  match store.linked? name with
  | some (id, entry) =>
    let openCount := (entry.openCount + 1) % wordCount
    ({ store.modifyEntry id.index fun e => { e with openCount } with
        data := store.data.set entry.data [] },
      .truncated (.atStart id entry.data owner) openCount)
  | none =>
    if store.capacity ≤ store.live then (store, .full)
    else
      let data := store.data.length
      let (store, id) := store.insert ⟨name, data, 1, false⟩
      ({ store with names := (name, id.index) :: store.names, data := store.data ++ [[]] },
        .created (.atStart id data owner))

/-- Opens a linked file at its start. -/
def openLinked (store : FileStore) (name : FileName) (owner : Pid) :
    Option (FileStore × FileHandle) :=
  match store.linked? name with
  | none => none
  | some (id, entry) =>
    some (store.modifyEntry id.index fun e =>
        { e with openCount := (entry.openCount + 1) % wordCount },
      .atStart id entry.data owner)

/-- What became of an entry whose name was removed. -/
inductive Unlinking where
  /-- Handles are open: the entry stays until the last one is released. -/
  | pending
  /-- No handle was open: the entry is gone. -/
  | freed
  deriving DecidableEq, Repr

/-- Removes a name. -/
def unlink (store : FileStore) (name : FileName) : Option (FileStore × Unlinking) :=
  match store.indexOf? name with
  | none => none
  | some index =>
    let hidden := { store with names := store.names.filter fun link => link.1 ≠ name }
    match store.slotEntry? index with
    | some (_, entry) =>
      if 0 < entry.openCount then
        some (hidden.modifyEntry index fun e => { e with unlinked := true }, .pending)
      else some (hidden.vacate index, .freed)
    | none => some (hidden, .freed)

/-- What the release of a handle did. -/
inductive Release where
  /-- The reference was stale. -/
  | stale (id : FileId)
  /-- The entry had no open handle. -/
  | unheld (name : FileName)
  /-- The entry has one handle less. -/
  | kept
  /-- The last handle of an unlinked entry went, and the entry with it. -/
  | freed (name : FileName)
  deriving DecidableEq

/-- Takes one handle off an entry. -/
def release (store : FileStore) (id : FileId) : FileStore × Release :=
  match store.entry? id with
  | none => (store, .stale id)
  | some entry =>
    if entry.openCount = 0 then (store, .unheld entry.name)
    else
      let store := store.modifyEntry id.index fun e => { e with openCount := entry.openCount - 1 }
      if entry.openCount = 1 ∧ entry.unlinked then (store.vacate id.index, .freed entry.name)
      else (store, .kept)

/-- Releases handles one after the other. -/
def releaseAll (store : FileStore) : List FileHandle → FileStore × List Release
  | [] => (store, [])
  | handle :: rest =>
    let (store, first) := store.release handle.id
    let (store, others) := store.releaseAll rest
    (store, first :: others)

/-- Whether a linked file has the name. -/
def contains (store : FileStore) (name : FileName) : Bool := (store.indexOf? name).isSome

/-- The contents at a place. -/
def contents (store : FileStore) (data : Nat) : Bytes := store.data.getD data []

/-- Size and open handles of a linked file. -/
def stat? (store : FileStore) (name : FileName) : Option FileStat :=
  (store.linked? name).map fun (_, entry) =>
    ⟨(store.contents entry.data).length, entry.openCount⟩

/-- The number of live entries. -/
def size (store : FileStore) : Nat := store.live

/-- Reads at most `count` bytes through a handle and moves its cursor past them. -/
def read (store : FileStore) (handle : FileHandle) (count : Nat) : Bytes × FileHandle :=
  let bytes := Contents.readAt (store.contents handle.data) handle.offset count
  (bytes, handle.advance bytes.length)

/-- Writes through a handle and moves its cursor past the bytes written. -/
def write (store : FileStore) (handle : FileHandle) (bytes : Bytes) : FileStore × FileHandle :=
  ({ store with
      data := store.data.modify handle.data fun contents =>
        Contents.writeAt contents handle.offset bytes },
    handle.advance bytes.length)

end FileStore

end SyscallKernel
