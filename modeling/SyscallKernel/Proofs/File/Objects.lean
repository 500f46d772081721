import SyscallKernel.Session.Files

/-!
# Files as objects

What a client of the file store relies on, without slots, generations, counts or
flags: file objects that are never reused, names that lead to some of them, and
handles with a private cursor. An object counts as a file while a name or a handle
leads to it.
-/

namespace SyscallKernel

/-- A cursor over a file object. -/
structure ObjectHandle where
  /-- The object. -/
  object : Nat
  /-- The position of the next transfer. -/
  offset : Nat
  /-- The process that opened the handle. -/
  owner : Pid
  deriving DecidableEq

/-- File objects, names and handles. -/
structure ObjectStore where
  /-- The greatest number of files. -/
  capacity : Nat
  /-- The bytes of every object ever made; an object is named by its position. -/
  objects : List Bytes
  /-- The objects that names lead to. -/
  links : List (FileName × Nat)
  /-- The live handles, by number. -/
  handles : List (Nat × ObjectHandle)
  /-- The number of the next handle. -/
  nextHandle : Nat

/-- A call of a client of the file store. -/
inductive StoreCall where
  /-- Create or empty a file and open it. -/
  | create (name : FileName) (owner : Pid)
  /-- Open a file. -/
  | openLinked (name : FileName) (owner : Pid)
  /-- Remove a name. -/
  | unlink (name : FileName)
  /-- Ask whether a name is linked. -/
  | contains (name : FileName)
  /-- Ask for size and open handles. -/
  | stat (name : FileName)
  /-- Ask whether the store is empty. -/
  | isEmpty
  /-- Read through a handle. -/
  | read (handle count : Nat)
  /-- Write through a handle. -/
  | write (handle : Nat) (data : Bytes)
  /-- Show a handle. -/
  | info (handle : Nat)
  /-- Drop a handle. -/
  | drop (handle : Nat)

/-- What a client sees of an answer. -/
inductive StoreAnswer where
  /-- Nothing to say. -/
  | done
  /-- A truth value. -/
  | flag (value : Bool)
  /-- Size and open handles, if the name is linked. -/
  | stat (stat : Option FileStat)
  /-- A handle was obtained, under a number, with its cursor here. -/
  | obtained (number offset : Nat) (owner : Pid)
  /-- Bytes were read, and the cursor is here. -/
  | bytes (data : Bytes) (offset : Nat)
  /-- Bytes were written, and the cursor is here. -/
  | written (count offset : Nat)
  /-- The cursor and the owner of a handle. -/
  | info (offset : Nat) (owner : Pid)
  /-- The operation failed. -/
  | refused (error : SysError)
  /-- There is no handle of that number. -/
  | noHandle
  deriving DecidableEq

namespace ObjectStore

/-- A store without objects. -/
def new (capacity : Nat) : ObjectStore := ⟨capacity, [], [], [], 0⟩

/-- Whether a name leads to the object. -/
def isLinked (store : ObjectStore) (object : Nat) : Bool :=
  store.links.any fun link => link.2 = object

/-- The number of live handles on the object. -/
def handleCount (store : ObjectStore) (object : Nat) : Nat :=
  store.handles.countP fun held => held.2.object = object

/-- The objects that a name or a live handle leads to. -/
def reachable (store : ObjectStore) : List Nat :=
  (List.range store.objects.length).filter fun object =>
    store.isLinked object || decide (0 < store.handleCount object)

/-- The number of files. -/
def size (store : ObjectStore) : Nat := store.reachable.length

/-- The bytes of an object. -/
def contents (store : ObjectStore) (object : Nat) : Bytes := store.objects.getD object []

/-- The bytes of an object after `data` was put at `offset`: zero bytes fill the gap
if there is one, and every byte outside the data stays. -/
def patched (contents : Bytes) (offset : Nat) (data : Bytes) : Bytes :=
  (List.range (max contents.length (offset + data.length))).map fun i =>
    if offset ≤ i ∧ i < offset + data.length then data.getD (i - offset) 0 else contents.getD i 0

/-- The store with one more handle, at the start of an object. -/
def obtain (store : ObjectStore) (object : Nat) (owner : Pid) : ObjectStore × StoreAnswer :=
  ({ store with
      handles := (store.nextHandle, ⟨object, 0, owner⟩) :: store.handles
      nextHandle := store.nextHandle + 1 },
    .obtained store.nextHandle 0 owner)

/-- The store without a handle. -/
def forget (store : ObjectStore) (n : Nat) : ObjectStore :=
  { store with handles := store.handles.filter fun held => held.1 ≠ n }

/-- The store with the cursor of a handle moved on. -/
def advance (store : ObjectStore) (n : Nat) (handle : ObjectHandle) (count : Nat) : ObjectStore :=
  { store with
    handles := (n, { handle with offset := handle.offset + count }) :: (store.forget n).handles }

/-- Does something with a handle. -/
def withHandle (store : ObjectStore) (n : Nat)
    (use : ObjectHandle → ObjectStore × StoreAnswer) : ObjectStore × StoreAnswer :=
  match store.handles.lookup n with
  | none => (store, .noHandle)
  | some handle => use handle

/-- The rules of the model. -/
def step (store : ObjectStore) : StoreCall → ObjectStore × StoreAnswer
  | .create name owner =>
    match store.links.lookup name with
    | some object => { store with objects := store.objects.set object [] }.obtain object owner
    | none =>
      if store.capacity ≤ store.size then (store, .refused .tableFull)
      else
        { store with
          objects := store.objects ++ [[]]
          links := (name, store.objects.length) :: store.links }.obtain store.objects.length owner
  | .openLinked name owner =>
    match store.links.lookup name with
    | none => (store, .refused .notFound)
    | some object => store.obtain object owner
  | .unlink name =>
    match store.links.lookup name with
    | none => (store, .refused .notFound)
    | some _ => ({ store with links := store.links.filter fun link => link.1 ≠ name }, .done)
  | .contains name => (store, .flag (store.links.lookup name).isSome)
  | .stat name =>
    (store, .stat ((store.links.lookup name).map fun object =>
      ⟨(store.contents object).length, store.handleCount object⟩))
  | .isEmpty => (store, .flag (store.size == 0))
  | .read n count =>
    store.withHandle n fun handle =>
      let data := ((store.contents handle.object).drop handle.offset).take count
      (store.advance n handle data.length, .bytes data (handle.offset + data.length))
  | .write n data =>
    store.withHandle n fun handle =>
      let bytes := patched (store.contents handle.object) handle.offset data
      ({ store with objects := store.objects.set handle.object bytes }.advance n handle data.length,
        .written data.length (handle.offset + data.length))
  | .info n => store.withHandle n fun handle => (store, .info handle.offset handle.owner)
  | .drop n => store.withHandle n fun _ => (store.forget n, .done)

/-- The store has no more files, and no more handles on one of them, than 32 bits can tell
apart and count. -/
structure Fits (store : ObjectStore) : Prop where
  /-- Files can be told apart. -/
  size_le : store.size ≤ wordCount
  /-- The handles on a file can be counted. -/
  handleCount_lt : ∀ object, store.handleCount object < wordCount

/-- The store fits after each of the calls. -/
def KeepsFitting (store : ObjectStore) : List StoreCall → Prop
  | [] => True
  | call :: rest => (store.step call).1.Fits ∧ (store.step call).1.KeepsFitting rest

/-- The answers to a list of calls, each with the number of files after it. -/
def runAll (store : ObjectStore) : List StoreCall → List (StoreAnswer × Nat)
  | [] => []
  | call :: rest =>
    let (store, answer) := store.step call
    (answer, store.size) :: store.runAll rest

end ObjectStore

/-- The call as an operation of a file session. -/
def StoreCall.action : StoreCall → FileAction
  | create name owner => .create name.bytes owner
  | openLinked name owner => .openLinked name.bytes owner
  | unlink name => .unlink name.bytes
  | contains name => .contains name.bytes
  | stat name => .stat name.bytes
  | isEmpty => .isEmpty
  | read n count => .read n count
  | write n data => .write n data
  | info n => .info n
  | drop n => .drop n

/-- What a client sees of the answer of a session: everything but the slot and the
generation behind a handle. Answers about descriptors are not among them. -/
def FileAnswer.view? : FileAnswer → Option StoreAnswer
  | done => some .done
  | flag value => some (.flag value)
  | stat found => some (.stat found)
  | obtained handle number => some (.obtained number handle.offset handle.owner)
  | bytes data offset => some (.bytes data offset)
  | written count offset => some (.written count offset)
  | info held => some (.info held.offset held.owner)
  | refused error => some (.refused error)
  | noHandle => some .noHandle
  | _ => none

end SyscallKernel
