import SyscallKernel.File.Descriptor
import SyscallKernel.File.Store

/-!
# File sessions

One operation after another on a file store, each with its answer. The handles
that a session holds are numbered in the order in which it obtained them, and its
descriptor tables are numbered by whoever uses them. A handle that leaves the
session without going into a table is released.
-/

namespace SyscallKernel

/-- An operation on a file store, on held handles or on descriptor tables. -/
inductive FileAction where
  /-- Create or empty a file and open it. -/
  | create (name : Bytes) (owner : Pid)
  /-- Open a file. -/
  | openLinked (name : Bytes) (owner : Pid)
  /-- Remove a name. -/
  | unlink (name : Bytes)
  /-- Ask whether a name is linked. -/
  | contains (name : Bytes)
  /-- Ask for size and open handles. -/
  | stat (name : Bytes)
  /-- Ask whether the store is empty. -/
  | isEmpty
  /-- Read through a held handle. -/
  | read (handle count : Nat)
  /-- Write through a held handle. -/
  | write (handle : Nat) (data : Bytes)
  /-- Show a held handle. -/
  | info (handle : Nat)
  /-- Release a held handle. -/
  | drop (handle : Nat)
  /-- Move a held handle into a table. -/
  | allocate (table handle : Nat)
  /-- Show what a descriptor refers to. -/
  | resolve (table : Nat) (fd : Register)
  /-- Read through a descriptor. -/
  | readFd (table : Nat) (fd : Register) (count : Nat)
  /-- Write through a descriptor. -/
  | writeFd (table : Nat) (fd : Register) (data : Bytes)
  /-- Move the handle behind a descriptor out of its table. -/
  | release (table : Nat) (fd : Register)
  /-- Close a descriptor. -/
  | close (table : Nat) (fd : Register)
  /-- Empty a table. -/
  | clear (table : Nat)
  /-- Show a table. -/
  | table (table : Nat)

/-- The answer to a file operation. -/
inductive FileAnswer where
  /-- Nothing to say. -/
  | done
  /-- A truth value. -/
  | flag (value : Bool)
  /-- Size and open handles, if the name is linked. -/
  | stat (stat : Option FileStat)
  /-- A handle was obtained, under a number. -/
  | obtained (handle : FileHandle) (number : Nat)
  /-- Bytes were read, and the cursor is here. -/
  | bytes (data : Bytes) (offset : Nat)
  /-- Bytes were written, and the cursor is here. -/
  | written (count offset : Nat)
  /-- A handle. -/
  | info (handle : FileHandle)
  /-- The descriptor that holds the handle now. -/
  | installed (fd : Fd)
  /-- What a descriptor refers to. -/
  | resolved (file : OpenFile)
  /-- The descriptor is a console stream. -/
  | console
  /-- The register names no descriptor. -/
  | noDescriptor
  /-- A table. -/
  | table (table : DescriptorTable)
  /-- The operation failed. -/
  | refused (error : SysError)
  /-- The session holds no handle of that number. -/
  | noHandle
  deriving DecidableEq

/-- A session on a file store. -/
structure FileSession where
  /-- The store. -/
  store : FileStore
  /-- The handles held, by number. -/
  handles : List (Nat × FileHandle)
  /-- The number of the next handle. -/
  nextHandle : Nat
  /-- The descriptor tables used so far, by number. -/
  tables : List (Nat × DescriptorTable)

namespace FileSession

/-- A session on an empty store. -/
def new (capacity : Nat) : FileSession := ⟨.empty capacity, [], 0, []⟩

/-- A descriptor table; a new one has the console streams only. -/
def table (session : FileSession) (n : Nat) : DescriptorTable :=
  (session.tables.lookup n).getD .new

/-- The session with a descriptor table changed. -/
def setTable (session : FileSession) (n : Nat) (table : DescriptorTable) : FileSession :=
  { session with tables := (n, table) :: session.tables.filter fun entry => entry.1 ≠ n }

/-- The session without a held handle. -/
def forget (session : FileSession) (n : Nat) : FileSession :=
  { session with handles := session.handles.filter fun entry => entry.1 ≠ n }

/-- The session with a held handle changed. -/
def setHandle (session : FileSession) (n : Nat) (handle : FileHandle) : FileSession :=
  { session with handles := (n, handle) :: (session.forget n).handles }

/-- Holds a handle under the next number. -/
def obtain (session : FileSession) (handle : FileHandle) : FileSession × FileAnswer :=
  ({ session with
      handles := (session.nextHandle, handle) :: session.handles
      nextHandle := session.nextHandle + 1 },
    .obtained handle session.nextHandle)

/-- Releases handles. -/
def releaseAll (session : FileSession) (handles : List FileHandle) : FileSession :=
  { session with store := (session.store.releaseAll handles).1 }

/-- Does something under a name, if it keeps the naming rules. -/
def withName (session : FileSession) (name : Bytes)
    (use : FileName → FileSession × FileAnswer) : FileSession × FileAnswer :=
  match FileName.ofBytes name with
  | .error error => (session, .refused error)
  | .ok name => use name

/-- Does something with a held handle. -/
def withHandle (session : FileSession) (n : Nat)
    (use : FileHandle → FileSession × FileAnswer) : FileSession × FileAnswer :=
  match session.handles.lookup n with
  | none => (session, .noHandle)
  | some handle => use handle

/-- Does something with a descriptor. -/
def withFd (session : FileSession) (raw : Register)
    (use : Fd → FileSession × FileAnswer) : FileSession × FileAnswer :=
  match Fd.ofRegister? raw with
  | none => (session, .noDescriptor)
  | some fd => use fd

/-- Does something with the handle behind a descriptor. -/
def withFile (session : FileSession) (n : Nat) (raw : Register)
    (use : Fd → FileHandle → FileSession × FileAnswer) : FileSession × FileAnswer :=
  session.withFd raw fun fd =>
    match (session.table n).resolve? fd with
    | none => (session, .refused .invalidDescriptor)
    | some (.file handle) => use fd handle
    | some _ => (session, .console)

/-- Takes the handle behind a descriptor out of its table. -/
def takeOut (session : FileSession) (n : Nat) (raw : Register)
    (use : FileSession → FileHandle → FileSession × FileAnswer) : FileSession × FileAnswer :=
  session.withFd raw fun fd =>
    match (session.table n).release fd with
    | none => (session, .refused .invalidDescriptor)
    | some (table, handle) => use (session.setTable n table) handle

/-- Opens a file that a store operation has found. -/
def opened (session : FileSession) : Option (FileStore × FileHandle) → FileSession × FileAnswer
  | none => (session, .refused .notFound)
  | some (store, handle) => { session with store }.obtain handle

/-- The session after an operation, and the answer. -/
def step (session : FileSession) : FileAction → FileSession × FileAnswer
  | .create name owner =>
    session.withName name fun name =>
      let (store, creation) := session.store.create name owner
      match creation.handle? with
      | none => ({ session with store }, .refused .tableFull)
      | some handle => { session with store }.obtain handle
  | .openLinked name owner =>
    session.withName name fun name => session.opened (session.store.openLinked name owner)
  | .unlink name =>
    session.withName name fun name =>
      match session.store.unlink name with
      | none => (session, .refused .notFound)
      | some (store, _) => ({ session with store }, .done)
  | .contains name =>
    session.withName name fun name => (session, .flag (session.store.contains name))
  | .stat name => session.withName name fun name => (session, .stat (session.store.stat? name))
  | .isEmpty => (session, .flag (session.store.size == 0))
  | .read n count =>
    session.withHandle n fun handle =>
      let (data, handle) := session.store.read handle count
      (session.setHandle n handle, .bytes data handle.offset)
  | .write n data =>
    session.withHandle n fun handle =>
      let (store, handle) := session.store.write handle data
      ({ session with store }.setHandle n handle, .written data.length handle.offset)
  | .info n => session.withHandle n fun handle => (session, .info handle)
  | .drop n =>
    session.withHandle n fun handle => ((session.forget n).releaseAll [handle], .done)
  | .allocate t n =>
    session.withHandle n fun handle =>
      match (session.table t).allocate handle with
      | none => ((session.forget n).releaseAll [handle], .refused .tableFull)
      | some (table, fd) => ((session.forget n).setTable t table, .installed fd)
  | .resolve t raw =>
    session.withFd raw fun fd =>
      match (session.table t).resolve? fd with
      | none => (session, .refused .invalidDescriptor)
      | some file => (session, .resolved file)
  | .readFd t raw count =>
    session.withFile t raw fun fd handle =>
      let (data, handle) := session.store.read handle count
      (session.setTable t ((session.table t).assign fd (some (.file handle))),
        .bytes data handle.offset)
  | .writeFd t raw data =>
    session.withFile t raw fun fd handle =>
      let (store, handle) := session.store.write handle data
      ({ session with store }.setTable t ((session.table t).assign fd (some (.file handle))),
        .written data.length handle.offset)
  | .release t raw => session.takeOut t raw fun session handle => session.obtain handle
  | .close t raw =>
    session.takeOut t raw fun session handle => (session.releaseAll [handle], .done)
  | .clear t =>
    ((session.releaseAll (session.table t).handles).setTable t .cleared, .done)
  | .table t => (session, .table (session.table t))

/-- The answers to the operations of a session, each with the number of live
entries after it. -/
def runAll (session : FileSession) : List FileAction → List (FileAnswer × Nat)
  | [] => []
  | action :: rest =>
    let (session, answer) := session.step action
    (answer, session.store.size) :: session.runAll rest

end FileSession

end SyscallKernel
