import SyscallKernel.Proofs.Kernel.Consoles
import SyscallKernel.Proofs.Strict.Arguments
import SyscallKernel.Proofs.Strict.Kernel
import SyscallKernel.Proofs.Strict.Transfers

/-!
# Strict calls

The services behind the calls, and the turns of a call, as a machine carries them out on any
console. A call relies on five things: that the tables are in order, that the store accounts for
the handles of its caller, that no cursor and no file is near the last word, that what was checked
of its request stays so, and that the console moves at most the length it is given. Together they
keep every hazard away.
-/

namespace SyscallKernel

variable {σ δ : Type} [Console δ]

namespace Service

/-- Installs a handle for the caller. A descriptor has to be free. -/
def strictInstall (step : Step σ (Except SysError FileHandle)) :
    Strict (Step σ (Except SysError Fd)) :=
  match step.value with
  | .error error => .ok { step with value := .error error }
  | .ok handle =>
    match step.caller.files.allocate handle with
    | some (files, fd) => .ok { step with caller := { step.caller with files }, value := .ok fd }
    | none => .error .disorder

/-- Creates a file and opens it on the lowest free descriptor. -/
def strictCreate (kernel : Kernel) (caller : UserProcess σ) (name : FileName) :
    Strict (Step σ Outcome) := do
  let created ← kernel.strictCreateFile name caller.pid
  let step ← strictInstall (created.toStep caller)
  match step.value with
  | .error error => return { step with value := .failed error }
  | .ok fd =>
    return { step with
      effects := step.effects ++ [.note (.descriptorCreated caller.pid name fd)]
      value := .answered (Fd.toRegister fd) }

/-- Opens a file on the lowest free descriptor. -/
def strictOpenFile (kernel : Kernel) (caller : UserProcess σ) (name : FileName) :
    Strict (Step σ Outcome) := do
  let opened ← kernel.strictOpenFile name caller.pid
  let step ← strictInstall (opened.toStep caller)
  match step.value with
  | .error error => return { step with value := .failed error }
  | .ok fd => return { step with value := .answered (Fd.toRegister fd) }

/-- Closes a descriptor and releases its handle. -/
def strictClose (kernel : Kernel) (caller : UserProcess σ) (fd : Fd) : Strict (Step σ Outcome) :=
  match caller.files.release fd with
  | none => .ok (.still kernel caller (.failed .invalidDescriptor))
  | some (files, handle) => do
    let released ← kernel.strictReleaseHandles [handle]
    return ⟨released.kernel, { caller with files }, released.effects, none, .answered 0⟩

/-- Removes a file name. -/
def strictUnlink (kernel : Kernel) (caller : UserProcess σ) (name : FileName) :
    Strict (Step σ Outcome) := do
  let removed ← kernel.strictUnlinkFile name
  match removed.value with
  | .error error => return { removed.toStep caller with value := .failed error }
  | .ok () => return { removed.toStep caller with value := .answered 0 }

/-- Starts a program as a child of the caller. -/
def strictExec (engine : Engine σ) (kernel : Kernel) (caller : UserProcess σ)
    (image : ProgramImage) : Strict (Step σ Outcome) := do
  let spawned ← kernel.strictSpawn engine (some caller.pid) image
  match spawned.value with
  | .error error => return { spawned.toStep caller with value := .failed error }
  | .ok child =>
    return { spawned.toStep caller with
      child := some child
      value := .answered child.pid.toRegister }

/-- Reads from an open file into user memory, on any console. -/
def strictRead (console : δ) (kernel : Kernel) (caller : UserProcess PagedMemory) (fd : Fd)
    (file : OpenFile) (buffer : UserAddr) (count : Nat) :
    Strict (Step PagedMemory Outcome × δ) := do
  let (t, result) ← Transfer.strictReadInto ⟨kernel.files, console, file, caller.memory⟩ buffer
    count
  return (settle kernel caller fd (t.withConsole kernel.console, result), t.console)

/-- Writes user memory to an open file, on any console. -/
def strictWrite (console : δ) (kernel : Kernel) (caller : UserProcess PagedMemory) (fd : Fd)
    (file : OpenFile) (buffer : UserAddr) (count : Nat) :
    Strict (Step PagedMemory Outcome × δ) := do
  let (t, result) ← Transfer.strictWriteFrom ⟨kernel.files, console, file, caller.memory⟩ buffer
    count
  return (settle kernel caller fd (t.withConsole kernel.console, result), t.console)

/-- Hands the status of a reaped child to the caller. The place for it has to take it. -/
def strictDeliver (step : Step PagedMemory (Except SysError JoinPoll)) (status : Option UserAddr)
    (how : Termination) : Strict (Step PagedMemory Outcome) :=
  match how, status with
  | .killed, _ => .ok { step with value := .answered 0 }
  | .exited _, none => .ok { step with value := .answered 1 }
  | .exited code, some addr => do
    match ← step.caller.memory.strictWrite addr (Bytes.ofWord code.toUInt32) with
    | .error _ => throw .disorder
    | .ok memory =>
      return { step with caller := { step.caller with memory }, value := .answered 1 }

/-- Asks for a child once. -/
def strictJoin (kernel : Kernel) (caller : UserProcess PagedMemory) (pending : PendingJoin) :
    Strict (Step PagedMemory Outcome) := do
  let polled ← kernel.strictPollJoin caller.pid pending.child
  match polled.value with
  | .error error => return { polled.toStep caller with value := .failed error }
  | .ok .pending => return { polled.toStep caller with value := .waiting pending }
  | .ok (.ready how) => strictDeliver (polled.toStep caller) pending.status how

/-- Ends the caller. -/
def strictExit (kernel : Kernel) (caller : UserProcess σ) (status : Register) :
    Strict (Turn σ) := do
  let ended ← kernel.strictTerminate caller (.exited status)
  return { ended.toStep ended.value with value := .finished .exited }

end Service

/-- Performs a checked request on any console. Halting the machine meets no hazard at all. -/
def Request.strictPerform (console : δ) (engine : Engine PagedMemory) (kernel : Kernel)
    (caller : UserProcess PagedMemory) (number : Nat) : Request → Strict (Turn PagedMemory × δ)
  | .halt => .ok (Service.halt kernel caller, console)
  | .exit status => (Service.strictExit kernel caller status).map (·, console)
  | .exec image =>
    (Service.strictExec engine kernel caller image).map fun step => (step.conclude number, console)
  | .join child status =>
    (Service.strictJoin kernel caller ⟨child, status⟩).map fun step =>
      (step.conclude number, console)
  | .create name =>
    (Service.strictCreate kernel caller name).map fun step => (step.conclude number, console)
  | .openFile name =>
    (Service.strictOpenFile kernel caller name).map fun step => (step.conclude number, console)
  | .read fd file buffer count =>
    (Service.strictRead console kernel caller fd file buffer count).map fun (step, console) =>
      (step.conclude number, console)
  | .write fd file buffer count =>
    (Service.strictWrite console kernel caller fd file buffer count).map fun (step, console) =>
      (step.conclude number, console)
  | .close fd =>
    (Service.strictClose kernel caller fd).map fun step => (step.conclude number, console)
  | .unlink name =>
    (Service.strictUnlink kernel caller name).map fun step => (step.conclude number, console)

namespace Kernel

/-- The first turn of a call by a process that still runs, on a machine that has not halted. -/
def strictCall (console : δ) (engine : Engine PagedMemory) (kernel : Kernel)
    (caller : UserProcess PagedMemory) (number : Nat) (args : Registers) :
    Strict (Turn PagedMemory × δ) :=
  match Syscall.ofNumber? number with
  | none =>
    .ok (((Step.still kernel caller (Outcome.failed .notSupported)).conclude number).after
      [.note (.unknownCall caller.pid number)], console)
  | some call => do
    match ← Request.strictOfCall kernel.config caller args call with
    | .error error =>
      return ((Step.still kernel caller (Outcome.failed error)).conclude number, console)
    | .ok request => request.strictPerform console engine kernel caller number

/-- The first turn of a call on any console, and the console afterwards. -/
def strictDispatch (console : δ) (engine : Engine PagedMemory) (kernel : Kernel)
    (caller : UserProcess PagedMemory) (number : Nat) (args : Registers) :
    Strict (Turn PagedMemory × δ) :=
  if kernel.isHalted then .ok (.still kernel caller (.finished .halted), console)
  else if caller.terminated then
    .ok ((Step.still kernel caller (.finished (.returned SysError.sentinel))).after
      [.note (.calledAfterEnd caller.pid number)], console)
  else
    (kernel.strictCall console engine caller number args).map fun (turn, console) =>
      (turn.after [.note (.called caller.pid number args)], console)

/-- A later turn of a suspended join. -/
def strictResume (kernel : Kernel) (caller : UserProcess PagedMemory) (pending : PendingJoin) :
    Strict (Turn PagedMemory) :=
  (Service.strictJoin kernel caller pending).map (·.conclude Syscall.join.number)

/-- What a call relies on. -/
structure InOrder (kernel : Kernel) (caller : UserProcess σ) (rest : List (FileId × Nat)) :
    Prop where
  /-- The file store is well formed. -/
  files : kernel.files.WellFormed
  /-- It accounts for the handles of the caller, among others. -/
  accounts : kernel.files.Accounts (caller.files.handles.map FileHandle.link ++ rest)
  /-- The process table is well formed. -/
  table : kernel.processes.WellFormed
  /-- The capacity of the store is a word. -/
  word : kernel.files.capacity < 2 ^ 64
  /-- No file is longer than half a word. -/
  short : ∀ data, (kernel.files.contents data).length < 2 ^ 63
  /-- No cursor of the caller is behind half a word. -/
  near : ∀ handle ∈ caller.files.handles, handle.offset < 2 ^ 63

end Kernel

/-! ### Services meet no hazard -/

namespace Service

variable {kernel : Kernel} {rest : List (FileId × Nat)} {caller : UserProcess σ}

theorem strictInstall_eq {step : Step σ (Except SysError FileHandle)}
    (free : step.caller.files.hasFree = true) : strictInstall step = .ok (install step) := by
  rw [strictInstall, install]
  cases step.value with
  | error error => rfl
  | ok handle =>
    obtain ⟨files, fd, installed, -⟩ := DescriptorTable.exists_allocate_of_hasFree free handle
    simp only [installed]

/-- A handle that is installed is one handle more. -/
theorem length_handles_install {step : Step σ (Except SysError FileHandle)} {handle : FileHandle}
    (obtained : step.value = .ok handle) (free : step.caller.files.hasFree = true) :
    (install step).caller.files.handles.length = step.caller.files.handles.length + 1 := by
  obtain ⟨files, fd, installed, -⟩ := DescriptorTable.exists_allocate_of_hasFree free handle
  simp only [install, obtained, installed]
  exact (DescriptorTable.handles_allocate installed).length_eq

/-- Creating a linked file gives its caller one handle more. -/
theorem length_handles_create {name : FileName} {link : FileId × FileEntry}
    (linked : kernel.files.linked? name = some link) (free : caller.files.hasFree = true) :
    (create kernel caller name).caller.files.handles.length = caller.files.handles.length + 1 := by
  have obtained : ((kernel.createFile name caller.pid).toStep caller).value =
      .ok (.atStart link.1 link.2.data caller.pid) := by
    simp only [Reaction.toStep, Kernel.createFile, FileStore.create, linked]
    rfl
  refine Eq.trans ?_ (length_handles_install obtained free)
  unfold create
  simp only
  split <;> rfl

/-- So does opening one. -/
theorem length_handles_openFile {name : FileName} {link : FileId × FileEntry}
    (linked : kernel.files.linked? name = some link) (free : caller.files.hasFree = true) :
    (openFile kernel caller name).caller.files.handles.length =
      caller.files.handles.length + 1 := by
  have obtained : ((kernel.openFile name caller.pid).toStep caller).value =
      .ok (.atStart link.1 link.2.data caller.pid) := by
    simp only [Reaction.toStep, Kernel.openFile, FileStore.openLinked, linked]
    rfl
  refine Eq.trans ?_ (length_handles_install obtained free)
  unfold openFile
  simp only
  split <;> rfl

/-- An entry counts at most the handles that are held. -/
theorem openCount_le (inOrder : kernel.InOrder caller rest) {name : FileName} {id : FileId}
    {entry : FileEntry} (linked : kernel.files.linked? name = some (id, entry)) :
    entry.openCount ≤ caller.files.handles.length + rest.length := by
  have live := (inOrder.files.linked?_eq_some_iff.1 linked).1
  rw [← FileStore.openCountOf_of_live live, inOrder.accounts.count_eq id,
    ← List.length_map FileHandle.link, ← List.length_append, ← List.length_map Prod.fst]
  exact List.count_le_length

theorem strictCreate_eq (inOrder : kernel.InOrder caller rest) {name : FileName}
    (free : caller.files.hasFree = true)
    (few : (create kernel caller name).caller.files.handles.length + rest.length < wordCount) :
    strictCreate kernel caller name = .ok (create kernel caller name) := by
  have counted : ∀ id entry, kernel.files.linked? name = some (id, entry) →
      entry.openCount + 1 < wordCount := by
    intro id entry linked
    have bound := openCount_le inOrder linked
    have more := length_handles_create linked free
    omega
  rw [strictCreate, create, Kernel.strictCreateFile_eq inOrder.files inOrder.word counted]
  have installed := @strictInstall_eq _ ((kernel.createFile name caller.pid).toStep caller) free
  simp only [Strict.ok_bind, installed]
  cases (install ((kernel.createFile name caller.pid).toStep caller)).value <;> rfl

theorem strictOpenFile_eq (inOrder : kernel.InOrder caller rest) {name : FileName}
    (free : caller.files.hasFree = true)
    (few : (openFile kernel caller name).caller.files.handles.length + rest.length < wordCount) :
    strictOpenFile kernel caller name = .ok (openFile kernel caller name) := by
  have counted : ∀ id entry, kernel.files.linked? name = some (id, entry) →
      entry.openCount + 1 < wordCount := by
    intro id entry linked
    have bound := openCount_le inOrder linked
    have more := length_handles_openFile linked free
    omega
  rw [strictOpenFile, openFile, Kernel.strictOpenFile_eq inOrder.files counted]
  have installed := @strictInstall_eq _ ((kernel.openFile name caller.pid).toStep caller) free
  simp only [Strict.ok_bind, installed]
  cases (install ((kernel.openFile name caller.pid).toStep caller)).value <;> rfl

theorem strictClose_eq (inOrder : kernel.InOrder caller rest) (fd : Fd) :
    strictClose kernel caller fd = .ok (close kernel caller fd) := by
  rw [strictClose, close]
  cases released : caller.files.release fd with
  | none => rfl
  | some result =>
    obtain ⟨files, handle⟩ := result
    have handles := DescriptorTable.handles_release released
    have counted : kernel.files.Accounts ([handle].map FileHandle.link ++
        (files.handles.map FileHandle.link ++ rest)) :=
      inOrder.accounts.perm ((handles.map FileHandle.link).append_right rest)
    simp only [Kernel.strictReleaseHandles_eq inOrder.files counted, Strict.ok_bind]
    rfl

theorem strictUnlink_eq (inOrder : kernel.InOrder caller rest) (name : FileName) :
    strictUnlink kernel caller name = .ok (unlink kernel caller name) := by
  rw [strictUnlink, unlink, Kernel.strictUnlinkFile_eq inOrder.files, Strict.ok_bind]
  cases (kernel.unlinkFile name).value <;> rfl

theorem strictExec_eq (engine : Engine σ) (inOrder : kernel.InOrder caller rest)
    (image : ProgramImage) :
    strictExec engine kernel caller image = .ok (exec engine kernel caller image) := by
  rw [strictExec, exec, Kernel.strictSpawn_eq engine inOrder.files inOrder.table inOrder.accounts,
    Strict.ok_bind]
  cases (kernel.spawn engine (some caller.pid) image).value <;> rfl

theorem strictExit_eq (inOrder : kernel.InOrder caller rest) (status : Register) :
    strictExit kernel caller status = .ok (exit kernel caller status) := by
  rw [strictExit, Kernel.strictTerminate_eq inOrder.files inOrder.table inOrder.accounts]
  rfl

end Service

/-! ### Calls with paged memory meet no hazard -/

variable {kernel : Kernel} {rest : List (FileId × Nat)} {caller : UserProcess PagedMemory}

omit [Console δ] in
/-- The cursor behind a descriptor is near. -/
theorem Kernel.InOrder.near_file (inOrder : kernel.InOrder caller rest) {fd : Fd}
    {file : OpenFile} (found : caller.files.resolve? fd = some file) {count : Nat}
    (low : count < 2 ^ 31) (console : δ) :
    Transfer.Near ⟨kernel.files, console, file, caller.memory⟩ count := by
  intro handle isFile
  simp only at isFile
  have offset := inOrder.near handle (DescriptorTable.mem_handles_of_resolve? (isFile ▸ found))
  omega

/-- Every handle of the caller shares contents that are there. -/
theorem Kernel.InOrder.serves (inOrder : kernel.InOrder caller rest) : kernel.Serves caller := by
  intro handle held
  obtain ⟨entry, live, same, -⟩ :=
    inOrder.accounts.live (List.mem_append_left _ (List.mem_map_of_mem held))
  have shared : entry.data = handle.data := same
  exact shared ▸ inOrder.files.data_lt live

namespace Service

theorem strictRead_eq [LawfulConsole δ] (console : δ) (inOrder : kernel.InOrder caller rest)
    {fd : Fd} {file : OpenFile} {buffer : UserAddr} {count : Nat}
    (found : caller.files.resolve? fd = some file)
    (low : buffer.value < 2 ^ 31 ∧ count < 2 ^ 31)
    (writable : count ≠ 0 → caller.memory.checkRange buffer count .write = .ok ()) :
    strictRead console kernel caller fd file buffer count =
      .ok (readOn console kernel caller fd file buffer count) := by
  have reads : Transfer.Reads buffer count ⟨kernel.files, console, file, caller.memory⟩ 0 :=
    { sound := inOrder.serves.sound found console
      short := inOrder.short
      near := inOrder.near_file found low.2 console
      allowed := PagedMemory.allowsPart_of_checkRange writable }
  rw [strictRead, Transfer.strictReadInto_eq (by omega) reads]
  rfl

theorem strictWrite_eq [LawfulConsole δ] (console : δ) (inOrder : kernel.InOrder caller rest)
    {fd : Fd} {file : OpenFile} {buffer : UserAddr} {count : Nat}
    (found : caller.files.resolve? fd = some file)
    (low : buffer.value < 2 ^ 31 ∧ count < 2 ^ 31)
    (readable : count ≠ 0 → caller.memory.checkRange buffer count .read = .ok ()) :
    strictWrite console kernel caller fd file buffer count =
      .ok (writeOn console kernel caller fd file buffer count) := by
  have writes : Transfer.Writes buffer count ⟨kernel.files, console, file, caller.memory⟩ 0 :=
    { sound := inOrder.serves.sound found console
      near := inOrder.near_file found low.2 console
      allowed := PagedMemory.allowsPart_of_checkRange readable }
  rw [strictWrite, Transfer.strictWriteFrom_eq (by omega) writes]
  rfl

/-- A status is handed over at a low place that takes it. -/
theorem strictJoin_eq (table : kernel.processes.WellFormed) {pending : PendingJoin}
    (low : ∀ place, pending.status = some place → place.value < 2 ^ 31)
    (writable : ∀ place, pending.status = some place →
      caller.memory.checkRange place 4 .write = .ok ()) :
    strictJoin kernel caller pending = .ok (join kernel caller pending) := by
  rw [strictJoin, join, Kernel.strictPollJoin_eq table, Strict.ok_bind]
  simp only [Reaction.toStep]
  cases (kernel.pollJoin caller.pid pending.child).value with
  | error error => rfl
  | ok poll =>
    cases poll with
    | pending => rfl
    | ready how =>
      cases how with
      | killed => rfl
      | exited code =>
        cases place : pending.status with
        | none => rfl
        | some addr =>
          have bound := low addr place
          have taken : caller.memory.writeBytes addr (Bytes.ofWord code.toUInt32) =
              .ok (caller.memory.store addr (Bytes.ofWord code.toUInt32)) := by
            rw [PagedMemory.writeBytes, Bytes.length_ofWord, writable addr place]
          have strict : caller.memory.strictWrite addr (Bytes.ofWord code.toUInt32) = _ :=
            caller.memory.strictWrite_eq (by rw [Bytes.length_ofWord]; omega)
          simp only [strictDeliver, strict, taken, Strict.ok_bind, deliver,
            AddressSpace.writeWord, AddressSpace.writeBytes]
          rfl

end Service

/-- A checked request, if the handles that are open afterwards can be counted. -/
theorem Request.strictPerform_eq [LawfulConsole δ] (console : δ) (engine : Engine PagedMemory)
    (inOrder : kernel.InOrder caller rest) {args : Registers} {call : Syscall} {request : Request}
    (formed : ofCall kernel.config caller args call = .ok request) (number : Nat)
    (few : (request.performOn console engine kernel caller number).1.caller.files.handles.length +
      rest.length < wordCount) :
    request.strictPerform console engine kernel caller number =
      .ok (request.performOn console engine kernel caller number) := by
  have fits := fits_ofCall formed
  have low := low_ofCall formed
  have same : ∀ step : Step PagedMemory Outcome, (step.conclude number).caller = step.caller :=
    fun step => (step.same_conclude number).2.1
  cases checked_ofCall formed with
  | halt => rfl
  | exit status =>
    rw [strictPerform, Service.strictExit_eq inOrder]
    rfl
  | exec image =>
    rw [strictPerform, Service.strictExec_eq engine inOrder]
    rfl
  | join child status writable =>
    have joined : Service.strictJoin kernel caller ⟨child, status⟩ = _ :=
      Service.strictJoin_eq inOrder.table low writable
    rw [strictPerform, joined]
    rfl
  | create name free =>
    simp only [performOn, perform, same] at few
    rw [strictPerform, Service.strictCreate_eq inOrder free few]
    rfl
  | openFile name free =>
    simp only [performOn, perform, same] at few
    rw [strictPerform, Service.strictOpenFile_eq inOrder free few]
    rfl
  | read fd file buffer count held writable =>
    rw [strictPerform, Service.strictRead_eq console inOrder fits low writable]
    rfl
  | write fd file buffer count held readable =>
    rw [strictPerform, Service.strictWrite_eq console inOrder fits low readable]
    rfl
  | close fd =>
    rw [strictPerform, Service.strictClose_eq inOrder]
    rfl
  | unlink name =>
    rw [strictPerform, Service.strictUnlink_eq inOrder]
    rfl

namespace Kernel

/-- A call that is refused at once. -/
theorem strictDispatch_of_none (console : δ) (engine : Engine PagedMemory) {number : Nat}
    {args : Registers} (refused : kernel.request? caller number args = none) :
    kernel.strictDispatch console engine caller number args =
      .ok (kernel.dispatch engine caller number args, console) := by
  unfold strictDispatch dispatch
  split
  · rfl
  · rename_i up
    split
    · rfl
    · rename_i live
      unfold strictCall call
      cases known : Syscall.ofNumber? number with
      | none => rfl
      | some call =>
        simp only [Request.strictOfCall_eq, Strict.ok_bind]
        cases formed : Request.ofCall kernel.config caller args call with
        | error error => rfl
        | ok request =>
          have heard := request?_eq_some_iff.2
            ⟨Bool.eq_false_iff.2 up, Bool.eq_false_iff.2 live, call, known, formed⟩
          rw [refused] at heard
          cases heard

/-- The first turn of any call, with any registers, on any console that moves at most the length
it is given, if the handles that are open afterwards can be counted. -/
theorem strictDispatch_eq [LawfulConsole δ] (console : δ) (engine : Engine PagedMemory)
    (inOrder : kernel.InOrder caller rest) (number : Nat) (args : Registers)
    (few : (kernel.dispatchOn console engine caller number args).1.caller.files.handles.length +
      rest.length < wordCount) :
    kernel.strictDispatch console engine caller number args =
      .ok (kernel.dispatchOn console engine caller number args) := by
  unfold dispatchOn at few ⊢
  cases heard : kernel.request? caller number args with
  | none => exact strictDispatch_of_none console engine heard
  | some request =>
    rw [heard] at few
    obtain ⟨up, live, call, known, formed⟩ := request?_eq_some_iff.1 heard
    have performed : request.strictPerform console engine kernel caller number = _ :=
      Request.strictPerform_eq console engine inOrder formed number few
    rw [strictDispatch, up, live, if_neg Bool.false_ne_true, if_neg Bool.false_ne_true, strictCall,
      known]
    simp only [Request.strictOfCall_eq, Strict.ok_bind, formed, performed]
    rfl

/-- A later turn of a join whose status has a low place that takes it. -/
theorem strictResume_eq (table : kernel.processes.WellFormed) {pending : PendingJoin}
    (low : ∀ place, pending.status = some place → place.value < 2 ^ 31)
    (writable : ∀ place, pending.status = some place →
      caller.memory.checkRange place 4 .write = .ok ()) :
    kernel.strictResume caller pending = .ok (kernel.resume caller pending) := by
  rw [strictResume, Service.strictJoin_eq table low writable]
  rfl

end Kernel

end SyscallKernel
