import SyscallKernel.Proofs.Kernel.Consistency
import SyscallKernel.Proofs.Strict.Files
import SyscallKernel.Proofs.Strict.Processes
import SyscallKernel.Kernel.Lifecycle

/-!
# The strict kernel

The operations of the two tables lifted to the kernel, and with them the start and the end of
processes, as a machine carries them out. They meet no hazard where the tables are in order
and the store accounts for the handles of the process that takes part.
-/

namespace SyscallKernel.Kernel

variable {σ : Type} {kernel : Kernel}

/-! ### The tables -/

/-- Creates or empties a file and opens it for `owner`. -/
def strictCreateFile (kernel : Kernel) (name : FileName) (owner : Pid) :
    Strict (Reaction (Except SysError FileHandle)) := do
  let (files, creation) ← kernel.files.strictCreate name owner
  return {
    kernel := { kernel with files }
    effects := [.note (.ofCreation name creation)]
    value := creation.handle?.elim (.error .tableFull) .ok }

/-- Opens a linked file for `owner`. -/
def strictOpenFile (kernel : Kernel) (name : FileName) (owner : Pid) :
    Strict (Reaction (Except SysError FileHandle)) := do
  match ← kernel.files.strictOpen name owner with
  | none => return kernel.answer (.error .notFound)
  | some (files, handle) => return { kernel with files }.answer (.ok handle)

/-- Removes a file name. -/
def strictUnlinkFile (kernel : Kernel) (name : FileName) :
    Strict (Reaction (Except SysError Unit)) := do
  match ← kernel.files.strictUnlink name with
  | none => return kernel.answer (.error .notFound)
  | some (files, unlinking) =>
    return {
      kernel := { kernel with files }
      effects := [.note (.ofUnlinking name unlinking)]
      value := .ok () }

/-- Releases handles, in order. -/
def strictReleaseHandles (kernel : Kernel) (handles : List FileHandle) :
    Strict (Reaction Unit) := do
  let (files, releases) ← kernel.files.strictReleaseAll handles
  return {
    kernel := { kernel with files }
    effects := (releases.filterMap Notice.ofRelease?).map .note
    value := () }

/-- Registers a process. -/
def strictRegisterProcess (kernel : Kernel) (parent : Option Pid) :
    Strict (Reaction (Except SysError Pid)) := do
  match ← kernel.processes.strictRegister parent with
  | .error error => return kernel.answer (.error error)
  | .ok (processes, pid) =>
    return {
      kernel := { kernel with processes }
      effects := [.note (.registered pid parent)]
      value := .ok pid }

/-- Records that a process terminated. -/
def strictRecordTermination (kernel : Kernel) (pid : Pid) (how : Termination) :
    Strict (Reaction (Option TerminationNews)) := do
  match ← kernel.processes.strictTerminate pid how with
  | none => return kernel.answer none
  | some (processes, news) =>
    return {
      kernel := { kernel with processes }
      effects := [.note (.terminated pid how)]
      value := some news }

/-- Tries to reap a child. -/
def strictPollJoin (kernel : Kernel) (caller child : Pid) :
    Strict (Reaction (Except SysError JoinPoll)) := do
  match ← kernel.processes.strictPollJoin caller child with
  | .error error => return kernel.answer (.error error)
  | .ok (processes, .pending) => return { kernel with processes }.answer (.ok .pending)
  | .ok (processes, .ready how) =>
    return {
      kernel := { kernel with processes }
      effects := [.note (.reaped caller child)]
      value := .ok (.ready how) }

theorem strictReleaseHandles_eq (files : kernel.files.WellFormed) {handles : List FileHandle}
    {held : List (FileId × Nat)}
    (accounts : kernel.files.Accounts (handles.map FileHandle.link ++ held)) :
    kernel.strictReleaseHandles handles = .ok (kernel.releaseHandles handles) := by
  rw [strictReleaseHandles, FileStore.strictReleaseAll_eq files accounts]
  rfl

theorem strictCreateFile_eq (files : kernel.files.WellFormed)
    (word : kernel.files.capacity < 2 ^ 64) {name : FileName}
    (few : ∀ id entry, kernel.files.linked? name = some (id, entry) →
      entry.openCount + 1 < wordCount) (owner : Pid) :
    kernel.strictCreateFile name owner = .ok (kernel.createFile name owner) := by
  rw [strictCreateFile, createFile, FileStore.strictCreate_eq files word few]
  rfl

theorem strictOpenFile_eq (files : kernel.files.WellFormed) {name : FileName}
    (few : ∀ id entry, kernel.files.linked? name = some (id, entry) →
      entry.openCount + 1 < wordCount) (owner : Pid) :
    kernel.strictOpenFile name owner = .ok (kernel.openFile name owner) := by
  rw [strictOpenFile, openFile, FileStore.strictOpen_eq files few, Strict.ok_bind]
  cases kernel.files.openLinked name owner <;> rfl

theorem strictUnlinkFile_eq (files : kernel.files.WellFormed) (name : FileName) :
    kernel.strictUnlinkFile name = .ok (kernel.unlinkFile name) := by
  rw [strictUnlinkFile, unlinkFile, FileStore.strictUnlink_eq files, Strict.ok_bind]
  cases kernel.files.unlink name <;> rfl

theorem strictRegisterProcess_eq (kernel : Kernel) (parent : Option Pid) :
    kernel.strictRegisterProcess parent = .ok (kernel.registerProcess parent) := by
  rw [strictRegisterProcess, registerProcess, ProcessTable.strictRegister_eq, Strict.ok_bind]
  cases kernel.processes.register parent <;> rfl

theorem strictRecordTermination_eq (table : kernel.processes.WellFormed) (pid : Pid)
    (how : Termination) :
    kernel.strictRecordTermination pid how = .ok (kernel.recordTermination pid how) := by
  rw [strictRecordTermination, recordTermination, ProcessTable.strictTerminate_eq table,
    Strict.ok_bind]
  cases kernel.processes.terminate pid how <;> rfl

theorem strictPollJoin_eq (table : kernel.processes.WellFormed) (caller child : Pid) :
    kernel.strictPollJoin caller child = .ok (kernel.pollJoin caller child) := by
  rw [strictPollJoin, pollJoin, ProcessTable.strictPollJoin_eq table, Strict.ok_bind]
  cases kernel.processes.pollJoin caller child with
  | error error => rfl
  | ok result =>
    obtain ⟨processes, poll⟩ := result
    cases poll <;> rfl

/-! ### Starting and ending processes -/

/-- Tears a process down, unless that happened before. -/
def strictTerminate (kernel : Kernel) (process : UserProcess σ) (how : Termination) :
    Strict (Reaction (UserProcess σ)) :=
  if process.terminated then .ok (kernel.answer process)
  else do
    let ended := { process with terminated := true, files := .cleared }
    let released ← kernel.strictReleaseHandles process.files.handles
    let recorded ← released.kernel.strictRecordTermination process.pid how
    match recorded.value with
    | none => return ⟨recorded.kernel, released.effects ++ recorded.effects, ended⟩
    | some news =>
      let wakes := news.waiter.toList.map Effect.wake
      let last := recorded.kernel.haltIfLast news
      return ⟨last.kernel, released.effects ++ recorded.effects ++ wakes ++ last.effects, ended⟩

/-- Lets a new process do what it does first. -/
def strictBegin (kernel : Kernel) (process : UserProcess σ) :
    Start → Strict (Reaction (UserProcess σ))
  | .park => .ok (kernel.answer process)
  | .exit status => kernel.strictTerminate process (.exited status)
  | .abort fault => do
    let ended ← kernel.strictTerminate process .killed
    return { ended with effects := .note (.killed process.pid fault) :: ended.effects }

/-- Loads a program and starts it as a child of `parent`. -/
def strictSpawn (engine : Engine σ) (kernel : Kernel) (parent : Option Pid)
    (image : ProgramImage) : Strict (Reaction (Except SysError (UserProcess σ))) :=
  if kernel.isHalted then .ok (kernel.answer (.error .shuttingDown))
  else
    match engine.load image with
    | .error error => .ok (kernel.answer (.error error))
    | .ok memory => do
      let registered ← kernel.strictRegisterProcess parent
      match registered.value with
      | .error error => return ⟨registered.kernel, registered.effects, .error error⟩
      | .ok pid =>
        let spawned := Effect.note (.spawned image.name pid parent image.args.length)
        let begun ← registered.kernel.strictBegin (.fresh pid memory) (engine.start image)
        return {
          kernel := begun.kernel
          effects := registered.effects ++ [spawned, .started pid image] ++ begun.effects
          value := .ok begun.value }

variable {process : UserProcess σ} {held : List (FileId × Nat)}

/-- Ending a process whose handles the store accounts for. -/
theorem strictTerminate_eq (files : kernel.files.WellFormed) (table : kernel.processes.WellFormed)
    (accounts : kernel.files.Accounts (process.files.handles.map FileHandle.link ++ held))
    (how : Termination) :
    kernel.strictTerminate process how = .ok (kernel.terminate process how) := by
  have same : (kernel.releaseHandles process.files.handles).kernel.processes.WellFormed := table
  rw [strictTerminate, terminate, strictReleaseHandles_eq files accounts]
  simp only [Strict.ok_bind, strictRecordTermination_eq same]
  split
  · rfl
  · cases ((kernel.releaseHandles process.files.handles).kernel.recordTermination
      process.pid how).value <;> rfl

theorem strictBegin_eq (files : kernel.files.WellFormed) (table : kernel.processes.WellFormed)
    (accounts : kernel.files.Accounts (process.files.handles.map FileHandle.link ++ held))
    (start : Start) : kernel.strictBegin process start = .ok (kernel.begin process start) := by
  cases start with
  | park => rfl
  | exit status => exact strictTerminate_eq files table accounts _
  | abort fault =>
    rw [strictBegin, strictTerminate_eq files table accounts]
    rfl

/-- Starting a process, which has no handle yet. -/
theorem strictSpawn_eq (engine : Engine σ) (files : kernel.files.WellFormed)
    (table : kernel.processes.WellFormed) (accounts : kernel.files.Accounts held)
    (parent : Option Pid) (image : ProgramImage) :
    kernel.strictSpawn engine parent image = .ok (kernel.spawn engine parent image) := by
  rw [strictSpawn, spawn]
  split
  · rfl
  · cases engine.load image with
    | error error => rfl
    | ok memory =>
      simp only [strictRegisterProcess_eq, Strict.ok_bind, registerProcess]
      cases registered : kernel.processes.register parent with
      | error error => rfl
      | ok result =>
        obtain ⟨processes, pid⟩ := result
        have table' := (ProcessTable.registration_of_register registered).wellFormed table
        have none : (UserProcess.fresh pid memory).files.handles = [] := DescriptorTable.handles_new
        have begun := @strictBegin_eq _ { kernel with processes } (.fresh pid memory) held files
          table' (none ▸ accounts) (engine.start image)
        simp only [begun, Strict.ok_bind]
        rfl

end SyscallKernel.Kernel
