import SyscallKernel.Proofs.Kernel.Calls

/-!
# The console descriptors

As long as a process lives, its descriptors 0 and 1 refer to the console. Nothing else is
ever put in their place: new handles go elsewhere, the console slots are not released, and
a transfer through one of them has no cursor to move.
-/

namespace SyscallKernel

variable {σ α : Type}

namespace DescriptorTable

variable {table table' : DescriptorTable} {fd : Fd} {handle : FileHandle}

/-- The console slots of a table refer to the console. -/
structure IsWired (table : DescriptorTable) : Prop where
  /-- Descriptor 0 is the input. -/
  stdin : table.resolve? Fd.stdin = some .stdin
  /-- Descriptor 1 is the output. -/
  stdout : table.resolve? Fd.stdout = some .stdout

theorem isWired_new : new.IsWired := ⟨by decide, by decide⟩

/-- Assigning another slot leaves the console slots alone. -/
theorem IsWired.assign (wired : table.IsWired) (user : fd.isReserved = false)
    (file : Option OpenFile) : (table.assign fd file).IsWired := by
  have notStdin : fd ≠ Fd.stdin := by
    rintro rfl
    cases user
  have notStdout : fd ≠ Fd.stdout := by
    rintro rfl
    cases user
  constructor
  · rw [resolve?_assign, if_neg notStdin, wired.stdin]
  · rw [resolve?_assign, if_neg notStdout, wired.stdout]

theorem IsWired.allocate (wired : table.IsWired)
    (installed : table.allocate handle = some (table', fd)) : table'.IsWired := by
  obtain ⟨lowest, rfl⟩ := allocate_eq_some_iff.1 installed
  exact wired.assign (resolve?_of_lowestFree? lowest).1 _

theorem IsWired.release (wired : table.IsWired)
    (released : table.release fd = some (table', handle)) : table'.IsWired := by
  obtain ⟨user, -, rfl⟩ := release_eq_some_iff.1 released
  exact wired.assign user none

/-- A file that is moved goes back into its slot, and a console slot holds no file. -/
theorem IsWired.assign_moved (wired : table.IsWired) {file file' : OpenFile}
    (found : table.resolve? fd = some file) (same : file.handle? = none → file' = file) :
    (table.assign fd (some file')).IsWired := by
  constructor
  · rw [resolve?_assign]
    split
    · rename_i here
      rw [here, wired.stdin, Option.some.injEq] at found
      rw [same (found ▸ rfl), found]
    · exact wired.stdin
  · rw [resolve?_assign]
    split
    · rename_i here
      rw [here, wired.stdout, Option.some.injEq] at found
      rw [same (found ▸ rfl), found]
    · exact wired.stdout

end DescriptorTable

/-! ### Transfers through a console slot -/

namespace Transfer

variable {δ : Type} [Console δ] {t t' : Transfer σ δ}

theorem same_fetch (stream : t.file.handle? = none) (count : Nat) :
    (t.fetch count).2.files = t.files ∧ (t.fetch count).2.file = t.file := by
  unfold fetch
  split
  · exact ⟨rfl, rfl⟩
  · exact ⟨rfl, rfl⟩
  · rename_i handle isFile
    rw [isFile] at stream
    cases stream

theorem same_put (stream : t.file.handle? = none) (data : Bytes) :
    (t.put data).2.files = t.files ∧ (t.put data).2.file = t.file := by
  unfold put
  split
  · exact ⟨rfl, rfl⟩
  · exact ⟨rfl, rfl⟩
  · rename_i handle isFile
    rw [isFile] at stream
    cases stream

variable [AddressSpace σ]

omit [Console δ] in
theorem same_storeAt {buffer : UserAddr} {done : Nat} {data : Bytes}
    (stored : t.storeAt buffer done data = .ok t') : t'.files = t.files ∧ t'.file = t.file := by
  unfold storeAt at stored
  split at stored
  · cases stored
  · split at stored
    · cases stored
    · cases stored
      exact ⟨rfl, rfl⟩

/-- Reading from the console changes no file and moves no cursor. -/
theorem same_readInto (stream : t.file.handle? = none) (buffer : UserAddr) (done remaining : Nat) :
    (t.readInto buffer done remaining).1.files = t.files ∧
      (t.readInto buffer done remaining).1.file = t.file := by
  refine readInto_preserves (P := fun t' => t'.files = t.files ∧ t'.file = t.file) ?_ ?_
    ⟨rfl, rfl⟩ buffer done remaining
  · intro t' count same
    have fetched := t'.same_fetch (same.2 ▸ stream) count
    exact ⟨fetched.1.trans same.1, fetched.2.trans same.2⟩
  · intro t' t'' _ _ _ storedAt same
    have stored := same_storeAt storedAt
    exact ⟨stored.1.trans same.1, stored.2.trans same.2⟩

/-- Nor does writing to the console. -/
theorem same_writeFrom (stream : t.file.handle? = none) (buffer : UserAddr)
    (done remaining : Nat) : (t.writeFrom buffer done remaining).1.files = t.files ∧
      (t.writeFrom buffer done remaining).1.file = t.file := by
  refine writeFrom_preserves (P := fun t' => t'.files = t.files ∧ t'.file = t.file) ?_
    ⟨rfl, rfl⟩ buffer done remaining
  intro t' data same
  have given := t'.same_put (same.2 ▸ stream) data
  exact ⟨given.1.trans same.1, given.2.trans same.2⟩

end Transfer

/-! ### Processes -/

/-- The console slots of a process refer to the console as long as it lives. -/
def UserProcess.IsWired (process : UserProcess σ) : Prop :=
  process.terminated = false → process.files.IsWired

theorem UserProcess.isWired_fresh (pid : Pid) (memory : σ) : (fresh pid memory).IsWired :=
  fun _ => DescriptorTable.isWired_new

/-- What is in memory does not matter. -/
theorem UserProcess.IsWired.with_memory {process : UserProcess σ} (wired : process.IsWired)
    (memory : σ) : UserProcess.IsWired { process with memory } := wired

namespace Kernel

variable {process : UserProcess σ}

theorem isWired_terminate (kernel : Kernel) (wired : process.IsWired) (how : Termination) :
    (kernel.terminate process how).value.IsWired := by
  unfold terminate
  split
  · exact wired
  · simp only
    split
    · exact fun live => nomatch live
    · exact fun live => nomatch live

theorem isWired_begin (kernel : Kernel) (wired : process.IsWired) (start : Start) :
    (kernel.begin process start).value.IsWired := by
  cases start with
  | park => exact wired
  | exit status => exact kernel.isWired_terminate wired _
  | abort fault => exact kernel.isWired_terminate wired _

/-- A process that was started is wired. -/
theorem isWired_spawn {engine : Engine σ} {kernel : Kernel} {parent : Option Pid}
    {image : ProgramImage} (started : (kernel.spawn engine parent image).value = .ok process) :
    process.IsWired := by
  unfold spawn at started
  split at started
  · cases started
  · split at started
    · cases started
    · simp only at started
      split at started
      · cases started
      · cases started
        exact isWired_begin _ (UserProcess.isWired_fresh _ _) _

theorem isWired_boot {engine : Engine σ} {kernel : Kernel} {program : Bytes} {args : List Bytes}
    (started : (kernel.boot engine program args).value = .ok process) : process.IsWired := by
  unfold boot at started
  split at started
  · cases started
  · exact isWired_spawn started

end Kernel

/-! ### Calls -/

/-- After a step the caller is wired, and so is a process that it started. -/
structure Step.IsWired (step : Step σ α) : Prop where
  /-- The caller. -/
  caller : step.caller.IsWired
  /-- The process that was started. -/
  child : ∀ process ∈ step.child, process.IsWired

theorem Step.IsWired.forall_mem {step : Step σ α} (wired : step.IsWired) :
    ∀ process ∈ step.caller :: step.child.toList, process.IsWired := by
  intro process member
  rcases List.mem_cons.1 member with rfl | started
  · exact wired.caller
  · exact wired.child process (Option.mem_toList.1 started)

/-- The end of a turn changes no process. -/
theorem Step.IsWired.conclude {step : Step σ Outcome} (wired : step.IsWired) (number : Nat) :
    (step.conclude number).IsWired := by
  obtain ⟨-, sameCaller, sameChild⟩ := step.same_conclude number
  constructor
  · rw [sameCaller]
    exact wired.caller
  · rw [sameChild]
    exact wired.child

variable {caller : UserProcess σ}

/-- A step that leaves its caller alone and starts nobody. -/
theorem UserProcess.IsWired.step (wired : caller.IsWired) {step : Step σ α}
    (same : step.caller = caller) (alone : step.child = none) : step.IsWired := by
  refine ⟨same ▸ wired, fun process member => ?_⟩
  rw [alone] at member
  cases member

namespace Service

theorem isWired_install {step : Step σ (Except SysError FileHandle)} (wired : step.IsWired) :
    (install step).IsWired := by
  unfold install
  split
  · exact ⟨wired.caller, wired.child⟩
  · split
    · rename_i installed
      exact ⟨fun live => (wired.caller live).allocate installed, wired.child⟩
    · exact ⟨wired.caller, wired.child⟩

theorem isWired_create (kernel : Kernel) (wired : caller.IsWired) (name : FileName) :
    (create kernel caller name).IsWired := by
  have installed : (install ((kernel.createFile name caller.pid).toStep caller)).IsWired :=
    isWired_install (wired.step rfl rfl)
  unfold create
  simp only
  split
  · exact ⟨installed.caller, installed.child⟩
  · exact ⟨installed.caller, installed.child⟩

theorem isWired_openFile (kernel : Kernel) (wired : caller.IsWired) (name : FileName) :
    (openFile kernel caller name).IsWired := by
  have installed : (install ((kernel.openFile name caller.pid).toStep caller)).IsWired :=
    isWired_install (wired.step rfl rfl)
  unfold openFile
  simp only
  split
  · exact ⟨installed.caller, installed.child⟩
  · exact ⟨installed.caller, installed.child⟩

theorem isWired_close (kernel : Kernel) (wired : caller.IsWired) (fd : Fd) :
    (close kernel caller fd).IsWired := by
  unfold close
  split
  · exact wired.step rfl rfl
  · rename_i released
    exact ⟨fun live => (wired live).release released, fun _ member => nomatch member⟩

theorem isWired_unlink (kernel : Kernel) (wired : caller.IsWired) (name : FileName) :
    (unlink kernel caller name).IsWired := by
  unfold unlink
  simp only
  split
  · exact wired.step rfl rfl
  · exact wired.step rfl rfl

theorem isWired_exec (engine : Engine σ) (kernel : Kernel) (wired : caller.IsWired)
    (image : ProgramImage) : (exec engine kernel caller image).IsWired := by
  unfold exec
  simp only
  split
  · exact wired.step rfl rfl
  · rename_i child started
    refine ⟨wired, fun process member => ?_⟩
    cases member
    exact Kernel.isWired_spawn started

/-- A transfer puts the file back that it found, with its cursor moved. -/
theorem isWired_settle (kernel : Kernel) (wired : caller.IsWired) {fd : Fd} {file : OpenFile}
    (found : caller.files.resolve? fd = some file) {moved : Transferred σ ConsoleDevice}
    (same : file.handle? = none → moved.1.file = file) :
    (settle kernel caller fd moved).IsWired :=
  ⟨fun live => (wired live).assign_moved found same, fun _ member => nomatch member⟩

theorem isWired_halt (kernel : Kernel) (wired : caller.IsWired) :
    (halt kernel caller).IsWired := by
  unfold halt
  simp only
  split
  · exact wired.step rfl rfl
  · exact wired.step rfl rfl

theorem isWired_exit (kernel : Kernel) (wired : caller.IsWired) (status : Register) :
    (exit kernel caller status).IsWired :=
  ⟨kernel.isWired_terminate wired _, fun _ member => nomatch member⟩

variable [AddressSpace σ]

theorem isWired_join (kernel : Kernel) (wired : caller.IsWired) (pending : PendingJoin) :
    (join kernel caller pending).IsWired := by
  unfold join
  simp only
  split
  · exact wired.step rfl rfl
  · exact wired.step rfl rfl
  · unfold deliver
    split
    · exact wired.step rfl rfl
    · exact wired.step rfl rfl
    · split
      · exact wired.step rfl rfl
      · exact (wired.with_memory _).step rfl rfl

end Service

variable [AddressSpace σ]

theorem Request.isWired_perform (engine : Engine σ) (kernel : Kernel) (wired : caller.IsWired)
    (number : Nat) {request : Request} (fits : request.Fits caller) :
    (request.perform engine kernel caller number).IsWired := by
  cases request with
  | halt => exact Service.isWired_halt kernel wired
  | exit status => exact Service.isWired_exit kernel wired status
  | exec image => exact (Service.isWired_exec engine kernel wired image).conclude number
  | join child status => exact (Service.isWired_join kernel wired _).conclude number
  | create name => exact (Service.isWired_create kernel wired name).conclude number
  | openFile name => exact (Service.isWired_openFile kernel wired name).conclude number
  | read fd file buffer count =>
    have same : file.handle? = none → _ := fun stream =>
      Transfer.same_readInto (t := ⟨kernel.files, kernel.console, file, caller.memory⟩) stream
        buffer 0 count
    exact (Service.isWired_settle kernel wired fits fun stream => (same stream).2).conclude number
  | write fd file buffer count =>
    have same : file.handle? = none → _ := fun stream =>
      Transfer.same_writeFrom (t := ⟨kernel.files, kernel.console, file, caller.memory⟩) stream
        buffer 0 count
    exact (Service.isWired_settle kernel wired fits fun stream => (same stream).2).conclude number
  | close fd => exact (Service.isWired_close kernel wired fd).conclude number
  | unlink name => exact (Service.isWired_unlink kernel wired name).conclude number

namespace Kernel

/-- The first turn of any call. -/
theorem isWired_dispatch (engine : Engine σ) (kernel : Kernel) (wired : caller.IsWired)
    (number : Nat) (args : Registers) :
    (kernel.dispatch engine caller number args).IsWired := by
  have refused : ∀ error,
      ((Step.still kernel caller (Outcome.failed error)).conclude number).IsWired := fun _ =>
    (wired.step rfl rfl).conclude number
  unfold dispatch
  split
  · exact wired.step rfl rfl
  · split
    · exact wired.step rfl rfl
    · have called : (kernel.call engine caller number args).IsWired := by
        unfold call
        split
        · exact ⟨(refused _).caller, (refused _).child⟩
        · split
          · exact refused _
          · rename_i formed
            exact Request.isWired_perform engine kernel wired number (Request.fits_ofCall formed)
      exact ⟨called.caller, called.child⟩

/-- A later turn of a call. -/
theorem isWired_resume (kernel : Kernel) (wired : caller.IsWired) (pending : PendingJoin) :
    (kernel.resume caller pending).IsWired :=
  (Service.isWired_join kernel wired pending).conclude _

end Kernel

end SyscallKernel
