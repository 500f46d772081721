import SyscallKernel.Proofs.Kernel.Answers
import SyscallKernel.Proofs.Kernel.ConsoleCalls
import SyscallKernel.Proofs.Kernel.Wiring

/-!
# Calls on any console

The kernel asks two things of its console, whatever console it is. Here the first turn of a call
is taken on a console that is a parameter. Only a transfer through a console descriptor reaches
it: any other call does what it does on the console of the kernel, and such a transfer changes the
memory of its caller and nothing else. On the console of the kernel the two are the same.
-/

namespace SyscallKernel

variable {σ δ δ' α : Type}

/-- A transfer on another console. -/
def Transfer.withConsole (t : Transfer σ δ) (console : δ') : Transfer σ δ' :=
  ⟨t.files, console, t.file, t.memory⟩

/-- A step that leaves another console in the kernel. -/
def Step.withConsole (step : Step σ α) (console : ConsoleDevice) : Step σ α :=
  { step with kernel := { step.kernel with console } }

/-! ### What leaves the console alone -/

namespace Kernel

/-- What is in none of the tables: the limits and the console. -/
def setting (kernel : Kernel) : Config × ConsoleDevice := (kernel.config, kernel.console)

theorem setting_terminate (kernel : Kernel) (process : UserProcess σ) (how : Termination) :
    (kernel.terminate process how).kernel.setting = kernel.setting := by
  have recorded : ∀ (kernel : Kernel) pid,
      (kernel.recordTermination pid how).kernel.setting = kernel.setting := by
    intro kernel pid
    unfold recordTermination
    split <;> rfl
  have halted : ∀ (kernel : Kernel) news,
      (kernel.haltIfLast news).kernel.setting = kernel.setting := by
    intro kernel news
    unfold haltIfLast
    split <;> rfl
  unfold terminate
  split
  · rfl
  · simp only
    split
    · exact recorded _ _
    · exact (halted _ _).trans (recorded _ _)

theorem setting_spawn (engine : Engine σ) (kernel : Kernel) (parent : Option Pid)
    (image : ProgramImage) :
    (kernel.spawn engine parent image).kernel.setting = kernel.setting := by
  have registered : (kernel.registerProcess parent).kernel.setting = kernel.setting := by
    unfold registerProcess
    split <;> rfl
  have begun : ∀ (kernel : Kernel) (process : UserProcess σ) start,
      (kernel.begin process start).kernel.setting = kernel.setting := by
    intro kernel process start
    cases start with
    | park => rfl
    | exit status => exact kernel.setting_terminate process _
    | abort fault => exact kernel.setting_terminate process _
  unfold spawn
  split
  · rfl
  · split
    · rfl
    · simp only
      split
      · exact registered
      · exact (begun _ _ _).trans registered

end Kernel

namespace Service

theorem setting_install (step : Step σ (Except SysError FileHandle)) :
    (install step).kernel.setting = step.kernel.setting := by
  unfold install
  split
  · rfl
  · split <;> rfl

theorem setting_create (kernel : Kernel) (caller : UserProcess σ) (name : FileName) :
    (create kernel caller name).kernel.setting = kernel.setting := by
  have installed := setting_install ((kernel.createFile name caller.pid).toStep caller)
  unfold create
  simp only
  split
  · exact installed
  · exact installed

theorem setting_openFile (kernel : Kernel) (caller : UserProcess σ) (name : FileName) :
    (openFile kernel caller name).kernel.setting = kernel.setting := by
  have opened : (kernel.openFile name caller.pid).kernel.setting = kernel.setting := by
    unfold Kernel.openFile
    split <;> rfl
  have installed := setting_install ((kernel.openFile name caller.pid).toStep caller)
  unfold openFile
  simp only
  split
  · exact installed.trans opened
  · exact installed.trans opened

theorem setting_close (kernel : Kernel) (caller : UserProcess σ) (fd : Fd) :
    (close kernel caller fd).kernel.setting = kernel.setting := by
  unfold close
  split <;> rfl

theorem setting_unlink (kernel : Kernel) (caller : UserProcess σ) (name : FileName) :
    (unlink kernel caller name).kernel.setting = kernel.setting := by
  unfold unlink Kernel.unlinkFile
  cases kernel.files.unlink name <;> rfl

theorem setting_exec (engine : Engine σ) (kernel : Kernel) (caller : UserProcess σ)
    (image : ProgramImage) : (exec engine kernel caller image).kernel.setting = kernel.setting := by
  have spawned := kernel.setting_spawn engine (some caller.pid) image
  unfold exec
  simp only
  split
  · exact spawned
  · exact spawned

theorem setting_halt (kernel : Kernel) (caller : UserProcess σ) :
    (halt kernel caller).kernel.setting = kernel.setting := by
  unfold halt Kernel.halt
  by_cases root : kernel.processes.isRoot caller.pid = true
  · rw [if_pos root]
    rfl
  · rw [if_neg root]
    rfl

theorem setting_join [AddressSpace σ] (kernel : Kernel) (caller : UserProcess σ)
    (pending : PendingJoin) :
    (join kernel caller pending).kernel.setting = kernel.setting := by
  have polled : (kernel.pollJoin caller.pid pending.child).kernel.setting = kernel.setting := by
    unfold Kernel.pollJoin
    split <;> rfl
  unfold join
  simp only
  split
  · exact polled
  · exact polled
  · unfold deliver
    split
    · exact polled
    · exact polled
    · split
      · exact polled
      · exact polled

end Service

namespace Step

/-- The end of a turn leaves the console alone. -/
theorem withConsole_conclude (step : Step σ Outcome) (number : Nat) (console : ConsoleDevice) :
    (step.conclude number).withConsole console = (step.withConsole console).conclude number := by
  have up : (step.withConsole console).kernel.isHalted = step.kernel.isHalted := rfl
  unfold conclude
  rw [up]
  cases value : step.value with
  | waiting pending => simp only [withConsole, value]
  | answered answer => simp only [withConsole, value]
  | failed error =>
    simp only [withConsole, value]
    split <;> rfl

/-- A step that leaves the setting alone leaves the console of the kernel in the kernel. -/
theorem withConsole_of_setting {step : Step σ α} {kernel : Kernel}
    (same : step.kernel.setting = kernel.setting) :
    step.withConsole kernel.console = step := by
  obtain ⟨⟨config, files, processes, console⟩, caller, effects, child, value⟩ := step
  cases (congrArg Prod.snd same : console = kernel.console)
  rfl

end Step

/-! ### Calls -/

/-- A turn that is over and has changed nothing but the memory of its caller. -/
def Step.ChangesMemory (kernel : Kernel) (caller : UserProcess σ) (turn : Turn σ) : Prop :=
  ∃ memory effects completion,
    turn = ⟨kernel, { caller with memory }, effects, none, .finished completion⟩

variable [AddressSpace σ] [Console δ] [Console δ']

namespace Service

/-- Reads from an open file into user memory, on any console. -/
def readOn (console : δ) (kernel : Kernel) (caller : UserProcess σ) (fd : Fd) (file : OpenFile)
    (buffer : UserAddr) (count : Nat) : Step σ Outcome × δ :=
  let (t, result) :=
    Transfer.readInto ⟨kernel.files, console, file, caller.memory⟩ buffer 0 count
  (settle kernel caller fd (t.withConsole kernel.console, result), t.console)

/-- Writes user memory to an open file, on any console. -/
def writeOn (console : δ) (kernel : Kernel) (caller : UserProcess σ) (fd : Fd) (file : OpenFile)
    (buffer : UserAddr) (count : Nat) : Step σ Outcome × δ :=
  let (t, result) :=
    Transfer.writeFrom ⟨kernel.files, console, file, caller.memory⟩ buffer 0 count
  (settle kernel caller fd (t.withConsole kernel.console, result), t.console)

end Service

/-- Performs a checked request on any console. Only reads and writes can reach it. -/
def Request.performOn (console : δ) (engine : Engine σ) (kernel : Kernel) (caller : UserProcess σ)
    (number : Nat) : Request → Turn σ × δ
  | .read fd file buffer count =>
    let (step, console) := Service.readOn console kernel caller fd file buffer count
    (step.conclude number, console)
  | .write fd file buffer count =>
    let (step, console) := Service.writeOn console kernel caller fd file buffer count
    (step.conclude number, console)
  | request => (request.perform engine kernel caller number, console)

namespace Kernel

/-- The request of a call that is not refused at once. -/
def request? (kernel : Kernel) (caller : UserProcess σ) (number : Nat) (args : Registers) :
    Option Request :=
  if kernel.isHalted || caller.terminated then none
  else
    (Syscall.ofNumber? number).bind fun call =>
      (Request.ofCall kernel.config caller args call).toOption

/-- The first turn of a call on any console, and the console afterwards. -/
def dispatchOn (console : δ) (engine : Engine σ) (kernel : Kernel) (caller : UserProcess σ)
    (number : Nat) (args : Registers) : Turn σ × δ :=
  match kernel.request? caller number args with
  | none => (kernel.dispatch engine caller number args, console)
  | some request =>
    let (turn, console) := request.performOn console engine kernel caller number
    (turn.after [.note (.called caller.pid number args)], console)

end Kernel

variable {kernel : Kernel} {caller : UserProcess σ} {number : Nat} {args : Registers}
  {request : Request}

/-! ### Requests -/

namespace Kernel

/-- A call is heard on a running machine, from a process that was not torn down, and its number
and its registers pass. -/
theorem request?_eq_some_iff : kernel.request? caller number args = some request ↔
    kernel.isHalted = false ∧ caller.terminated = false ∧
      ∃ call, Syscall.ofNumber? number = some call ∧
        Request.ofCall kernel.config caller args call = .ok request := by
  have passed : ∀ {result : Except SysError Request}, result.toOption = some request ↔
      result = .ok request := by
    intro result
    cases result with
    | error error => exact ⟨(nomatch ·), (nomatch ·)⟩
    | ok value => exact ⟨fun same => congrArg _ (Option.some.inj same), congrArg _⟩
  unfold request?
  split
  · rename_i refused
    rw [Bool.or_eq_true] at refused
    refine ⟨(nomatch ·), fun ⟨up, live, _⟩ => ?_⟩
    rw [up, live] at refused
    rcases refused with halted | torn
    · cases halted
    · cases torn
  · rename_i heard
    rw [Bool.not_eq_true, Bool.or_eq_false_iff] at heard
    rw [Option.bind_eq_some_iff]
    constructor
    · rintro ⟨call, known, formed⟩
      exact ⟨heard.1, heard.2, call, known, passed.1 formed⟩
    · rintro ⟨-, -, call, known, formed⟩
      exact ⟨call, known, passed.2 formed⟩

/-- A call that is heard is performed. -/
theorem dispatch_of_request? (engine : Engine σ)
    (heard : kernel.request? caller number args = some request) :
    kernel.dispatch engine caller number args =
      (request.perform engine kernel caller number).after
        [.note (.called caller.pid number args)] := by
  obtain ⟨up, live, call, known, formed⟩ := request?_eq_some_iff.1 heard
  obtain rfl := Syscall.ofNumber?_eq_some_iff.1 known
  exact dispatch_of_request engine up live formed

/-- A call that is refused at once leaves the kernel alone. -/
theorem kernel_dispatch_of_none (engine : Engine σ)
    (refused : kernel.request? caller number args = none) :
    (kernel.dispatch engine caller number args).kernel = kernel := by
  unfold dispatch
  split
  · rfl
  · rename_i up
    split
    · rfl
    · rename_i live
      change (kernel.call engine caller number args).kernel = kernel
      unfold call
      split
      · exact ((Step.still kernel caller _).same_conclude number).1
      · rename_i call known
        split
        · exact ((Step.still kernel caller _).same_conclude number).1
        · rename_i request formed
          have heard := request?_eq_some_iff.2
            ⟨Bool.eq_false_iff.2 up, Bool.eq_false_iff.2 live, call, known, formed⟩
          rw [refused] at heard
          cases heard

end Kernel

/-! ### On the console of the kernel -/

/-- Performing a request on the console of the kernel is performing it. -/
theorem Request.performOn_self (engine : Engine σ) (kernel : Kernel) (caller : UserProcess σ)
    (number : Nat) (request : Request) :
    (request.performOn kernel.console engine kernel caller number).1.withConsole
        (request.performOn kernel.console engine kernel caller number).2 =
      request.perform engine kernel caller number := by
  have concluded : ∀ {step : Step σ Outcome}, step.kernel.setting = kernel.setting →
      (step.conclude number).withConsole kernel.console = step.conclude number := by
    intro step same
    rw [Step.withConsole_conclude, Step.withConsole_of_setting same]
  cases request with
  | halt => exact Step.withConsole_of_setting (Service.setting_halt kernel caller)
  | exit status => exact Step.withConsole_of_setting (kernel.setting_terminate caller _)
  | exec image => exact concluded (Service.setting_exec engine kernel caller image)
  | join child status => exact concluded (Service.setting_join kernel caller ⟨child, status⟩)
  | create name => exact concluded (Service.setting_create kernel caller name)
  | openFile name => exact concluded (Service.setting_openFile kernel caller name)
  | read fd file buffer count => exact Step.withConsole_conclude _ number _
  | write fd file buffer count => exact Step.withConsole_conclude _ number _
  | close fd => exact concluded (Service.setting_close kernel caller fd)
  | unlink name => exact concluded (Service.setting_unlink kernel caller name)

/-- A call on the console of the kernel does what the call does. -/
theorem Kernel.dispatchOn_self (engine : Engine σ) (kernel : Kernel) (caller : UserProcess σ)
    (number : Nat) (args : Registers) :
    (kernel.dispatchOn kernel.console engine caller number args).1.withConsole
        (kernel.dispatchOn kernel.console engine caller number args).2 =
      kernel.dispatch engine caller number args := by
  unfold dispatchOn
  cases heard : kernel.request? caller number args with
  | none =>
    exact Step.withConsole_of_setting (congrArg setting (kernel_dispatch_of_none engine heard))
  | some request =>
    rw [dispatch_of_request? engine heard]
    exact congrArg (Step.after _) (request.performOn_self engine kernel caller number)

/-! ### On other consoles -/

namespace Transfer

variable {t : Transfer σ δ}

omit [AddressSpace σ] [Console δ] in
/-- A file is a file after a transfer. -/
theorem Keeps.isFile {t' : Transfer σ δ} (kept : t.Keeps t') (isFile : t.file.handle? ≠ none) :
    t'.file.handle? ≠ none := by
  intro none
  have same := kept.file
  rw [none, Option.map_none, eq_comm, Option.map_eq_none_iff] at same
  exact isFile same

omit [AddressSpace σ] in
theorem fetch_withConsole (isFile : t.file.handle? ≠ none) (console : δ') (count : Nat) :
    (t.withConsole console).fetch count =
      ((t.fetch count).1, (t.fetch count).2.withConsole console) := by
  obtain ⟨files, own, file, memory⟩ := t
  cases file with
  | stdin => exact absurd rfl isFile
  | stdout => exact absurd rfl isFile
  | file handle => rfl

omit [AddressSpace σ] in
theorem put_withConsole (isFile : t.file.handle? ≠ none) (console : δ') (data : Bytes) :
    (t.withConsole console).put data = ((t.put data).1, (t.put data).2.withConsole console) := by
  obtain ⟨files, own, file, memory⟩ := t
  cases file with
  | stdin => exact absurd rfl isFile
  | stdout => exact absurd rfl isFile
  | file handle => rfl

omit [Console δ] [Console δ'] in
theorem storeAt_withConsole (t : Transfer σ δ) (console : δ') (buffer : UserAddr) (done : Nat)
    (data : Bytes) : (t.withConsole console).storeAt buffer done data =
      (t.storeAt buffer done data).map (·.withConsole console) := by
  unfold storeAt
  split
  · rfl
  · simp only [withConsole]
    split <;> rfl

/-- Reading a file has nothing to do with the console. -/
theorem readInto_withConsole (isFile : t.file.handle? ≠ none) (console : δ') (buffer : UserAddr)
    (done remaining : Nat) : (t.withConsole console).readInto buffer done remaining =
      ((t.readInto buffer done remaining).1.withConsole console,
        (t.readInto buffer done remaining).2) := by
  induction remaining using Nat.strongRecOn generalizing t done with
  | ind remaining ih =>
    rw [readInto.eq_def (t.withConsole console), readInto.eq_def t]
    split
    · rfl
    · have kept := (keeps_fetch t (min remaining pageSize)).isFile isFile
      simp only [fetch_withConsole isFile, storeAt_withConsole]
      split
      · rfl
      · cases storedAt : (t.fetch (min remaining pageSize)).2.storeAt buffer done
            (t.fetch (min remaining pageSize)).1 with
        | error error => rfl
        | ok stored =>
          simp only [Except.map]
          split
          · rfl
          · have page : 0 < pageSize := by decide
            exact ih _ (by omega) ((keeps_storeAt storedAt).isFile kept) _

/-- Nor has writing one. -/
theorem writeFrom_withConsole (isFile : t.file.handle? ≠ none) (console : δ') (buffer : UserAddr)
    (done remaining : Nat) : (t.withConsole console).writeFrom buffer done remaining =
      ((t.writeFrom buffer done remaining).1.withConsole console,
        (t.writeFrom buffer done remaining).2) := by
  induction remaining using Nat.strongRecOn generalizing t done with
  | ind remaining ih =>
    have same : (t.withConsole console).loadAt buffer done (min remaining pageSize) =
      t.loadAt buffer done (min remaining pageSize) := rfl
    rw [writeFrom.eq_def (t.withConsole console), writeFrom.eq_def t]
    split
    · rfl
    · simp only [same]
      split
      · rfl
      · rename_i data loaded
        simp only [put_withConsole isFile]
        split
        · rfl
        · have page : 0 < pageSize := by decide
          exact ih _ (by omega) ((keeps_put t data).isFile isFile) _

end Transfer

namespace Service

variable {fd : Fd} {file : OpenFile}

/-- A file is read alike on all consoles. -/
theorem readOn_of_file (isFile : file.handle? ≠ none) (console : δ) (kernel : Kernel)
    (caller : UserProcess σ) (fd : Fd) (buffer : UserAddr) (count : Nat) :
    readOn console kernel caller fd file buffer count =
      (read kernel caller fd file buffer count, console) := by
  let t : Transfer σ ConsoleDevice := ⟨kernel.files, kernel.console, file, caller.memory⟩
  have own : t.readInto buffer 0 count = _ :=
    Transfer.readInto_withConsole (t := t) isFile kernel.console buffer 0 count
  have other : Transfer.readInto ⟨kernel.files, console, file, caller.memory⟩ buffer 0 count = _ :=
    Transfer.readInto_withConsole (t := t) isFile console buffer 0 count
  unfold readOn
  rw [other]
  exact congrArg (fun moved => (settle kernel caller fd moved, console)) own.symm

/-- A file is written alike on all consoles. -/
theorem writeOn_of_file (isFile : file.handle? ≠ none) (console : δ) (kernel : Kernel)
    (caller : UserProcess σ) (fd : Fd) (buffer : UserAddr) (count : Nat) :
    writeOn console kernel caller fd file buffer count =
      (write kernel caller fd file buffer count, console) := by
  let t : Transfer σ ConsoleDevice := ⟨kernel.files, kernel.console, file, caller.memory⟩
  have own : t.writeFrom buffer 0 count = _ :=
    Transfer.writeFrom_withConsole (t := t) isFile kernel.console buffer 0 count
  have other : Transfer.writeFrom ⟨kernel.files, console, file, caller.memory⟩ buffer 0 count = _ :=
    Transfer.writeFrom_withConsole (t := t) isFile console buffer 0 count
  unfold writeOn
  rw [other]
  exact congrArg (fun moved => (settle kernel caller fd moved, console)) own.symm

omit [AddressSpace σ] in
/-- A transfer that leaves the files and the open file alone changes only memory. -/
theorem changesMemory_settle (found : caller.files.resolve? fd = some file)
    {moved : Transferred σ ConsoleDevice}
    (same : moved.1.files = kernel.files ∧ moved.1.file = file)
    (own : moved.1.console = kernel.console) (number : Nat) :
    ((settle kernel caller fd moved).conclude number).ChangesMemory kernel caller := by
  obtain ⟨⟨files, console, file', memory⟩, result⟩ := moved
  obtain ⟨rfl, rfl⟩ := same
  cases own
  have table := DescriptorTable.assign_of_resolve? found
  cases result with
  | ok count =>
    refine ⟨memory, [], if kernel.isHalted then .halted else .returned (.ofNat count), ?_⟩
    simp only [settle, Step.conclude, table]
  | error error =>
    simp only [Step.ChangesMemory, settle, Step.conclude, table]
    split
    · exact ⟨memory, _, _, rfl⟩
    · exact ⟨memory, _, _, rfl⟩

end Service

/-- On another console a request does what it does, or it changes the memory of its caller. -/
theorem Request.performOn_cases (console : δ) (engine : Engine σ) (kernel : Kernel)
    (fits : request.Fits caller) (number : Nat) :
    (request.performOn console engine kernel caller number).1 =
        request.perform engine kernel caller number ∨
      (request.performOn console engine kernel caller number).1.ChangesMemory kernel caller := by
  cases request with
  | read fd file buffer count =>
    by_cases isFile : file.handle? = none
    · have same := Transfer.same_readInto (t := ⟨kernel.files, console, file, caller.memory⟩) isFile
        buffer 0 count
      exact .inr (Service.changesMemory_settle fits same rfl number)
    · refine .inl ?_
      simp only [performOn, Service.readOn_of_file isFile, perform]
  | write fd file buffer count =>
    by_cases isFile : file.handle? = none
    · have same := Transfer.same_writeFrom (t := ⟨kernel.files, console, file, caller.memory⟩)
        isFile buffer 0 count
      exact .inr (Service.changesMemory_settle fits same rfl number)
    · refine .inl ?_
      simp only [performOn, Service.writeOn_of_file isFile, perform]
  | halt | exit | exec | join | create | openFile | close | unlink => exact .inl rfl

/-- On another console a call does what it does, or it changes the memory of its caller. -/
theorem Kernel.dispatchOn_cases (console : δ) (engine : Engine σ) (kernel : Kernel)
    (caller : UserProcess σ) (number : Nat) (args : Registers) :
    (kernel.dispatchOn console engine caller number args).1 =
        kernel.dispatch engine caller number args ∨
      (kernel.dispatchOn console engine caller number args).1.ChangesMemory kernel caller := by
  unfold dispatchOn
  cases heard : kernel.request? caller number args with
  | none => exact .inl rfl
  | some request =>
    obtain ⟨-, -, call, -, formed⟩ := request?_eq_some_iff.1 heard
    rw [dispatch_of_request? engine heard]
    have cases := request.performOn_cases console engine kernel (Request.fits_ofCall formed) number
    rcases cases with same | ⟨memory, effects, completion, changes⟩
    · exact .inl (congrArg (Step.after _) same)
    · exact .inr ⟨memory, _, completion, congrArg (Step.after _) changes⟩

end SyscallKernel
