import SyscallKernel.Proofs.Kernel.Buffers
import SyscallKernel.Proofs.Kernel.Calls
import SyscallKernel.Proofs.Kernel.Refusals

/-!
# What services answer

A service finds out that it must fail before it changes anything, and what was checked
before a change cannot fail after it: so a service that fails leaves no trace. A service
that answers gives a value of its call, and the sentinel is no such value.
-/

namespace SyscallKernel

variable {σ α : Type} {kernel : Kernel} {caller : UserProcess σ}

/-! ### Registers -/

namespace Register

theorem toInt_ofNat {n : Nat} (fits : n ≤ Pid.limit) : (ofNat n).toInt = n :=
  Int32.toInt_ofNat_of_lt (Nat.lt_succ_of_le fits)

/-- A register that holds a natural number holds it as an integer. -/
theorem toInt_of_toNat? {raw : Register} {n : Nat} (held : raw.toNat? = some n) :
    raw.toInt = n ∧ n ≤ Pid.limit := by
  unfold toNat? at held
  split at held
  · cases held
  · rename_i notNegative
    rw [Int32.lt_iff_toInt_lt, Int32.toInt_zero] at notNegative
    cases held
    have small := raw.toNatClampNeg_lt
    refine ⟨?_, Nat.le_of_lt_succ small⟩
    rw [← Int32.toNat_toInt]
    omega

end Register

namespace DescriptorTable

variable {table : DescriptorTable}

/-- A table with room for a handle takes it, behind a descriptor that is not reserved. -/
theorem exists_allocate_of_hasFree (free : table.hasFree = true) (handle : FileHandle) :
    ∃ table' fd, table.allocate handle = some (table', fd) ∧ Fd.firstUser.val ≤ fd.val := by
  obtain ⟨fd, lowest⟩ := Option.isSome_iff_exists.1 free
  have unreserved := (resolve?_of_lowestFree? lowest).1
  refine ⟨table.assign fd (some (.file handle)), fd, ?_, ?_⟩
  · rw [allocate, lowest]
  · exact Nat.le_of_not_lt (of_decide_eq_false unreserved)

end DescriptorTable

/-! ### Turns -/

namespace Step

/-- Nothing is left of a step but records in the log. -/
structure LeavesNoTrace (kernel : Kernel) (caller : UserProcess σ) (step : Step σ α) : Prop where
  /-- The files, the processes and the console are as before. -/
  kernel : step.kernel = kernel
  /-- The descriptors, the cursors and the memory of the caller are as before. -/
  caller : step.caller = caller
  /-- No process was started. -/
  child : step.child = none
  /-- Whatever happened outside the tables is a record in the log. -/
  records : ∀ effect ∈ step.effects, ∃ notice, effect = .note notice

theorem leavesNoTrace_still (kernel : Kernel) (caller : UserProcess σ) (value : α) :
    (still kernel caller value).LeavesNoTrace kernel caller :=
  ⟨rfl, rfl, rfl, fun _ member => nomatch member⟩

/-- One more record leaves no trace either. -/
theorem LeavesNoTrace.after_note {step : Step σ α} (traceless : step.LeavesNoTrace kernel caller)
    (notice : Notice) : (step.after [.note notice]).LeavesNoTrace kernel caller := by
  refine ⟨traceless.kernel, traceless.caller, traceless.child, ?_⟩
  intro effect member
  rcases List.mem_cons.1 member with rfl | later
  · exact ⟨notice, rfl⟩
  · exact traceless.records effect later

/-- What a turn that returns has to keep to, when `yields` are the values for success. -/
structure Answers (kernel : Kernel) (caller : UserProcess σ)
    (yields : Option (UserProcess σ) → Register → Prop) (turn : Turn σ) : Prop where
  /-- A call that returns the sentinel leaves no trace. -/
  refused : turn.value = .finished (.returned SysError.sentinel) → turn.LeavesNoTrace kernel caller
  /-- The sentinel is returned by exactly those calls that are reported as refused. -/
  reported : ∀ value, turn.value = .finished (.returned value) →
    (value = SysError.sentinel ↔ turn.effects.any Effect.isFailure = true)
  /-- Any other value that is returned is one for success. -/
  succeeded : ∀ value, turn.value = .finished (.returned value) → value ≠ SysError.sentinel →
    yields turn.child value

/-- What the step of a service has to keep to, when `yields` are the values for success. -/
structure Resolves (kernel : Kernel) (caller : UserProcess σ)
    (yields : Option (UserProcess σ) → Register → Prop) (step : Step σ Outcome) : Prop where
  /-- A service that fails leaves no trace. -/
  failed : ∀ error, step.value = .failed error → step.LeavesNoTrace kernel caller
  /-- A service that answers gives a value for success. -/
  answered : ∀ value, step.value = .answered value → yields step.child value
  /-- No service reports a failure itself. -/
  silent : step.effects.any Effect.isFailure = false

variable {yields yields' : Option (UserProcess σ) → Register → Prop}

theorem Answers.mono {turn : Turn σ} (answers : turn.Answers kernel caller yields)
    (more : ∀ child value, yields child value → yields' child value) :
    turn.Answers kernel caller yields' :=
  ⟨answers.refused, answers.reported, fun value returned other =>
    more _ _ (answers.succeeded value returned other)⟩

/-- A record of something else than a failure may come first. -/
theorem Answers.after_note {turn : Turn σ} (answers : turn.Answers kernel caller yields)
    {notice : Notice} (other : notice.isFailure = false) :
    (turn.after [.note notice]).Answers kernel caller yields := by
  refine ⟨fun returned => (answers.refused returned).after_note notice, ?_, answers.succeeded⟩
  intro value returned
  have same : (turn.after [.note notice]).effects.any Effect.isFailure =
      (notice.isFailure || turn.effects.any Effect.isFailure) := rfl
  rw [same, other, Bool.false_or]
  exact answers.reported value returned

/-- A turn that does not return keeps to nothing. -/
theorem answers_of_not_returned {turn : Turn σ}
    (elsewhere : ∀ value, turn.value ≠ .finished (.returned value)) :
    turn.Answers kernel caller yields :=
  ⟨fun returned => absurd returned (elsewhere _), fun _ returned => absurd returned (elsewhere _),
    fun _ returned => absurd returned (elsewhere _)⟩

/-- A refusal that is reported and leaves no trace is a proper end of a turn. -/
theorem answers_of_refused {turn : Turn σ} (traceless : turn.LeavesNoTrace kernel caller)
    (refused : turn.value = .finished (.returned SysError.sentinel))
    (reported : turn.effects.any Effect.isFailure = true) :
    turn.Answers kernel caller yields := by
  refine ⟨fun _ => traceless, ?_, ?_⟩
  · intro value returned
    rw [refused, Progress.finished.injEq, Completion.returned.injEq] at returned
    exact iff_of_true returned.symm reported
  · intro value returned other
    rw [refused, Progress.finished.injEq, Completion.returned.injEq] at returned
    exact absurd returned.symm other

/-- The end of a turn turns failures, and nothing else, into the sentinel. -/
theorem Resolves.conclude {step : Step σ Outcome} (resolves : step.Resolves kernel caller yields)
    (never : ∀ child, ¬ yields child SysError.sentinel) (number : Nat) :
    (step.conclude number).Answers kernel caller yields := by
  unfold Step.conclude
  split
  · exact answers_of_not_returned fun _ returned => nomatch returned
  · rename_i answer answered
    have yielded := resolves.answered answer answered
    have other : answer ≠ SysError.sentinel := fun same => never _ (same ▸ yielded)
    split
    · exact answers_of_not_returned fun _ returned => nomatch returned
    · refine ⟨?_, ?_, ?_⟩
      · intro returned
        cases returned
        exact absurd rfl other
      · intro value returned
        cases returned
        exact iff_of_false other (Bool.eq_false_iff.1 resolves.silent)
      · intro value returned _
        cases returned
        exact yielded
  · rename_i error failed
    have traceless := resolves.failed error failed
    split
    · exact answers_of_not_returned fun _ returned => nomatch returned
    · refine answers_of_refused ⟨traceless.kernel, traceless.caller, traceless.child, ?_⟩ rfl ?_
      · intro effect member
        rcases List.mem_append.1 member with earlier | last
        · exact traceless.records effect earlier
        · exact ⟨_, List.mem_singleton.1 last⟩
      · rw [List.any_append, Bool.or_eq_true]
        exact .inr rfl

/-- A step that fails at once. -/
theorem resolves_still (kernel : Kernel) (caller : UserProcess σ) (error : SysError) :
    (still kernel caller (.failed error)).Resolves kernel caller yields :=
  ⟨fun _ _ => leavesNoTrace_still kernel caller _, fun _ answered => (nomatch answered), rfl⟩

/-- A step that gives a value for success. -/
theorem resolves_of_answered {step : Step σ Outcome} {value : Register}
    (answered : step.value = .answered value) (yielded : yields step.child value)
    (silent : step.effects.any Effect.isFailure = false) : step.Resolves kernel caller yields := by
  refine ⟨?_, ?_, silent⟩
  · intro error failed
    rw [answered] at failed
    cases failed
  · intro other same
    rw [answered, Outcome.answered.injEq] at same
    exact same ▸ yielded

end Step

/-! ### Values for success -/

/-- The values a call returns on success, besides a process it may have started. -/
def Syscall.Yields (args : Registers) (child : Option (UserProcess σ)) (value : Register) :
    Syscall → Prop
  | .halt => False
  | .exit => False
  | .exec => 0 < value.toInt ∧ ∃ started, child = some started ∧ value.toInt = started.pid.number
  | .join => value.toInt = 0 ∨ value.toInt = 1
  | .create => 2 ≤ value.toInt ∧ value.toInt ≤ 15
  | .openFile => 2 ≤ value.toInt ∧ value.toInt ≤ 15
  | .read => 0 ≤ value.toInt ∧ value.toInt ≤ args.a2.toInt
  | .write => 0 ≤ value.toInt ∧ value.toInt ≤ args.a2.toInt
  | .close => value.toInt = 0
  | .unlink => value.toInt = 0

/-- The sentinel is no value for success. -/
theorem Syscall.not_yields_sentinel (call : Syscall) (args : Registers)
    (child : Option (UserProcess σ)) : ¬ call.Yields args child SysError.sentinel := by
  have negative : SysError.sentinel.toInt = -1 := by decide
  cases call with
  | halt => exact id
  | exit => exact id
  | exec | create | openFile | read | write => intro yielded; have := yielded.1; omega
  | join => intro yielded; unfold Yields at yielded; omega
  | close | unlink => intro yielded; unfold Yields at yielded; omega

/-! ### Services -/

namespace Service

variable {args : Registers}

/-- The root halts the machine for itself too. -/
theorem halt_not_returned (root : kernel.processes.isRoot caller.pid = true) (value : Register) :
    (halt kernel caller).value ≠ .finished (.returned value) := by
  simp only [halt, Kernel.halt, root, if_true]
  exact fun returned => nomatch returned

/-- A denied halt is reported and leaves no trace. -/
theorem answers_halt {yields : Option (UserProcess σ) → Register → Prop} :
    (halt kernel caller).Answers kernel caller yields := by
  cases root : kernel.processes.isRoot caller.pid with
  | true => exact Step.answers_of_not_returned (halt_not_returned root)
  | false =>
    simp only [halt, Kernel.halt, root, Bool.false_eq_true, if_false]
    refine Step.answers_of_refused ⟨rfl, rfl, rfl, ?_⟩ rfl rfl
    intro effect member
    exact ⟨_, List.mem_singleton.1 member⟩

theorem exit_not_returned (status value : Register) :
    (exit kernel caller status).value ≠ .finished (.returned value) :=
  fun returned => nomatch returned

/-- What is installed in a table with room is behind a descriptor that can be given out. -/
theorem install_of_hasFree (step : Step σ (Except SysError FileHandle))
    (free : step.caller.files.hasFree = true) :
    (∃ error, step.value = .error error ∧ install step = { step with value := .error error }) ∨
      ∃ files fd, Fd.firstUser.val ≤ fd.val ∧
        install step = { step with caller := { step.caller with files }, value := .ok fd } := by
  unfold install
  cases step.value with
  | error error => exact .inl ⟨error, rfl, rfl⟩
  | ok handle =>
    obtain ⟨files, fd, allocated, user⟩ := DescriptorTable.exists_allocate_of_hasFree free handle
    refine .inr ⟨files, fd, user, ?_⟩
    simp only [allocated]

/-- A descriptor that can be given out, as a register. -/
theorem toInt_toRegister {fd : Fd} (user : Fd.firstUser.val ≤ fd.val) :
    2 ≤ fd.toRegister.toInt ∧ fd.toRegister.toInt ≤ 15 := by
  have small : fd.val < 16 := fd.isLt
  have large : 2 ≤ fd.val := user
  have fits : fd.val ≤ Pid.limit := by
    unfold Pid.limit
    omega
  rw [Fd.toRegister, Register.toInt_ofNat fits]
  omega

theorem resolves_create (free : caller.files.hasFree = true) (name : FileName) :
    (create kernel caller name).Resolves kernel caller fun child value =>
      Syscall.create.Yields args child value := by
  have noFailure := kernel.noFailure_createFile name caller.pid
  unfold create
  rcases install_of_hasFree ((kernel.createFile name caller.pid).toStep caller) free with
    ⟨error, refused, installed⟩ | ⟨files, fd, user, installed⟩
  · rw [installed]
    refine ⟨fun _ _ => ⟨Kernel.createFile_of_error refused, rfl, rfl, ?_⟩,
      fun _ answered => (nomatch answered), noFailure⟩
    intro effect member
    exact ⟨_, List.mem_singleton.1 member⟩
  · rw [installed]
    refine Step.resolves_of_answered rfl (toInt_toRegister user) ?_
    rw [List.any_append, Reaction.toStep, noFailure]
    rfl

theorem resolves_openFile (free : caller.files.hasFree = true) (name : FileName) :
    (openFile kernel caller name).Resolves kernel caller fun child value =>
      Syscall.openFile.Yields args child value := by
  have silent : ((kernel.openFile name caller.pid).toStep caller).effects = [] :=
    kernel.effects_openFile name caller.pid
  unfold openFile
  rcases install_of_hasFree ((kernel.openFile name caller.pid).toStep caller) free with
    ⟨error, refused, installed⟩ | ⟨files, fd, user, installed⟩
  · rw [installed]
    refine ⟨fun _ _ => ⟨Kernel.openFile_of_error refused, rfl, rfl, ?_⟩,
      fun _ answered => (nomatch answered), ?_⟩
    · simp only [silent, List.not_mem_nil, false_implies, implies_true]
    · simp only [silent, List.any_nil]
  · rw [installed]
    refine Step.resolves_of_answered rfl (toInt_toRegister user) ?_
    simp only [silent, List.any_nil]

theorem resolves_close (fd : Fd) :
    (close kernel caller fd).Resolves kernel caller fun child value =>
      Syscall.close.Yields args child value := by
  unfold close
  cases caller.files.release fd with
  | none => exact Step.resolves_still kernel caller _
  | some released =>
    obtain ⟨files, handle⟩ := released
    exact Step.resolves_of_answered rfl rfl (kernel.noFailure_releaseHandles [handle])

theorem resolves_unlink (name : FileName) :
    (unlink kernel caller name).Resolves kernel caller fun child value =>
      Syscall.unlink.Yields args child value := by
  unfold unlink
  cases removed : (kernel.unlinkFile name).value with
  | error error =>
    simp only [Kernel.unlinkFile_of_error removed]
    exact Step.resolves_still kernel caller error
  | ok done =>
    simp only [removed]
    exact Step.resolves_of_answered rfl rfl (kernel.noFailure_unlinkFile name)

theorem resolves_exec (engine : Engine σ) (wellFormed : kernel.processes.WellFormed)
    (image : ProgramImage) :
    (exec engine kernel caller image).Resolves kernel caller fun child value =>
      Syscall.exec.Yields args child value := by
  unfold exec
  cases spawned : (kernel.spawn engine (some caller.pid) image).value with
  | error error =>
    simp only [Kernel.spawn_of_error spawned]
    exact Step.resolves_still kernel caller error
  | ok started =>
    simp only [spawned]
    obtain ⟨positive, fits⟩ := Kernel.pid_mem_of_spawn wellFormed spawned
    have same : started.pid.toRegister.toInt = started.pid.number := Register.toInt_ofNat fits
    refine Step.resolves_of_answered rfl ⟨?_, started, rfl, same⟩
      (kernel.noFailure_spawn engine _ image)
    rw [same]
    omega

/-- A transfer that meets no fault moves at most as many bytes as it is asked to. -/
theorem resolves_settle {fd : Fd} {moved : Transferred σ ConsoleDevice} {count limit : Nat}
    (held : args.a2.toNat? = some limit) (finished : moved.2 = .ok count) (within : count ≤ limit) :
    (settle kernel caller fd moved).Resolves kernel caller fun _ value =>
      0 ≤ value.toInt ∧ value.toInt ≤ args.a2.toInt := by
  obtain ⟨same, fits⟩ := Register.toInt_of_toNat? held
  have answered : (settle kernel caller fd moved).value = .answered (Register.ofNat count) := by
    simp only [settle.eq_def, finished]
  refine Step.resolves_of_answered answered ?_ rfl
  rw [Register.toInt_ofNat (Nat.le_trans within fits), same]
  omega

variable [AddressSpace σ] {E : PagedMemory.Embedding σ} {memory : PagedMemory}
  {buffer : UserAddr} {count : Nat}

theorem resolves_read (paged : caller.memory = E.embed memory)
    (held : args.a2.toNat? = some count)
    (checked : count ≠ 0 → AddressSpace.checkRange caller.memory buffer count .write = .ok ())
    (fd : Fd) (file : OpenFile) :
    (read kernel caller fd file buffer count).Resolves kernel caller fun child value =>
      Syscall.read.Yields args child value := by
  have ready : Transfer.Ready E ⟨kernel.files, kernel.console, file, caller.memory⟩ .write buffer 0
      (0 + count) := Transfer.ready_of_checked paged checked
  obtain ⟨moved, finished, within⟩ := ready.readInto
  rw [Nat.zero_add] at within
  exact resolves_settle held finished within

theorem resolves_write (paged : caller.memory = E.embed memory)
    (held : args.a2.toNat? = some count)
    (checked : count ≠ 0 → AddressSpace.checkRange caller.memory buffer count .read = .ok ())
    (fd : Fd) (file : OpenFile) :
    (write kernel caller fd file buffer count).Resolves kernel caller fun child value =>
      Syscall.write.Yields args child value := by
  have ready : Transfer.Ready E ⟨kernel.files, kernel.console, file, caller.memory⟩ .read buffer 0
      (0 + count) := Transfer.ready_of_checked paged checked
  obtain ⟨moved, finished, within⟩ := ready.writeFrom
  rw [Nat.zero_add] at within
  exact resolves_settle held finished within

/-- A word goes to a place that was checked. -/
theorem writeWord_of_checked (paged : caller.memory = E.embed memory) {place : UserAddr}
    (checked : AddressSpace.checkRange caller.memory place 4 .write = .ok ()) (code : Register) :
    AddressSpace.writeWord caller.memory place code =
      .ok (E.embed (memory.store place (Bytes.ofWord code.toUInt32))) := by
  rw [paged, E.checkRange_embed] at checked
  rw [AddressSpace.writeWord, paged, E.writeBytes_embed, PagedMemory.writeBytes,
    Bytes.length_ofWord, checked]
  rfl

/-- A join reaps its child only once the status has a place that takes it. -/
theorem resolves_join (paged : caller.memory = E.embed memory) {pending : PendingJoin}
    (checked : ∀ place, pending.status = some place →
      AddressSpace.checkRange caller.memory place 4 .write = .ok ()) :
    (join kernel caller pending).Resolves kernel caller fun child value =>
      Syscall.join.Yields args child value := by
  have noFailure := kernel.noFailure_pollJoin caller.pid pending.child
  unfold join
  cases polled : (kernel.pollJoin caller.pid pending.child).value with
  | error error =>
    simp only [Kernel.pollJoin_of_error polled]
    exact Step.resolves_still kernel caller error
  | ok poll =>
    cases poll with
    | pending =>
      simp only [Reaction.toStep, polled]
      exact ⟨fun _ failed => (nomatch failed), fun _ answered => (nomatch answered), noFailure⟩
    | ready how =>
      simp only [Reaction.toStep, polled]
      unfold deliver
      split
      · exact Step.resolves_of_answered rfl (.inl rfl) noFailure
      · exact Step.resolves_of_answered rfl (.inr rfl) noFailure
      · rename_i code place wanted
        have written := writeWord_of_checked paged (checked place wanted) code
        simp only [written]
        exact Step.resolves_of_answered rfl (.inr rfl) noFailure

end Service

end SyscallKernel
