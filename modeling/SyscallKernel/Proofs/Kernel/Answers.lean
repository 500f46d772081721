import SyscallKernel.Proofs.Kernel.Outcomes

/-!
# What calls return

What was checked before a call became a request is what its service relies on. So every
call, with any registers, either returns the sentinel, is reported as refused and leaves
no trace, or returns a value of its own.
-/

namespace SyscallKernel

variable {σ : Type} {kernel : Kernel} {caller : UserProcess σ}

namespace Request

variable [AddressSpace σ] {config : Config} {args : Registers} {call : Syscall} {request : Request}

/-- What was checked before a call became a request. -/
inductive Checked (caller : UserProcess σ) (args : Registers) : Syscall → Request → Prop where
  /-- Nothing has to be checked. -/
  | halt : Checked caller args .halt .halt
  /-- Any status will do. -/
  | exit (status : Register) : Checked caller args .exit (.exit status)
  /-- The image is a copy. -/
  | exec (image : ProgramImage) : Checked caller args .exec (.exec image)
  /-- The status has a place that takes it. -/
  | join (child : Pid) (status : Option UserAddr)
    (writable : ∀ place, status = some place →
      AddressSpace.checkRange caller.memory place 4 .write = .ok ()) :
    Checked caller args .join (.join child status)
  /-- A descriptor is free. -/
  | create (name : FileName) (free : caller.files.hasFree = true) :
    Checked caller args .create (.create name)
  /-- A descriptor is free. -/
  | openFile (name : FileName) (free : caller.files.hasFree = true) :
    Checked caller args .openFile (.openFile name)
  /-- The buffer may be written. -/
  | read (fd : Fd) (file : OpenFile) (buffer : UserAddr) (count : Nat)
    (held : args.a2.toNat? = some count)
    (writable : count ≠ 0 → AddressSpace.checkRange caller.memory buffer count .write = .ok ()) :
    Checked caller args .read (.read fd file buffer count)
  /-- The buffer may be read. -/
  | write (fd : Fd) (file : OpenFile) (buffer : UserAddr) (count : Nat)
    (held : args.a2.toNat? = some count)
    (readable : count ≠ 0 → AddressSpace.checkRange caller.memory buffer count .read = .ok ()) :
    Checked caller args .write (.write fd file buffer count)
  /-- The descriptor is in range. -/
  | close (fd : Fd) : Checked caller args .close (.close fd)
  /-- The name is a copy. -/
  | unlink (name : FileName) : Checked caller args .unlink (.unlink name)

/-- A place that was found for a status takes it. -/
theorem checkRange_of_statusPlace {memory : σ} {raw : Register} {status : Option UserAddr}
    (found : statusPlace memory raw = .ok status) :
    ∀ place, status = some place → AddressSpace.checkRange memory place 4 .write = .ok () := by
  unfold statusPlace at found
  split at found
  · cases found
  · split at found
    · cases found
      intro place wanted
      cases wanted
    · split at found
      · cases found
      · rename_i checked
        cases found
        intro place wanted
        cases wanted
        exact checked

theorem checkRange_of_joinArguments {memory : σ} {child : Pid} {status : Option UserAddr}
    (found : joinArguments memory args = .ok (child, status)) :
    ∀ place, status = some place → AddressSpace.checkRange memory place 4 .write = .ok () := by
  simp only [joinArguments, bind, Except.bind] at found
  split at found
  · cases found
  · split at found
    · cases found
    · rename_i placed
      cases found
      exact checkRange_of_statusPlace placed

/-- A buffer of some length may be accessed over its length. -/
theorem checkRange_of_buffer {memory : σ} {raw : Register} {len : Nat} {kind : AccessKind}
    {buffer : UserAddr} (found : Argument.buffer memory raw len kind = .ok buffer) :
    len ≠ 0 → AddressSpace.checkRange memory buffer len kind = .ok () := by
  intro nonempty
  rw [Argument.buffer, if_neg nonempty] at found
  split at found
  · cases found
  · split at found
    · cases found
    · rename_i checked
      cases found
      exact checked

/-- A request comes from its own call, and was checked. -/
theorem checked_ofCall (formed : ofCall config caller args call = .ok request) :
    Checked caller args call request := by
  cases call with
  | halt => cases formed; exact .halt
  | exit => cases formed; exact .exit _
  | exec => obtain ⟨image, _, rfl⟩ := exists_ok_of_map formed; exact .exec image
  | join =>
    obtain ⟨⟨child, status⟩, found, rfl⟩ := exists_ok_of_map formed
    exact .join child status (checkRange_of_joinArguments found)
  | create =>
    obtain ⟨name, found, rfl⟩ := exists_ok_of_map formed
    exact .create name (hasFree_of_nameToOpen found)
  | openFile =>
    obtain ⟨name, found, rfl⟩ := exists_ok_of_map formed
    exact .openFile name (hasFree_of_nameToOpen found)
  | read =>
    obtain ⟨⟨fd, file, buffer, count⟩, found, rfl⟩ := exists_ok_of_map formed
    obtain ⟨held, -, -, -, writable⟩ := transferArguments_eq_ok_iff.1 found
    exact .read fd file buffer count held (checkRange_of_buffer writable)
  | write =>
    obtain ⟨⟨fd, file, buffer, count⟩, found, rfl⟩ := exists_ok_of_map formed
    obtain ⟨held, -, -, -, readable⟩ := transferArguments_eq_ok_iff.1 found
    exact .write fd file buffer count held (checkRange_of_buffer readable)
  | close => obtain ⟨fd, _, rfl⟩ := exists_ok_of_map formed; exact .close fd
  | unlink => obtain ⟨name, _, rfl⟩ := exists_ok_of_map formed; exact .unlink name

variable {E : PagedMemory.Embedding σ} {memory : PagedMemory}

theorem answers_perform (engine : Engine σ) (wellFormed : kernel.processes.WellFormed)
    (paged : caller.memory = E.embed memory) (checked : Checked caller args call request)
    (number : Nat) :
    (request.perform engine kernel caller number).Answers kernel caller fun child value =>
      call.Yields args child value := by
  have never : ∀ child : Option (UserProcess σ), ¬ call.Yields args child SysError.sentinel :=
    call.not_yields_sentinel args
  cases checked with
  | halt => exact Service.answers_halt
  | exit status => exact Step.answers_of_not_returned (Service.exit_not_returned status)
  | exec image => exact (Service.resolves_exec engine wellFormed image).conclude never number
  | join child status writable =>
    exact (Service.resolves_join paged writable).conclude never number
  | create name free => exact (Service.resolves_create free name).conclude never number
  | openFile name free => exact (Service.resolves_openFile free name).conclude never number
  | read fd file buffer count held writable =>
    exact (Service.resolves_read paged held writable fd file).conclude never number
  | write fd file buffer count held readable =>
    exact (Service.resolves_write paged held readable fd file).conclude never number
  | close fd => exact (Service.resolves_close fd).conclude never number
  | unlink name => exact (Service.resolves_unlink name).conclude never number

end Request

namespace Kernel

variable [AddressSpace σ] {E : PagedMemory.Embedding σ} {memory : PagedMemory}

/-- The first turn of any call, with any registers. -/
theorem answers_dispatch (engine : Engine σ) (wellFormed : kernel.processes.WellFormed)
    (paged : caller.memory = E.embed memory) (number : Nat) (args : Registers) :
    (kernel.dispatch engine caller number args).Answers kernel caller fun child value =>
      ∃ call, Syscall.ofNumber? number = some call ∧ call.Yields args child value := by
  unfold dispatch
  split
  · exact Step.answers_of_not_returned fun _ returned => nomatch returned
  · split
    · have traceless := Step.leavesNoTrace_still kernel caller
        (Progress.finished (.returned SysError.sentinel))
      exact Step.answers_of_refused (traceless.after_note _) rfl rfl
    · refine Step.Answers.after_note ?_ rfl
      have refusal : ∀ error,
          ((Step.still kernel caller (.failed error)).conclude number).Answers kernel caller
            fun child value =>
              ∃ call, Syscall.ofNumber? number = some call ∧ call.Yields args child value := by
        intro error
        refine (Step.resolves_still kernel caller error).conclude ?_ number
        rintro child ⟨call, _, yielded⟩
        exact call.not_yields_sentinel args child yielded
      unfold call
      split
      · exact (refusal _).after_note rfl
      · rename_i call known
        split
        · exact refusal _
        · rename_i request formed
          exact (Request.answers_perform engine wellFormed paged (Request.checked_ofCall formed)
            number).mono fun child value yielded => ⟨call, known, yielded⟩

/-- A process that was torn down is refused. -/
theorem dispatch_of_terminated (engine : Engine σ) (goesOn : kernel.isHalted = false)
    (torn : caller.terminated = true) (number : Nat) (args : Registers) :
    kernel.dispatch engine caller number args =
      (Step.still kernel caller (.finished (.returned SysError.sentinel))).after
        [.note (.calledAfterEnd caller.pid number)] := by
  rw [dispatch, goesOn, torn, if_neg Bool.false_ne_true, if_pos rfl]

/-- On a running machine a call of a live process is performed if its registers make a
request. -/
theorem dispatch_of_request (engine : Engine σ) (goesOn : kernel.isHalted = false)
    (live : caller.terminated = false) {call : Syscall} {args : Registers} {request : Request}
    (formed : Request.ofCall kernel.config caller args call = .ok request) :
    kernel.dispatch engine caller call.number args =
      (request.perform engine kernel caller call.number).after
        [.note (.called caller.pid call.number args)] := by
  have known : Syscall.ofNumber? call.number = some call := Syscall.ofNumber?_eq_some_iff.2 rfl
  rw [dispatch, goesOn, live, if_neg Bool.false_ne_true, if_neg Bool.false_ne_true, Kernel.call]
  simp only [known, formed]

/-- It fails at once if they do not. -/
theorem dispatch_of_malformed (engine : Engine σ) (goesOn : kernel.isHalted = false)
    (live : caller.terminated = false) {call : Syscall} {args : Registers} {error : SysError}
    (malformed : Request.ofCall kernel.config caller args call = .error error) :
    kernel.dispatch engine caller call.number args =
      ((Step.still kernel caller (.failed error)).conclude call.number).after
        [.note (.called caller.pid call.number args)] := by
  have known : Syscall.ofNumber? call.number = some call := Syscall.ofNumber?_eq_some_iff.2 rfl
  rw [dispatch, goesOn, live, if_neg Bool.false_ne_true, if_neg Bool.false_ne_true, Kernel.call]
  simp only [known, malformed]

/-- A call that its caller, or the machine, does not survive. -/
def Departs (kernel : Kernel) (caller : UserProcess σ) (number : Nat) : Prop :=
  number = Syscall.exit.number ∨
    number = Syscall.halt.number ∧ kernel.processes.isRoot caller.pid = true

/-- Who leaves never comes back. -/
theorem dispatch_not_returned (engine : Engine σ) (live : caller.terminated = false) {number : Nat}
    (departs : kernel.Departs caller number) (args : Registers) (value : Register) :
    (kernel.dispatch engine caller number args).value ≠ .finished (.returned value) := by
  unfold dispatch
  split
  · exact fun returned => nomatch returned
  · rw [live, if_neg Bool.false_ne_true]
    rcases departs with rfl | ⟨rfl, root⟩
    · exact (Service.exit_not_returned args.a0 value :
        (Service.exit kernel caller args.a0).value ≠ .finished (.returned value))
    · exact Service.halt_not_returned root value

/-- Each later turn of a join whose status has a place that takes it. -/
theorem answers_resume (paged : caller.memory = E.embed memory) {pending : PendingJoin}
    (writable : ∀ place, pending.status = some place →
      AddressSpace.checkRange caller.memory place 4 .write = .ok ()) (args : Registers) :
    (kernel.resume caller pending).Answers kernel caller fun child value =>
      Syscall.join.Yields args child value :=
  (Service.resolves_join paged writable).conclude (Syscall.join.not_yields_sentinel args) _

end Kernel

end SyscallKernel
