import SyscallKernel.Proofs.Kernel.Custody
import SyscallKernel.Proofs.Kernel.FileReads

/-!
# Calls that join a child

The place for the status of a child is checked before the child is asked for. A place that was
found takes the status whenever it comes, so a child is reaped only together with the delivery
of its status, and a join that is refused has not touched it.
-/

namespace SyscallKernel

variable {σ : Type}

/-- The null register is the only one that holds zero. -/
theorem Register.toNat?_eq_zero {raw : Register} : raw.toNat? = some 0 ↔ raw = 0 := by
  constructor
  · intro held
    have same := (toInt_of_toNat? held).1
    exact Int32.toInt_inj.1 (same.trans (by decide))
  · rintro rfl
    decide

/-- A register is null, or leads to four bytes that may be written. -/
def PagedMemory.TakesWord (memory : PagedMemory) (raw : Register) : Prop :=
  raw = 0 ∨ ∃ start, raw.toNat? = some start ∧ memory.Accepts start 4

namespace Request

variable [AddressSpace σ] {E : PagedMemory.Embedding σ} {memory : PagedMemory} {args : Registers}

/-- What a register for the place of a status comes to. -/
inductive Placed (E : PagedMemory.Embedding σ) (memory : PagedMemory) (raw : Register) :
    Except SysError (Option UserAddr) → Prop where
  /-- The null pointer asks for none. -/
  | none (null : raw = 0) : Placed E memory raw (.ok none)
  /-- There is a place. -/
  | some {start : Nat} (held : raw.toNat? = some start) (accepts : memory.Accepts start 4) :
    Placed E memory raw (.ok (some (.ofBuffer raw)))
  /-- There is none. -/
  | refused (bad : ¬ memory.TakesWord raw) : Placed E memory raw (.error .badAddress)

theorem placed_statusPlace (E : PagedMemory.Embedding σ) (memory : PagedMemory) (raw : Register) :
    Placed E memory raw (statusPlace (E.embed memory) raw) := by
  unfold statusPlace
  cases held : raw.toNat? with
  | none =>
    have bad : ¬ memory.TakesWord raw := by
      rintro (rfl | ⟨start, held', -⟩)
      · cases held
      · rw [held] at held'
        cases held'
    simp only [UserAddr.ofRegister?, held, Option.map_none]
    exact .refused bad
  | some start =>
    have named : UserAddr.ofRegister? raw = some (.ofBuffer raw) := by
      simp only [UserAddr.ofBuffer, UserAddr.ofRegister?, held, Option.map_some, Option.getD_some]
    have value := UserAddr.value_ofBuffer held
    simp only [named, UserAddr.isNull, value]
    split
    · rename_i null
      have null : start = 0 := by simpa using null
      exact .none (Register.toNat?_eq_zero.1 (held.trans (by rw [null])))
    · rename_i above
      have above : start ≠ 0 := by simpa using above
      have checks := @Argument.checkRange_write_ofBuffer memory raw start 4 held (by decide)
      rw [E.checkRange_embed]
      cases checked : memory.checkRange (.ofBuffer raw) 4 .write with
      | error fault =>
        refine .refused ?_
        rintro (rfl | ⟨start', held', accepts⟩)
        · cases held
          exact above rfl
        · rw [held] at held'
          cases held'
          rw [checks.2 accepts.2] at checked
          cases checked
      | ok done => exact .some held ⟨Nat.pos_of_ne_zero above, checks.1 checked⟩

/-- The arguments of a join name a child, and a place for its status if they want one. -/
theorem joinArguments_eq_ok_iff {memory : σ} {child : Pid} {status : Option UserAddr} :
    joinArguments memory args = .ok (child, status) ↔
      Pid.ofRegister? args.a0 = some child ∧ statusPlace memory args.a1 = .ok status := by
  unfold joinArguments
  cases Pid.ofRegister? args.a0 with
  | none => simp only [reduceCtorEq, false_and]
  | some named =>
    cases statusPlace memory args.a1 with
    | error error => simp [bind, Except.bind]
    | ok place =>
      simp [bind, Except.bind, pure, Except.pure]

/-- A place that takes no word spoils a join. -/
theorem exists_joinArguments_eq_error (bad : ¬ memory.TakesWord args.a1) :
    ∃ error, joinArguments (E.embed memory) args = .error error := by
  cases formed : joinArguments (E.embed memory) args with
  | error error => exact ⟨error, rfl⟩
  | ok arguments =>
    obtain ⟨child, status⟩ := arguments
    have placed := placed_statusPlace E memory args.a1
    rw [(joinArguments_eq_ok_iff.1 formed).2] at placed
    refine absurd ?_ bad
    cases placed with
    | none null => exact .inl null
    | some held accepts => exact .inr ⟨_, held, accepts⟩

/-- A place that takes a word is found. -/
theorem exists_joinArguments_eq_ok {child : Pid} (named : Pid.ofRegister? args.a0 = some child)
    (takes : memory.TakesWord args.a1) :
    ∃ status, joinArguments (E.embed memory) args = .ok (child, status) := by
  have placed := placed_statusPlace E memory args.a1
  cases found : statusPlace (E.embed memory) args.a1 with
  | error error =>
    rw [found] at placed
    cases placed with
    | refused bad => exact absurd takes bad
  | ok status => exact ⟨status, joinArguments_eq_ok_iff.2 ⟨named, found⟩⟩

end Request

/-! ### Turns of a join -/

namespace Step

variable [AddressSpace σ]

/-- A turn has reaped a child of its caller, and nothing else of the kernel has changed. -/
structure Reaps (kernel : Kernel) (caller : UserProcess σ) (child : Pid) (how : Termination)
    (turn : Turn σ) : Prop where
  /-- The child was one of the caller, had terminated so, and is forgotten. -/
  reaping : kernel.processes.Reaping caller.pid child how turn.kernel.processes
  /-- The files, the console and the limits are as before. -/
  rest : turn.kernel = { kernel with processes := turn.kernel.processes }
  /-- No process was started. -/
  child_eq : turn.child = none

/-- A turn has stored a status where a register says, unless the register is null. -/
inductive Stores (E : PagedMemory.Embedding σ) (caller : UserProcess σ) (memory : PagedMemory)
    (place status : Register) (turn : Turn σ) : Prop where
  /-- The status was not wanted. -/
  | unwanted (null : place = 0) (same : turn.caller = caller)
  /-- The four bytes of the status were laid over memory, and nothing else of the caller has
  changed. -/
  | stored {start : Nat} {memory' : PagedMemory} (held : place.toNat? = some start)
    (above : 0 < start) (overlaid : memory.Overlaid start (Bytes.ofWord status.toUInt32) memory')
    (changed : turn.caller = { caller with memory := E.embed memory' })

/-- A turn has handed the result of a child over. -/
inductive HandsOver (E : PagedMemory.Embedding σ) (kernel : Kernel) (caller : UserProcess σ)
    (memory : PagedMemory) (place : Register) (child : Pid) (turn : Turn σ) : Termination → Prop where
  /-- The child had exited. -/
  | exited {status : Register} (value : turn.value = .finished (.returned 1))
    (reaps : turn.Reaps kernel caller child (.exited status))
    (stores : turn.Stores E caller memory place status) :
    HandsOver E kernel caller memory place child turn (.exited status)
  /-- The child was killed. -/
  | killed (value : turn.value = .finished (.returned 0))
    (reaps : turn.Reaps kernel caller child .killed) (same : turn.caller = caller) :
    HandsOver E kernel caller memory place child turn .killed

/-- What a turn of a join comes to. -/
inductive Joins (E : PagedMemory.Embedding σ) (kernel : Kernel) (caller : UserProcess σ)
    (memory : PagedMemory) (args : Registers) (turn : Turn σ) : Prop where
  /-- The machine has halted. -/
  | halted (value : turn.value = .finished .halted) (traceless : turn.LeavesNoTrace kernel caller)
  /-- The join is refused: nobody was reaped, nobody is registered as a waiter. -/
  | refused (value : turn.value = .finished (.returned SysError.sentinel))
    (traceless : turn.LeavesNoTrace kernel caller)
  /-- The caller has to wait for its child. -/
  | waits (pending : PendingJoin) (named : Pid.ofRegister? args.a0 = some pending.child)
    (value : turn.value = .suspended pending) (same : turn.caller = caller)
  /-- The child is reaped. -/
  | reaped {child : Pid} {how : Termination} (named : Pid.ofRegister? args.a0 = some child)
    (handsOver : turn.HandsOver E kernel caller memory args.a1 child how)

end Step

variable [AddressSpace σ] {E : PagedMemory.Embedding σ} {memory : PagedMemory} {kernel : Kernel}
  {caller : UserProcess σ} {args : Registers} {pending : PendingJoin} {child : Pid}
  {how : Termination}

namespace Kernel

theorem value_pollJoin_of_pending {parent : Pid} {table : ProcessTable}
    (result : kernel.processes.pollJoin parent child = .ok (table, .pending)) :
    (kernel.pollJoin parent child).value = .ok .pending := by
  simp only [pollJoin, result]
  rfl

/-- A turn of a join whose child has terminated hands its result over. -/
theorem handsOver_resume (wellFormed : kernel.processes.WellFormed)
    (paged : caller.memory = E.embed memory) (pending : PendingJoin)
    (placed : Request.Placed E memory args.a1 (.ok pending.status)) {table : ProcessTable}
    (result : kernel.processes.pollJoin caller.pid pending.child = .ok (table, .ready how)) :
    (kernel.resume caller pending).HandsOver E kernel caller memory args.a1 pending.child how := by
  have reaping := ProcessTable.reaping_of_pollJoin wellFormed result
  have up : ({ kernel with processes := table } : Kernel).isHalted = false :=
    reaping.isShutdown.trans reaping.notShutdown
  have polled : kernel.pollJoin caller.pid pending.child =
      ⟨{ kernel with processes := table }, [.note (.reaped caller.pid pending.child)],
        .ok (.ready how)⟩ := by
    simp only [pollJoin, result]
  simp only [resume, Service.join, polled, Reaction.toStep]
  cases how with
  | killed =>
    rw [Service.deliver, Step.conclude_answered rfl up]
    exact .killed rfl ⟨reaping, rfl, rfl⟩ rfl
  | exited status =>
    obtain ⟨wanted, place⟩ := pending
    cases placed with
    | none null =>
      rw [Service.deliver, Step.conclude_answered rfl up]
      exact .exited rfl ⟨reaping, rfl, rfl⟩ (.unwanted null rfl)
    | @some start held accepts =>
      have checked := (@Argument.checkRange_write_ofBuffer memory args.a1 start 4 held (by decide)).2
        accepts.2
      have bytes := PagedMemory.checkRange_eq_ok_iff.1 checked
      have overlaid : memory.Overlaid (UserAddr.ofBuffer args.a1).value
          (Bytes.ofWord status.toUInt32)
          (memory.store (.ofBuffer args.a1) (Bytes.ofWord status.toUInt32)) :=
        PagedMemory.overlaid_store fun i within => (bytes i within).2
      rw [UserAddr.value_ofBuffer held] at overlaid
      rw [← E.checkRange_embed, ← paged] at checked
      have written := Service.writeWord_of_checked paged checked status
      simp only [Service.deliver, written]
      rw [Step.conclude_answered rfl up]
      exact .exited rfl ⟨reaping, rfl, rfl⟩ (.stored held accepts.1 overlaid rfl)

/-- Each turn of a join whose registers were checked. -/
theorem joins_resume (wellFormed : kernel.processes.WellFormed)
    (paged : caller.memory = E.embed memory)
    (checked : Request.joinArguments caller.memory args = .ok (pending.child, pending.status)) :
    (kernel.resume caller pending).Joins E kernel caller memory args := by
  obtain ⟨named, placed⟩ := Request.joinArguments_eq_ok_iff.1 checked
  have place := Request.placed_statusPlace E memory args.a1
  rw [← paged, placed] at place
  cases halted : kernel.isHalted with
  | true =>
    rw [resume_of_isHalted halted]
    exact .halted rfl (Step.leavesNoTrace_still kernel caller _)
  | false =>
    cases result : kernel.processes.pollJoin caller.pid pending.child with
    | error error =>
      have refused : Service.join kernel caller pending = .still kernel caller (.failed error) := by
        simp only [Service.join, pollJoin, result]
        rfl
      rw [resume, refused, Step.conclude_failed halted]
      exact .refused rfl ⟨rfl, rfl, rfl, fun effect member => ⟨_, List.mem_singleton.1 member⟩⟩
    | ok joined =>
      obtain ⟨table, poll⟩ := joined
      cases poll with
      | pending =>
        rw [resume_of_pending (value_pollJoin_of_pending result)]
        exact .waits pending named rfl rfl
      | ready how => exact .reaped named (handsOver_resume wellFormed paged _ place result)

end Kernel

namespace Step

variable {turn : Turn σ}

/-- One more log record changes nothing about what a turn has handed over. -/
theorem HandsOver.after_note {place : Register}
    (handsOver : turn.HandsOver E kernel caller memory place child how) (notice : Notice) :
    (turn.after [.note notice]).HandsOver E kernel caller memory place child how := by
  cases handsOver with
  | exited value reaps stores =>
    refine .exited value ⟨reaps.reaping, reaps.rest, reaps.child_eq⟩ ?_
    cases stores with
    | unwanted null same => exact .unwanted null same
    | stored held above overlaid changed => exact .stored held above overlaid changed
  | killed value reaps same => exact .killed value ⟨reaps.reaping, reaps.rest, reaps.child_eq⟩ same

theorem Joins.after_note (joins : turn.Joins E kernel caller memory args) (notice : Notice) :
    (turn.after [.note notice]).Joins E kernel caller memory args := by
  cases joins with
  | halted value traceless => exact .halted value (traceless.after_note notice)
  | refused value traceless => exact .refused value (traceless.after_note notice)
  | waits pending named value same => exact .waits pending named value same
  | reaped named handsOver => exact .reaped named (handsOver.after_note notice)

end Step

namespace Kernel

/-- On a running machine a join of a live process whose registers do not pass is refused. -/
theorem dispatch_join_of_error (engine : Engine σ) (up : kernel.isHalted = false)
    (live : caller.terminated = false) {error : SysError}
    (malformed : Request.joinArguments caller.memory args = .error error) :
    (kernel.dispatch engine caller Syscall.join.number args).value =
        .finished (.returned SysError.sentinel) ∧
      (kernel.dispatch engine caller Syscall.join.number args).LeavesNoTrace kernel caller := by
  have refused : Request.ofCall kernel.config caller args .join = .error error := by
    rw [Request.ofCall, malformed]
    rfl
  obtain ⟨value, traceless, -⟩ := refuses_dispatch engine up live refused
  exact ⟨value, traceless⟩

/-- A join of a live process whose registers pass is one that was asked for. -/
theorem asked?_of_ok (up : kernel.isHalted = false) (live : caller.terminated = false)
    (formed : Request.joinArguments caller.memory args = .ok (pending.child, pending.status)) :
    kernel.asked? caller Syscall.join.number args = some pending :=
  asked?_eq_some_iff.2 ⟨up, live, Syscall.ofNumber?_eq_some_iff.2 rfl, formed⟩

/-- The first turn of a join on a running machine. -/
theorem joins_dispatch (engine : Engine σ) (wellFormed : kernel.processes.WellFormed)
    (up : kernel.isHalted = false) (live : caller.terminated = false)
    (paged : caller.memory = E.embed memory) :
    (kernel.dispatch engine caller Syscall.join.number args).Joins E kernel caller memory args := by
  cases formed : Request.joinArguments caller.memory args with
  | error error =>
    obtain ⟨value, traceless⟩ := dispatch_join_of_error engine up live formed
    exact .refused value traceless
  | ok arguments =>
    obtain ⟨child, status⟩ := arguments
    have formed : Request.joinArguments caller.memory args =
        .ok ((⟨child, status⟩ : PendingJoin).child, (⟨child, status⟩ : PendingJoin).status) := formed
    rw [dispatch_of_asked? engine (asked?_of_ok up live formed)]
    exact (joins_resume wellFormed paged formed).after_note _

/-- The first turn of a join of a child that has terminated hands its result over, if there is
a place for a status. -/
theorem handsOver_dispatch (engine : Engine σ) (wellFormed : kernel.processes.WellFormed)
    (up : kernel.isHalted = false) (live : caller.terminated = false)
    (paged : caller.memory = E.embed memory) (named : Pid.ofRegister? args.a0 = some child)
    (takes : memory.TakesWord args.a1)
    (isChild : kernel.processes.parent? child = some caller.pid)
    (ended : kernel.processes.state? child = some (.zombie how)) :
    (kernel.dispatch engine caller Syscall.join.number args).HandsOver E kernel caller memory
      args.a1 child how := by
  obtain ⟨status, formed⟩ := Request.exists_joinArguments_eq_ok (E := E) named takes
  obtain ⟨table, result⟩ := ProcessTable.pollJoin_zombie wellFormed isChild ended up
  have place := Request.placed_statusPlace E memory args.a1
  rw [(Request.joinArguments_eq_ok_iff.1 formed).2] at place
  rw [← paged] at formed
  have asked : kernel.asked? caller Syscall.join.number args = some ⟨child, status⟩ :=
    asked?_of_ok up live formed
  have handsOver : (kernel.resume caller ⟨child, status⟩).HandsOver E kernel caller memory args.a1
      child how := handsOver_resume wellFormed paged ⟨child, status⟩ place result
  rw [dispatch_of_asked? engine asked]
  exact handsOver.after_note _

/-- A later turn of a join never returns the sentinel as long as the child is the caller's. -/
theorem resume_ne_sentinel (wellFormed : kernel.processes.WellFormed)
    (paged : caller.memory = E.embed memory)
    (checked : Request.joinArguments caller.memory args = .ok (pending.child, pending.status))
    (isChild : kernel.processes.parent? pending.child = some caller.pid) :
    (kernel.resume caller pending).value ≠ .finished (.returned SysError.sentinel) := by
  have place := Request.placed_statusPlace E memory args.a1
  rw [← paged, (Request.joinArguments_eq_ok_iff.1 checked).2] at place
  cases halted : kernel.isHalted with
  | true =>
    rw [resume_of_isHalted halted]
    exact fun returned => nomatch returned
  | false =>
    obtain ⟨⟨table, poll⟩, result⟩ := ProcessTable.exists_pollJoin_eq_ok wellFormed halted isChild
    cases poll with
    | pending =>
      rw [resume_of_pending (value_pollJoin_of_pending result)]
      exact fun returned => nomatch returned
    | ready how =>
      cases handsOver_resume wellFormed paged _ place result with
      | exited value =>
        rw [value]
        decide
      | killed value =>
        rw [value]
        decide

end Kernel

end SyscallKernel
