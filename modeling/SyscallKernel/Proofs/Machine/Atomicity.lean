import SyscallKernel.Memory.Image
import SyscallKernel.Proofs.Kernel.Answers
import SyscallKernel.Proofs.Machine.Wakeups

/-!
# Calls happen whole or not at all

In every world that a run can reach, a call of a process with paged memory that returns
the sentinel leaves nothing behind but records in the log, and any other value that is
returned says that the call succeeded. A join that waited is no exception: the place for
the status was checked before the wait, and nobody can take it away meanwhile, for the
process takes no step of its own.
-/

namespace SyscallKernel

variable {σ : Type} [AddressSpace σ]

/-- The place for the status that a process inside a join waits for takes it. -/
def Joiner.Prepared (joiner : Joiner σ) : Prop :=
  ∀ pending, joiner.errand = .call pending → ∀ place, pending.status = some place →
    AddressSpace.checkRange joiner.process.memory place 4 .write = .ok ()

namespace World

variable {world world' : World σ} {occurrence : Occurrence} {log : List Effect}

/-- All processes inside joins are prepared for their end. -/
def Prepared (world : World σ) : Prop := ∀ joiner ∈ world.joiners, joiner.Prepared

/-- A call that waits is a join whose registers were checked, by a caller that stays as
it was. -/
theorem prepared_of_suspended {engine : Engine σ} {kernel : Kernel} {caller : UserProcess σ}
    {number : Nat} {args : Registers} {pending : PendingJoin} {phase : JoinPhase}
    (suspended : (kernel.dispatch engine caller number args).value = .suspended pending) :
    Joiner.Prepared
      ⟨(kernel.dispatch engine caller number args).caller, .call pending, phase⟩ := by
  obtain ⟨asked, _, sameCaller, _⟩ := Kernel.dispatch_of_suspended suspended
  have checked := (Kernel.asked?_eq_some_iff.1 asked).2.2.2
  rw [sameCaller]
  intro waiting same
  cases same
  exact Request.checkRange_of_joinArguments checked

/-- How far a process has got does not matter. -/
theorem Prepared.rephase (prepared : world.Prepared) {before after : List (Joiner σ)}
    {joiner : Joiner σ} {phase : JoinPhase} (listed : world.joiners = before ++ joiner :: after)
    (changed : world'.joiners = before ++ { joiner with phase } :: after) : world'.Prepared := by
  intro other member
  rcases (mem_joiners changed other).1 member with rfl | stayed
  · exact prepared joiner ((mem_joiners listed joiner).2 (.inl rfl))
  · exact prepared other ((mem_joiners listed other).2 (.inr stayed))

/-- Each step leaves everybody inside a join prepared. -/
theorem Step.prepared (step : world.Step occurrence world') (prepared : world.Prepared) :
    world'.Prepared := by
  cases step with
  | boot | spawn | exit | abort | halt | deliver | permit | compute | console | equip =>
    exact prepared
  | call caller listed number args =>
    unfold proceed
    split
    · exact prepared
    · rename_i pending suspended
      intro joiner member
      rcases List.mem_cons.1 member with rfl | stayed
      · exact prepared_of_suspended suspended
      · exact prepared joiner stayed
  | enter process listed live child =>
    intro joiner member
    rcases List.mem_cons.1 member with rfl | stayed
    · exact fun _ same => nomatch same
    · exact prepared joiner stayed
  | ask joiner listed asking =>
    have members := mem_joiners listed
    unfold World.asked
    simp only
    split
    · rename_i waits
      rw [(Errand.ask_of_waits waits).1]
      intro other member
      rcases List.mem_cons.1 member with rfl | stayed
      · exact prepared joiner ((members joiner).2 (.inl rfl))
      · exact prepared other ((members other).2 (.inr stayed))
    · exact fun other member => prepared other ((members other).2 (.inr member))
  | block joiner listed told without => exact prepared.rephase listed rfl
  | rise joiner listed waits permitted => exact prepared.rephase listed rfl

theorem Run.prepared {engine : Engine σ} {config : Config} {console : ConsoleDevice}
    (run : Run engine config console log world) : world.Prepared := by
  induction run with
  | start => exact fun _ member => nomatch member
  | step earlier step ih => exact step.prepared ih

/-- Every call happens whole or not at all, if its caller has paged memory. -/
structure ErrorAtomic (E : PagedMemory.Embedding σ) (world : World σ) : Prop where
  /-- The first turn of any call, by any process and with any registers: if it returns the
  sentinel it leaves no trace, and if it returns anything else then a value for success. -/
  call : ∀ (engine : Engine σ) (caller : UserProcess σ) (memory : PagedMemory),
    caller.memory = E.embed memory → ∀ (number : Nat) (args : Registers),
      (world.machine.kernel.dispatch engine caller number args).Answers world.machine.kernel caller
        fun child value =>
          ∃ call, Syscall.ofNumber? number = some call ∧ call.Yields args child value
  /-- Neither who exits nor the root after its halt ever comes back. -/
  departure : ∀ (engine : Engine σ) (caller : UserProcess σ) (number : Nat) (args : Registers),
    caller.terminated = false → world.machine.kernel.Departs caller number →
      ∀ value, (world.machine.kernel.dispatch engine caller number args).value ≠
        .finished (.returned value)
  /-- Each later turn of a join that waited. -/
  resumption : ∀ joiner ∈ world.joiners, ∀ (pending : PendingJoin) (memory : PagedMemory),
    joiner.errand = .call pending → joiner.process.memory = E.embed memory →
      (world.machine.kernel.resume joiner.process pending).Answers world.machine.kernel
        joiner.process fun _ value => value.toInt = 0 ∨ value.toInt = 1

/-- In every world that a run reaches, every call happens whole or not at all. -/
theorem Run.errorAtomic {engine : Engine σ} {config : Config} {console : ConsoleDevice}
    (run : Run engine config console log world) (E : PagedMemory.Embedding σ) :
    world.ErrorAtomic E where
  call other _ _ paged number args :=
    Kernel.answers_dispatch other run.orderly.table paged number args
  departure other _ _ args live departs value :=
    Kernel.dispatch_not_returned other live departs args value
  resumption joiner member pending _ errand paged :=
    Kernel.answers_resume paged (run.prepared joiner member pending errand) ⟨0, 0, 0, 0⟩

/-- An engine whose programs have one page of memory and do nothing. -/
def paging : Engine ImageMemory := ⟨fun _ => .ok ⟨.ofPageCount 1, false⟩, fun _ => .park⟩

/-- A child exits. Its parent, whose memory is one page, asks to read into a buffer that
straddles the end of the page, and is refused without a trace; then it joins its child. -/
theorem errorAtomic_with_straddling_buffer :
    ∃ log, ∃ world : World ImageMemory, Run paging {} .unlimited log world ∧
      world.ErrorAtomic .image ∧ ∃ caller ∈ world.machine.parked,
        (world.machine.kernel.dispatch paging caller Syscall.read.number
          ⟨0, 1016, 16, 0⟩).LeavesNoTrace world.machine.kernel caller ∧
        (world.machine.kernel.dispatch paging caller Syscall.join.number ⟨2, 16, 0, 0⟩).value =
          .finished (.returned 1) := by
  have switchedOn : Run paging {} .unlimited [] _ := .start
  have rooted := switchedOn.step (.spawn none idler)
  have adopted := rooted.step (.spawn (some ⟨1⟩) idler)
  have ended := adopted.step (.exit _ (rfl : _ = [] ++ _ :: [_]) 7)
  have atomic := ended.errorAtomic .image
  refine ⟨_, _, ended, atomic, _, List.mem_cons_of_mem _ List.mem_cons_self, ?_, by decide +kernel⟩
  exact (atomic.call paging _ _ rfl _ _).refused (by decide +kernel)

end World

end SyscallKernel
