import SyscallKernel.Proofs.Kernel.JoinCalls
import SyscallKernel.Proofs.Machine.Aftermath
import SyscallKernel.Proofs.Machine.FileReads

/-!
# Joins in a running machine

A call that joins a child may have to wait, and others run meanwhile. None of them can end the
caller, take its child away or reap it, or touch the caller's memory; so the child is still
there to be asked for whenever the caller comes back, and the place that was found for the
status still takes it. A result that was not handed over is kept for a later join.
-/

namespace SyscallKernel.World

variable {σ : Type} [AddressSpace σ] {world world' world'' : World σ} {log later : List Effect}
  {occurrence : Occurrence} {caller : UserProcess σ} {args : Registers} {pending : PendingJoin}
  {parent child : Pid}

/-! ### What is kept -/

/-- A parent keeps its child in a step unless the effects tell of the loss. -/
theorem Step.keeps (step : world.Step occurrence world') (orderly : world.Orderly log)
    (unreaped : .note (.reaped parent child) ∉ occurrence.effects)
    (unended : ∀ how, .note (.terminated parent how) ∉ occurrence.effects) :
    world.machine.kernel.processes.Keeps parent child world'.machine.kernel.processes :=
  Kernel.Does.keeps step.does orderly.table unreaped unended

/-- A parent keeps its child for as long as no effect tells of the loss. -/
theorem Later.keeps (follows : world.Later later world') (orderly : world.Orderly log)
    (unreaped : .note (.reaped parent child) ∉ later)
    (unended : ∀ how, .note (.terminated parent how) ∉ later) :
    world.machine.kernel.processes.Keeps parent child world'.machine.kernel.processes ∧
      world'.Orderly (log ++ later) := by
  induction follows with
  | now =>
    rw [List.append_nil]
    exact ⟨.refl _ _ _, orderly⟩
  | step earlier step ih =>
    simp only [List.mem_append, not_or] at unreaped unended
    obtain ⟨kept, orderly'⟩ := ih unreaped.1 fun how => (unended how).1
    rw [← List.append_assoc]
    exact ⟨kept.trans (step.keeps orderly' unreaped.2 fun how => (unended how).2),
      step.orderly orderly'⟩

omit [AddressSpace σ] in
/-- A live process that is parked is none of those inside joins. -/
theorem Orderly.pid_ne_of_parked (orderly : world.Orderly log) {before after : List (UserProcess σ)}
    {process : UserProcess σ} (listed : world.machine.parked = before ++ process :: after)
    {joiner : Joiner σ} (member : joiner ∈ world.joiners) (live : process.terminated = false) :
    joiner.process.pid ≠ process.pid := by
  intro same
  have nodup := (orderly.staffed.perm (roster_perm (perm_of_parked listed))).nodup
  rw [roster_append, roster_singleton, UserProcess.roster, live] at nodup
  refine (List.nodup_cons.1 nodup).1 ?_
  rw [← same]
  exact mem_roster (List.mem_append_right _ (List.mem_map_of_mem member)) (orderly.live joiner member)

/-- After a round of a join the kernel is the one that the round leaves. -/
theorem kernel_asked (world : World σ) (joiner : Joiner σ) (others : List (Joiner σ)) :
    (world.asked joiner others).machine.kernel =
      (joiner.errand.ask world.machine.kernel joiner.process).kernel := by
  unfold asked
  simp only
  split <;> rfl

/-- Whoever stays inside a join keeps all its children, whatever happens meanwhile. -/
theorem Step.keeps_of_inside (step : world.Step occurrence world') (orderly : world.Orderly log)
    {joiner : Joiner σ} (member : joiner ∈ world.joiners)
    (inside : ∃ phase, { joiner with phase } ∈ world'.joiners) (child : Pid) :
    world.machine.kernel.processes.Keeps joiner.process.pid child
      world'.machine.kernel.processes := by
  have runs : world.machine.kernel.processes.isRunning joiner.process.pid = true :=
    (orderly.staffed.mem_iff _).1 (mem_roster
      (List.mem_append_right _ (List.mem_map_of_mem member)) (orderly.live joiner member))
  cases step with
  | boot program args => exact Kernel.keeps_boot world.machine.engine orderly.table runs program args
  | spawn adopter image =>
    exact Kernel.keeps_spawn world.machine.engine orderly.table runs adopter image
  | call caller listed number args =>
    rw [kernel_proceed]
    exact Kernel.keeps_dispatch world.machine.engine orderly.table runs
      (orderly.pid_ne_of_parked listed member) number args
  | exit process listed status =>
    exact Kernel.keeps_terminate orderly.table (orderly.pid_ne_of_parked listed member) _
  | abort process listed fault =>
    exact Kernel.keeps_terminate orderly.table (orderly.pid_ne_of_parked listed member) _
  | halt pid => exact world.machine.kernel.keeps_halt pid
  | ask asker listed asking =>
    rw [kernel_asked]
    rcases (mem_joiners listed joiner).1 member with rfl | other
    · -- The process that asks stays inside only if it is told to wait.
      cases waits : (joiner.errand.ask world.machine.kernel joiner.process).value with
      | true =>
        have told := Kernel.joinEnd?_eq_none_iff.1 ((Errand.value_ask _ _ _).1 waits)
        rw [(Errand.ask_of_waits waits).2]
        exact Kernel.keeps_of_told orderly.table told
      | false =>
        obtain ⟨phase, inside⟩ := inside
        simp only [World.asked, waits, Bool.false_eq_true, if_false, react] at inside
        exact absurd rfl (orderly.apart listed { joiner with phase } inside)
    · have apart := orderly.apart listed joiner other
      cases asker.errand with
      | direct wanted => exact Kernel.keeps_pollJoin orderly.table apart wanted
      | call pending =>
        have keeps : world.machine.kernel.processes.Keeps joiner.process.pid child _ :=
          Service.keeps_join orderly.table apart pending
        simp only [Errand.ask, Kernel.resume]
        rw [(Step.same_conclude _ _).1]
        exact keeps
  | enter | block | rise | deliver | permit | compute | console | equip => exact .refl _ _ _

/-! ### Waiting -/

/-- A process has called to join a child and has waited ever since, while others ran. -/
inductive WaitsInCall (world : World σ) (caller : UserProcess σ) (args : Registers)
    (pending : PendingJoin) : World σ → Prop where
  /-- The call was told to wait. -/
  | told {before after : List (UserProcess σ)}
    (listed : world.machine.parked = before ++ caller :: after)
    (suspended : (world.turn caller .join args).value = .suspended pending) :
    WaitsInCall world caller args pending
      (world.proceed (world.turn caller .join args) (before ++ after))
  /-- One more step, after which the process is still inside its join. -/
  | step {world' world'' : World σ} {occurrence : Occurrence}
    (earlier : WaitsInCall world caller args pending world') (step : world'.Step occurrence world'')
    (inside : ∃ phase, ⟨caller, .call pending, phase⟩ ∈ world''.joiners) :
    WaitsInCall world caller args pending world''

/-- What holds of a world while a process waits in a join. -/
structure StillWaits (world : World σ) (caller : UserProcess σ) (pending : PendingJoin) : Prop where
  /-- The world is orderly. -/
  orderly : ∃ log, world.Orderly log
  /-- The process is inside its join, and as it was when it called. -/
  inside : ∃ phase, ⟨caller, .call pending, phase⟩ ∈ world.joiners
  /-- The child that it waits for is its own. -/
  isChild : world.machine.kernel.processes.parent? pending.child = some caller.pid

theorem WaitsInCall.stillWaits (waits : world.WaitsInCall caller args pending world')
    (orderly : world.Orderly log) : world'.StillWaits caller pending := by
  induction waits with
  | told listed suspended =>
    obtain ⟨asked, told, sameCaller, sameKernel⟩ := Kernel.dispatch_of_suspended suspended
    constructor
    case orderly => exact ⟨_, (Step.call caller listed Syscall.join.number args).orderly orderly⟩
    case inside =>
      refine ⟨.told, ?_⟩
      rw [proceed, suspended]
      simp only [react, turn, sameCaller]
      exact List.mem_cons_self
    case isChild =>
      rw [kernel_proceed, turn, sameKernel]
      exact (Kernel.isAwaited_of_pollJoin orderly.table told).adopted
  | step earlier step inside ih =>
    obtain ⟨⟨log', orderly'⟩, ⟨phase, member⟩, isChild⟩ := ih
    exact ⟨⟨_, step.orderly orderly'⟩, inside,
      (step.keeps_of_inside orderly' member inside pending.child).adopted isChild⟩

/-- The registers of a process that waits had passed. -/
theorem WaitsInCall.joinArguments (waits : world.WaitsInCall caller args pending world') :
    Request.joinArguments caller.memory args = .ok (pending.child, pending.status) := by
  induction waits with
  | told listed suspended =>
    exact (Kernel.asked?_eq_some_iff.1 (Kernel.dispatch_of_suspended suspended).1).2.2.2
  | step earlier step inside ih => exact ih

/-! ### Joins from end to end -/

/-- What a call of a process to join a child comes to, from its first turn to its last. -/
structure JoinsInFull (E : PagedMemory.Embedding σ) (world : World σ)
    (others : List (UserProcess σ)) (caller : UserProcess σ) (memory : PagedMemory)
    (args : Registers) : Prop where
  /-- The first turn. -/
  atOnce : (world.turn caller .join args).Joins E world.machine.kernel caller memory args
  /-- Each later turn, whatever others did while the caller was waiting. It works on the caller
  as it was at first, and never returns the sentinel. -/
  afterWait : ∀ pending world', world.WaitsInCall caller args pending world' →
    (world'.machine.kernel.resume caller pending).Joins E world'.machine.kernel caller memory
        args ∧
      (world'.machine.kernel.resume caller pending).value ≠
        .finished (.returned SysError.sentinel)
  /-- Without a place for the status the call is refused. -/
  unplaced : ¬ memory.TakesWord args.a1 →
    (world.turn caller .join args).value = .finished (.returned SysError.sentinel) ∧
      (world.turn caller .join args).LeavesNoTrace world.machine.kernel caller
  /-- Then the result of the child is kept. Whatever follows, until the child is reaped or its
  parent ends, the parent gets that result if it calls again and has a place for it. -/
  kept : ¬ memory.TakesWord args.a1 → ∀ child how, Pid.ofRegister? args.a0 = some child →
    world.machine.kernel.processes.parent? child = some caller.pid →
    world.machine.kernel.processes.state? child = some (.zombie how) →
      ∀ later world', (world.proceed (world.turn caller .join args) others).Later later world' →
        world'.machine.kernel.isHalted = false → .note (.reaped caller.pid child) ∉ later →
        (∀ how, .note (.terminated caller.pid how) ∉ later) →
          ∀ again ∈ world'.machine.parked, again.pid = caller.pid → again.terminated = false →
            ∀ memory', again.memory = E.embed memory' → ∀ args' : Registers,
              args'.a0 = args.a0 → memory'.TakesWord args'.a1 →
                (world'.turn again .join args').HandsOver E world'.machine.kernel again memory'
                  args'.a1 child how

/-- In any world that a run reaches, unless the machine has halted, a call of any live process
to join a child comes to what it should. -/
theorem Run.joins_in_full {engine : Engine σ} {config : Config} {console : ConsoleDevice}
    (run : Run engine config console log world) (up : world.machine.kernel.isHalted = false)
    (E : PagedMemory.Embedding σ) (before after : List (UserProcess σ)) (caller : UserProcess σ)
    (listed : world.machine.parked = before ++ caller :: after) (live : caller.terminated = false)
    (memory : PagedMemory) (paged : caller.memory = E.embed memory) (args : Registers) :
    world.JoinsInFull E (before ++ after) caller memory args := by
  have orderly := run.orderly
  have unplaced : ¬ memory.TakesWord args.a1 →
      (world.turn caller .join args).value = .finished (.returned SysError.sentinel) ∧
        (world.turn caller .join args).LeavesNoTrace world.machine.kernel caller := by
    intro bad
    obtain ⟨error, malformed⟩ := Request.exists_joinArguments_eq_error (E := E) bad
    rw [← paged] at malformed
    exact Kernel.dispatch_join_of_error world.machine.engine up live malformed
  constructor
  case atOnce => exact Kernel.joins_dispatch world.machine.engine orderly.table up live paged
  case afterWait =>
    intro pending world' waits
    obtain ⟨⟨log', orderly'⟩, -, isChild⟩ := waits.stillWaits orderly
    exact ⟨Kernel.joins_resume orderly'.table paged waits.joinArguments,
      Kernel.resume_ne_sentinel orderly'.table paged waits.joinArguments isChild⟩
  case unplaced => exact unplaced
  case kept =>
    intro bad child how named isChild ended later world' follows up' unreaped unended again member
      samePid live' memory' paged' args' sameChild takes
    have stepped := (Step.call caller listed Syscall.join.number args).orderly orderly
    obtain ⟨kept, orderly'⟩ := follows.keeps stepped unreaped unended
    rw [kernel_proceed, (unplaced bad).2.kernel] at kept
    refine Kernel.handsOver_dispatch world'.machine.engine orderly'.table up' live' paged' ?_ takes
      ?_ (kept.ended isChild how ended)
    · rw [sameChild, named]
    · rw [samePid]
      exact kept.adopted isChild

/-- A parent is refused a status that straddles the end of its page. Then it waits for its
child, which exits meanwhile, and gets its status. -/
theorem joins_in_full_after_exit :
    ∃ log, Run paging {} narrow log family ∧ ∃ others caller memory,
      family.JoinsInFull .image others caller memory ⟨2, 1022, 0, 0⟩ ∧
        (family.turn caller .join ⟨2, 1022, 0, 0⟩).value = .finished (.returned (-1)) ∧
        family.JoinsInFull .image others caller memory ⟨2, 16, 0, 0⟩ ∧
        ∃ pending world', family.WaitsInCall caller ⟨2, 16, 0, 0⟩ pending world' ∧
          (world'.machine.kernel.resume caller pending).value = .finished (.returned 1) := by
  have switchedOn : Run paging {} narrow [] _ := .start
  have rooted : Run paging {} narrow _ lonely := switchedOn.step (.spawn none idler)
  have adopted : Run paging {} narrow _ family := rooted.step (.spawn (some ⟨1⟩) idler)
  have listed : family.machine.parked = [_] ++ _ :: [] := rfl
  have full := adopted.joins_in_full (by decide +kernel) .image _ _ _ listed rfl _ rfl
  have told : family.WaitsInCall _ ⟨2, 16, 0, 0⟩ ⟨⟨2⟩, some ⟨16, by decide⟩⟩ _ :=
    .told listed (by decide +kernel)
  have waits := told.step (.exit _ (rfl : _ = [] ++ _ :: []) 7)
    (told.stillWaits adopted.orderly).inside
  exact ⟨_, adopted, _, _, _, full ⟨2, 1022, 0, 0⟩, by decide +kernel, full ⟨2, 16, 0, 0⟩, _, _,
    waits, by decide +kernel⟩

end SyscallKernel.World
