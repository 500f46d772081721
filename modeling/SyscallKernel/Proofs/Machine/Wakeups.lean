import SyscallKernel.Memory.Uniform
import SyscallKernel.Proofs.Machine.Waiting

/-!
# No wake-up is lost

A blocked process that no wake-up has reached or is under way to waits for a running
child that knows it as its waiter, on a machine that has not halted. Whatever changes
this sends it a wake-up. A join returns the end of a child only after that end, and an
error only if asking for the child gives it, however many permits come for no reason.
-/

namespace SyscallKernel.World

variable {σ : Type} {world world' : World σ} {log : List Effect} {occurrence : Occurrence}

/-- A blocked process that is not notified is known to wait. -/
theorem Orderly.isAwaited (orderly : world.Orderly log) {parent child : Pid}
    (suspended : world.Suspended parent child) (unnotified : ¬ world.Notified parent) :
    world.machine.kernel.processes.IsAwaited parent child := by
  obtain ⟨joiner, member, rfl, rfl, phase⟩ := suspended
  refine (orderly.awaited joiner member ?_).resolve_left unnotified
  rw [phase]
  decide

/-- A join that returns an end returns that of a child whose termination was recorded;
else it returns the error of asking for the child. -/
theorem Orderly.joinEnd?_eq_some (orderly : world.Orderly log) {parent child : Pid}
    {ending : JoinEnd} (ended : world.machine.kernel.joinEnd? parent child = some ending) :
    ending.parent = parent ∧ ending.child = child ∧
      ((∃ how, ending.result = .ok how ∧ .note (.terminated child how) ∈ log) ∨
        ∃ error, ending.result = .error error ∧
          world.machine.kernel.processes.pollJoin parent child = .error error) := by
  unfold Kernel.joinEnd? Kernel.pollJoin at ended
  cases result : world.machine.kernel.processes.pollJoin parent child with
  | error error =>
    simp only [result, Kernel.answer] at ended
    cases ended
    exact ⟨rfl, rfl, .inr ⟨error, rfl, rfl⟩⟩
  | ok joined =>
    obtain ⟨table, poll⟩ := joined
    cases poll with
    | pending =>
      simp only [result, Kernel.answer] at ended
      cases ended
    | ready how =>
      simp only [result] at ended
      cases ended
      have reaping := ProcessTable.reaping_of_pollJoin orderly.table result
      exact ⟨rfl, rfl, .inl ⟨how, rfl, orderly.ended child how reaping.ended⟩⟩

variable [AddressSpace σ]

/-- A step leaves the process table alone, or it leaves the permits alone and sends the
wake-ups among its effects. -/
theorem Step.table_or_wakes (step : world.Step occurrence world') :
    world'.machine.kernel.processes = world.machine.kernel.processes ∨
      (world'.machine.permits = world.machine.permits ∧
        world'.wakes = world.wakes ++ occurrence.effects.filterMap Effect.wake?) := by
  cases step with
  | boot | spawn | exit | abort | halt => exact .inr ⟨rfl, rfl⟩
  | call caller listed number args =>
    refine .inr ?_
    unfold proceed
    split
    · exact ⟨rfl, rfl⟩
    · exact ⟨rfl, rfl⟩
  | ask joiner listed asking =>
    refine .inr ?_
    simp only [asked]
    split
    · exact ⟨rfl, rfl⟩
    · exact ⟨rfl, rfl⟩
  | enter | block | rise | deliver | permit | compute | console | equip => exact .inl rfl

/-- What can become of a process inside a join in one step. -/
theorem Step.fate (step : world.Step occurrence world') {joiner : Joiner σ}
    (member : joiner ∈ world.joiners) :
    joiner ∈ world'.joiners ∨
      (joiner.phase = .told ∧ { joiner with phase := .suspended } ∈ world'.joiners) ∨
      (world.machine.hasPermit joiner.process.pid = true ∧
        { joiner with phase := .asking } ∈ world'.joiners) ∨
      (joiner.phase = .asking ∧ ({ joiner with phase := .told } ∈ world'.joiners ∨
        ∃ result, occurrence.ended = some ⟨joiner.process.pid, joiner.errand.child, result⟩)) := by
  cases step with
  | boot | spawn | exit | abort | halt => exact .inl member
  | deliver | permit | compute | console | equip => exact .inl member
  | call caller listed number args =>
    refine .inl ?_
    unfold proceed
    split
    · exact member
    · exact List.mem_cons_of_mem _ member
  | enter => exact .inl (List.mem_cons_of_mem _ member)
  | @block before after blocked listed told =>
    rcases (mem_joiners listed joiner).1 member with rfl | stays
    · exact .inr (.inl ⟨told, List.mem_append_right _ List.mem_cons_self⟩)
    · exact .inl (List.perm_middle.mem_iff.2 (List.mem_cons_of_mem _ stays))
  | @rise before after risen listed waits permitted =>
    rcases (mem_joiners listed joiner).1 member with rfl | stays
    · exact .inr (.inr (.inl ⟨permitted, List.mem_append_right _ List.mem_cons_self⟩))
    · exact .inl (List.perm_middle.mem_iff.2 (List.mem_cons_of_mem _ stays))
  | @ask before after asker listed asking =>
    simp only [asked]
    rcases (mem_joiners listed joiner).1 member with rfl | stays
    · refine .inr (.inr (.inr ⟨asking, ?_⟩))
      split
      · rename_i waits
        rw [(Errand.ask_of_waits waits).1]
        exact .inl List.mem_cons_self
      · rename_i returns
        rw [Errand.value_ask] at returns
        refine .inr ?_
        unfold Kernel.joinEnd? at returns ⊢
        split
        · exact ⟨_, rfl⟩
        · exact ⟨_, rfl⟩
        · rename_i found
          simp only [found, not_true_eq_false] at returns
    · refine .inl ?_
      split
      · exact List.mem_cons_of_mem _ stays
      · exact stays

/-- A blocked process without a permit stays blocked. -/
theorem Step.suspended (step : world.Step occurrence world') {parent child : Pid}
    (suspended : world.Suspended parent child)
    (without : world.machine.hasPermit parent = false) : world'.Suspended parent child := by
  obtain ⟨joiner, member, rfl, rfl, phase⟩ := suspended
  rcases step.fate member with stays | ⟨told, _⟩ | ⟨permitted, _⟩ | ⟨asking, _⟩
  · exact ⟨joiner, stays, rfl, rfl, phase⟩
  · rw [phase] at told
    cases told
  · rw [without] at permitted
    cases permitted
  · rw [phase] at asking
    cases asking

/-- A blocked process is woken by every step after which its child does not run, or the
machine has halted. -/
theorem Orderly.woken (orderly : world.Orderly log) {parent child : Pid}
    (suspended : world.Suspended parent child) (unnotified : ¬ world.Notified parent)
    (step : world.Step occurrence world')
    (finished : ¬ world'.machine.kernel.processes.IsAwaited parent child) :
    .wake parent ∈ occurrence.effects ∧ parent ∈ world'.wakes := by
  have awaited := orderly.isAwaited suspended unnotified
  have without : world.machine.hasPermit parent = false :=
    Bool.eq_false_iff.2 fun permitted => unnotified (.inl permitted)
  have notified : world'.Notified parent := by
    refine Decidable.not_not.1 fun missed => finished ?_
    exact (step.orderly orderly).isAwaited (step.suspended suspended without) missed
  rcases step.table_or_wakes with same | ⟨permits, wakes⟩
  · rw [same] at finished
    exact absurd awaited finished
  · rcases notified with permitted | sent
    · rw [Machine.hasPermit, permits] at permitted
      exact absurd (.inl permitted) unnotified
    · refine ⟨?_, sent⟩
      rw [wakes, List.mem_append] at sent
      have issued := sent.resolve_left fun earlier => unnotified (.inr earlier)
      obtain ⟨effect, member, woken⟩ := List.mem_filterMap.1 issued
      cases effect with
      | wake pid =>
        cases woken
        exact member
      | note => cases woken
      | started => cases woken

/-- What processes inside joins can rely on, in a world with a log. -/
structure Wakeful (world : World σ) (log : List Effect) : Prop where
  /-- A blocked process that is not notified waits on a running machine for a running
  child of its own, which knows it as its waiter. -/
  awaited : ∀ parent child, world.Suspended parent child → ¬ world.Notified parent →
    world.machine.kernel.isHalted = false ∧
      world.machine.kernel.processes.state? child = some .running ∧
      world.machine.kernel.processes.parent? child = some parent ∧
      world.machine.kernel.processes.waiter? child = some parent
  /-- Such a process is woken by every step in which its child stops running or the
  machine halts. -/
  woken : ∀ parent child, world.Suspended parent child → ¬ world.Notified parent →
    ∀ occurrence world', world.Step occurrence world' →
      world'.machine.kernel.isHalted = true ∨
        world'.machine.kernel.processes.state? child ≠ some .running →
      .wake parent ∈ occurrence.effects ∧ parent ∈ world'.wakes
  /-- A join returns an end only of a child that has terminated so, and an error only if
  asking for the child gives that error. -/
  returned : ∀ occurrence world' ending, world.Step occurrence world' →
    occurrence.ended = some ending →
      (∃ how, ending.result = .ok how ∧ .note (.terminated ending.child how) ∈ log) ∨
        ∃ error, ending.result = .error error ∧
          world.machine.kernel.processes.pollJoin ending.parent ending.child = .error error
  /-- A process gets out of a join only by its return. -/
  left : ∀ joiner ∈ world.joiners, ∀ occurrence world', world.Step occurrence world' →
    (∃ phase, { joiner with phase } ∈ world'.joiners) ∨
      ∃ result, occurrence.ended = some ⟨joiner.process.pid, joiner.errand.child, result⟩

/-- No wake-up is lost in any run. -/
theorem Run.wakeful {engine : Engine σ} {config : Config} {console : ConsoleDevice}
    (run : Run engine config console log world) : world.Wakeful log := by
  have orderly := run.orderly
  have runs : ∀ {table : ProcessTable} {pid : Pid},
      table.isRunning pid = true ↔ table.state? pid = some .running := by
    intro table pid
    rw [ProcessTable.isRunning_iff, ProcessTable.state?, Option.map_eq_some_iff]
  constructor
  case awaited =>
    intro parent child suspended unnotified
    have awaited := orderly.isAwaited suspended unnotified
    exact ⟨awaited.notShutdown, runs.1 awaited.running, awaited.adopted, awaited.waiter⟩
  case woken =>
    intro parent child suspended unnotified occurrence world' step finished
    refine orderly.woken suspended unnotified step fun awaited => ?_
    rcases finished with halted | stopped
    · have running : world'.machine.kernel.isHalted = false := awaited.notShutdown
      rw [running] at halted
      cases halted
    · exact stopped (runs.1 awaited.running)
  case returned =>
    intro occurrence world' ending step ended
    have asked : ∃ parent child, world.machine.kernel.joinEnd? parent child = some ending := by
      cases step with
      | call caller listed number args =>
        obtain ⟨pending, _, found⟩ := Option.bind_eq_some_iff.1 ended
        exact ⟨_, _, found⟩
      | ask joiner listed asking => exact ⟨_, _, ended⟩
      | boot | spawn | exit | abort | halt => cases ended
      | enter | block | rise | deliver | permit | compute | console | equip => cases ended
    obtain ⟨parent, child, found⟩ := asked
    obtain ⟨rfl, rfl, answer⟩ := orderly.joinEnd?_eq_some found
    exact answer
  case left =>
    intro joiner member occurrence world' step
    rcases step.fate member with stays | ⟨_, blocked⟩ | ⟨_, risen⟩ | ⟨_, told | returned⟩
    · exact .inl ⟨joiner.phase, stays⟩
    · exact .inl ⟨_, blocked⟩
    · exact .inl ⟨_, risen⟩
    · exact .inl ⟨_, told⟩
    · exact .inr returned

/-- An engine that loads every program into memory of zero bytes and lets it be. -/
def idling : Engine UniformMemory := ⟨fun _ => .ok ⟨0⟩, fun _ => .park⟩

/-- A program with an empty argument vector. -/
def idler : ProgramImage := ⟨⟨[102], by decide +kernel⟩, []⟩

/-- A parent that is blocked in a call of its own is woken when its child exits. -/
theorem wakeful_with_blocked_parent :
    ∃ log, ∃ world : World UniformMemory, Run idling {} .unlimited log world ∧
      world.Wakeful log ∧ world.Suspended ⟨1⟩ ⟨2⟩ ∧ ¬ world.Notified ⟨1⟩ ∧
      ∃ occurrence world', world.Step occurrence world' ∧ .wake ⟨1⟩ ∈ occurrence.effects ∧
        ⟨1⟩ ∈ world'.wakes := by
  have switchedOn : Run idling {} .unlimited [] _ := .start
  have rooted := switchedOn.step (.spawn none idler)
  have adopted := rooted.step (.spawn (some ⟨1⟩) idler)
  have told := adopted.step
    (.call _ (rfl : _ = [_] ++ _ :: []) Syscall.join.number ⟨2, 0, 0, 0⟩)
  have blocked := told.step (.block _ (rfl : _ = [] ++ _ :: []) rfl rfl)
  have wakeful := blocked.wakeful
  have woken := wakeful.woken ⟨1⟩ ⟨2⟩ ⟨_, List.mem_cons_self, rfl, rfl, rfl⟩ (by decide +kernel)
    _ _ (.exit _ (rfl : _ = [] ++ _ :: []) 0) (.inr (by decide +kernel))
  exact ⟨_, _, blocked, wakeful, ⟨_, List.mem_cons_self, rfl, rfl, rfl⟩, by decide +kernel,
    _, _, .exit _ (rfl : _ = [] ++ _ :: []) 0, woken⟩

end SyscallKernel.World
