import Mathlib.Logic.Relation
import SyscallKernel.Proofs.Machine.Wakeups

/-!
# Joins cannot deadlock

A blocked process waits for a child of its own, and chains of children end. So the chain
from a blocked process to the child it waits for, and on to the child that this one
waits for, is finite; and it ends in a running process that can go on.
-/

namespace SyscallKernel.World

variable {σ : Type} {world : World σ} {log : List Effect}

/-- A process is blocked in a join, and no wake-up has arrived or is under way. -/
def Waits (world : World σ) (parent child : Pid) : Prop :=
  world.Suspended parent child ∧ ¬ world.Notified parent

/-- A process can take a step: it is outside joins, or not blocked, or notified. -/
def CanGoOn (world : World σ) (pid : Pid) : Prop :=
  (∃ process ∈ world.machine.parked, process.pid = pid ∧ process.terminated = false) ∨
    ∃ joiner ∈ world.joiners, joiner.process.pid = pid ∧
      (joiner.phase ≠ .suspended ∨ world.Notified pid)

namespace Orderly

/-- Who waits, waits for a child of its own. -/
theorem isChildOf (orderly : world.Orderly log) {parent child : Pid}
    (waits : world.Waits parent child) :
    world.machine.kernel.processes.IsChildOf child parent :=
  (orderly.isAwaited waits.1 waits.2).adopted

/-- A process is inside at most one join. -/
theorem joiner_unique (orderly : world.Orderly log) {first second : Joiner σ}
    (member : first ∈ world.joiners) (member' : second ∈ world.joiners)
    (same : first.process.pid = second.process.pid) : first = second := by
  obtain ⟨before, after, listed⟩ := List.append_of_mem member'
  exact ((mem_joiners listed first).1 member).resolve_right fun other =>
    orderly.apart listed first other same

/-- A process that runs and does not wait can go on. -/
theorem canGoOn (orderly : world.Orderly log) {pid : Pid}
    (running : world.machine.kernel.processes.isRunning pid = true)
    (free : ∀ child, ¬ world.Waits pid child) : world.CanGoOn pid := by
  have listed := (orderly.staffed.mem_iff pid).2 running
  obtain ⟨process, member, own⟩ := List.mem_flatMap.1 listed
  rw [UserProcess.roster] at own
  split at own
  · cases own
  · rename_i live
    cases List.mem_singleton.1 own
    rcases List.mem_append.1 member with parked | inside
    · exact .inl ⟨process, parked, rfl, Bool.eq_false_iff.2 live⟩
    · obtain ⟨joiner, belongs, rfl⟩ := List.mem_map.1 inside
      refine .inr ⟨joiner, belongs, rfl, ?_⟩
      by_cases blocked : joiner.phase = .suspended
      · have waits := free joiner.errand.child
        exact .inr (Decidable.not_not.1 fun unnotified =>
          waits ⟨⟨joiner, belongs, rfl, rfl, blocked⟩, unnotified⟩)
      · exact .inl blocked

/-- Chains of waiting processes end. -/
theorem wellFounded_waits (orderly : world.Orderly log) :
    WellFounded fun child parent => world.Waits parent child :=
  Subrelation.wf (fun waits => orderly.isChildOf waits) orderly.founded

/-- The chain from a running process ends in a running process that can go on. -/
theorem chain_ends (orderly : world.Orderly log) (pid : Pid)
    (running : world.machine.kernel.processes.isRunning pid = true) :
    ∃ last, Relation.ReflTransGen world.Waits pid last ∧
      world.machine.kernel.processes.isRunning last = true ∧
      (∀ next, ¬ world.Waits last next) ∧ world.CanGoOn last := by
  induction pid using orderly.wellFounded_waits.induction with
  | _ pid ih =>
    by_cases waits : ∃ child, world.Waits pid child
    · obtain ⟨child, waits⟩ := waits
      have awaited := orderly.isAwaited waits.1 waits.2
      obtain ⟨last, chain, ends⟩ := ih child waits awaited.running
      exact ⟨last, .head waits chain, ends⟩
    · have free : ∀ child, ¬ world.Waits pid child := fun child waiting => waits ⟨child, waiting⟩
      exact ⟨pid, .refl, running, free, orderly.canGoOn running free⟩

end Orderly

/-- Nobody waits in a circle, or for nobody. -/
structure DeadlockFree (world : World σ) : Prop where
  /-- A process waits for one child at a time. -/
  unique : ∀ parent child child', world.Waits parent child → world.Waits parent child' →
    child = child'
  /-- Chains of waiting processes end. -/
  finite : WellFounded fun child parent => world.Waits parent child
  /-- The chain from a process that waits ends in a running process that does not wait and
  can go on. -/
  ends : ∀ parent child, world.Waits parent child →
    ∃ last, Relation.ReflTransGen world.Waits child last ∧
      world.machine.kernel.processes.state? last = some .running ∧
      (∀ next, ¬ world.Waits last next) ∧ world.CanGoOn last
  /-- No processes all wait for one another. -/
  acyclic : ∀ stuck : Pid → Prop,
    (∀ pid, stuck pid → ∃ child, stuck child ∧ world.Waits pid child) → ∀ pid, ¬ stuck pid

/-- No run leads to a deadlock. -/
theorem Run.deadlockFree [AddressSpace σ] {engine : Engine σ} {config : Config}
    {console : ConsoleDevice} (run : Run engine config console log world) :
    world.DeadlockFree := by
  have orderly := run.orderly
  constructor
  case unique =>
    rintro parent child child' ⟨⟨first, member, own, rfl, _⟩, _⟩ ⟨⟨second, member', own', rfl, _⟩, _⟩
    rw [orderly.joiner_unique member member' (own.trans own'.symm)]
  case finite => exact orderly.wellFounded_waits
  case ends =>
    intro parent child waits
    have awaited := orderly.isAwaited waits.1 waits.2
    obtain ⟨last, chain, running, ends⟩ := orderly.chain_ends child awaited.running
    obtain ⟨record, found, state⟩ := ProcessTable.isRunning_iff.1 running
    exact ⟨last, chain, Option.map_eq_some_iff.2 ⟨record, found, state⟩, ends⟩
  case acyclic =>
    intro stuck circle pid
    induction pid using orderly.wellFounded_waits.induction with
    | _ pid ih =>
      intro member
      obtain ⟨child, stays, waits⟩ := circle pid member
      exact ih child waits stays

/-- A grandparent waits for a parent, which waits for a child that can go on. -/
theorem deadlockFree_with_nested_joins :
    ∃ log, ∃ world : World UniformMemory, Run idling {} .unlimited log world ∧
      world.DeadlockFree ∧ world.machine.kernel.isHalted = false ∧
      world.Waits ⟨1⟩ ⟨2⟩ ∧ world.Waits ⟨2⟩ ⟨3⟩ ∧ world.CanGoOn ⟨3⟩ := by
  have switchedOn : Run idling {} .unlimited [] _ := .start
  have rooted := switchedOn.step (.spawn none idler)
  have adopted := rooted.step (.spawn (some ⟨1⟩) idler)
  have deeper := adopted.step (.spawn (some ⟨2⟩) idler)
  have told := deeper.step
    (.call _ (rfl : _ = [_, _] ++ _ :: []) Syscall.join.number ⟨2, 0, 0, 0⟩)
  have blocked := told.step (.block _ (rfl : _ = [] ++ _ :: []) rfl rfl)
  have entered := blocked.step (.enter _ (rfl : _ = [_] ++ _ :: []) rfl ⟨3⟩)
  have told' := entered.step (.ask _ (rfl : _ = [] ++ _ :: _) rfl)
  have blocked' := told'.step (.block _ (rfl : _ = [] ++ _ :: _) rfl rfl)
  refine ⟨_, _, blocked', blocked'.deadlockFree, by decide +kernel, ⟨?_, by decide +kernel⟩,
    ⟨?_, by decide +kernel⟩, .inl ?_⟩
  · exact ⟨_, List.mem_cons_of_mem _ List.mem_cons_self, rfl, rfl, rfl⟩
  · exact ⟨_, List.mem_cons_self, rfl, rfl, rfl⟩
  · exact ⟨_, List.mem_cons_self, rfl, rfl⟩

end SyscallKernel.World
