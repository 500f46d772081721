import SyscallKernel.Proofs.Machine.Attempts

/-!
# Runs of a machine

A machine together with the actions that wait on it is a situation. Between two
situations one action is tried, or one that waits is tried again or given up, or a
program computes in its own memory. A run is any sequence of such steps from a machine
that was just switched on; its log holds the effects of all of them, in order.
-/

namespace SyscallKernel

variable {σ : Type}

/-- A machine and the actions that wait on it. -/
structure Situation (σ : Type) where
  /-- The machine. -/
  machine : Machine σ
  /-- The actions that wait. -/
  waiting : List (Waiting σ)

namespace Situation

/-- All processes that were ever started: the parked ones and those in the middle of
a call. -/
def processes (situation : Situation σ) : List (UserProcess σ) :=
  situation.machine.parked ++ situation.waiting.filterMap Waiting.caller?

end Situation

/-- The situation that an attempt leaves when others wait already. -/
def Attempt.situation (attempt : Attempt σ) (waiting : List (Waiting σ)) : Situation σ :=
  match attempt.stage with
  | .done _ => ⟨attempt.machine, waiting⟩
  | .waiting what => ⟨attempt.machine, what :: waiting⟩

/-- A machine on which one process has computed in its own memory. -/
def Machine.compute (machine : Machine σ) (pid : Pid) (change : σ → σ) : Machine σ :=
  { machine with
    parked := machine.parked.map fun process =>
      if process.pid = pid then { process with memory := change process.memory } else process }

namespace Situation

variable [AddressSpace σ]

/-- What can happen next, with its effects. -/
inductive Step (situation : Situation σ) : List Effect → Situation σ → Prop where
  /-- An action is tried for the first time. -/
  | act (action : Action) (orderly : action.IsOrderly) :
    Step situation (situation.machine.perform action).effects
      ((situation.machine.perform action).situation situation.waiting)
  /-- An action that waits is tried again, with a permit or for no reason. -/
  | retry {before after : List (Waiting σ)} (what : Waiting σ)
    (listed : situation.waiting = before ++ what :: after) :
    Step situation ((situation.machine.consume what.pid).retry what).effects
      (((situation.machine.consume what.pid).retry what).situation (before ++ after))
  /-- An action that waits is given up. -/
  | abandon {before after : List (Waiting σ)} (what : Waiting σ)
    (listed : situation.waiting = before ++ what :: after) :
    Step situation [] ⟨situation.machine.abandon what, before ++ after⟩
  /-- A permit comes from elsewhere. -/
  | permit (pid : Pid) :
    Step situation [] { situation with machine := situation.machine.permit pid }
  /-- A process computes in its own memory. -/
  | compute (pid : Pid) (change : σ → σ) :
    Step situation [] { situation with machine := situation.machine.compute pid change }
  /-- The engine comes to run other programs. -/
  | equip (engine : Engine σ) :
    Step situation [] { situation with machine := { situation.machine with engine } }

/-- The runs of a machine, with their logs. -/
inductive Run (engine : Engine σ) (config : Config) (console : ConsoleDevice) :
    List Effect → Situation σ → Prop where
  /-- The machine was just switched on. -/
  | start : Run engine config console [] ⟨.new engine (.new config console), []⟩
  /-- One more step. -/
  | step {log effects : List Effect} {situation situation' : Situation σ}
    (earlier : Run engine config console log situation)
    (step : situation.Step effects situation') :
    Run engine config console (log ++ effects) situation'

end Situation

namespace Situation

variable {n : Nat} {situation situation' : Situation σ} {effects : List Effect}

theorem callers_cons (what : Waiting σ) (rest : List (Waiting σ)) :
    (what :: rest).filterMap Waiting.caller? =
      what.caller?.toList ++ rest.filterMap Waiting.caller? := by
  rw [List.filterMap_cons]
  cases what.caller? <;> rfl

/-- An attempt next to waiting actions adds the process in the middle of its call. -/
theorem processes_situation_perm (attempt : Attempt σ) (waiting : List (Waiting σ)) :
    (attempt.processes (waiting.filterMap Waiting.caller?)).Perm
      (attempt.situation waiting).processes := by
  unfold Attempt.situation Attempt.processes processes
  cases attempt.stage with
  | done answer => exact .refl _
  | waiting what =>
    simp only [Stage.caller?, callers_cons]
    exact List.perm_append_comm_assoc _ _ _

theorem machine_situation (attempt : Attempt σ) (waiting : List (Waiting σ)) :
    (attempt.situation waiting).machine = attempt.machine := by
  unfold Attempt.situation
  split <;> rfl

/-- An action that waits can be set apart from the others. -/
theorem processes_perm_of_listed {before after : List (Waiting σ)} {what : Waiting σ}
    (listed : situation.waiting = before ++ what :: after) :
    situation.processes.Perm (what.caller?.toList ++
      (situation.machine.parked ++ (before ++ after).filterMap Waiting.caller?)) := by
  have apart : (situation.waiting.filterMap Waiting.caller?).Perm
      (what.caller?.toList ++ (before ++ after).filterMap Waiting.caller?) := by
    rw [listed, List.filterMap_append, callers_cons, List.filterMap_append]
    exact List.perm_append_comm_assoc _ _ _
  exact (apart.append_left _).trans (List.perm_append_comm_assoc _ _ _)

variable [AddressSpace σ]

/-- In every step the kernel acts once while the other processes stand by. -/
theorem Step.acts (step : situation.Step effects situation')
    (consistent : Consistent situation.machine.kernel n situation.processes)
    (notWrapped : n + Effect.startedCount effects ≤ Pid.limit) :
    ∃ before after bystanders, situation.processes.Perm (before ++ bystanders) ∧
      situation.machine.kernel.Act before effects situation'.machine.kernel after ∧
        situation'.processes.Perm (after ++ bystanders) := by
  have idle : situation.machine.kernel.Act ([] : List (UserProcess σ)) []
      situation.machine.kernel [] := .rest situation.machine.kernel.console
  have tried : ∀ {attempt : Attempt σ} {waiting : List (Waiting σ)}
      {processes : List (UserProcess σ)}, situation.processes.Perm processes →
      attempt.IsAct situation.machine.kernel processes (waiting.filterMap Waiting.caller?) →
      ∃ before after bystanders, situation.processes.Perm (before ++ bystanders) ∧
        situation.machine.kernel.Act before attempt.effects
          (attempt.situation waiting).machine.kernel after ∧
          (attempt.situation waiting).processes.Perm (after ++ bystanders) := by
    intro attempt waiting processes apart isAct
    obtain ⟨before, after, bystanders, old, act, new⟩ := isAct
    refine ⟨before, after, bystanders, apart.trans old, ?_, ?_⟩
    · rw [machine_situation]
      exact act
    · exact (processes_situation_perm attempt waiting).symm.trans new
  cases step with
  | act action orderly =>
    exact tried (.refl _) (Machine.isAct_perform consistent orderly notWrapped)
  | retry what listed =>
    have apart := processes_perm_of_listed listed
    exact tried apart ((situation.machine.consume what.pid).isAct_retry (consistent.perm apart)
      notWrapped)
  | @abandon before after what listed =>
    have apart := processes_perm_of_listed listed
    have agreed := consistent.perm apart
    cases what with
    | join caller child => exact ⟨[], [], _, apart, idle, .refl _⟩
    | call caller join readBack =>
      have agreed : Consistent situation.machine.kernel n (caller ::
        (situation.machine.parked ++ (before ++ after).filterMap Waiting.caller?)) := agreed
      have parked : (situation.machine.park caller).parked = caller :: situation.machine.parked :=
        Machine.park_parked fun other member => agreed.apart other (List.mem_append_left _ member)
      refine ⟨[], [], _, apart, idle, ?_⟩
      rw [processes, Machine.abandon, parked]
      exact .refl _
  | permit pid => exact ⟨[], [], _, .refl _, idle, .refl _⟩
  | compute pid change =>
    exact ⟨situation.machine.parked, _, _, .refl _, .compute _ pid change, .refl _⟩
  | equip engine => exact ⟨[], [], _, .refl _, idle, .refl _⟩

/-- Every step keeps the kernel and all processes in agreement. -/
theorem Step.sound (step : situation.Step effects situation')
    (consistent : Consistent situation.machine.kernel n situation.processes)
    (notWrapped : n + Effect.startedCount effects ≤ Pid.limit) :
    Sound situation.machine.kernel n effects situation'.machine.kernel situation'.processes := by
  obtain ⟨before, after, bystanders, old, act, new⟩ := step.acts consistent notWrapped
  exact (act.sound _ (consistent.perm old) notWrapped).perm new.symm

/-- Every run keeps the kernel and all processes in agreement. -/
theorem Run.sound {engine : Engine σ} {config : Config} {console : ConsoleDevice}
    {log : List Effect} (run : Run engine config console log situation)
    (notWrapped : Effect.startedCount log ≤ Pid.limit) :
    Sound (.new config console) 0 log situation.machine.kernel situation.processes := by
  induction run with
  | start => exact (Consistent.new config console).sound
  | @step log effects situation situation' earlier step ih =>
    rw [Effect.startedCount_append] at notWrapped
    have before := ih (Nat.le_trans (Nat.le_add_right _ _) notWrapped)
    refine before.trans (step.sound before.consistent ?_)
    rw [Nat.zero_add]
    exact notWrapped

end Situation

end SyscallKernel
