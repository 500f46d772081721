import SyscallKernel.Proofs.Kernel.Bookkeeping
import SyscallKernel.Proofs.Machine.Waiting

/-!
# What a step of a world does to the kernel and its processes

In every step of a world the kernel acts once while the other processes stand by. What every act
preserves holds in every world.
-/

namespace SyscallKernel

variable {σ : Type} [AddressSpace σ]

namespace World

variable {world world' : World σ} {log : List Effect} {occurrence : Occurrence}

/-- In every step the kernel acts once while the other processes stand by. -/
theorem Step.act (step : world.Step occurrence world') :
    ∃ before after bystanders, world.processes.Perm (before ++ bystanders) ∧
      world.machine.kernel.Act before occurrence.effects world'.machine.kernel after ∧
        world'.processes.Perm (after ++ bystanders) := by
  have idle : world.machine.kernel.Act ([] : List (UserProcess σ)) [] world.machine.kernel [] :=
    .rest world.machine.kernel.console
  have silent : ∀ effect ∈ ([] : List Effect), effect.IsQuiet ∧ effect.IsClean :=
    fun _ member => nomatch member
  have told : ∀ {notice : Notice}, (Effect.note notice).IsQuiet → (Effect.note notice).IsClean →
      ∀ effect ∈ [Effect.note notice], effect.IsQuiet ∧ effect.IsClean := by
    intro notice quiet clean effect member
    rw [List.mem_singleton.1 member]
    exact ⟨quiet, clean⟩
  have nobody : world.processes.Perm ([] ++ world.processes) := .refl _
  cases step with
  | boot program args =>
    simp only [Kernel.boot]
    split
    · exact ⟨_, _, _, nobody, idle, .refl _⟩
    · exact ⟨_, _, _, nobody, .spawn _ _ _ _ (told (by trivial) (by trivial)),
        .of_eq (List.append_assoc ..)⟩
  | spawn parent image =>
    exact ⟨_, _, _, nobody, .spawn _ _ _ _ silent, .of_eq (List.append_assoc ..)⟩
  | call caller listed number args =>
    have apart := perm_of_parked listed
    -- The caller goes back to the parked processes, or inside a join if it has to wait.
    unfold proceed
    split
    · refine ⟨_, _, _, apart, .turn world.machine.engine caller caller.memory number args,
        .of_eq ?_⟩
      simp only [processes, react, List.cons_append, List.append_assoc]
    · refine ⟨_, _, _, apart, .turn world.machine.engine caller caller.memory number args,
        List.perm_middle.trans (.of_eq ?_)⟩
      simp only [react, List.cons_append, List.append_assoc]
  | exit process listed status =>
    exact ⟨_, _, _, perm_of_parked listed, .terminate process (.exited status) _ silent, .refl _⟩
  | abort process listed fault =>
    exact ⟨_, _, _, perm_of_parked listed, .terminate process .killed _
      (told (by trivial) (by trivial)), .refl _⟩
  | halt pid => exact ⟨_, _, _, nobody, .halt pid, .refl _⟩
  | ask joiner listed asking =>
    have apart := perm_of_joiners listed
    have asked : world.machine.kernel.Act [joiner.process]
        (joiner.errand.ask world.machine.kernel joiner.process).effects
        (joiner.errand.ask world.machine.kernel joiner.process).kernel
        [(joiner.errand.ask world.machine.kernel joiner.process).caller] := by
      have alone := joiner.errand.child_ask world.machine.kernel joiner.process
      cases errand : joiner.errand with
      | direct child => exact .poll _ joiner.process.pid child
      | call pending =>
        rw [errand] at alone
        have resumed : world.machine.kernel.Act [joiner.process] _ _ _ :=
          .resume joiner.process pending
        have childless : (world.machine.kernel.resume joiner.process pending).child = none := alone
        rw [childless] at resumed
        exact resumed
    unfold World.asked
    simp only
    split
    · exact ⟨_, _, _, apart, asked, List.perm_middle⟩
    · exact ⟨_, _, _, apart, asked, .refl _⟩
  | enter process listed live child =>
    have apart := perm_of_parked listed
    exact ⟨_, _, _, nobody, idle, List.perm_middle.trans apart.symm⟩
  | block joiner listed told without =>
    refine ⟨_, _, _, nobody, idle, .of_eq ?_⟩
    simp only [processes, listed, List.map_append, List.map_cons, List.nil_append]
  | rise joiner listed waits permitted =>
    refine ⟨_, _, _, nobody, idle, .of_eq ?_⟩
    simp only [processes, listed, List.map_append, List.map_cons, List.nil_append]
    rfl
  | compute pid change => exact ⟨_, _, _, .refl _, .compute _ pid change, .refl _⟩
  | console console => exact ⟨_, _, _, nobody, .rest console, .refl _⟩
  | deliver | permit | equip => exact ⟨_, _, _, nobody, idle, .refl _⟩

/-- Whatever every act preserves, whoever stands by, every step preserves. -/
theorem Step.preserves {Inv : Kernel → List (UserProcess σ) → Prop}
    (perm : ∀ {kernel processes processes'}, processes.Perm processes' → Inv kernel processes →
      Inv kernel processes')
    (act : ∀ {kernel kernel' effects before after bystanders},
      kernel.Act before effects kernel' after →
      Inv kernel (before ++ bystanders) → Inv kernel' (after ++ bystanders))
    (step : world.Step occurrence world') (holds : Inv world.machine.kernel world.processes) :
    Inv world'.machine.kernel world'.processes := by
  obtain ⟨before, after, bystanders, old, acts, new⟩ := step.act
  exact perm new.symm (act acts (perm old holds))

/-- Whatever holds of a new kernel and is preserved by every act, whoever stands by, holds of
every world that a run reaches. -/
theorem Run.holds {Inv : Kernel → List (UserProcess σ) → Prop} {engine : Engine σ}
    {config : Config} {console : ConsoleDevice} (start : Inv (.new config console) [])
    (perm : ∀ {kernel processes processes'}, processes.Perm processes' → Inv kernel processes →
      Inv kernel processes')
    (act : ∀ {kernel kernel' effects before after bystanders},
      kernel.Act before effects kernel' after →
      Inv kernel (before ++ bystanders) → Inv kernel' (after ++ bystanders))
    (run : Run engine config console log world) : Inv world.machine.kernel world.processes := by
  induction run with
  | start => exact start
  | step earlier step ih => exact step.preserves perm act ih

/-- In every world the files are there that processes hold. -/
theorem Run.stocked {engine : Engine σ} {config : Config} {console : ConsoleDevice}
    (run : Run engine config console log world) :
    Stocked world.machine.kernel world.processes :=
  run.holds (Stocked.new config console) (fun same stocked => stocked.perm same)
    fun act stocked => act.stocked stocked

end World

end SyscallKernel
