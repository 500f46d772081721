import SyscallKernel.Proofs.Kernel.Demands
import SyscallKernel.Proofs.Machine.Acts
import SyscallKernel.Proofs.Machine.Aftermath
import SyscallKernel.Proofs.Process.Root

/-!
# Who can halt the machine

In every world the process table has come about by calls, so there is at most one root
in it. That process, and no other, halts the machine, directly or by a call; anybody
else is refused and changes nothing. Once the machine has halted no call is refused any
more, nor does it do anything.
-/

namespace SyscallKernel

variable {σ : Type}

namespace World

variable [AddressSpace σ] {world world' : World σ} {log : List Effect} {occurrence : Occurrence}

/-- Every step consists of calls on the process table. -/
theorem Step.dealings (step : world.Step occurrence world') :
    ∃ history,
      world.machine.kernel.processes.Dealings history world'.machine.kernel.processes ∧
        history.registrations.length = Effect.startedCount occurrence.effects := by
  obtain ⟨history, dealings, count⟩ := ProcessTable.Deed.dealings step.does
  rw [Effect.startedCount_told] at count
  exact ⟨history, dealings, count⟩

/-- The process table of every world has come about by calls, of which those that
registered a process are as many as the log shows processes started. -/
theorem Run.recorded {engine : Engine σ} {config : Config} {console : ConsoleDevice}
    (run : Run engine config console log world) :
    ∃ history,
      ProcessTable.Recorded config.maxProcesses history world.machine.kernel.processes ∧
        history.registrations.length = Effect.startedCount log := by
  induction run with
  | start => exact ⟨[], .start, rfl⟩
  | step earlier step ih =>
    obtain ⟨history, recorded, before⟩ := ih
    obtain ⟨later, dealings, since⟩ := step.dealings
    refine ⟨later ++ history, dealings.recorded recorded, ?_⟩
    rw [TableHistory.registrations, List.filterMap_append, List.length_append,
      Effect.startedCount_append, ← before, ← since, Nat.add_comm]
    rfl

/-- Every step keeps the kernel and all processes in agreement. -/
theorem Step.sound {n : Nat} (step : world.Step occurrence world')
    (consistent : Consistent world.machine.kernel n world.processes)
    (notWrapped : n + Effect.startedCount occurrence.effects ≤ Pid.limit) :
    Sound world.machine.kernel n occurrence.effects world'.machine.kernel world'.processes := by
  obtain ⟨before, after, bystanders, old, act, new⟩ := step.act
  exact (act.sound _ (consistent.perm old) notWrapped).perm new.symm

/-- The kernel and all processes of a world agree as long as the pids have not gone round. -/
theorem Run.consistent {engine : Engine σ} {config : Config} {console : ConsoleDevice}
    (run : Run engine config console log world)
    (notWrapped : Effect.startedCount log ≤ Pid.limit) :
    Consistent world.machine.kernel (Effect.startedCount log) world.processes := by
  induction run with
  | start => exact Consistent.new config console
  | step earlier step ih =>
    rw [Effect.startedCount_append] at notWrapped ⊢
    exact (step.sound (ih (Nat.le_trans (Nat.le_add_right _ _) notWrapped)) notWrapped).consistent

/-- Who can halt the machine of a world, and what becomes of the others who try. -/
structure HaltsForRoot (world : World σ) : Prop where
  /-- The root halts the machine. -/
  granted : ∀ pid, world.machine.kernel.processes.isRoot pid = true →
    (world.machine.kernel.halt pid).value = .ok () ∧
      (world.machine.kernel.halt pid).kernel.isHalted = true
  /-- For anybody else the kernel stays as it is. -/
  denied : ∀ pid, world.machine.kernel.processes.isRoot pid = false →
    world.machine.kernel.halt pid =
      ⟨world.machine.kernel, [.note (.haltDenied pid)], .error .permissionDenied⟩
  /-- The root halts the machine by a call as well. -/
  called : ∀ engine, ∀ caller ∈ world.processes, ∀ args, world.machine.kernel.isHalted = false →
    world.machine.kernel.processes.isRoot caller.pid = true →
      (world.machine.kernel.dispatch engine caller Syscall.halt.number args).value =
          .finished .halted ∧
        (world.machine.kernel.dispatch engine caller Syscall.halt.number args).kernel.isHalted =
          true
  /-- The call of anybody else is refused and leaves no trace. -/
  refused : ∀ engine, ∀ caller ∈ world.processes, ∀ args, world.machine.kernel.isHalted = false →
    world.machine.kernel.processes.isRoot caller.pid = false →
      (world.machine.kernel.dispatch engine caller Syscall.halt.number args).value =
          .finished (.returned SysError.sentinel) ∧
        (world.machine.kernel.dispatch engine caller Syscall.halt.number args).LeavesNoTrace
          world.machine.kernel caller
  /-- On a machine that has halted the call does nothing, whoever makes it. -/
  late : ∀ engine, ∀ (caller : UserProcess σ) args, world.machine.kernel.isHalted = true →
    world.machine.kernel.dispatch engine caller Syscall.halt.number args =
      .still world.machine.kernel caller (.finished .halted)

/-- In every world exactly the root can halt the machine. -/
theorem Run.haltsForRoot {engine : Engine σ} {config : Config} {console : ConsoleDevice}
    (run : Run engine config console log world)
    (notWrapped : Effect.startedCount log ≤ Pid.limit) : world.HaltsForRoot := by
  have consistent := run.consistent notWrapped
  constructor
  case granted => exact fun pid root => Kernel.halt_of_isRoot root
  case denied => exact fun pid other => Kernel.halt_of_not_isRoot other
  case called =>
    intro engine caller member args goesOn root
    have live := (consistent.agrees caller member).running_iff.2
      (consistent.table.root_running (of_decide_eq_true root))
    obtain ⟨answer, halted⟩ := Kernel.halt_of_isRoot root
    rw [Kernel.dispatch_halt engine goesOn live, SyscallKernel.Step.after, Service.halt, answer]
    exact ⟨rfl, halted⟩
  case refused =>
    intro engine caller member args goesOn other
    cases torn : caller.terminated with
    | true =>
      rw [Kernel.dispatch_of_terminated engine goesOn torn]
      exact ⟨rfl, (SyscallKernel.Step.leavesNoTrace_still _ _ _).after_note _⟩
    | false =>
      have answers : (Service.halt world.machine.kernel caller).Answers world.machine.kernel caller
        fun _ _ => True := Service.answers_halt
      have returned : (Service.halt world.machine.kernel caller).value =
          .finished (.returned SysError.sentinel) := by
        simp only [Service.halt, Kernel.halt_of_not_isRoot other]
        rfl
      rw [Kernel.dispatch_halt engine goesOn torn]
      exact ⟨returned, (answers.refused returned).after_note _⟩
  case late =>
    intro engine caller args halted
    exact Kernel.dispatch_of_isHalted halted engine caller _ args

/-- In every process table that calls lead to before the pids go round there is at most one
root, which took its role by its registration and keeps it to its end; and in every world that
role, and nothing else, gives the power to halt the machine. -/
theorem halt_authority :
    (∀ {capacity : Nat} {history : TableHistory} {table : ProcessTable},
      ProcessTable.Recorded capacity history table → history.registrations.length ≤ Pid.limit →
        table.HasOneRoot capacity history) ∧
    ∀ {engine : Engine σ} {config : Config} {console : ConsoleDevice} {log : List Effect}
      {world : World σ}, Run engine config console log world →
        Effect.startedCount log ≤ Pid.limit → world.HaltsForRoot ∧
          ∃ history,
            ProcessTable.Recorded config.maxProcesses history world.machine.kernel.processes ∧
              history.registrations.length = Effect.startedCount log :=
  ⟨fun recorded notWrapped => recorded.hasOneRoot notWrapped,
    fun run notWrapped => ⟨run.haltsForRoot notWrapped, run.recorded⟩⟩

/-- The root of a machine starts a child and leaves; the child, now without a parent, does not
become the root, but the next process that is registered without one does. In a world with a
root and a child only the root can halt the machine. -/
theorem halt_authority_after_orphaning :
    (∃ history table, ProcessTable.Recorded 4 history table ∧ table.HasOneRoot 4 history ∧
      table.parent? ⟨2⟩ = none ∧ table.isRunning ⟨2⟩ = true ∧ table.isRoot ⟨2⟩ = false ∧
      table.isRoot ⟨3⟩ = true) ∧
    ∃ log, ∃ world : World UniformMemory, Run idling {} .unlimited log world ∧
      world.HaltsForRoot ∧ world.machine.kernel.processes.isRoot ⟨1⟩ = true ∧
      world.machine.kernel.processes.isRoot ⟨2⟩ = false := by
  constructor
  · have started : ProcessTable.Recorded 4 [] _ := .start
    have rooted := started.call (.register none)
    have adopted := rooted.call (.register (some ⟨1⟩))
    have orphaned := adopted.call (.terminate ⟨1⟩ (.exited 0))
    have renewed := orphaned.call (.register none)
    exact ⟨_, _, renewed, (halt_authority (σ := UniformMemory)).1 renewed (by decide +kernel),
      by decide +kernel, by decide +kernel, by decide +kernel, by decide +kernel⟩
  · have switchedOn : Run idling {} .unlimited [] _ := .start
    have rooted := switchedOn.step (.spawn none idler)
    have adopted := rooted.step (.spawn (some ⟨1⟩) idler)
    exact ⟨_, _, adopted, (halt_authority.2 adopted (by decide +kernel)).1, by decide +kernel,
      by decide +kernel⟩

/-- On a machine that has halted the call of a process that is not the root is not refused. -/
theorem halt_call_not_always_refused :
    ¬ ∀ {log : List Effect} {world : World UniformMemory}, Run idling {} .unlimited log world →
      Effect.startedCount log ≤ Pid.limit → ∀ caller ∈ world.processes,
        world.machine.kernel.processes.isRoot caller.pid = false →
          (world.machine.kernel.dispatch idling caller Syscall.halt.number ⟨0, 0, 0, 0⟩).value =
            .finished (.returned SysError.sentinel) := by
  intro refused
  have switchedOn : Run idling {} .unlimited [] _ := .start
  have rooted := switchedOn.step (.spawn none idler)
  have adopted := rooted.step (.spawn (some ⟨1⟩) idler)
  have halted := adopted.step (.halt ⟨1⟩)
  have answer := refused halted (by decide +kernel) _ List.mem_cons_self (by decide +kernel)
  exact absurd answer (by decide +kernel)

end World

end SyscallKernel
