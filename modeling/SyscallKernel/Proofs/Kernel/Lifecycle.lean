import SyscallKernel.Kernel.Lifecycle
import SyscallKernel.Proofs.Kernel.Consistency

/-!
# Starting and ending processes keeps the agreement

Ending a process releases its handles and its record together; starting one adds a
process without handles and a running record. The operations that several processes
share are treated first, what is built on them follows in the order of the code.
-/

namespace SyscallKernel

variable {σ : Type} {kernel kernel' : Kernel} {n : Nat} {processes others : List (UserProcess σ)}
  {process : UserProcess σ}

/-- A part of the kernel that does nothing. -/
theorem Consistent.sound (consistent : Consistent kernel n processes) :
    Sound kernel n [] kernel processes :=
  .of_quiet consistent (fun _ member => nomatch member) fun _ ended => ended

/-- One effect is quiet if it is. -/
theorem Effect.isQuiet_of_singleton {single : Effect} (quiet : single.IsQuiet) :
    ∀ effect ∈ [single], effect.IsQuiet := by
  intro effect member
  rw [List.mem_singleton.1 member]
  exact quiet

/-- A wake-up is quiet. -/
theorem Effect.isQuiet_of_wake (pids : List Pid) :
    ∀ effect ∈ pids.map Effect.wake, effect.IsQuiet := by
  intro effect member
  obtain ⟨pid, _, rfl⟩ := List.mem_map.1 member
  trivial

namespace Consistent

/-- One process may end if its record ends and its handles are given up. -/
theorem teardown {how : Termination} {record : ProcessRecord} {news : TerminationNews}
    (consistent : Consistent kernel n (process :: others))
    (ending : kernel.processes.Ending process.pid how record kernel'.processes news) :
    Consistent kernel' n ({ process with terminated := true, files := .cleared } :: others) := by
  refine consistent.replace rfl (ending.wellFormed consistent.table)
    (ending.numbered consistent.numbered) ?_ ?_
  · constructor
    case pid_le => exact consistent.head.pid_le
    case running_iff =>
      rw [ending.isRunning_eq]
      simp only [ne_eq, not_true_eq_false, decide_false, Bool.false_and, Bool.true_eq_false,
        Bool.false_eq_true]
    case ended => exact fun _ => DescriptorTable.handles_cleared
    case owner =>
      intro handle held
      rw [DescriptorTable.handles_cleared] at held
      cases held
  · intro pid differs
    rw [ending.isRunning_eq, decide_eq_true differs, Bool.true_and]

/-- A new process joins the others once it is registered. -/
theorem enrol {parent : Option Pid} {pid : Pid} (consistent : Consistent kernel n processes)
    (registration : kernel.processes.Registration parent kernel'.processes pid)
    (notWrapped : n < Pid.limit) (memory : σ) :
    Consistent kernel' (n + 1) (.fresh pid memory :: processes) := by
  have number := registration.number_eq consistent.numbered notWrapped
  have new : ∀ other ∈ processes, other.pid ≠ pid := by
    intro other member same
    have bound := (consistent.agrees other member).pid_le
    rw [same] at bound
    omega
  constructor
  case table => exact registration.wellFormed consistent.table
  case numbered => exact registration.numbered consistent.numbered notWrapped
  case pids_nodup =>
    rw [List.map_cons, List.nodup_cons]
    refine ⟨?_, consistent.pids_nodup⟩
    intro member
    obtain ⟨other, listed, same⟩ := List.mem_map.1 member
    exact new other listed same
  case complete =>
    intro wanted positive within
    rcases Nat.lt_or_eq_of_le within with earlier | last
    · obtain ⟨other, member, found⟩ :=
        consistent.complete wanted positive (Nat.le_of_lt_succ earlier)
      exact ⟨other, List.mem_cons_of_mem _ member, found⟩
    · exact ⟨.fresh pid memory, List.mem_cons_self, number.trans last.symm⟩
  case agrees =>
    intro other member
    rcases List.mem_cons.1 member with rfl | member
    · constructor
      case pid_le => exact Nat.le_of_eq number
      case running_iff =>
        rw [registration.isRunning_eq]
        simp only [UserProcess.fresh, decide_true, Bool.true_or]
      case ended => exact fun torn => nomatch torn
      case owner =>
        intro handle held
        rw [UserProcess.fresh, DescriptorTable.handles_new] at held
        cases held
    · have old := consistent.agrees other member
      have same : kernel'.processes.isRunning other.pid = kernel.processes.isRunning other.pid := by
        rw [registration.isRunning_eq, decide_eq_false (new other member), Bool.false_or]
      have agrees := old.of_same_running same
      exact ⟨Nat.le_succ_of_le agrees.pid_le, agrees.running_iff, agrees.ended, agrees.owner⟩

end Consistent

namespace Kernel

/-- What is said about a release is quiet. -/
theorem isQuiet_releaseHandles (kernel : Kernel) (handles : List FileHandle) :
    ∀ effect ∈ (kernel.releaseHandles handles).effects, effect.IsQuiet := by
  intro effect member
  obtain ⟨notice, reported, rfl⟩ := List.mem_map.1 member
  obtain ⟨release, -, report⟩ := List.mem_filterMap.1 reported
  cases release with
  | stale => cases report; trivial
  | unheld => cases report; trivial
  | kept => cases report
  | freed => cases report; trivial

/-- Shutting down wakes the waiters and leaves the processes alone. -/
theorem sound_shutdown (consistent : Consistent kernel n processes) :
    Sound kernel n kernel.shutdown.effects kernel.shutdown.kernel processes := by
  have running := ProcessTable.isRunning_shutdown kernel.processes
  refine .of_quiet (consistent.of_same_running ?_ ?_ running) (Effect.isQuiet_of_wake _) ?_
  · exact ProcessTable.wellFormed_shutdown consistent.table
  · exact ProcessTable.numbered_shutdown consistent.numbered
  · intro pid ended
    exact (running pid).trans ended

theorem sound_halt (consistent : Consistent kernel n processes) (caller : Pid) :
    Sound kernel n (kernel.halt caller).effects (kernel.halt caller).kernel processes := by
  unfold halt
  split
  · exact (sound_shutdown consistent).quiet_before (Effect.isQuiet_of_singleton (by trivial))
  · exact consistent.sound.quiet_after (Effect.isQuiet_of_singleton (by trivial))

theorem sound_haltIfLast (consistent : Consistent kernel n processes) (news : TerminationNews) :
    Sound kernel n (kernel.haltIfLast news).effects (kernel.haltIfLast news).kernel processes := by
  unfold haltIfLast
  split
  · exact (sound_shutdown consistent).quiet_before (Effect.isQuiet_of_singleton (by trivial))
  · exact consistent.sound

/-- Ending a process closes its files and its record together. -/
theorem sound_terminate (consistent : Consistent kernel n (process :: others))
    (how : Termination) :
    Sound kernel n (kernel.terminate process how).effects (kernel.terminate process how).kernel
      ((kernel.terminate process how).value :: others) := by
  unfold terminate
  split
  · exact consistent.sound
  · rename_i notTorn
    -- Whoever was not torn down runs, so its record can end.
    have running : kernel.processes.isRunning process.pid = true :=
      consistent.head.running_iff.1 (Bool.eq_false_iff.2 notTorn)
    cases result : kernel.processes.terminate process.pid how with
    | none =>
      rw [ProcessTable.terminate_eq_none_iff, running] at result
      cases result
    | some ended =>
      obtain ⟨table, news⟩ := ended
      obtain ⟨record, ending⟩ := ProcessTable.ending_of_terminate consistent.table result
      have recorded : (kernel.releaseHandles process.files.handles).kernel.recordTermination
          process.pid how = ⟨{ (kernel.releaseHandles process.files.handles).kernel with
            processes := table }, [.note (.terminated process.pid how)], some news⟩ := by
        have sameTable : (kernel.releaseHandles process.files.handles).kernel.processes =
            kernel.processes := rfl
        rw [recordTermination, sameTable, result]
      simp only [recorded]
      have torn : Consistent { (kernel.releaseHandles process.files.handles).kernel with
          processes := table } n ({ process with terminated := true, files := .cleared } :: others) :=
        consistent.teardown ending
      have stopped : ∀ pid, kernel.processes.isRunning pid = false →
          table.isRunning pid = false := by
        intro pid ended
        rw [ending.isRunning_eq, ended, Bool.and_false]
      have released : Sound kernel n (kernel.releaseHandles process.files.handles).effects _ _ :=
        .of_quiet torn (isQuiet_releaseHandles _ _) stopped
      have reported := released.quiet_after
        (Effect.isQuiet_of_singleton
        (by trivial : (Effect.note (.terminated process.pid how)).IsQuiet))
      have woken := reported.quiet_after (Effect.isQuiet_of_wake news.waiter.toList)
      exact woken.trans (sound_haltIfLast woken.consistent news)

theorem sound_exit (consistent : Consistent kernel n (process :: others)) (status : Register) :
    Sound kernel n (kernel.exit process status).effects (kernel.exit process status).kernel
      ((kernel.exit process status).value :: others) :=
  sound_terminate consistent (.exited status)

theorem sound_abort (consistent : Consistent kernel n (process :: others)) (fault : Fault) :
    Sound kernel n (kernel.abort process fault).effects (kernel.abort process fault).kernel
      ((kernel.abort process fault).value :: others) :=
  (sound_terminate consistent .killed).quiet_before
    (Effect.isQuiet_of_singleton (by trivial : (Effect.note (.killed process.pid fault)).IsQuiet))

theorem sound_begin (consistent : Consistent kernel n (process :: others)) (start : Start) :
    Sound kernel n (kernel.begin process start).effects (kernel.begin process start).kernel
      ((kernel.begin process start).value :: others) := by
  cases start with
  | park => exact consistent.sound
  | exit status => exact sound_exit consistent status
  | abort fault => exact sound_abort consistent fault

/-- Registering a process under the next pid starts it. -/
theorem sound_enrol {parent : Option Pid} {pid : Pid} {table : ProcessTable}
    (consistent : Consistent kernel n processes)
    (registration : kernel.processes.Registration parent table pid) (room : n < Pid.limit)
    (image : ProgramImage) (memory : σ) :
    Sound kernel n [.note (.registered pid parent),
        .note (.spawned image.name pid parent image.args.length), .started pid image]
      { kernel with processes := table } (.fresh pid memory :: processes) := by
  have number := registration.number_eq consistent.numbered room
  constructor
  case consistent => exact consistent.enrol registration room memory
  case stopped =>
    intro other within ended
    have new : other ≠ pid := by
      intro same
      rw [same] at within
      omega
    rw [registration.isRunning_eq, ended, decide_eq_false new, Bool.or_false]
  case started =>
    intro other program member
    simp only [List.mem_cons, List.not_mem_nil, or_false, reduceCtorEq, false_or,
      Effect.started.injEq] at member
    have last : other.number = n + 1 := by rw [member.1, number]
    exact ⟨last ▸ Nat.le_add_left 1 n, Nat.le_of_eq last⟩
  case reaped =>
    intro caller child member
    simp only [List.mem_cons, List.not_mem_nil, or_false, Effect.note.injEq,
      reduceCtorEq] at member

/-- Starting a process registers it under the next pid; a start that fails changes
nothing. -/
theorem sound_spawn (engine : Engine σ) (consistent : Consistent kernel n processes)
    (parent : Option Pid) (image : ProgramImage)
    (notWrapped :
      n + Effect.startedCount (kernel.spawn engine parent image).effects ≤ Pid.limit) :
    Sound kernel n (kernel.spawn engine parent image).effects
      (kernel.spawn engine parent image).kernel
      ((kernel.spawn engine parent image).value.toOption.toList ++ processes) := by
  unfold spawn at notWrapped ⊢
  split
  · exact consistent.sound
  · rename_i running
    rw [if_neg running] at notWrapped
    cases loaded : engine.load image with
    | error error => exact consistent.sound
    | ok memory =>
      rw [loaded] at notWrapped
      cases result : kernel.processes.register parent with
      | error error =>
        simp only [registerProcess, result]
        exact consistent.sound
      | ok registered =>
        obtain ⟨table, pid⟩ := registered
        simp only [registerProcess, result] at notWrapped ⊢
        have registration := ProcessTable.registration_of_register result
        have room : n < Pid.limit := by
          rw [Effect.startedCount_append, Effect.startedCount_append] at notWrapped
          have one : Effect.startedCount [.note (.spawned image.name pid parent image.args.length),
            .started pid image] = 1 := rfl
          omega
        have started := sound_enrol consistent registration room image memory
        exact started.trans (sound_begin started.consistent (engine.start image))

/-- Asking for a child changes nothing about who runs; whoever is reaped has stopped. -/
theorem sound_pollJoin (consistent : Consistent kernel n processes) (caller child : Pid) :
    Sound kernel n (kernel.pollJoin caller child).effects (kernel.pollJoin caller child).kernel
      processes := by
  unfold pollJoin
  cases result : kernel.processes.pollJoin caller child with
  | error error => exact consistent.sound
  | ok joined =>
    obtain ⟨table, poll⟩ := joined
    cases poll with
    | pending =>
      have awaiting := ProcessTable.awaiting_of_pollJoin consistent.table result
      refine .of_quiet (consistent.of_same_running (awaiting.wellFormed consistent.table)
        (awaiting.numbered consistent.numbered) awaiting.isRunning_eq)
        (fun _ member => nomatch member) ?_
      intro pid ended
      exact (awaiting.isRunning_eq pid).trans ended
    | ready how =>
      have reaping := ProcessTable.reaping_of_pollJoin consistent.table result
      constructor
      case consistent =>
        exact consistent.of_same_running (reaping.wellFormed consistent.table)
          (reaping.numbered consistent.numbered) reaping.isRunning_eq
      case stopped =>
        intro pid _ ended
        exact (reaping.isRunning_eq pid).trans ended
      case started =>
        intro pid image member
        cases List.mem_singleton.1 member
      case reaped =>
        intro parent reaped member
        have same := List.mem_singleton.1 member
        cases same
        obtain ⟨record, found, state⟩ := Option.map_eq_some_iff.1 reaping.ended
        refine ⟨(consistent.table.pid_mem found).1, consistent.numbered.pid_le found, ?_⟩
        rw [reaping.isRunning_eq, ProcessTable.isRunning, found, Option.any_some,
          ProcessRecord.isRunning, state]
        rfl

end Kernel

end SyscallKernel
