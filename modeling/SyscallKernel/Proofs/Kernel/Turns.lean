import SyscallKernel.Proofs.Kernel.Calls
import SyscallKernel.Proofs.Kernel.Conduct

/-!
# What calls do to the process table

Every turn of a call deals with the process table in the name of its caller: it ends
nobody but the caller, and what it starts is the child it reports. Only joins, the
start of a program and the two calls that end something touch the table at all. A turn
ends suspended only in a join, and such a turn is the same as each later one.
-/

namespace SyscallKernel

variable {σ α : Type} {kernel : Kernel} {caller : UserProcess σ}

namespace Step

/-- A step that leaves the process table, and the standing of its caller, alone. -/
structure LeavesProcesses (kernel : Kernel) (caller : UserProcess σ) (step : Step σ α) : Prop where
  /-- The process table stays. -/
  processes : step.kernel.processes = kernel.processes
  /-- Nobody is woken. -/
  wakes : step.effects.filterMap Effect.wake? = []
  /-- The caller keeps its pid. -/
  pid : step.caller.pid = caller.pid
  /-- The caller is not torn down. -/
  terminated : step.caller.terminated = caller.terminated
  /-- Nobody is started. -/
  child : step.child = none

/-- A step that deals with the process table in the name of its caller. -/
structure Conducts (kernel : Kernel) (caller : UserProcess σ) (step : Step σ α) : Prop where
  /-- The kernel acts for the caller and for the process that it starts. -/
  history : ∃ history, Conduct kernel (roster [caller]) step.effects step.kernel
    (roster (step.caller :: step.child.toList)) history
  /-- The caller keeps its pid. -/
  pid : step.caller.pid = caller.pid

theorem LeavesProcesses.conducts {step : Step σ α} (leaves : step.LeavesProcesses kernel caller) :
    step.Conducts kernel caller := by
  refine ⟨⟨[], ?_⟩, leaves.pid⟩
  have same : roster (step.caller :: step.child.toList) = roster [caller] := by
    rw [leaves.child, roster_cons, UserProcess.roster, leaves.terminated, leaves.pid]
    rfl
  rw [same]
  exact .still leaves.processes leaves.wakes _

/-- The end of a turn adds at most a log record. -/
theorem conducts_conclude {step : Step σ Outcome} (conducts : step.Conducts kernel caller)
    (number : Nat) : (step.conclude number).Conducts kernel caller := by
  unfold conclude
  split
  · exact ⟨conducts.history, conducts.pid⟩
  · exact ⟨conducts.history, conducts.pid⟩
  · split
    · exact ⟨conducts.history, conducts.pid⟩
    · obtain ⟨history, conduct⟩ := conducts.history
      exact ⟨⟨history, conduct.quiet_after [_] rfl⟩, conducts.pid⟩

/-- A log record may come first. -/
theorem Conducts.after_note {step : Step σ α} (conducts : step.Conducts kernel caller)
    (notice : Notice) : (step.after [.note notice]).Conducts kernel caller := by
  obtain ⟨history, conduct⟩ := conducts.history
  exact ⟨⟨history, conduct.quiet_before [_] rfl⟩, conducts.pid⟩

theorem conducts_still (kernel : Kernel) (caller : UserProcess σ) (value : α) :
    (still kernel caller value).Conducts kernel caller :=
  LeavesProcesses.conducts ⟨rfl, rfl, rfl, rfl, rfl⟩

/-- A turn is suspended exactly if its step waits. -/
theorem conclude_eq_suspended {step : Step σ Outcome} {number : Nat} {pending : PendingJoin} :
    (step.conclude number).value = .suspended pending ↔ step.value = .waiting pending := by
  unfold conclude
  split
  · rename_i waiting found
    simp only [found, Progress.suspended.injEq, Outcome.waiting.injEq]
  · rename_i value found
    simp only [found, reduceCtorEq]
  · rename_i error found
    split
    · simp only [found, reduceCtorEq]
    · simp only [found, reduceCtorEq]

end Step

namespace Service

/-- Installing a handle concerns the caller's descriptors only. -/
theorem leavesProcesses_install {reaction : Reaction (Except SysError FileHandle)}
    (same : reaction.kernel.processes = kernel.processes)
    (quiet : reaction.effects.filterMap Effect.wake? = []) :
    (install (reaction.toStep caller)).LeavesProcesses kernel caller := by
  unfold install
  simp only [Reaction.toStep]
  split
  · exact ⟨same, quiet, rfl, rfl, rfl⟩
  · split
    · exact ⟨same, quiet, rfl, rfl, rfl⟩
    · refine ⟨same, ?_, rfl, rfl, rfl⟩
      rw [List.filterMap_append, quiet, Kernel.wakes_releaseHandles]
      rfl

theorem leavesProcesses_create (kernel : Kernel) (caller : UserProcess σ) (name : FileName) :
    (create kernel caller name).LeavesProcesses kernel caller := by
  have installed : (install ((kernel.createFile name caller.pid).toStep caller)).LeavesProcesses
    kernel caller := leavesProcesses_install rfl rfl
  unfold create
  simp only
  split
  · exact ⟨installed.processes, installed.wakes, installed.pid, installed.terminated,
      installed.child⟩
  · refine ⟨installed.processes, ?_, installed.pid, installed.terminated, installed.child⟩
    rw [List.filterMap_append, installed.wakes]
    rfl

theorem leavesProcesses_openFile (kernel : Kernel) (caller : UserProcess σ) (name : FileName) :
    (openFile kernel caller name).LeavesProcesses kernel caller := by
  have installed : (install ((kernel.openFile name caller.pid).toStep caller)).LeavesProcesses
      kernel caller := by
    unfold Kernel.openFile
    split
    · exact leavesProcesses_install rfl rfl
    · exact leavesProcesses_install rfl rfl
  unfold openFile
  simp only
  split
  · exact ⟨installed.processes, installed.wakes, installed.pid, installed.terminated,
      installed.child⟩
  · exact ⟨installed.processes, installed.wakes, installed.pid, installed.terminated,
      installed.child⟩

theorem leavesProcesses_close (kernel : Kernel) (caller : UserProcess σ) (fd : Fd) :
    (close kernel caller fd).LeavesProcesses kernel caller := by
  unfold close
  cases caller.files.release fd with
  | none => exact ⟨rfl, rfl, rfl, rfl, rfl⟩
  | some released => exact ⟨rfl, kernel.wakes_releaseHandles [released.2], rfl, rfl, rfl⟩

theorem leavesProcesses_unlink (kernel : Kernel) (caller : UserProcess σ) (name : FileName) :
    (unlink kernel caller name).LeavesProcesses kernel caller := by
  unfold unlink Kernel.unlinkFile
  cases kernel.files.unlink name with
  | none => exact ⟨rfl, rfl, rfl, rfl, rfl⟩
  | some removed => exact ⟨rfl, rfl, rfl, rfl, rfl⟩

theorem leavesProcesses_settle (kernel : Kernel) (caller : UserProcess σ) (fd : Fd)
    (moved : Transferred σ ConsoleDevice) : (settle kernel caller fd moved).LeavesProcesses kernel caller :=
  ⟨rfl, rfl, rfl, rfl, rfl⟩

/-- Starting a program adds the process that the service reports. -/
theorem conducts_exec (engine : Engine σ) (kernel : Kernel) (caller : UserProcess σ)
    (image : ProgramImage) : (exec engine kernel caller image).Conducts kernel caller := by
  obtain ⟨history, spawned⟩ := Kernel.conduct_spawn engine kernel (some caller.pid) image
  have beside := spawned.beside caller
  unfold exec
  simp only
  split
  · rename_i error value
    rw [value] at beside
    exact ⟨⟨history, beside⟩, rfl⟩
  · rename_i child value
    rw [value] at beside
    exact ⟨⟨history, beside⟩, rfl⟩

theorem conducts_halt (kernel : Kernel) (caller : UserProcess σ) :
    (halt kernel caller).Conducts kernel caller := by
  obtain ⟨history, halted⟩ := kernel.conduct_halt caller.pid
  have beside := halted.beside caller
  unfold halt
  simp only
  split
  · exact ⟨⟨history, beside⟩, rfl⟩
  · exact ⟨⟨history, beside⟩, rfl⟩

theorem conducts_exit (kernel : Kernel) (caller : UserProcess σ) (status : Register) :
    (exit kernel caller status).Conducts kernel caller := by
  obtain ⟨history, ended⟩ := kernel.conduct_exit caller status
  rw [← roster_singleton, ← roster_singleton] at ended
  refine ⟨⟨history, ended⟩, ?_⟩
  unfold exit Kernel.exit Kernel.terminate
  split
  · rfl
  · simp only
    split <;> rfl

variable [AddressSpace σ]

/-- Handing a status over changes the memory of the caller only. -/
theorem conducts_deliver {step : Step σ (Except SysError JoinPoll)}
    (conducts : step.Conducts kernel caller) (status : Option UserAddr) (how : Termination) :
    (deliver step status how).Conducts kernel caller := by
  unfold deliver
  split
  · exact ⟨conducts.history, conducts.pid⟩
  · exact ⟨conducts.history, conducts.pid⟩
  · split
    · exact ⟨conducts.history, conducts.pid⟩
    · exact ⟨conducts.history, conducts.pid⟩

theorem conducts_join (kernel : Kernel) (caller : UserProcess σ) (pending : PendingJoin) :
    (join kernel caller pending).Conducts kernel caller := by
  obtain ⟨history, polled⟩ := kernel.conduct_pollJoin caller.pid pending.child
  have conducts : ((kernel.pollJoin caller.pid pending.child).toStep caller).Conducts kernel
    caller := ⟨⟨history, polled.beside caller⟩, rfl⟩
  unfold join
  simp only
  split
  · exact ⟨conducts.history, conducts.pid⟩
  · exact ⟨conducts.history, conducts.pid⟩
  · exact conducts_deliver conducts _ _

/-- A join waits exactly if its child runs, and then nothing but the waiter changes. -/
theorem join_eq_waiting {pending pending' : PendingJoin} :
    (join kernel caller pending).value = .waiting pending' ↔
      pending' = pending ∧ (kernel.pollJoin caller.pid pending.child).value = .ok .pending := by
  unfold join
  simp only [Reaction.toStep]
  split
  · rename_i error found
    simp only [found, reduceCtorEq, and_false]
  · rename_i found
    simp only [found, Outcome.waiting.injEq, and_true, eq_comm]
  · rename_i how found
    simp only [found, Except.ok.injEq, reduceCtorEq, and_false, iff_false]
    unfold deliver
    split
    · exact fun same => nomatch same
    · exact fun same => nomatch same
    · split
      · exact fun same => nomatch same
      · exact fun same => nomatch same

end Service

namespace Request

variable [AddressSpace σ]

theorem conducts_perform (engine : Engine σ) (kernel : Kernel) (caller : UserProcess σ)
    (number : Nat) (request : Request) :
    (request.perform engine kernel caller number).Conducts kernel caller := by
  cases request with
  | halt => exact Service.conducts_halt kernel caller
  | exit status => exact Service.conducts_exit kernel caller status
  | exec image => exact Step.conducts_conclude (Service.conducts_exec engine kernel caller image) _
  | join child status => exact Step.conducts_conclude (Service.conducts_join kernel caller _) _
  | create name =>
    exact Step.conducts_conclude (Service.leavesProcesses_create kernel caller name).conducts _
  | openFile name =>
    exact Step.conducts_conclude (Service.leavesProcesses_openFile kernel caller name).conducts _
  | read fd file buffer count =>
    exact Step.conducts_conclude (Service.leavesProcesses_settle kernel caller fd _).conducts _
  | write fd file buffer count =>
    exact Step.conducts_conclude (Service.leavesProcesses_settle kernel caller fd _).conducts _
  | close fd =>
    exact Step.conducts_conclude (Service.leavesProcesses_close kernel caller fd).conducts _
  | unlink name =>
    exact Step.conducts_conclude (Service.leavesProcesses_unlink kernel caller name).conducts _

/-- A request for a join comes from the registers of a join. -/
theorem joinArguments_of_ofCall {config : Config} {args : Registers} {call : Syscall} {child : Pid}
    {status : Option UserAddr}
    (formed : ofCall config caller args call = .ok (.join child status)) :
    call = .join ∧ joinArguments caller.memory args = .ok (child, status) := by
  cases call with
  | join =>
    obtain ⟨⟨child', status'⟩, checked, same⟩ := exists_ok_of_map formed
    cases same
    exact ⟨rfl, checked⟩
  | halt => cases formed
  | exit => cases formed
  | exec | create | openFile | read | write | close | unlink =>
    obtain ⟨_, _, same⟩ := exists_ok_of_map formed
    cases same

/-- Only a join can wait. -/
theorem exists_join_of_suspended {engine : Engine σ} {number : Nat} {request : Request}
    {pending : PendingJoin}
    (suspended : (request.perform engine kernel caller number).value = .suspended pending) :
    ∃ child status, request = .join child status := by
  cases request with
  | join child status => exact ⟨child, status, rfl⟩
  | halt =>
    unfold perform Service.halt at suspended
    simp only at suspended
    split at suspended
    · cases suspended
    · cases suspended
  | exit status => cases suspended
  | exec | create | openFile | close | unlink =>
    rw [perform, Step.conclude_eq_suspended] at suspended
    simp only [Service.exec, Service.create, Service.openFile, Service.close, Service.unlink]
      at suspended
    split at suspended
    · cases suspended
    · cases suspended
  | read | write =>
    rw [perform, Step.conclude_eq_suspended] at suspended
    simp only [Service.read, Service.write, Service.settle.eq_def] at suspended
    split at suspended
    · cases suspended
    · cases suspended

end Request

namespace Kernel

variable [AddressSpace σ]

theorem conducts_dispatch (engine : Engine σ) (kernel : Kernel) (caller : UserProcess σ)
    (number : Nat) (args : Registers) :
    (kernel.dispatch engine caller number args).Conducts kernel caller := by
  unfold dispatch
  split
  · exact Step.conducts_still kernel caller _
  · split
    · exact (Step.conducts_still kernel caller _).after_note _
    · refine Step.Conducts.after_note ?_ _
      unfold call
      split
      · exact (Step.conducts_conclude (Step.conducts_still kernel caller _) _).after_note _
      · split
        · exact Step.conducts_conclude (Step.conducts_still kernel caller _) _
        · exact Request.conducts_perform engine kernel caller number _

theorem conducts_resume (kernel : Kernel) (caller : UserProcess σ) (pending : PendingJoin) :
    (kernel.resume caller pending).Conducts kernel caller :=
  Step.conducts_conclude (Service.conducts_join kernel caller pending) _

/-- A parent that is told to wait for its child is known to wait for it. -/
theorem isAwaited_of_pollJoin (wellFormed : kernel.processes.WellFormed) {parent child : Pid}
    (told : (kernel.pollJoin parent child).value = .ok .pending) :
    (kernel.pollJoin parent child).kernel.processes.IsAwaited parent child := by
  unfold pollJoin at told ⊢
  cases result : kernel.processes.pollJoin parent child with
  | error error =>
    simp only [result] at told
    cases told
  | ok joined =>
    obtain ⟨table, poll⟩ := joined
    cases poll with
    | pending => exact (ProcessTable.awaiting_of_pollJoin wellFormed result).isAwaited
    | ready how =>
      simp only [result] at told
      cases told

/-- A turn of a join that is told to wait changes neither the caller nor its errand. -/
theorem resume_of_pending {pending : PendingJoin}
    (told : (kernel.pollJoin caller.pid pending.child).value = .ok .pending) :
    kernel.resume caller pending =
      { (kernel.pollJoin caller.pid pending.child).toStep caller with
        value := .suspended pending } := by
  have waits : Service.join kernel caller pending =
      { (kernel.pollJoin caller.pid pending.child).toStep caller with
        value := .waiting pending } := by
    simp only [Service.join, Reaction.toStep, told]
  rw [resume, waits]
  rfl

/-- A turn of a join ends suspended exactly if it is told to wait. -/
theorem resume_eq_suspended {pending pending' : PendingJoin} :
    (kernel.resume caller pending).value = .suspended pending' ↔
      pending' = pending ∧ (kernel.pollJoin caller.pid pending.child).value = .ok .pending := by
  rw [resume, Step.conclude_eq_suspended, Service.join_eq_waiting]

/-- The join that a call turns out to be, if its registers pass. -/
def asked? (kernel : Kernel) (caller : UserProcess σ) (number : Nat) (args : Registers) :
    Option PendingJoin :=
  if kernel.isHalted || caller.terminated || Syscall.ofNumber? number != some .join then none
  else
    match Request.joinArguments caller.memory args with
    | .error _ => none
    | .ok (child, status) => some ⟨child, status⟩

/-- A call is heard on a running machine, from a process that was not torn down, and its
number is known. -/
theorem asked?_eq_some_iff {number : Nat} {args : Registers} {pending : PendingJoin} :
    kernel.asked? caller number args = some pending ↔
      kernel.isHalted = false ∧ caller.terminated = false ∧
        Syscall.ofNumber? number = some .join ∧
        Request.joinArguments caller.memory args = .ok (pending.child, pending.status) := by
  unfold asked?
  split
  · rename_i refused
    simp only [Bool.or_eq_true, bne_iff_ne, ne_eq] at refused
    refine iff_of_false (fun same => nomatch same) ?_
    rintro ⟨running, live, known, _⟩
    rw [running, live, known] at refused
    simp only [Bool.false_eq_true, or_self, not_true_eq_false] at refused
  · rename_i heard
    simp only [Bool.or_eq_true, bne_iff_ne, ne_eq, not_or, Decidable.not_not,
      Bool.not_eq_true] at heard
    obtain ⟨⟨running, live⟩, known⟩ := heard
    simp only [running, live, known, true_and]
    split
    · rename_i error refused
      simp only [refused, reduceCtorEq]
    · rename_i child status checked
      obtain ⟨child', status'⟩ := pending
      simp only [checked, Option.some.injEq, PendingJoin.mk.injEq, Except.ok.injEq, Prod.mk.injEq]

/-- The first turn of a join is like each later one. -/
theorem dispatch_of_asked? (engine : Engine σ) {number : Nat} {args : Registers}
    {pending : PendingJoin} (asked : kernel.asked? caller number args = some pending) :
    kernel.dispatch engine caller number args =
      (kernel.resume caller pending).after [.note (.called caller.pid number args)] := by
  obtain ⟨running, live, known, checked⟩ := asked?_eq_some_iff.1 asked
  have formed : Request.ofCall kernel.config caller args .join =
      .ok (.join pending.child pending.status) := by
    rw [Request.ofCall, checked]
    rfl
  have same := Syscall.ofNumber?_eq_some_iff.1 known
  simp only [dispatch, running, live, Bool.false_eq_true, if_false, call, known, formed,
    Request.perform, resume, same]

/-- The first turn of a call ends suspended only in a join. -/
theorem asked?_of_suspended {engine : Engine σ} {number : Nat} {args : Registers}
    {pending : PendingJoin}
    (suspended : (kernel.dispatch engine caller number args).value = .suspended pending) :
    kernel.asked? caller number args = some pending := by
  unfold dispatch at suspended
  split at suspended
  · cases suspended
  · rename_i running
    split at suspended
    · cases suspended
    · rename_i live
      rw [Step.after, call] at suspended
      split at suspended
      · rw [Step.after, Step.conclude_eq_suspended] at suspended
        cases suspended
      · rename_i call known
        split at suspended
        · rw [Step.conclude_eq_suspended] at suspended
          cases suspended
        · rename_i request formed
          obtain ⟨child, status, rfl⟩ := Request.exists_join_of_suspended suspended
          rw [Request.perform, Step.conclude_eq_suspended, Service.join_eq_waiting] at suspended
          obtain ⟨rfl, checked⟩ := Request.joinArguments_of_ofCall formed
          rw [suspended.1]
          exact asked?_eq_some_iff.2 ⟨Bool.eq_false_iff.2 running, Bool.eq_false_iff.2 live, known,
            checked⟩

end Kernel

end SyscallKernel
