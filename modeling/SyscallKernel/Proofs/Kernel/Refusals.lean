import SyscallKernel.Kernel.Lifecycle
import SyscallKernel.Proofs.Process.Registration

/-!
# Operations of the kernel that are refused

An operation of the kernel that is refused changes nothing. The operations themselves
report no failed call: that is left to whoever made the call.
-/

namespace SyscallKernel

variable {σ : Type}

/-! ### Reports of failures -/

/-- Whether a record says that a call was refused. -/
def Notice.isFailure : Notice → Bool
  | .callFailed .. => true
  | .calledAfterEnd .. => true
  | .haltDenied _ => true
  | _ => false

/-- Whether an effect is the report of a call that was refused. -/
def Effect.isFailure (effect : Effect) : Bool := effect.notice?.any Notice.isFailure

namespace Kernel

/-- Wake-ups report no failure. -/
theorem noFailure_wake (pids : List Pid) :
    (pids.map Effect.wake).any Effect.isFailure = false := by
  rw [List.any_map, List.any_eq_false]
  intro pid _ failure
  cases failure

theorem noFailure_releaseHandles (kernel : Kernel) (handles : List FileHandle) :
    (kernel.releaseHandles handles).effects.any Effect.isFailure = false := by
  rw [List.any_eq_false]
  intro effect member failure
  obtain ⟨notice, reported, rfl⟩ := List.mem_map.1 member
  obtain ⟨release, _, said⟩ := List.mem_filterMap.1 reported
  cases release with
  | stale id => cases said; cases failure
  | unheld name => cases said; cases failure
  | kept => cases said
  | freed name => cases said; cases failure

theorem noFailure_createFile (kernel : Kernel) (name : FileName) (owner : Pid) :
    (kernel.createFile name owner).effects.any Effect.isFailure = false := by
  simp only [createFile, List.any_cons, List.any_nil, Bool.or_false]
  cases (kernel.files.create name owner).2 with
  | truncated handle openCount => rfl
  | created handle => rfl
  | full => rfl

/-- Opening a linked file happens in the tables alone. -/
theorem effects_openFile (kernel : Kernel) (name : FileName) (owner : Pid) :
    (kernel.openFile name owner).effects = [] := by
  unfold openFile
  cases kernel.files.openLinked name owner <;> rfl

theorem noFailure_unlinkFile (kernel : Kernel) (name : FileName) :
    (kernel.unlinkFile name).effects.any Effect.isFailure = false := by
  unfold unlinkFile
  cases kernel.files.unlink name with
  | none => rfl
  | some removed =>
    obtain ⟨files, unlinking⟩ := removed
    cases unlinking <;> rfl

theorem noFailure_haltIfLast (kernel : Kernel) (news : TerminationNews) :
    (kernel.haltIfLast news).effects.any Effect.isFailure = false := by
  unfold haltIfLast
  split
  · rw [List.any_cons, shutdown, noFailure_wake]
    rfl
  · rfl

theorem noFailure_terminate (kernel : Kernel) (process : UserProcess σ) (how : Termination) :
    (kernel.terminate process how).effects.any Effect.isFailure = false := by
  unfold terminate
  split
  · rfl
  · have released := kernel.noFailure_releaseHandles process.files.handles
    simp only [recordTermination]
    cases (kernel.releaseHandles process.files.handles).kernel.processes.terminate process.pid
      how with
    | none =>
      simp only [answer, List.any_append, released]
      rfl
    | some ended =>
      obtain ⟨table, news⟩ := ended
      simp only [List.any_append, released, noFailure_wake, noFailure_haltIfLast]
      rfl

theorem noFailure_begin (kernel : Kernel) (process : UserProcess σ) (start : Start) :
    (kernel.begin process start).effects.any Effect.isFailure = false := by
  cases start with
  | park => rfl
  | exit status => exact kernel.noFailure_terminate process _
  | abort fault =>
    rw [begin, abort, List.any_cons, noFailure_terminate]
    rfl

theorem noFailure_spawn (engine : Engine σ) (kernel : Kernel) (parent : Option Pid)
    (image : ProgramImage) :
    (kernel.spawn engine parent image).effects.any Effect.isFailure = false := by
  unfold spawn
  split
  · rfl
  · cases engine.load image with
    | error error => rfl
    | ok memory =>
      simp only [registerProcess]
      cases kernel.processes.register parent with
      | error error => rfl
      | ok registered =>
        simp only [List.any_append, noFailure_begin]
        rfl

theorem noFailure_pollJoin (kernel : Kernel) (caller child : Pid) :
    (kernel.pollJoin caller child).effects.any Effect.isFailure = false := by
  unfold pollJoin
  cases kernel.processes.pollJoin caller child with
  | error error => rfl
  | ok joined =>
    obtain ⟨table, poll⟩ := joined
    cases poll <;> rfl

/-! ### Operations that are refused -/

theorem createFile_of_error {kernel : Kernel} {name : FileName} {owner : Pid} {error : SysError}
    (refused : (kernel.createFile name owner).value = .error error) :
    (kernel.createFile name owner).kernel = kernel := by
  simp only [createFile, FileStore.create] at refused ⊢
  split at refused
  · cases refused
  · split at refused
    · rename_i full
      simp only [full, if_true]
    · cases refused

theorem openFile_of_error {kernel : Kernel} {name : FileName} {owner : Pid} {error : SysError}
    (refused : (kernel.openFile name owner).value = .error error) :
    (kernel.openFile name owner).kernel = kernel := by
  unfold openFile at refused ⊢
  cases found : kernel.files.openLinked name owner with
  | none => rfl
  | some opened =>
    rw [found] at refused
    cases refused

theorem unlinkFile_of_error {kernel : Kernel} {name : FileName} {error : SysError}
    (refused : (kernel.unlinkFile name).value = .error error) :
    kernel.unlinkFile name = kernel.answer (.error error) := by
  unfold unlinkFile at refused ⊢
  cases found : kernel.files.unlink name with
  | none =>
    rw [found] at refused
    exact congrArg _ refused
  | some removed =>
    rw [found] at refused
    cases refused

theorem pollJoin_of_error {kernel : Kernel} {caller child : Pid} {error : SysError}
    (refused : (kernel.pollJoin caller child).value = .error error) :
    kernel.pollJoin caller child = kernel.answer (.error error) := by
  unfold pollJoin at refused ⊢
  cases polled : kernel.processes.pollJoin caller child with
  | error cause =>
    rw [polled] at refused
    exact congrArg _ refused
  | ok joined =>
    obtain ⟨table, poll⟩ := joined
    rw [polled] at refused
    cases poll with
    | pending => cases refused
    | ready how => cases refused

theorem spawn_of_error {engine : Engine σ} {kernel : Kernel} {parent : Option Pid}
    {image : ProgramImage} {error : SysError}
    (refused : (kernel.spawn engine parent image).value = .error error) :
    kernel.spawn engine parent image = kernel.answer (.error error) := by
  unfold spawn at refused ⊢
  split
  · rename_i halted
    rw [if_pos halted] at refused
    exact congrArg _ refused
  · rename_i running
    rw [if_neg running] at refused
    cases loaded : engine.load image with
    | error cause =>
      simp only [loaded] at refused ⊢
      exact congrArg _ refused
    | ok memory =>
      simp only [loaded, registerProcess] at refused ⊢
      cases registered : kernel.processes.register parent with
      | error cause =>
        simp only [registered, answer] at refused ⊢
        cases refused
        rfl
      | ok entry =>
        simp only [registered] at refused
        cases refused

theorem pid_terminate (kernel : Kernel) (process : UserProcess σ) (how : Termination) :
    (kernel.terminate process how).value.pid = process.pid := by
  unfold terminate
  split
  · rfl
  · simp only
    split <;> rfl

theorem pid_begin (kernel : Kernel) (process : UserProcess σ) (start : Start) :
    (kernel.begin process start).value.pid = process.pid := by
  cases start with
  | park => rfl
  | exit status => exact kernel.pid_terminate process _
  | abort fault => exact kernel.pid_terminate process _

/-- The pid of a process that was started can be returned. -/
theorem pid_mem_of_spawn {engine : Engine σ} {kernel : Kernel} {parent : Option Pid}
    {image : ProgramImage} {process : UserProcess σ} (wellFormed : kernel.processes.WellFormed)
    (started : (kernel.spawn engine parent image).value = .ok process) :
    1 ≤ process.pid.number ∧ process.pid.number ≤ Pid.limit := by
  unfold spawn at started
  split at started
  · cases started
  · cases loaded : engine.load image with
    | error cause =>
      simp only [loaded] at started
      cases started
    | ok memory =>
      simp only [loaded, registerProcess] at started
      cases registered : kernel.processes.register parent with
      | error cause =>
        simp only [registered, answer] at started
        cases started
      | ok entry =>
        obtain ⟨table, pid⟩ := entry
        simp only [registered, Except.ok.injEq] at started
        have registration := ProcessTable.registration_of_register registered
        have bounds := (ProcessTable.freePid_eq_some registration.chosen).2.2 wellFormed.nextPid_mem
        rw [← started, pid_begin]
        exact bounds

end Kernel

end SyscallKernel
