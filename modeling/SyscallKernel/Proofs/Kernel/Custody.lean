import SyscallKernel.Proofs.Kernel.Deeds
import SyscallKernel.Proofs.Process.Custody

/-!
# What the kernel does to a parent's children

Whatever the kernel does in the name of somebody else, a parent keeps its children and the
results of those that have terminated. And whatever it does at all, a child is lost only to a
reaping or to the end of its parent, which the effects tell of.
-/

namespace SyscallKernel

variable {σ : Type} {parent child : Pid}

namespace ProcessTable

variable {table table' : ProcessTable} {effects : List Effect}

theorem keeps_settled (table : ProcessTable) (news : TerminationNews) (parent child : Pid) :
    table.Keeps parent child (table.settled news).1 := by
  unfold settled
  split
  · exact table.keeps_shutdown parent child
  · exact .refl table parent child

/-- A parent keeps its child unless the effects tell that it reaped it or has terminated. -/
theorem Deed.keeps (deed : table.Deed effects table') (wellFormed : table.WellFormed)
    (unreaped : .note (.reaped parent child) ∉ effects)
    (unended : ∀ how, .note (.terminated parent how) ∉ effects) :
    table.Keeps parent child table' := by
  cases deed with
  | idle => exact .refl table parent child
  | awaited result => exact (awaiting_of_pollJoin wellFormed result).keeps parent child
  | reaped result =>
    refine (reaping_of_pollJoin wellFormed result).keeps ?_
    rintro ⟨rfl, rfl⟩
    exact unreaped (List.mem_singleton.2 rfl)
  | enrolled image result => exact (registration_of_register result).keeps parent child
  | ended result =>
    obtain ⟨record, ending⟩ := ending_of_terminate wellFormed result
    refine (ending.keeps wellFormed ?_).trans (keeps_settled _ _ _ _)
    rintro rfl
    exact unended _ List.mem_cons_self
  | flashed image started result =>
    have registration := registration_of_register started
    obtain ⟨record, ending⟩ := ending_of_terminate (registration.wellFormed wellFormed) result
    refine (registration.keeps parent child).trans
      ((ending.keeps (registration.wellFormed wellFormed) ?_).trans (keeps_settled _ _ _ _))
    rintro rfl
    exact unended _ (List.mem_append_right _ List.mem_cons_self)
  | halted root => exact table.keeps_shutdown parent child

end ProcessTable

/-! ### In the name of somebody else -/

namespace Kernel

variable {kernel : Kernel}

/-- What the kernel does keeps a child, or the effects tell of its loss. -/
theorem Does.keeps {effects : List Effect} {kernel' : Kernel} (does : kernel.Does effects kernel')
    (wellFormed : kernel.processes.WellFormed) (unreaped : .note (.reaped parent child) ∉ effects)
    (unended : ∀ how, .note (.terminated parent how) ∉ effects) :
    kernel.processes.Keeps parent child kernel'.processes :=
  ProcessTable.Deed.keeps does wellFormed (fun member => unreaped (List.mem_filter.1 member).1)
    fun how member => unended how (List.mem_filter.1 member).1

/-- A parent that is told to wait keeps its child, and so does everybody else. -/
theorem keeps_of_told (wellFormed : kernel.processes.WellFormed) {caller wanted : Pid}
    (told : (kernel.pollJoin caller wanted).value = .ok .pending) :
    kernel.processes.Keeps parent child (kernel.pollJoin caller wanted).kernel.processes := by
  unfold pollJoin at told ⊢
  cases result : kernel.processes.pollJoin caller wanted with
  | error error =>
    rw [result] at told
    cases told
  | ok joined =>
    obtain ⟨table, poll⟩ := joined
    cases poll with
    | pending => exact (ProcessTable.awaiting_of_pollJoin wellFormed result).keeps parent child
    | ready how =>
      rw [result] at told
      cases told

theorem keeps_pollJoin (wellFormed : kernel.processes.WellFormed) {caller : Pid}
    (other : parent ≠ caller) (wanted : Pid) :
    kernel.processes.Keeps parent child (kernel.pollJoin caller wanted).kernel.processes := by
  unfold pollJoin
  cases result : kernel.processes.pollJoin caller wanted with
  | error error => exact .refl _ _ _
  | ok joined =>
    obtain ⟨table, poll⟩ := joined
    cases poll with
    | pending => exact (ProcessTable.awaiting_of_pollJoin wellFormed result).keeps parent child
    | ready how =>
      exact (ProcessTable.reaping_of_pollJoin wellFormed result).keeps fun both => other both.1

theorem keeps_terminate (wellFormed : kernel.processes.WellFormed) {process : UserProcess σ}
    (other : process.terminated = false → parent ≠ process.pid) (how : Termination) :
    kernel.processes.Keeps parent child (kernel.terminate process how).kernel.processes := by
  cases torn : process.terminated with
  | true =>
    rw [terminate, if_pos torn]
    exact .refl _ _ _
  | false =>
    rcases kernel.terminate_cases process how with ⟨same, -⟩ | ⟨table, news, result, same, -⟩
    · exact .of_eq same
    · obtain ⟨record, ending⟩ := ProcessTable.ending_of_terminate wellFormed result
      rw [same]
      exact (ending.keeps wellFormed (other torn)).trans (ProcessTable.keeps_settled _ _ _ _)

/-- A process that is started is not yet anybody who runs. -/
theorem keeps_spawn (engine : Engine σ) (wellFormed : kernel.processes.WellFormed)
    (runs : kernel.processes.isRunning parent = true) (adopter : Option Pid)
    (image : ProgramImage) :
    kernel.processes.Keeps parent child
      (kernel.spawn engine adopter image).kernel.processes := by
  unfold spawn
  split
  · exact .refl _ _ _
  · split
    · exact .refl _ _ _
    · rename_i memory loaded
      cases result : kernel.processes.register adopter with
      | error error =>
        simp only [registerProcess, result]
        exact .refl _ _ _
      | ok registered =>
        obtain ⟨table, pid⟩ := registered
        simp only [registerProcess, result]
        have registration := ProcessTable.registration_of_register result
        have notNew : parent ≠ pid := by
          rintro rfl
          rw [ProcessTable.isRunning, registration.free] at runs
          cases runs
        have wellFormed' := registration.wellFormed wellFormed
        refine (registration.keeps parent child).trans ?_
        rcases begin_cases { kernel with processes := table } (.fresh pid memory)
          (engine.start image) with ⟨same, -⟩ | ⟨how, table', news, ended, same, -⟩
        · exact .of_eq same
        · obtain ⟨record, ending⟩ := ProcessTable.ending_of_terminate wellFormed' ended
          rw [same]
          exact (ending.keeps wellFormed' notNew).trans (ProcessTable.keeps_settled _ _ _ _)

theorem keeps_boot (engine : Engine σ) (wellFormed : kernel.processes.WellFormed)
    (runs : kernel.processes.isRunning parent = true) (program : Bytes) (args : List Bytes) :
    kernel.processes.Keeps parent child (kernel.boot engine program args).kernel.processes := by
  unfold boot
  split
  · exact .refl _ _ _
  · exact keeps_spawn engine wellFormed runs none _

theorem keeps_halt (kernel : Kernel) (caller : Pid) :
    kernel.processes.Keeps parent child (kernel.halt caller).kernel.processes := by
  unfold halt
  split
  · exact kernel.processes.keeps_shutdown parent child
  · exact .refl _ _ _

end Kernel

variable [AddressSpace σ] {kernel : Kernel} {caller : UserProcess σ}

theorem Service.keeps_join (wellFormed : kernel.processes.WellFormed)
    (other : parent ≠ caller.pid) (pending : PendingJoin) :
    kernel.processes.Keeps parent child (join kernel caller pending).kernel.processes := by
  have polled : kernel.processes.Keeps parent child _ :=
    Kernel.keeps_pollJoin wellFormed other pending.child
  unfold join
  simp only
  split
  · exact polled
  · exact polled
  · unfold deliver
    split
    · exact polled
    · exact polled
    · split
      · exact polled
      · exact polled

/-- A request of somebody else takes no child away. -/
theorem Request.keeps_perform (engine : Engine σ) (wellFormed : kernel.processes.WellFormed)
    (runs : kernel.processes.isRunning parent = true) (other : parent ≠ caller.pid)
    (number : Nat) (request : Request) :
    kernel.processes.Keeps parent child
      (request.perform engine kernel caller number).kernel.processes := by
  have concluded : ∀ {step : Step σ Outcome},
      kernel.processes.Keeps parent child step.kernel.processes →
        kernel.processes.Keeps parent child (step.conclude number).kernel.processes := by
    intro step keeps
    rw [(step.same_conclude number).1]
    exact keeps
  cases request with
  | halt =>
    have halted : kernel.processes.Keeps parent child _ := kernel.keeps_halt caller.pid
    simp only [perform, Service.halt]
    split
    · exact halted
    · exact halted
  | exit status => exact Kernel.keeps_terminate wellFormed (fun _ => other) (.exited status)
  | exec image =>
    have spawned : kernel.processes.Keeps parent child _ :=
      Kernel.keeps_spawn engine wellFormed runs (some caller.pid) image
    refine concluded ?_
    simp only [Service.exec]
    split
    · exact spawned
    · exact spawned
  | join child status => exact concluded (Service.keeps_join wellFormed other _)
  | create name =>
    exact concluded (.of_eq (Service.leavesProcesses_create kernel caller name).processes)
  | openFile name =>
    exact concluded (.of_eq (Service.leavesProcesses_openFile kernel caller name).processes)
  | read fd file buffer count =>
    exact concluded (.of_eq (Service.leavesProcesses_settle kernel caller fd _).processes)
  | write fd file buffer count =>
    exact concluded (.of_eq (Service.leavesProcesses_settle kernel caller fd _).processes)
  | close fd => exact concluded (.of_eq (Service.leavesProcesses_close kernel caller fd).processes)
  | unlink name =>
    exact concluded (.of_eq (Service.leavesProcesses_unlink kernel caller name).processes)

/-- Nor does the first turn of a call of somebody else. -/
theorem Kernel.keeps_dispatch (engine : Engine σ) (wellFormed : kernel.processes.WellFormed)
    (runs : kernel.processes.isRunning parent = true)
    (other : caller.terminated = false → parent ≠ caller.pid) (number : Nat) (args : Registers) :
    kernel.processes.Keeps parent child
      (kernel.dispatch engine caller number args).kernel.processes := by
  have refused : ∀ error, kernel.processes.Keeps parent child
      ((Step.still kernel caller (Outcome.failed error)).conclude number).kernel.processes :=
    fun _ => .of_eq (congrArg Kernel.processes (Step.same_conclude _ number).1)
  unfold dispatch
  split
  · exact .refl _ _ _
  · split
    · exact .refl _ _ _
    · rename_i notTorn
      simp only [Step.after]
      unfold call
      split
      · exact refused _
      · split
        · exact refused _
        · exact Request.keeps_perform engine wellFormed runs (other (Bool.eq_false_iff.2 notTorn))
            number _

end SyscallKernel
