import SyscallKernel.Machine.Action
import SyscallKernel.Proofs.Kernel.Acts

/-!
# What an attempt does to the kernel and its processes

An attempt leaves processes parked on the machine, and perhaps one more process in the middle of
a call. Together with whoever waits elsewhere these are all processes. In every attempt the
kernel acts once, and afterwards each of them has the place that it should have.
-/

namespace SyscallKernel

variable {σ : Type}

/-- The process in the middle of a call that waits. -/
def Waiting.caller? : Waiting σ → Option (UserProcess σ)
  | join _ _ => none
  | call caller _ _ => some caller

/-- The process in the middle of a call. -/
def Stage.caller? : Stage σ → Option (UserProcess σ)
  | done _ => none
  | waiting what => what.caller?

/-- An action other than the one that ends a record behind the back of the kernel. -/
def Action.IsOrderly : Action → Prop
  | recordTermination _ _ => False
  | _ => True

/-- All processes after an attempt, when some wait elsewhere. -/
def Attempt.processes (attempt : Attempt σ) (others : List (UserProcess σ)) :
    List (UserProcess σ) :=
  attempt.stage.caller?.toList ++ (attempt.machine.parked ++ others)

/-- In an attempt from some processes the kernel acts once, and nobody is lost or counted twice. -/
def Attempt.IsAct [AddressSpace σ] (kernel : Kernel) (processes others : List (UserProcess σ))
    (attempt : Attempt σ) : Prop :=
  ∃ before after bystanders, processes.Perm (before ++ bystanders) ∧
    kernel.Act before attempt.effects attempt.machine.kernel after ∧
    (attempt.processes others).Perm (after ++ bystanders)

namespace Machine

variable {kernel kernel' : Kernel} {n : Nat} {machine : Machine σ}
  {others before after : List (UserProcess σ)} {effects : List Effect} {process : UserProcess σ}
  {pid : Pid}

/-- Wake-ups leave permits and nothing else. -/
theorem absorb_eq (machine : Machine σ) (kernel : Kernel) (effects : List Effect) :
    ∃ permits, machine.absorb kernel effects = { machine with kernel, permits } := by
  rw [absorb]
  generalize effects.filterMap Effect.wake? = woken
  have start : ∃ permits, ({ machine with kernel } : Machine σ) =
      { machine with kernel, permits } := ⟨machine.permits, rfl⟩
  generalize ({ machine with kernel } : Machine σ) = current at start
  induction woken generalizing current with
  | nil => exact start
  | cons pid rest ih =>
    obtain ⟨permits, rfl⟩ := start
    exact ih _ ⟨_, rfl⟩

@[simp] theorem absorb_kernel (machine : Machine σ) (kernel : Kernel) (effects : List Effect) :
    (machine.absorb kernel effects).kernel = kernel := by
  obtain ⟨permits, absorbed⟩ := machine.absorb_eq kernel effects
  rw [absorbed]

@[simp] theorem absorb_parked (machine : Machine σ) (kernel : Kernel) (effects : List Effect) :
    (machine.absorb kernel effects).parked = machine.parked := by
  obtain ⟨permits, absorbed⟩ := machine.absorb_eq kernel effects
  rw [absorbed]

/-- Taking a pid out that nobody has changes nothing. -/
theorem unpark_parked (absent : ∀ other ∈ machine.parked, other.pid ≠ pid) :
    (machine.unpark pid).parked = machine.parked := by
  rw [unpark, List.filter_eq_self]
  intro other member
  rw [decide_eq_true_eq]
  exact absent other member

/-- A process that was found is the one taken out. -/
theorem parked_perm_unpark (found : machine.find? pid = some process)
    (distinct : (machine.parked.map UserProcess.pid).Nodup) :
    machine.parked.Perm (process :: (machine.unpark pid).parked) := by
  rw [find?] at found
  rw [unpark]
  generalize machine.parked = parked at found distinct ⊢
  induction parked with
  | nil => cases found
  | cons first rest ih =>
    rw [List.map_cons, List.nodup_cons] at distinct
    rw [List.find?_cons] at found
    by_cases same : first.pid = pid
    · simp only [same, decide_true, Option.some.injEq] at found
      subst found
      have absent : rest.filter (fun other => decide (other.pid ≠ pid)) = rest := by
        rw [List.filter_eq_self]
        intro other member
        rw [decide_eq_true_eq]
        intro alike
        have listed : other.pid ∈ rest.map UserProcess.pid := List.mem_map_of_mem member
        rw [alike, ← same] at listed
        exact distinct.1 listed
      rw [List.filter_cons_of_neg (by simp only [same, ne_eq, not_true_eq_false, decide_false,
        Bool.false_eq_true, not_false_eq_true]), absent]
    · simp only [same, decide_false] at found
      have kept := ih found distinct.2
      rw [List.filter_cons_of_pos (by simp only [ne_eq, same, not_false_eq_true, decide_true])]
      exact (kept.cons first).trans (List.Perm.swap process first _)

/-- Parking a process of a new pid adds it. -/
theorem park_parked (new : ∀ other ∈ machine.parked, other.pid ≠ process.pid) :
    (machine.park process).parked = process :: machine.parked := by
  rw [park, unpark_parked new]

@[simp] theorem park_kernel (machine : Machine σ) (process : UserProcess σ) :
    (machine.park process).kernel = machine.kernel := rfl

/-- Parking a process of a new pid adds it, also after the kernel has moved on. -/
theorem park_absorb_parked {process : UserProcess σ} (kernel' : Kernel) (effects : List Effect)
    (new : ∀ other ∈ machine.parked, other.pid ≠ process.pid) :
    ((machine.absorb kernel' effects).park process).parked = process :: machine.parked := by
  have same : (machine.absorb kernel' effects).parked = machine.parked := absorb_parked _ _ _
  rw [park_parked, same]
  rw [same]
  exact new

theorem effects_launch (machine : Machine σ)
    (reaction : Reaction (Except SysError (UserProcess σ))) :
    (machine.launch reaction).effects = reaction.effects := by
  unfold launch
  simp only
  split <;> rfl

/-- The processes are all there when an attempt leaves the machine as it is. -/
theorem isAct_reply [AddressSpace σ] (machine : Machine σ) (others : List (UserProcess σ))
    (answer : Answer σ) :
    (machine.reply answer).IsAct machine.kernel (machine.parked ++ others) others :=
  ⟨[], [], machine.parked ++ others, .refl _, .rest machine.kernel.console, .refl _⟩

variable [AddressSpace σ]

/-- An attempt that changes the console only. -/
theorem isAct_console (machine : Machine σ) (others : List (UserProcess σ))
    (console : ConsoleDevice) (answer : Answer σ) :
    (({ machine with kernel := { machine.kernel with console } } : Machine σ).reply answer).IsAct
      machine.kernel (machine.parked ++ others) others :=
  ⟨[], [], machine.parked ++ others, .refl _, .rest console, .refl _⟩

/-- An attempt in which the kernel acts and no process moves. -/
theorem isAct_react {α : Type} {reaction : Reaction α} (answer : α → Answer σ)
    (act : kernel.Act ([] : List (UserProcess σ)) reaction.effects reaction.kernel []) :
    (machine.react reaction answer).IsAct kernel (machine.parked ++ others) others := by
  refine ⟨[], [], machine.parked ++ others, .refl _, ?_, ?_⟩
  · rw [react, absorb_kernel]
    exact act
  · rw [Attempt.processes, react, absorb_parked]
    exact .refl _

/-- An attempt to start a process. -/
theorem isAct_launch {reaction : Reaction (Except SysError (UserProcess σ))}
    (consistent : Consistent kernel n (machine.parked ++ others))
    (act : kernel.Act [] reaction.effects reaction.kernel reaction.value.toOption.toList)
    (notWrapped : n + Effect.startedCount reaction.effects ≤ Pid.limit) :
    (machine.launch reaction).IsAct kernel (machine.parked ++ others) others := by
  have agreed := (act.sound (machine.parked ++ others) consistent notWrapped).consistent
  unfold launch Attempt.IsAct Attempt.processes
  cases value : reaction.value with
  | error error =>
    rw [value] at act
    simp only [absorb_kernel, absorb_parked, Stage.caller?, Option.toList_none, List.nil_append]
    exact ⟨_, _, machine.parked ++ others, .refl _, act, .refl _⟩
  | ok process =>
    rw [value] at act agreed
    have agreed : Consistent _ _ (process :: (machine.parked ++ others)) := agreed
    have parked := park_absorb_parked reaction.kernel reaction.effects fun other member =>
      agreed.apart other (List.mem_append_left _ member)
    simp only [park_kernel, absorb_kernel, parked, Stage.caller?, Option.toList_none,
      List.nil_append, List.cons_append]
    exact ⟨_, _, machine.parked ++ others, .refl _, act, .refl _⟩

theorem isAct_spawn (consistent : Consistent machine.kernel n (machine.parked ++ others))
    (parent : Option Pid) (program : Bytes) (args : List Bytes)
    (notWrapped : n + Effect.startedCount (machine.spawn parent program args).effects ≤ Pid.limit) :
    (machine.spawn parent program args).IsAct machine.kernel (machine.parked ++ others) others := by
  unfold spawn at notWrapped ⊢
  split
  · exact isAct_reply machine others _
  · rename_i name named
    simp only [named, effects_launch] at notWrapped
    exact isAct_launch consistent (.spawn machine.engine parent ⟨name, args⟩ []
      fun _ member => nomatch member) notWrapped

theorem isAct_boot (consistent : Consistent machine.kernel n (machine.parked ++ others))
    (program : Bytes) (args : List Bytes)
    (notWrapped : n + Effect.startedCount
      (machine.kernel.boot machine.engine program args).effects ≤ Pid.limit) :
    (machine.launch (machine.kernel.boot machine.engine program args)).IsAct machine.kernel
      (machine.parked ++ others) others := by
  refine isAct_launch consistent ?_ notWrapped
  unfold Kernel.boot
  split
  · exact .rest machine.kernel.console
  · rename_i name named
    exact .spawn machine.engine none ⟨name, args⟩ [.note (.booting name)]
      fun effect member => by rw [List.mem_singleton.1 member]; exact ⟨trivial, trivial⟩

/-- An attempt to end a process that was taken off the machine. -/
theorem isAct_finish {reaction : Reaction (UserProcess σ)}
    (consistent : Consistent kernel n (process :: (machine.parked ++ others)))
    (act : kernel.Act [process] reaction.effects reaction.kernel [reaction.value])
    (notWrapped : n + Effect.startedCount reaction.effects ≤ Pid.limit) :
    (machine.finish reaction).IsAct kernel (process :: (machine.parked ++ others)) others := by
  have agreed : Consistent _ _ (reaction.value :: (machine.parked ++ others)) :=
    (act.sound (machine.parked ++ others) consistent notWrapped).consistent
  have parked := park_absorb_parked reaction.kernel reaction.effects fun other member =>
    agreed.apart other (List.mem_append_left _ member)
  unfold finish Attempt.IsAct Attempt.processes
  simp only [park_kernel, absorb_kernel, parked, Stage.caller?, Option.toList_none,
    List.nil_append, List.cons_append]
  exact ⟨_, _, machine.parked ++ others, .refl _, act, .refl _⟩

/-- An attempt at a join in the name of a parent. -/
theorem isAct_tryJoin (machine : Machine σ) (others : List (UserProcess σ)) (caller child : Pid) :
    (machine.tryJoin caller child).IsAct machine.kernel (machine.parked ++ others) others := by
  have act : machine.kernel.Act ([] : List (UserProcess σ)) _ _ _ := .poll [] caller child
  refine ⟨[], [], machine.parked ++ others, .refl _, ?_, ?_⟩
  · rw [tryJoin, absorb_kernel]
    exact act
  · simp only [tryJoin, Attempt.processes, absorb_parked]
    split <;> exact .refl _

/-- A process that is used is taken off the machine first. -/
theorem isAct_withProcess {use : Machine σ → UserProcess σ → Attempt σ} {pid : Pid}
    (consistent : Consistent machine.kernel n (machine.parked ++ others))
    (used : ∀ process, machine.find? pid = some process →
      Consistent machine.kernel n (process :: ((machine.unpark pid).parked ++ others)) →
        (use (machine.unpark pid) process).IsAct machine.kernel
          (process :: ((machine.unpark pid).parked ++ others)) others) :
    (machine.withProcess pid use).IsAct machine.kernel (machine.parked ++ others) others := by
  unfold withProcess
  split
  · exact isAct_reply machine others _
  · rename_i process found
    have distinct := consistent.pids_nodup
    rw [List.map_append] at distinct
    have same := (parked_perm_unpark found (List.nodup_append.1 distinct).1).append_right others
    obtain ⟨before, after, bystanders, old, act, new⟩ :=
      used process found (consistent.perm same)
    exact ⟨before, after, bystanders, same.trans old, act, new⟩

/-- An attempt that ends with a turn of a call. -/
theorem isAct_afterTurn {turn : Turn σ}
    (consistent : Consistent kernel n (process :: (machine.parked ++ others)))
    (act : kernel.Act [process] turn.effects turn.kernel (turn.caller :: turn.child.toList))
    (notWrapped : n + Effect.startedCount turn.effects ≤ Pid.limit)
    (readBack : Option (UserAddr × Nat)) :
    (machine.afterTurn turn readBack).IsAct kernel (process :: (machine.parked ++ others))
      others := by
  have agreed : Consistent _ _ (turn.caller :: (turn.child.toList ++ (machine.parked ++ others))) :=
    (act.sound (machine.parked ++ others) consistent notWrapped).consistent
  have same : (machine.absorb turn.kernel turn.effects).parked = machine.parked :=
    absorb_parked _ _ _
  have grown : ∃ grown : Machine σ,
      turn.child.elim (machine.absorb turn.kernel turn.effects)
        (machine.absorb turn.kernel turn.effects).park = grown ∧
      grown.kernel = turn.kernel ∧ grown.parked = turn.child.toList ++ machine.parked := by
    refine ⟨_, rfl, ?_⟩
    cases started : turn.child with
    | none =>
      rw [Option.elim_none, absorb_kernel, same]
      exact ⟨rfl, rfl⟩
    | some child =>
      rw [started] at agreed
      have swapped : Consistent _ _ (child :: turn.caller :: (machine.parked ++ others)) :=
        agreed.perm (List.Perm.swap child turn.caller _)
      have parked := park_absorb_parked turn.kernel turn.effects fun other member =>
        swapped.apart other (List.mem_cons_of_mem _ (List.mem_append_left _ member))
      rw [Option.elim_some, parked, park_kernel, absorb_kernel]
      exact ⟨rfl, rfl⟩
  obtain ⟨grown, eq, sameKernel, parked⟩ := grown
  have regrouped : (turn.caller :: (turn.child.toList ++ (machine.parked ++ others))).Perm
      ((turn.caller :: turn.child.toList) ++ (machine.parked ++ others)) := .refl _
  unfold afterTurn Attempt.IsAct Attempt.processes
  simp only [eq]
  cases turn.value with
  | finished completion =>
    have new : ∀ other ∈ grown.parked, other.pid ≠ turn.caller.pid := by
      intro other member
      rw [parked] at member
      refine agreed.apart other ?_
      rw [← List.append_assoc]
      exact List.mem_append_left _ member
    simp only [park_kernel, park_parked new, sameKernel, parked, Stage.caller?, Option.toList_none,
      List.nil_append, List.cons_append, List.append_assoc]
    exact ⟨_, _, machine.parked ++ others, .refl _, act, regrouped⟩
  | suspended join =>
    simp only [sameKernel, parked, Stage.caller?, Waiting.caller?, Option.toList_some,
      List.singleton_append, List.append_assoc]
    exact ⟨_, _, machine.parked ++ others, .refl _, act, regrouped⟩

theorem effects_afterTurn (machine : Machine σ) (turn : Turn σ)
    (readBack : Option (UserAddr × Nat)) :
    (machine.afterTurn turn readBack).effects = turn.effects := by
  unfold afterTurn
  simp only
  split <;> rfl

/-- A call, with the stores in memory that prepare it. -/
theorem isAct_startCall
    (consistent : Consistent machine.kernel n (process :: (machine.parked ++ others)))
    (number : Nat) (args : Registers) (stores : List (UserAddr × Bytes))
    (readBack : Option (UserAddr × Nat))
    (notWrapped : n + Effect.startedCount
      (machine.startCall process number args stores readBack).effects ≤ Pid.limit) :
    (machine.startCall process number args stores readBack).IsAct machine.kernel
      (process :: (machine.parked ++ others)) others := by
  unfold startCall at notWrapped ⊢
  generalize storeAll process.memory stores = stored at notWrapped ⊢
  obtain ⟨memory, fault⟩ := stored
  cases fault with
  | some fault =>
    have parked : (machine.park { process with memory }).parked =
        { process with memory } :: machine.parked :=
      park_parked fun other member => consistent.apart other (List.mem_append_left _ member)
    have stored : machine.kernel.Act [process] _ _ _ :=
      .compute [process] process.pid fun _ => memory
    rw [List.map_singleton, if_pos rfl] at stored
    refine ⟨_, _, machine.parked ++ others, .refl _, stored, ?_⟩
    simp only [Attempt.processes, reply, parked, Stage.caller?, Option.toList_none,
      List.nil_append, List.cons_append]
    exact .refl _
  | none =>
    simp only [effects_afterTurn] at notWrapped ⊢
    exact isAct_afterTurn consistent (.turn machine.engine process memory number args) notWrapped _

/-- In the attempt at an orderly action the kernel acts once. -/
theorem isAct_perform (consistent : Consistent machine.kernel n (machine.parked ++ others))
    {action : Action} (orderly : action.IsOrderly)
    (notWrapped : n + Effect.startedCount (machine.perform action).effects ≤ Pid.limit) :
    (machine.perform action).IsAct machine.kernel (machine.parked ++ others) others := by
  cases action with
  | boot program args =>
    rw [perform, effects_launch] at notWrapped
    exact isAct_boot consistent program args notWrapped
  | spawn parent program args => exact isAct_spawn consistent parent program args notWrapped
  | call pid number args stores readBack =>
    refine isAct_withProcess consistent fun process found agreed => ?_
    simp only [perform, withProcess, found] at notWrapped
    exact isAct_startCall agreed number args stores readBack notWrapped
  | exit pid status =>
    refine isAct_withProcess consistent fun process found agreed => ?_
    simp only [perform, withProcess, found] at notWrapped
    exact isAct_finish agreed (.terminate process (.exited status) []
      fun _ member => nomatch member) notWrapped
  | abort pid fault =>
    refine isAct_withProcess consistent fun process found agreed => ?_
    simp only [perform, withProcess, found] at notWrapped
    refine isAct_finish agreed (.terminate process .killed [.note (.killed process.pid fault)]
      fun effect member => ?_) notWrapped
    rw [List.mem_singleton.1 member]
    exact ⟨trivial, trivial⟩
  | inspect pid =>
    simp only [perform, withProcess]
    split
    · exact isAct_reply machine others _
    · exact isAct_reply machine others _
  | join caller child => exact isAct_tryJoin machine others caller child
  | halt pid => exact isAct_react _ (.halt pid)
  | pollJoin caller child => exact isAct_react _ (.poll [] caller child)
  | recordTermination => cases orderly
  | lookUp pid => exact isAct_reply machine others _
  | file name => exact isAct_reply machine others _
  | pushInput data => exact isAct_console machine others _ _
  | takeOutput => exact isAct_console machine others _ _
  | print data => exact isAct_console machine others _ _
  | compareConfig config => exact isAct_reply machine others _

/-- So it does when an action is tried again. -/
theorem isAct_retry (machine : Machine σ) {what : Waiting σ}
    (consistent : Consistent machine.kernel n
      (what.caller?.toList ++ (machine.parked ++ others)))
    (notWrapped : n + Effect.startedCount (machine.retry what).effects ≤ Pid.limit) :
    (machine.retry what).IsAct machine.kernel (what.caller?.toList ++ (machine.parked ++ others))
      others := by
  cases what with
  | join caller child => exact isAct_tryJoin machine others caller child
  | call caller join readBack =>
    rw [retry, effects_afterTurn] at notWrapped
    exact isAct_afterTurn consistent (.resume caller join) notWrapped readBack

end Machine

end SyscallKernel
