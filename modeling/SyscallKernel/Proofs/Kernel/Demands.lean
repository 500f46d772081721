import SyscallKernel.Memory.Uniform
import SyscallKernel.Proofs.Kernel.Answers
import SyscallKernel.Proofs.Kernel.Standstill

/-!
# When the machine halts

Whatever is asked of a kernel, by whichever processes and in whichever order, the machine halts
when its root asks for it, or with the last process that runs, and at no other time. Whether a halt
was granted is read off the answer: the root, and nobody else, is told that the machine has halted.
What is in the log of halts and terminations is true.
-/

namespace SyscallKernel.Kernel

variable {σ : Type} {kernel kernel' : Kernel} {log effects : List Effect}

/-! ### Who is granted a halt -/

/-- The root halts the machine. -/
theorem halt_of_isRoot {pid : Pid} (root : kernel.processes.isRoot pid = true) :
    (kernel.halt pid).value = .ok () ∧ (kernel.halt pid).kernel.isHalted = true := by
  rw [halt, if_pos root]
  exact ⟨rfl, rfl⟩

/-- Nobody else does. -/
theorem halt_of_not_isRoot {pid : Pid} (other : kernel.processes.isRoot pid = false) :
    kernel.halt pid = ⟨kernel, [.note (.haltDenied pid)], .error .permissionDenied⟩ := by
  rw [halt, other, if_neg Bool.false_ne_true]

/-- The root, and nobody else, is told that it has halted the machine. -/
theorem halt_eq_ok_iff {pid : Pid} :
    (kernel.halt pid).value = .ok () ↔ kernel.processes.isRoot pid = true := by
  refine ⟨fun granted => ?_, fun root => (halt_of_isRoot root).1⟩
  refine Bool.not_eq_false _ ▸ fun other => ?_
  rw [halt_of_not_isRoot other] at granted
  cases granted

/-- The log tells of a halt exactly if it was granted. -/
theorem mem_haltRequested_halt {caller pid : Pid} :
    .note (.haltRequested pid) ∈ (kernel.halt caller).effects ↔
      caller = pid ∧ (kernel.halt caller).value = .ok () := by
  rw [halt_eq_ok_iff]
  cases root : kernel.processes.isRoot caller with
  | true =>
    have effects : (kernel.halt caller).effects =
        .note (.haltRequested caller) :: kernel.processes.shutdown.2.map .wake := by
      rw [halt, if_pos root]
      rfl
    rw [effects, ProcessTable.mem_haltRequested, Notice.haltRequested.injEq, and_iff_left rfl,
      eq_comm]
  | false =>
    simp only [halt_of_not_isRoot root, List.mem_singleton, Effect.note.injEq, reduceCtorEq,
      Bool.false_eq_true, and_false]

variable [AddressSpace σ] {caller : UserProcess σ}

/-- A live process that calls for the halt of a running machine asks the kernel for it. -/
theorem dispatch_halt (engine : Engine σ) (goesOn : kernel.isHalted = false)
    (live : caller.terminated = false) (args : Registers) :
    kernel.dispatch engine caller Syscall.halt.number args =
      (Service.halt kernel caller).after [.note (.called caller.pid Syscall.halt.number args)] := by
  have formed : Request.ofCall kernel.config caller args .halt = .ok .halt := rfl
  exact dispatch_of_request engine goesOn live formed

/-- By a call the root, and nobody else, is told that the machine has halted. -/
theorem dispatch_halt_eq_halted_iff (engine : Engine σ) (goesOn : kernel.isHalted = false)
    (live : caller.terminated = false) (args : Registers) :
    (kernel.dispatch engine caller Syscall.halt.number args).value = .finished .halted ↔
      kernel.processes.isRoot caller.pid = true := by
  rw [dispatch_halt engine goesOn live, ← halt_eq_ok_iff]
  change (Service.halt kernel caller).value = .finished .halted ↔ _
  unfold Service.halt
  cases answer : (kernel.halt caller.pid).value with
  | ok _ => simp only [answer]
  | error error => simp only [answer, Progress.finished.injEq, reduceCtorEq]

/-! ### What the log tells of halts -/

/-- The log tells of no halt. -/
def Unasked (effects : List Effect) : Prop := ∀ pid, .note (.haltRequested pid) ∉ effects

section

omit [AddressSpace σ]

theorem unasked_told : Unasked (Effect.told effects) ↔ Unasked effects :=
  forall_congr' fun _ => not_congr (Effect.mem_told rfl)

/-- Where nothing is told there is no word of a halt. -/
theorem unasked_of_silent (silent : Effect.told effects = []) : Unasked effects :=
  unasked_told.1 (silent ▸ fun _ member => nomatch member)

theorem Unasked.append {later : List Effect} (first : Unasked effects) (second : Unasked later) :
    Unasked (effects ++ later) :=
  fun pid member => (List.mem_append.1 member).elim (first pid) (second pid)

theorem unasked_terminate (kernel : Kernel) (process : UserProcess σ) (how : Termination) :
    Unasked (kernel.terminate process how).effects := by
  rcases kernel.terminate_cases process how with ⟨-, silent⟩ | ⟨_, _, -, -, told⟩
  · exact unasked_of_silent silent
  · refine unasked_told.1 fun pid member => ?_
    rw [told, ProcessTable.mem_obituary] at member
    cases member

theorem unasked_abort (kernel : Kernel) (process : UserProcess σ) (fault : Fault) :
    Unasked (kernel.abort process fault).effects :=
  (unasked_of_silent rfl : Unasked [.note (.killed process.pid fault)]).append
    (kernel.unasked_terminate process .killed)

theorem unasked_spawn (engine : Engine σ) (kernel : Kernel) (parent : Option Pid)
    (image : ProgramImage) : Unasked (kernel.spawn engine parent image).effects := by
  have begun : ∀ (kernel : Kernel) (process : UserProcess σ) start,
      Unasked (kernel.begin process start).effects := by
    intro kernel process start
    cases start with
    | park => exact fun _ member => nomatch member
    | exit status => exact kernel.unasked_terminate process _
    | abort fault => exact kernel.unasked_abort process fault
  unfold spawn
  split
  · exact unasked_of_silent rfl
  · cases engine.load image with
    | error error => exact unasked_of_silent rfl
    | ok memory =>
      cases result : kernel.processes.register parent with
      | error error =>
        simp only [registerProcess, result]
        exact unasked_of_silent rfl
      | ok registered =>
        obtain ⟨table, pid⟩ := registered
        simp only [registerProcess, result]
        refine Unasked.append (fun other member => ?_) (begun _ _ _)
        have announced := (Effect.mem_told rfl).2 member
        rw [show Effect.told _ = ProcessTable.announcement pid parent image from rfl,
          ProcessTable.mem_announcement] at announced
        cases announced

theorem unasked_boot (engine : Engine σ) (kernel : Kernel) (program : Bytes) (args : List Bytes) :
    Unasked (kernel.boot engine program args).effects := by
  unfold boot
  split
  · exact unasked_of_silent rfl
  · rename_i name _
    exact (unasked_of_silent rfl : Unasked [.note (.booting name)]).append
      (unasked_spawn engine kernel none _)

theorem unasked_pollJoin (kernel : Kernel) (caller child : Pid) :
    Unasked (kernel.pollJoin caller child).effects := by
  intro pid member
  unfold pollJoin at member
  split at member
  · cases member
  · cases member
  · cases List.mem_singleton.1 member

theorem unasked_conclude {step : Step σ Outcome} (unasked : Unasked step.effects) (number : Nat) :
    Unasked (step.conclude number).effects := by
  unfold Step.conclude
  split
  · exact unasked
  · exact unasked
  · split
    · exact unasked
    · exact unasked.append (unasked_of_silent rfl)

end

theorem unasked_join (kernel : Kernel) (caller : UserProcess σ) (pending : PendingJoin) :
    Unasked (Service.join kernel caller pending).effects := by
  have polled := kernel.unasked_pollJoin caller.pid pending.child
  unfold Service.join
  simp only
  split
  · exact polled
  · exact polled
  · unfold Service.deliver
    split
    · exact polled
    · exact polled
    · split
      · exact polled
      · exact polled

/-- No request but one for a halt is told to be one. -/
theorem unasked_perform (engine : Engine σ) (kernel : Kernel) (caller : UserProcess σ)
    (number : Nat) {request : Request} (other : request ≠ .halt) :
    Unasked (request.perform engine kernel caller number).effects := by
  cases request with
  | halt => exact absurd rfl other
  | exit status => exact kernel.unasked_terminate caller _
  | exec image =>
    have spawned := unasked_spawn engine kernel (some caller.pid) image
    refine unasked_conclude ?_ number
    unfold Service.exec
    simp only
    split
    · exact spawned
    · exact spawned
  | join child status => exact unasked_conclude (unasked_join kernel caller ⟨child, status⟩) number
  | create name =>
    exact unasked_conclude (unasked_of_silent (Service.told_create kernel caller name)) number
  | openFile name =>
    exact unasked_conclude (unasked_of_silent (Service.told_openFile kernel caller name)) number
  | read fd file buffer count => exact unasked_conclude (unasked_of_silent rfl) number
  | write fd file buffer count => exact unasked_conclude (unasked_of_silent rfl) number
  | close fd =>
    exact unasked_conclude (unasked_of_silent (Service.told_close kernel caller fd)) number
  | unlink name =>
    exact unasked_conclude (unasked_of_silent (Service.told_unlink kernel caller name)) number

/-- Nor is any other call told to be one for a halt. -/
theorem unasked_dispatch (engine : Engine σ) (kernel : Kernel) (caller : UserProcess σ)
    {number : Nat} (other : number ≠ Syscall.halt.number) (args : Registers) :
    Unasked (kernel.dispatch engine caller number args).effects := by
  have refused : ∀ error,
      Unasked ((Step.still kernel caller (Outcome.failed error)).conclude number).effects :=
    fun error => unasked_conclude (unasked_of_silent rfl) number
  unfold dispatch
  split
  · exact unasked_of_silent rfl
  · split
    · exact unasked_of_silent rfl
    · refine (unasked_of_silent rfl : Unasked [_]).append ?_
      unfold call
      split
      · exact (unasked_of_silent rfl : Unasked [_]).append (refused _)
      · rename_i call known
        split
        · exact refused _
        · rename_i request formed
          refine unasked_perform engine kernel caller number ?_
          rintro rfl
          cases Request.checked_ofCall formed
          exact other (Syscall.ofNumber?_eq_some_iff.1 known).symm

/-! ### Runs of a kernel -/

/-- What can be asked of a kernel. The processes may be any, whether the kernel knows them or not,
and each time the engine may be another. -/
inductive Demand (σ : Type) where
  /-- The root process is started. -/
  | boot (engine : Engine σ) (program : Bytes) (args : List Bytes)
  /-- A program is started. -/
  | spawn (engine : Engine σ) (parent : Option Pid) (image : ProgramImage)
  /-- A process makes a call. -/
  | call (engine : Engine σ) (caller : UserProcess σ) (number : Nat) (args : Registers)
  /-- A call that waits for a child asks for it again. -/
  | resume (caller : UserProcess σ) (pending : PendingJoin)
  /-- A child is asked for directly. -/
  | join (caller child : Pid)
  /-- A process exits. -/
  | exit (process : UserProcess σ) (status : Register)
  /-- A process is killed for a fault. -/
  | abort (process : UserProcess σ) (fault : Fault)
  /-- The machine is to halt in the name of a process. -/
  | halt (caller : Pid)
  /-- The console is used from outside. -/
  | console (console : ConsoleDevice)

/-- What a kernel does about a demand, but for the answer. -/
def meet (kernel : Kernel) : Demand σ → Reaction Unit
  | .boot engine program args => { kernel.boot engine program args with value := () }
  | .spawn engine parent image => { kernel.spawn engine parent image with value := () }
  | .call engine caller number args =>
    let turn := kernel.dispatch engine caller number args
    ⟨turn.kernel, turn.effects, ()⟩
  | .resume caller pending =>
    let turn := kernel.resume caller pending
    ⟨turn.kernel, turn.effects, ()⟩
  | .join caller child => { kernel.pollJoin caller child with value := () }
  | .exit process status => { kernel.exit process status with value := () }
  | .abort process fault => { kernel.abort process fault with value := () }
  | .halt caller => { kernel.halt caller with value := () }
  | .console console => { kernel with console }.answer ()

/-- The runs of a kernel, with their logs. -/
inductive Run (σ : Type) [AddressSpace σ] (config : Config) (console : ConsoleDevice) :
    List Effect → Kernel → Prop where
  /-- Nothing was asked yet. -/
  | start : Run σ config console [] (.new config console)
  /-- Something more is asked. -/
  | step {log : List Effect} {kernel : Kernel} (earlier : Run σ config console log kernel)
    (demand : Demand σ) :
    Run σ config console (log ++ (kernel.meet demand).effects) (kernel.meet demand).kernel

/-- A process asks for a halt, directly or by a call on a running machine, and is told that the
machine has halted. -/
def GrantsHalt (kernel : Kernel) (pid : Pid) : Demand σ → Prop
  | .halt caller => caller = pid ∧ (kernel.halt caller).value = .ok ()
  | .call engine caller number args =>
    caller.pid = pid ∧ number = Syscall.halt.number ∧ kernel.isHalted = false ∧
      (kernel.dispatch engine caller number args).value = .finished .halted
  | _ => False

/-- The root halts the machine by a demand. -/
def RootHaltsIn (kernel : Kernel) (demand : Demand σ) : Prop :=
  ∃ pid, kernel.processes.isRoot pid = true ∧ kernel.GrantsHalt pid demand

/-- A process terminates by a demand: it ran before, or was registered, and does not run any
more. -/
def EndsIn (kernel : Kernel) (demand : Demand σ) (pid : Pid) : Prop :=
  (kernel.processes.state? pid = some .running ∨
    ∃ parent, .note (.registered pid parent) ∈ (kernel.meet demand).effects) ∧
  (kernel.meet demand).kernel.processes.state? pid ≠ some .running

/-- The last process that runs terminates by a demand. -/
def LastEndsIn (kernel : Kernel) (demand : Demand σ) : Prop :=
  (∃ pid, kernel.EndsIn demand pid) ∧
    ∀ pid, (kernel.meet demand).kernel.processes.state? pid ≠ some .running

/-- The machine halts when it must, and only then. -/
structure HaltsDuly (σ : Type) [AddressSpace σ] (kernel : Kernel) (log : List Effect) : Prop where
  /-- Once a process was registered, some process runs for as long as the machine has not
  halted. -/
  busy : (∃ pid parent, .note (.registered pid parent) ∈ log) → kernel.isHalted = false →
    ∃ pid, kernel.processes.state? pid = some .running
  /-- The machine halts when the root halts it or the last process that runs terminates, and by
  nothing else. -/
  halts : ∀ demand : Demand σ, (kernel.meet demand).kernel.isHalted = true ↔
    kernel.isHalted = true ∨ kernel.RootHaltsIn demand ∨ kernel.LastEndsIn demand
  /-- The root, and nobody else, is granted a halt. -/
  granted : ∀ pid, (kernel.halt pid).value = .ok () ↔ kernel.processes.isRoot pid = true
  /-- So it is by a call of a live process on a running machine. -/
  called : ∀ (engine : Engine σ) (caller : UserProcess σ) (args : Registers),
    kernel.isHalted = false → caller.terminated = false →
      ((kernel.dispatch engine caller Syscall.halt.number args).value = .finished .halted ↔
        kernel.processes.isRoot caller.pid = true)
  /-- The log shows exactly the halts that are granted. -/
  requested : ∀ (demand : Demand σ) (pid : Pid),
    .note (.haltRequested pid) ∈ (kernel.meet demand).effects ↔ kernel.GrantsHalt pid demand
  /-- The log shows exactly the terminations that take place. -/
  terminated : ∀ (demand : Demand σ) (pid : Pid),
    (∃ how, .note (.terminated pid how) ∈ (kernel.meet demand).effects) ↔
      kernel.EndsIn demand pid
  /-- The last termination leaves no record of any process. -/
  emptied : ∀ demand : Demand σ, kernel.LastEndsIn demand →
    (kernel.meet demand).kernel.processes.size = 0

variable {demand : Demand σ}

/-- Whatever is asked of a kernel, it does one deed to its processes. -/
theorem does_meet (kernel : Kernel) (demand : Demand σ) :
    kernel.Does (kernel.meet demand).effects (kernel.meet demand).kernel := by
  cases demand with
  | boot engine program args => exact does_boot engine kernel program args
  | spawn engine parent image => exact does_spawn engine kernel parent image
  | call engine caller number args => exact does_dispatch engine kernel caller number args
  | resume caller pending => exact does_resume kernel caller pending
  | join caller child => exact does_pollJoin kernel caller child
  | exit process status => exact does_exit kernel process status
  | abort process fault => exact does_abort kernel process fault
  | halt caller => exact does_halt kernel caller
  | console console => exact does_of_same rfl rfl

/-- The log tells of a halt by a call exactly if it was granted. -/
theorem mem_haltRequested_dispatch {engine : Engine σ} {number : Nat} {args : Registers}
    {pid : Pid} : .note (.haltRequested pid) ∈ (kernel.dispatch engine caller number args).effects ↔
      caller.pid = pid ∧ number = Syscall.halt.number ∧ kernel.isHalted = false ∧
        (kernel.dispatch engine caller number args).value = .finished .halted := by
  by_cases asks : number = Syscall.halt.number
  · subst asks
    cases halted : kernel.isHalted with
    | true =>
      simp only [dispatch_of_isHalted halted, Step.still, List.not_mem_nil, Bool.true_eq_false,
        false_and, and_false]
    | false =>
      cases torn : caller.terminated with
      | true =>
        simp only [dispatch_of_terminated engine halted torn, Step.after, Step.still,
          List.append_nil, List.mem_singleton, Effect.note.injEq, reduceCtorEq,
          Progress.finished.injEq, and_false]
      | false =>
        rw [dispatch_halt_eq_halted_iff engine halted torn, dispatch_halt engine halted torn,
          ← halt_eq_ok_iff]
        have told := @mem_haltRequested_halt kernel caller.pid pid
        have same : (Service.halt kernel caller).effects = (kernel.halt caller.pid).effects := by
          unfold Service.halt
          simp only
          split <;> rfl
        simp only [Step.after, same, List.cons_append, List.nil_append, List.mem_cons,
          Effect.note.injEq, reduceCtorEq, false_or, told, true_and]
  · exact iff_of_false (unasked_dispatch engine kernel caller asks args pid)
      fun granted => asks granted.2.1

/-- The log tells of a halt exactly if it was granted. -/
theorem mem_haltRequested_meet {pid : Pid} :
    .note (.haltRequested pid) ∈ (kernel.meet demand).effects ↔ kernel.GrantsHalt pid demand := by
  cases demand with
  | boot engine program args =>
    exact iff_of_false (unasked_boot engine kernel program args pid) id
  | spawn engine parent image =>
    exact iff_of_false (unasked_spawn engine kernel parent image pid) id
  | call engine caller number args => exact mem_haltRequested_dispatch
  | resume caller pending =>
    exact iff_of_false (unasked_conclude (unasked_join kernel caller pending) _ pid) id
  | join caller child => exact iff_of_false (unasked_pollJoin kernel caller child pid) id
  | exit process status => exact iff_of_false (unasked_terminate kernel process _ pid) id
  | abort process fault => exact iff_of_false (unasked_abort kernel process fault pid) id
  | halt caller => exact mem_haltRequested_halt
  | console console => exact iff_of_false List.not_mem_nil id

theorem endsIn_iff {pid : Pid} :
    kernel.EndsIn demand pid ↔
      (kernel.meet demand).kernel.processes.isRunning pid = false ∧
        (kernel.processes.isRunning pid = true ∨
          ∃ parent, .note (.registered pid parent) ∈ (kernel.meet demand).effects) := by
  unfold EndsIn
  rw [ne_eq, ProcessTable.state?_eq_running_iff, ProcessTable.state?_eq_running_iff,
    Bool.not_eq_true, and_comm]

theorem lastEndsIn_iff :
    kernel.LastEndsIn demand ↔
      (∃ pid, kernel.EndsIn demand pid) ∧ (kernel.meet demand).kernel.processes.IsIdle := by
  unfold LastEndsIn ProcessTable.IsIdle
  simp only [ne_eq, ProcessTable.state?_eq_running_iff, Bool.not_eq_true]

/-- Every table that a kernel comes to is well formed. -/
theorem Run.wellFormed {config : Config} {console : ConsoleDevice}
    (run : Run σ config console log kernel) : kernel.processes.WellFormed := by
  induction run with
  | start => exact ProcessTable.wellFormed_empty _
  | @step log kernel earlier demand ih => exact ((kernel.does_meet demand).meaning ih).wellFormed

/-- The machine halts if the root halts it or the last process that runs terminates, and for no
other reason. -/
theorem isHalted_meet_iff (wellFormed : kernel.processes.WellFormed) (demand : Demand σ) :
    (kernel.meet demand).kernel.isHalted = true ↔
      kernel.isHalted = true ∨ kernel.RootHaltsIn demand ∨ kernel.LastEndsIn demand := by
  have meaning := (kernel.does_meet demand).meaning wellFormed
  have requested : (∃ pid, .note (.haltRequested pid) ∈ (kernel.meet demand).effects) ↔
      kernel.RootHaltsIn demand := by
    refine exists_congr fun pid => ?_
    rw [← mem_haltRequested_meet]
    exact ⟨fun told => ⟨meaning.requested pid told, told⟩, And.right⟩
  rw [isHalted, meaning.isShutdown, requested, lastEndsIn_iff]
  simp only [meaning.terminated, endsIn_iff]
  exact Iff.rfl

/-- Once a process was registered somebody runs until the machine halts. -/
theorem Run.busy {config : Config} {console : ConsoleDevice}
    (run : Run σ config console log kernel)
    (registered : ∃ pid parent, .note (.registered pid parent) ∈ log)
    (goesOn : kernel.isHalted = false) : ¬ kernel.processes.IsIdle := by
  induction run with
  | start =>
    obtain ⟨_, _, member⟩ := registered
    cases member
  | @step log kernel earlier demand ih =>
    intro idle
    have halts := (isHalted_meet_iff earlier.wellFormed demand).not.1 (Bool.eq_false_iff.1 goesOn)
    simp only [not_or, Bool.not_eq_true, lastEndsIn_iff, not_and, endsIn_iff] at halts
    obtain ⟨wentOn, _, last⟩ := halts
    -- Whoever ran, or is new, would be the last to terminate here.
    have nobody : ∀ pid, ¬ (kernel.processes.isRunning pid = true ∨
        ∃ parent, .note (.registered pid parent) ∈ (kernel.meet demand).effects) :=
      fun pid either => last ⟨pid, idle pid, either⟩ idle
    obtain ⟨pid, parent, member⟩ := registered
    rcases List.mem_append.1 member with old | new
    · refine ih ⟨pid, parent, old⟩ wentOn fun other => ?_
      exact Bool.eq_false_iff.2 fun running => nobody other (.inl running)
    · exact nobody pid (.inr ⟨parent, new⟩)

/-- In every run the machine halts when it must, and only then. -/
theorem Run.haltsDuly {config : Config} {console : ConsoleDevice}
    (run : Run σ config console log kernel) : kernel.HaltsDuly σ log := by
  have wellFormed := run.wellFormed
  constructor
  case busy =>
    intro registered goesOn
    have busy := run.busy registered goesOn
    simp only [ProcessTable.IsIdle, not_forall, Bool.not_eq_false] at busy
    simp only [ProcessTable.state?_eq_running_iff]
    exact busy
  case halts => exact isHalted_meet_iff wellFormed
  case granted => exact fun _ => halt_eq_ok_iff
  case called =>
    exact fun engine _ args goesOn live => dispatch_halt_eq_halted_iff engine goesOn live args
  case requested => exact fun _ _ => mem_haltRequested_meet
  case terminated =>
    intro demand pid
    rw [endsIn_iff]
    exact ((kernel.does_meet demand).meaning wellFormed).terminated pid
  case emptied =>
    intro demand last
    have meaning := (kernel.does_meet demand).meaning wellFormed
    rw [ProcessTable.size,
      ProcessTable.records_eq_nil_of_idle meaning.wellFormed (lastEndsIn_iff.1 last).2]
    rfl

/-- An engine whose programs exit at once if they have arguments. -/
def fleeting : Engine UniformMemory :=
  ⟨fun _ => .ok ⟨0⟩, fun image => if image.args = [] then .park else .exit 0⟩

/-- The root starts a child. The child is refused a halt, and the root is granted one, by a call or
not. If instead the root exits and leaves the child to itself, a program that the orphan starts
ends at once, and the orphan is the last to end. -/
theorem haltsDuly_with_orphan :
    (∃ log, ∃ kernel : Kernel, Run UniformMemory {} .unlimited log kernel ∧
      kernel.HaltsDuly UniformMemory log ∧ kernel.isHalted = false ∧
      (kernel.halt ⟨2⟩).value = .error .permissionDenied ∧
      (kernel.meet (.halt ⟨2⟩ : Demand UniformMemory)).kernel.isHalted = false ∧
      (kernel.halt ⟨1⟩).value = .ok () ∧
      (kernel.meet (.halt ⟨1⟩ : Demand UniformMemory)).kernel.isHalted = true ∧
      (kernel.dispatch fleeting (.fresh ⟨1⟩ ⟨0⟩) Syscall.halt.number ⟨0, 0, 0, 0⟩).value =
        .finished .halted) ∧
      ∃ log, ∃ kernel : Kernel, Run UniformMemory {} .unlimited log kernel ∧
        kernel.HaltsDuly UniformMemory log ∧ kernel.isHalted = false ∧
        kernel.processes.root = none ∧ kernel.processes.state? ⟨2⟩ = some .running ∧
        ∃ demand : Demand UniformMemory,
          .note (.terminated ⟨2⟩ (.exited 0)) ∈ (kernel.meet demand).effects ∧
          (kernel.meet demand).kernel.isHalted = true ∧
          (kernel.meet demand).kernel.processes.size = 0 := by
  have switchedOn : Run UniformMemory {} .unlimited [] _ := .start
  have rooted := switchedOn.step (.boot fleeting [102] [])
  have adopted := rooted.step (.spawn fleeting (some ⟨1⟩) ⟨⟨[102], by decide +kernel⟩, []⟩)
  have duly := adopted.haltsDuly
  constructor
  · refine ⟨_, _, adopted, duly, by decide +kernel, by decide +kernel, by decide +kernel,
      (duly.granted ⟨1⟩).2 (by decide +kernel), by decide +kernel, ?_⟩
    exact (duly.called _ (.fresh ⟨1⟩ ⟨0⟩) _ (by decide +kernel) rfl).2 (by decide +kernel)
  · have orphaned := adopted.step (.exit (.fresh ⟨1⟩ ⟨0⟩) 0)
    have flashed := orphaned.step (.spawn fleeting (some ⟨2⟩) ⟨⟨[102], by decide +kernel⟩, [[]]⟩)
    exact ⟨_, _, flashed, flashed.haltsDuly, by decide +kernel, by decide +kernel,
      by decide +kernel, .exit (.fresh ⟨2⟩ ⟨0⟩) 0, by decide +kernel, by decide +kernel,
      by decide +kernel⟩

end SyscallKernel.Kernel
