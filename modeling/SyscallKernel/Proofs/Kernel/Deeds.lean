import SyscallKernel.Proofs.Kernel.Turns

/-!
# What one turn of the kernel can do to its processes

Among the effects of the kernel some tell of the process table: who was registered and
started, who terminated, was reaped or woken, and at whose request the machine halts.
Whatever is asked of the kernel once, the table goes through one of the deeds listed
here, and exactly these effects tell of it.
-/

namespace SyscallKernel

variable {σ : Type}

namespace Effect

/-- Whether an effect tells of the process table. -/
def isTold : Effect → Bool
  | .note (.registered ..) => true
  | .note (.terminated ..) => true
  | .note (.reaped ..) => true
  | .note (.haltRequested _) => true
  | .note _ => false
  | .wake _ => true
  | .started .. => true

/-- The effects that tell of the process table. -/
def told (effects : List Effect) : List Effect := effects.filter isTold

theorem told_append (first second : List Effect) :
    told (first ++ second) = told first ++ told second := List.filter_append ..

/-- The wake-ups are among the effects that tell of the process table. -/
theorem wakes_told (effects : List Effect) :
    (told effects).filterMap wake? = effects.filterMap wake? := by
  rw [told, List.filterMap_filter]
  congr 1
  funext effect
  cases effect with
  | note notice => exact ite_self none
  | wake => rfl
  | started => rfl

/-- The programs that were started, with the processes that run them. -/
def starts (effects : List Effect) : List (Pid × ProgramImage) := effects.filterMap started?

theorem starts_append (first second : List Effect) :
    starts (first ++ second) = starts first ++ starts second := List.filterMap_append

/-- The starts are among the effects that tell of the process table. -/
theorem starts_told (effects : List Effect) : starts (told effects) = starts effects := by
  rw [starts, told, List.filterMap_filter, starts]
  congr 1
  funext effect
  cases effect with
  | note notice => exact ite_self none
  | wake => rfl
  | started => rfl

theorem startedCount_told (effects : List Effect) :
    startedCount (told effects) = startedCount effects :=
  congrArg List.length (starts_told effects)

/-- A record and wake-ups start nothing. -/
theorem starts_note_wakes (notice : Notice) (wakes : List Pid) :
    starts (.note notice :: wakes.map .wake) = [] := by
  rw [starts, List.filterMap_eq_nil_iff]
  intro effect member
  rcases List.mem_cons.1 member with rfl | woken
  · rfl
  · obtain ⟨_, _, rfl⟩ := List.mem_map.1 woken
    rfl

/-- Wake-ups tell of the process table. -/
theorem told_map_wake (pids : List Pid) : told (pids.map wake) = pids.map wake := by
  rw [told, List.filter_eq_self]
  intro effect member
  obtain ⟨pid, _, rfl⟩ := List.mem_map.1 member
  rfl

end Effect

namespace ProcessTable

/-- The table after a process has terminated, and who is woken besides its waiter: the
machine halts if that process was the last. -/
def settled (table : ProcessTable) (news : TerminationNews) : ProcessTable × List Pid :=
  if news.last && !table.isShutdown then table.shutdown else (table, [])

/-- What a termination tells. -/
def obituary (pid : Pid) (how : Termination) (wakes : List Pid) : List Effect :=
  .note (.terminated pid how) :: wakes.map .wake

/-- What the start of a program tells. -/
def announcement (pid : Pid) (parent : Option Pid) (image : ProgramImage) : List Effect :=
  [.note (.registered pid parent), .started pid image]

/-- What the kernel can do to the process table in one go, and what it tells of it. -/
inductive Deed (table : ProcessTable) : List Effect → ProcessTable → Prop where
  /-- Nothing. -/
  | idle : Deed table [] table
  /-- A parent is told to wait for its child. -/
  | awaited {caller child : Pid} {table' : ProcessTable}
    (result : table.pollJoin caller child = .ok (table', .pending)) : Deed table [] table'
  /-- A parent reaps its child. -/
  | reaped {caller child : Pid} {how : Termination} {table' : ProcessTable}
    (result : table.pollJoin caller child = .ok (table', .ready how)) :
    Deed table [.note (.reaped caller child)] table'
  /-- A program is started. -/
  | enrolled {parent : Option Pid} {pid : Pid} {table' : ProcessTable} (image : ProgramImage)
    (result : table.register parent = .ok (table', pid)) :
    Deed table (announcement pid parent image) table'
  /-- A process terminates. -/
  | ended {pid : Pid} {how : Termination} {table' : ProcessTable} {news : TerminationNews}
    (result : table.terminate pid how = some (table', news)) :
    Deed table (obituary pid how (news.waiter.toList ++ (table'.settled news).2))
      (table'.settled news).1
  /-- A program is started and terminates before it does anything else. -/
  | flashed {parent : Option Pid} {pid : Pid} {how : Termination} {between table' : ProcessTable}
    {news : TerminationNews} (image : ProgramImage)
    (started : table.register parent = .ok (between, pid))
    (result : between.terminate pid how = some (table', news)) :
    Deed table
      (announcement pid parent image ++
        obituary pid how (news.waiter.toList ++ (table'.settled news).2))
      (table'.settled news).1
  /-- The machine halts at the request of the root. -/
  | halted {pid : Pid} (root : table.isRoot pid = true) :
    Deed table (.note (.haltRequested pid) :: table.shutdown.2.map .wake) table.shutdown.1

/-- Settling a termination registers nobody. -/
theorem dealings_settled (table : ProcessTable) (news : TerminationNews) :
    ∃ history, table.Dealings history (table.settled news).1 ∧ history.registrations = [] := by
  unfold settled
  split
  · exact ⟨_, .of_shutdown table, rfl⟩
  · exact ⟨[], .none, rfl⟩

/-- A deed consists of calls on the table, and registers whom it tells to be started. -/
theorem Deed.dealings {table table' : ProcessTable} {effects : List Effect}
    (deed : table.Deed effects table') :
    ∃ history, table.Dealings history table' ∧
      history.registrations.length = Effect.startedCount effects := by
  have silent : ∀ notice (wakes : List Pid),
      Effect.startedCount (.note notice :: wakes.map .wake) = 0 :=
    fun notice wakes => congrArg List.length (Effect.starts_note_wakes notice wakes)
  have ended : ∀ {table table' : ProcessTable} {pid how news},
      table.terminate pid how = some (table', news) →
      ∃ history, table.Dealings history (table'.settled news).1 ∧ history.registrations = [] := by
    intro table table' pid how news result
    obtain ⟨later, settled, nobody⟩ := dealings_settled table' news
    refine ⟨_, (Dealings.of_terminate result).trans settled, ?_⟩
    rw [TableHistory.registrations, List.filterMap_append]
    exact (List.append_nil _).trans nobody
  cases deed with
  | idle => exact ⟨[], .none, rfl⟩
  | awaited result => exact ⟨_, .of_pollJoin result, rfl⟩
  | reaped result => exact ⟨_, .of_pollJoin result, rfl⟩
  | enrolled image result => exact ⟨_, .of_register result, rfl⟩
  | ended result =>
    obtain ⟨history, dealings, nobody⟩ := ended result
    exact ⟨history, dealings, by rw [nobody, obituary, silent, List.length_nil]⟩
  | flashed image started result =>
    obtain ⟨history, dealings, nobody⟩ := ended result
    refine ⟨_, (Dealings.of_register started).trans dealings, ?_⟩
    rw [Effect.startedCount_append, obituary, silent, TableHistory.registrations,
      List.filterMap_append]
    rw [TableHistory.registrations] at nobody
    rw [nobody]
    rfl
  | halted root => exact ⟨_, .of_shutdown table, (silent _ table.shutdown.2).symm⟩

end ProcessTable

/-- The kernel does one deed to its processes, and its effects tell of it. -/
def Kernel.Does (kernel : Kernel) (effects : List Effect) (kernel' : Kernel) : Prop :=
  kernel.processes.Deed (Effect.told effects) kernel'.processes

namespace Kernel

variable {kernel kernel' : Kernel} {effects : List Effect}

/-- A part of the kernel that leaves its processes alone. -/
theorem does_of_same (same : kernel'.processes = kernel.processes)
    (silent : Effect.told effects = []) : kernel.Does effects kernel' := by
  rw [Does, silent, same]
  exact .idle

/-- Effects that tell nothing may come first. -/
theorem Does.silent_before (does : kernel.Does effects kernel') (records : List Effect)
    (silent : Effect.told records = []) : kernel.Does (records ++ effects) kernel' := by
  rw [Does, Effect.told_append, silent]
  exact does

/-- Effects that tell nothing may come last. -/
theorem Does.silent_after (does : kernel.Does effects kernel') (records : List Effect)
    (silent : Effect.told records = []) : kernel.Does (effects ++ records) kernel' := by
  rw [Does, Effect.told_append, silent, List.append_nil]
  exact does

/-! ### The operations of the kernel -/

theorem told_createFile (kernel : Kernel) (name : FileName) (owner : Pid) :
    Effect.told (kernel.createFile name owner).effects = [] := by
  unfold createFile
  simp only
  cases (kernel.files.create name owner).2 <;> rfl

theorem told_openFile (kernel : Kernel) (name : FileName) (owner : Pid) :
    Effect.told (kernel.openFile name owner).effects = [] := by
  unfold openFile
  split <;> rfl

theorem told_unlinkFile (kernel : Kernel) (name : FileName) :
    Effect.told (kernel.unlinkFile name).effects = [] := by
  unfold unlinkFile
  split
  · rfl
  · rename_i unlinking _
    cases unlinking <;> rfl

theorem told_releaseHandles (kernel : Kernel) (handles : List FileHandle) :
    Effect.told (kernel.releaseHandles handles).effects = [] := by
  rw [Effect.told, List.filter_eq_nil_iff]
  intro effect member
  obtain ⟨notice, reported, rfl⟩ := List.mem_map.1 member
  obtain ⟨release, _, report⟩ := List.mem_filterMap.1 reported
  cases release with
  | kept => cases report
  | stale | unheld | freed =>
    cases report
    exact Bool.false_ne_true

theorem does_pollJoin (kernel : Kernel) (caller child : Pid) :
    kernel.Does (kernel.pollJoin caller child).effects (kernel.pollJoin caller child).kernel := by
  unfold pollJoin
  split
  · exact does_of_same rfl rfl
  · rename_i result
    exact .awaited result
  · rename_i result
    exact .reaped result

theorem does_halt (kernel : Kernel) (caller : Pid) :
    kernel.Does (kernel.halt caller).effects (kernel.halt caller).kernel := by
  unfold halt
  split
  · rename_i root
    have halted := ProcessTable.Deed.halted root
    rw [← Effect.told_map_wake] at halted
    exact halted
  · exact does_of_same rfl rfl

/-- The machine halts if nobody runs any more. -/
theorem processes_haltIfLast (kernel : Kernel) (news : TerminationNews) :
    (kernel.haltIfLast news).kernel.processes = (kernel.processes.settled news).1 ∧
      Effect.told (kernel.haltIfLast news).effects =
        (kernel.processes.settled news).2.map .wake := by
  unfold haltIfLast ProcessTable.settled isHalted
  split
  · exact ⟨rfl, Effect.told_map_wake kernel.processes.shutdown.2⟩
  · exact ⟨rfl, rfl⟩

/-- A process that was not torn down terminates if it runs; for any other nothing is told. -/
theorem terminate_cases (kernel : Kernel) (process : UserProcess σ) (how : Termination) :
    ((kernel.terminate process how).kernel.processes = kernel.processes ∧
        Effect.told (kernel.terminate process how).effects = []) ∨
      ∃ table news, kernel.processes.terminate process.pid how = some (table, news) ∧
        (kernel.terminate process how).kernel.processes = (table.settled news).1 ∧
        Effect.told (kernel.terminate process how).effects =
          ProcessTable.obituary process.pid how (news.waiter.toList ++ (table.settled news).2) := by
  have silent := kernel.told_releaseHandles process.files.handles
  have sameTable : (kernel.releaseHandles process.files.handles).kernel.processes =
      kernel.processes := rfl
  unfold terminate
  split
  · exact .inl ⟨rfl, rfl⟩
  · simp only [recordTermination, sameTable]
    cases result : kernel.processes.terminate process.pid how with
    | none =>
      refine .inl ⟨rfl, ?_⟩
      simp only [answer, List.append_nil, silent]
    | some ended =>
      obtain ⟨table, news⟩ := ended
      obtain ⟨processes, told⟩ := processes_haltIfLast
        { (kernel.releaseHandles process.files.handles).kernel with processes := table } news
      refine .inr ⟨table, news, rfl, processes, ?_⟩
      simp only [Effect.told_append, silent, told, Effect.told_map_wake, List.nil_append,
        ProcessTable.obituary, List.map_append]
      rfl

theorem does_terminate (kernel : Kernel) (process : UserProcess σ) (how : Termination) :
    kernel.Does (kernel.terminate process how).effects (kernel.terminate process how).kernel := by
  rcases kernel.terminate_cases process how with ⟨same, silent⟩ | ⟨table, news, result, same, told⟩
  · exact does_of_same same silent
  · rw [Does, same, told]
    exact .ended result

theorem does_exit (kernel : Kernel) (process : UserProcess σ) (status : Register) :
    kernel.Does (kernel.exit process status).effects (kernel.exit process status).kernel :=
  kernel.does_terminate process (.exited status)

theorem does_abort (kernel : Kernel) (process : UserProcess σ) (fault : Fault) :
    kernel.Does (kernel.abort process fault).effects (kernel.abort process fault).kernel :=
  (kernel.does_terminate process .killed).silent_before [_] rfl

/-- What a new process does first can only end it. -/
theorem begin_cases (kernel : Kernel) (process : UserProcess σ) (start : Start) :
    ((kernel.begin process start).kernel.processes = kernel.processes ∧
        Effect.told (kernel.begin process start).effects = []) ∨
      ∃ how table news, kernel.processes.terminate process.pid how = some (table, news) ∧
        (kernel.begin process start).kernel.processes = (table.settled news).1 ∧
        Effect.told (kernel.begin process start).effects =
          ProcessTable.obituary process.pid how (news.waiter.toList ++ (table.settled news).2) := by
  cases start with
  | park => exact .inl ⟨rfl, rfl⟩
  | exit status => exact (kernel.terminate_cases process (.exited status)).imp_right (.intro _)
  | abort fault => exact (kernel.terminate_cases process .killed).imp_right (.intro _)

theorem does_spawn (engine : Engine σ) (kernel : Kernel) (parent : Option Pid)
    (image : ProgramImage) :
    kernel.Does (kernel.spawn engine parent image).effects
      (kernel.spawn engine parent image).kernel := by
  unfold spawn
  split
  · exact does_of_same rfl rfl
  · cases engine.load image with
    | error error => exact does_of_same rfl rfl
    | ok memory =>
      cases result : kernel.processes.register parent with
      | error error =>
        simp only [registerProcess, result]
        exact does_of_same rfl rfl
      | ok registered =>
        obtain ⟨table, pid⟩ := registered
        simp only [registerProcess, result]
        have announced : Effect.told ([.note (.registered pid parent)] ++
            [.note (.spawned image.name pid parent image.args.length), .started pid image]) =
          ProcessTable.announcement pid parent image := rfl
        rw [Does, Effect.told_append, announced]
        rcases begin_cases { kernel with processes := table } (.fresh pid memory)
          (engine.start image) with ⟨same, silent⟩ | ⟨how, table', news, ended, same, told⟩
        · rw [silent, List.append_nil, same]
          exact .enrolled image result
        · rw [told, same]
          exact .flashed image result ended

theorem does_boot (engine : Engine σ) (kernel : Kernel) (program : Bytes) (args : List Bytes) :
    kernel.Does (kernel.boot engine program args).effects
      (kernel.boot engine program args).kernel := by
  unfold boot
  split
  · exact does_of_same rfl rfl
  · exact (does_spawn engine kernel none _).silent_before [_] rfl

end Kernel

/-! ### Turns of a call -/

namespace Service

variable {kernel : Kernel} {caller : UserProcess σ}

theorem told_install (caller : UserProcess σ) {reaction : Reaction (Except SysError FileHandle)}
    (silent : Effect.told reaction.effects = []) :
    Effect.told (install (reaction.toStep caller)).effects = [] := by
  unfold install
  simp only [Reaction.toStep]
  split
  · exact silent
  · split
    · exact silent
    · rw [Effect.told_append, silent, Kernel.told_releaseHandles]
      rfl

theorem told_create (kernel : Kernel) (caller : UserProcess σ) (name : FileName) :
    Effect.told (create kernel caller name).effects = [] := by
  have silent := told_install caller (kernel.told_createFile name caller.pid)
  unfold create
  simp only
  split
  · exact silent
  · rw [Effect.told_append, silent]
    rfl

theorem told_openFile (kernel : Kernel) (caller : UserProcess σ) (name : FileName) :
    Effect.told (openFile kernel caller name).effects = [] := by
  have silent := told_install caller (kernel.told_openFile name caller.pid)
  unfold openFile
  simp only
  split
  · exact silent
  · exact silent

theorem told_close (kernel : Kernel) (caller : UserProcess σ) (fd : Fd) :
    Effect.told (close kernel caller fd).effects = [] := by
  unfold close
  split
  · rfl
  · rename_i handle _
    exact kernel.told_releaseHandles [handle]

/-- A transfer tells nothing of the processes, and leaves them alone. -/
theorem does_settle (kernel : Kernel) (caller : UserProcess σ) (fd : Fd)
    (moved : Transferred σ ConsoleDevice) :
    kernel.Does (settle kernel caller fd moved).effects (settle kernel caller fd moved).kernel :=
  Kernel.does_of_same rfl rfl

theorem told_unlink (kernel : Kernel) (caller : UserProcess σ) (name : FileName) :
    Effect.told (unlink kernel caller name).effects = [] := by
  unfold unlink
  simp only
  split
  · exact kernel.told_unlinkFile name
  · exact kernel.told_unlinkFile name

theorem does_exec (engine : Engine σ) (kernel : Kernel) (caller : UserProcess σ)
    (image : ProgramImage) :
    kernel.Does (exec engine kernel caller image).effects
      (exec engine kernel caller image).kernel := by
  have spawned := Kernel.does_spawn engine kernel (some caller.pid) image
  unfold exec
  simp only
  split
  · exact spawned
  · exact spawned

theorem does_halt (kernel : Kernel) (caller : UserProcess σ) :
    kernel.Does (halt kernel caller).effects (halt kernel caller).kernel := by
  have halted := kernel.does_halt caller.pid
  unfold halt
  simp only
  split
  · exact halted
  · exact halted

variable [AddressSpace σ]

theorem does_join (kernel : Kernel) (caller : UserProcess σ) (pending : PendingJoin) :
    kernel.Does (join kernel caller pending).effects (join kernel caller pending).kernel := by
  have polled := kernel.does_pollJoin caller.pid pending.child
  unfold join
  simp only
  split
  · exact polled
  · exact polled
  · unfold deliver
    split
    · exact polled
    · exact polled
    · split
      · exact polled
      · exact polled

end Service

/-- The end of a turn adds nothing to tell. -/
theorem Step.does_conclude {kernel : Kernel} {step : Step σ Outcome}
    (does : kernel.Does step.effects step.kernel) (number : Nat) :
    kernel.Does (step.conclude number).effects (step.conclude number).kernel := by
  unfold conclude
  split
  · exact does
  · exact does
  · split
    · exact does
    · exact does.silent_after [_] rfl

namespace Request

variable [AddressSpace σ]

theorem does_perform (engine : Engine σ) (kernel : Kernel) (caller : UserProcess σ) (number : Nat)
    (request : Request) :
    kernel.Does (request.perform engine kernel caller number).effects
      (request.perform engine kernel caller number).kernel := by
  cases request with
  | halt => exact Service.does_halt kernel caller
  | exit status => exact kernel.does_exit caller status
  | exec image => exact Step.does_conclude (Service.does_exec engine kernel caller image) number
  | join child status => exact Step.does_conclude (Service.does_join kernel caller _) number
  | create name =>
    have same := (Service.leavesProcesses_create kernel caller name).processes
    exact Step.does_conclude (Kernel.does_of_same same (Service.told_create kernel caller name)) _
  | openFile name =>
    have same := (Service.leavesProcesses_openFile kernel caller name).processes
    exact Step.does_conclude (Kernel.does_of_same same (Service.told_openFile kernel caller name)) _
  | read fd file buffer count =>
    exact Step.does_conclude (Service.does_settle kernel caller fd _) number
  | write fd file buffer count =>
    exact Step.does_conclude (Service.does_settle kernel caller fd _) number
  | close fd =>
    have same := (Service.leavesProcesses_close kernel caller fd).processes
    exact Step.does_conclude (Kernel.does_of_same same (Service.told_close kernel caller fd)) _
  | unlink name =>
    have same := (Service.leavesProcesses_unlink kernel caller name).processes
    exact Step.does_conclude (Kernel.does_of_same same (Service.told_unlink kernel caller name)) _

end Request

namespace Kernel

variable [AddressSpace σ]

theorem does_dispatch (engine : Engine σ) (kernel : Kernel) (caller : UserProcess σ) (number : Nat)
    (args : Registers) :
    kernel.Does (kernel.dispatch engine caller number args).effects
      (kernel.dispatch engine caller number args).kernel := by
  have refused : ∀ error, kernel.Does
      ((Step.still kernel caller (Outcome.failed error)).conclude number).effects
      ((Step.still kernel caller (Outcome.failed error)).conclude number).kernel := by
    intro error
    refine Step.does_conclude ?_ number
    exact does_of_same rfl rfl
  unfold dispatch
  split
  · exact does_of_same rfl rfl
  · split
    · exact does_of_same rfl rfl
    · refine Does.silent_before ?_ [_] rfl
      unfold call
      split
      · exact (refused _).silent_before [_] rfl
      · split
        · exact refused _
        · exact Request.does_perform engine kernel caller number _

theorem does_resume (kernel : Kernel) (caller : UserProcess σ) (pending : PendingJoin) :
    kernel.Does (kernel.resume caller pending).effects (kernel.resume caller pending).kernel :=
  Step.does_conclude (Service.does_join kernel caller pending) _

end Kernel

end SyscallKernel
