import SyscallKernel.Proofs.Kernel.Standstill
import SyscallKernel.Proofs.Machine.Acts
import SyscallKernel.Proofs.Machine.Traffic

/-!
# After the machine has halted

The step that halts a machine wakes every registered waiter once, and whatever happens
afterwards, the machine stays halted: nobody is registered, reaped, made to wait or
woken, and no call does anything. A process that was inside a join when the machine
halted is or will be notified; it asks once more, and returns without its child, and as
it was before.
-/

namespace SyscallKernel

variable {σ : Type} [AddressSpace σ]

/-- On a machine that has halted a join returns at once, and changes nothing. -/
theorem Errand.ask_of_isHalted {kernel : Kernel} (halted : kernel.isHalted = true)
    (caller : UserProcess σ) (errand : Errand) :
    errand.ask kernel caller = .still kernel caller false := by
  cases errand with
  | direct child =>
    rw [ask, Kernel.pollJoin_of_isHalted halted]
    rfl
  | call pending =>
    rw [ask, Kernel.resume_of_isHalted halted]
    rfl

/-- On a machine that has halted a join returns that it shuts down. -/
theorem Kernel.joinEnd?_of_isHalted {kernel : Kernel} (halted : kernel.isHalted = true)
    (parent child : Pid) :
    kernel.joinEnd? parent child = some ⟨parent, child, .error .shuttingDown⟩ := by
  rw [joinEnd?, pollJoin_of_isHalted halted]
  rfl

namespace World

variable {world world' world'' : World σ} {log effects later : List Effect}
  {occurrence : Occurrence}

/-- In every step the kernel does at most one deed to its processes. -/
theorem Step.does (step : world.Step occurrence world') :
    world.machine.kernel.Does occurrence.effects world'.machine.kernel := by
  cases step with
  | boot program args =>
    exact Kernel.does_boot world.machine.engine world.machine.kernel program args
  | spawn parent image =>
    exact Kernel.does_spawn world.machine.engine world.machine.kernel parent image
  | call caller listed number args =>
    have dispatched :=
      Kernel.does_dispatch world.machine.engine world.machine.kernel caller number args
    unfold proceed
    split
    · exact dispatched
    · exact dispatched
  | exit process listed status => exact world.machine.kernel.does_exit process status
  | abort process listed fault => exact world.machine.kernel.does_abort process fault
  | halt pid => exact world.machine.kernel.does_halt pid
  | ask joiner listed asking =>
    have asked : world.machine.kernel.Does
        (joiner.errand.ask world.machine.kernel joiner.process).effects
        (joiner.errand.ask world.machine.kernel joiner.process).kernel := by
      cases joiner.errand with
      | direct child => exact world.machine.kernel.does_pollJoin joiner.process.pid child
      | call pending => exact world.machine.kernel.does_resume joiner.process pending
    simp only [World.asked]
    split
    · exact asked
    · exact asked
  | enter | block | rise | deliver | permit | compute | console | equip =>
    exact Kernel.does_of_same rfl rfl

/-- What can follow on a world, with the effects. -/
inductive Later (world : World σ) : List Effect → World σ → Prop where
  /-- Nothing has followed yet. -/
  | now : Later world [] world
  /-- One more step has followed. -/
  | step {later : List Effect} {world' world'' : World σ} {occurrence : Occurrence}
    (earlier : Later world later world') (step : world'.Step occurrence world'') :
    Later world (later ++ occurrence.effects) world''

/-- What follows on a run is a longer run. -/
theorem Later.run {engine : Engine σ} {config : Config} {console : ConsoleDevice}
    (follows : world.Later later world') (run : Run engine config console log world) :
    Run engine config console (log ++ later) world' := by
  induction follows with
  | now =>
    rw [List.append_nil]
    exact run
  | step earlier step ih =>
    rw [← List.append_assoc]
    exact ih.step step

/-- A join returns without its child. -/
structure Released (world : World σ) (process : UserProcess σ) (errand : Errand)
    (world' : World σ) : Prop where
  /-- The join returns that the machine shuts down, and nothing happens besides. -/
  step : world.Step ⟨[], some ⟨process.pid, errand.child, .error .shuttingDown⟩⟩ world'
  /-- The kernel stays as it is. -/
  kernel : world'.machine.kernel = world.machine.kernel
  /-- The process gets out of the join as it was before. -/
  parked : process ∈ world'.machine.parked
  /-- If it was inside a call, the call completes as on a halted machine. -/
  completion : ∀ pending, errand = .call pending →
    (world.machine.kernel.resume process pending).value = .finished .halted

/-- What can follow on a world releases a process from its join. -/
def CanRelease (world : World σ) (process : UserProcess σ) (errand : Errand) : Prop :=
  ∃ later world' world'', world.Later later world' ∧ world'.Released process errand world''

/-- A process inside a join on a machine that has halted asks for its child in vain. -/
theorem released_of_asking (halted : world.machine.kernel.isHalted = true)
    {before after : List (Joiner σ)} {joiner : Joiner σ}
    (listed : world.joiners = before ++ joiner :: after) (asking : joiner.phase = .asking) :
    world.Released joiner.process joiner.errand (world.asked joiner (before ++ after)) := by
  have ask := joiner.errand.ask_of_isHalted halted joiner.process
  have step := Step.ask joiner listed asking
  rw [Kernel.joinEnd?_of_isHalted halted] at step
  simp only [ask, Step.still] at step
  constructor
  case step => exact step
  case kernel => simp only [asked, ask, Step.still, Bool.false_eq_true, if_false, react]
  case parked =>
    simp only [asked, ask, Step.still, Bool.false_eq_true, if_false, react]
    exact List.mem_cons_self
  case completion =>
    intro pending _
    rw [Kernel.resume_of_isHalted halted]
    rfl

/-- A process inside a join on a machine that has halted stays there, or is released. -/
theorem Step.stays_or_released (step : world.Step occurrence world')
    (halted : world.machine.kernel.isHalted = true) {joiner : Joiner σ}
    (member : joiner ∈ world.joiners) :
    (∃ phase, { joiner with phase } ∈ world'.joiners) ∨
      world.Released joiner.process joiner.errand world' := by
  cases step with
  | boot | spawn | exit | abort | halt => exact .inl ⟨joiner.phase, member⟩
  | deliver | permit | compute | console | equip => exact .inl ⟨joiner.phase, member⟩
  | call caller listed number args =>
    refine .inl ⟨joiner.phase, ?_⟩
    unfold proceed
    split
    · exact member
    · exact List.mem_cons_of_mem _ member
  | enter => exact .inl ⟨joiner.phase, List.mem_cons_of_mem _ member⟩
  | block blocked listed told =>
    rcases (mem_joiners listed joiner).1 member with rfl | stays
    · exact .inl ⟨.suspended, List.mem_append_right _ List.mem_cons_self⟩
    · exact .inl ⟨joiner.phase, List.perm_middle.mem_iff.2 (List.mem_cons_of_mem _ stays)⟩
  | rise risen listed waits permitted =>
    rcases (mem_joiners listed joiner).1 member with rfl | stays
    · exact .inl ⟨.asking, List.mem_append_right _ List.mem_cons_self⟩
    · exact .inl ⟨joiner.phase, List.perm_middle.mem_iff.2 (List.mem_cons_of_mem _ stays)⟩
  | ask asker listed asking =>
    rcases (mem_joiners listed joiner).1 member with rfl | stays
    · exact .inr (released_of_asking halted listed asking)
    · refine .inl ⟨joiner.phase, ?_⟩
      simp only [asked]
      split
      · exact List.mem_cons_of_mem _ stays
      · exact stays

/-- Whoever comes to ask for its child after the halt gets out of its join. -/
theorem Later.exists_released_of_asking (follows : world.Later later world')
    (halted : world'.machine.kernel.isHalted = true) {joiner : Joiner σ}
    (member : { joiner with phase := .asking } ∈ world'.joiners) :
    world.CanRelease joiner.process joiner.errand := by
  obtain ⟨before, after, listed⟩ := List.append_of_mem member
  have released := released_of_asking halted listed rfl
  exact ⟨_, _, _, follows, released⟩

/-- Whoever has a permit after the halt uses it and gets out of its join. -/
theorem Later.exists_released_of_permitted (follows : world.Later later world')
    (halted : world'.machine.kernel.isHalted = true) {joiner : Joiner σ}
    (member : joiner ∈ world'.joiners) (waits : joiner.phase ≠ .asking)
    (permitted : world'.machine.hasPermit joiner.process.pid = true) :
    world.CanRelease joiner.process joiner.errand := by
  obtain ⟨before, after, listed⟩ := List.append_of_mem member
  exact (follows.step (.rise joiner listed waits permitted)).exists_released_of_asking halted
    (List.mem_append_right _ List.mem_cons_self)

/-- A process inside a join gets out of it once the machine has halted and the process is
notified: the wake-up arrives, the process uses it, and asks in vain. -/
theorem exists_released (halted : world.machine.kernel.isHalted = true) {joiner : Joiner σ}
    (member : joiner ∈ world.joiners)
    (notified : joiner.phase ≠ .asking → world.Notified joiner.process.pid) :
    world.CanRelease joiner.process joiner.errand := by
  by_cases asking : joiner.phase = .asking
  · obtain ⟨before, after, listed⟩ := List.append_of_mem member
    exact ⟨_, _, _, .now, released_of_asking halted listed asking⟩
  · rcases notified asking with permitted | sent
    · exact Later.now.exists_released_of_permitted halted member asking permitted
    · obtain ⟨before, after, wakes⟩ := List.append_of_mem sent
      have delivered : (world.machine.permit joiner.process.pid).hasPermit joiner.process.pid =
          true := by
        rw [hasPermit_permit, decide_eq_true rfl, Bool.true_or]
      exact (Later.now.step (.deliver joiner.process.pid wakes)).exists_released_of_permitted halted
        member asking delivered

/-- What holds of a world after its machine has halted, when some effects have followed on
the halt. -/
structure StandsStill (world : World σ) (later : List Effect) : Prop where
  /-- The machine stays halted. -/
  isHalted : world.machine.kernel.isHalted = true
  /-- Nobody was registered. -/
  unregistered : ∀ pid parent, .note (.registered pid parent) ∉ later
  /-- Nobody was reaped. -/
  unreaped : ∀ caller child, .note (.reaped caller child) ∉ later
  /-- Nobody was woken. -/
  unwoken : later.filterMap Effect.wake? = []
  /-- Nobody is registered as a waiter. -/
  unawaited : ∀ record ∈ world.machine.kernel.processes.records, record.waiter = none
  /-- No program is started. -/
  spawn : ∀ (engine : Engine σ) parent image, world.machine.kernel.spawn engine parent image =
    world.machine.kernel.answer (.error .shuttingDown)
  /-- No root is started. -/
  boot : ∀ (engine : Engine σ) program name args, FileName.ofBytes program = .ok name →
    world.machine.kernel.boot engine program args =
      ⟨world.machine.kernel, [.note (.booting name)], .error .shuttingDown⟩
  /-- No child is joined. -/
  pollJoin : ∀ caller child, world.machine.kernel.pollJoin caller child =
    world.machine.kernel.answer (.error .shuttingDown)
  /-- A join returns at once. -/
  joinEnd : ∀ parent child, world.machine.kernel.joinEnd? parent child =
    some ⟨parent, child, .error .shuttingDown⟩
  /-- No call does anything. -/
  dispatch : ∀ engine (caller : UserProcess σ) number args,
    world.machine.kernel.dispatch engine caller number args =
      .still world.machine.kernel caller (.finished .halted)
  /-- A call that waits for a child is released. -/
  resume : ∀ (caller : UserProcess σ) pending, world.machine.kernel.resume caller pending =
    .still world.machine.kernel caller (.finished .halted)
  /-- A process that exits gives up its descriptors. -/
  exit : ∀ (process : UserProcess σ) status, process.terminated = false →
    world.machine.kernel.TearsDown process (world.machine.kernel.exit process status)
  /-- A process that is killed gives up its descriptors. -/
  abort : ∀ (process : UserProcess σ) fault, process.terminated = false →
    world.machine.kernel.TearsDown process (world.machine.kernel.abort process fault)
  /-- A wake-up has arrived at, or is under way to, whoever waits inside a join. -/
  notified : ∀ joiner ∈ world.joiners, joiner.phase ≠ .asking →
    world.Notified joiner.process.pid
  /-- Whoever is inside a join can get out of it. -/
  released : ∀ joiner ∈ world.joiners, world.CanRelease joiner.process joiner.errand

/-- What holds of a step that halts the machine. -/
structure HaltsForGood (world : World σ) (effects : List Effect) (halted : World σ) : Prop where
  /-- Each registered waiter is woken once for each record that holds it. -/
  wakes : effects.filterMap Effect.wake? =
    world.machine.kernel.processes.records.filterMap ProcessRecord.waiter
  /-- These wake-ups are under way. -/
  sent : halted.wakes = world.wakes ++ effects.filterMap Effect.wake?
  /-- From then on the machine stands still. -/
  stands : ∀ {later : List Effect} {world' : World σ}, halted.Later later world' →
    world'.StandsStill later
  /-- Who was told to wait before is still inside its join, or was released in the meantime. -/
  inside : ∀ joiner ∈ world.joiners, joiner.phase ≠ .asking →
    ∀ {later : List Effect} {world' : World σ}, halted.Later later world' →
      (∃ phase, { joiner with phase } ∈ world'.joiners) ∨
        ∃ before between between' after, halted.Later before between ∧
          between.Released joiner.process joiner.errand between' ∧ between'.Later after world'

/-- Nothing that can follow on a halt undoes it. -/
theorem Later.idles {engine : Engine σ} {config : Config} {console : ConsoleDevice}
    (follows : world.Later later world') (run : Run engine config console log world)
    (closed : world.machine.kernel.processes.IsClosed) :
    Kernel.Idles later world'.machine.kernel := by
  induction follows with
  | now =>
    exact ⟨closed, rfl, fun _ _ member => (nomatch member), fun _ _ member => nomatch member⟩
  | @step later world' world'' occurrence earlier step ih =>
    have wellFormed := (earlier.run run).orderly.table
    have next := step.does.idles wellFormed ih.closed
    constructor
    case closed => exact next.closed
    case unwoken => rw [List.filterMap_append, ih.unwoken, next.unwoken, List.append_nil]
    case unregistered =>
      intro pid parent member
      rcases List.mem_append.1 member with old | new
      · exact ih.unregistered pid parent old
      · exact next.unregistered pid parent new
    case unreaped =>
      intro caller child member
      rcases List.mem_append.1 member with old | new
      · exact ih.unreaped caller child old
      · exact next.unreaped caller child new

/-- Whatever follows on a halt, the machine stands still. -/
theorem Later.standsStill {engine : Engine σ} {config : Config} {console : ConsoleDevice}
    (follows : world.Later later world') (run : Run engine config console log world)
    (closed : world.machine.kernel.processes.IsClosed) : world'.StandsStill later := by
  have orderly := (follows.run run).orderly
  have regular := (follows.run run).stocked.files
  have idles := follows.idles run closed
  have halted : world'.machine.kernel.isHalted = true := idles.closed.isShutdown
  have notified : ∀ joiner ∈ world'.joiners, joiner.phase ≠ .asking →
      world'.Notified joiner.process.pid := by
    intro joiner member waits
    refine (orderly.awaited joiner member waits).resolve_right fun awaited => ?_
    exact Bool.false_ne_true (awaited.notShutdown.symm.trans halted)
  constructor
  case isHalted => exact halted
  case unregistered => exact idles.unregistered
  case unreaped => exact idles.unreaped
  case unwoken => exact idles.unwoken
  case unawaited =>
    intro record member
    have waiter := idles.closed.unawaited record.pid
    rw [ProcessTable.waiter?,
      (ProcessRecords.get?_eq_some_iff orderly.table.ascending).2 ⟨member, rfl⟩] at waiter
    exact waiter
  case spawn => exact Kernel.spawn_of_isHalted halted
  case boot =>
    exact fun engine program name args named => Kernel.boot_of_isHalted halted engine named args
  case pollJoin => exact Kernel.pollJoin_of_isHalted halted
  case joinEnd => exact Kernel.joinEnd?_of_isHalted halted
  case dispatch => exact Kernel.dispatch_of_isHalted halted
  case resume => exact Kernel.resume_of_isHalted halted
  case exit => exact fun process status live => Kernel.tearsDown_terminate regular live _
  case abort =>
    intro process fault live
    have torn := Kernel.tearsDown_terminate regular live .killed
    exact ⟨torn.files, torn.terminated, torn.released, torn.entry?_eq, torn.names, torn.data⟩
  case notified => exact notified
  case released => exact fun joiner member => exists_released halted member (notified joiner member)

/-- In every run a halt is for good, and releases whoever waits. -/
theorem Run.haltsForGood {engine : Engine σ} {config : Config} {console : ConsoleDevice}
    {halted : World σ} (run : Run engine config console log world)
    (goesOn : world.machine.kernel.isHalted = false) (step : world.Step occurrence halted)
    (halts : halted.machine.kernel.isHalted = true) :
    world.HaltsForGood occurrence.effects halted := by
  obtain ⟨wakes, closed⟩ := step.does.halting run.orderly.table goesOn halts
  constructor
  case wakes => exact wakes
  case sent =>
    rcases step.table_or_wakes with same | ⟨_, sent⟩
    · rw [Kernel.isHalted, same] at halts
      exact absurd (goesOn.symm.trans halts) Bool.false_ne_true
    · exact sent
  case stands => exact fun follows => follows.standsStill (run.step step) closed
  case inside =>
    intro joiner member waits later world' follows
    induction follows with
    | now =>
      rcases step.fate member with stays | ⟨_, blocked⟩ | ⟨_, risen⟩ | ⟨asking, _⟩
      · exact .inl ⟨joiner.phase, stays⟩
      · exact .inl ⟨_, blocked⟩
      · exact .inl ⟨_, risen⟩
      · exact absurd asking waits
    | step earlier next ih =>
      have halted := (earlier.standsStill (run.step step) closed).isHalted
      rcases ih with ⟨phase, stays⟩ | ⟨before, between, between', after, first, released, second⟩
      · rcases next.stays_or_released halted stays with still | released
        · exact .inl still
        · exact .inr ⟨_, _, _, _, earlier, released, .now⟩
      · exact .inr ⟨_, _, _, _, first, released, second.step next⟩

/-- A memory into which the names of two files and three bytes were put. -/
def scrawl (memory : ImageMemory) : ImageMemory :=
  { memory with paged := memory.paged.store ⟨16, by decide⟩ [102, 0, 103, 104, 105] }

/-- A process that has one page of memory, and its child, which has one as well. -/
def family : World ImageMemory :=
  lonely.launch (lonely.machine.kernel.spawn paging (some ⟨1⟩) idler)

/-- A process with names of files in its memory, its child, and a child of that. -/
def generations : World ImageMemory :=
  let family := { family with machine := family.machine.compute ⟨1⟩ scrawl }
  family.launch (family.machine.kernel.spawn paging (some ⟨2⟩) idler)

/-- A process is blocked in a call that waits for its child. The root opens a file and halts the
machine by a call; the blocked process is woken and gets out, and when the root exits afterwards
its handle is released all the same. -/
theorem haltsForGood_with_blocked_join :
    ∃ log, ∃ world : World ImageMemory, Run paging {} narrow log world ∧
      world.Suspended ⟨2⟩ ⟨3⟩ ∧
      (world.machine.kernel.files.entry? ⟨0, 0⟩).map FileEntry.openCount = some 1 ∧
      ∃ occurrence halted, world.Step occurrence halted ∧
        world.HaltsForGood occurrence.effects halted ∧
        occurrence.effects.filterMap Effect.wake? = [⟨2⟩] ∧ halted.Notified ⟨2⟩ ∧
        ∃ root ∈ halted.processes, root.terminated = false ∧
          ((halted.machine.kernel.exit root 0).kernel.files.entry? ⟨0, 0⟩).map
            FileEntry.openCount = some 0 := by
  have switchedOn : Run paging {} narrow [] _ := .start
  have rooted : Run paging {} narrow _ lonely := switchedOn.step (.spawn none idler)
  have adopted : Run paging {} narrow _ family := rooted.step (.spawn (some ⟨1⟩) idler)
  have typed := adopted.step (.compute ⟨1⟩ scrawl)
  have leaf : Run paging {} narrow _ generations := typed.step (.spawn (some ⟨2⟩) idler)
  have told := leaf.step
    (.call _ (rfl : _ = [_] ++ _ :: [_]) Syscall.join.number ⟨3, 0, 0, 0⟩)
  have blocked := told.step (.block _ (rfl : _ = [] ++ _ :: []) rfl rfl)
  obtain ⟨_, opened, listed⟩ := blocked.call_returns [_] [] ⟨(rfl : _ = [_] ++ _ :: []), rfl⟩ .create ⟨16, 0, 0, 0⟩
    (by decide +kernel : _ = Progress.finished (.returned 2)) (by decide +kernel)
  have parked : _ = [] ++ _ :: [_] := listed.1
  have halting := Step.call _ parked Syscall.halt.number ⟨0, 0, 0, 0⟩
  obtain ⟨_, _, halted⟩ := opened.call_returns [] [_] listed .halt ⟨0, 0, 0, 0⟩
    (by decide +kernel : _ = Progress.finished .halted) (by decide +kernel)
  have good := opened.haltsForGood (by decide +kernel) halting (by decide +kernel)
  exact ⟨_, _, opened,
    ⟨_, by rw [listed.2]; exact List.mem_cons_self, by decide +kernel, rfl, rfl⟩,
    by decide +kernel, _, _, halting, good, by decide +kernel, by decide +kernel, _,
    List.mem_append_left _ (List.mem_of_mem_head? (congrArg List.head? halted.1)),
    by decide +kernel, by decide +kernel⟩

end World

end SyscallKernel
