import SyscallKernel.Proofs.Kernel.Deeds

/-!
# What a deed means for those who run

A machine halts at the request of its root or with the last process that runs, and by no other
deed. What the effects tell of a termination is true: the process ran until then, or was started
in the same deed, and does not run any more.
-/

namespace SyscallKernel

namespace ProcessTable

variable {table table' : ProcessTable} {effects : List Effect}

/-- No process runs. -/
def IsIdle (table : ProcessTable) : Prop := ∀ pid, table.isRunning pid = false

/-- The report of the last termination is right. -/
theorem Ending.last_iff {pid : Pid} {how : Termination} {record : ProcessRecord}
    {news : TerminationNews} (ending : Ending table pid how record table' news) :
    news.last = true ↔ table'.IsIdle := by
  rw [ending.last, Bool.not_eq_true', List.any_eq_false]
  constructor
  · intro stopped other
    rw [isRunning, Option.any_eq_false_iff_get]
    intro found
    exact Bool.eq_false_iff.2 (stopped _ (List.mem_of_find?_eq_some (Option.some_get found).symm))
  · intro idle record member running
    have found := (ProcessRecords.get?_eq_some_iff ending.ascending).2 ⟨member, rfl⟩
    have absurd := idle record.pid
    rw [isRunning, found, Option.any_some, running] at absurd
    cases absurd

/-- The machine halts with its last process, and then nobody else is to be woken. -/
theorem Ending.settled_eq {pid : Pid} {how : Termination} {record : ProcessRecord}
    {news : TerminationNews} (ending : Ending table pid how record table' news)
    (wellFormed : table.WellFormed) :
    table'.settled news =
      ({ table' with isShutdown := table'.isShutdown || news.last }, []) := by
  unfold settled
  split
  · rename_i halts
    obtain ⟨last, _⟩ := Bool.and_eq_true_iff.1 halts
    have empty := records_eq_nil_of_idle (ending.wellFormed wellFormed) (ending.last_iff.1 last)
    simp only [shutdown, empty, List.map_nil, List.filterMap_nil, last, Bool.or_true]
  · rename_i goesOn
    have same : (table'.isShutdown || news.last) = table'.isShutdown := by
      cases shut : table'.isShutdown with
      | true => rfl
      | false =>
        simp only [shut, Bool.not_false, Bool.and_true, Bool.not_eq_true] at goesOn
        rw [goesOn, Bool.or_false]
    rw [same]

/-- What is told of a termination is that, and whom it wakes. -/
theorem mem_obituary {pid : Pid} {how : Termination} {wakes : List Pid} {notice : Notice} :
    Effect.note notice ∈ obituary pid how wakes ↔ notice = .terminated pid how := by
  simp only [obituary, List.mem_cons, Effect.note.injEq, List.mem_map, reduceCtorEq, and_false,
    exists_false, or_false]

/-- What is told of a start is that, and who was registered. -/
theorem mem_announcement {pid : Pid} {parent : Option Pid} {image : ProgramImage}
    {notice : Notice} :
    Effect.note notice ∈ announcement pid parent image ↔ notice = .registered pid parent := by
  simp only [announcement, List.mem_cons, Effect.note.injEq, reduceCtorEq, List.not_mem_nil,
    or_false]

/-- What is told of a halt is who asked for it, and whom it wakes. -/
theorem mem_haltRequested {pid : Pid} {wakes : List Pid} {notice : Notice} :
    Effect.note notice ∈ .note (.haltRequested pid) :: wakes.map Effect.wake ↔
      notice = .haltRequested pid := by
  simp only [List.mem_cons, Effect.note.injEq, List.mem_map, reduceCtorEq, and_false, exists_false,
    or_false]

/-! ### One deed -/

/-- What a deed means for those who run, and for the machine. -/
structure Meaning (table : ProcessTable) (effects : List Effect) (table' : ProcessTable) :
    Prop where
  /-- The table stays well formed. -/
  wellFormed : table'.WellFormed
  /-- Exactly those terminate of whom it is told: they ran, or are new, and do not run any more. -/
  terminated : ∀ pid, (∃ how, .note (.terminated pid how) ∈ effects) ↔
    table'.isRunning pid = false ∧
      (table.isRunning pid = true ∨ ∃ parent, .note (.registered pid parent) ∈ effects)
  /-- Only the root halts the machine. -/
  requested : ∀ pid, .note (.haltRequested pid) ∈ effects → table.isRoot pid = true
  /-- The machine halts at a request or with its last process. -/
  isShutdown : table'.isShutdown = true ↔ table.isShutdown = true ∨
    (∃ pid, .note (.haltRequested pid) ∈ effects) ∨
      (∃ pid how, .note (.terminated pid how) ∈ effects) ∧ table'.IsIdle

/-- A deed of which no note tells. -/
theorem Meaning.of_silent (wellFormed : table'.WellFormed) (silent : ∀ notice : Notice,
      .note notice ∈ effects → ∃ caller child, notice = .reaped caller child)
    (running : ∀ pid, table'.isRunning pid = table.isRunning pid)
    (same : table'.isShutdown = table.isShutdown) : table.Meaning effects table' := by
  have unended : ∀ pid how, .note (.terminated pid how) ∉ effects := by
    intro pid how member
    obtain ⟨_, _, equal⟩ := silent _ member
    cases equal
  have unrequested : ∀ pid, .note (.haltRequested pid) ∉ effects := by
    intro pid member
    obtain ⟨_, _, equal⟩ := silent _ member
    cases equal
  have unregistered : ∀ pid parent, .note (.registered pid parent) ∉ effects := by
    intro pid parent member
    obtain ⟨_, _, equal⟩ := silent _ member
    cases equal
  constructor
  case wellFormed => exact wellFormed
  case terminated =>
    intro pid
    simp only [unended, unregistered, running, exists_false, or_false, Bool.not_eq_true,
      false_iff, not_and]
    exact fun stopped => stopped
  case requested => exact fun pid member => absurd member (unrequested pid)
  case isShutdown => simp only [unended, unrequested, exists_false, false_and, or_false, same]

/-- The termination of a process means that it does not run any more, and that the machine
halts if nobody else runs. -/
theorem Ending.meaning {pid : Pid} {how : Termination} {record : ProcessRecord}
    {news : TerminationNews} (ending : Ending table pid how record table' news)
    (wellFormed : table.WellFormed) :
    table.Meaning (obituary pid how (news.waiter.toList ++ (table'.settled news).2))
      (table'.settled news).1 := by
  have ran : table.isRunning pid = true := isRunning_iff.2 ⟨record, ending.found, ending.running⟩
  have remaining := ending.wellFormed wellFormed
  rw [ending.settled_eq wellFormed]
  constructor
  case wellFormed =>
    exact ⟨remaining.ascending, remaining.fits, remaining.nextPid_mem, remaining.pid_mem,
      remaining.mem_children, remaining.parent_running, remaining.zombie, remaining.waiter_parent,
      remaining.root_running⟩
  case terminated =>
    intro other
    have running : ProcessTable.isRunning
        { table' with isShutdown := table'.isShutdown || news.last } other =
          (decide (other ≠ pid) && table.isRunning other) := ending.isRunning_eq other
    rw [running]
    simp only [mem_obituary, Notice.terminated.injEq, exists_and_left, exists_eq, and_true,
      reduceCtorEq, exists_false, or_false, Bool.and_eq_false_iff, decide_eq_false_iff_not,
      not_not]
    constructor
    · rintro rfl
      exact ⟨.inl rfl, ran⟩
    · rintro ⟨same | stopped, running⟩
      · exact same
      · rw [running] at stopped
        cases stopped
  case requested =>
    intro other member
    cases mem_obituary.1 member
  case isShutdown =>
    simp only [mem_obituary, Notice.terminated.injEq, reduceCtorEq, exists_false, false_or,
      Bool.or_eq_true, ending.isShutdown, ending.last_iff]
    refine or_congr_right ⟨fun idle => ⟨⟨pid, how, rfl, rfl⟩, idle⟩, fun last => last.2⟩

/-- A new process runs, and nothing else changes. -/
theorem Registration.meaning {parent : Option Pid} {pid : Pid}
    (registration : Registration table parent table' pid) (wellFormed : table.WellFormed)
    (image : ProgramImage) : table.Meaning (announcement pid parent image) table' := by
  constructor
  case wellFormed => exact registration.wellFormed wellFormed
  case terminated =>
    intro other
    simp only [mem_announcement, reduceCtorEq, exists_false, Notice.registered.injEq,
      exists_and_left, exists_eq, and_true, false_iff, not_and, not_or]
    rw [registration.isRunning_eq, Bool.or_eq_false_iff, decide_eq_false_iff_not]
    exact fun stopped => ⟨Bool.eq_false_iff.1 stopped.2, stopped.1⟩
  case requested =>
    intro other member
    cases mem_announcement.1 member
  case isShutdown =>
    simp only [mem_announcement, reduceCtorEq, exists_false, false_and, or_false,
      registration.isShutdown]

/-- The machine halts when its root asks for it, and whoever runs goes on. -/
theorem meaning_shutdown (wellFormed : table.WellFormed) {pid : Pid}
    (root : table.isRoot pid = true) :
    table.Meaning (.note (.haltRequested pid) :: table.shutdown.2.map .wake) table.shutdown.1 := by
  constructor
  case wellFormed => exact wellFormed_shutdown wellFormed
  case terminated =>
    intro other
    simp only [mem_haltRequested, reduceCtorEq, exists_false, or_false, isRunning_shutdown,
      false_iff, not_and, Bool.not_eq_true]
    exact fun stopped => stopped
  case requested =>
    intro other member
    cases mem_haltRequested.1 member
    exact root
  case isShutdown =>
    refine iff_of_true rfl (.inr (.inl ⟨pid, ?_⟩))
    exact mem_haltRequested.2 rfl

/-- A process may terminate in the same step in which it was registered. -/
theorem Registration.meaning_append {between : ProcessTable} {parent : Option Pid} {pid : Pid}
    {later : List Effect} (registration : Registration table parent between pid)
    (image : ProgramImage) (meaning : between.Meaning later table')
    (told : ∀ notice : Notice, .note notice ∈ later → ∃ other how, notice = .terminated other how) :
    table.Meaning (announcement pid parent image ++ later) table' := by
  have unregistered : ∀ other parent, .note (.registered other parent) ∉ later := by
    intro other parent member
    obtain ⟨_, _, equal⟩ := told _ member
    cases equal
  have unrequested : ∀ other, .note (.haltRequested other) ∉ later := by
    intro other member
    obtain ⟨_, _, equal⟩ := told _ member
    cases equal
  constructor
  case wellFormed => exact meaning.wellFormed
  case terminated =>
    intro other
    have ended := meaning.terminated other
    simp only [unregistered, exists_false, or_false, registration.isRunning_eq, Bool.or_eq_true,
      decide_eq_true_eq] at ended
    simp only [List.mem_append, mem_announcement, reduceCtorEq, false_or, unregistered, or_false,
      Notice.registered.injEq, exists_and_left, exists_eq, and_true, ended]
    exact and_congr_right fun _ => or_comm
  case requested =>
    intro other member
    rcases List.mem_append.1 member with member | member
    · cases mem_announcement.1 member
    · exact absurd member (unrequested other)
  case isShutdown =>
    simp only [List.mem_append, mem_announcement, reduceCtorEq, false_or, meaning.isShutdown,
      unrequested, exists_false, registration.isShutdown]

/-- What every deed means. -/
theorem Deed.meaning (deed : table.Deed effects table') (wellFormed : table.WellFormed) :
    table.Meaning effects table' := by
  cases deed with
  | idle => exact .of_silent wellFormed (fun _ member => nomatch member) (fun _ => rfl) rfl
  | awaited result =>
    have awaiting := awaiting_of_pollJoin wellFormed result
    refine .of_silent (awaiting.wellFormed wellFormed) (fun _ member => nomatch member)
      awaiting.isRunning_eq ?_
    rw [awaiting.rest]
  | reaped result =>
    have reaping := reaping_of_pollJoin wellFormed result
    refine .of_silent (reaping.wellFormed wellFormed) ?_ reaping.isRunning_eq reaping.isShutdown
    intro notice member
    exact ⟨_, _, Effect.note.inj (List.mem_singleton.1 member)⟩
  | enrolled image result => exact (registration_of_register result).meaning wellFormed image
  | ended result =>
    obtain ⟨record, ending⟩ := ending_of_terminate wellFormed result
    exact ending.meaning wellFormed
  | flashed image started result =>
    have registration := registration_of_register started
    have enrolled := registration.wellFormed wellFormed
    obtain ⟨record, ending⟩ := ending_of_terminate enrolled result
    refine registration.meaning_append image (ending.meaning enrolled) ?_
    intro notice member
    exact ⟨_, _, mem_obituary.1 member⟩
  | halted root => exact meaning_shutdown wellFormed root

end ProcessTable

/-- Whatever tells of the process table is not lost when the rest is left out. -/
theorem Effect.mem_told {effects : List Effect} {effect : Effect} (tells : effect.isTold = true) :
    effect ∈ told effects ↔ effect ∈ effects := by
  rw [told, List.mem_filter]
  exact and_iff_left tells

namespace Kernel

/-- What one turn of the kernel means for those who run, and for the machine. -/
theorem Does.meaning {kernel kernel' : Kernel} {effects : List Effect}
    (does : kernel.Does effects kernel') (wellFormed : kernel.processes.WellFormed) :
    kernel.processes.Meaning effects kernel'.processes := by
  have meaning := ProcessTable.Deed.meaning does wellFormed
  have registered : ∀ pid parent, Effect.note (.registered pid parent) ∈ Effect.told effects ↔ _ :=
    fun pid parent => Effect.mem_told rfl
  have terminated : ∀ pid how, Effect.note (.terminated pid how) ∈ Effect.told effects ↔ _ :=
    fun pid how => Effect.mem_told rfl
  have requested : ∀ pid, Effect.note (.haltRequested pid) ∈ Effect.told effects ↔ _ :=
    fun pid => Effect.mem_told rfl
  constructor
  case wellFormed => exact meaning.wellFormed
  case terminated =>
    have ended := meaning.terminated
    simp only [terminated, registered] at ended
    exact ended
  case requested => exact fun pid member => meaning.requested pid ((requested pid).2 member)
  case isShutdown =>
    have halts := meaning.isShutdown
    simp only [terminated, requested] at halts
    exact halts

end Kernel

end SyscallKernel
