import SyscallKernel.Proofs.Kernel.Halting
import SyscallKernel.Proofs.Kernel.Links

/-!
# A machine that has halted

The deed that halts a machine wakes whoever is registered as a waiter, one wake-up for
each record, and leaves nobody registered as one. On a machine that has halted nobody is
registered, reaped, made to wait or woken any more: calls and joins are turned away with
nothing changed, and all that processes can still do is to end.
-/

namespace SyscallKernel

variable {σ : Type}

/-- If only one process is waited for, its waiter is the only one. -/
theorem ProcessRecords.waiters_eq {records : ProcessRecords} (ascending : records.Ascending)
    {pid : Pid} {record : ProcessRecord} (found : records.get? pid = some record)
    (others : ∀ other ∈ records, other.pid ≠ pid → other.waiter = none) :
    records.filterMap ProcessRecord.waiter = record.waiter.toList := by
  obtain ⟨member, rfl⟩ := (get?_eq_some_iff ascending).1 found
  obtain ⟨before, after, rfl⟩ := List.append_of_mem member
  obtain ⟨_, ordered, smaller⟩ := List.pairwise_append.1 ascending
  obtain ⟨greater, _⟩ := List.pairwise_cons.1 ordered
  have silent : ∀ part : ProcessRecords, (∀ other ∈ part, other.waiter = none) →
      part.filterMap ProcessRecord.waiter = [] := fun part => List.filterMap_eq_nil_iff.2
  rw [List.filterMap_append, silent before, List.nil_append, List.filterMap_cons]
  · have rest := silent after fun other listed => others other
      (List.mem_append_right _ (List.mem_cons_of_mem _ listed)) fun same =>
        Nat.lt_irrefl _ (same ▸ greater other listed)
    rw [rest]
    cases record.waiter <;> rfl
  · exact fun other listed => others other (List.mem_append_left _ listed) fun same =>
      Nat.lt_irrefl _ (same ▸ smaller other listed record List.mem_cons_self)

namespace ProcessTable

variable {table table' : ProcessTable} {effects : List Effect}

/-- The machine has halted and nobody is registered as a waiter. -/
structure IsClosed (table : ProcessTable) : Prop where
  /-- The machine has halted. -/
  isShutdown : table.isShutdown = true
  /-- Nobody waits. -/
  unawaited : ∀ pid, table.waiter? pid = none

/-- When the last process terminates, nobody waits but for that process. -/
theorem Ending.waiters_eq {pid : Pid} {how : Termination} {record : ProcessRecord}
    {news : TerminationNews} (ending : Ending table pid how record table' news)
    (wellFormed : table.WellFormed) (last : news.last = true) :
    table.records.filterMap ProcessRecord.waiter = news.waiter.toList := by
  rw [ending.waiter]
  refine ProcessRecords.waiters_eq wellFormed.ascending ending.found ?_
  intro other member differs
  have found := (ProcessRecords.get?_eq_some_iff wellFormed.ascending).2 ⟨member, rfl⟩
  have stopped := ending.last_iff.1 last other.pid
  rw [ending.isRunning_eq, decide_eq_true differs, Bool.true_and] at stopped
  have unawaited := waiter?_of_not_running wellFormed stopped
  rw [waiter?, found] at unawaited
  exact unawaited

/-- The table is closed once the last process has terminated. -/
theorem Ending.isClosed {pid : Pid} {how : Termination} {record : ProcessRecord}
    {news : TerminationNews} (ending : Ending table pid how record table' news)
    (wellFormed : table.WellFormed) (last : news.last = true) :
    (table'.settled news).1.IsClosed := by
  have empty := records_eq_nil_of_idle (ending.wellFormed wellFormed) (ending.last_iff.1 last)
  rw [ending.settled_eq wellFormed]
  constructor
  case isShutdown => simp only [last, Bool.or_true]
  case unawaited =>
    intro other
    rw [waiter?, empty]
    rfl

/-- A termination wakes the waiter of the process, and nobody else. -/
theorem wakes_obituary (pid : Pid) (how : Termination) (wakes : List Pid) :
    (obituary pid how wakes).filterMap Effect.wake? = wakes := Kernel.wakes_map_wake wakes

/-- The deed that halts the machine wakes exactly those who are registered as waiters. -/
theorem Deed.halting (deed : table.Deed effects table') (wellFormed : table.WellFormed)
    (goesOn : table.isShutdown = false) (halts : table'.isShutdown = true) :
    effects.filterMap Effect.wake? = table.records.filterMap ProcessRecord.waiter ∧
      table'.IsClosed := by
  have unchanged : table'.isShutdown ≠ table.isShutdown := by
    rw [goesOn, halts]
    decide
  cases deed with
  | idle => exact absurd rfl unchanged
  | awaited result =>
    have awaiting := awaiting_of_pollJoin wellFormed result
    rw [awaiting.rest] at unchanged
    exact absurd rfl unchanged
  | reaped result =>
    exact absurd (reaping_of_pollJoin wellFormed result).isShutdown unchanged
  | enrolled image result =>
    exact absurd (registration_of_register result).isShutdown unchanged
  | ended result =>
    obtain ⟨record, ending⟩ := ending_of_terminate wellFormed result
    have last := halts
    simp only [ending.settled_eq wellFormed, ending.isShutdown, goesOn, Bool.false_or] at last
    rw [wakes_obituary, ending.settled_eq wellFormed, List.append_nil,
      ending.waiters_eq wellFormed last]
    have closed := ending.isClosed wellFormed last
    rw [ending.settled_eq wellFormed] at closed
    exact ⟨rfl, closed⟩
  | @flashed parent pid how between table' news image started result =>
    have registration := registration_of_register started
    have enrolled := registration.wellFormed wellFormed
    obtain ⟨record, ending⟩ := ending_of_terminate enrolled result
    have last := halts
    simp only [ending.settled_eq enrolled, ending.isShutdown, registration.isShutdown, goesOn,
      Bool.false_or] at last
    have closed := ending.isClosed enrolled last
    -- Nobody ran before the new process, so there were no records at all.
    have idle : table.IsIdle := by
      intro other
      have stopped := ending.last_iff.1 last other
      rw [ending.isRunning_eq, registration.isRunning_eq, Bool.and_eq_false_iff] at stopped
      rcases stopped with same | stopped
      · rw [of_not_not (of_decide_eq_false same), isRunning, registration.free]
        rfl
      · exact (Bool.or_eq_false_iff.1 stopped).2
    have found := ending.found
    rw [registration.lookup, if_pos rfl] at found
    have unawaited : news.waiter = none := by
      rw [ending.waiter, ← Option.some.inj found]
      rfl
    refine ⟨?_, closed⟩
    rw [List.filterMap_append, wakes_obituary, ending.settled_eq enrolled, unawaited,
      records_eq_nil_of_idle wellFormed idle]
    rfl
  | halted root =>
    exact ⟨Kernel.wakes_map_wake _, rfl, waiter?_shutdown table⟩

/-- After the machine has halted processes end, and the root may ask for the halt again;
nobody is registered, reaped, made to wait or woken. -/
theorem Deed.closed (deed : table.Deed effects table') (wellFormed : table.WellFormed)
    (closed : table.IsClosed) :
    table'.IsClosed ∧ ∀ effect ∈ effects,
      (∃ pid how, effect = .note (.terminated pid how)) ∨
        ∃ pid, effect = .note (.haltRequested pid) := by
  have absurdly : ∀ {p : Prop}, table.isShutdown = false → p := by
    intro p goesOn
    rw [closed.isShutdown] at goesOn
    cases goesOn
  cases deed with
  | idle => exact ⟨closed, fun _ member => nomatch member⟩
  | awaited result => exact absurdly (awaiting_of_pollJoin wellFormed result).notShutdown
  | reaped result => exact absurdly (reaping_of_pollJoin wellFormed result).notShutdown
  | enrolled image result => exact absurdly (registration_of_register result).notShutdown
  | flashed image started result => exact absurdly (registration_of_register started).notShutdown
  | @ended pid how table' news result =>
    obtain ⟨record, ending⟩ := ending_of_terminate wellFormed result
    have unawaited : news.waiter = none := by
      have waiter := closed.unawaited pid
      rw [waiter?, ending.found, Option.bind_some] at waiter
      rw [ending.waiter, waiter]
    rw [ending.settled_eq wellFormed]
    refine ⟨⟨?_, ?_⟩, ?_⟩
    · simp only [ending.isShutdown, closed.isShutdown, Bool.true_or]
    · intro other
      refine (ending.waiter?_eq wellFormed other).trans ?_
      rw [closed.unawaited]
      exact ite_self none
    · intro effect member
      rw [unawaited] at member
      exact .inl ⟨pid, how, List.mem_singleton.1 member⟩
  | @halted pid root =>
    refine ⟨⟨rfl, waiter?_shutdown table⟩, ?_⟩
    intro effect member
    have nobody : table.shutdown.2 = [] := by
      refine List.filterMap_eq_nil_iff.2 fun record member => ?_
      have waiter := closed.unawaited record.pid
      rw [waiter?, (ProcessRecords.get?_eq_some_iff wellFormed.ascending).2 ⟨member, rfl⟩] at waiter
      exact waiter
    rw [nobody] at member
    exact .inr ⟨pid, List.mem_singleton.1 member⟩

end ProcessTable

namespace Kernel

variable {kernel kernel' : Kernel} {effects : List Effect}

/-- The step that halts the machine wakes exactly those who are registered as waiters. -/
theorem Does.halting (does : kernel.Does effects kernel') (wellFormed : kernel.processes.WellFormed)
    (goesOn : kernel.isHalted = false) (halts : kernel'.isHalted = true) :
    effects.filterMap Effect.wake? =
        kernel.processes.records.filterMap ProcessRecord.waiter ∧ kernel'.processes.IsClosed := by
  rw [← Effect.wakes_told]
  exact ProcessTable.Deed.halting does wellFormed goesOn halts

/-- A step on a machine that has halted. -/
structure Idles (effects : List Effect) (kernel' : Kernel) : Prop where
  /-- Nobody waits, and the machine stays halted. -/
  closed : kernel'.processes.IsClosed
  /-- Nobody is woken. -/
  unwoken : effects.filterMap Effect.wake? = []
  /-- Nobody is registered. -/
  unregistered : ∀ pid parent, .note (.registered pid parent) ∉ effects
  /-- Nobody is reaped. -/
  unreaped : ∀ caller child, .note (.reaped caller child) ∉ effects

/-- A step on a machine that has halted neither registers nor reaps nor wakes anybody. -/
theorem Does.idles (does : kernel.Does effects kernel') (wellFormed : kernel.processes.WellFormed)
    (closed : kernel.processes.IsClosed) : Idles effects kernel' := by
  obtain ⟨closed', only⟩ := ProcessTable.Deed.closed does wellFormed closed
  constructor
  case closed => exact closed'
  case unwoken =>
    rw [← Effect.wakes_told, List.filterMap_eq_nil_iff]
    intro effect member
    rcases only effect member with ⟨pid, how, rfl⟩ | ⟨pid, rfl⟩
    · rfl
    · rfl
  case unregistered =>
    intro pid parent member
    rcases only _ ((Effect.mem_told rfl).2 member) with ⟨_, _, equal⟩ | ⟨_, equal⟩
    · cases equal
    · cases equal
  case unreaped =>
    intro caller child member
    rcases only _ ((Effect.mem_told rfl).2 member) with ⟨_, _, equal⟩ | ⟨_, equal⟩
    · cases equal
    · cases equal

/-! ### What a halted machine answers -/

variable (halted : kernel.isHalted = true)
include halted

/-- No program is started. -/
theorem spawn_of_isHalted (engine : Engine σ) (parent : Option Pid) (image : ProgramImage) :
    kernel.spawn engine parent image = kernel.answer (.error .shuttingDown) := by
  rw [spawn, if_pos halted]

/-- No root is started, but a wrong name is still reported. -/
theorem boot_of_isHalted (engine : Engine σ) {program : Bytes} {name : FileName}
    (named : FileName.ofBytes program = .ok name) (args : List Bytes) :
    kernel.boot engine program args = ⟨kernel, [.note (.booting name)], .error .shuttingDown⟩ := by
  rw [boot, named]
  simp only [spawn_of_isHalted halted]
  rfl

/-- No child is reaped, and nobody is made to wait. -/
theorem pollJoin_of_isHalted (caller child : Pid) :
    kernel.pollJoin caller child = kernel.answer (.error .shuttingDown) := by
  have refused : kernel.processes.pollJoin caller child = .error .shuttingDown := if_pos halted
  rw [pollJoin, refused]

variable [AddressSpace σ]

/-- No call does anything. -/
theorem dispatch_of_isHalted (engine : Engine σ) (caller : UserProcess σ) (number : Nat)
    (args : Registers) :
    kernel.dispatch engine caller number args = .still kernel caller (.finished .halted) := by
  rw [dispatch, if_pos halted]

/-- A call that waits for a child is released, and does nothing more. -/
theorem resume_of_isHalted (caller : UserProcess σ) (pending : PendingJoin) :
    kernel.resume caller pending = .still kernel caller (.finished .halted) := by
  have refused : Service.join kernel caller pending =
      .still kernel caller (.failed .shuttingDown) := by
    rw [Service.join, pollJoin_of_isHalted halted]
    rfl
  rw [resume, refused, Step.conclude]
  simp only [Step.still, halted, if_true]

end Kernel

/-- Who is torn down gives up its descriptors, and its handles are released. -/
structure Kernel.TearsDown (kernel : Kernel) (process : UserProcess σ)
    (reaction : Reaction (UserProcess σ)) : Prop where
  /-- The descriptor table is empty. -/
  files : reaction.value.files = .cleared
  /-- The process counts as torn down. -/
  terminated : reaction.value.terminated = true
  /-- Each handle was released. -/
  released : reaction.kernel.files = (kernel.releaseHandles process.files.handles).kernel.files
  /-- Each entry has as many handles less as the process had on it, and is gone if it was unlinked
  and lost its last one; where there was no entry there is none. -/
  entry?_eq : ∀ id, reaction.kernel.files.entry? id =
    (kernel.files.entry? id).bind fun entry =>
      let held := (process.files.handles.map FileHandle.id).count id
      if entry.unlinked = true ∧ 0 < entry.openCount ∧ entry.openCount ≤ held then none
      else some { entry with openCount := entry.openCount - held }
  /-- The names lead where they led. -/
  names : reaction.kernel.files.names = kernel.files.names
  /-- The contents of all files are as they were. -/
  data : reaction.kernel.files.data = kernel.files.data

/-- Tearing a process down releases its descriptors, whether the machine has halted or not. -/
theorem Kernel.tearsDown_terminate {kernel : Kernel} (regular : kernel.files.Regular)
    {process : UserProcess σ} (live : process.terminated = false) (how : Termination) :
    kernel.TearsDown process (kernel.terminate process how) := by
  have files := kernel.files_terminate process how
  have value := kernel.value_terminate process how
  rw [live, if_neg Bool.false_ne_true] at files value
  have released := FileStore.released_releaseAll regular process.files.handles
  constructor
  case files => rw [value]
  case terminated => rw [value]
  case released => exact files
  case entry?_eq =>
    intro id
    rw [files, released.entry?_eq]
    cases kernel.files.entry? id with
    | none => exact FileStore.afterReleases_none _
    | some entry => exact FileStore.afterReleases_some _ entry
  case names => exact (congrArg FileStore.names files).trans released.names
  case data => exact (congrArg FileStore.data files).trans released.data

end SyscallKernel
