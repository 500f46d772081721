import SyscallKernel.Proofs.Machine.Atomicity
import SyscallKernel.Proofs.Machine.FileReads
import SyscallKernel.Proofs.Machine.JoinCalls
import SyscallKernel.Proofs.Strict.Services

/-!
# No call meets a hazard

A modest run is one in which no file grows beyond half a word, and the numbers of 32 bits suffice
for the slots of the file store and for the open handles. Each of its calls may find a console of
its own, of which nothing is known but that it moves at most the length it is given. In every world
that such a run reaches the tables are in order, the store counts the handles of all processes, and
no cursor stands behind half a word, for each stands at a place where its file once ended, or
before it. So whatever pages a process has, whatever number and registers it calls with, and
whatever console it finds, the strict call does what the call does, unless there are more handles
than can be counted.
-/

namespace SyscallKernel

variable {σ δ : Type}

/-- A process with some pages in the place of its memory. -/
def UserProcess.withPages (process : UserProcess σ) (memory : PagedMemory) :
    UserProcess PagedMemory :=
  ⟨process.pid, process.files, memory, process.terminated⟩

/-! ### The files that processes hold -/

/-- The store counts the handles of some processes, the contents behind them are there, and no
cursor stands behind half a word. -/
structure Tracked (kernel : Kernel) (processes : List (UserProcess σ)) : Prop where
  /-- The contents are there. -/
  stocked : Stocked kernel processes
  /-- The store counts the handles. -/
  ledger : kernel.files.Ledger (heldLinks processes)
  /-- The cursors are near. -/
  near : ∀ process ∈ processes, ∀ handle ∈ process.files.handles, handle.offset < 2 ^ 63

namespace Tracked

variable {kernel kernel' : Kernel} {effects : List Effect}
  {before after bystanders processes processes' : List (UserProcess σ)}

theorem new (config : Config) (console : ConsoleDevice) :
    Tracked (.new config console) ([] : List (UserProcess σ)) :=
  ⟨.new config console, ledger_new config console, fun _ member => nomatch member⟩

/-- The order of the processes does not matter. -/
theorem perm (tracked : Tracked kernel processes) (same : processes.Perm processes') :
    Tracked kernel processes' where
  stocked := tracked.stocked.perm same
  ledger := tracked.ledger.perm (heldLinks_perm same)
  near process member := tracked.near process (same.mem_iff.2 member)

/-- An act moves cursors inside the contents only, so no cursor gets far from them as long as they
are short. -/
theorem act [AddressSpace σ] (tracked : Tracked kernel (before ++ bystanders))
    (act : kernel.Act before effects kernel' after)
    (fits : kernel'.files.Fits (heldLinks (after ++ bystanders)))
    (short : ∀ data, (kernel'.files.contents data).length < 2 ^ 63) :
    Tracked kernel' (after ++ bystanders) where
  stocked := act.stocked tracked.stocked
  ledger := (act.ledger tracked.ledger fits).1
  near := by
    intro process member handle held
    rcases List.mem_append.1 member with moved | stayed
    · obtain ⟨earlier, listed, follows⟩ := act.follows tracked.stocked process moved handle held
      have bound : handle.offset ≤ 2 ^ 63 - 1 := by
        refine follows.offset_le (fun other among => ?_) fun data => ?_
        · exact Nat.le_sub_one_of_lt
            (tracked.near earlier (List.mem_append_left _ listed) other among)
        · exact Nat.le_sub_one_of_lt (short data)
      omega
    · exact tracked.near process (List.mem_append_right _ stayed) handle held

end Tracked

namespace World

variable {world world' : World σ} {occurrence : Occurrence} {log : List Effect}
  {engine : Engine σ} {config : Config} {console : ConsoleDevice}

/-- A world whose numbers suffice: the capacity of the file store is a word, its slots have indices
of 32 bits, the open handles can be counted in 32 bits, and no file is longer than half a word. -/
structure Modest (world : World σ) : Prop where
  /-- The capacity is a word. -/
  word : world.machine.kernel.files.capacity < 2 ^ 64
  /-- Every slot has an index. -/
  indexed : world.machine.kernel.files.arena.length ≤ 2 ^ 32
  /-- The open handles can be counted. -/
  few : (openHandles world.processes).length < 2 ^ 32
  /-- The files are shorter than half a word. -/
  short : ∀ contents ∈ world.machine.kernel.files.data, contents.length < 2 ^ 63

instance (world : World σ) : Decidable world.Modest :=
  decidable_of_iff (world.machine.kernel.files.capacity < 2 ^ 64 ∧
      world.machine.kernel.files.arena.length ≤ 2 ^ 32 ∧
      (openHandles world.processes).length < 2 ^ 32 ∧
      ∀ contents ∈ world.machine.kernel.files.data, contents.length < 2 ^ 63)
    ⟨fun ⟨word, indexed, few, short⟩ => ⟨word, indexed, few, short⟩,
      fun modest => ⟨modest.word, modest.indexed, modest.few, modest.short⟩⟩

namespace Modest

/-- All contents are short, those that are not there as well. -/
theorem contents (modest : world.Modest) (data : Nat) :
    (world.machine.kernel.files.contents data).length < 2 ^ 63 := by
  rw [FileStore.contents, List.getD_eq_getElem?_getD]
  cases shared : world.machine.kernel.files.data[data]? with
  | none => exact (by decide : 0 < 2 ^ 63)
  | some contents => exact modest.short contents (List.mem_of_getElem? shared)

/-- The numbers of 32 bits suffice for the file store. -/
theorem fits (modest : world.Modest) :
    world.machine.kernel.files.Fits (heldLinks world.processes) :=
  .of_length_lt modest.indexed (by rw [heldLinks, List.length_map]; exact modest.few)

end Modest

variable [AddressSpace σ] [Console δ]

/-- The world after a process has called on some console, when `others` are parked. -/
def calledOn (world : World σ) (console : δ) (caller : UserProcess σ) (number : Nat)
    (args : Registers) (others : List (UserProcess σ)) : World σ :=
  world.proceed
    (world.machine.kernel.dispatchOn console world.machine.engine caller number args).1 others

/-- The worlds that runs reach on which every world is modest. Each call may find a console of its
own. -/
inductive ModestRun (engine : Engine σ) (config : Config) (console : ConsoleDevice) :
    World σ → Prop where
  /-- The machine was just switched on. -/
  | start (modest : Modest (⟨.new engine (.new config console), [], []⟩ : World σ)) :
    ModestRun engine config console ⟨.new engine (.new config console), [], []⟩
  /-- One more step. -/
  | step {world world' : World σ} {occurrence : Occurrence}
    (earlier : ModestRun engine config console world)
    (step : world.Step occurrence world') (modest : world'.Modest) :
    ModestRun engine config console world'
  /-- One more call, on a console that moves at most the length it is given. -/
  | call {world : World σ} {δ : Type} [Console δ] [LawfulConsole δ]
    {before after : List (UserProcess σ)} (earlier : ModestRun engine config console world)
    (own : δ) (caller : UserProcess σ) (listed : world.machine.parked = before ++ caller :: after)
    (number : Nat) (args : Registers)
    (modest : (world.calledOn own caller number args (before ++ after)).Modest) :
    ModestRun engine config console (world.calledOn own caller number args (before ++ after))

/-! ### Places for a status -/

/-- The place for the status that a process inside a join waits for is low. -/
def Placed (world : World σ) : Prop :=
  ∀ joiner ∈ world.joiners, ∀ pending, joiner.errand = .call pending →
    ∀ place, pending.status = some place → place.value < 2 ^ 31

omit [AddressSpace σ] in
/-- How far a process has got does not matter. -/
theorem Placed.rephase (placed : world.Placed) {before after : List (Joiner σ)}
    {joiner : Joiner σ} {phase : JoinPhase} (listed : world.joiners = before ++ joiner :: after)
    (changed : world'.joiners = before ++ { joiner with phase } :: after) : world'.Placed := by
  intro other member
  rcases (mem_joiners changed other).1 member with rfl | stayed
  · exact placed joiner ((mem_joiners listed joiner).2 (.inl rfl))
  · exact placed other ((mem_joiners listed other).2 (.inr stayed))

theorem Step.placed (step : world.Step occurrence world') (placed : world.Placed) :
    world'.Placed := by
  cases step with
  | boot | spawn | exit | abort | halt | deliver | permit | compute | console | equip =>
    exact placed
  | call caller listed number args =>
    unfold proceed
    split
    · exact placed
    · rename_i pending suspended
      have formed := (Kernel.asked?_eq_some_iff.1 (Kernel.asked?_of_suspended suspended)).2.2.2
      intro joiner member
      rcases List.mem_cons.1 member with rfl | stayed
      · intro waiting same
        cases same
        exact Request.low_of_joinArguments formed
      · exact placed joiner stayed
  | enter process listed live child =>
    intro joiner member
    rcases List.mem_cons.1 member with rfl | stayed
    · exact fun _ same => nomatch same
    · exact placed joiner stayed
  | ask joiner listed asking =>
    have members := mem_joiners listed
    unfold World.asked
    simp only
    split
    · intro other member
      rcases List.mem_cons.1 member with rfl | stayed
      · exact placed joiner ((members joiner).2 (.inl rfl))
      · exact placed other ((members other).2 (.inr stayed))
    · exact fun other member => placed other ((members other).2 (.inr member))
  | block joiner listed told without => exact placed.rephase listed rfl
  | rise joiner listed waits permitted => exact placed.rephase listed rfl

/-! ### What holds of every world on a modest run -/

/-- What holds of every world on a modest run. -/
structure Guarded (world : World σ) : Prop where
  /-- The world is orderly, whatever was logged. -/
  orderly : ∃ log, world.Orderly log
  /-- The place for the status of a join takes it. -/
  prepared : world.Prepared
  /-- It is low. -/
  placed : world.Placed
  /-- The store counts the handles, and the cursors are near. -/
  tracked : Tracked world.machine.kernel world.processes

namespace Guarded

theorem start (engine : Engine σ) (config : Config) (console : ConsoleDevice) :
    Guarded (⟨.new engine (.new config console), [], []⟩ : World σ) where
  orderly := ⟨[], .start engine config console⟩
  prepared _ member := nomatch member
  placed _ member := nomatch member
  tracked := .new config console

/-- Every step between modest worlds keeps all of it. -/
theorem step (guarded : world.Guarded) (step : world.Step occurrence world')
    (modest : world'.Modest) : world'.Guarded where
  orderly := by
    obtain ⟨log, orderly⟩ := guarded.orderly
    exact ⟨_, step.orderly orderly⟩
  prepared := step.prepared guarded.prepared
  placed := step.placed guarded.placed
  tracked := by
    obtain ⟨before, after, bystanders, old, act, new⟩ := step.act
    exact ((guarded.tracked.perm old).act act (modest.fits.perm (heldLinks_perm new))
      modest.contents).perm new.symm

/-- So does a turn that changes nothing but the memory of a parked process. -/
theorem remember (guarded : world.Guarded) {before after : List (UserProcess σ)}
    {caller : UserProcess σ} (listed : world.machine.parked = before ++ caller :: after)
    {turn : Turn σ} (changes : turn.ChangesMemory world.machine.kernel caller)
    (modest : (world.proceed turn (before ++ after)).Modest) :
    (world.proceed turn (before ++ after)).Guarded := by
  obtain ⟨memory, effects, completion, rfl⟩ := changes
  have processes : (world.proceed ⟨world.machine.kernel, { caller with memory }, effects, none,
        .finished completion⟩ (before ++ after)).processes =
      [{ caller with memory }] ++ ((before ++ after) ++ world.joiners.map Joiner.process) := rfl
  have old := perm_of_parked listed
  constructor
  case orderly =>
    obtain ⟨log, orderly⟩ := guarded.orderly
    refine ⟨log, orderly.rearrange rfl ?_ orderly.live fun joiner member waits => ?_⟩
    · rw [processes]
      exact (roster_perm old).symm
    · exact (orderly.awaited joiner member waits).imp_left
        (Or.imp_right (List.mem_append_left _))
  case prepared => exact guarded.prepared
  case placed => exact guarded.placed
  case tracked =>
    have act : world.machine.kernel.Act [caller] _ _ _ :=
      .compute [caller] caller.pid fun _ => memory
    have fits := modest.fits
    rw [processes] at fits ⊢
    rw [List.map_singleton, if_pos rfl] at act
    exact (guarded.tracked.perm old).act act fits modest.contents

/-- And so does every call, whatever console it finds. -/
theorem call (guarded : world.Guarded) {before after : List (UserProcess σ)}
    {caller : UserProcess σ} (listed : world.machine.parked = before ++ caller :: after)
    (console : δ) (number : Nat) (args : Registers)
    (modest : (world.calledOn console caller number args (before ++ after)).Modest) :
    (world.calledOn console caller number args (before ++ after)).Guarded := by
  unfold calledOn at modest ⊢
  rcases world.machine.kernel.dispatchOn_cases console world.machine.engine caller number args with
    same | changes
  · rw [same] at modest ⊢
    exact guarded.step (.call caller listed number args) modest
  · exact guarded.remember listed changes modest

end Guarded

theorem ModestRun.guarded (modestly : ModestRun engine config console world) :
    world.Guarded ∧ world.Modest := by
  induction modestly with
  | start modest => exact ⟨.start engine config console, modest⟩
  | step earlier step modest ih => exact ⟨ih.1.step step modest, modest⟩
  | call earlier own caller listed number args modest ih =>
    exact ⟨ih.1.call listed own number args modest, modest⟩

/-! ### Calls -/

/-- Nothing that a process can call for meets a hazard. -/
structure HazardFree (E : PagedMemory.Embedding σ) (world : World σ) : Prop where
  /-- The first turn of any call, by any process with any pages, whatever programs there are, and
  on any console that moves at most the length it is given: it does what it does without a hazard,
  if fewer than `2 ^ 32` handles are open afterwards. -/
  call : ∀ (caller : UserProcess σ) (others : List (UserProcess σ)),
    world.processes.Perm (caller :: others) → ∀ (memory : PagedMemory) {δ : Type} [Console δ]
      [LawfulConsole δ] (console : δ) (engine : Engine PagedMemory) (number : Nat)
      (args : Registers),
      (world.machine.kernel.dispatchOn console engine (caller.withPages memory) number
        args).1.caller.files.openCount + (openHandles others).length < 2 ^ 32 →
        world.machine.kernel.strictDispatch console engine (caller.withPages memory) number args =
          .ok (world.machine.kernel.dispatchOn console engine (caller.withPages memory) number args)
  /-- Each later turn of a join that waited. -/
  resumption : ∀ joiner ∈ world.joiners, ∀ (pending : PendingJoin) (memory : PagedMemory),
    joiner.errand = .call pending → joiner.process.memory = E.embed memory →
      world.machine.kernel.strictResume (joiner.process.withPages memory) pending =
        .ok (world.machine.kernel.resume (joiner.process.withPages memory) pending)
  /-- A name is looked up. -/
  lookup : ∀ name, world.machine.kernel.files.strictStat? name =
    .ok (world.machine.kernel.files.stat? name)

omit [AddressSpace σ] in
/-- All processes of a world with one parked process. -/
theorem perm_of_alone {caller : UserProcess σ}
    (listed : world.machine.parked = [caller] ∧ world.joiners = []) :
    world.processes.Perm [caller] := by
  rw [processes, listed.1, listed.2, List.map_nil, List.append_nil]

/-- A call by the only process that returns and starts nobody leaves it alone. -/
theorem ModestRun.call_alone [LawfulConsole δ] (modestly : ModestRun engine config console world)
    (own : δ) {caller : UserProcess σ}
    (listed : world.machine.parked = [caller] ∧ world.joiners = []) (call : Syscall)
    (args : Registers) {completion : Completion}
    (ends : (world.machine.kernel.dispatchOn own world.machine.engine caller call.number
      args).1.value = .finished completion)
    (alone : (world.machine.kernel.dispatchOn own world.machine.engine caller call.number
      args).1.child.isNone = true)
    (modest : (world.calledOn own caller call.number args []).Modest) :
    ModestRun engine config console (world.calledOn own caller call.number args []) ∧
      (world.calledOn own caller call.number args []).machine.parked =
        [(world.machine.kernel.dispatchOn own world.machine.engine caller call.number
          args).1.caller] ∧
      (world.calledOn own caller call.number args []).joiners = [] := by
  obtain ⟨parked, inside⟩ :=
    @proceed_of_ends _ world _ ⟨⟨_, ends⟩, Option.isNone_iff_eq_none.1 alone⟩ []
  have first : world.machine.parked = [] ++ caller :: [] := listed.1
  exact ⟨modestly.call own caller first call.number args modest, parked, inside.trans listed.2⟩

/-! ### An example -/

/-- A console whose limit changes with every call of it. -/
structure Throttled where
  /-- The input not yet read. -/
  input : Bytes
  /-- How many bytes the next calls may move; none when there is no more limit. -/
  limits : List Nat
  deriving DecidableEq

instance : Console Throttled where
  read console count :=
    let most := min count (console.limits.headD 0)
    (console.input.take most, ⟨console.input.drop most, console.limits.tail⟩)
  write console data :=
    (min data.length (console.limits.headD 0), ⟨console.input, console.limits.tail⟩)

instance : LawfulConsole Throttled where
  length_read_le _ _ := Nat.le_trans (List.length_take_le _ _) (Nat.min_le_left _ _)
  write_le _ _ := Nat.min_le_left _ _

/-- An engine whose programs have one page and do nothing. -/
def parking : Engine PagedMemory := ⟨fun _ => .ok (.ofPageCount 1), fun _ => .park⟩

end World

end SyscallKernel
