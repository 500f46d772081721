import SyscallKernel.Proofs.Kernel.ConsoleCalls
import SyscallKernel.Proofs.Kernel.Wiring
import SyscallKernel.Proofs.Machine.Atomicity

/-!
# Traffic on the console

What processes receive from the console, in the order of their calls, is what was pushed
into it, and what they send is what comes out: no byte is lost, repeated or moved past
another, whoever calls, wherever the buffers are and however little the device moves at
once. A call that is refused has no part in it.
-/

namespace SyscallKernel

variable {σ : Type}

/-- A round of a join leaves who asks wired. -/
theorem Errand.isWired_ask [AddressSpace σ] (kernel : Kernel) {caller : UserProcess σ}
    (wired : caller.IsWired) (errand : Errand) : (errand.ask kernel caller).caller.IsWired := by
  cases errand with
  | direct child => exact wired
  | call pending => exact (kernel.isWired_resume wired pending).caller

namespace World

/-- The queued input of the console. -/
def input (world : World σ) : Bytes := world.machine.kernel.console.buffer.input

/-- The captured output of the console. -/
def output (world : World σ) : Bytes := world.machine.kernel.console.buffer.output

/-- The world after bytes were pushed into the console. -/
def push (world : World σ) (data : Bytes) : World σ :=
  { world with
    machine :=
      { world.machine with
        kernel :=
          { world.machine.kernel with
            console :=
              { world.machine.kernel.console with
                buffer := world.machine.kernel.console.buffer.push data } } } }

/-- All processes of a world are wired to the console as long as they live. -/
def Wired (world : World σ) : Prop := ∀ process ∈ world.processes, process.IsWired

variable [AddressSpace σ] {world world' : World σ} {log : List Effect} {occurrence : Occurrence}

/-- The first turn of a call by a process. -/
def turn (world : World σ) (caller : UserProcess σ) (call : Syscall) (args : Registers) : Turn σ :=
  world.machine.kernel.dispatch world.machine.engine caller call.number args

/-! ### The console descriptors -/

omit [AddressSpace σ] in
/-- A world stays wired if the processes that take the place of others are. -/
theorem Wired.change (wired : world.Wired) {gone rest new : List (UserProcess σ)}
    (before : world.processes.Perm (gone ++ rest)) (isWired : ∀ process ∈ new, process.IsWired)
    (after : world'.processes.Perm (new ++ rest)) : world'.Wired := by
  intro process member
  rcases List.mem_append.1 (after.mem_iff.1 member) with fresh | kept
  · exact isWired process fresh
  · exact wired process (before.mem_iff.2 (List.mem_append_right _ kept))

omit [AddressSpace σ] in
theorem Wired.perm (wired : world.Wired) (same : world'.processes.Perm world.processes) :
    world'.Wired := fun process member => wired process (same.mem_iff.1 member)

omit [AddressSpace σ] in
theorem Wired.launch (wired : world.Wired)
    {reaction : Reaction (Except SysError (UserProcess σ))}
    (started : ∀ process, reaction.value = .ok process → process.IsWired) :
    (world.launch reaction).Wired := by
  have none : world.processes.Perm ([] ++ world.processes) := .refl _
  refine wired.change none ?_ (.of_eq (List.append_assoc _ _ _))
  intro process member
  cases launched : reaction.value with
  | error error =>
    rw [launched] at member
    cases member
  | ok process' =>
    rw [launched] at member
    cases List.mem_singleton.1 member
    exact started _ launched

/-- Every step leaves all processes wired. -/
theorem Step.wired (step : world.Step occurrence world') (wired : world.Wired) : world'.Wired := by
  cases step with
  | boot program args => exact wired.launch fun _ => Kernel.isWired_boot
  | spawn parent image => exact wired.launch fun _ => Kernel.isWired_spawn
  | @call before after caller listed number args =>
    have apart := perm_of_parked listed
    have turn := Kernel.isWired_dispatch world.machine.engine world.machine.kernel
      (wired caller (apart.mem_iff.2 List.mem_cons_self)) number args
    refine wired.change apart turn.forall_mem ?_
    -- The caller goes back to the parked processes, or inside a join if it has to wait.
    unfold proceed
    split
    · refine .of_eq ?_
      simp only [processes, react, List.cons_append, List.append_assoc]
    · refine List.perm_middle.trans (.of_eq ?_)
      simp only [react, List.cons_append, List.append_assoc]
  | exit process listed status =>
    have apart := perm_of_parked listed
    have ended := world.machine.kernel.isWired_terminate
      (wired process (apart.mem_iff.2 List.mem_cons_self)) (.exited status)
    exact wired.change apart (List.forall_mem_singleton.2 ended) (.refl _)
  | abort process listed fault =>
    have apart := perm_of_parked listed
    have ended := world.machine.kernel.isWired_terminate
      (wired process (apart.mem_iff.2 List.mem_cons_self)) .killed
    exact wired.change apart (List.forall_mem_singleton.2 ended) (.refl _)
  | ask joiner listed asking =>
    have apart := perm_of_joiners listed
    have asked := Errand.isWired_ask world.machine.kernel
      (wired joiner.process (apart.mem_iff.2 List.mem_cons_self)) joiner.errand
    refine wired.change apart (List.forall_mem_singleton.2 asked) ?_
    unfold World.asked
    simp only
    split
    · exact List.perm_middle
    · exact .refl _
  | @enter before after process listed live child =>
    exact wired.perm (List.perm_middle.trans (perm_of_parked listed).symm)
  | block joiner listed told without =>
    refine wired.perm (.of_eq ?_)
    simp only [processes, listed, List.map_append, List.map_cons]
  | rise joiner listed waits permitted =>
    refine wired.perm (.of_eq ?_)
    simp only [processes, listed, List.map_append, List.map_cons]
    rfl
  | compute pid change =>
    intro process member
    rcases List.mem_append.1 member with parked | joining
    · obtain ⟨process', member', rfl⟩ := List.mem_map.1 parked
      have wired := wired process' (List.mem_append_left _ member')
      split
      · exact wired.with_memory _
      · exact wired
    · exact wired process (List.mem_append_right _ joining)
  | halt | deliver | permit | console | equip => exact wired

/-- In every world all processes are wired. -/
theorem Run.wired {engine : Engine σ} {config : Config} {console : ConsoleDevice}
    (run : Run engine config console log world) : world.Wired := by
  induction run with
  | start => exact fun _ member => nomatch member
  | step earlier step ih => exact step.wired ih

/-! ### Traffic -/

/-- The bytes that passed the console, in the order in which they did. -/
structure Ledger where
  /-- The bytes that were pushed into it. -/
  pushed : Bytes
  /-- The bytes that the reads stored, each at the start of its buffer and as many as it
  returned. -/
  received : Bytes
  /-- The bytes at the start of the buffers of the writes, as many as each returned. -/
  sent : Bytes
  deriving DecidableEq

/-- What can follow on a world as far as the console goes. Processes with paged memory read
its input and write its output, bytes are pushed into it, and whatever else happens leaves
it alone. -/
inductive Traffic (E : PagedMemory.Embedding σ) (world : World σ) : Ledger → World σ → Prop where
  /-- Nothing has followed yet. -/
  | quiet : Traffic E world ⟨[], [], []⟩ world
  /-- Bytes are pushed into the console. -/
  | push {ledger : Ledger} {world' : World σ} (earlier : Traffic E world ledger world')
    (data : Bytes) :
    Traffic E world { ledger with pushed := ledger.pushed ++ data } (world'.push data)
  /-- A process calls to read descriptor 0. -/
  | read {ledger : Ledger} {world' : World σ} (earlier : Traffic E world ledger world')
    {before after : List (UserProcess σ)} (caller : UserProcess σ)
    (listed : world'.machine.parked = before ++ caller :: after) {memory : PagedMemory}
    (paged : caller.memory = E.embed memory) (args : Registers) (input : args.a0 = 0) :
    Traffic E world
      { ledger with
        received := ledger.received ++
          (world'.turn caller .read args).moved (world'.turn caller .read args).caller.memory
            args.a1 }
      (world'.proceed (world'.turn caller .read args) (before ++ after))
  /-- A process calls to write descriptor 1. -/
  | write {ledger : Ledger} {world' : World σ} (earlier : Traffic E world ledger world')
    {before after : List (UserProcess σ)} (caller : UserProcess σ)
    (listed : world'.machine.parked = before ++ caller :: after) {memory : PagedMemory}
    (paged : caller.memory = E.embed memory) (args : Registers) (output : args.a0 = 1) :
    Traffic E world
      { ledger with
        sent := ledger.sent ++ (world'.turn caller .write args).moved caller.memory args.a1 }
      (world'.proceed (world'.turn caller .write args) (before ++ after))
  /-- Something else happens that leaves the console alone. -/
  | rest {ledger : Ledger} {world' world'' : World σ} {occurrence : Occurrence}
    (earlier : Traffic E world ledger world') (step : world'.Step occurrence world'')
    (same : world''.machine.kernel.console = world'.machine.kernel.console) :
    Traffic E world ledger world''

variable {E : PagedMemory.Embedding σ} {ledger : Ledger}

/-- Traffic consists of steps, so it leaves all processes wired. -/
theorem Traffic.wired (traffic : world.Traffic E ledger world') (wired : world.Wired) :
    world'.Wired := by
  induction traffic with
  | quiet => exact wired
  | push earlier data ih => exact (Step.console _).wired ih
  | read earlier caller listed paged args input ih =>
    exact (Step.call caller listed Syscall.read.number args).wired ih
  | write earlier caller listed paged args output ih =>
    exact (Step.call caller listed Syscall.write.number args).wired ih
  | rest earlier step same ih => exact step.wired ih

omit [AddressSpace σ] in
/-- After the first turn of a call the kernel is the one that the turn leaves. -/
theorem kernel_proceed (world : World σ) (turn : Turn σ) (others : List (UserProcess σ)) :
    (world.proceed turn others).machine.kernel = turn.kernel := by
  unfold proceed
  split <;> rfl

/-- A call of a wired process that reads the console. -/
theorem Wired.transfers_read (wired : world.Wired) {caller : UserProcess σ}
    (member : caller ∈ world.machine.parked) {memory : PagedMemory}
    (paged : caller.memory = E.embed memory) {args : Registers} (input : args.a0 = 0) :
    (world.turn caller .read args).Transfers world.machine.kernel caller args .write
      fun wanted turn => turn.Receives E world.machine.kernel caller memory args
        (world.machine.kernel.console.supply wanted) :=
  Kernel.transfers_dispatch_read _ paged
    (fun live => (wired caller (List.mem_append_left _ member) live).stdin) input

/-- A call of a wired process that writes the console. -/
theorem Wired.transfers_write (wired : world.Wired) {caller : UserProcess σ}
    (member : caller ∈ world.machine.parked) {memory : PagedMemory}
    (paged : caller.memory = E.embed memory) {args : Registers} (output : args.a0 = 1) :
    (world.turn caller .write args).Transfers world.machine.kernel caller args .read
      fun wanted turn => ∃ data,
        data.length = ConsoleDevice.reach world.machine.kernel.console.writeLimit wanted ∧
          turn.Sends world.machine.kernel caller memory args data :=
  Kernel.transfers_dispatch_write _ paged
    (fun live => (wired caller (List.mem_append_left _ member) live).stdout) output

/-- What was received, followed by what is queued, is what was queued at first, followed by
what was pushed; and what was captured at first, followed by what was sent, is captured. -/
theorem Traffic.flow (traffic : world.Traffic E ledger world') (wired : world.Wired) :
    ledger.received ++ world'.input = world.input ++ ledger.pushed ∧
      world'.output = world.output ++ ledger.sent := by
  induction traffic with
  | quiet => exact ⟨(List.append_nil _).symm, (List.append_nil _).symm⟩
  | push earlier data ih =>
    obtain ⟨queued, captured⟩ := ih
    refine ⟨?_, captured⟩
    rw [← List.append_assoc, ← queued, List.append_assoc]
    rfl
  | read earlier caller listed paged args input ih =>
    obtain ⟨queued, captured⟩ := ih
    have member : caller ∈ _ := listed ▸ List.mem_append_right _ List.mem_cons_self
    obtain ⟨taken, kept⟩ := ((earlier.wired wired).transfers_read member paged input).received
    rw [World.input, World.output, kernel_proceed]
    refine ⟨?_, kept.trans captured⟩
    rw [← queued, List.append_assoc, taken]
    rfl
  | write earlier caller listed paged args output ih =>
    obtain ⟨queued, captured⟩ := ih
    have member : caller ∈ _ := listed ▸ List.mem_append_right _ List.mem_cons_self
    obtain ⟨added, kept⟩ := ((earlier.wired wired).transfers_write member paged output).sent paged
    rw [World.input, World.output, kernel_proceed, kept, added, ← List.append_assoc, ← captured]
    exact ⟨queued, rfl⟩
  | rest earlier step same ih =>
    rw [World.input, World.output, same]
    exact ih

omit [AddressSpace σ] in
/-- A turn that ends its call and starts nobody changes its caller alone. -/
theorem proceed_of_ends {turn : Turn σ}
    (ends : (∃ completion, turn.value = .finished completion) ∧ turn.child = none)
    (others : List (UserProcess σ)) :
    (world.proceed turn others).machine.parked = turn.caller :: others ∧
      (world.proceed turn others).joiners = world.joiners := by
  obtain ⟨⟨completion, value⟩, alone⟩ := ends
  simp only [proceed, value, alone]
  exact ⟨rfl, rfl⟩

/-- A call that returns and starts nobody gives its caller back among the parked processes. -/
theorem Run.call_returns {engine : Engine σ} {config : Config} {console : ConsoleDevice}
    (run : Run engine config console log world) (before after : List (UserProcess σ))
    {caller : UserProcess σ} {inside : List (Joiner σ)}
    (listed : world.machine.parked = before ++ caller :: after ∧ world.joiners = inside)
    (call : Syscall) (args : Registers) {completion : Completion}
    (ends : (world.turn caller call args).value = .finished completion)
    (alone : (world.turn caller call args).child.isNone = true) :
    ∃ log', Run engine config console log'
        (world.proceed (world.turn caller call args) (before ++ after)) ∧
      (world.proceed (world.turn caller call args) (before ++ after)).machine.parked =
        (world.turn caller call args).caller :: (before ++ after) ∧
      (world.proceed (world.turn caller call args) (before ++ after)).joiners = inside := by
  obtain ⟨parked, same⟩ := @proceed_of_ends _ world _
    ⟨⟨_, ends⟩, Option.isNone_iff_eq_none.1 alone⟩ (before ++ after)
  exact ⟨_, run.step (.call caller listed.1 call.number args), parked, same.trans listed.2⟩

/-- What traffic on the console has to keep to. -/
structure Lossless (E : PagedMemory.Embedding σ) (world : World σ) (ledger : Ledger)
    (world' : World σ) : Prop where
  /-- What was received and what is queued make up what was queued and what was pushed. -/
  input : ledger.received ++ world'.input = world.input ++ ledger.pushed
  /-- What was sent, and nothing else, has come out. -/
  output : world'.output = world.output ++ ledger.sent
  /-- The next call to read descriptor 0, by any process and with any registers, returns how
  many bytes of the input it took and laid over its buffer, and otherwise does nothing. -/
  reads : ∀ caller ∈ world'.machine.parked, ∀ memory, caller.memory = E.embed memory →
    ∀ args : Registers, args.a0 = 0 →
      (world'.turn caller .read args).Transfers world'.machine.kernel caller args .write
        fun wanted turn => turn.Receives E world'.machine.kernel caller memory args
          (world'.machine.kernel.console.supply wanted)
  /-- The next call to write descriptor 1, by any process and with any registers, returns how
  many bytes of its buffer it added to the output, and otherwise does nothing. -/
  writes : ∀ caller ∈ world'.machine.parked, ∀ memory, caller.memory = E.embed memory →
    ∀ args : Registers, args.a0 = 1 →
      (world'.turn caller .write args).Transfers world'.machine.kernel caller args .read
        fun wanted turn => ∃ data,
          data.length = ConsoleDevice.reach world'.machine.kernel.console.writeLimit wanted ∧
            turn.Sends world'.machine.kernel caller memory args data
  /-- Neither of them changes any other process. -/
  others : ∀ before caller after, world'.machine.parked = before ++ caller :: after →
    ∀ memory, caller.memory = E.embed memory → ∀ (call : Syscall) (args : Registers),
      call = .read ∧ args.a0 = 0 ∨ call = .write ∧ args.a0 = 1 →
        (world'.proceed (world'.turn caller call args) (before ++ after)).machine.parked =
            (world'.turn caller call args).caller :: (before ++ after) ∧
          (world'.proceed (world'.turn caller call args) (before ++ after)).joiners =
            world'.joiners

/-- Traffic on the console of any world that a run reaches loses, repeats and reorders
nothing. -/
theorem Run.lossless {engine : Engine σ} {config : Config} {console : ConsoleDevice}
    (run : Run engine config console log world) (traffic : world.Traffic E ledger world') :
    world.Lossless E ledger world' := by
  obtain ⟨queued, captured⟩ := traffic.flow run.wired
  have wired := traffic.wired run.wired
  constructor
  case input => exact queued
  case output => exact captured
  case reads => exact fun caller member memory paged args => wired.transfers_read member paged
  case writes => exact fun caller member memory paged args => wired.transfers_write member paged
  case others =>
    intro before caller after listed memory paged call args which
    have member : caller ∈ world'.machine.parked :=
      listed ▸ List.mem_append_right _ List.mem_cons_self
    refine proceed_of_ends ?_ (before ++ after)
    rcases which with ⟨rfl, input⟩ | ⟨rfl, output⟩
    · exact (wired.transfers_read member paged input).ends fun _ done =>
        ⟨⟨_, done.counts⟩, done.child_eq⟩
    · refine (wired.transfers_write member paged output).ends ?_
      rintro wanted ⟨data, -, done⟩
      exact ⟨⟨data, done.counts⟩, done.child_eq⟩

/-- A console that hands out two bytes at once and takes three. -/
def narrow : ConsoleDevice := ⟨.empty, some 2, some 3⟩

/-- A process that has one page of memory, with a narrow console. -/
def lonely : World ImageMemory :=
  launch ⟨.new paging (.new {} narrow), [], []⟩ (Kernel.spawn paging (.new {} narrow) none idler)

/-- A process asks for three bytes of input and gets two. It is refused a buffer that runs
past the end of its page, and writes back what it got. -/
theorem lossless_through_narrow_console :
    ∃ log, Run paging {} narrow log lonely ∧ ∃ ledger world', lonely.Traffic .image ledger world' ∧
      lonely.Lossless .image ledger world' ∧
        ledger = ⟨[104, 105, 33], [104, 105], [104, 105]⟩ ∧ world'.input = [33] := by
  have switchedOn : Run paging {} narrow [] _ := .start
  have rooted : Run paging {} narrow _ lonely := switchedOn.step (.spawn none idler)
  have nothing : Traffic .image lonely _ _ := .quiet
  have pushed := nothing.push [104, 105, 33]
  have received := pushed.read _ (rfl : _ = [] ++ _ :: []) rfl ⟨0, 16, 3, 0⟩ rfl
  have listed : _ = [] ++ _ :: [] :=
    ((rooted.lossless pushed).others [] _ [] rfl _ rfl .read ⟨0, 16, 3, 0⟩ (.inl ⟨rfl, rfl⟩)).1
  have refused :=
    received.read _ listed (ImageMemory.eq_embed (by decide +kernel)) ⟨0, 1022, 3, 0⟩ rfl
  have relisted : _ = [] ++ _ :: [] :=
    ((rooted.lossless received).others [] _ [] listed _
      (ImageMemory.eq_embed (by decide +kernel)) .read ⟨0, 1022, 3, 0⟩ (.inl ⟨rfl, rfl⟩)).1
  have sent :=
    refused.write _ relisted (ImageMemory.eq_embed (by decide +kernel)) ⟨1, 16, 2, 0⟩ rfl
  refine ⟨_, rooted, _, _, sent, rooted.lossless sent, ?_, ?_⟩
  · decide +kernel
  · decide +kernel

end World

end SyscallKernel
