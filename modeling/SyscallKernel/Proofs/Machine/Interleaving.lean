import SyscallKernel.Proofs.Kernel.Turns
import SyscallKernel.Proofs.Machine.Runs

/-!
# Interleaved processes

Processes are sequential: a process that is inside a join does nothing else. It asks
for its child, blocks if it was told to wait, and asks again once it has used a permit.
Asking, blocking, waking and the arrival of a wake-up are steps of their own, between
which other processes run; a wake-up that was sent is under way until it arrives, in any
order, and leaves a permit. Permits may also come from elsewhere.
-/

namespace SyscallKernel

variable {σ : Type}

/-- What a process is inside a join for. -/
inductive Errand where
  /-- It asks for the child itself. -/
  | direct (child : Pid)
  /-- A call asks for the child in its name. -/
  | call (pending : PendingJoin)

/-- The child that is asked for. -/
def Errand.child : Errand → Pid
  | direct child => child
  | call pending => pending.child

/-- How far a process has got in its round of a join. -/
inductive JoinPhase where
  /-- It is about to ask for its child. -/
  | asking
  /-- It was told to wait and is about to block. -/
  | told
  /-- It is blocked. -/
  | suspended
  deriving DecidableEq

/-- A process inside a join. -/
structure Joiner (σ : Type) where
  /-- The process. -/
  process : UserProcess σ
  /-- What it is there for. -/
  errand : Errand
  /-- How far it has got. -/
  phase : JoinPhase

/-- The return of a join. -/
structure JoinEnd where
  /-- The process that asked. -/
  parent : Pid
  /-- The process that it asked for. -/
  child : Pid
  /-- What the join returned. -/
  result : Except SysError Termination

/-- What can be seen of a step. -/
structure Occurrence where
  /-- What happened outside the kernel's tables, in order. -/
  effects : List Effect
  /-- The join that returned, if one did. -/
  ended : Option JoinEnd

/-- A machine with processes inside joins, and the wake-ups that are under way. The
processes inside joins are not parked. -/
structure World (σ : Type) where
  /-- The machine, with the permits that have arrived. -/
  machine : Machine σ
  /-- The processes inside joins. -/
  joiners : List (Joiner σ)
  /-- The processes that a wake-up is under way to. -/
  wakes : List Pid

/-- How a join returns if it asks for its child now; nothing if it is told to wait. -/
def Kernel.joinEnd? (kernel : Kernel) (parent child : Pid) : Option JoinEnd :=
  match (kernel.pollJoin parent child).value with
  | .error error => some ⟨parent, child, .error error⟩
  | .ok (.ready how) => some ⟨parent, child, .ok how⟩
  | .ok .pending => none

/-- How the join in a call returns if it asks for its child at once. -/
def Kernel.callEnd? [AddressSpace σ] (kernel : Kernel) (caller : UserProcess σ) (number : Nat)
    (args : Registers) : Option JoinEnd :=
  (kernel.asked? caller number args).bind fun pending => kernel.joinEnd? caller.pid pending.child

/-- One round of a join: the child is asked for once. The value says whether the
process has to wait. -/
def Errand.ask [AddressSpace σ] (kernel : Kernel) (caller : UserProcess σ) : Errand → Step σ Bool
  | direct child =>
    let polled := kernel.pollJoin caller.pid child
    { polled.toStep caller with
      value :=
        match polled.value with
        | .ok .pending => true
        | _ => false }
  | call pending =>
    let turn := kernel.resume caller pending
    { turn with
      value :=
        match turn.value with
        | .suspended _ => true
        | .finished _ => false }

namespace World

/-- All processes that were ever started. -/
def processes (world : World σ) : List (UserProcess σ) :=
  world.machine.parked ++ world.joiners.map Joiner.process

/-- A wake-up has arrived at a process or is under way to it. -/
def Notified (world : World σ) (pid : Pid) : Prop :=
  world.machine.hasPermit pid = true ∨ pid ∈ world.wakes

instance (world : World σ) (pid : Pid) : Decidable (world.Notified pid) :=
  inferInstanceAs (Decidable (_ ∨ _))

/-- A process is blocked in a join. -/
def Suspended (world : World σ) (parent child : Pid) : Prop :=
  ∃ joiner ∈ world.joiners, joiner.process.pid = parent ∧ joiner.errand.child = child ∧
    joiner.phase = .suspended

/-- The world after the kernel has moved on: its wake-ups are under way. -/
def react (world : World σ) (kernel : Kernel) (effects : List Effect)
    (parked : List (UserProcess σ)) (joiners : List (Joiner σ)) : World σ where
  machine := { world.machine with kernel, parked }
  joiners := joiners
  wakes := world.wakes ++ effects.filterMap Effect.wake?

/-- The world after an attempt to start a process. -/
def launch (world : World σ) (reaction : Reaction (Except SysError (UserProcess σ))) : World σ :=
  world.react reaction.kernel reaction.effects
    (reaction.value.toOption.toList ++ world.machine.parked) world.joiners

/-- The world after the first turn of a call, when `others` are parked. -/
def proceed (world : World σ) (turn : Turn σ) (others : List (UserProcess σ)) : World σ :=
  match turn.value with
  | .finished _ =>
    world.react turn.kernel turn.effects (turn.caller :: (turn.child.toList ++ others)) world.joiners
  | .suspended pending =>
    world.react turn.kernel turn.effects (turn.child.toList ++ others)
      (⟨turn.caller, .call pending, .told⟩ :: world.joiners)

/-- The world after a process inside a join has asked for its child, when `others` are
inside joins as well. -/
def asked [AddressSpace σ] (world : World σ) (joiner : Joiner σ) (others : List (Joiner σ)) :
    World σ :=
  let step := joiner.errand.ask world.machine.kernel joiner.process
  if step.value then
    world.react step.kernel step.effects world.machine.parked
      (⟨step.caller, joiner.errand, .told⟩ :: others)
  else world.react step.kernel step.effects (step.caller :: world.machine.parked) others

variable [AddressSpace σ]

/-- What can happen next, and what can be seen of it. -/
inductive Step (world : World σ) : Occurrence → World σ → Prop where
  /-- The root process is started. -/
  | boot (program : Bytes) (args : List Bytes) :
    Step world ⟨(world.machine.kernel.boot world.machine.engine program args).effects, none⟩
      (world.launch (world.machine.kernel.boot world.machine.engine program args))
  /-- A program is started. -/
  | spawn (parent : Option Pid) (image : ProgramImage) :
    Step world ⟨(world.machine.kernel.spawn world.machine.engine parent image).effects, none⟩
      (world.launch (world.machine.kernel.spawn world.machine.engine parent image))
  /-- A process makes a call. -/
  | call {before after : List (UserProcess σ)} (caller : UserProcess σ)
    (listed : world.machine.parked = before ++ caller :: after) (number : Nat) (args : Registers) :
    Step world
      ⟨(world.machine.kernel.dispatch world.machine.engine caller number args).effects,
        world.machine.kernel.callEnd? caller number args⟩
      (world.proceed (world.machine.kernel.dispatch world.machine.engine caller number args)
        (before ++ after))
  /-- A process exits. -/
  | exit {before after : List (UserProcess σ)} (process : UserProcess σ)
    (listed : world.machine.parked = before ++ process :: after) (status : Register) :
    Step world ⟨(world.machine.kernel.exit process status).effects, none⟩
      (world.react (world.machine.kernel.exit process status).kernel
        (world.machine.kernel.exit process status).effects
        ((world.machine.kernel.exit process status).value :: (before ++ after)) world.joiners)
  /-- A process is killed for a fault. -/
  | abort {before after : List (UserProcess σ)} (process : UserProcess σ)
    (listed : world.machine.parked = before ++ process :: after) (fault : Fault) :
    Step world ⟨(world.machine.kernel.abort process fault).effects, none⟩
      (world.react (world.machine.kernel.abort process fault).kernel
        (world.machine.kernel.abort process fault).effects
        ((world.machine.kernel.abort process fault).value :: (before ++ after)) world.joiners)
  /-- The machine is to halt in the name of a process. -/
  | halt (pid : Pid) :
    Step world ⟨(world.machine.kernel.halt pid).effects, none⟩
      (world.react (world.machine.kernel.halt pid).kernel (world.machine.kernel.halt pid).effects
        world.machine.parked world.joiners)
  /-- A process enters a join of its own. -/
  | enter {before after : List (UserProcess σ)} (process : UserProcess σ)
    (listed : world.machine.parked = before ++ process :: after)
    (live : process.terminated = false) (child : Pid) :
    Step world ⟨[], none⟩
      { world with
        machine := { world.machine with parked := before ++ after }
        joiners := ⟨process, .direct child, .asking⟩ :: world.joiners }
  /-- A process inside a join asks for its child. -/
  | ask {before after : List (Joiner σ)} (joiner : Joiner σ)
    (listed : world.joiners = before ++ joiner :: after) (asking : joiner.phase = .asking) :
    Step world
      ⟨(joiner.errand.ask world.machine.kernel joiner.process).effects,
        world.machine.kernel.joinEnd? joiner.process.pid joiner.errand.child⟩
      (world.asked joiner (before ++ after))
  /-- A process that was told to wait blocks, for it has no permit. -/
  | block {before after : List (Joiner σ)} (joiner : Joiner σ)
    (listed : world.joiners = before ++ joiner :: after) (told : joiner.phase = .told)
    (without : world.machine.hasPermit joiner.process.pid = false) :
    Step world ⟨[], none⟩
      { world with joiners := before ++ { joiner with phase := .suspended } :: after }
  /-- A process that was told to wait, blocked or not, uses its permit to ask again. -/
  | rise {before after : List (Joiner σ)} (joiner : Joiner σ)
    (listed : world.joiners = before ++ joiner :: after) (waits : joiner.phase ≠ .asking)
    (permitted : world.machine.hasPermit joiner.process.pid = true) :
    Step world ⟨[], none⟩
      { world with
        machine := world.machine.consume joiner.process.pid
        joiners := before ++ { joiner with phase := .asking } :: after }
  /-- A wake-up arrives. -/
  | deliver {before after : List Pid} (pid : Pid) (listed : world.wakes = before ++ pid :: after) :
    Step world ⟨[], none⟩
      { world with machine := world.machine.permit pid, wakes := before ++ after }
  /-- A permit comes from elsewhere. -/
  | permit (pid : Pid) :
    Step world ⟨[], none⟩ { world with machine := world.machine.permit pid }
  /-- A process computes in its own memory. -/
  | compute (pid : Pid) (change : σ → σ) :
    Step world ⟨[], none⟩ { world with machine := world.machine.compute pid change }
  /-- The console is used from outside. -/
  | console (console : ConsoleDevice) :
    Step world ⟨[], none⟩
      { world with
        machine := { world.machine with kernel := { world.machine.kernel with console } } }
  /-- The engine comes to run other programs. -/
  | equip (engine : Engine σ) :
    Step world ⟨[], none⟩ { world with machine := { world.machine with engine } }

/-- The runs of a world, with their logs. -/
inductive Run (engine : Engine σ) (config : Config) (console : ConsoleDevice) :
    List Effect → World σ → Prop where
  /-- The machine was just switched on. -/
  | start : Run engine config console [] ⟨.new engine (.new config console), [], []⟩
  /-- One more step. -/
  | step {log : List Effect} {world world' : World σ} {occurrence : Occurrence}
    (earlier : Run engine config console log world) (step : world.Step occurrence world') :
    Run engine config console (log ++ occurrence.effects) world'

end World

end SyscallKernel
