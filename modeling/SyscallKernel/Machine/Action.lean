import SyscallKernel.Machine.State

/-!
# Actions on a machine

What can be done to a machine from outside: starting programs, letting a process
make a call, ending or inspecting it, and asking the kernel's tables and console.
An action is tried once; one that has to wait says so, and can be tried again
when its process has been woken.
-/

namespace SyscallKernel

/-- An action on a machine. -/
inductive Action where
  /-- Start the root process. -/
  | boot (program : Bytes) (args : List Bytes)
  /-- Start a program as a child of `parent`. -/
  | spawn (parent : Option Pid) (program : Bytes) (args : List Bytes)
  /-- Let a process make a call, after some bytes were stored in its memory; read
  some memory back when the call is over. -/
  | call (pid : Pid) (number : Nat) (args : Registers) (stores : List (UserAddr × Bytes))
    (readBack : Option (UserAddr × Nat))
  /-- End a process with a status. -/
  | exit (pid : Pid) (status : Register)
  /-- Kill a process for a fault. -/
  | abort (pid : Pid) (fault : Fault)
  /-- Look at a process. -/
  | inspect (pid : Pid)
  /-- Join a child in the name of its parent. -/
  | join (caller child : Pid)
  /-- Halt the machine in the name of a process. -/
  | halt (pid : Pid)
  /-- Ask for a child once. -/
  | pollJoin (caller child : Pid)
  /-- Record a termination in the process table only. -/
  | recordTermination (pid : Pid) (how : Termination)
  /-- Look at a process record. -/
  | lookUp (pid : Pid)
  /-- Look at a file. -/
  | file (name : Bytes)
  /-- Queue console input. -/
  | pushInput (data : Bytes)
  /-- Take the captured console output. -/
  | takeOutput
  /-- Write to the console. -/
  | print (data : Bytes)
  /-- Compare the limits of the kernel with others. -/
  | compareConfig (config : Config)

/-- The answer to an action; `σ` is the type of user memory. -/
inductive Answer (σ : Type) where
  /-- Nothing to say. -/
  | done
  /-- The pid of a new process. -/
  | started (pid : Pid)
  /-- The end of a call, and the memory read back. -/
  | completed (completion : Completion) (readBack : Option (Except Fault Bytes))
  /-- A child was joined. -/
  | joined (how : Termination)
  /-- The answer to one attempt to join. -/
  | polled (poll : JoinPoll)
  /-- The news of a termination, unless the process was not running. -/
  | recorded (news : Option TerminationNews)
  /-- A process. -/
  | process (process : UserProcess σ)
  /-- State, parent and role of a process. -/
  | record (state : Option ProcessState) (parent : Option Pid) (isRoot : Bool)
  /-- A file, and whether its name is linked. -/
  | file (stat : Option FileStat) (isLinked : Bool)
  /-- A truth value. -/
  | flag (value : Bool)
  /-- A count. -/
  | count (n : Nat)
  /-- Bytes. -/
  | bytes (data : Bytes)
  /-- The action failed. -/
  | refused (error : SysError)
  /-- A store in user memory faulted. -/
  | faulted (fault : Fault)
  /-- The process is not parked. -/
  | noProcess
  /-- The action waits and nobody is left who could wake it. -/
  | deadlock

/-- An action that waits for a child to terminate. -/
inductive Waiting (σ : Type) where
  /-- A join in the name of a parent. -/
  | join (caller child : Pid)
  /-- A call of a process, and the memory to read back at its end. -/
  | call (caller : UserProcess σ) (join : PendingJoin) (readBack : Option (UserAddr × Nat))

/-- Where an action stands. -/
inductive Stage (σ : Type) where
  /-- It is over. -/
  | done (answer : Answer σ)
  /-- It waits. -/
  | waiting (what : Waiting σ)

/-- A machine after an action was tried, with the effects of the attempt. -/
structure Attempt (σ : Type) where
  /-- The machine afterwards. -/
  machine : Machine σ
  /-- What happened outside the kernel's tables, in order. -/
  effects : List Effect
  /-- Where the action stands. -/
  stage : Stage σ

/-- The process that waits. -/
def Waiting.pid {σ : Type} : Waiting σ → Pid
  | join caller _ => caller
  | call caller _ _ => caller.pid

namespace Machine

variable {σ : Type}

/-- An attempt that is over and left the machine as it is. -/
def reply (machine : Machine σ) (answer : Answer σ) : Attempt σ := ⟨machine, [], .done answer⟩

/-- An attempt that is over after the kernel reacted. -/
def react {α : Type} (machine : Machine σ) (reaction : Reaction α) (answer : α → Answer σ) :
    Attempt σ :=
  ⟨machine.absorb reaction.kernel reaction.effects, reaction.effects,
    .done (answer reaction.value)⟩

/-- The answer for a value or an error. -/
def answerOf {α : Type} (answer : α → Answer σ) : Except SysError α → Answer σ
  | .ok value => answer value
  | .error error => .refused error

/-- Does something with a process taken out of the parked ones. -/
def withProcess (machine : Machine σ) (pid : Pid)
    (use : Machine σ → UserProcess σ → Attempt σ) : Attempt σ :=
  match machine.find? pid with
  | none => machine.reply .noProcess
  | some process => use (machine.unpark pid) process

/-- Parks a process that the kernel has started. -/
def launch (machine : Machine σ) (reaction : Reaction (Except SysError (UserProcess σ))) :
    Attempt σ :=
  let absorbed := machine.absorb reaction.kernel reaction.effects
  match reaction.value with
  | .error error => ⟨absorbed, reaction.effects, .done (.refused error)⟩
  | .ok process => ⟨absorbed.park process, reaction.effects, .done (.started process.pid)⟩

/-- Ends a process and parks it again. -/
def finish (machine : Machine σ) (reaction : Reaction (UserProcess σ)) : Attempt σ :=
  ⟨(machine.absorb reaction.kernel reaction.effects).park reaction.value, reaction.effects,
    .done (.flag reaction.value.terminated)⟩

/-- One attempt at a join in the name of a parent. -/
def tryJoin (machine : Machine σ) (caller child : Pid) : Attempt σ :=
  let polled := machine.kernel.pollJoin caller child
  ⟨machine.absorb polled.kernel polled.effects, polled.effects,
    match polled.value with
    | .error error => .done (.refused error)
    | .ok (.ready how) => .done (.joined how)
    | .ok .pending => .waiting (.join caller child)⟩

variable [AddressSpace σ]

/-- The machine after a turn of a call. A caller whose call is over is parked. -/
def afterTurn (machine : Machine σ) (turn : Turn σ) (readBack : Option (UserAddr × Nat)) :
    Attempt σ :=
  let absorbed := machine.absorb turn.kernel turn.effects
  let grown := turn.child.elim absorbed absorbed.park
  match turn.value with
  | .finished completion =>
    let memory := readBack.map fun (addr, len) =>
      AddressSpace.readBytes turn.caller.memory addr len
    ⟨grown.park turn.caller, turn.effects, .done (.completed completion memory)⟩
  | .suspended join => ⟨grown, turn.effects, .waiting (.call turn.caller join readBack)⟩

/-- Stores byte strings in order, up to the first that faults. -/
def storeAll (memory : σ) : List (UserAddr × Bytes) → σ × Option Fault
  | [] => (memory, none)
  | (addr, data) :: rest =>
    match AddressSpace.writeBytes memory addr data with
    | .error fault => (memory, some fault)
    | .ok memory => storeAll memory rest

/-- The first turn of a call, after the stores that prepare it. -/
def startCall (machine : Machine σ) (process : UserProcess σ) (number : Nat) (args : Registers)
    (stores : List (UserAddr × Bytes)) (readBack : Option (UserAddr × Nat)) : Attempt σ :=
  let (memory, fault?) := storeAll process.memory stores
  let caller := { process with memory }
  match fault? with
  | some fault => (machine.park caller).reply (.faulted fault)
  | none => machine.afterTurn (machine.kernel.dispatch machine.engine caller number args) readBack

/-- Looks at a file. -/
def lookAtFile (machine : Machine σ) (name : Bytes) : Attempt σ :=
  let files := machine.kernel.files
  machine.reply <|
    answerOf (fun name => .file (files.stat? name) (files.contains name)) (FileName.ofBytes name)

/-- Starts a program by name as a child of `parent`. -/
def spawn (machine : Machine σ) (parent : Option Pid) (program : Bytes) (args : List Bytes) :
    Attempt σ :=
  match FileName.ofBytes program with
  | .error error => machine.reply (.refused error)
  | .ok name => machine.launch (machine.kernel.spawn machine.engine parent ⟨name, args⟩)

/-- Tries an action for the first time. -/
def perform (machine : Machine σ) : Action → Attempt σ
  | .boot program args => machine.launch (machine.kernel.boot machine.engine program args)
  | .spawn parent program args => machine.spawn parent program args
  | .call pid number args stores readBack =>
    machine.withProcess pid fun machine process =>
      machine.startCall process number args stores readBack
  | .exit pid status =>
    machine.withProcess pid fun machine process =>
      machine.finish (machine.kernel.exit process status)
  | .abort pid fault =>
    machine.withProcess pid fun machine process =>
      machine.finish (machine.kernel.abort process fault)
  | .inspect pid => machine.withProcess pid fun _ process => machine.reply (.process process)
  | .join caller child => machine.tryJoin caller child
  | .halt pid => machine.react (machine.kernel.halt pid) (answerOf fun () => .done)
  | .pollJoin caller child =>
    machine.react (machine.kernel.pollJoin caller child) (answerOf .polled)
  | .recordTermination pid how =>
    machine.react (machine.kernel.recordTermination pid how) .recorded
  | .lookUp pid =>
    let table := machine.kernel.processes
    machine.reply (.record (table.state? pid) (table.parent? pid) (table.isRoot pid))
  | .file name => machine.lookAtFile name
  | .pushInput data =>
    let device := machine.kernel.console
    let console := { device with buffer := device.buffer.push data }
    ({ machine with kernel := { machine.kernel with console } } : Machine σ).reply .done
  | .takeOutput =>
    let device := machine.kernel.console
    let (output, buffer) := device.buffer.takeOutput
    let console := { device with buffer }
    ({ machine with kernel := { machine.kernel with console } } : Machine σ).reply (.bytes output)
  | .print data =>
    let (count, console) := machine.kernel.console.write data
    ({ machine with kernel := { machine.kernel with console } } : Machine σ).reply (.count count)
  | .compareConfig config => machine.reply (.flag (machine.kernel.config = config))

/-- Tries an action again that waits. -/
def retry (machine : Machine σ) : Waiting σ → Attempt σ
  | .join caller child => machine.tryJoin caller child
  | .call caller join readBack => machine.afterTurn (machine.kernel.resume caller join) readBack

/-- Gives up an action that waits: its process is parked, and nothing is undone. -/
def abandon (machine : Machine σ) : Waiting σ → Machine σ
  | .join _ _ => machine
  | .call caller _ _ => machine.park caller

end Machine

namespace Attempt

variable {σ : Type} [AddressSpace σ]

/-- The attempt after its process has used a permit, if it waits and has one. -/
def advance (attempt : Attempt σ) : Attempt σ :=
  match attempt.stage with
  | .done _ => attempt
  | .waiting what =>
    if attempt.machine.hasPermit what.pid then
      let again := (attempt.machine.consume what.pid).retry what
      { again with effects := attempt.effects ++ again.effects }
    else attempt

end Attempt

end SyscallKernel
