import SyscallKernel.Machine.Program
import SyscallKernel.Proofs.File.Patches
import SyscallKernel.Proofs.Kernel.Bookkeeping
import SyscallKernel.Proofs.Machine.Runs

/-!
# References counted and references held

The store counts open handles, the processes hold them. Whatever processes do, and in
whatever order, an entry counts exactly the handles on it, so that no release ever
goes wrong and nothing is left behind when all processes have ended. The store numbers its slots
and counts handles in 32 bits, so this is about runs in which these numbers suffice.
-/

namespace SyscallKernel.Situation

variable {σ : Type}

/-- The runs in which no number has gone round: every process has a pid of its own, every slot of
the file store has an index, and the handles on each file can be counted. -/
inductive FittingRun [AddressSpace σ] (engine : Engine σ) (config : Config)
    (console : ConsoleDevice) : List Effect → Situation σ → Prop where
  /-- The machine was just switched on. -/
  | start : FittingRun engine config console [] ⟨.new engine (.new config console), []⟩
  /-- One more step. -/
  | step {log effects : List Effect} {situation situation' : Situation σ}
    (earlier : FittingRun engine config console log situation)
    (step : situation.Step effects situation')
    (notWrapped : Effect.startedCount (log ++ effects) ≤ Pid.limit)
    (fits : situation'.machine.kernel.files.Fits (heldLinks situation'.processes)) :
    FittingRun engine config console (log ++ effects) situation'

/-- What links the store, the tables of all processes and the process records at the
end of a run. -/
structure Balanced (log : List Effect) (situation : Situation σ) : Prop where
  /-- Every process that was started is accounted for, under a pid of its own. -/
  everyone : (situation.processes.map UserProcess.pid).Nodup ∧
    ∀ pid image, .started pid image ∈ log → ∃ process ∈ situation.processes, process.pid = pid
  /-- A live entry counts the handles of all processes that refer to it. -/
  openCount_eq : ∀ id entry, situation.machine.kernel.files.entry? id = some entry →
    entry.openCount = (openHandles situation.processes).countP fun handle => handle.id = id
  /-- A process owns the handles in its table. -/
  owner_eq : ∀ process ∈ situation.processes, ∀ handle ∈ process.files.handles,
    handle.owner = process.pid
  /-- A handle refers to a live entry and shares the contents of that entry: it reads and writes
  them, and those of no other entry. -/
  designates : ∀ handle ∈ openHandles situation.processes, ∃ entry contents,
    situation.machine.kernel.files.entry? handle.id = some entry ∧ entry.data = handle.data ∧
    situation.machine.kernel.files.data[entry.data]? = some contents ∧
    (∀ count, (situation.machine.kernel.files.read handle count).1 =
      Contents.readAt contents handle.offset count) ∧
    ∀ bytes id, FileStore.entry? (situation.machine.kernel.files.write handle bytes).1 id =
        situation.machine.kernel.files.entry? id ∧
      ∀ other, situation.machine.kernel.files.entry? id = some other →
        (situation.machine.kernel.files.write handle bytes).1.data[other.data]? =
          if id = handle.id then some (Contents.writeAt contents handle.offset bytes)
          else situation.machine.kernel.files.data[other.data]?
  /-- The processes that were not torn down are those with a running record. -/
  running_iff : ∀ process ∈ situation.processes, process.terminated = false ↔
    situation.machine.kernel.processes.state? process.pid = some .running
  /-- A process that was torn down holds no handle. -/
  ended : ∀ process ∈ situation.processes, process.terminated = true → process.files.handles = []
  /-- No release ever met a stale reference or an entry without open handles. -/
  released : ∀ id name, .note (.releaseStale id) ∉ log ∧ .note (.releaseUnheld name) ∉ log
  /-- A child that was joined has no handle, nor does anyone hold a handle of it. -/
  joined : ∀ caller child, .note (.reaped caller child) ∈ log →
    (∃ process ∈ situation.processes, process.pid = child ∧ process.files.handles = []) ∧
      ∀ handle ∈ openHandles situation.processes, handle.owner ≠ child
  /-- When all processes have ended, no entry has an open handle and all are linked. -/
  finished : (∀ process ∈ situation.processes, process.terminated = true) →
    (∀ id entry, situation.machine.kernel.files.entry? id = some entry → entry.openCount = 0) ∧
      situation.machine.kernel.files.size = situation.machine.kernel.files.names.length

variable [AddressSpace σ] {engine : Engine σ} {config : Config} {console : ConsoleDevice}
  {log : List Effect} {situation : Situation σ}

namespace FittingRun

/-- A run in which no number has gone round is a run in which no pid has. -/
theorem run (fitting : FittingRun engine config console log situation) :
    Run engine config console log situation ∧ Effect.startedCount log ≤ Pid.limit := by
  induction fitting with
  | start => exact ⟨.start, Nat.zero_le _⟩
  | step earlier step notWrapped fits ih => exact ⟨ih.1.step step, notWrapped⟩

/-- The store counts the handles of the processes, and no release ever goes wrong. -/
theorem ledger (fitting : FittingRun engine config console log situation) :
    situation.machine.kernel.files.Ledger (heldLinks situation.processes) ∧
      ∀ effect ∈ log, effect.IsClean := by
  induction fitting with
  | start => exact ⟨ledger_new config console, fun _ member => nomatch member⟩
  | step earlier step notWrapped fits ih =>
    obtain ⟨run, before⟩ := earlier.run
    have agreed := (run.sound before).consistent
    rw [Nat.zero_add] at agreed
    rw [Effect.startedCount_append] at notWrapped
    obtain ⟨_, _, bystanders, old, act, new⟩ := step.acts agreed notWrapped
    have links := heldLinks_perm new
    obtain ⟨ledger, clean⟩ := act.ledger (ih.1.perm (heldLinks_perm old)) (fits.perm links)
    refine ⟨ledger.perm links.symm, fun effect member => ?_⟩
    exact (List.mem_append.1 member).elim (ih.2 effect) (clean effect)

end FittingRun

/-- A library of one program, which finds its own name in its second page. -/
def selfNaming : ProgramLibrary :=
  [("f", ⟨2, [(⟨1024, by decide⟩, [102, 0])], [], [], false, .park⟩)]

end SyscallKernel.Situation
