import SyscallKernel.Kernel.State
import SyscallKernel.Process.User
import SyscallKernel.Proofs.File.Descriptors
import SyscallKernel.Proofs.Process.Numbering

/-!
# The kernel and its processes agree

The process table knows which processes run, but does not see the processes themselves;
that they agree nevertheless is the invariant of this module. It is about a kernel and
the list of all its processes, in any order.
-/

namespace SyscallKernel

namespace Effect

/-- An effect that neither starts a process nor reports a join. -/
def IsQuiet : Effect → Prop
  | note (.reaped _ _) => False
  | started _ _ => False
  | _ => True

/-- The number of processes started. -/
def startedCount (effects : List Effect) : Nat := (effects.filterMap Effect.started?).length

theorem startedCount_append (first second : List Effect) :
    startedCount (first ++ second) = startedCount first + startedCount second := by
  rw [startedCount, List.filterMap_append, List.length_append, startedCount, startedCount]

theorem startedCount_of_quiet {effects : List Effect} (quiet : ∀ effect ∈ effects, effect.IsQuiet) :
    startedCount effects = 0 := by
  rw [startedCount, List.length_eq_zero_iff, List.filterMap_eq_nil_iff]
  intro effect member
  have calm := quiet effect member
  cases effect with
  | note => rfl
  | wake => rfl
  | started => cases calm

end Effect

variable {σ : Type}

/-- All of a process but its memory. -/
def UserProcess.kernelSide (process : UserProcess σ) : Pid × DescriptorTable × Bool :=
  (process.pid, process.files, process.terminated)

/-- All handles in the descriptor tables of some processes. -/
def openHandles (processes : List (UserProcess σ)) : List FileHandle :=
  processes.flatMap fun process => process.files.handles

/-- A process that agrees with a kernel which has registered `n` processes so far. -/
structure Agrees (kernel : Kernel) (n : Nat) (process : UserProcess σ) : Prop where
  /-- The pid was handed out. -/
  pid_le : process.pid.number ≤ n
  /-- The process was torn down unless its record runs. -/
  running_iff : process.terminated = false ↔ kernel.processes.isRunning process.pid = true
  /-- A process that was torn down holds no handle. -/
  ended : process.terminated = true → process.files.handles = []
  /-- A process opened its handles itself. -/
  owner : ∀ handle ∈ process.files.handles, handle.owner = process.pid

/-- A kernel and all its processes, `n` of which were ever registered, agree. -/
structure Consistent (kernel : Kernel) (n : Nat) (processes : List (UserProcess σ)) : Prop where
  /-- The process table is well formed. -/
  table : kernel.processes.WellFormed
  /-- The pids were handed out in order. -/
  numbered : kernel.processes.Numbered n
  /-- No two processes have the same pid. -/
  pids_nodup : (processes.map UserProcess.pid).Nodup
  /-- No process that was ever registered is missing. -/
  complete : ∀ number, 1 ≤ number → number ≤ n → ∃ process ∈ processes, process.pid.number = number
  /-- Each process agrees with the kernel. -/
  agrees : ∀ process ∈ processes, Agrees kernel n process

variable {kernel kernel' : Kernel} {n : Nat} {process process' caller caller' : UserProcess σ}
  {processes processes' others : List (UserProcess σ)}

namespace Agrees

/-- The kernel may change in what the process cannot tell. -/
theorem of_same_running (agrees : Agrees kernel n process)
    (running : kernel'.processes.isRunning process.pid = kernel.processes.isRunning process.pid) :
    Agrees kernel' n process where
  pid_le := agrees.pid_le
  running_iff := by
    rw [running]
    exact agrees.running_iff
  ended := agrees.ended
  owner := agrees.owner

/-- A process whose record does not run holds no handle. -/
theorem handles_of_stopped (agrees : Agrees kernel n process)
    (stopped : kernel.processes.isRunning process.pid = false) : process.files.handles = [] := by
  refine agrees.ended ?_
  cases torn : process.terminated with
  | true => rfl
  | false =>
    rw [agrees.running_iff, stopped] at torn
    cases torn

/-- The memory of the process does not matter. -/
theorem of_same_kernelSide (agrees : Agrees kernel n process)
    (same : process.kernelSide = process'.kernelSide) : Agrees kernel n process' := by
  obtain ⟨pid, files, memory, terminated⟩ := process'
  simp only [UserProcess.kernelSide, Prod.mk.injEq] at same
  obtain ⟨rfl, rfl, rfl⟩ := same
  exact ⟨agrees.pid_le, agrees.running_iff, agrees.ended, agrees.owner⟩

end Agrees

namespace Consistent

/-- A new kernel agrees with no processes. -/
theorem new (config : Config) (console : ConsoleDevice) :
    Consistent (.new config console) 0 ([] : List (UserProcess σ)) where
  table := ProcessTable.wellFormed_empty _
  numbered := ProcessTable.numbered_empty _
  pids_nodup := List.nodup_nil
  complete _ positive within := absurd (Nat.le_trans positive within) (Nat.not_succ_le_zero 0)
  agrees _ member := nomatch member

/-- The first process agrees with the kernel. -/
theorem head (consistent : Consistent kernel n (caller :: others)) : Agrees kernel n caller :=
  consistent.agrees caller List.mem_cons_self

/-- The other processes have other pids. -/
theorem apart (consistent : Consistent kernel n (process :: others)) :
    ∀ other ∈ others, other.pid ≠ process.pid := by
  have distinct := consistent.pids_nodup
  rw [List.map_cons, List.nodup_cons] at distinct
  intro other member same
  have listed : other.pid ∈ others.map UserProcess.pid := List.mem_map_of_mem member
  rw [same] at listed
  exact distinct.1 listed

/-- The order of the processes does not matter. -/
theorem perm (consistent : Consistent kernel n processes) (same : processes.Perm processes') :
    Consistent kernel n processes' where
  table := consistent.table
  numbered := consistent.numbered
  pids_nodup := (same.map UserProcess.pid).nodup_iff.1 consistent.pids_nodup
  complete := by
    intro number positive within
    obtain ⟨process, member, found⟩ := consistent.complete number positive within
    exact ⟨process, same.mem_iff.1 member, found⟩
  agrees process member := consistent.agrees process (same.mem_iff.2 member)

/-- The kernel may change in what no process can tell. -/
theorem of_same_running (consistent : Consistent kernel n processes)
    (table : kernel'.processes.WellFormed) (numbered : kernel'.processes.Numbered n)
    (running : ∀ pid, kernel'.processes.isRunning pid = kernel.processes.isRunning pid) :
    Consistent kernel' n processes where
  table := table
  numbered := numbered
  pids_nodup := consistent.pids_nodup
  complete := consistent.complete
  agrees process member := (consistent.agrees process member).of_same_running (running _)

/-- The memory of the processes does not matter. -/
theorem of_same_kernelSide (consistent : Consistent kernel n processes)
    (same : processes'.map UserProcess.kernelSide = processes.map UserProcess.kernelSide) :
    Consistent kernel n processes' := by
  have pids : processes'.map UserProcess.pid = processes.map UserProcess.pid := by
    have firsts := congrArg (List.map Prod.fst) same
    rw [List.map_map, List.map_map] at firsts
    exact firsts
  constructor
  case table => exact consistent.table
  case numbered => exact consistent.numbered
  case pids_nodup =>
    rw [pids]
    exact consistent.pids_nodup
  case complete =>
    intro number positive within
    obtain ⟨old, listed, found⟩ := consistent.complete number positive within
    have taken : old.pid ∈ processes'.map UserProcess.pid := by
      rw [pids]
      exact List.mem_map_of_mem listed
    obtain ⟨process, member, alike⟩ := List.mem_map.1 taken
    exact ⟨process, member, by rw [alike, found]⟩
  case agrees =>
    intro process member
    have listed : process.kernelSide ∈ processes.map UserProcess.kernelSide := by
      rw [← same]
      exact List.mem_map_of_mem member
    obtain ⟨old, member', alike⟩ := List.mem_map.1 listed
    exact (consistent.agrees old member').of_same_kernelSide alike

/-- One process may change under its pid if it agrees afterwards and the others can tell
no difference. -/
theorem replace (consistent : Consistent kernel n (caller :: others))
    (samePid : caller'.pid = caller.pid) (table : kernel'.processes.WellFormed)
    (numbered : kernel'.processes.Numbered n)
    (agrees : Agrees kernel' n caller')
    (running : ∀ pid, pid ≠ caller.pid →
      kernel'.processes.isRunning pid = kernel.processes.isRunning pid) :
    Consistent kernel' n (caller' :: others) where
  table := table
  numbered := numbered
  pids_nodup := by
    have distinct := consistent.pids_nodup
    rw [List.map_cons] at distinct ⊢
    rw [samePid]
    exact distinct
  complete := by
    intro number positive within
    obtain ⟨process, member, found⟩ := consistent.complete number positive within
    rcases List.mem_cons.1 member with rfl | member
    · exact ⟨caller', List.mem_cons_self, by rw [samePid, found]⟩
    · exact ⟨process, List.mem_cons_of_mem _ member, found⟩
  agrees := by
    intro process member
    rcases List.mem_cons.1 member with rfl | member
    · exact agrees
    · have old := consistent.agrees process (List.mem_cons_of_mem _ member)
      exact old.of_same_running (running _ (consistent.apart process member))

/-- One process may exchange its handles for others of its own. -/
theorem exchange (consistent : Consistent kernel n (caller :: others))
    (samePid : caller'.pid = caller.pid) (sameFlag : caller'.terminated = caller.terminated)
    (sameTable : kernel'.processes = kernel.processes)
    (ended : caller.terminated = true → caller'.files.handles = [])
    (owner : ∀ handle ∈ caller'.files.handles, handle.owner = caller.pid) :
    Consistent kernel' n (caller' :: others) := by
  refine consistent.replace samePid (sameTable ▸ consistent.table)
    (sameTable ▸ consistent.numbered) ?_ fun _ _ => by rw [sameTable]
  constructor
  case pid_le =>
    rw [samePid]
    exact consistent.head.pid_le
  case running_iff =>
    rw [samePid, sameFlag, sameTable]
    exact consistent.head.running_iff
  case ended =>
    rw [sameFlag]
    exact ended
  case owner =>
    rw [samePid]
    exact owner

end Consistent

/-- What a part of the kernel may do, starting with `n` processes registered: the
kernel agrees with the processes it leaves, a process that has stopped does not run
again, and whoever was joined has stopped. -/
structure Sound (kernel : Kernel) (n : Nat) (effects : List Effect) (kernel' : Kernel)
    (processes : List (UserProcess σ)) : Prop where
  /-- Kernel and processes agree afterwards. -/
  consistent : Consistent kernel' (n + Effect.startedCount effects) processes
  /-- Nobody runs again. -/
  stopped : ∀ pid : Pid, pid.number ≤ n → kernel.processes.isRunning pid = false →
    kernel'.processes.isRunning pid = false
  /-- Who was started got one of the pids handed out. -/
  started : ∀ (pid : Pid) (image : ProgramImage), .started pid image ∈ effects →
    1 ≤ pid.number ∧ pid.number ≤ n + Effect.startedCount effects
  /-- Who was joined has stopped. -/
  reaped : ∀ caller child : Pid, .note (.reaped caller child) ∈ effects →
    1 ≤ child.number ∧ child.number ≤ n + Effect.startedCount effects ∧
      kernel'.processes.isRunning child = false

namespace Sound

variable {kernel'' : Kernel} {effects effects' : List Effect}

/-- A step with quiet effects only. -/
theorem of_quiet (consistent : Consistent kernel' n processes)
    (quiet : ∀ effect ∈ effects, effect.IsQuiet)
    (stopped : ∀ pid, kernel.processes.isRunning pid = false →
      kernel'.processes.isRunning pid = false) : Sound kernel n effects kernel' processes where
  consistent := by
    rw [Effect.startedCount_of_quiet quiet]
    exact consistent
  stopped pid _ := stopped pid
  started pid image member := nomatch quiet _ member
  reaped caller child member := nomatch quiet _ member

/-- Two parts in a row. -/
theorem trans (first : Sound kernel n effects kernel' processes)
    (second : Sound kernel' (n + Effect.startedCount effects) effects' kernel'' processes') :
    Sound kernel n (effects ++ effects') kernel'' processes' where
  consistent := by
    rw [Effect.startedCount_append, ← Nat.add_assoc]
    exact second.consistent
  stopped pid within ended :=
    second.stopped pid (Nat.le_trans within (Nat.le_add_right _ _)) (first.stopped pid within ended)
  started := by
    intro pid image member
    rw [Effect.startedCount_append, ← Nat.add_assoc]
    rcases List.mem_append.1 member with member | member
    · obtain ⟨positive, within⟩ := first.started pid image member
      exact ⟨positive, Nat.le_trans within (Nat.le_add_right _ _)⟩
    · exact second.started pid image member
  reaped := by
    intro caller child member
    rw [Effect.startedCount_append, ← Nat.add_assoc]
    rcases List.mem_append.1 member with member | member
    · obtain ⟨positive, within, ended⟩ := first.reaped caller child member
      exact ⟨positive, Nat.le_trans within (Nat.le_add_right _ _),
        second.stopped child within ended⟩
    · exact second.reaped caller child member

/-- Further quiet effects. -/
theorem quiet_after (sound : Sound kernel n effects kernel' processes)
    (quiet : ∀ effect ∈ effects', effect.IsQuiet) :
    Sound kernel n (effects ++ effects') kernel' processes :=
  sound.trans (.of_quiet sound.consistent quiet fun _ ended => ended)

/-- Quiet effects before the others. -/
theorem quiet_before (sound : Sound kernel n effects kernel' processes)
    (quiet : ∀ effect ∈ effects', effect.IsQuiet) :
    Sound kernel n (effects' ++ effects) kernel' processes where
  consistent := by
    rw [Effect.startedCount_append, Effect.startedCount_of_quiet quiet, Nat.zero_add]
    exact sound.consistent
  stopped := sound.stopped
  started := by
    intro pid image member
    rw [Effect.startedCount_append, Effect.startedCount_of_quiet quiet, Nat.zero_add]
    rcases List.mem_append.1 member with member | member
    · cases quiet _ member
    · exact sound.started pid image member
  reaped := by
    intro caller child member
    rw [Effect.startedCount_append, Effect.startedCount_of_quiet quiet, Nat.zero_add]
    rcases List.mem_append.1 member with member | member
    · cases quiet _ member
    · exact sound.reaped caller child member

/-- The order of the processes does not matter. -/
theorem perm (sound : Sound kernel n effects kernel' processes)
    (same : processes.Perm processes') : Sound kernel n effects kernel' processes' where
  consistent := sound.consistent.perm same
  stopped := sound.stopped
  started := sound.started
  reaped := sound.reaped

end Sound

end SyscallKernel
