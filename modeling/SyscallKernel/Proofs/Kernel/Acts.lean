import SyscallKernel.Proofs.Kernel.Links

/-!
# What the kernel does to its processes

Whatever happens next, the kernel acts once, in the name of some processes or of none, and all
other processes stand by. The acts are listed here without the places that processes have in a
world or on a machine. Every act keeps the kernel and all processes in agreement as long as the
pids have not gone round, and it changes the files and the links of those in whose name the
kernel acts together.
-/

namespace SyscallKernel

variable {σ : Type} {kernel kernel' : Kernel} {n : Nat} {effects : List Effect}
  {before after bystanders processes : List (UserProcess σ)}

/-- What a process does to its own memory, seen in a list of processes. -/
theorem kernelSide_compute (processes : List (UserProcess σ)) (pid : Pid) (change : σ → σ) :
    (processes.map fun process =>
      if process.pid = pid then { process with memory := change process.memory }
      else process).map UserProcess.kernelSide = processes.map UserProcess.kernelSide := by
  rw [List.map_map]
  refine List.map_congr_left fun process _ => ?_
  rw [Function.comp_apply]
  split <;> rfl

/-- The links are held outside of memory. -/
theorem heldLinks_of_same_kernelSide {processes' : List (UserProcess σ)}
    (same : processes'.map UserProcess.kernelSide = processes.map UserProcess.kernelSide) :
    heldLinks processes' = heldLinks processes := by
  have tables := congrArg (List.map fun side : Pid × DescriptorTable × Bool => side.2.1) same
  rw [List.map_map, List.map_map] at tables
  have handles := congrArg (List.flatMap DescriptorTable.handles) tables
  rw [List.flatMap_map, List.flatMap_map] at handles
  exact congrArg (List.map FileHandle.link) handles

namespace Kernel

variable [AddressSpace σ]

/-- One act of the kernel in the name of some processes, its effects, and what becomes of both. -/
inductive Act (kernel : Kernel) :
    List (UserProcess σ) → List Effect → Kernel → List (UserProcess σ) → Prop where
  /-- Nothing happens but perhaps on the console. -/
  | rest (console : ConsoleDevice) : Act kernel [] [] { kernel with console } []
  /-- A program is started, perhaps with an announcement. -/
  | spawn (engine : Engine σ) (parent : Option Pid) (image : ProgramImage) (preface : List Effect)
    (silent : ∀ effect ∈ preface, effect.IsQuiet ∧ effect.IsClean) :
    Act kernel [] (preface ++ (kernel.spawn engine parent image).effects)
      (kernel.spawn engine parent image).kernel
      (kernel.spawn engine parent image).value.toOption.toList
  /-- A process takes the first turn of a call, with its memory as it has made it. -/
  | turn (engine : Engine σ) (caller : UserProcess σ) (memory : σ) (number : Nat)
    (args : Registers) :
    Act kernel [caller] (kernel.dispatch engine { caller with memory } number args).effects
      (kernel.dispatch engine { caller with memory } number args).kernel
      ((kernel.dispatch engine { caller with memory } number args).caller ::
        (kernel.dispatch engine { caller with memory } number args).child.toList)
  /-- A child is asked for. -/
  | poll (processes : List (UserProcess σ)) (caller child : Pid) :
    Act kernel processes (kernel.pollJoin caller child).effects
      (kernel.pollJoin caller child).kernel processes
  /-- A process takes a later turn of a call. -/
  | resume (caller : UserProcess σ) (pending : PendingJoin) :
    Act kernel [caller] (kernel.resume caller pending).effects (kernel.resume caller pending).kernel
      ((kernel.resume caller pending).caller :: (kernel.resume caller pending).child.toList)
  /-- A process ends, perhaps for a reason that is told. -/
  | terminate (process : UserProcess σ) (how : Termination) (preface : List Effect)
    (silent : ∀ effect ∈ preface, effect.IsQuiet ∧ effect.IsClean) :
    Act kernel [process] (preface ++ (kernel.terminate process how).effects)
      (kernel.terminate process how).kernel [(kernel.terminate process how).value]
  /-- The machine is to halt in the name of a process. -/
  | halt (pid : Pid) : Act kernel [] (kernel.halt pid).effects (kernel.halt pid).kernel []
  /-- A process computes in its own memory. -/
  | compute (processes : List (UserProcess σ)) (pid : Pid) (change : σ → σ) :
    Act kernel processes [] kernel (processes.map fun process =>
      if process.pid = pid then { process with memory := change process.memory } else process)

/-- Every act keeps the kernel and all processes in agreement. -/
theorem Act.sound (act : kernel.Act before effects kernel' after)
    (bystanders : List (UserProcess σ))
    (consistent : Consistent kernel n (before ++ bystanders))
    (notWrapped : n + Effect.startedCount effects ≤ Pid.limit) :
    Sound kernel n effects kernel' (after ++ bystanders) := by
  cases act with
  | rest console =>
    refine .of_quiet (consistent.of_same_running consistent.table consistent.numbered fun _ => rfl)
      (fun _ member => nomatch member) fun _ ended => ended
  | spawn engine parent image preface silent =>
    rw [Effect.startedCount_append,
      Effect.startedCount_of_quiet fun effect member => (silent effect member).1,
      Nat.zero_add] at notWrapped
    exact (sound_spawn engine consistent parent image notWrapped).quiet_before
      fun effect member => (silent effect member).1
  | turn engine caller memory number args =>
    exact isSound_dispatch engine (consistent.with_memory memory) number args notWrapped
  | poll _ caller child => exact sound_pollJoin consistent caller child
  | resume caller pending => exact isSound_resume consistent pending
  | terminate process how preface silent =>
    exact (sound_terminate consistent how).quiet_before
      fun effect member => (silent effect member).1
  | halt pid => exact sound_halt consistent pid
  | compute _ pid change =>
    refine (consistent.of_same_kernelSide ?_).sound
    rw [List.map_append, List.map_append, kernelSide_compute]

/-- Every act changes the files and the links of those in whose name the kernel acts together. -/
theorem Act.handles (act : kernel.Act before effects kernel' after)
    (arranged : kernel.files.Arranged) : kernel.Handles before effects kernel' after := by
  cases act with
  | rest console => exact .idle rfl fun _ member => nomatch member
  | spawn engine parent image preface silent =>
    exact (handles_spawn engine kernel parent image).say fun effect member =>
      (List.mem_append.1 member).symm.imp id fun announced => (silent effect announced).2
  | turn engine caller memory number args =>
    have handles := handles_dispatch engine arranged { caller with memory } number args
    refine ⟨handles.links, fun none => handles.torn fun process member torn => ?_⟩
    rw [List.mem_singleton.1 member] at torn ⊢
    exact none caller List.mem_cons_self torn
  | poll _ caller child =>
    have nothing := kernel.files_pollJoin caller child
    exact .idle nothing.1 nothing.2
  | resume caller pending => exact handles_resume kernel caller pending
  | terminate process how preface silent =>
    exact (handles_terminate kernel process how).say fun effect member =>
      (List.mem_append.1 member).symm.imp id fun announced => (silent effect announced).2
  | halt pid =>
    have nothing := kernel.files_halt pid
    exact .idle nothing.1 nothing.2
  | compute _ pid change =>
    have same := kernelSide_compute before pid change
    refine .of_same rfl (heldLinks_of_same_kernelSide same).symm (fun _ member => nomatch member)
      fun none process member torn => ?_
    have listed : process.kernelSide ∈ before.map UserProcess.kernelSide := by
      rw [← same]
      exact List.mem_map_of_mem member
    obtain ⟨old, member', alike⟩ := List.mem_map.1 listed
    simp only [UserProcess.kernelSide, Prod.mk.injEq] at alike
    rw [← alike.2.1]
    exact none old member' (alike.2.2.trans torn)

end Kernel

end SyscallKernel
