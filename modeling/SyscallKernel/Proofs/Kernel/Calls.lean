import SyscallKernel.Proofs.Kernel.Lifecycle
import SyscallKernel.Proofs.Kernel.Transfers
import SyscallKernel.Syscall.Dispatch

/-!
# System calls keep the agreement

Every service keeps the kernel and its processes in agreement, and so does every
turn of a call. Only three kinds of service touch handles: those that install a new
one, the one that closes a descriptor, and the transfers, which move a cursor.
-/

namespace SyscallKernel

variable {σ α : Type} {kernel kernel' : Kernel} {n : Nat} {caller : UserProcess σ}
  {others : List (UserProcess σ)} {effects : List Effect}

/-- The memory of a process does not matter. -/
theorem Consistent.with_memory (consistent : Consistent kernel n (caller :: others))
    (memory : σ) : Consistent kernel n ({ caller with memory } :: others) :=
  consistent.of_same_kernelSide rfl

/-- The memory of a process does not matter. -/
theorem Sound.with_memory (sound : Sound kernel n effects kernel' (caller :: others))
    (memory : σ) : Sound kernel n effects kernel' ({ caller with memory } :: others) where
  consistent := sound.consistent.with_memory memory
  stopped := sound.stopped
  started := sound.started
  reaped := sound.reaped

namespace Step

/-- A step that keeps the kernel in agreement with the caller, a process it may have
started, and the other processes. -/
def IsSound (kernel : Kernel) (n : Nat) (others : List (UserProcess σ)) (step : Step σ α) : Prop :=
  Sound kernel n step.effects step.kernel (step.caller :: (step.child.toList ++ others))

/-- The end of a turn may report an error and changes nothing else. -/
theorem effects_conclude (step : Step σ Outcome) (number : Nat) :
    ∃ report, (∀ effect ∈ report, effect.IsQuiet) ∧
      (step.conclude number).effects = step.effects ++ report := by
  have silent : ∀ effect ∈ ([] : List Effect), effect.IsQuiet := fun _ member => nomatch member
  unfold conclude
  split
  · exact ⟨[], silent, (List.append_nil _).symm⟩
  · exact ⟨[], silent, (List.append_nil _).symm⟩
  · split
    · exact ⟨[], silent, (List.append_nil _).symm⟩
    · exact ⟨_, Effect.isQuiet_of_singleton (by trivial), rfl⟩

theorem same_conclude (step : Step σ Outcome) (number : Nat) :
    (step.conclude number).kernel = step.kernel ∧ (step.conclude number).caller = step.caller ∧
      (step.conclude number).child = step.child := by
  unfold conclude
  split
  · exact ⟨rfl, rfl, rfl⟩
  · exact ⟨rfl, rfl, rfl⟩
  · split
    · exact ⟨rfl, rfl, rfl⟩
    · exact ⟨rfl, rfl, rfl⟩

theorem IsSound.conclude {step : Step σ Outcome} (sound : step.IsSound kernel n others)
    (number : Nat) : (step.conclude number).IsSound kernel n others := by
  obtain ⟨report, quiet, effects⟩ := step.effects_conclude number
  obtain ⟨sameKernel, sameCaller, sameChild⟩ := step.same_conclude number
  unfold IsSound
  rw [effects, sameKernel, sameCaller, sameChild]
  exact sound.quiet_after quiet

/-- A turn starts as many processes as the step it concludes. -/
theorem startedCount_conclude (step : Step σ Outcome) (number : Nat) :
    Effect.startedCount (step.conclude number).effects = Effect.startedCount step.effects := by
  obtain ⟨report, quiet, effects⟩ := step.effects_conclude number
  rw [effects, Effect.startedCount_append, Effect.startedCount_of_quiet quiet, Nat.add_zero]

theorem IsSound.after {step : Step σ α} (sound : step.IsSound kernel n others)
    (quiet : ∀ effect ∈ effects, effect.IsQuiet) :
    (step.after effects).IsSound kernel n others :=
  sound.quiet_before quiet

/-- A step that does nothing. -/
theorem isSound_still (consistent : Consistent kernel n (caller :: others)) (value : α) :
    (still kernel caller value).IsSound kernel n others :=
  consistent.sound

end Step

/-- A reaction that may give one more handle to `owner` and leaves the processes alone. -/
structure Reaction.Obtains (kernel : Kernel) (owner : Pid)
    (reaction : Reaction (Except SysError FileHandle)) : Prop where
  /-- The process table stays. -/
  processes : reaction.kernel.processes = kernel.processes
  /-- Nothing is said about processes. -/
  quiet : ∀ effect ∈ reaction.effects, effect.IsQuiet
  /-- The new handle belongs to the owner. -/
  owner : ∀ handle, reaction.value = .ok handle → handle.owner = owner

namespace Kernel

theorem obtains_createFile (kernel : Kernel) (name : FileName) (owner : Pid) :
    (kernel.createFile name owner).Obtains kernel owner := by
  constructor
  case processes => rfl
  case quiet =>
    have report : ∀ creation, (Effect.note (.ofCreation name creation)).IsQuiet := by
      intro creation
      cases creation <;> trivial
    exact Effect.isQuiet_of_singleton (report _)
  case owner =>
    intro handle obtained
    simp only [createFile, FileStore.create] at obtained
    split at obtained
    · cases obtained
      rfl
    · split at obtained
      · cases obtained
      · cases obtained
        rfl

theorem obtains_openFile (kernel : Kernel) (name : FileName) (owner : Pid) :
    (kernel.openFile name owner).Obtains kernel owner := by
  unfold openFile FileStore.openLinked
  split
  · exact ⟨rfl, (fun _ member => nomatch member), (fun _ obtained => nomatch obtained)⟩
  · rename_i opened
    split at opened
    · cases opened
    · cases opened
      refine ⟨rfl, (fun _ member => nomatch member), fun handle obtained => ?_⟩
      cases obtained
      rfl

end Kernel

namespace Service

/-- A handle that was obtained is installed or released at once. -/
theorem isSound_install {reaction : Reaction (Except SysError FileHandle)}
    (consistent : Consistent kernel n (caller :: others)) (live : caller.terminated = false)
    (obtains : reaction.Obtains kernel caller.pid) :
    (install (reaction.toStep caller)).IsSound kernel n others := by
  have stopped : ∀ pid, kernel.processes.isRunning pid = false →
      reaction.kernel.processes.isRunning pid = false := by
    intro pid ended
    rw [obtains.processes]
    exact ended
  have notTorn : ∀ {files : DescriptorTable}, caller.terminated = true → files.handles = [] := by
    intro files torn
    rw [live] at torn
    cases torn
  unfold install Reaction.toStep
  cases value : reaction.value with
  | error error =>
    exact .of_quiet (consistent.exchange rfl rfl obtains.processes notTorn consistent.head.owner)
      obtains.quiet stopped
  | ok handle =>
    simp only
    cases installed : caller.files.allocate handle with
    | some result =>
      refine .of_quiet (consistent.exchange rfl rfl obtains.processes notTorn ?_)
        obtains.quiet stopped
      intro other held
      rcases List.mem_cons.1 ((DescriptorTable.handles_allocate installed).mem_iff.1 held) with
        rfl | old
      · exact obtains.owner other value
      · exact consistent.head.owner other old
    | none =>
      refine .of_quiet (consistent.exchange rfl rfl obtains.processes notTorn
        consistent.head.owner) ?_ stopped
      intro effect member
      rcases List.mem_append.1 member with member | member
      · exact obtains.quiet effect member
      · exact Kernel.isQuiet_releaseHandles _ _ effect member

theorem isSound_create (consistent : Consistent kernel n (caller :: others))
    (live : caller.terminated = false) (name : FileName) :
    (create kernel caller name).IsSound kernel n others := by
  have installed := isSound_install consistent live (kernel.obtains_createFile name caller.pid)
  unfold create
  simp only
  split
  · exact installed
  · exact installed.quiet_after (Effect.isQuiet_of_singleton (by trivial))

theorem isSound_openFile (consistent : Consistent kernel n (caller :: others))
    (live : caller.terminated = false) (name : FileName) :
    (openFile kernel caller name).IsSound kernel n others := by
  have installed := isSound_install consistent live (kernel.obtains_openFile name caller.pid)
  unfold openFile
  simp only
  split
  · exact installed
  · exact installed

theorem isSound_close (consistent : Consistent kernel n (caller :: others)) (fd : Fd) :
    (close kernel caller fd).IsSound kernel n others := by
  unfold close
  cases released : caller.files.release fd with
  | none => exact Step.isSound_still consistent _
  | some result =>
    obtain ⟨files, handle⟩ := result
    have handles := DescriptorTable.handles_release released
    refine .of_quiet (consistent.exchange rfl rfl rfl ?_ ?_)
      (kernel.isQuiet_releaseHandles [handle]) fun _ ended => ended
    · intro torn
      rw [consistent.head.ended torn] at handles
      cases handles.nil_eq
    · intro other held
      exact consistent.head.owner other (handles.mem_iff.2 (List.mem_cons_of_mem _ held))

theorem isSound_unlink (consistent : Consistent kernel n (caller :: others)) (name : FileName) :
    (unlink kernel caller name).IsSound kernel n others := by
  unfold unlink Kernel.unlinkFile
  cases removed : kernel.files.unlink name with
  | none => exact consistent.sound
  | some result =>
    obtain ⟨files, unlinking⟩ := result
    have report : (Effect.note (.ofUnlinking name unlinking)).IsQuiet := by
      cases unlinking <;> trivial
    exact .of_quiet (consistent.exchange rfl rfl rfl consistent.head.ended consistent.head.owner)
      (Effect.isQuiet_of_singleton report) fun _ ended => ended

theorem isSound_exec (engine : Engine σ) (consistent : Consistent kernel n (caller :: others))
    (image : ProgramImage)
    (notWrapped :
      n + Effect.startedCount (exec engine kernel caller image).effects ≤ Pid.limit) :
    (exec engine kernel caller image).IsSound kernel n others := by
  have same : (exec engine kernel caller image).effects =
      (kernel.spawn engine (some caller.pid) image).effects := by
    unfold exec
    simp only
    split <;> rfl
  rw [same] at notWrapped
  have spawned := Kernel.sound_spawn engine consistent (some caller.pid) image notWrapped
  unfold exec
  simp only
  split
  · rename_i error value
    rw [value] at spawned
    exact spawned
  · rename_i child value
    rw [value] at spawned
    exact spawned.perm (List.Perm.swap caller child others)

theorem isSound_halt (consistent : Consistent kernel n (caller :: others)) :
    (halt kernel caller).IsSound kernel n others := by
  have halted := Kernel.sound_halt consistent caller.pid
  unfold halt
  simp only
  split
  · exact halted
  · exact halted

theorem isSound_exit (consistent : Consistent kernel n (caller :: others)) (status : Register) :
    (exit kernel caller status).IsSound kernel n others :=
  Kernel.sound_exit consistent status

/-- A transfer leaves the owners of all handles in the table alone. -/
theorem isSound_settle (consistent : Consistent kernel n (caller :: others)) {fd : Fd}
    {file : OpenFile} (found : caller.files.resolve? fd = some file)
    {moved : Transferred σ ConsoleDevice}
    (kept : Transfer.Keeps ⟨kernel.files, kernel.console, file, caller.memory⟩ moved.1) :
    (settle kernel caller fd moved).IsSound kernel n others := by
  have origins := DescriptorTable.handles_assign_moved FileHandle.origin found kept.file
  refine .of_quiet (consistent.exchange rfl rfl rfl ?_ ?_)
    (fun _ member => nomatch member) fun _ ended => ended
  · intro torn
    rw [consistent.head.ended torn, List.map_nil, List.map_eq_nil_iff] at origins
    exact origins
  · intro handle held
    have listed : handle.origin ∈ caller.files.handles.map FileHandle.origin := by
      rw [← origins]
      exact List.mem_map_of_mem held
    obtain ⟨old, member, same⟩ := List.mem_map.1 listed
    have sameOwner : old.owner = handle.owner := congrArg Prod.snd same
    rw [← sameOwner]
    exact consistent.head.owner old member

variable [AddressSpace σ]

theorem isSound_read (consistent : Consistent kernel n (caller :: others)) {fd : Fd}
    {file : OpenFile} (found : caller.files.resolve? fd = some file) (buffer : UserAddr)
    (count : Nat) : (read kernel caller fd file buffer count).IsSound kernel n others :=
  isSound_settle consistent found (Transfer.keeps_readInto _ _ _ _)

theorem isSound_write (consistent : Consistent kernel n (caller :: others)) {fd : Fd}
    {file : OpenFile} (found : caller.files.resolve? fd = some file) (buffer : UserAddr)
    (count : Nat) : (write kernel caller fd file buffer count).IsSound kernel n others :=
  isSound_settle consistent found (Transfer.keeps_writeFrom _ _ _ _)

theorem isSound_deliver {step : Step σ (Except SysError JoinPoll)}
    (sound : step.IsSound kernel n others) (status : Option UserAddr) (how : Termination) :
    (deliver step status how).IsSound kernel n others := by
  unfold deliver
  split
  · exact sound
  · exact sound
  · split
    · exact sound
    · exact Sound.with_memory sound _

theorem isSound_join (consistent : Consistent kernel n (caller :: others))
    (pending : PendingJoin) : (join kernel caller pending).IsSound kernel n others := by
  have polled : ((kernel.pollJoin caller.pid pending.child).toStep caller).IsSound kernel n others :=
    Kernel.sound_pollJoin consistent caller.pid pending.child
  unfold join
  simp only
  split
  · exact polled
  · exact polled
  · exact isSound_deliver polled _ _

end Service

namespace Request

variable [AddressSpace σ] {config : Config} {args : Registers} {request : Request}

/-- A transfer goes through the file behind its descriptor, and a file to open has a descriptor
free for it. -/
def Fits (process : UserProcess σ) : Request → Prop
  | .create _ => process.files.hasFree = true
  | .openFile _ => process.files.hasFree = true
  | .read fd file _ _ => process.files.resolve? fd = some file
  | .write fd file _ _ => process.files.resolve? fd = some file
  | _ => True

omit [AddressSpace σ] in
theorem count_eq_ok_iff {raw : Register} {n : Nat} :
    Argument.count raw = .ok n ↔ raw.toNat? = some n := by
  unfold Argument.count
  cases raw.toNat? with
  | none => simp only [reduceCtorEq]
  | some held => simp only [Except.ok.injEq, Option.some.injEq]

theorem descriptor_eq_ok_iff {raw : Register} {fd : Fd} :
    descriptor raw = .ok fd ↔ Fd.ofRegister? raw = some fd := by
  unfold descriptor
  cases Fd.ofRegister? raw with
  | none => simp only [reduceCtorEq]
  | some named => simp only [Except.ok.injEq, Option.some.injEq]

/-- A transfer has a length that is not negative, a descriptor of an open file that permits
it, and a buffer that was checked. -/
theorem transferArguments_eq_ok_iff {process : UserProcess σ} {allowed : Access → Bool}
    {kind : AccessKind} {fd : Fd} {file : OpenFile} {buffer : UserAddr} {count : Nat} :
    transferArguments process allowed kind args = .ok (fd, file, buffer, count) ↔
      args.a2.toNat? = some count ∧ Fd.ofRegister? args.a0 = some fd ∧
        process.files.resolve? fd = some file ∧ allowed file.access = true ∧
        Argument.buffer process.memory args.a1 count kind = .ok buffer := by
  rw [← count_eq_ok_iff, ← descriptor_eq_ok_iff]
  simp only [transferArguments, bind, Except.bind]
  constructor
  · intro formed
    split at formed
    · cases formed
    · rename_i held
      split at formed
      · cases formed
      · rename_i named
        split at formed
        · cases formed
        · rename_i found
          split at formed
          · rename_i granted
            split at formed
            · cases formed
            · rename_i checked
              cases formed
              exact ⟨held, named, found, granted, checked⟩
          · cases formed
  · rintro ⟨held, named, found, granted, checked⟩
    simp only [held, named, found, granted, checked, if_true]
    rfl

/-- A mapped result is good if the result was. -/
theorem exists_ok_of_map {β ε : Type} {result : Except ε α} {f : α → β} {value : β}
    (mapped : result.map f = .ok value) : ∃ argument, result = .ok argument ∧ f argument = value := by
  cases result with
  | error => cases mapped
  | ok argument =>
    cases mapped
    exact ⟨argument, rfl, rfl⟩

/-- A name to open comes with a free descriptor. -/
theorem hasFree_of_nameToOpen {process : UserProcess σ} {raw : Register} {name : FileName}
    (formed : nameToOpen process raw = .ok name) : process.files.hasFree = true := by
  simp only [nameToOpen, bind, Except.bind] at formed
  split at formed
  · cases formed
  · split at formed
    · assumption
    · cases formed

theorem fits_ofCall {call : Syscall}
    (formed : ofCall config caller args call = .ok request) : request.Fits caller := by
  cases call with
  | halt => cases formed; trivial
  | exit => cases formed; trivial
  | exec => obtain ⟨_, _, rfl⟩ := exists_ok_of_map formed; trivial
  | join => obtain ⟨_, _, rfl⟩ := exists_ok_of_map formed; trivial
  | create =>
    obtain ⟨_, named, rfl⟩ := exists_ok_of_map formed
    exact hasFree_of_nameToOpen named
  | openFile =>
    obtain ⟨_, named, rfl⟩ := exists_ok_of_map formed
    exact hasFree_of_nameToOpen named
  | read =>
    obtain ⟨_, checked, rfl⟩ := exists_ok_of_map formed
    exact (transferArguments_eq_ok_iff.1 checked).2.2.1
  | write =>
    obtain ⟨_, checked, rfl⟩ := exists_ok_of_map formed
    exact (transferArguments_eq_ok_iff.1 checked).2.2.1
  | close => obtain ⟨_, _, rfl⟩ := exists_ok_of_map formed; trivial
  | unlink => obtain ⟨_, _, rfl⟩ := exists_ok_of_map formed; trivial

theorem isSound_perform (engine : Engine σ) (consistent : Consistent kernel n (caller :: others))
    (live : caller.terminated = false) (fits : request.Fits caller) (number : Nat)
    (notWrapped : n + Effect.startedCount (request.perform engine kernel caller number).effects ≤
      Pid.limit) :
    (request.perform engine kernel caller number).IsSound kernel n others := by
  cases request with
  | halt => exact Service.isSound_halt consistent
  | exit status => exact Service.isSound_exit consistent status
  | exec image =>
    rw [perform, Step.startedCount_conclude] at notWrapped
    exact (Service.isSound_exec engine consistent image notWrapped).conclude number
  | join child status => exact (Service.isSound_join consistent ⟨child, status⟩).conclude number
  | create name => exact (Service.isSound_create consistent live name).conclude number
  | openFile name => exact (Service.isSound_openFile consistent live name).conclude number
  | read fd file buffer count =>
    exact (Service.isSound_read consistent fits buffer count).conclude number
  | write fd file buffer count =>
    exact (Service.isSound_write consistent fits buffer count).conclude number
  | close fd => exact (Service.isSound_close consistent fd).conclude number
  | unlink name => exact (Service.isSound_unlink consistent name).conclude number

end Request

namespace Kernel

variable [AddressSpace σ]

theorem isSound_call (engine : Engine σ) (consistent : Consistent kernel n (caller :: others))
    (live : caller.terminated = false) (number : Nat) (args : Registers)
    (notWrapped : n + Effect.startedCount (kernel.call engine caller number args).effects ≤
      Pid.limit) :
    (kernel.call engine caller number args).IsSound kernel n others := by
  unfold call at notWrapped ⊢
  split
  · exact ((Step.isSound_still consistent _).conclude number).after
      (Effect.isQuiet_of_singleton (by trivial))
  · rename_i call known
    rw [known] at notWrapped
    split
    · exact (Step.isSound_still consistent _).conclude number
    · rename_i request formed
      simp only [formed] at notWrapped
      exact Request.isSound_perform engine consistent live (Request.fits_ofCall formed) number
        notWrapped

/-- The first turn of any call, with any registers, keeps the agreement. -/
theorem isSound_dispatch (engine : Engine σ) (consistent : Consistent kernel n (caller :: others))
    (number : Nat) (args : Registers)
    (notWrapped : n + Effect.startedCount (kernel.dispatch engine caller number args).effects ≤
      Pid.limit) :
    (kernel.dispatch engine caller number args).IsSound kernel n others := by
  unfold dispatch at notWrapped ⊢
  split
  · exact Step.isSound_still consistent _
  · rename_i running
    rw [if_neg running] at notWrapped
    split
    · exact (Step.isSound_still consistent _).after (Effect.isQuiet_of_singleton (by trivial))
    · rename_i notTorn
      rw [if_neg notTorn] at notWrapped
      have live : caller.terminated = false := Bool.eq_false_iff.2 notTorn
      have logged : Effect.startedCount [.note (.called caller.pid number args)] = 0 := rfl
      rw [Step.after, Effect.startedCount_append, logged, Nat.zero_add] at notWrapped
      exact (isSound_call engine consistent live number args notWrapped).after
        (Effect.isQuiet_of_singleton (by trivial))

/-- Every later turn of a suspended join keeps the agreement. -/
theorem isSound_resume (consistent : Consistent kernel n (caller :: others))
    (pending : PendingJoin) : (kernel.resume caller pending).IsSound kernel n others :=
  (Service.isSound_join consistent pending).conclude _

end Kernel

end SyscallKernel
