import SyscallKernel.Proofs.File.Handling
import SyscallKernel.Proofs.Kernel.Calls

/-!
# What calls do to the links of processes

Handles live in the descriptor tables of processes, and the file store sees none of them. What a
call does to the store and to the table of its caller goes together: a handle that is opened goes
into the table, one that goes out of the table is released, and transfers leave all links alone.
Whatever the log says of releases is said of handles that went out of a table.
-/

namespace SyscallKernel

variable {σ α : Type} {kernel kernel' : Kernel} {caller : UserProcess σ}
  {before after processes : List (UserProcess σ)} {effects effects' : List Effect}

/-- The links behind all handles of some processes. -/
def heldLinks (processes : List (UserProcess σ)) : List (FileId × Nat) :=
  (openHandles processes).map FileHandle.link

theorem heldLinks_cons (process : UserProcess σ) (others : List (UserProcess σ)) :
    heldLinks (process :: others) =
      process.files.handles.map FileHandle.link ++ heldLinks others := by
  rw [heldLinks, openHandles, List.flatMap_cons, List.map_append]
  rfl

theorem heldLinks_append (processes others : List (UserProcess σ)) :
    heldLinks (processes ++ others) = heldLinks processes ++ heldLinks others := by
  rw [heldLinks, openHandles, List.flatMap_append, List.map_append]
  rfl

/-- One process holds the links of its own table. -/
theorem heldLinks_singleton (process : UserProcess σ) :
    heldLinks [process] = process.files.handles.map FileHandle.link := by
  rw [heldLinks_cons, heldLinks, openHandles, List.flatMap_nil, List.map_nil, List.append_nil]

/-- A process that was started has no link yet. -/
theorem heldLinks_cons_child {child : Option (UserProcess σ)}
    (none : ∀ process ∈ child, process.files.handles = []) :
    heldLinks (caller :: child.toList) = heldLinks [caller] := by
  cases child with
  | none => rfl
  | some process =>
    rw [Option.toList_some, heldLinks_cons, heldLinks_singleton, heldLinks_singleton,
      none process rfl, List.map_nil, List.append_nil]

namespace Effect

/-- An effect that is not the report of a release gone wrong. -/
def IsClean : Effect → Prop
  | note (.releaseStale _) => False
  | note (.releaseUnheld _) => False
  | _ => True

/-- What is said about releases. -/
def ofReleases (releases : List FileStore.Release) : List Effect :=
  (releases.filterMap Notice.ofRelease?).map note

/-- Nothing bad is said about releases that went well. -/
theorem isClean_of_mem_ofReleases {releases : List FileStore.Release} {effect : Effect}
    (clean : ∀ release ∈ releases, release.IsClean) (member : effect ∈ ofReleases releases) :
    effect.IsClean := by
  obtain ⟨notice, reported, rfl⟩ := List.mem_map.1 member
  obtain ⟨release, released, report⟩ := List.mem_filterMap.1 reported
  have fine := clean release released
  cases release with
  | stale => cases fine
  | unheld => cases fine
  | kept => cases report
  | freed =>
    cases report
    trivial

theorem isClean_of_singleton {single : Effect} (clean : single.IsClean) :
    ∀ effect ∈ [single], effect.IsClean := by
  intro effect member
  rw [List.mem_singleton.1 member]
  exact clean

/-- A wake-up is clean. -/
theorem isClean_of_wake (pids : List Pid) : ∀ effect ∈ pids.map wake, effect.IsClean := by
  intro effect member
  obtain ⟨pid, _, rfl⟩ := List.mem_map.1 member
  trivial

end Effect

namespace Kernel

/-- What a part of the kernel does to the store and to the processes in whose name it acts. -/
structure Handles (kernel : Kernel) (before : List (UserProcess σ)) (effects : List Effect)
    (kernel' : Kernel) (after : List (UserProcess σ)) : Prop where
  /-- The store and the links of the processes change together, and nothing bad is said but about
  the releases that this takes. -/
  links : ∃ releases, FileStore.Handling kernel.files (heldLinks before) releases kernel'.files
      (heldLinks after) ∧ ∀ effect ∈ effects, effect.IsClean ∨ effect ∈ Effect.ofReleases releases
  /-- A process that was torn down holds no handle afterwards if none did before. -/
  torn : (∀ process ∈ before, process.terminated = true → process.files.handles = []) →
    ∀ process ∈ after, process.terminated = true → process.files.handles = []

namespace Handles

/-- What changes no file and no handle. -/
theorem of_same (files : kernel'.files = kernel.files)
    (links : heldLinks before = heldLinks after)
    (clean : ∀ effect ∈ effects, effect.IsClean)
    (torn : (∀ process ∈ before, process.terminated = true → process.files.handles = []) →
      ∀ process ∈ after, process.terminated = true → process.files.handles = []) :
    kernel.Handles before effects kernel' after := by
  refine ⟨⟨[], ?_, fun effect member => .inl (clean effect member)⟩, torn⟩
  rw [files, links]
  exact .idle _ _

/-- What leaves the files and the processes alone. -/
theorem idle (files : kernel'.files = kernel.files) (clean : ∀ effect ∈ effects, effect.IsClean) :
    kernel.Handles before effects kernel' before :=
  of_same files rfl clean id

/-- Nothing bad is said besides. -/
theorem say (handles : kernel.Handles before effects kernel' after)
    (same : ∀ effect ∈ effects', effect ∈ effects ∨ effect.IsClean) :
    kernel.Handles before effects' kernel' after := by
  obtain ⟨releases, handling, said⟩ := handles.links
  refine ⟨⟨releases, handling, fun effect member => ?_⟩, handles.torn⟩
  exact (same effect member).elim (said effect) .inl

end Handles

/-! ### Starting and ending processes -/

/-- Ending a process releases its handles, unless that happened before. -/
theorem files_terminate (kernel : Kernel) (process : UserProcess σ) (how : Termination) :
    (kernel.terminate process how).kernel.files =
      if process.terminated then kernel.files
      else (kernel.files.releaseAll process.files.handles).1 := by
  have quiet : ∀ (kernel : Kernel) news, (kernel.haltIfLast news).kernel.files = kernel.files := by
    intro kernel news
    unfold haltIfLast
    split <;> rfl
  unfold terminate
  split
  · rfl
  · simp only [recordTermination]
    split
    · split <;> rfl
    · rw [quiet]
      split <;> rfl

/-- A process that was ended holds no handle. -/
theorem value_terminate (kernel : Kernel) (process : UserProcess σ) (how : Termination) :
    (kernel.terminate process how).value =
      if process.terminated then process
      else { process with terminated := true, files := .cleared } := by
  unfold terminate
  split
  · rfl
  · simp only
    split <;> rfl

/-- A process that ends keeps no handle but those it had. -/
theorem mem_handles_of_terminate {process : UserProcess σ} {how : Termination}
    {handle : FileHandle}
    (member : handle ∈ (kernel.terminate process how).value.files.handles) :
    handle ∈ process.files.handles := by
  rw [value_terminate] at member
  split at member
  · exact member
  · rw [DescriptorTable.handles_cleared] at member
    cases member

/-- What is said when a process ends is said about it, or about the release of its handles. -/
theorem said_terminate (kernel : Kernel) (process : UserProcess σ) (how : Termination) :
    ∀ effect ∈ (kernel.terminate process how).effects, effect.IsClean ∨
      effect ∈ Effect.ofReleases (kernel.files.releaseAll process.files.handles).2 := by
  have halted : ∀ (kernel : Kernel) news effect, effect ∈ (kernel.haltIfLast news).effects →
      effect.IsClean := by
    intro kernel news effect member
    unfold haltIfLast at member
    split at member
    · rcases List.mem_cons.1 member with rfl | member
      · trivial
      · exact Effect.isClean_of_wake _ effect member
    · cases member
  have recorded : ∀ (kernel : Kernel), ∀ effect ∈
      (kernel.recordTermination process.pid how).effects, effect.IsClean := by
    intro kernel effect member
    unfold recordTermination at member
    split at member
    · cases member
    · exact Effect.isClean_of_singleton (by trivial) effect member
  intro effect member
  unfold terminate at member
  split at member
  · cases member
  · simp only at member
    split at member
    · rcases List.mem_append.1 member with released | noted
      · exact .inr released
      · exact .inl (recorded _ effect noted)
    · simp only [List.append_assoc, List.mem_append] at member
      rcases member with released | noted | woken | last
      · exact .inr released
      · exact .inl (recorded _ effect noted)
      · exact .inl (Effect.isClean_of_wake _ effect woken)
      · exact .inl (halted _ _ effect last)

theorem handles_terminate (kernel : Kernel) (process : UserProcess σ) (how : Termination) :
    kernel.Handles [process] (kernel.terminate process how).effects
      (kernel.terminate process how).kernel [(kernel.terminate process how).value] := by
  cases torn : process.terminated with
  | true =>
    have nothing : kernel.terminate process how = kernel.answer process := if_pos torn
    rw [nothing]
    exact .idle rfl fun _ member => nomatch member
  | false =>
    have files := kernel.files_terminate process how
    have value := kernel.value_terminate process how
    rw [torn, if_neg Bool.false_ne_true] at files value
    refine ⟨⟨_, ?_, kernel.said_terminate process how⟩, fun _ other member _ => ?_⟩
    · rw [files, value]
      refine .released process.files.handles (.of_eq ?_)
      rw [heldLinks_singleton, heldLinks_singleton, DescriptorTable.handles_cleared, List.map_nil,
        List.append_nil]
    · rw [List.mem_singleton.1 member, value]
      exact DescriptorTable.handles_cleared

/-- A process that has just begun has no handle, and no file has changed. -/
theorem begin_fresh (kernel : Kernel) (pid : Pid) (memory : σ) (start : Start) :
    (kernel.begin (.fresh pid memory) start).kernel.files = kernel.files ∧
      (kernel.begin (.fresh pid memory) start).value.files.handles = [] ∧
      ∀ effect ∈ (kernel.begin (.fresh pid memory) start).effects, effect.IsClean := by
  have none : (UserProcess.fresh pid memory).files.handles = [] := DescriptorTable.handles_new
  have ended : ∀ how, (kernel.terminate (.fresh pid memory) how).kernel.files = kernel.files ∧
      (kernel.terminate (.fresh pid memory) how).value.files.handles = [] ∧
      ∀ effect ∈ (kernel.terminate (.fresh pid memory) how).effects, effect.IsClean := by
    intro how
    have said := kernel.said_terminate (.fresh pid memory) how
    rw [none] at said
    refine ⟨?_, List.eq_nil_iff_forall_not_mem.2 fun handle member => ?_, fun effect member => ?_⟩
    · rw [files_terminate, none]
      exact ite_self _
    · have old := mem_handles_of_terminate member
      rw [none] at old
      cases old
    · exact (said effect member).elim id fun reported => nomatch reported
  cases start with
  | park => exact ⟨rfl, none, fun _ member => nomatch member⟩
  | exit status => exact ended _
  | abort fault =>
    refine ⟨(ended _).1, (ended _).2.1, fun effect member => ?_⟩
    rcases List.mem_cons.1 member with rfl | member
    · trivial
    · exact (ended _).2.2 effect member

/-- Starting a program changes no file, and its process has no handle. -/
theorem spawn_files (engine : Engine σ) (kernel : Kernel) (parent : Option Pid)
    (image : ProgramImage) :
    (kernel.spawn engine parent image).kernel.files = kernel.files ∧
      (∀ process, (kernel.spawn engine parent image).value = .ok process →
        process.files.handles = []) ∧
      ∀ effect ∈ (kernel.spawn engine parent image).effects, effect.IsClean := by
  have refused : ∀ error : SysError,
      (∀ process, (.error error : Except SysError (UserProcess σ)) = .ok process →
        process.files.handles = []) ∧ ∀ effect ∈ ([] : List Effect), effect.IsClean := by
    refine fun error => ⟨fun process started => ?_, fun effect member => ?_⟩
    · cases started
    · cases member
  unfold spawn
  split
  · exact ⟨rfl, refused _⟩
  · split
    · exact ⟨rfl, refused _⟩
    · cases registered : kernel.processes.register parent with
      | error error =>
        simp only [registerProcess, registered]
        exact ⟨rfl, refused _⟩
      | ok result =>
        rename_i memory loaded
        simp only [registerProcess, registered]
        obtain ⟨files, none, clean⟩ := begin_fresh { kernel with processes := result.1 } result.2
          memory (engine.start image)
        refine ⟨files, fun process started => ?_, fun effect member => ?_⟩
        · cases started
          exact none
        · simp only [List.cons_append, List.nil_append, List.mem_cons] at member
          rcases member with rfl | rfl | rfl | member
          · trivial
          · trivial
          · trivial
          · exact clean effect member

/-- A process that was started has no handle. -/
theorem handles_of_spawn {engine : Engine σ} {parent : Option Pid} {image : ProgramImage}
    {process : UserProcess σ} (started : (kernel.spawn engine parent image).value = .ok process) :
    process.files.handles = [] :=
  (spawn_files engine kernel parent image).2.1 process started

theorem handles_spawn (engine : Engine σ) (kernel : Kernel) (parent : Option Pid)
    (image : ProgramImage) :
    kernel.Handles ([] : List (UserProcess σ)) (kernel.spawn engine parent image).effects
      (kernel.spawn engine parent image).kernel
      (kernel.spawn engine parent image).value.toOption.toList := by
  obtain ⟨files, none, clean⟩ := spawn_files engine kernel parent image
  refine .of_same files ?_ clean fun _ process member _ => ?_
  · cases started : (kernel.spawn engine parent image).value with
    | error error => rfl
    | ok process =>
      rw [Except.toOption, Option.toList_some, heldLinks_singleton, none process started]
      rfl
  · cases started : (kernel.spawn engine parent image).value with
    | error error =>
      rw [started] at member
      cases member
    | ok other =>
      rw [started] at member
      rw [List.mem_singleton.1 member]
      exact none other started

/-- Halting does nothing to files. -/
theorem files_halt (kernel : Kernel) (caller : Pid) :
    (kernel.halt caller).kernel.files = kernel.files ∧
      ∀ effect ∈ (kernel.halt caller).effects, effect.IsClean := by
  unfold halt
  split
  · refine ⟨rfl, fun effect member => ?_⟩
    rcases List.mem_cons.1 member with rfl | member
    · trivial
    · exact Effect.isClean_of_wake _ effect member
  · exact ⟨rfl, Effect.isClean_of_singleton (by trivial)⟩

/-- Nor does asking for a child. -/
theorem files_pollJoin (kernel : Kernel) (caller child : Pid) :
    (kernel.pollJoin caller child).kernel.files = kernel.files ∧
      ∀ effect ∈ (kernel.pollJoin caller child).effects, effect.IsClean := by
  unfold pollJoin
  split
  · exact ⟨rfl, fun _ member => nomatch member⟩
  · exact ⟨rfl, fun _ member => nomatch member⟩
  · exact ⟨rfl, Effect.isClean_of_singleton (by trivial)⟩

end Kernel

/-! ### Services -/

/-- What a step of a call does to the store, to its caller and to a process that it starts. -/
def Step.Handles (kernel : Kernel) (caller : UserProcess σ) (step : Step σ α) : Prop :=
  kernel.Handles [caller] step.effects step.kernel (step.caller :: step.child.toList)

/-- The end of a turn touches neither files nor handles. -/
theorem Step.Handles.conclude {step : Step σ Outcome} (handles : step.Handles kernel caller)
    (number : Nat) : (step.conclude number).Handles kernel caller := by
  obtain ⟨sameKernel, sameCaller, sameChild⟩ := step.same_conclude number
  have same : ∀ effect ∈ (step.conclude number).effects, effect ∈ step.effects ∨ effect.IsClean := by
    intro effect member
    unfold Step.conclude at member
    split at member
    · exact .inl member
    · exact .inl member
    · split at member
      · exact .inl member
      · exact (List.mem_append.1 member).imp id (Effect.isClean_of_singleton (by trivial) effect)
  unfold Step.Handles
  rw [sameKernel, sameCaller, sameChild]
  exact Kernel.Handles.say handles same

/-- A step that changes no file and leaves its caller the handles that it has. -/
theorem Step.handles_of_same {step : Step σ α} (files : step.kernel.files = kernel.files)
    (own : step.caller.files = caller.files) (flag : step.caller.terminated = caller.terminated)
    (child : ∀ process ∈ step.child, process.files.handles = [])
    (clean : ∀ effect ∈ step.effects, effect.IsClean) : step.Handles kernel caller := by
  refine .of_same files ?_ clean fun none process member torn => ?_
  · rw [heldLinks_cons_child child, heldLinks_singleton, heldLinks_singleton, own]
  · rcases List.mem_cons.1 member with rfl | started
    · rw [own]
      exact none caller List.mem_cons_self (flag ▸ torn)
    · exact child process (Option.mem_toList.1 started)

/-- A step of a caller that is not torn down, and goes on so. -/
theorem Step.handles_of_live {step : Step σ α} (live : step.caller.terminated = false)
    (alone : step.child = none) {releases : List FileStore.Release}
    (handling : FileStore.Handling kernel.files (caller.files.handles.map FileHandle.link) releases
      step.kernel.files (step.caller.files.handles.map FileHandle.link))
    (said : ∀ effect ∈ step.effects, effect.IsClean ∨ effect ∈ Effect.ofReleases releases) :
    step.Handles kernel caller := by
  rw [Step.Handles, alone, Option.toList_none]
  refine ⟨⟨releases, ?_, said⟩, fun _ process member torn => ?_⟩
  · rw [heldLinks_singleton, heldLinks_singleton]
    exact handling
  · rw [List.mem_singleton.1 member, live] at torn
    cases torn

namespace Service

/-- A handle that was obtained is installed, for a descriptor is free. -/
theorem handles_install {reaction : Reaction (Except SysError FileHandle)}
    (live : caller.terminated = false) (free : caller.files.hasFree = true)
    (handling : ∀ links', (reaction.value.toOption.toList.map FileHandle.link ++
        caller.files.handles.map FileHandle.link).Perm links' →
      FileStore.Handling kernel.files (caller.files.handles.map FileHandle.link) []
        reaction.kernel.files links')
    (clean : ∀ effect ∈ reaction.effects, effect.IsClean) :
    (install (reaction.toStep caller)).Handles kernel caller := by
  unfold install Reaction.toStep
  cases value : reaction.value with
  | error error =>
    rw [value] at handling
    exact Step.handles_of_live live rfl (handling _ (.refl _)) fun effect member =>
      .inl (clean effect member)
  | ok handle =>
    rw [value] at handling
    simp only
    cases installed : caller.files.allocate handle with
    | none => exact absurd installed ((caller.files.hasFree_iff handle).1 free)
    | some result =>
      have handles := DescriptorTable.handles_allocate installed
      exact Step.handles_of_live live rfl (handling _ (handles.map FileHandle.link).symm)
        fun effect member => .inl (clean effect member)

theorem handles_create (arranged : kernel.files.Arranged) (live : caller.terminated = false)
    (free : caller.files.hasFree = true) (name : FileName) :
    (create kernel caller name).Handles kernel caller := by
  have creating := FileStore.creating arranged name caller.pid
  have handed : ∀ creation : FileStore.Creation,
      (creation.handle?.elim (.error .tableFull) .ok : Except SysError FileHandle).toOption =
        creation.handle? := by
    intro creation
    cases creation <;> rfl
  have value : (kernel.createFile name caller.pid).value.toOption =
      (kernel.files.create name caller.pid).2.handle? := handed _
  have said : (Effect.note (.ofCreation name (kernel.files.create name caller.pid).2)).IsClean := by
    cases (kernel.files.create name caller.pid).2 <;> trivial
  have installed : (install ((kernel.createFile name caller.pid).toStep caller)).Handles kernel
      caller := by
    refine handles_install live free (fun links' same => .created creating ?_)
      (Effect.isClean_of_singleton said)
    rw [← value]
    exact same
  unfold create
  simp only
  split
  · exact installed
  · refine Kernel.Handles.say installed fun effect member => ?_
    exact (List.mem_append.1 member).imp id (Effect.isClean_of_singleton (by trivial) effect)

theorem handles_openFile (arranged : kernel.files.Arranged) (live : caller.terminated = false)
    (free : caller.files.hasFree = true) (name : FileName) :
    (openFile kernel caller name).Handles kernel caller := by
  have opening := FileStore.opening arranged name caller.pid
  have installed : (install ((kernel.openFile name caller.pid).toStep caller)).Handles kernel
      caller := by
    unfold Kernel.openFile
    cases opened : kernel.files.openLinked name caller.pid with
    | none =>
      exact handles_install live free (fun links' same => .moved rfl same)
        fun _ member => nomatch member
    | some result =>
      rw [opened] at opening
      exact handles_install live free (fun links' same => .opened opening same)
        fun _ member => nomatch member
  unfold openFile
  simp only
  split
  · exact installed
  · exact installed

theorem handles_close (live : caller.terminated = false) (fd : Fd) :
    (close kernel caller fd).Handles kernel caller := by
  unfold close
  cases released : caller.files.release fd with
  | none =>
    exact Step.handles_of_same rfl rfl rfl (fun _ started => nomatch started)
      fun _ member => nomatch member
  | some result =>
    obtain ⟨files, handle⟩ := result
    have handles := DescriptorTable.handles_release released
    exact Step.handles_of_live live rfl (.released [handle] (handles.map FileHandle.link))
      fun _ member => .inr member

theorem handles_unlink (arranged : kernel.files.Arranged) (live : caller.terminated = false)
    (name : FileName) : (unlink kernel caller name).Handles kernel caller := by
  have removing := FileStore.removing arranged name
  unfold unlink Kernel.unlinkFile
  cases removed : kernel.files.unlink name with
  | none =>
    exact Step.handles_of_same rfl rfl rfl (fun _ started => nomatch started)
      fun _ member => nomatch member
  | some result =>
    obtain ⟨files, unlinking⟩ := result
    rw [removed] at removing
    have said : (Effect.note (.ofUnlinking name unlinking)).IsClean := by
      cases unlinking <;> trivial
    exact Step.handles_of_live live rfl (.removed removing (.refl _)) fun effect member =>
      .inl (Effect.isClean_of_singleton said effect member)

theorem handles_exec (engine : Engine σ) (kernel : Kernel) (caller : UserProcess σ)
    (image : ProgramImage) : (exec engine kernel caller image).Handles kernel caller := by
  obtain ⟨files, none, clean⟩ := Kernel.spawn_files engine kernel (some caller.pid) image
  unfold exec
  simp only
  split
  · exact Step.handles_of_same files rfl rfl (fun _ started => nomatch started) clean
  · rename_i child value
    refine Step.handles_of_same files rfl rfl (fun process started => ?_) clean
    cases started
    exact none child value

theorem handles_halt (kernel : Kernel) (caller : UserProcess σ) :
    (halt kernel caller).Handles kernel caller := by
  have nothing := kernel.files_halt caller.pid
  unfold halt
  simp only
  split
  · exact Step.handles_of_same nothing.1 rfl rfl (fun _ started => nomatch started) nothing.2
  · exact Step.handles_of_same nothing.1 rfl rfl (fun _ started => nomatch started) nothing.2

/-- A transfer moves a cursor and leaves the links alone. -/
theorem handles_settle (live : caller.terminated = false) {fd : Fd} {file : OpenFile}
    (found : caller.files.resolve? fd = some file) {moved : Transferred σ ConsoleDevice}
    (kept : Transfer.Keeps ⟨kernel.files, kernel.console, file, caller.memory⟩ moved.1) :
    (settle kernel caller fd moved).Handles kernel caller := by
  have origins := DescriptorTable.handles_assign_moved FileHandle.origin found kept.file
  have links : (caller.files.assign fd (some moved.1.file)).handles.map FileHandle.link =
      caller.files.handles.map FileHandle.link := by
    have firsts := congrArg (List.map Prod.fst) origins
    rw [List.map_map, List.map_map] at firsts
    exact firsts
  obtain ⟨data, size, written⟩ := kept.files
  have files : (settle kernel caller fd moved).kernel.files = { kernel.files with data } := written
  have handling : FileStore.Handling kernel.files (caller.files.handles.map FileHandle.link) []
      (settle kernel caller fd moved).kernel.files
      ((settle kernel caller fd moved).caller.files.handles.map FileHandle.link) := by
    rw [files]
    exact .moved size (.of_eq links.symm)
  exact Step.handles_of_live live rfl handling fun _ member => nomatch member

variable [AddressSpace σ]

theorem handles_join (kernel : Kernel) (caller : UserProcess σ) (pending : PendingJoin) :
    (join kernel caller pending).Handles kernel caller := by
  have nothing := kernel.files_pollJoin caller.pid pending.child
  have alone : ∀ process ∈ (none : Option (UserProcess σ)), process.files.handles = [] :=
    fun _ started => nomatch started
  unfold join
  simp only
  split
  · exact Step.handles_of_same nothing.1 rfl rfl alone nothing.2
  · exact Step.handles_of_same nothing.1 rfl rfl alone nothing.2
  · unfold deliver
    split
    · exact Step.handles_of_same nothing.1 rfl rfl alone nothing.2
    · exact Step.handles_of_same nothing.1 rfl rfl alone nothing.2
    · split
      · exact Step.handles_of_same nothing.1 rfl rfl alone nothing.2
      · exact Step.handles_of_same nothing.1 rfl rfl alone nothing.2

end Service

/-! ### Turns -/

variable [AddressSpace σ]

theorem Request.handles_perform (engine : Engine σ) (arranged : kernel.files.Arranged)
    (live : caller.terminated = false) {request : Request} (fits : request.Fits caller)
    (number : Nat) : (request.perform engine kernel caller number).Handles kernel caller := by
  cases request with
  | halt => exact Service.handles_halt kernel caller
  | exit status => exact Kernel.handles_terminate kernel caller (.exited status)
  | exec image => exact (Service.handles_exec engine kernel caller image).conclude number
  | join child status => exact (Service.handles_join kernel caller ⟨child, status⟩).conclude number
  | create name => exact (Service.handles_create arranged live fits name).conclude number
  | openFile name => exact (Service.handles_openFile arranged live fits name).conclude number
  | read fd file buffer count =>
    exact (Service.handles_settle live fits (Transfer.keeps_readInto _ _ _ _)).conclude number
  | write fd file buffer count =>
    exact (Service.handles_settle live fits (Transfer.keeps_writeFrom _ _ _ _)).conclude number
  | close fd => exact (Service.handles_close live fd).conclude number
  | unlink name => exact (Service.handles_unlink arranged live name).conclude number

namespace Kernel

/-- The first turn of any call. -/
theorem handles_dispatch (engine : Engine σ) (arranged : kernel.files.Arranged)
    (caller : UserProcess σ) (number : Nat) (args : Registers) :
    (kernel.dispatch engine caller number args).Handles kernel caller := by
  have alone : ∀ process ∈ (none : Option (UserProcess σ)), process.files.handles = [] :=
    fun _ started => nomatch started
  have refused : ∀ error,
      ((Step.still kernel caller (Outcome.failed error)).conclude number).Handles kernel caller := by
    intro error
    have still : (Step.still kernel caller (Outcome.failed error)).Handles kernel caller :=
      Step.handles_of_same rfl rfl rfl alone fun _ member => nomatch member
    exact still.conclude number
  have noted : ∀ {turn : Turn σ} {notice : Notice}, (Effect.note notice).IsClean →
      turn.Handles kernel caller → (turn.after [.note notice]).Handles kernel caller := by
    intro turn notice clean handles
    refine Handles.say handles fun effect member => ?_
    exact (List.mem_append.1 member).symm.imp id (Effect.isClean_of_singleton clean effect)
  unfold dispatch
  split
  · exact Step.handles_of_same rfl rfl rfl alone fun _ member => nomatch member
  · split
    · exact Step.handles_of_same rfl rfl rfl alone (Effect.isClean_of_singleton (by trivial))
    · rename_i notTorn
      refine noted (by trivial) ?_
      unfold call
      split
      · exact noted (by trivial) (refused _)
      · split
        · exact refused _
        · rename_i formed
          exact Request.handles_perform engine arranged (Bool.eq_false_iff.2 notTorn)
            (Request.fits_ofCall formed) number

/-- A later turn of a call. -/
theorem handles_resume (kernel : Kernel) (caller : UserProcess σ) (pending : PendingJoin) :
    (kernel.resume caller pending).Handles kernel caller :=
  (Service.handles_join kernel caller pending).conclude _

end Kernel

end SyscallKernel
