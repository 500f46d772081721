import SyscallKernel.Proofs.File.Patches
import SyscallKernel.Proofs.Kernel.Links
import SyscallKernel.Proofs.Kernel.Wiring

/-!
# Cursors

A cursor starts at zero and moves by transfers only. A transfer that moves it leaves it
inside the contents or at their end, so a cursor stands behind the end of a file only if
the file was emptied since. No operation changes what else a handle says.
-/

namespace SyscallKernel

variable {σ α : Type}

namespace FileHandle

variable {files : FileStore} {earlier : List FileHandle} {handle : FileHandle}

/-- What a handle is after an operation on the files: it was just opened, or it is an earlier
one that may have moved on inside the contents. -/
inductive Follows (files : FileStore) (earlier : List FileHandle) : FileHandle → Prop where
  /-- The handle was opened. -/
  | opened (id : FileId) (data : Nat) (owner : Pid) : Follows files earlier (.atStart id data owner)
  /-- The handle was there before, and its cursor may have moved. -/
  | moved {old : FileHandle} (member : old ∈ earlier) (count : Nat)
    (covered : count = 0 ∨ old.offset + count ≤ (files.contents old.data).length) :
    Follows files earlier (old.advance count)

/-- A handle that was there before follows itself. -/
theorem Follows.same (member : handle ∈ earlier) : handle.Follows files earlier :=
  .moved member 0 (.inl rfl)

/-- Every handle permits both directions if the earlier ones did. -/
theorem Follows.access (follows : handle.Follows files earlier)
    (both : ∀ old ∈ earlier, old.access = .readWrite) : handle.access = .readWrite := by
  cases follows with
  | opened id data owner => rfl
  | @moved old member count covered => exact both old member

/-- No cursor passes a bound that the earlier ones and the lengths of the contents keep. -/
theorem Follows.offset_le {bound : Nat} (follows : handle.Follows files earlier)
    (before : ∀ old ∈ earlier, old.offset ≤ bound)
    (short : ∀ data, (files.contents data).length ≤ bound) : handle.offset ≤ bound := by
  cases follows with
  | opened id data owner => exact Nat.zero_le bound
  | moved member count covered =>
    rcases covered with rfl | inside
    · exact before _ member
    · exact Nat.le_trans inside (short _)

end FileHandle

/-! ### Transfers -/

/-- Writing makes no file shorter, and the file that it writes covers what was written. -/
theorem FileStore.length_contents_write {store : FileStore} {handle : FileHandle}
    (within : handle.data < store.data.length) (bytes : Bytes) :
    (∀ data, (store.contents data).length ≤
        ((store.write handle bytes).1.contents data).length) ∧
      handle.offset + bytes.length ≤ ((store.write handle bytes).1.contents handle.data).length := by
  constructor
  · intro data
    rw [contents_write within]
    split
    · rw [Contents.length_writeAt]
      exact Nat.le_max_left _ _
    · exact Nat.le_refl _
  · rw [contents_write within, if_pos rfl, Contents.length_writeAt]
    exact Nat.le_max_right _ _

namespace Transfer

variable {δ : Type} {t t' t'' : Transfer σ δ}

/-- The contents that an open file shares are there. -/
def Sound (t : Transfer σ δ) : Prop :=
  ∀ handle, t.file = .file handle → handle.data < t.files.data.length

/-- A transfer goes on: it makes no file shorter, and moves its cursor inside the contents. -/
structure Advances (t t' : Transfer σ δ) : Prop where
  /-- The contents stay there. -/
  sound : t'.Sound
  /-- No file gets shorter. -/
  grown : ∀ data, (t.files.contents data).length ≤ (t'.files.contents data).length
  /-- The cursor does not pass the end of the contents. -/
  file : ∀ handle, t.file = .file handle → ∃ count, t'.file = .file (handle.advance count) ∧
    (count = 0 ∨ handle.offset + count ≤ (t'.files.contents handle.data).length)

theorem Advances.refl (sound : t.Sound) : t.Advances t where
  sound := sound
  grown _ := Nat.le_refl _
  file _ isFile := ⟨0, isFile, .inl rfl⟩

theorem Advances.trans (first : t.Advances t') (second : t'.Advances t'') : t.Advances t'' where
  sound := second.sound
  grown data := Nat.le_trans (first.grown data) (second.grown data)
  file := by
    intro handle isFile
    obtain ⟨count, isFile', covered⟩ := first.file handle isFile
    obtain ⟨more, isFile'', covered'⟩ := second.file _ isFile'
    refine ⟨count + more, ?_, ?_⟩
    · rw [isFile'', FileHandle.advance, FileHandle.advance, FileHandle.advance, Nat.add_assoc]
    · rcases covered' with rfl | inside
      · rcases covered with rfl | inside
        · exact .inl rfl
        · exact .inr (Nat.le_trans inside (second.grown handle.data))
      · rw [← Nat.add_assoc]
        exact .inr inside

/-- Only the files and the open file matter. -/
theorem Advances.of_same (sound : t.Sound) (files : t'.files = t.files) (file : t'.file = t.file) :
    t.Advances t' where
  sound handle isFile := by
    rw [files]
    exact sound handle (file.symm.trans isFile)
  grown _ := Nat.le_of_eq (by rw [files])
  file handle isFile := ⟨0, file.trans isFile, .inl rfl⟩

variable [Console δ]

theorem advances_fetch (sound : t.Sound) (count : Nat) : t.Advances (t.fetch count).2 := by
  unfold fetch
  split
  · exact .of_same sound rfl rfl
  · exact .refl sound
  · rename_i handle isFile
    constructor
    case sound =>
      intro handle' isFile'
      cases isFile'
      exact sound handle isFile
    case grown => exact fun _ => Nat.le_refl _
    case file =>
      intro handle' isFile'
      rw [isFile] at isFile'
      cases isFile'
      refine ⟨_, rfl, ?_⟩
      rw [Contents.length_readAt]
      simp only
      omega

theorem advances_put (sound : t.Sound) (data : Bytes) : t.Advances (t.put data).2 := by
  unfold put
  split
  · exact .refl sound
  · exact .of_same sound rfl rfl
  · rename_i handle isFile
    obtain ⟨grown, covered⟩ := FileStore.length_contents_write (sound handle isFile) data
    constructor
    case sound =>
      intro handle' isFile'
      cases isFile'
      exact (List.length_modify ..).symm ▸ sound handle isFile
    case grown => exact grown
    case file =>
      intro handle' isFile'
      rw [isFile] at isFile'
      cases isFile'
      exact ⟨data.length, rfl, .inr covered⟩

variable [AddressSpace σ]

omit [Console δ] in
theorem advances_storeAt (sound : t.Sound) {buffer : UserAddr} {done : Nat} {data : Bytes}
    (stored : t.storeAt buffer done data = .ok t') : t.Advances t' := by
  unfold storeAt at stored
  split at stored
  · cases stored
  · split at stored
    · cases stored
    · cases stored
      exact .of_same sound rfl rfl

/-- Reading into a buffer. -/
theorem advances_readInto (sound : t.Sound) (buffer : UserAddr) (done remaining : Nat) :
    t.Advances (t.readInto buffer done remaining).1 :=
  readInto_preserves (fun _ count moved => moved.trans (advances_fetch moved.sound count))
    (fun stored moved => moved.trans (advances_storeAt moved.sound stored)) (.refl sound) buffer
    done remaining

/-- Writing a buffer. -/
theorem advances_writeFrom (sound : t.Sound) (buffer : UserAddr) (done remaining : Nat) :
    t.Advances (t.writeFrom buffer done remaining).1 :=
  writeFrom_preserves (fun _ data moved => moved.trans (advances_put moved.sound data))
    (.refl sound) buffer done remaining

end Transfer

/-! ### Processes -/

/-- After a step the handles of the caller follow those it had, and a process that was
started has none. -/
structure Step.Follows (caller : UserProcess σ) (step : Step σ α) : Prop where
  /-- The handles of the caller. -/
  caller : ∀ handle ∈ step.caller.files.handles,
    handle.Follows step.kernel.files caller.files.handles
  /-- The process that was started. -/
  child : ∀ process ∈ step.child, process.files.handles = []

variable {kernel : Kernel} {caller : UserProcess σ} {others : List (UserProcess σ)}

/-- The end of a turn moves no cursor. -/
theorem Step.Follows.conclude {step : Step σ Outcome} (follows : step.Follows caller)
    (number : Nat) : (step.conclude number).Follows caller := by
  obtain ⟨sameKernel, sameCaller, sameChild⟩ := step.same_conclude number
  constructor
  · rw [sameKernel, sameCaller]
    exact follows.caller
  · rw [sameChild]
    exact follows.child

/-- A step that leaves the descriptors of its caller alone and starts nobody. -/
theorem Step.follows_of_same {step : Step σ α} (same : step.caller.files = caller.files)
    (alone : step.child = none) : step.Follows caller := by
  constructor
  · intro handle member
    rw [same] at member
    exact .same member
  · intro process member
    rw [alone] at member
    cases member

namespace Service

/-- A handle that is installed was opened. -/
theorem follows_install (step : Step σ (Except SysError FileHandle)) (alone : step.child = none)
    (opened : ∀ handle, step.value = .ok handle →
      ∃ id data owner, handle = .atStart id data owner) :
    (install step).Follows step.caller := by
  unfold install
  split
  · exact Step.follows_of_same rfl alone
  · rename_i handle value
    split
    · rename_i files fd installed
      obtain ⟨id, data, owner, rfl⟩ := opened handle value
      refine ⟨fun other member => ?_, fun process started => ?_⟩
      · rcases List.mem_cons.1
          ((DescriptorTable.handles_allocate installed).mem_iff.1 member) with rfl | old
        · exact .opened id data owner
        · exact .same old
      · rw [alone] at started
        cases started
    · exact Step.follows_of_same rfl alone

theorem follows_create (kernel : Kernel) (caller : UserProcess σ) (name : FileName) :
    (create kernel caller name).Follows caller := by
  have installed : (install ((kernel.createFile name caller.pid).toStep caller)).Follows caller := by
    refine follows_install ((kernel.createFile name caller.pid).toStep caller) rfl
      fun handle value => ?_
    simp only [Reaction.toStep, Kernel.createFile, FileStore.create] at value
    split at value
    · cases value
      exact ⟨_, _, _, rfl⟩
    · split at value
      · cases value
      · cases value
        exact ⟨_, _, _, rfl⟩
  unfold create
  simp only
  split
  · exact ⟨installed.caller, installed.child⟩
  · exact ⟨installed.caller, installed.child⟩

theorem follows_openFile (kernel : Kernel) (caller : UserProcess σ) (name : FileName) :
    (openFile kernel caller name).Follows caller := by
  have installed : (install ((kernel.openFile name caller.pid).toStep caller)).Follows caller := by
    refine follows_install ((kernel.openFile name caller.pid).toStep caller) rfl
      fun handle value => ?_
    simp only [Reaction.toStep, Kernel.openFile, FileStore.openLinked] at value
    split at value
    · cases value
    · rename_i opened
      split at opened
      · cases opened
      · cases opened
        cases value
        exact ⟨_, _, _, rfl⟩
  unfold openFile
  simp only
  split
  · exact ⟨installed.caller, installed.child⟩
  · exact ⟨installed.caller, installed.child⟩

theorem follows_close (kernel : Kernel) (caller : UserProcess σ) (fd : Fd) :
    (close kernel caller fd).Follows caller := by
  unfold close
  split
  · exact Step.follows_of_same rfl rfl
  · rename_i released
    refine ⟨fun handle member => ?_, fun _ started => nomatch started⟩
    exact .same ((DescriptorTable.handles_release released).mem_iff.2
      (List.mem_cons_of_mem _ member))

theorem follows_unlink (kernel : Kernel) (caller : UserProcess σ) (name : FileName) :
    (unlink kernel caller name).Follows caller := by
  unfold unlink
  simp only
  split
  · exact Step.follows_of_same rfl rfl
  · exact Step.follows_of_same rfl rfl

theorem follows_exec (engine : Engine σ) (kernel : Kernel) (caller : UserProcess σ)
    (image : ProgramImage) : (exec engine kernel caller image).Follows caller := by
  unfold exec
  simp only
  split
  · exact Step.follows_of_same rfl rfl
  · rename_i child started
    refine ⟨fun handle member => .same member, fun process member => ?_⟩
    cases member
    exact Kernel.handles_of_spawn started

/-- A transfer moves the cursor of its own file. -/
theorem follows_settle {fd : Fd} {file : OpenFile} (found : caller.files.resolve? fd = some file)
    {moved : Transferred σ ConsoleDevice}
    (advances : Transfer.Advances ⟨kernel.files, kernel.console, file, caller.memory⟩ moved.1)
    (stream : file.handle? = none → moved.1.file = file) :
    (settle kernel caller fd moved).Follows caller := by
  obtain ⟨before, after, old, new⟩ :=
    DescriptorTable.handles_assign caller.files fd (some moved.1.file)
  rw [found] at old
  refine ⟨fun handle member => ?_, fun _ started => nomatch started⟩
  have member : handle ∈ before ++ DescriptorTable.slotHandles (some moved.1.file) ++ after :=
    new ▸ member
  have kept : ∀ {handle}, handle ∈ before ++ after → handle.Follows
      (settle kernel caller fd moved).kernel.files caller.files.handles := by
    intro handle beside
    refine .same ?_
    rw [old, List.append_assoc]
    rcases List.mem_append.1 beside with early | late
    · exact List.mem_append_left _ early
    · exact List.mem_append_right _ (List.mem_append_right _ late)
  rw [List.append_assoc, List.mem_append, List.mem_append] at member
  rcases member with early | here | late
  · exact kept (List.mem_append_left _ early)
  · cases file with
    | stdin =>
      rw [stream rfl] at here
      cases here
    | stdout =>
      rw [stream rfl] at here
      cases here
    | file handle' =>
      obtain ⟨count, isFile, covered⟩ := advances.file handle' rfl
      rw [isFile] at here
      cases List.mem_singleton.1 here
      refine .moved ?_ count covered
      rw [old]
      exact List.mem_append_left _ (List.mem_append_right _ (List.mem_singleton.2 rfl))
  · exact kept (List.mem_append_right _ late)

theorem follows_halt (kernel : Kernel) (caller : UserProcess σ) :
    (halt kernel caller).Follows caller := by
  unfold halt
  simp only
  split
  · exact Step.follows_of_same rfl rfl
  · exact Step.follows_of_same rfl rfl

theorem follows_exit (kernel : Kernel) (caller : UserProcess σ) (status : Register) :
    (exit kernel caller status).Follows caller :=
  ⟨fun _ member => .same (Kernel.mem_handles_of_terminate member), fun _ started => nomatch started⟩

variable [AddressSpace σ]

theorem follows_join (kernel : Kernel) (caller : UserProcess σ) (pending : PendingJoin) :
    (join kernel caller pending).Follows caller := by
  unfold join
  simp only
  split
  · exact Step.follows_of_same rfl rfl
  · exact Step.follows_of_same rfl rfl
  · unfold deliver
    split
    · exact Step.follows_of_same rfl rfl
    · exact Step.follows_of_same rfl rfl
    · split
      · exact Step.follows_of_same rfl rfl
      · exact Step.follows_of_same rfl rfl

end Service

variable [AddressSpace σ]

/-- The caller's handles share contents that are there. -/
def Kernel.Serves (kernel : Kernel) (caller : UserProcess σ) : Prop :=
  ∀ handle ∈ caller.files.handles, handle.data < kernel.files.data.length

omit [AddressSpace σ] in
/-- A transfer through a descriptor starts with contents that are there. -/
theorem Kernel.Serves.sound {δ : Type} (serves : kernel.Serves caller) {fd : Fd} {file : OpenFile}
    (found : caller.files.resolve? fd = some file) (console : δ) :
    Transfer.Sound ⟨kernel.files, console, file, caller.memory⟩ := by
  intro handle isFile
  simp only at isFile
  exact serves handle (DescriptorTable.mem_handles_of_resolve? (isFile ▸ found))

theorem Request.follows_perform (engine : Engine σ) (serves : kernel.Serves caller)
    {request : Request} (fits : request.Fits caller) (number : Nat) :
    (request.perform engine kernel caller number).Follows caller := by
  cases request with
  | halt => exact Service.follows_halt kernel caller
  | exit status => exact Service.follows_exit kernel caller status
  | exec image => exact (Service.follows_exec engine kernel caller image).conclude number
  | join child status => exact (Service.follows_join kernel caller _).conclude number
  | create name => exact (Service.follows_create kernel caller name).conclude number
  | openFile name => exact (Service.follows_openFile kernel caller name).conclude number
  | read fd file buffer count =>
    have advances := Transfer.advances_readInto (serves.sound fits kernel.console) buffer 0 count
    exact (Service.follows_settle fits advances fun stream =>
      (Transfer.same_readInto stream buffer 0 count).2).conclude number
  | write fd file buffer count =>
    have advances := Transfer.advances_writeFrom (serves.sound fits kernel.console) buffer 0 count
    exact (Service.follows_settle fits advances fun stream =>
      (Transfer.same_writeFrom stream buffer 0 count).2).conclude number
  | close fd => exact (Service.follows_close kernel caller fd).conclude number
  | unlink name => exact (Service.follows_unlink kernel caller name).conclude number

namespace Kernel

/-- The first turn of any call. -/
theorem follows_dispatch (engine : Engine σ) (serves : kernel.Serves caller) (number : Nat)
    (args : Registers) : (kernel.dispatch engine caller number args).Follows caller := by
  have refused : ∀ error,
      ((Step.still kernel caller (Outcome.failed error)).conclude number).Follows caller := by
    intro error
    have still : (Step.still kernel caller (Outcome.failed error)).Follows caller :=
      Step.follows_of_same rfl rfl
    exact still.conclude number
  unfold dispatch
  split
  · exact Step.follows_of_same rfl rfl
  · split
    · exact Step.follows_of_same rfl rfl
    · have called : (kernel.call engine caller number args).Follows caller := by
        unfold call
        split
        · exact ⟨(refused _).caller, (refused _).child⟩
        · split
          · exact refused _
          · rename_i formed
            exact Request.follows_perform engine serves (Request.fits_ofCall formed) number
      exact ⟨called.caller, called.child⟩

/-- A later turn of a call. -/
theorem follows_resume (kernel : Kernel) (caller : UserProcess σ) (pending : PendingJoin) :
    (kernel.resume caller pending).Follows caller :=
  (Service.follows_join kernel caller pending).conclude _

end Kernel

end SyscallKernel
