import SyscallKernel.Proofs.File.Accounting
import SyscallKernel.Syscall.Transfer

/-!
# What transfers leave alone

A transfer moves the cursor of one open file and may change contents, the console
and the memory of the caller. The links that handles hold stay as they are, however
many pages are moved and wherever a fault ends the transfer.
-/

namespace SyscallKernel

/-- What a handle holds on to and who opened it. -/
def FileHandle.origin (handle : FileHandle) : (FileId × Nat) × Pid := (handle.link, handle.owner)

namespace Transfer

variable {σ δ : Type}

/-- A transfer leaves the links alone. -/
structure Keeps (t t' : Transfer σ δ) : Prop where
  /-- The file store changes in its contents at most. -/
  files : ∃ data, data.length = t.files.data.length ∧ t'.files = { t.files with data }
  /-- The open file refers to the same entry and shares the same contents. -/
  file : t'.file.handle?.map FileHandle.origin = t.file.handle?.map FileHandle.origin

theorem Keeps.refl (t : Transfer σ δ) : t.Keeps t := ⟨⟨t.files.data, rfl, rfl⟩, rfl⟩

theorem Keeps.trans {t t' t'' : Transfer σ δ} (first : t.Keeps t') (second : t'.Keeps t'') :
    t.Keeps t'' where
  files := by
    obtain ⟨data, size, written⟩ := first.files
    obtain ⟨data', size', written'⟩ := second.files
    rw [written] at size' written'
    exact ⟨data', size'.trans size, written'⟩
  file := second.file.trans first.file

variable [Console δ]

theorem keeps_fetch (t : Transfer σ δ) (count : Nat) : t.Keeps (t.fetch count).2 := by
  unfold fetch
  split
  · exact ⟨⟨t.files.data, rfl, rfl⟩, rfl⟩
  · exact .refl t
  · rename_i handle isFile
    refine ⟨⟨t.files.data, rfl, rfl⟩, ?_⟩
    rw [isFile]
    rfl

theorem keeps_put (t : Transfer σ δ) (data : Bytes) : t.Keeps (t.put data).2 := by
  unfold put
  split
  · exact .refl t
  · exact ⟨⟨t.files.data, rfl, rfl⟩, rfl⟩
  · rename_i handle isFile
    refine ⟨⟨_, List.length_modify .., rfl⟩, ?_⟩
    rw [isFile]
    rfl

variable [AddressSpace σ]

omit [Console δ] in
theorem keeps_storeAt {t t' : Transfer σ δ} {buffer : UserAddr} {done : Nat} {data : Bytes}
    (stored : t.storeAt buffer done data = .ok t') : t.Keeps t' := by
  unfold storeAt at stored
  split at stored
  · cases stored
  · split at stored
    · cases stored
    · cases stored
      exact ⟨⟨t.files.data, rfl, rfl⟩, rfl⟩

/-- What fetching and storing preserve, reading into a buffer preserves, page by page. -/
theorem readInto_preserves {P : Transfer σ δ → Prop}
    (fetch : ∀ t count, P t → P (t.fetch count).2)
    (storeAt : ∀ {t t' : Transfer σ δ} {buffer done data},
      t.storeAt buffer done data = .ok t' → P t → P t')
    {t : Transfer σ δ} (holds : P t) (buffer : UserAddr) (done remaining : Nat) :
    P (t.readInto buffer done remaining).1 := by
  induction remaining using Nat.strongRecOn generalizing t done with
  | ind remaining ih =>
    rw [readInto]
    split
    · exact holds
    · have fetched := fetch t (min remaining pageSize) holds
      simp only
      split
      · exact fetched
      · split
        · exact fetched
        · rename_i stored storedAt
          have kept := storeAt storedAt fetched
          split
          · exact kept
          · have page : 0 < pageSize := by decide
            have fewer : remaining - min remaining pageSize < remaining := by omega
            exact ih _ fewer kept _

/-- What giving bytes preserves, writing a buffer preserves, page by page. -/
theorem writeFrom_preserves {P : Transfer σ δ → Prop} (put : ∀ t data, P t → P (t.put data).2)
    {t : Transfer σ δ} (holds : P t) (buffer : UserAddr) (done remaining : Nat) :
    P (t.writeFrom buffer done remaining).1 := by
  induction remaining using Nat.strongRecOn generalizing t done with
  | ind remaining ih =>
    rw [writeFrom]
    split
    · exact holds
    · simp only
      split
      · exact holds
      · rename_i data loaded
        have given := put t data holds
        split
        · exact given
        · have page : 0 < pageSize := by decide
          have fewer : remaining - min remaining pageSize < remaining := by omega
          exact ih _ fewer given _

/-- Reading into a buffer leaves the links alone. -/
theorem keeps_readInto (t : Transfer σ δ) (buffer : UserAddr) (done remaining : Nat) :
    t.Keeps (t.readInto buffer done remaining).1 :=
  readInto_preserves (fun t' count kept => kept.trans (keeps_fetch t' count))
    (fun stored kept => kept.trans (keeps_storeAt stored)) (.refl t) buffer done remaining

/-- Writing a buffer leaves the links alone. -/
theorem keeps_writeFrom (t : Transfer σ δ) (buffer : UserAddr) (done remaining : Nat) :
    t.Keeps (t.writeFrom buffer done remaining).1 :=
  writeFrom_preserves (fun t' data kept => kept.trans (keeps_put t' data)) (.refl t) buffer done
    remaining

end Transfer

end SyscallKernel
