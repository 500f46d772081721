import SyscallKernel.Session.Memory

/-!
# Address spaces that mirror another

Strings, words, names, buffers and argument vectors are read by three operations of an address
space alone. So if these three are those of another address space, every operation of a session
is answered as in the other one and does the same.
-/

namespace SyscallKernel

/-- A store is answered alike wherever it takes place. -/
theorem SpaceAction.afterStore_map {σ τ : Type} (image : σ → τ) (memory : σ)
    (stored : Except Fault σ) :
    afterStore (image memory) (stored.map image) =
      (image (afterStore memory stored).1, (afterStore memory stored).2) := by
  cases stored <;> rfl

/-- The three operations of one address space are those of another, read through `image`. -/
structure AddressSpace.Mirrors {σ τ : Type} [AddressSpace σ] [AddressSpace τ] (image : σ → τ) :
    Prop where
  /-- Checks say the same. -/
  checkRange : ∀ memory addr len kind,
    AddressSpace.checkRange (image memory) addr len kind =
      AddressSpace.checkRange memory addr len kind
  /-- Reads say the same. -/
  readBytes : ∀ memory addr len,
    AddressSpace.readBytes (image memory) addr len = AddressSpace.readBytes memory addr len
  /-- Writes do the same. -/
  writeBytes : ∀ memory addr data,
    AddressSpace.writeBytes (image memory) addr data =
      (AddressSpace.writeBytes memory addr data).map image

namespace AddressSpace.Mirrors

variable {σ τ : Type} [AddressSpace σ] [AddressSpace τ] {image : σ → τ}

/-- Strings are read alike. -/
theorem scanString (mirrors : Mirrors image) (memory : σ) (cursor : UserAddr) (remaining : Nat) :
    AddressSpace.scanString (image memory) cursor remaining =
      AddressSpace.scanString memory cursor remaining := by
  induction remaining using Nat.strongRecOn generalizing cursor with
  | ind remaining ih =>
    rw [AddressSpace.scanString, AddressSpace.scanString]
    split
    · rfl
    · rename_i nonempty
      have room : 0 < pageSize - cursor.pageOffset := Nat.sub_pos_of_lt cursor.pageOffset_lt
      simp only [mirrors.readBytes]
      split
      · rfl
      · split
        · rfl
        · split
          · rfl
          · rw [ih _ (by omega)]

/-- Words are read alike. -/
theorem readWord (mirrors : Mirrors image) (memory : σ) (addr : UserAddr) :
    AddressSpace.readWord (image memory) addr = AddressSpace.readWord memory addr := by
  rw [AddressSpace.readWord, mirrors.readBytes, AddressSpace.readWord]

theorem fileName (mirrors : Mirrors image) (memory : σ) (raw : Register) :
    Argument.fileName (image memory) raw = Argument.fileName memory raw := by
  simp only [Argument.fileName, AddressSpace.readString, mirrors.scanString]

theorem buffer (mirrors : Mirrors image) (memory : σ) (raw : Register) (len : Nat)
    (kind : AccessKind) :
    Argument.buffer (image memory) raw len kind = Argument.buffer memory raw len kind := by
  simp only [Argument.buffer, mirrors.checkRange]

theorem entries (mirrors : Mirrors image) (memory : σ) (vector : UserAddr) (count i budget : Nat) :
    Argument.entries (image memory) vector count i budget =
      Argument.entries memory vector count i budget := by
  have entry : ∀ i, Argument.entry (image memory) vector i = Argument.entry memory vector i := by
    intro i
    simp only [Argument.entry, AddressSpace.readString, mirrors.readWord, mirrors.scanString]
  induction count generalizing i budget with
  | zero => rfl
  | succ count ih => simp only [Argument.entries, entry, ih]

/-- Every operation does the same and is answered alike. -/
theorem run (mirrors : Mirrors image) (memory : σ) (action : SpaceAction) :
    action.run (image memory) = (image (action.run memory).1, (action.run memory).2) := by
  cases action with
  | write addr data =>
    rw [SpaceAction.run, mirrors.writeBytes]
    exact SpaceAction.afterStore_map image memory _
  | writeWord addr value =>
    rw [SpaceAction.run, AddressSpace.writeWord, mirrors.writeBytes]
    exact SpaceAction.afterStore_map image memory _
  | read addr len => rw [SpaceAction.run, mirrors.readBytes]; rfl
  | check addr len kind => rw [SpaceAction.run, mirrors.checkRange]; rfl
  | readString addr maxLength =>
    rw [SpaceAction.run, AddressSpace.readString, mirrors.scanString]
    rfl
  | readWord addr => rw [SpaceAction.run, mirrors.readWord]; rfl
  | fileName raw => rw [SpaceAction.run, mirrors.fileName]; rfl
  | buffer raw len kind => rw [SpaceAction.run, mirrors.buffer]; rfl
  | arguments config argv argc =>
    simp only [SpaceAction.run, Argument.vector, mirrors.buffer, mirrors.entries]
  | count raw => rfl

end AddressSpace.Mirrors

end SyscallKernel
