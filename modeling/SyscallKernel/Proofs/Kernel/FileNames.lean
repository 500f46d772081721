import SyscallKernel.Proofs.Kernel.Pointers

/-!
# File names in user memory

A register leads to a file name exactly if a valid name stands where it points, terminator
included. Whatever is wrong with the register, the memory or the bytes, the name is invalid.
Nothing behind the terminator and nothing behind the longest possible name has a say.
-/

namespace SyscallKernel

variable {σ : Type}

namespace Argument

variable [AddressSpace σ] {memory : σ} {view : ByteView} {raw : Register} {name : FileName}

/-- A register leads to a name exactly if the name stands where it points. -/
theorem fileName_eq_ok_iff (reads : AddressSpace.Reads memory view) :
    fileName memory raw = .ok name ↔
      ∃ start, raw.toNat? = some start ∧ 0 < start ∧ view.Spells start name.bytes := by
  have found_iff : ∀ addr, AddressSpace.readString memory addr maxNameLength =
      .ok (some name.bytes) ↔ view.Spells addr.value name.bytes := by
    intro addr
    rw [(reads.readString_scanned addr (by decide)).found_iff, Nat.lt_succ_iff]
    exact and_iff_right name.isFileName.2.1
  constructor
  · intro led
    rw [fileName] at led
    cases named : pointer? raw with
    | none =>
      rw [named] at led
      cases led
    | some addr =>
      obtain ⟨held, above⟩ := pointer?_eq_some_iff.1 named
      simp only [named] at led
      cases read : AddressSpace.readString memory addr maxNameLength with
      | error fault =>
        rw [read] at led
        cases led
      | ok text =>
        cases text with
        | none =>
          rw [read] at led
          cases led
        | some bytes =>
          rw [read] at led
          have same := FileName.ofBytes_eq_ok_iff.1 led
          exact ⟨addr.value, held, above, (found_iff addr).1 (same ▸ read)⟩
  · rintro ⟨start, held, above, spells⟩
    have value := UserAddr.value_ofBuffer held
    rw [← value] at held above spells
    rw [fileName, pointer?_eq_some_iff.2 ⟨held, above⟩]
    simp only [(found_iff _).2 spells]
    exact FileName.ofBytes_eq_ok_iff.2 rfl

/-- A register that leads to no name is refused for its name. -/
theorem fileName_eq_invalidName {error : SysError} (refused : fileName memory raw = .error error) :
    error = .invalidName := by
  rw [fileName] at refused
  split at refused
  · cases refused
    rfl
  · split at refused
    · exact (FileName.ofBytes_eq_error_iff.1 refused).2
    · cases refused
      rfl
    · cases refused
      rfl

end Argument

/-- What a register comes to as a file name. -/
structure PagedMemory.NamesFile [AddressSpace σ] (E : PagedMemory.Embedding σ)
    (memory : PagedMemory) (raw : Register) : Prop where
  /-- It names exactly the bytes of a valid name that stands at a positive address, with its
  terminator, in valid pages. -/
  accepts : ∀ bytes : Bytes,
    (∃ name, Argument.fileName (E.embed memory) raw = .ok name ∧ name.bytes = bytes) ↔
      ∃ start, raw.toNat? = some start ∧ 0 < start ∧ 1 ≤ bytes.length ∧
        bytes.length ≤ maxNameLength ∧ memory.view.Spells start bytes ∧
        bytes.toByteArray.IsValidUTF8
  /-- Otherwise it is refused for its name and for nothing else. -/
  refuses : ∀ error, Argument.fileName (E.embed memory) raw = .error error → error = .invalidName
  /-- It comes to the same in any memory that reads the same up to the first terminator, or up
  to the end of the longest name and one byte more. -/
  decided : ∀ other : PagedMemory,
    (∀ start, raw.toNat? = some start →
      memory.view.SameString other.view start (maxNameLength + 1)) →
        Argument.fileName (E.embed other) raw = Argument.fileName (E.embed memory) raw

/-- A register names a file exactly if a valid name stands where it points. -/
theorem PagedMemory.namesFile [AddressSpace σ] (E : PagedMemory.Embedding σ) (memory : PagedMemory)
    (raw : Register) : NamesFile E memory raw := by
  constructor
  case accepts =>
    intro bytes
    constructor
    · rintro ⟨name, led, rfl⟩
      obtain ⟨start, held, above, spells⟩ := (Argument.fileName_eq_ok_iff (E.reads memory)).1 led
      obtain ⟨nonempty, short, -, wellFormed⟩ := name.isFileName
      exact ⟨start, held, above, List.length_pos_iff.2 nonempty, short, spells, wellFormed⟩
    · rintro ⟨start, held, above, nonempty, short, spells, wellFormed⟩
      have valid : IsFileName bytes :=
        ⟨List.length_pos_iff.1 nonempty, short, spells.nonzero, wellFormed⟩
      exact ⟨⟨bytes, valid⟩,
        (Argument.fileName_eq_ok_iff (E.reads memory)).2 ⟨start, held, above, spells⟩, rfl⟩
  case refuses => exact fun error => Argument.fileName_eq_invalidName
  case decided =>
    intro other same
    -- A name that one of the memories leads to is one that the other leads to.
    have along : ∀ {here there : PagedMemory} {name : FileName},
        (∀ start, raw.toNat? = some start →
          here.view.SameString there.view start (maxNameLength + 1)) →
          Argument.fileName (E.embed here) raw = .ok name →
            Argument.fileName (E.embed there) raw = .ok name := by
      intro here there name same led
      obtain ⟨start, held, above, spells⟩ := (Argument.fileName_eq_ok_iff (E.reads here)).1 led
      have short := Nat.lt_succ_of_le name.isFileName.2.1
      exact (Argument.fileName_eq_ok_iff (E.reads there)).2
        ⟨start, held, above, (same start held).spells short spells⟩
    cases led : Argument.fileName (E.embed memory) raw with
    | ok name => exact along same led
    | error error =>
      cases led' : Argument.fileName (E.embed other) raw with
      | ok name =>
        have back := along (fun start held => (same start held).symm) led'
        exact nomatch led.symm.trans back
      | error error' =>
        rw [Argument.fileName_eq_invalidName led, Argument.fileName_eq_invalidName led']

end SyscallKernel
