import SyscallKernel.Proofs.Kernel.ConsoleCalls
import SyscallKernel.Proofs.Memory.Strings

/-!
# Pointers in registers

A register that is neither negative nor null is the address it holds. A buffer there is found
exactly if each of its bytes may be accessed, and a bad address otherwise. No register and no
word leads near the last address, so nothing that the kernel reaches from there overflows.
-/

namespace SyscallKernel

variable {σ : Type}

theorem UserAddr.value_ofBuffer {raw : Register} {start : Nat} (held : raw.toNat? = some start) :
    (ofBuffer raw).value = start := by
  have small := (Register.toInt_of_toNat? held).2
  rw [ofBuffer, ofRegister?, held, Option.map_some, Option.getD_some]
  exact value_ofNat (Nat.lt_of_le_of_lt small (by decide))

theorem UserAddr.value_ofWord (word : UInt32) : (ofWord word).value = word.toNat :=
  value_ofNat (Nat.lt_trans word.toNat_lt (by decide))

namespace PagedMemory.Embedding

variable [AddressSpace σ]

/-- Paged memory as memory of its own kind. -/
def self : Embedding PagedMemory where
  embed memory := memory
  checkRange_embed _ _ _ _ := rfl
  readBytes_embed _ _ _ := rfl
  writeBytes_embed memory address data := by
    rw [AddressSpace.writeBytes]
    change memory.writeBytes address data = (memory.writeBytes address data).map id
    cases memory.writeBytes address data <;> rfl

/-- Paged memory inside another kind of memory is read as the view of its pages shows it. -/
theorem reads (E : Embedding σ) (memory : PagedMemory) :
    AddressSpace.Reads (E.embed memory) memory.view where
  lt_of_isSome := memory.reads.lt_of_isSome
  isSome_eq := memory.reads.isSome_eq
  readBytes_eq_ok_iff addr len data := by
    rw [E.readBytes_embed]
    exact memory.reads.readBytes_eq_ok_iff addr len data

end PagedMemory.Embedding

namespace Argument

variable {raw : Register} {addr : UserAddr} {start count : Nat}

/-- A register that is not negative and not null is a pointer. -/
theorem pointer?_eq (held : raw.toNat? = some start) :
    pointer? raw = if start = 0 then none else some (.ofBuffer raw) := by
  have value := UserAddr.value_ofBuffer held
  rw [UserAddr.ofBuffer, UserAddr.ofRegister?, held, Option.map_some, Option.getD_some] at value ⊢
  rw [pointer?, UserAddr.ofRegister?, held, Option.map_some, Option.filter_some,
    UserAddr.isNull, value]
  split
  · rename_i positive
    rw [if_neg]
    rintro rfl
    cases positive
  · rename_i null
    rw [if_pos]
    simpa using null

/-- A pointer is what a register holds, if that is above zero. -/
theorem pointer?_eq_some_iff :
    pointer? raw = some addr ↔ raw.toNat? = some addr.value ∧ 0 < addr.value := by
  constructor
  · intro named
    cases held : raw.toNat? with
    | none =>
      rw [pointer?, UserAddr.ofRegister?, held] at named
      cases named
    | some start =>
      rw [pointer?_eq held] at named
      split at named
      · cases named
      · rename_i above
        cases named
        rw [UserAddr.value_ofBuffer held]
        exact ⟨rfl, Nat.pos_of_ne_zero above⟩
  · rintro ⟨held, above⟩
    rw [pointer?_eq held, if_neg (Nat.ne_of_gt above)]
    exact congrArg some (UserAddr.ext (UserAddr.value_ofBuffer held))

/-! ### Buffers -/

variable [AddressSpace σ] {E : PagedMemory.Embedding σ} {memory : PagedMemory} {kind : AccessKind}

omit [AddressSpace σ] in
/-- A check of a buffer that a register leads to succeeds if each byte may be accessed. -/
theorem checkRange_ofBuffer (held : raw.toNat? = some start)
    (room : Pid.limit + count < addressCount) :
    memory.checkRange (.ofBuffer raw) count kind = .ok () ↔
      ∀ i < count, memory.Allows kind (start + i) := by
  have small := (Register.toInt_of_toNat? held).2
  rw [PagedMemory.checkRange_eq_ok_iff, UserAddr.value_ofBuffer held]
  refine forall_congr' fun i => imp_congr_right fun within => ?_
  rw [and_iff_right]
  omega

/-- An empty buffer is fine whatever its register. -/
theorem buffer_zero (memory : σ) (raw : Register) (kind : AccessKind) :
    buffer memory raw 0 kind = .ok (.ofBuffer raw) := if_pos rfl

/-- A buffer that is not found is a bad address. -/
theorem buffer_eq_badAddress {memory : σ} {error : SysError}
    (refused : buffer memory raw count kind = .error error) : error = .badAddress := by
  unfold buffer at refused
  split at refused
  · cases refused
  · split at refused
    · cases refused
      rfl
    · split at refused
      · cases refused
        rfl
      · cases refused

/-- A buffer that no address is found for is a bad address. -/
theorem buffer_of_not_found {memory : σ}
    (missing : ∀ addr, buffer memory raw count kind ≠ .ok addr) :
    buffer memory raw count kind = .error .badAddress := by
  cases found : buffer memory raw count kind with
  | error error => rw [buffer_eq_badAddress found]
  | ok addr => exact absurd found (missing addr)

omit [AddressSpace σ] in
/-- No buffer that a register can count reaches the last address. -/
theorem room_of_le (fits : count ≤ Pid.limit) : Pid.limit + count < addressCount :=
  Nat.lt_of_le_of_lt (Nat.add_le_add_left fits _) (by decide)

/-- A buffer is found exactly if its register is above null and each byte may be accessed. -/
theorem buffer_eq_ok_iff (nonempty : 0 < count) (room : Pid.limit + count < addressCount) :
    buffer (E.embed memory) raw count kind = .ok addr ↔
      raw.toNat? = some addr.value ∧ 0 < addr.value ∧
        ∀ i < count, memory.Allows kind (addr.value + i) := by
  rw [buffer, if_neg (Nat.ne_of_gt nonempty)]
  constructor
  · intro found
    cases named : pointer? raw with
    | none =>
      rw [named] at found
      cases found
    | some place =>
      obtain ⟨held, above⟩ := pointer?_eq_some_iff.1 named
      have same : UserAddr.ofBuffer raw = place := UserAddr.ext (UserAddr.value_ofBuffer held)
      simp only [named, E.checkRange_embed] at found
      cases checked : memory.checkRange place count kind with
      | error fault =>
        rw [checked] at found
        cases found
      | ok done =>
        rw [checked] at found
        cases found
        exact ⟨held, above, (checkRange_ofBuffer held room).1 (same ▸ checked)⟩
  · rintro ⟨held, above, allowed⟩
    have same : UserAddr.ofBuffer raw = addr := UserAddr.ext (UserAddr.value_ofBuffer held)
    have checked := (checkRange_ofBuffer held room).2 allowed
    rw [same] at checked
    simp only [pointer?_eq_some_iff.2 ⟨held, above⟩, E.checkRange_embed, checked]

/-- A buffer to be read is found exactly if the view of the memory covers it. -/
theorem buffer_read_eq_ok_iff (nonempty : 0 < count) (room : Pid.limit + count < addressCount) :
    buffer (E.embed memory) raw count .read = .ok addr ↔
      raw.toNat? = some addr.value ∧ 0 < addr.value ∧ memory.view.Covers addr.value count := by
  rw [buffer_eq_ok_iff nonempty room]
  refine and_congr_right fun held => and_congr_right fun _ => ?_
  have small := (Register.toInt_of_toNat? held).2
  refine forall_congr' fun i => imp_congr_right fun within => ?_
  rw [PagedMemory.isSome_view, and_iff_right (by omega)]

/-- A buffer to be read that the view does not cover is a bad address. -/
theorem buffer_read_of_not_covers (nonempty : 0 < count) (room : Pid.limit + count < addressCount)
    (missing : ∀ start, raw.toNat? = some start → 0 < start → ¬ memory.view.Covers start count) :
    buffer (E.embed memory) raw count .read = .error .badAddress := by
  refine buffer_of_not_found fun addr found => ?_
  obtain ⟨named, above, covers⟩ := (buffer_read_eq_ok_iff nonempty room).1 found
  exact missing addr.value named above covers

end Argument

end SyscallKernel
