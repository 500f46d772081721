import SyscallKernel.Proofs.Memory.Contents

/-!
# Faults name the first bad byte

A byte is granted if its page is in the table and valid and, for a write, not read-only; else
its page tells why it is denied. A check of a range is exact: it succeeds if every byte is
granted, and otherwise its fault is about the least byte that is not. A range that no address
ends is refused at its start before any byte is looked at. Reads and writes succeed on the
ranges that pass the check, and no others.
-/

namespace SyscallKernel.PagedMemory

variable {memory : PagedMemory} {kind : AccessKind} {address len : Nat} {refusal : FaultKind}
  {addr : UserAddr} {fault : Fault}

/-- The page of an address is in the table and valid, and may be written for a write. -/
def Grants (memory : PagedMemory) (kind : AccessKind) (address : Nat) : Prop :=
  ∃ flags, memory.flags? (address / pageSize) = some flags ∧ flags.valid = true ∧
    (kind = .write → flags.readOnly = false)

/-- What is wrong with the page of an address. -/
inductive Denies (memory : PagedMemory) (kind : AccessKind) (address : Nat) : FaultKind → Prop where
  /-- The page is not in the table. -/
  | absent (missing : memory.flags? (address / pageSize) = none) :
    Denies memory kind address .unmapped
  /-- The page is not valid. -/
  | invalid {flags : PageFlags} (found : memory.flags? (address / pageSize) = some flags)
    (invalid : flags.valid = false) : Denies memory kind address .unmapped
  /-- The page is valid and read-only, and a write was attempted. -/
  | readOnly {flags : PageFlags} (found : memory.flags? (address / pageSize) = some flags)
    (valid : flags.valid = true) (protects : flags.readOnly = true) (writes : kind = .write) :
    Denies memory kind address .readOnly

/-- The fault of a range is about its least byte that is denied. -/
structure FirstFault (memory : PagedMemory) (addr : UserAddr) (len : Nat) (kind : AccessKind)
    (fault : Fault) : Prop where
  /-- The byte is in the range. -/
  within : addr.value ≤ fault.addr.value ∧ fault.addr.value < addr.value + len
  /-- The fault says what is wrong with its page. -/
  denied : memory.Denies kind fault.addr.value fault.kind
  /-- Every byte of the range before it is granted. -/
  least : ∀ address, addr.value ≤ address → address < fault.addr.value → memory.Grants kind address

/-! ### Bytes -/

/-- A byte may be accessed exactly if it is granted. -/
theorem allows_iff_grants : memory.Allows kind address ↔ memory.Grants kind address := by
  rw [Allows, refusalIn?, Grants, flags?]
  cases memory.pages[address / pageSize]? with
  | none => simp only [Option.elim_none, Option.map_none, reduceCtorEq, false_and, exists_false]
  | some page =>
    simp only [Option.elim_some, Option.map_some, Option.some.injEq, exists_eq_left',
      PageFlags.refusal?]
    cases page.flags.valid <;> cases page.flags.readOnly <;> cases kind <;> decide

/-- A byte is refused for the reason for which it is denied. -/
theorem refusalIn?_eq_some_iff :
    refusalIn? kind memory.pages address = some refusal ↔ memory.Denies kind address refusal := by
  rw [refusalIn?]
  constructor
  · intro refused
    cases found : memory.pages[address / pageSize]? with
    | none =>
      rw [found] at refused
      cases refused
      exact .absent (by rw [flags?, found, Option.map_none])
    | some page =>
      have flags : memory.flags? (address / pageSize) = some page.flags := by
        rw [flags?, found, Option.map_some]
      rw [found, Option.elim_some, PageFlags.refusal?] at refused
      split at refused
      · cases refused
        exact .invalid flags ‹_›
      · rename_i valid
        split at refused
        · rename_i guarded
          cases refused
          exact .readOnly flags (Bool.not_eq_false _ ▸ valid) guarded.2 guarded.1
        · cases refused
  · have found : ∀ {flags}, memory.flags? (address / pageSize) = some flags →
        ∃ page, memory.pages[address / pageSize]? = some page ∧ page.flags = flags :=
      Option.map_eq_some_iff.1
    rintro (missing | ⟨flags, invalid⟩ | ⟨flags, valid, protects, writes⟩)
    · rw [Option.map_eq_none_iff.1 missing, Option.elim_none]
    · obtain ⟨page, listed, rfl⟩ := found flags
      rw [listed, Option.elim_some, PageFlags.refusal?, if_pos invalid]
    · obtain ⟨page, listed, rfl⟩ := found flags
      rw [listed, Option.elim_some, PageFlags.refusal?, valid, if_neg (by decide),
        if_pos ⟨writes, protects⟩]

/-! ### Ranges -/

/-- A check succeeds exactly if the range has addresses and all its bytes are granted. -/
theorem checkRange_eq_ok_iff_grants :
    memory.checkRange addr len kind = .ok () ↔ addr.value + len ≤ addressCount ∧
      ∀ address, addr.value ≤ address → address < addr.value + len →
        memory.Grants kind address := by
  rw [checkRange_eq_checkBytes, checkBytes_eq_ok_iff]
  simp only [← allows_iff_grants, Allows]

/-- A range that no address ends is refused at its start. -/
theorem checkRange_of_overflow (beyond : addressCount < addr.value + len) :
    memory.checkRange addr len kind = .error ⟨addr, .overflow⟩ := by
  rw [checkRange_eq_checkBytes, checkBytes, if_pos beyond]

/-- Any other range is refused for its first bad byte. -/
theorem checkRange_eq_error_iff (fits : addr.value + len ≤ addressCount) :
    memory.checkRange addr len kind = .error fault ↔ memory.FirstFault addr len kind fault := by
  rw [checkRange_eq_checkBytes, checkBytes, if_neg (Nat.not_lt.2 fits)]
  constructor
  · intro refused
    split at refused
    · rename_i bad refusal found
      obtain ⟨behind, within, reason, least⟩ := firstBad?_eq_some_iff.1 found
      have value : (UserAddr.ofNat bad).value = bad := UserAddr.value_ofNat (by omega)
      cases refused
      constructor
      · rw [value]
        exact ⟨behind, within⟩
      · rw [value]
        exact refusalIn?_eq_some_iff.1 reason
      · rw [value]
        exact fun address after before => allows_iff_grants.1 (least address after before)
    · cases refused
  · intro first
    have found := firstBad?_eq_some_iff.2 ⟨first.within.1, first.within.2,
      refusalIn?_eq_some_iff.2 first.denied,
      fun address after before => allows_iff_grants.2 (first.least address after before)⟩
    have same : UserAddr.ofNat fault.addr.value = fault.addr :=
      UserAddr.ext (UserAddr.value_ofNat fault.addr.isLt)
    simp only [found, same]

/-- A part of a range that passes its check passes it too. -/
theorem checkRange_part {part : UserAddr} {count : Nat}
    (checked : memory.checkRange addr len kind = .ok ()) (after : addr.value ≤ part.value)
    (before : part.value + count ≤ addr.value + len) :
    memory.checkRange part count kind = .ok () := by
  obtain ⟨fits, granted⟩ := checkRange_eq_ok_iff_grants.1 checked
  refine checkRange_eq_ok_iff_grants.2 ⟨by omega, fun address behind within => ?_⟩
  exact granted address (by omega) (by omega)

/-! ### The exact check -/

/-- What a check of a range says, and what a read or a write of the range makes of it. -/
structure ChecksExactly (memory : PagedMemory) (addr : UserAddr) (len : Nat) : Prop where
  /-- It succeeds exactly if the range is empty, or its last byte has an address and every byte
  is granted. -/
  succeeds_iff : ∀ kind, memory.checkRange addr len kind = .ok () ↔
    len = 0 ∨ addr.value + (len - 1) < addressCount ∧
      ∀ i < len, memory.Grants kind (addr.value + i)
  /-- A range whose last byte has no address overflows at its start. -/
  overflows : ∀ kind, 0 < len → addressCount ≤ addr.value + (len - 1) →
    memory.checkRange addr len kind = .error ⟨addr, .overflow⟩
  /-- Any other fault is about the least byte that is not granted. -/
  faults_iff : ∀ kind fault, addr.value + (len - 1) < addressCount →
    (memory.checkRange addr len kind = .error fault ↔ memory.FirstFault addr len kind fault)
  /-- It succeeds on a range exactly if it succeeds on each part of it. -/
  parts : ∀ kind, memory.checkRange addr len kind = .ok () ↔
    ∀ (part : UserAddr) (count : Nat), addr.value ≤ part.value →
      part.value + count ≤ addr.value + len → memory.checkRange part count kind = .ok ()
  /-- A read of the range succeeds exactly if its check does, and faults as the check does. -/
  reads : ((∃ data, memory.readBytes addr len = .ok data) ↔
      memory.checkRange addr len .read = .ok ()) ∧
    ∀ fault, memory.readBytes addr len = .error fault ↔
      memory.checkRange addr len .read = .error fault
  /-- A write over the range succeeds exactly if its check does, and faults as the check
  does. -/
  writes : ∀ data : Bytes, data.length = len →
    ((∃ memory', memory.writeBytes addr data = .ok memory') ↔
      memory.checkRange addr len .write = .ok ()) ∧
    ∀ fault, memory.writeBytes addr data = .error fault ↔
      memory.checkRange addr len .write = .error fault

/-- Every check of a range is exact, whatever the pages and wherever the range lies. -/
theorem checksExactly (memory : PagedMemory) (addr : UserAddr) (len : Nat) :
    memory.ChecksExactly addr len := by
  have inside := addr.isLt
  constructor
  case succeeds_iff =>
    intro kind
    rw [checkRange_eq_ok_iff_grants]
    constructor
    · rintro ⟨fits, granted⟩
      rcases Nat.eq_zero_or_pos len with empty | nonempty
      · exact .inl empty
      · exact .inr ⟨by omega, fun i within => granted _ (by omega) (by omega)⟩
    · rintro (rfl | ⟨fits, granted⟩)
      · exact ⟨by omega, fun address behind before => by omega⟩
      · refine ⟨by omega, fun address behind before => ?_⟩
        obtain ⟨i, rfl⟩ := Nat.exists_eq_add_of_le behind
        exact granted i (by omega)
  case overflows =>
    intro kind nonempty beyond
    exact checkRange_of_overflow (by omega)
  case faults_iff =>
    intro kind fault fits
    exact checkRange_eq_error_iff (by omega)
  case parts =>
    intro kind
    constructor
    · intro checked part count after before
      exact checkRange_part checked after before
    · intro all
      exact all addr len (Nat.le_refl _) (Nat.le_refl _)
  case reads =>
    rw [readBytes]
    cases memory.checkRange addr len .read with
    | error fault => simp only [reduceCtorEq, exists_false, Except.error.injEq, implies_true, and_self]
    | ok done => simp only [Except.ok.injEq, exists_eq', reduceCtorEq, implies_true, and_self]
  case writes =>
    rintro data rfl
    rw [writeBytes]
    cases memory.checkRange addr data.length .write with
    | error fault => simp only [reduceCtorEq, exists_false, Except.error.injEq, implies_true, and_self]
    | ok done => simp only [Except.ok.injEq, exists_eq', reduceCtorEq, implies_true, and_self]

end SyscallKernel.PagedMemory
