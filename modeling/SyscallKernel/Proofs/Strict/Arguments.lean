import SyscallKernel.Proofs.Kernel.Outcomes
import SyscallKernel.Proofs.Strict.Memory

/-!
# Strict arguments and requests

Names, buffers and argument vectors as a machine reads them out of user memory. A register
holds less than `2 ^ 31` and a pointer in memory less than `2 ^ 32`, so all that a call looks at
lies far before the last address, and the lengths of its arguments add up to a word.
-/

namespace SyscallKernel

variable {memory : PagedMemory} {raw : Register} {addr vector : UserAddr} {n : Nat}

/-- A register that is not negative holds less than `2 ^ 31`. -/
theorem Register.toNat?_lt (held : raw.toNat? = some n) : n < 2 ^ 31 :=
  Nat.lt_succ_of_le (toInt_of_toNat? held).2

/-- An address in a register lies below `2 ^ 31`. -/
theorem UserAddr.ofRegister?_lt (named : ofRegister? raw = some addr) : addr.value < 2 ^ 31 := by
  obtain ⟨n, held, rfl⟩ := Option.map_eq_some_iff.1 named
  have small := Register.toNat?_lt held
  rw [value_ofNat (Nat.lt_trans small (by decide))]
  exact small

/-- A pointer in memory lies below `2 ^ 32`. -/
theorem UserAddr.ofWord_lt (word : UInt32) : (ofWord word).value < 2 ^ 32 := by
  have small : word.toNat < 2 ^ 32 := word.toNat_lt
  rw [ofWord, value_ofNat (Nat.lt_trans small (by decide))]
  exact small

namespace Argument

/-- The file name a pointer register leads to. -/
def strictFileName (memory : PagedMemory) (raw : Register) : Strict (Except SysError FileName) :=
  match pointer? raw with
  | none => .ok (.error .invalidName)
  | some addr => do
    match ← memory.strictString addr maxNameLength with
    | .ok (some bytes) => return FileName.ofBytes bytes
    | .ok none => return .error .invalidName
    | .error _ => return .error .invalidName

/-- The address of a buffer of `len` bytes, all of which may be accessed. -/
def strictBuffer (memory : PagedMemory) (raw : Register) (len : Nat) (kind : AccessKind) :
    Strict (Except SysError UserAddr) :=
  if len = 0 then .ok (.ok ((UserAddr.ofRegister? raw).getD .null))
  else
    match pointer? raw with
    | none => .ok (.error .badAddress)
    | some addr => do
      match ← memory.strictCheck addr len kind with
      | .error fault => return .error fault.toSysError
      | .ok () => return .ok addr

/-- The string behind entry `i` of an argument vector. -/
def strictEntry (memory : PagedMemory) (vector : UserAddr) (i : Nat) :
    Strict (Except SysError Bytes) := do
  let ahead ← Strict.mul64 i entrySize
  match vector.add? ahead with
  | none => return .error .badAddress
  | some slot =>
    match ← memory.strictWord slot with
    | .error fault => return .error fault.toSysError
    | .ok word =>
      if word = 0 then return .error .badAddress
      else
        match ← memory.strictString (.ofWord word) maxArgLength with
        | .error fault => return .error fault.toSysError
        | .ok none => return .error .invalidArgument
        | .ok (some arg) => return .ok arg

/-- The strings behind `count` entries from entry `i` on. They and their terminators, and
`total` bytes before them, have to fit into `budget` bytes. -/
def strictEntries (memory : PagedMemory) (vector : UserAddr) (budget : Nat) :
    (count i total : Nat) → Strict (Except SysError (List Bytes))
  | 0, _, _ => .ok (.ok [])
  | count + 1, i, total => do
    match ← strictEntry memory vector i with
    | .error error => return .error error
    | .ok arg =>
      let size ← Strict.add64 arg.length 1
      let total ← Strict.add64 total size
      if budget < total then return .error .invalidArgument
      else
        match ← strictEntries memory vector budget count (i + 1) total with
        | .error error => return .error error
        | .ok rest => return .ok (arg :: rest)

/-- The argument vector of a program: `argc` pointers at `argv`, each to a string. -/
def strictVector (config : Config) (memory : PagedMemory) (argv argc : Register) :
    Strict (Except SysError (List Bytes)) :=
  match argc.toNat? with
  | none => .ok (.error .invalidArgument)
  | some n =>
    if config.maxArgs < n then .ok (.error .invalidArgument)
    else if n = 0 then .ok (.ok [])
    else do
      let size ← Strict.mul64 n entrySize
      match ← strictBuffer memory argv size .read with
      | .error error => return .error error
      | .ok addr => strictEntries memory addr config.argBytes n 0 0

theorem pointer?_lt (named : pointer? raw = some addr) : addr.value < 2 ^ 31 :=
  UserAddr.ofRegister?_lt (Option.filter_eq_some_iff.1 named).1

theorem strictFileName_eq (memory : PagedMemory) (raw : Register) :
    strictFileName memory raw = .ok (fileName memory raw) := by
  rw [strictFileName, fileName]
  cases named : pointer? raw with
  | none => rfl
  | some addr =>
    have low := pointer?_lt named
    have short : maxNameLength < 2 ^ 31 := by decide
    have read : memory.strictString addr maxNameLength = _ := memory.strictString_eq (by omega)
    simp only [read, Strict.ok_bind]
    cases AddressSpace.readString memory addr maxNameLength with
    | error fault => rfl
    | ok text => cases text <;> rfl

theorem strictBuffer_eq (memory : PagedMemory) (raw : Register) (len : Nat) (kind : AccessKind) :
    strictBuffer memory raw len kind = .ok (buffer memory raw len kind) := by
  rw [strictBuffer, buffer]
  split
  · rfl
  · cases pointer? raw with
    | none => rfl
    | some addr =>
      simp only [PagedMemory.strictCheck_eq, Strict.ok_bind, AddressSpace.checkRange]
      cases memory.checkRange addr len kind <;> rfl

/-- A buffer lies below `2 ^ 31`. -/
theorem buffer_lt {len : Nat} {kind : AccessKind} (found : buffer memory raw len kind = .ok addr) :
    addr.value < 2 ^ 31 := by
  unfold buffer at found
  split at found
  · cases found
    cases named : UserAddr.ofRegister? raw with
    | none => exact (by decide : UserAddr.null.value < 2 ^ 31)
    | some addr => exact UserAddr.ofRegister?_lt named
  · split at found
    · cases found
    · rename_i named
      split at found
      · cases found
      · cases found
        exact pointer?_lt named

/-- An entry of a vector that begins below `2 ^ 31`. -/
theorem strictEntry_eq (low : vector.value < 2 ^ 31) {i : Nat} (few : i < 2 ^ 31) :
    strictEntry memory vector i = .ok (entry memory vector i) := by
  have ahead : i * entrySize = i * 4 := rfl
  rw [strictEntry, entry, Strict.mul64_eq (by omega), Strict.ok_bind]
  cases reached : vector.add? (i * entrySize) with
  | none => rfl
  | some slot =>
    have value := UserAddr.add?_eq_some.1 reached
    have read : memory.strictWord slot = _ := memory.strictWord_eq (by omega)
    simp only [read, Strict.ok_bind]
    cases AddressSpace.readWord memory slot with
    | error fault => rfl
    | ok word =>
      have below := UserAddr.ofWord_lt word
      have short : maxArgLength < 2 ^ 31 := by decide
      have read : memory.strictString (.ofWord word) maxArgLength = _ :=
        memory.strictString_eq (by omega)
      simp only [read, Strict.ok_bind]
      split
      · rfl
      · cases AddressSpace.readString memory (.ofWord word) maxArgLength with
        | error fault => rfl
        | ok text => cases text <;> rfl

/-- An argument is no longer than it may be. -/
theorem length_entry_le {i : Nat} {arg : Bytes} (read : entry memory vector i = .ok arg) :
    arg.length ≤ maxArgLength := by
  unfold entry at read
  split at read
  · cases read
  · split at read
    · cases read
    · split at read
      · cases read
      · split at read
        · cases read
        · cases read
        · rename_i text
          cases read
          exact PagedMemory.length_readString_le text

/-- The entries of a vector that begins below `2 ^ 31`, of which some come before. -/
theorem strictEntries_eq (low : vector.value < 2 ^ 31) {budget count i total : Nat}
    (few : i + count < 2 ^ 31) (short : total ≤ i * (maxArgLength + 1)) (within : total ≤ budget) :
    strictEntries memory vector budget count i total =
      .ok (entries memory vector count i (budget - total)) := by
  induction count generalizing i total with
  | zero => rfl
  | succ count ih =>
    rw [strictEntries, entries, strictEntry_eq low (by omega), Strict.ok_bind]
    cases read : entry memory vector i with
    | error error => rfl
    | ok arg =>
      have length := length_entry_le read
      have limit : maxArgLength = 256 := rfl
      have before : i * (maxArgLength + 1) = i * 257 := rfl
      have after : (i + 1) * (maxArgLength + 1) = (i + 1) * 257 := rfl
      simp only [Strict.add64_eq (by omega : arg.length + 1 < 2 ^ 64), Strict.ok_bind,
        Strict.add64_eq (by omega : total + (arg.length + 1) < 2 ^ 64)]
      by_cases excess : budget < total + (arg.length + 1)
      · rw [if_pos excess, if_pos (by omega)]
        rfl
      · have rest := @ih (i + 1) (total + (arg.length + 1)) (by omega) (by omega) (by omega)
        have left : budget - (total + (arg.length + 1)) = budget - total - (arg.length + 1) := by
          omega
        rw [if_neg excess, if_neg (by omega), rest, left, Strict.ok_bind]
        cases entries memory vector count (i + 1) (budget - total - (arg.length + 1)) <;> rfl

theorem strictVector_eq (config : Config) (memory : PagedMemory) (argv argc : Register) :
    strictVector config memory argv argc = .ok (Argument.vector config memory argv argc) := by
  rw [strictVector, Argument.vector]
  cases held : argc.toNat? with
  | none => rfl
  | some n =>
    have small := Register.toNat?_lt held
    have size : n * entrySize = n * 4 := rfl
    simp only
    split
    · rfl
    · split
      · rfl
      · rw [Strict.mul64_eq (by omega), Strict.ok_bind, strictBuffer_eq, Strict.ok_bind]
        cases found : buffer memory argv (n * entrySize) .read with
        | error error => rfl
        | ok addr =>
          have low := buffer_lt found
          exact strictEntries_eq low (by omega) (Nat.zero_le _) (Nat.zero_le _)

end Argument

/-! ### Requests -/

namespace Request

variable {process : UserProcess PagedMemory} {args : Registers}

/-- The image that the registers of an `exec` describe. -/
def strictImage (config : Config) (memory : PagedMemory) (args : Registers) :
    Strict (Except SysError ProgramImage) := do
  match ← Argument.strictFileName memory args.a0 with
  | .error error => return .error error
  | .ok name =>
    let args ← Argument.strictVector config memory args.a2 args.a1
    return args.map (ProgramImage.mk name)

/-- The place for a child's status. -/
def strictStatusPlace (memory : PagedMemory) (raw : Register) :
    Strict (Except SysError (Option UserAddr)) :=
  match UserAddr.ofRegister? raw with
  | none => .ok (.error .badAddress)
  | some addr =>
    if addr.isNull then .ok (.ok none)
    else do
      match ← memory.strictCheck addr 4 .write with
      | .error fault => return .error fault.toSysError
      | .ok () => return .ok (some addr)

/-- The child and the place for its status. -/
def strictJoinArguments (memory : PagedMemory) (args : Registers) :
    Strict (Except SysError (Pid × Option UserAddr)) :=
  match Pid.ofRegister? args.a0 with
  | none => .ok (.error .notFound)
  | some child => do
    let status ← strictStatusPlace memory args.a1
    return status.map (child, ·)

/-- The name of a file to open, provided that a descriptor is free for it. -/
def strictNameToOpen (process : UserProcess PagedMemory) (raw : Register) :
    Strict (Except SysError FileName) := do
  let name ← Argument.strictFileName process.memory raw
  return name.bind fun name => if process.files.hasFree then .ok name else .error .tableFull

/-- The open file, the buffer and the length of a transfer in one direction. -/
def strictTransferArguments (process : UserProcess PagedMemory) (allowed : Access → Bool)
    (kind : AccessKind) (args : Registers) :
    Strict (Except SysError (Fd × OpenFile × UserAddr × Nat)) :=
  match Argument.count args.a2, descriptor args.a0 with
  | .error error, _ => .ok (.error error)
  | .ok _, .error error => .ok (.error error)
  | .ok count, .ok fd =>
    match process.files.resolve? fd with
    | none => .ok (.error .invalidDescriptor)
    | some file =>
      if allowed file.access then do
        let buffer ← Argument.strictBuffer process.memory args.a1 count kind
        return buffer.map (fd, file, ·, count)
      else .ok (.error .permissionDenied)

/-- The request that a call and its registers make. -/
def strictOfCall (config : Config) (process : UserProcess PagedMemory) (args : Registers) :
    Syscall → Strict (Except SysError Request)
  | .halt => .ok (.ok .halt)
  | .exit => .ok (.ok (.exit args.a0))
  | .exec => do
    let image ← strictImage config process.memory args
    return image.map .exec
  | .join => do
    let found ← strictJoinArguments process.memory args
    return found.map fun (child, status) => .join child status
  | .create => do
    let name ← strictNameToOpen process args.a0
    return name.map .create
  | .openFile => do
    let name ← strictNameToOpen process args.a0
    return name.map .openFile
  | .read => do
    let found ← strictTransferArguments process Access.reads .write args
    return found.map fun (fd, file, buffer, count) => .read fd file buffer count
  | .write => do
    let found ← strictTransferArguments process Access.writes .read args
    return found.map fun (fd, file, buffer, count) => .write fd file buffer count
  | .close => .ok ((descriptor args.a0).map .close)
  | .unlink => do
    let name ← Argument.strictFileName process.memory args.a0
    return name.map .unlink

theorem strictImage_eq (config : Config) (memory : PagedMemory) (args : Registers) :
    strictImage config memory args = .ok (image config memory args) := by
  rw [strictImage, image, Argument.strictFileName_eq, Strict.ok_bind]
  cases Argument.fileName memory args.a0 with
  | error error => rfl
  | ok name =>
    simp only [Argument.strictVector_eq, Strict.ok_bind]
    cases Argument.vector config memory args.a2 args.a1 <;> rfl

theorem strictJoinArguments_eq (memory : PagedMemory) (args : Registers) :
    strictJoinArguments memory args = .ok (joinArguments memory args) := by
  have place : strictStatusPlace memory args.a1 = .ok (statusPlace memory args.a1) := by
    rw [strictStatusPlace, statusPlace]
    cases UserAddr.ofRegister? args.a1 with
    | none => rfl
    | some addr =>
      simp only [PagedMemory.strictCheck_eq, Strict.ok_bind, AddressSpace.checkRange]
      split
      · rfl
      · cases memory.checkRange addr 4 .write <;> rfl
  rw [strictJoinArguments, joinArguments]
  cases Pid.ofRegister? args.a0 with
  | none => rfl
  | some child =>
    simp only [place, Strict.ok_bind]
    cases statusPlace memory args.a1 <;> rfl

theorem strictNameToOpen_eq (process : UserProcess PagedMemory) (raw : Register) :
    strictNameToOpen process raw = .ok (nameToOpen process raw) := by
  rw [strictNameToOpen, nameToOpen, Argument.strictFileName_eq, Strict.ok_bind]
  cases Argument.fileName process.memory raw <;> rfl

theorem strictTransferArguments_eq (process : UserProcess PagedMemory) (allowed : Access → Bool)
    (kind : AccessKind) (args : Registers) :
    strictTransferArguments process allowed kind args =
      .ok (transferArguments process allowed kind args) := by
  rw [strictTransferArguments, transferArguments]
  cases Argument.count args.a2 with
  | error error => rfl
  | ok count =>
    cases descriptor args.a0 with
    | error error => rfl
    | ok fd =>
      simp only [Argument.strictBuffer_eq, bind, Except.bind]
      cases process.files.resolve? fd with
      | none => rfl
      | some file =>
        simp only
        split
        · cases Argument.buffer process.memory args.a1 count kind <;> rfl
        · rfl

/-- No registers make the forming of a request meet a hazard. -/
theorem strictOfCall_eq (config : Config) (process : UserProcess PagedMemory) (args : Registers)
    (call : Syscall) :
    strictOfCall config process args call = .ok (ofCall config process args call) := by
  cases call with
  | halt | exit | close => rfl
  | exec => rw [strictOfCall, ofCall, strictImage_eq]; rfl
  | join => rw [strictOfCall, ofCall, strictJoinArguments_eq]; rfl
  | create | openFile => rw [strictOfCall, ofCall, strictNameToOpen_eq]; rfl
  | read | write => rw [strictOfCall, ofCall, strictTransferArguments_eq]; rfl
  | unlink => rw [strictOfCall, ofCall, Argument.strictFileName_eq]; rfl

/-- What a request leads to lies below `2 ^ 31`, and so does its length. -/
def Low : Request → Prop
  | .join _ status => ∀ place, status = some place → place.value < 2 ^ 31
  | .read _ _ buffer count => buffer.value < 2 ^ 31 ∧ count < 2 ^ 31
  | .write _ _ buffer count => buffer.value < 2 ^ 31 ∧ count < 2 ^ 31
  | _ => True

section Places

variable {σ : Type} [AddressSpace σ] {memory : σ} {status : Option UserAddr}

theorem low_of_statusPlace {raw : Register} (found : statusPlace memory raw = .ok status) :
    ∀ place, status = some place → place.value < 2 ^ 31 := by
  intro place wanted
  subst wanted
  unfold statusPlace at found
  split at found
  · cases found
  · rename_i named
    split at found
    · cases found
    · split at found
      · cases found
      · cases found
        exact UserAddr.ofRegister?_lt named

theorem low_of_joinArguments {child : Pid}
    (found : joinArguments memory args = .ok (child, status)) :
    ∀ place, status = some place → place.value < 2 ^ 31 := by
  simp only [joinArguments, bind, Except.bind] at found
  split at found
  · cases found
  · split at found
    · cases found
    · rename_i placed
      cases found
      exact low_of_statusPlace placed

end Places

theorem low_of_transferArguments {allowed : Access → Bool} {kind : AccessKind} {fd : Fd}
    {file : OpenFile} {buffer : UserAddr} {count : Nat}
    (found : transferArguments process allowed kind args = .ok (fd, file, buffer, count)) :
    buffer.value < 2 ^ 31 ∧ count < 2 ^ 31 := by
  obtain ⟨held, -, -, -, checked⟩ := transferArguments_eq_ok_iff.1 found
  exact ⟨Argument.buffer_lt checked, Register.toNat?_lt held⟩

/-- Registers lead to low addresses. -/
theorem low_ofCall {config : Config} {call : Syscall} {request : Request}
    (formed : ofCall config process args call = .ok request) : request.Low := by
  cases call with
  | halt | exit => cases formed; trivial
  | exec | create | openFile | close | unlink =>
    obtain ⟨_, _, rfl⟩ := exists_ok_of_map formed
    trivial
  | join =>
    obtain ⟨⟨child, status⟩, found, rfl⟩ := exists_ok_of_map formed
    exact low_of_joinArguments found
  | read | write =>
    obtain ⟨⟨fd, file, buffer, count⟩, found, rfl⟩ := exists_ok_of_map formed
    exact low_of_transferArguments found

end Request

end SyscallKernel
