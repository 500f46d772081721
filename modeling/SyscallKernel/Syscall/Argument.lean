import SyscallKernel.Config
import SyscallKernel.File.Name
import SyscallKernel.Memory.Space

/-!
# Reading arguments out of user memory

Registers become checked values before any table of the kernel is touched: names
and argument vectors are copied into the kernel, and buffers are checked over
their whole length.
-/

namespace SyscallKernel.Argument

variable {σ : Type} [AddressSpace σ]

/-- The address a pointer register names, unless it is null or negative. -/
def pointer? (raw : Register) : Option UserAddr :=
  (UserAddr.ofRegister? raw).filter fun addr => !addr.isNull

/-- The file name a pointer register leads to. Whatever is wrong with the pointer
or the string, the name is invalid. -/
def fileName (memory : σ) (raw : Register) : Except SysError FileName :=
  match pointer? raw with
  | none => .error .invalidName
  | some addr =>
    match AddressSpace.readString memory addr maxNameLength with
    | .ok (some bytes) => FileName.ofBytes bytes
    | .ok none => .error .invalidName
    | .error _ => .error .invalidName

/-- The length a count register holds. -/
def count (raw : Register) : Except SysError Nat :=
  match raw.toNat? with
  | none => .error .invalidArgument
  | some n => .ok n

/-- The address of a buffer of `len` bytes, all of which may be accessed. An empty
buffer is fine whatever the pointer. -/
def buffer (memory : σ) (raw : Register) (len : Nat) (kind : AccessKind) :
    Except SysError UserAddr :=
  if len = 0 then .ok ((UserAddr.ofRegister? raw).getD .null)
  else
    match pointer? raw with
    | none => .error .badAddress
    | some addr =>
      match AddressSpace.checkRange memory addr len kind with
      | .error fault => .error fault.toSysError
      | .ok () => .ok addr

/-- The size of one entry of an argument vector. -/
def entrySize : Nat := 4

/-- The string behind entry `i` of the argument vector at `vector`. -/
def entry (memory : σ) (vector : UserAddr) (i : Nat) : Except SysError Bytes :=
  match vector.add? (i * entrySize) with
  | none => .error .badAddress
  | some slot =>
    match AddressSpace.readWord memory slot with
    | .error fault => .error fault.toSysError
    | .ok word =>
      if word = 0 then .error .badAddress
      else
        match AddressSpace.readString memory (.ofWord word) maxArgLength with
        | .error fault => .error fault.toSysError
        | .ok none => .error .invalidArgument
        | .ok (some arg) => .ok arg

/-- The strings behind `count` entries from entry `i` on, as long as they and their
terminators fit into `budget` bytes. -/
def entries (memory : σ) (vector : UserAddr) : (count i budget : Nat) → Except SysError (List Bytes)
  | 0, _, _ => .ok []
  | count + 1, i, budget =>
    match entry memory vector i with
    | .error error => .error error
    | .ok arg =>
      if budget < arg.length + 1 then .error .invalidArgument
      else
        match entries memory vector count (i + 1) (budget - (arg.length + 1)) with
        | .error error => .error error
        | .ok rest => .ok (arg :: rest)

/-- The argument vector of a program: `argc` pointers at `argv`, each to a string. -/
def vector (config : Config) (memory : σ) (argv argc : Register) : Except SysError (List Bytes) :=
  match argc.toNat? with
  | none => .error .invalidArgument
  | some n =>
    if config.maxArgs < n then .error .invalidArgument
    else if n = 0 then .ok []
    else
      match buffer memory argv (n * entrySize) .read with
      | .error error => .error error
      | .ok addr => entries memory addr n 0 config.argBytes

end SyscallKernel.Argument
