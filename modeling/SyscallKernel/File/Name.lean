import SyscallKernel.Bytes
import SyscallKernel.Error
import SyscallKernel.Text.Quoted

/-!
# File names

A file name is a byte string that keeps the naming rules: one to `maxNameLength`
bytes of well-formed UTF-8 without a zero byte. A value of the type carries the
proof, so no operation on the file store has to check a name again.
-/

namespace SyscallKernel

/-- The greatest length of a file name in bytes. -/
def maxNameLength : Nat := 256

/-- The naming rules. -/
def IsFileName (bytes : Bytes) : Prop :=
  bytes ≠ [] ∧ bytes.length ≤ maxNameLength ∧ 0 ∉ bytes ∧ bytes.toByteArray.IsValidUTF8

instance (bytes : Bytes) : Decidable (IsFileName bytes) :=
  inferInstanceAs (Decidable (_ ∧ _ ∧ _ ∧ _))

/-- The name of a file or of a program. -/
structure FileName where
  /-- The bytes of the name. -/
  bytes : Bytes
  /-- The bytes keep the naming rules. -/
  isFileName : IsFileName bytes
  deriving DecidableEq

namespace FileName

/-- Two names with the same bytes are the same. -/
@[ext] theorem ext {a b : FileName} (h : a.bytes = b.bytes) : a = b := by
  cases a; cases b; cases h; rfl

/-- The name with the given bytes, if they keep the naming rules. -/
def ofBytes (bytes : Bytes) : Except SysError FileName :=
  if h : IsFileName bytes then .ok ⟨bytes, h⟩ else .error .invalidName

/-- The characters of the name. -/
def text (name : FileName) : String :=
  String.fromUTF8 name.bytes.toByteArray name.isFileName.2.2.2

/-- The order of names: byte by byte. -/
def compare (a b : FileName) : Ordering := List.compareLex Ord.compare a.bytes b.bytes

/-- The debug text of a name. -/
def describe (name : FileName) : String := s!"FileName({Quoted.encode name.text})"

/-- Bytes make a name exactly when they keep the naming rules. -/
theorem ofBytes_eq_ok_iff {bytes : Bytes} {name : FileName} :
    ofBytes bytes = .ok name ↔ bytes = name.bytes := by
  constructor
  · intro h
    unfold ofBytes at h
    split at h
    · cases h; rfl
    · cases h
  · rintro rfl
    simp [ofBytes, name.isFileName]

/-- Whatever breaks a naming rule is refused for its name. -/
theorem ofBytes_eq_error_iff {bytes : Bytes} {error : SysError} :
    ofBytes bytes = .error error ↔ ¬ IsFileName bytes ∧ error = .invalidName := by
  unfold ofBytes
  split <;> simp_all [eq_comm]

end FileName

end SyscallKernel
