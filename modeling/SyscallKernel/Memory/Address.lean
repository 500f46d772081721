import SyscallKernel.Register
import SyscallKernel.Text.Hex

/-!
# User addresses

Pages are 1 KiB. A user address is a number below `2 ^ 64` that only the address
space may interpret: negative registers never become addresses, and adding to an
address either stays below `2 ^ 64` or gives nothing.
-/

namespace SyscallKernel

/-- Bytes in a page of user memory. -/
def pageSize : Nat := 1024

/-- Bits of an address that select a byte inside its page. -/
def pageMask : Nat := pageSize - 1

/-- Bits to shift an address by to obtain its page number. -/
def pageShift : Nat := 10

/-- The number of addresses that 64 bits can hold. -/
def addressCount : Nat := 18446744073709551616

/-- An address in a user process. -/
structure UserAddr where
  /-- The numeric value. -/
  value : Nat
  /-- Addresses have 64 bits. -/
  isLt : value < addressCount
  deriving DecidableEq

namespace UserAddr

/-- Two addresses with the same value are the same. -/
@[ext] theorem ext {a b : UserAddr} (h : a.value = b.value) : a = b := by
  cases a; cases b; cases h; rfl

/-- The null pointer. -/
def null : UserAddr := ⟨0, by decide⟩

/-- The address with value `n`, if `n` has at most 64 bits. -/
def ofNat? (n : Nat) : Option UserAddr :=
  if h : n < addressCount then some ⟨n, h⟩ else none

/-- The address with value `n` modulo `addressCount`. -/
def ofNat (n : Nat) : UserAddr := ⟨n % addressCount, Nat.mod_lt _ (by decide)⟩

/-- The address a register names; negative registers name none. -/
def ofRegister? (raw : Register) : Option UserAddr := raw.toNat?.map ofNat

/-- The address a 32-bit pointer names. -/
def ofWord (word : UInt32) : UserAddr := ofNat word.toNat

/-- Whether this is the null pointer. -/
def isNull (addr : UserAddr) : Bool := addr.value == 0

/-- The number of the page that holds the address. -/
def pageNumber (addr : UserAddr) : Nat := addr.value >>> pageShift

/-- The position of the address inside its page. -/
def pageOffset (addr : UserAddr) : Nat := addr.value &&& pageMask

/-- The address `n` bytes further on, if it has at most 64 bits. -/
def add? (addr : UserAddr) (n : Nat) : Option UserAddr := ofNat? (addr.value + n)

/-- The text of an address: `0x` and at least eight hexadecimal digits. -/
def render (addr : UserAddr) : String := "0x" ++ hexText 8 addr.value

/-- The debug text of an address. -/
def describe (addr : UserAddr) : String := s!"UserAddr({addr.render})"

theorem value_ofNat {n : Nat} (h : n < addressCount) : (ofNat n).value = n := Nat.mod_eq_of_lt h

theorem ofNat?_eq_some {n : Nat} {addr : UserAddr} : ofNat? n = some addr ↔ n = addr.value := by
  constructor
  · intro h
    simp only [ofNat?] at h
    split at h
    · cases h; rfl
    · cases h
  · rintro rfl
    exact dif_pos addr.isLt

theorem add?_eq_some {addr sum : UserAddr} {n : Nat} :
    addr.add? n = some sum ↔ addr.value + n = sum.value := ofNat?_eq_some

/-- An address that cannot be moved on so far would leave the addresses. -/
theorem le_of_add?_eq_none {addr : UserAddr} {n : Nat} (stuck : addr.add? n = none) :
    addressCount ≤ addr.value + n := by
  refine Nat.le_of_not_lt fun inside => ?_
  rw [add?, ofNat?, dif_pos inside] at stuck
  cases stuck

theorem pageNumber_eq (addr : UserAddr) : addr.pageNumber = addr.value / pageSize :=
  Nat.shiftRight_eq_div_pow addr.value pageShift

theorem pageOffset_eq (addr : UserAddr) : addr.pageOffset = addr.value % pageSize :=
  Nat.and_two_pow_sub_one_eq_mod addr.value pageShift

theorem pageOffset_lt (addr : UserAddr) : addr.pageOffset < pageSize := by
  rw [pageOffset_eq]
  exact Nat.mod_lt _ (by decide)

/-- Page number and offset determine the address. -/
theorem pageNumber_mul_add_pageOffset (addr : UserAddr) :
    addr.pageNumber * pageSize + addr.pageOffset = addr.value := by
  rw [pageNumber_eq, pageOffset_eq, Nat.mul_comm]
  exact Nat.div_add_mod addr.value pageSize

end UserAddr

end SyscallKernel
