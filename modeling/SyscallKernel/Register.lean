/-!
# Argument registers

A system call receives four signed 32-bit registers. Lengths, counts, pointers
and descriptors are all registers that must not be negative; the one reading of
a register as a natural number is defined here.
-/

namespace SyscallKernel

/-- A signed 32-bit register. -/
abbrev Register := Int32

/-- The four argument registers of a system call, in order. -/
structure Registers where
  /-- First argument. -/
  a0 : Register
  /-- Second argument. -/
  a1 : Register
  /-- Third argument. -/
  a2 : Register
  /-- Fourth argument. -/
  a3 : Register
  deriving DecidableEq, Repr

namespace Register

/-- The natural number a register holds; negative registers hold none. -/
def toNat? (raw : Register) : Option Nat :=
  if raw < 0 then none else some raw.toNatClampNeg

/-- The register that holds a number, reduced modulo `2 ^ 32`. -/
def ofNat (n : Nat) : Register := Int32.ofNat n

/-- The signed decimal text of a register. -/
def render (raw : Register) : String := toString raw.toInt

end Register

namespace Registers

/-- The registers in order. -/
def toList (r : Registers) : List Register := [r.a0, r.a1, r.a2, r.a3]

/-- Up to four values in order, the missing ones zero. -/
def ofList (values : List Register) : Registers :=
  ⟨values.getD 0 0, values.getD 1 0, values.getD 2 0, values.getD 3 0⟩

end Registers

end SyscallKernel
