/-!
# Hexadecimal text

Lower-case hexadecimal numbers, padded with zeros to a least number of digits.
Addresses are written this way in fault reports and debug text.
-/

namespace SyscallKernel

/-- The lower-case hexadecimal digits of `n`, at least `width` of them. -/
def hexDigits (width n : Nat) : List Char :=
  let digits := Nat.toDigits 16 n
  List.replicate (width - digits.length) '0' ++ digits

/-- The number `n` in lower-case hexadecimal with at least `width` digits. -/
def hexText (width n : Nat) : String := String.ofList (hexDigits width n)

end SyscallKernel
