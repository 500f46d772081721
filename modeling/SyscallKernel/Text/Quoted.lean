import SyscallKernel.Text.Hex

/-!
# Quoted text

The quoted form of a string in debug output: double quotes and backslashes are
escaped, tab, carriage return, newline and NUL have short escapes, and every
other control character is written as its code point in braces. All other
characters stand for themselves.
-/

namespace SyscallKernel.Quoted

/-- Control characters without a short escape of their own. -/
def isControl (c : Char) : Bool := c.toNat < 0x20 || (0x7f ≤ c.toNat && c.toNat < 0xa0)

/-- The characters that stand for `c` inside quotes. -/
def encodeChar (c : Char) : List Char :=
  if c = '"' then ['\\', '"']
  else if c = '\\' then ['\\', '\\']
  else if c = '\t' then ['\\', 't']
  else if c = '\r' then ['\\', 'r']
  else if c = '\n' then ['\\', 'n']
  else if c.toNat = 0 then ['\\', '0']
  else if isControl c then ['\\', 'u', '\x7b'] ++ hexDigits 1 c.toNat ++ ['\x7d']
  else [c]

/-- `text` between double quotes, with escapes. -/
def encode (text : String) : String :=
  String.ofList ('"' :: text.toList.flatMap encodeChar ++ ['"'])

end SyscallKernel.Quoted
