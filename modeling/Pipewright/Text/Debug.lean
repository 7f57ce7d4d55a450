import Pipewright.Text.Unprintable

/-!
# A text made visible

A text between double quotes in which every character can be seen: quotes, backslashes and the
common controls by their short escapes, anything else without a form of its own by its code point
in braces. Used where a message shows a text that may hold anything.
-/
namespace Pipewright

/-- Hexadecimal digits of a number, in lower case. -/
def hexDigits (n : Nat) : List Char := Nat.toDigits 16 n

/-- Whether a character is shown by its code point. -/
def isUnprintable (c : Char) : Bool :=
  let n := c.toNat
  if n < 0x80 then n < 0x20 || n == 0x7F
  else unprintable.contains c

/-- A character as it is shown inside double quotes. -/
def debugChar (c : Char) : List Char :=
  if c == '"' then ['\\', '"']
  else if c == '\\' then ['\\', '\\']
  else if c == '\n' then ['\\', 'n']
  else if c == '\r' then ['\\', 'r']
  else if c == '\t' then ['\\', 't']
  else if c == '\x00' then ['\\', '0']
  else if isUnprintable c then ['\\', 'u', '\x7b'] ++ hexDigits c.toNat ++ ['\x7d']
  else [c]

/-- A text between double quotes with every character visible. -/
def debugText (s : String) : String :=
  String.ofList ('"' :: s.toList.flatMap debugChar ++ ['"'])

end Pipewright
