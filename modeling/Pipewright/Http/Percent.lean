import Pipewright.Text.Digits
import Pipewright.Text.Letter

/-!
# Percent signs

A byte that an address may not hold as it is stands in it as a percent sign and two hexadecimal
digits. Which characters are written so depends on the part of the address.
-/
namespace Pipewright.Http

/-- The digit of a number below sixteen, in upper case. -/
def hexDigit (n : Nat) : Char :=
  if n < 10 then Char.ofNat (0x30 + n) else Char.ofNat (0x41 + (n - 10))

/-- A byte as a percent sign and two digits. -/
def percentByte (b : UInt8) : List Char :=
  ['%', hexDigit (b.toNat / 16), hexDigit (b.toNat % 16)]

/-- A text in which the characters of a set are written with percent signs. -/
def percentEncode (encoded : Char → Bool) (text : List Char) : List Char :=
  text.flatMap fun c => if encoded c then (utf8 [c]).flatMap percentByte else [c]

/-- The bytes of a text in which percent signs with two digits stand for bytes. -/
def percentDecode : List Char → List UInt8
  | [] => []
  | '%' :: a :: b :: rest =>
    match hexValue a, hexValue b with
    | some high, some low => UInt8.ofNat (high * 16 + low) :: percentDecode rest
    | _, _ => utf8 ['%'] ++ percentDecode (a :: b :: rest)
  | c :: rest => utf8 [c] ++ percentDecode rest

/-- Whether a character is a control character or outside ASCII: those are encoded everywhere. -/
def isEncodedAnywhere (c : Char) : Bool := c.toNat < 0x20 || 0x7E < c.toNat

/-- Whether a character is encoded in a fragment. -/
def isEncodedInFragment (c : Char) : Bool :=
  isEncodedAnywhere c || c == ' ' || c == '\"' || c == '<' || c == '>' || c == '\x60'

/-- Whether a character is encoded in a query. -/
def isEncodedInQuery (c : Char) : Bool :=
  isEncodedAnywhere c || c == ' ' || c == '\"' || c == '#' || c == '<' || c == '>'

/-- Whether a character is encoded in a path. -/
def isEncodedInPath (c : Char) : Bool :=
  isEncodedInFragment c || c == '#' || c == '?' || c == '\x7b' || c == '\x7d'

/-- Whether a character is encoded in the name or the password of a user. -/
def isEncodedInUser (c : Char) : Bool :=
  isEncodedInPath c || c == '/' || c == ':' || c == ';' || c == '=' || c == '@' || c == '['
    || c == '\\' || c == ']' || c == '^' || c == '|'

/-- Whether a character stands as it is in a form field. -/
def isPlainInForm (c : Char) : Bool :=
  c.isAlphanum || c == '*' || c == '-' || c == '.' || c == '_'

/-- A text as the name or the value of a form field, with plus signs for spaces. -/
def formEncode (text : List Char) : List Char :=
  text.flatMap fun c =>
    if isPlainInForm c then [c]
    else if c == ' ' then ['+']
    else (utf8 [c]).flatMap percentByte

end Pipewright.Http
