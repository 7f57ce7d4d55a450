/-!
# Letters of a byte sequence

Read as UTF-8, a byte sequence falls into characters and into runs that belong to no character.
`letters` gives both, in order, so a reader of a text format can accept ill-formed bytes where the
format allows anything and refuse them where it wants characters. A run is the longest start of a
well-formed character that the next byte cannot continue, which is the unit that `lossy` replaces
by one replacement character.
-/
namespace Pipewright

/-- One unit of a byte sequence read as UTF-8. -/
inductive Letter where
  /-- A well-formed character. -/
  | char (c : Char)
  /-- Bytes, at least one, that belong to no character. -/
  | stray (bytes : List UInt8)
  deriving DecidableEq

namespace Letter

/-- The number of bytes a letter takes. -/
def size : Letter → Nat
  | char c => c.utf8Size
  | stray bytes => bytes.length

/-- The character of a letter; a stray run becomes the replacement character. -/
def toChar : Letter → Char
  | char c => c
  | stray _ => Char.ofNat 0xFFFD

/-- The letters of a text, each one a character. -/
def ofText (text : List Char) : List Letter := text.map char

/-- A character whose bytes have begun. -/
structure Begun where
  /-- The bytes read so far. -/
  bytes : List UInt8
  /-- The bits they contribute. -/
  bits : Nat
  /-- The continuation bytes still owed, at least one. -/
  owed : Nat
  /-- The least byte that may come next. -/
  low : UInt8
  /-- The greatest byte that may come next. -/
  high : UInt8

/-- What a byte means between two characters. -/
def start (b : UInt8) : Letter ⊕ Begun :=
  let n := b.toNat
  if n < 0x80 then .inl (.char (Char.ofNat n))
  else if n < 0xC2 then .inl (.stray [b])
  else if n < 0xE0 then .inr ⟨[b], n - 0xC0, 1, 0x80, 0xBF⟩
  else if n == 0xE0 then .inr ⟨[b], 0, 2, 0xA0, 0xBF⟩
  else if n == 0xED then .inr ⟨[b], 0xD, 2, 0x80, 0x9F⟩
  else if n < 0xF0 then .inr ⟨[b], n - 0xE0, 2, 0x80, 0xBF⟩
  else if n == 0xF0 then .inr ⟨[b], 0, 3, 0x90, 0xBF⟩
  else if n < 0xF4 then .inr ⟨[b], n - 0xF0, 3, 0x80, 0xBF⟩
  else if n == 0xF4 then .inr ⟨[b], 4, 3, 0x80, 0x8F⟩
  else .inl (.stray [b])

/-- The character with one more of its bytes. -/
def Begun.push (begun : Begun) (b : UInt8) : Begun :=
  ⟨begun.bytes ++ [b], begun.bits * 64 + (b.toNat - 0x80), begun.owed - 1, 0x80, 0xBF⟩

/-- The letters of the bytes that follow a begun character, or follow none. -/
def continued : Option Begun → List UInt8 → List Letter
  | none, [] => []
  | some begun, [] => [stray begun.bytes]
  | none, b :: bytes =>
    match start b with
    | .inl letter => letter :: continued none bytes
    | .inr begun => continued (some begun) bytes
  | some begun, b :: bytes =>
    if begun.low ≤ b && b ≤ begun.high then
      let next := begun.push b
      if next.owed == 0 then char (Char.ofNat next.bits) :: continued none bytes
      else continued (some next) bytes
    else
      stray begun.bytes ::
        match start b with
        | .inl letter => letter :: continued none bytes
        | .inr begun => continued (some begun) bytes

end Letter

/-- The letters of a byte sequence. -/
def letters (bytes : List UInt8) : List Letter := Letter.continued none bytes

/-- The text of a byte sequence, one replacement character for each stray run. -/
def lossy (bytes : List UInt8) : List Char := (letters bytes).map Letter.toChar

/-- The bytes of a text in UTF-8. -/
def utf8 (text : List Char) : List UInt8 := text.flatMap String.utf8EncodeChar

end Pipewright
