import Pipewright.Http.Charset.Front
import Pipewright.Http.Charset.Hangul

/-!
# The charset of Korean

Two bytes beyond ASCII give the row and the place of a character. Of the other pairs of bytes those
whose second is a letter of ASCII or beyond ASCII stand for the syllables without a place, in order.
-/
namespace Pipewright.Http.Charset.EucKr

/-- Where a byte stands among those that may be the second of a syllable without a place. -/
def slot? (trail : UInt8) : Option Nat :=
  if 0x41 ≤ trail && trail ≤ 0x5A then some (trail.toNat - 0x41)
  else if 0x61 ≤ trail && trail ≤ 0x7A then some (trail.toNat - 0x61 + 26)
  else if 0x81 ≤ trail && trail ≤ 0xFE then some (trail.toNat - 0x81 + 52)
  else none

/-- How many syllables a first byte begins before those of the rows of characters. -/
def wideRow : Nat := 178

/-- How many syllables a first byte begins that begins a row of characters too. -/
def narrowRow : Nat := 84

/-- The character of two bytes. -/
def pair? (lead trail : UInt8) : Option Char :=
  if 0xA1 ≤ lead && 0xA1 ≤ trail then
    if trail ≤ 0xFE then hangul.get? ((lead.toNat - 0xA1) * 94 + (trail.toNat - 0xA1)) else none
  else
    (slot? trail).bind fun slot =>
      if lead < 0xA1 then otherHangul[(lead.toNat - 0x81) * wideRow + slot]?
      else otherHangul[32 * wideRow + (lead.toNat - 0xA1) * narrowRow + slot]?

/-- What the front of bytes means. -/
def front (byte : UInt8) (rest : List UInt8) : Front :=
  if byte < 0x80 then .char (Char.ofNat byte.toNat) 0
  else if byte == 0x80 || byte == 0xFF then .bad
  else
    match rest.head?.bind (pair? byte) with
    | some c => .char c 1
    | none => .badBefore 0 rest

end Pipewright.Http.Charset.EucKr
