import Pipewright.Http.Charset.Front
import Pipewright.Http.Charset.Hanzi
import Pipewright.Http.Charset.HanziTraditional

/-!
# Charsets of Chinese

One charset has a character for one, two or four bytes, so that it has every character there is; the
other has two bytes for the traditional characters.
-/
namespace Pipewright.Http.Charset

/-! ## Simplified characters -/

namespace Gb18030

/-- How many of the ideographs without a place stand in the rows before those with a place. -/
def early : Nat := 6080

/-- How many stand in each later row. -/
def perRow : Nat := 96

/-- The ideograph without a place that fills one in the rows of 190. -/
def filler? (n : Nat) : Option Char :=
  if n < early then otherHanzi[n]?
  else if 0xAA - 0x81 ≤ n / 190 && n % 190 < perRow then
    otherHanzi[early + (n / 190 - (0xAA - 0x81)) * perRow + n % 190]?
  else none

/-- The character of a number in the rows of 190. -/
def ofNumber? (n : Nat) : Option Char :=
  match hanzi.get? n with
  | some c => some c
  | none =>
    match privateHanzi.at? n with
    | some span => (span.shifted n).head?
    | none => filler? n

/-- The character of two bytes. -/
def pair? (lead trail : UInt8) : Option Char :=
  if (0x40 ≤ trail && trail ≤ 0x7E) || (0x80 ≤ trail && trail ≤ 0xFE) then
    ofNumber? ((lead.toNat - 0x81) * 190 + (trail.toNat - (if trail < 0x7F then 0x40 else 0x41)))
  else none

/-- Whether a byte is the second or the fourth of four. -/
def isDigit (b : UInt8) : Bool := 0x30 ≤ b && b ≤ 0x39

/-- Whether a byte is the first of several, or the third of four. -/
def isLead (b : UInt8) : Bool := 0x81 ≤ b && b ≤ 0xFE

/-- The character of four bytes. -/
def quad? (a b c d : UInt8) : Option Char :=
  let n := (((a.toNat - 0x81) * 10 + (b.toNat - 0x30)) * 126 + (c.toNat - 0x81)) * 10
    + (d.toNat - 0x30)
  if 189000 ≤ n then
    let point := 0x10000 + (n - 189000)
    if point ≤ 0x10FFFF then some (Char.ofNat point) else none
  else (fourByteHanzi.at? n).bind fun span => (span.shifted n).head?

/-- What bytes mean of which the second is a digit. -/
def quadFront (byte second : UInt8) (rest : List UInt8) : Front :=
  match rest with
  | [] => ⟨[replacement], 1⟩
  | third :: rest =>
    if isLead third then
      match rest with
      | [] => ⟨[replacement], 2⟩
      | fourth :: _ =>
        if isDigit fourth then ⟨[(quad? byte second third fourth).getD replacement], 3⟩ else .bad
    else .bad

/-- What the front of bytes means. -/
def front (byte : UInt8) (rest : List UInt8) : Front :=
  if byte < 0x80 then .char (Char.ofNat byte.toNat) 0
  else if byte == 0x80 then .char '€' 0
  else if byte == 0xFF then .bad
  else
    match rest with
    | [] => .bad
    | second :: more =>
      if isDigit second then quadFront byte second more
      else
        match pair? byte second with
        | some c => .char c 1
        | none => .badBefore 0 rest

end Gb18030

/-! ## Traditional characters -/

namespace Big5

/-- The text of a number in the rows of 157; four letters are two characters. -/
def ofNumber? (n : Nat) : Option (List Char) :=
  if n == 1133 then some [Char.ofNat 0xCA, Char.ofNat 0x304]
  else if n == 1135 then some [Char.ofNat 0xCA, Char.ofNat 0x30C]
  else if n == 1164 then some [Char.ofNat 0xEA, Char.ofNat 0x304]
  else if n == 1166 then some [Char.ofNat 0xEA, Char.ofNat 0x30C]
  else (hanziTraditional.get? n).map fun c => [c]

/-- The text of two bytes. -/
def pair? (lead trail : UInt8) : Option (List Char) :=
  if (0x40 ≤ trail && trail ≤ 0x7E) || (0xA1 ≤ trail && trail ≤ 0xFE) then
    ofNumber? ((lead.toNat - 0x81) * 157 + (trail.toNat - (if trail < 0x7F then 0x40 else 0x62)))
  else none

/-- What the front of bytes means. -/
def front (byte : UInt8) (rest : List UInt8) : Front :=
  if byte < 0x80 then .char (Char.ofNat byte.toNat) 0
  else if byte == 0x80 || byte == 0xFF then .bad
  else
    match rest.head?.bind (pair? byte) with
    | some text => ⟨text, 1⟩
    | none => .badBefore 0 rest

end Big5

end Pipewright.Http.Charset
