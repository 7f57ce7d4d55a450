import Pipewright.Http.Charset.Front
import Pipewright.Http.Charset.Kanji
import Pipewright.Http.Charset.KanjiSupplement

/-!
# Charsets of Japanese

Three ways to write the same rows of characters in bytes: with two bytes of which the second may be
one of ASCII, with bytes beyond ASCII only, and with bytes of ASCII only, between marks that say
what they mean.
-/
namespace Pipewright.Http.Charset

/-- The katakana of half a width that are so far from the first. -/
def halfKatakana (n : Nat) : Char := Char.ofNat (0xFF61 + n)

/-! ## Two bytes, the second in ASCII or beyond it -/

namespace ShiftJis

/-- The character of two bytes; twelve rows and a half are for private use. -/
def pair? (lead trail : UInt8) : Option Char :=
  if (0x40 ≤ trail && trail ≤ 0x7E) || (0x80 ≤ trail && trail ≤ 0xFC) then
    let row := lead.toNat - (if lead < 0xA0 then 0x81 else 0xC1)
    let place := trail.toNat - (if trail < 0x7F then 0x40 else 0x41)
    let n := row * 188 + place
    if 8836 ≤ n && n ≤ 10715 then some (Char.ofNat (0xE000 + (n - 8836))) else kanji.get? n
  else none

/-- What the front of bytes means. -/
def front (byte : UInt8) (rest : List UInt8) : Front :=
  if byte ≤ 0x80 then .char (Char.ofNat byte.toNat) 0
  else if 0xA1 ≤ byte && byte ≤ 0xDF then .char (halfKatakana (byte.toNat - 0xA1)) 0
  else if byte == 0xA0 || 0xFC < byte then .bad
  else
    match rest.head?.bind (pair? byte) with
    | some c => .char c 1
    | none => .badBefore 0 rest

end ShiftJis

/-! ## Bytes beyond ASCII -/

namespace EucJp

/-- The place of two bytes in rows of ninety-four. -/
def place? (lead trail : UInt8) : Option Nat :=
  if 0xA1 ≤ lead && lead ≤ 0xFE && 0xA1 ≤ trail && trail ≤ 0xFE then
    some ((lead.toNat - 0xA1) * 94 + (trail.toNat - 0xA1))
  else none

/-- What bytes mean after the byte that announces the second set of characters. -/
def supplementFront (rest : List UInt8) : Front :=
  match rest with
  | lead :: more =>
    if 0xA1 ≤ lead && lead ≤ 0xFE then
      match (more.head?.bind (place? lead)).bind kanjiSupplement.get? with
      | some c => .char c 2
      | none => .badBefore 1 more
    else .badBefore 0 rest
  | [] => .bad

/-- What the front of bytes means. -/
def front (byte : UInt8) (rest : List UInt8) : Front :=
  if byte < 0x80 then .char (Char.ofNat byte.toNat) 0
  else if byte == 0x8E then
    match rest with
    | trail :: _ =>
      if 0xA1 ≤ trail && trail ≤ 0xDF then .char (halfKatakana (trail.toNat - 0xA1)) 1
      else .badBefore 0 rest
    | [] => .bad
  else if byte == 0x8F then supplementFront rest
  else if 0xA1 ≤ byte && byte ≤ 0xFE then
    match (rest.head?.bind (place? byte)).bind kanji.get? with
    | some c => .char c 1
    | none => .badBefore 0 rest
  else .bad

end EucJp

/-! ## Marks between bytes of ASCII -/

namespace Iso2022Jp

/-- What bytes of ASCII stand for. -/
inductive Mode where
  /-- ASCII. -/
  | ascii
  /-- ASCII with a yen sign and an overline. -/
  | roman
  /-- Katakana of half a width. -/
  | katakana
  /-- Two bytes for a character. -/
  | kanji
  deriving DecidableEq

/-- The byte that begins a mark. -/
def escape : UInt8 := 0x1B

/-- The mode that the two bytes after the first of a mark begin. -/
def Mode.ofMark? (a b : UInt8) : Option Mode :=
  if a == 0x28 && b == 0x42 then some .ascii
  else if a == 0x28 && b == 0x4A then some .roman
  else if a == 0x28 && b == 0x49 then some .katakana
  else if a == 0x24 && (b == 0x40 || b == 0x42) then some .kanji
  else none

/-- What a byte stands for in a mode of one byte. -/
def Mode.char? (mode : Mode) (b : UInt8) : Option Char :=
  match mode with
  | .katakana =>
    if 0x21 ≤ b && b ≤ 0x5F then some (halfKatakana (b.toNat - 0x21)) else none
  | _ =>
    if 0x80 ≤ b || b == 0x0E || b == 0x0F || b == escape then none
    else if mode = .roman && b == 0x5C then some (Char.ofNat 0xA5)
    else if mode = .roman && b == 0x7E then some (Char.ofNat 0x203E)
    else some (Char.ofNat b.toNat)

/-- Whether a byte is one of the two of a character. -/
def isHalf (b : UInt8) : Bool := 0x21 ≤ b && b ≤ 0x7E

/-- The character of two bytes. -/
def pair? (lead trail : UInt8) : Option Char :=
  Charset.kanji.get? ((lead.toNat - 0x21) * 94 + (trail.toNat - 0x21))

/-- The text of bytes in a mode, after a mark or not: a mark right after another counts as bad. -/
def decodeFrom (mode : Mode) (afterMark : Bool) : List UInt8 → List Char
  | [] => []
  | byte :: rest =>
    if byte == escape then
      match rest with
      | a :: b :: more =>
        match Mode.ofMark? a b with
        | some mode =>
          if afterMark then replacement :: decodeFrom mode true more
          else decodeFrom mode true more
        | none => replacement :: decodeFrom mode false (a :: b :: more)
      | rest => replacement :: decodeFrom mode false rest
    else if mode = .kanji then
      if isHalf byte then
        match rest with
        | [] => [replacement]
        | trail :: more =>
          if trail == escape then replacement :: decodeFrom mode false (trail :: more)
          else
            let char := if isHalf trail then pair? byte trail else none
            char.getD replacement :: decodeFrom mode false more
      else replacement :: decodeFrom mode false rest
    else (mode.char? byte).getD replacement :: decodeFrom mode false rest
termination_by bytes => bytes.length

/-- The text of bytes. -/
def decode (bytes : List UInt8) : List Char := decodeFrom .ascii false bytes

end Iso2022Jp

end Pipewright.Http.Charset
