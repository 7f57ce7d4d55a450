import Pipewright.Json.Strict
import Pipewright.Json.Write

/-!
# The texts of values

A spelling is a text of a value, with all that the value leaves open: the gaps between its parts,
the escapes of its characters and the digits of its numbers. It is built like the value, and its
parts carry what makes them readable: digits are digits, a surrogate stands beside its partner, a
number is within the binary format. So every spelling has a value (`Spelling.value`), and a change
to a text can be told as one to the tree that it spells.
-/
namespace Pipewright.Json

/-! ## Nesting -/

mutual

/-- The levels of lists and objects of a value. -/
def nesting : Json → Nat
  | list items => itemsNesting items + 1
  | object members => membersNesting members + 1
  | null => 0
  | bool _ => 0
  | number _ => 0
  | text _ => 0

/-- The levels of the item that nests most. -/
def itemsNesting : List Json → Nat
  | [] => 0
  | item :: items => max (nesting item) (itemsNesting items)

/-- The levels of the member that nests most. -/
def membersNesting : List (String × Json) → Nat
  | [] => 0
  | (_, value) :: members => max (nesting value) (membersNesting members)

end

/-! ## Parts -/

/-- Spaces between the parts of a value, or none. -/
structure Gap where
  /-- The spaces. -/
  chars : List Char
  /-- They are spaces. -/
  areSpaces : ∀ c ∈ chars, Cursor.isSpace (.char c) = true

/-- No space. -/
def Gap.none : Gap := ⟨[], by simp⟩

/-- A UTF-16 unit by four hexadecimal digits. -/
structure HexUnit where
  /-- The first digit. -/
  first : Char
  /-- The second digit. -/
  second : Char
  /-- The third digit. -/
  third : Char
  /-- The fourth digit. -/
  fourth : Char
  /-- The unit. -/
  code : Nat
  /-- The digits are those of the unit. -/
  reads : hexUnit? (.char first) (.char second) (.char third) (.char fourth) = some code

/-- The escape of a unit. -/
def HexUnit.chars (u : HexUnit) : List Char := ['\\', 'u', u.first, u.second, u.third, u.fourth]

/-- Whether a character may stand for itself in a quoted text. -/
def standsForItself (c : Char) : Bool := c != '"' && c != '\\' && !isRawControl (.char c)

/-- A character of a quoted text as it is spelled. -/
inductive Glyph where
  /-- A character that stands for itself. -/
  | plain (c : Char) (unescaped : standsForItself c = true)
  /-- An escape by one letter. -/
  | short (letter c : Char) (escapes : shortEscape? (.char letter) = some c)
  /-- An escaped unit that is a character of its own. -/
  | unit (u : HexUnit) (whole : isTrailing u.code = false ∧ isLeading u.code = false)
  /-- Two escaped units that are one character. -/
  | pair (leading trailing : HexUnit) (leads : isLeading leading.code = true)
      (trails : isTrailing trailing.code = true)

namespace Glyph

/-- The text of a character. -/
def chars : Glyph → List Char
  | plain c _ => [c]
  | short letter _ _ => ['\\', letter]
  | unit u _ => u.chars
  | pair leading trailing _ _ => leading.chars ++ trailing.chars

/-- The character that is spelled. -/
def char : Glyph → Char
  | plain c _ => c
  | short _ c _ => c
  | unit u _ => Char.ofNat u.code
  | pair leading trailing _ _ => pairChar leading.code trailing.code

/-- The pieces in which a character is read. -/
def pieces : Glyph → List Piece
  | plain c _ => [.plain (.char c)]
  | short _ c _ => [.short c]
  | unit u _ => [.unit u.code]
  | pair leading trailing _ _ => [.unit leading.code, .unit trailing.code]

end Glyph

/-- Glyphs and the quote that closes them. -/
def closedChars (glyphs : List Glyph) : List Char := glyphs.flatMap Glyph.chars ++ ['"']

/-- A glyph before others comes first. -/
theorem closedChars_cons (g : Glyph) (glyphs : List Glyph) :
    closedChars (g :: glyphs) = g.chars ++ closedChars glyphs := by
  rw [closedChars, List.flatMap_cons, List.append_assoc]
  rfl

/-- The text that glyphs spell. -/
def glyphText (glyphs : List Glyph) : String := String.ofList (glyphs.map Glyph.char)

/-- Digits, at least one. -/
structure Digits where
  /-- The digits. -/
  chars : List Char
  /-- They are digits. -/
  areDigits : ∀ c ∈ chars, c.isDigit = true
  /-- There is one. -/
  nonempty : chars ≠ []

/-- An exponent with its mark. -/
structure SpelledExponent where
  /-- Whether the mark is a capital letter. -/
  capital : Bool
  /-- Its sign, if there is one, and whether that is a minus. -/
  sign : Option Bool
  /-- Its digits. -/
  digits : Digits

/-- The text of an exponent. -/
def SpelledExponent.chars (e : SpelledExponent) : List Char :=
  (if e.capital then 'E' else 'e') ::
    ((e.sign.map fun minus => if minus then '-' else '+').toList ++ e.digits.chars)

/-- The digits of a number with its signs and marks. -/
structure SpelledNumeral where
  /-- Whether a minus sign precedes it. -/
  minus : Bool
  /-- The digits before the point. -/
  whole : Digits
  /-- There is no zero before other digits. -/
  unpadded : ∀ rest, whole.chars = '0' :: rest → rest = []
  /-- The digits after the point, if there is one. -/
  fraction : Option Digits
  /-- The exponent, if there is one. -/
  exponent : Option SpelledExponent

namespace SpelledNumeral

/-- The numeral that is read, which ends at an offset. -/
def numeral (n : SpelledNumeral) (stop : Nat) : Numeral :=
  ⟨n.minus, n.whole.chars, (n.fraction.map Digits.chars).getD [],
    n.exponent.map fun e => (e.sign.getD false, e.digits.chars), stop⟩

/-- The text of the exponent. -/
def exponentChars (n : SpelledNumeral) : List Char :=
  (n.exponent.map SpelledExponent.chars).getD []

/-- The text of what follows the digits before the point. -/
def tail (n : SpelledNumeral) : List Char :=
  (n.fraction.map fun digits => '.' :: digits.chars).getD [] ++ n.exponentChars

/-- The text of the digits without the sign before them. -/
def unsigned (n : SpelledNumeral) : List Char := n.whole.chars ++ n.tail

/-- The text of a numeral. -/
def chars (n : SpelledNumeral) : List Char := (if n.minus then ['-'] else []) ++ n.unsigned

end SpelledNumeral

/-- A number with its digits. -/
structure SpelledNumber extends SpelledNumeral where
  /-- The number that is spelled. -/
  number : Number
  /-- The digits are those of the number. -/
  counts : (toSpelledNumeral.numeral 0).value = .ok number

/-- The name of a member with the gaps around it. -/
structure SpelledName where
  /-- The gap before its quotes. -/
  before : Gap
  /-- Its glyphs. -/
  glyphs : List Glyph
  /-- The gap after its quotes. -/
  after : Gap

namespace SpelledName

/-- The name that is spelled. -/
def name (n : SpelledName) : String := glyphText n.glyphs

/-- What follows the opening quote of a name, with its colon. -/
def tail (n : SpelledName) : List Char := closedChars n.glyphs ++ (n.after.chars ++ [':'])

/-- The text of a name, with its colon. -/
def chars (n : SpelledName) : List Char := n.before.chars ++ '"' :: n.tail

end SpelledName

/-! ## Values -/

/-- A text of a value. -/
inductive Spelling where
  /-- Null. -/
  | null
  /-- A truth value. -/
  | bool (b : Bool)
  /-- A number. -/
  | number (n : SpelledNumber)
  /-- A quoted text. -/
  | quoted (glyphs : List Glyph)
  /-- A list with a gap after its bracket. -/
  | list (gap : Gap) (items : List Spelling)
  /-- An object with a gap after its bracket. -/
  | object (gap : Gap) (members : List (SpelledName × Spelling))
  /-- A value with gaps around it. -/
  | spaced (before : Gap) (inner : Spelling) (after : Gap)

namespace Spelling

mutual

/-- The characters of a text. -/
def chars : Spelling → List Char
  | null => ['n', 'u', 'l', 'l']
  | bool b => boolWord b
  | number n => n.chars
  | quoted glyphs => '"' :: closedChars glyphs
  | list gap items => '[' :: (gap.chars ++ (itemsChars items ++ [']']))
  | object gap members => '\x7b' :: (gap.chars ++ (membersChars members ++ ['\x7d']))
  | spaced before inner after => before.chars ++ (chars inner ++ after.chars)

/-- The characters of items with commas between them. -/
def itemsChars : List Spelling → List Char
  | [] => []
  | [item] => chars item
  | item :: items => chars item ++ ',' :: itemsChars items

/-- The characters of members with commas between them. -/
def membersChars : List (SpelledName × Spelling) → List Char
  | [] => []
  | [(name, member)] => name.chars ++ chars member
  | (name, member) :: members => name.chars ++ (chars member ++ ',' :: membersChars members)

end

mutual

/-- The value that a text spells, the members of objects in the order of the text. -/
def value : Spelling → Json
  | null => .null
  | bool b => .bool b
  | number n => .number n.number
  | quoted glyphs => .text (glyphText glyphs)
  | list _ items => .list (itemsValue items)
  | object _ members => .object (membersValue members)
  | spaced _ inner _ => value inner

/-- The values of items. -/
def itemsValue : List Spelling → List Json
  | [] => []
  | item :: items => value item :: itemsValue items

/-- The named values of members. -/
def membersValue : List (SpelledName × Spelling) → List (String × Json)
  | [] => []
  | (name, member) :: members => (name.name, value member) :: membersValue members

end

/-- The text itself. -/
def toText (s : Spelling) : String := String.ofList s.chars

/-- The values of items are those of each. -/
theorem itemsValue_eq_map (items : List Spelling) : itemsValue items = items.map value := by
  induction items with
  | nil => rfl
  | cons item items ih => exact congrArg (value item :: ·) ih

/-- The named values of members are those of each. -/
theorem membersValue_eq_map (members : List (SpelledName × Spelling)) :
    membersValue members = members.map fun member => (member.1.name, member.2.value) := by
  induction members with
  | nil => rfl
  | cons member members ih => exact congrArg ((member.1.name, member.2.value) :: ·) ih

end Spelling

end Pipewright.Json
