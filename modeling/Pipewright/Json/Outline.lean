import Pipewright.Json.Fault
import Pipewright.Text.Letter

/-!
# The outline of a JSON text

An outline is the nesting of a text before anything in it is judged: numbers are still digits,
quoted texts still pieces with their escapes, and a text that goes wrong has an outline up to the
place where it does. Each way of reading a text walks its outline in the order of the text, and so
meets the first fault of the form and the first fault of a value in the order in which they stand.
-/
namespace Pipewright.Json

/-- The digits of a number. -/
structure Numeral where
  /-- Whether a minus sign precedes them. -/
  minus : Bool
  /-- The digits before the point, at least one. -/
  whole : List Char
  /-- The digits after the point, at least one when there is a point. -/
  fraction : List Char
  /-- The exponent: whether it is negative, and its digits. -/
  exponent : Option (Bool × List Char)
  /-- The offset after the last digit. -/
  stop : Nat

/-- A piece of a quoted text. -/
inductive Piece where
  /-- A letter that stands for itself. -/
  | plain (letter : Letter)
  /-- An escape of two characters, and what it stands for. -/
  | short (c : Char)
  /-- An escape of a UTF-16 unit by four hexadecimal digits. -/
  | unit (code : Nat)

/-- How a quoted text ends. -/
inductive QuoteEnd where
  /-- With a quote. -/
  | closed
  /-- Not before the text does. -/
  | cut
  /-- At a raw control character. -/
  | control
  /-- At a backslash with something it does not escape. -/
  | badEscape
  /-- At a unit escape whose digits are not hexadecimal. -/
  | badHex
  deriving DecidableEq

/-- A quoted text. -/
structure Quoted where
  /-- The offset of its first piece. -/
  start : Nat
  /-- Its pieces in order. -/
  pieces : List Piece
  /-- How it ends. -/
  finish : QuoteEnd
  /-- The offset at which it ends. -/
  stop : Nat

/-- What stands first where a value is malformed. -/
inductive Opening where
  /-- Nothing, for the text ends. -/
  | nothing
  /-- A name without its colon. -/
  | name
  /-- The beginning of a number, a word, or no value at all. -/
  | other
  deriving DecidableEq

/-- How a list or an object ends. -/
inductive Close where
  /-- With its bracket. -/
  | closed
  /-- With a fault at an offset, after a comma or not. -/
  | cut (afterComma : Bool) (cause : Cause) (offset : Nat)
  /-- Inside its last item or member, which holds the fault. -/
  | unread

/-- The outline of a value. -/
inductive Outline where
  /-- Null. -/
  | null
  /-- A truth value. -/
  | bool (b : Bool)
  /-- A number. -/
  | number (numeral : Numeral)
  /-- A quoted text. -/
  | text (quoted : Quoted)
  /-- A list whose bracket stands at an offset. -/
  | list (start : Nat) (items : List Outline) (close : Close)
  /-- An object whose bracket stands at an offset; bare is what stands in place of its first
  name. -/
  | object (start : Nat) (members : List (Quoted × Outline)) (bare : Option Outline)
      (close : Close)
  /-- A malformed value; skimmed is the fault for a reader that takes no numbers. -/
  | broken (opening : Opening) (cause skimmed : Cause) (offset : Nat)

/-- Where a reader stands in a text. -/
structure Cursor where
  /-- The bytes before it. -/
  offset : Nat
  /-- The letters from there on. -/
  rest : List Letter

namespace Cursor

/-- Whether a letter separates the parts of a value. -/
def isSpace (l : Letter) : Bool :=
  l == .char ' ' || l == .char '\n' || l == .char '\t' || l == .char '\r'

/-- The first place that is not a space; spaces take one byte each. -/
def skipSpace (c : Cursor) : Cursor :=
  let spaces := c.rest.takeWhile isSpace
  ⟨c.offset + spaces.length, c.rest.drop spaces.length⟩

end Cursor

/-- The digit that a letter is. -/
def digit? : Letter → Option Char
  | .char c => if c.isDigit then some c else none
  | .stray _ => none

/-- The digits from here on. -/
def takeDigits : List Letter → List Char
  | [] => []
  | l :: rest =>
    match digit? l with
    | some d => d :: takeDigits rest
    | none => []

/-- The value of a hexadecimal digit in either case. -/
def hexValue? : Letter → Option Nat
  | .char c =>
    if '0' ≤ c && c ≤ '9' then some (c.toNat - 48)
    else if 'a' ≤ c && c ≤ 'f' then some (c.toNat - 87)
    else if 'A' ≤ c && c ≤ 'F' then some (c.toNat - 55)
    else none
  | .stray _ => none

/-- The value of four hexadecimal digits. -/
def hexUnit? (a b c d : Letter) : Option Nat := do
  let a ← hexValue? a
  let b ← hexValue? b
  let c ← hexValue? c
  let d ← hexValue? d
  some (((a * 16 + b) * 16 + c) * 16 + d)

/-- What a letter stands for after a backslash. -/
def shortEscape? : Letter → Option Char
  | .char '"' => some '"'
  | .char '\\' => some '\\'
  | .char '/' => some '/'
  | .char 'b' => some '\x08'
  | .char 'f' => some '\x0c'
  | .char 'n' => some '\n'
  | .char 'r' => some '\r'
  | .char 't' => some '\t'
  | _ => none

/-- Whether a letter may not stand unescaped in a quoted text. -/
def isRawControl : Letter → Bool
  | .char c => c.toNat < 0x20
  | .stray _ => false

/-- The bytes that letters take. -/
def byteCount (rest : List Letter) : Nat := rest.foldr (fun letter bytes => letter.size + bytes) 0

/-- The pieces of a quoted text after its opening quote, how it ends, and the place after it. -/
def quotedPieces (offset : Nat) : List Letter → List Piece × QuoteEnd × Cursor
  | [] => ([], .cut, ⟨offset, []⟩)
  | l :: rest =>
    if l = .char '"' then ([], .closed, ⟨offset + 1, rest⟩)
    else if l = .char '\\' then
      match rest with
      | [] => ([], .cut, ⟨offset + 1, []⟩)
      | e :: rest =>
        if e = .char 'u' then
          match rest with
          | a :: b :: c :: d :: rest =>
            match hexUnit? a b c d with
            | some code =>
              let (pieces, finish, after) := quotedPieces (offset + 6) rest
              (.unit code :: pieces, finish, after)
            | none => ([], .badHex, ⟨offset + 6, []⟩)
          | few =>
            if byteCount few < 4 then ([], .cut, ⟨offset + 2 + byteCount few, []⟩)
            else ([], .badHex, ⟨offset + 6, []⟩)
        else
          match shortEscape? e with
          | some c =>
            let (pieces, finish, after) := quotedPieces (offset + 2) rest
            (.short c :: pieces, finish, after)
          | none => ([], .badEscape, ⟨offset + 2, []⟩)
    else if isRawControl l then ([], .control, ⟨offset + 1, []⟩)
    else
      let (pieces, finish, after) := quotedPieces (offset + l.size) rest
      (.plain l :: pieces, finish, after)

/-- The quoted text whose opening quote ends at an offset, and the place after it if it is
closed. -/
def readQuoted (offset : Nat) (rest : List Letter) : Quoted × Option Cursor :=
  let (pieces, finish, after) := quotedPieces offset rest
  (⟨offset, pieces, finish, after.offset⟩, if finish = .closed then some after else none)

/-- The rest of a word of known letters, which stands for a value. -/
def readWord (value : Outline) (offset : Nat) : List Char → List Letter → Outline × Option Cursor
  | [], rest => (value, some ⟨offset, rest⟩)
  | _ :: _, [] => (.broken .other .endInValue .endInValue offset, none)
  | w :: word, l :: rest =>
    if l = .char w then readWord value (offset + 1) word rest
    else (.broken .other .badWord .badWord (offset + 1), none)

/-- A fault of a number. -/
def brokenNumber (cause : Cause) (offset : Nat) : Outline × Option Cursor :=
  (.broken .other cause .badNumber offset, none)

/-- The exponent after its mark, of a number with the parts read so far. -/
def readExponent (minus : Bool) (whole fraction : List Char) (offset : Nat)
    (rest : List Letter) : Outline × Option Cursor :=
  let sign : Option Bool :=
    match rest with
    | .char '+' :: _ => some false
    | .char '-' :: _ => some true
    | _ => none
  let offset := if sign.isSome then offset + 1 else offset
  let rest := if sign.isSome then rest.drop 1 else rest
  let digits := takeDigits rest
  if digits.isEmpty then
    match rest with
    | [] => brokenNumber .endInValue offset
    | _ :: _ => brokenNumber .badNumber (offset + 1)
  else
    let stop := offset + digits.length
    (.number ⟨minus, whole, fraction, some (sign.getD false, digits), stop⟩,
      some ⟨stop, rest.drop digits.length⟩)

/-- What follows the digits of a number, up to its end. -/
def readNumberEnd (minus : Bool) (whole fraction : List Char) (offset : Nat)
    (rest : List Letter) : Outline × Option Cursor :=
  match rest with
  | .char 'e' :: rest => readExponent minus whole fraction (offset + 1) rest
  | .char 'E' :: rest => readExponent minus whole fraction (offset + 1) rest
  | _ => (.number ⟨minus, whole, fraction, none, offset⟩, some ⟨offset, rest⟩)

/-- A number from its first digit. -/
def readNumber (minus : Bool) (offset : Nat) (rest : List Letter) : Outline × Option Cursor :=
  let digits := takeDigits rest
  match digits with
  | [] =>
    match rest with
    | [] => brokenNumber .endInValue offset
    | _ :: _ => brokenNumber .badNumber (offset + 1)
  | '0' :: _ :: _ => brokenNumber .badNumber (offset + 2)
  | whole =>
    let offset := offset + whole.length
    match rest.drop whole.length with
    | .char '.' :: rest =>
      let fraction := takeDigits rest
      if fraction.isEmpty then
        match rest with
        | [] => brokenNumber .endInValue (offset + 1)
        | _ :: _ => brokenNumber .badNumber (offset + 2)
      else
        readNumberEnd minus whole fraction (offset + 1 + fraction.length)
          (rest.drop fraction.length)
    | rest => readNumberEnd minus whole [] offset rest

mutual

/-- The outline of the value that starts here, and the place after it unless it goes wrong. Fuel
bounds the nesting and the items together. -/
def outlineValue : Nat → Cursor → Outline × Option Cursor
  | 0, c => (.broken .nothing .endInValue .endInValue c.offset, none)
  | fuel + 1, c =>
    let c := c.skipSpace
    match c.rest with
    | [] => (.broken .nothing .endInValue .endInValue c.offset, none)
    | l :: rest =>
      if l = .char '"' then
        let (quoted, after) := readQuoted (c.offset + 1) rest
        (.text quoted, after)
      else if l = .char '[' then
        let (items, close, after) := outlineList fuel ⟨c.offset + 1, rest⟩
        (.list c.offset items close, after)
      else if l = .char '\x7b' then
        let (members, bare, close, after) := outlineObject fuel ⟨c.offset + 1, rest⟩
        (.object c.offset members bare close, after)
      else if l = .char 'n' then readWord .null (c.offset + 1) ['u', 'l', 'l'] rest
      else if l = .char 't' then readWord (.bool true) (c.offset + 1) ['r', 'u', 'e'] rest
      else if l = .char 'f' then readWord (.bool false) (c.offset + 1) ['a', 'l', 's', 'e'] rest
      else if l = .char '-' then readNumber true (c.offset + 1) rest
      else if (digit? l).isSome then readNumber false c.offset (l :: rest)
      else (.broken .other .noValue .noValue (c.offset + 1), none)

/-- The items of a list after its bracket. -/
def outlineList : Nat → Cursor → List Outline × Close × Option Cursor
  | 0, c => ([], .cut false .endInList c.offset, none)
  | fuel + 1, c =>
    let c := c.skipSpace
    match c.rest with
    | [] => ([], .cut false .endInList c.offset, none)
    | l :: rest =>
      if l = .char ']' then ([], .closed, some ⟨c.offset + 1, rest⟩)
      else outlineItems fuel c

/-- The items of a list from an item on. -/
def outlineItems : Nat → Cursor → List Outline × Close × Option Cursor
  | 0, c => ([], .cut false .endInList c.offset, none)
  | fuel + 1, c =>
    let (item, after) := outlineValue fuel c
    match after with
    | none => ([item], .unread, none)
    | some c =>
      let c := c.skipSpace
      match c.rest with
      | [] => ([item], .cut false .endInList c.offset, none)
      | l :: rest =>
        if l = .char ']' then ([item], .closed, some ⟨c.offset + 1, rest⟩)
        else if l = .char ',' then
          let c := Cursor.skipSpace ⟨c.offset + 1, rest⟩
          if c.rest.head? = some (.char ']') then
            ([item], .cut true .trailingComma (c.offset + 1), none)
          else
            let (items, close, after) := outlineItems fuel c
            (item :: items, close, after)
        else ([item], .cut false .noListComma (c.offset + 1), none)

/-- The members of an object after its bracket. -/
def outlineObject : Nat → Cursor →
    List (Quoted × Outline) × Option Outline × Close × Option Cursor
  | 0, c => ([], none, .cut false .endInObject c.offset, none)
  | fuel + 1, c =>
    let c := c.skipSpace
    match c.rest with
    | [] => ([], none, .cut false .endInObject c.offset, none)
    | l :: rest =>
      if l = .char '\x7d' then ([], none, .closed, some ⟨c.offset + 1, rest⟩)
      else if l = .char '"' then
        let (members, close, after) := outlineMembers fuel ⟨c.offset + 1, rest⟩
        (members, none, close, after)
      else
        ([], some (outlineValue fuel c).1, .cut false .nameNotText (c.offset + 1), none)

/-- The members of an object after the opening quote of a name. -/
def outlineMembers : Nat → Cursor → List (Quoted × Outline) × Close × Option Cursor
  | 0, c => ([], .cut false .endInObject c.offset, none)
  | fuel + 1, c =>
    let (name, after) := readQuoted c.offset c.rest
    match after with
    | none => ([(name, .broken .name .noColon .noColon name.stop)], .unread, none)
    | some c =>
      let c := c.skipSpace
      match c.rest with
      | [] => ([(name, .broken .name .endInObject .endInObject c.offset)], .unread, none)
      | l :: rest =>
        if l = .char ':' then
          let (value, after) := outlineValue fuel ⟨c.offset + 1, rest⟩
          match after with
          | none => ([(name, value)], .unread, none)
          | some c =>
            let c := c.skipSpace
            match c.rest with
            | [] => ([(name, value)], .cut false .endInObject c.offset, none)
            | l :: rest =>
              if l = .char '\x7d' then ([(name, value)], .closed, some ⟨c.offset + 1, rest⟩)
              else if l = .char ',' then
                let c := Cursor.skipSpace ⟨c.offset + 1, rest⟩
                match c.rest with
                | [] => ([(name, value)], .cut true .endInValue c.offset, none)
                | l :: rest =>
                  if l = .char '"' then
                    let (members, close, after) := outlineMembers fuel ⟨c.offset + 1, rest⟩
                    ((name, value) :: members, close, after)
                  else if l = .char '\x7d' then
                    ([(name, value)], .cut true .trailingComma (c.offset + 1), none)
                  else ([(name, value)], .cut true .nameNotText (c.offset + 1), none)
              else ([(name, value)], .cut false .noObjectComma (c.offset + 1), none)
        else ([(name, .broken .name .noColon .noColon (c.offset + 1))], .unread, none)

end

/-- The outline of a text, and the place after its value unless that goes wrong. Every two units
of fuel read at least one letter. -/
def outline (text : List Letter) : Outline × Option Cursor :=
  outlineValue (2 * text.length + 2) ⟨0, text⟩

end Pipewright.Json
