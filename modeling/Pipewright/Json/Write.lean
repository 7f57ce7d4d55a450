import Pipewright.Json.Fault

/-!
# Writing JSON

A value as one line without spaces, or spread over lines with two spaces a level. Quotes,
backslashes and the controls below U+0020 are escaped, the five common ones by a letter; every
other character stands for itself.
-/
namespace Pipewright.Json

/-- A hexadecimal digit in lower case. -/
def hexDigit (n : Nat) : Char := if n < 10 then Char.ofNat (48 + n) else Char.ofNat (87 + n)

/-- The escape of a UTF-16 unit by four hexadecimal digits. -/
def unitEscape (code : Nat) : List Char :=
  ['\\', 'u', hexDigit (code / 4096 % 16), hexDigit (code / 256 % 16), hexDigit (code / 16 % 16),
    hexDigit (code % 16)]

/-- A character as it is written inside quotes. -/
def quoteChar (c : Char) : List Char :=
  if c = '"' then ['\\', '"']
  else if c = '\\' then ['\\', '\\']
  else if c = '\x08' then ['\\', 'b']
  else if c = '\x0c' then ['\\', 'f']
  else if c = '\n' then ['\\', 'n']
  else if c = '\r' then ['\\', 'r']
  else if c = '\t' then ['\\', 't']
  else if c.toNat < 0x20 then unitEscape c.toNat
  else [c]

/-- A text between quotes. -/
def quote (text : List Char) : List Char := '"' :: (text.flatMap quoteChar ++ ['"'])

/-- A truth value as a word. -/
def boolWord (b : Bool) : List Char := if b then ['t', 'r', 'u', 'e'] else ['f', 'a', 'l', 's', 'e']

mutual

/-- A value on one line without spaces. -/
def compact : Json → List Char
  | null => ['n', 'u', 'l', 'l']
  | bool b => boolWord b
  | number n => n.toText
  | text s => quote s.toList
  | list items => '[' :: (compactItems items ++ [']'])
  | object members => '\x7b' :: (compactMembers members ++ ['\x7d'])

/-- Items with commas between them. -/
def compactItems : List Json → List Char
  | [] => []
  | [item] => compact item
  | item :: items => compact item ++ ',' :: compactItems items

/-- Members with commas between them. -/
def compactMembers : List (String × Json) → List Char
  | [] => []
  | [(name, value)] => quote name.toList ++ ':' :: compact value
  | (name, value) :: members =>
    quote name.toList ++ ':' :: (compact value ++ ',' :: compactMembers members)

end

/-- A line end and the indentation of a level. -/
def freshLine (level : Nat) : List Char := '\n' :: List.replicate (2 * level) ' '

mutual

/-- A value over several lines, at a level of indentation. -/
def spread (level : Nat) : Json → List Char
  | null => ['n', 'u', 'l', 'l']
  | bool b => boolWord b
  | number n => n.toText
  | text s => quote s.toList
  | list [] => ['[', ']']
  | list (item :: items) =>
    '[' :: (spreadItems (level + 1) (item :: items) ++ freshLine level ++ [']'])
  | object [] => ['\x7b', '\x7d']
  | object (member :: members) =>
    '\x7b' :: (spreadMembers (level + 1) (member :: members) ++ freshLine level ++ ['\x7d'])

/-- Items on lines of their own, with commas after all but the last. -/
def spreadItems (level : Nat) : List Json → List Char
  | [] => []
  | [item] => freshLine level ++ spread level item
  | item :: items => freshLine level ++ spread level item ++ ',' :: spreadItems level items

/-- Members on lines of their own, with commas after all but the last. -/
def spreadMembers (level : Nat) : List (String × Json) → List Char
  | [] => []
  | [(name, value)] => freshLine level ++ quote name.toList ++ ':' :: ' ' :: spread level value
  | (name, value) :: members =>
    freshLine level ++ quote name.toList ++ ':' :: ' ' :: spread level value
      ++ ',' :: spreadMembers level members

end

/-- The text of a value on one line. -/
def toText (value : Json) : String := String.ofList value.compact

/-- The text of a value over several lines. -/
def toPrettyText (value : Json) : String := String.ofList (value.spread 0)

end Pipewright.Json
