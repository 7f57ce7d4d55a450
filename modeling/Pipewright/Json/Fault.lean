import Pipewright.Json.Basic
import Pipewright.Text.Debug

/-!
# Why a JSON text is refused

A text is refused because of its form, at a place in it, or because a well-formed value is not the
one wanted. Both kinds are causes; their wording is in one function for each.
-/
namespace Pipewright.Json

/-- What is wrong with the form of a text. -/
inductive Cause where
  /-- The text ends inside a list. -/
  | endInList
  /-- The text ends inside an object. -/
  | endInObject
  /-- The text ends inside a quoted text. -/
  | endInText
  /-- The text ends where a value stands or should start. -/
  | endInValue
  /-- A name has no colon after it. -/
  | noColon
  /-- An item is followed by something other than a comma or the end of its list. -/
  | noListComma
  /-- A member is followed by something other than a comma or the end of its object. -/
  | noObjectComma
  /-- A word is begun and goes on wrongly. -/
  | badWord
  /-- No value starts here. -/
  | noValue
  /-- A backslash is followed by something it does not escape. -/
  | badEscape
  /-- The digits do not form a number. -/
  | badNumber
  /-- The number is beyond the greatest of the binary format. -/
  | numberRange
  /-- A quoted text has bytes that are not characters. -/
  | badCodePoint
  /-- A quoted text has a raw control character. -/
  | rawControl
  /-- A member has no quoted name. -/
  | nameNotText
  /-- An escaped surrogate has no partner. -/
  | loneSurrogate
  /-- An escaped leading surrogate is not followed by an escape. -/
  | brokenPair
  /-- A comma is followed by the end of the list or object. -/
  | trailingComma
  /-- Something follows the value. -/
  | trailingText
  /-- Lists and objects are nested too deeply. -/
  | tooDeep
  deriving DecidableEq

namespace Cause

/-- Whether the text ended too early, which more text might mend. -/
def isEnd : Cause → Bool
  | endInList | endInObject | endInText | endInValue => true
  | _ => false

/-- The wording of a cause. -/
def message : Cause → String
  | endInList => "EOF while parsing a list"
  | endInObject => "EOF while parsing an object"
  | endInText => "EOF while parsing a string"
  | endInValue => "EOF while parsing a value"
  | noColon => "expected `:`"
  | noListComma => "expected `,` or `]`"
  | noObjectComma => "expected `,` or `\x7d`"
  | badWord => "expected ident"
  | noValue => "expected value"
  | badEscape => "invalid escape"
  | badNumber => "invalid number"
  | numberRange => "number out of range"
  | badCodePoint => "invalid unicode code point"
  | rawControl => "control character (\\u0000-\\u001F) found while parsing a string"
  | nameNotText => "key must be a string"
  | loneSurrogate => "lone leading surrogate in hex escape"
  | brokenPair => "unexpected end of hex escape"
  | trailingComma => "trailing comma"
  | trailingText => "trailing characters"
  | tooDeep => "recursion limit exceeded"

end Cause

/-- What was wanted where a value of another kind stands. -/
inductive Want where
  /-- A text. -/
  | text
  /-- A truth value. -/
  | bool
  /-- A list. -/
  | list
  /-- A natural number below 2^64. -/
  | natural
  /-- The name of a kind. -/
  | kind
  /-- A block. -/
  | block
  /-- Null, beside the name of a kind without content. -/
  | unit
  /-- A record of the given name. -/
  | record (name : String)
  deriving DecidableEq

/-- The wording of what was wanted. -/
def Want.message : Want → String
  | text => "a string"
  | bool => "a boolean"
  | list => "a sequence"
  | natural => "u64"
  | kind => "variant identifier"
  | block => "internally tagged enum BlockNode"
  | unit => "unit"
  | record name => "struct " ++ name

/-- What a value is, as far as a refusal tells. -/
inductive Found where
  /-- Null. -/
  | null
  /-- A truth value. -/
  | bool (b : Bool)
  /-- A number. -/
  | number (n : Number)
  /-- A text. -/
  | text (s : String)
  /-- A list, whatever it holds. -/
  | list
  /-- An object, whatever it holds. -/
  | object
  deriving DecidableEq

/-- The text of a number: an integer in plain digits, any other number by its shortest decimal. -/
def Number.toText : Number → List Char
  | natural n => Nat.toDigits 10 n
  | negative n => '-' :: Nat.toDigits 10 (n + 1)
  | real minus size => size.toText minus

/-- The wording of what was found. -/
def Found.message : Found → String
  | null => "null"
  | bool b => "boolean `" ++ (if b then "true" else "false") ++ "`"
  | number (.real minus size) => "floating point `" ++ String.ofList (size.toText minus) ++ "`"
  | number n => "integer `" ++ String.ofList n.toText ++ "`"
  | text s => "string " ++ debugText s
  | list => "sequence"
  | object => "map"

/-- How a well-formed value differs from the one wanted. -/
inductive Mismatch where
  /-- A value of another kind. -/
  | wrongKind (found : Found) (want : Want)
  /-- A negative integer for a natural number. -/
  | belowZero (found : Number)
  /-- A list of count + rest items where count were taken. -/
  | tooMany (found : Nat) (taken : Nat)
  /-- A list that ends before the required field at an index of a record with that many fields. -/
  | tooFew (index : Nat) (name : String) (fields : Nat)
  /-- A required field is absent. -/
  | missing (field : String)
  /-- A field occurs twice. -/
  | repeated (field : String)
  /-- A name that is none of those listed. -/
  | unlisted (name : String) (listed : List String)
  /-- A text that is not a moment in time. -/
  | badTimestamp
  /-- A text that is not a session identifier. -/
  | badSessionId
  deriving DecidableEq

/-- A count of elements in words. -/
def countElements (n : Nat) : String :=
  if n == 1 then "1 element" else toString n ++ " elements"

/-- The wording of a mismatch. -/
def Mismatch.message : Mismatch → String
  | wrongKind found want => "invalid type: " ++ found.message ++ ", expected " ++ want.message
  | belowZero found =>
    "invalid value: integer `" ++ String.ofList found.toText ++ "`, expected u64"
  | tooMany found taken =>
    "invalid length " ++ toString found ++ ", expected " ++ countElements taken ++ " in sequence"
  | tooFew index name fields =>
    "invalid length " ++ toString index ++ ", expected struct " ++ name ++ " with "
      ++ countElements fields
  | missing field => "missing field `" ++ field ++ "`"
  | repeated field => "duplicate field `" ++ field ++ "`"
  | unlisted name listed =>
    "unknown variant `" ++ name ++ "`, expected one of "
      ++ String.intercalate ", " (listed.map fun other => "`" ++ other ++ "`")
  | badTimestamp => "input contains invalid characters"
  | badSessionId => "UUID parsing failed"

/-- Why a text is refused. -/
inductive Fault where
  /-- Its form is wrong, noticed when that many of its bytes had been read. -/
  | form (cause : Cause) (offset : Nat)
  /-- Its value is not the one wanted. -/
  | shape (mismatch : Mismatch)
  deriving DecidableEq

end Pipewright.Json
