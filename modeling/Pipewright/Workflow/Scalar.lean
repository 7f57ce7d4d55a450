/-!
# Scalars of a workflow document

A name is written bare when every reader takes it for a string; otherwise, and wherever a value may
be any text, it is written between double quotes. Inside quotes only the quote, the backslash and
control characters are escaped, the common controls by a letter and the others by four hexadecimal
digits, so a quoted scalar never holds a line end.
-/
namespace Pipewright.Scalar

/-- Whether a character is an ASCII letter or digit. -/
def isAlphanumeric (c : Char) : Bool :=
  ('a' ≤ c && c ≤ 'z') || ('A' ≤ c && c ≤ 'Z') || ('0' ≤ c && c ≤ '9')

/-- Whether a bare scalar may start with a character. -/
def mayStart (c : Char) : Bool := isAlphanumeric c || c == '_'

/-- Whether a bare scalar may go on with a character. -/
def mayFollow (c : Char) : Bool :=
  isAlphanumeric c || c == '_' || c == '-' || c == '.' || c == '/'

/-- The words that some readers take for truth values or null, in lower case. -/
def reserved : List String := ["true", "false", "yes", "no", "on", "off", "null", "y", "n"]

/-- The words that readers take for numbers, in lower case. -/
def numberWords : List String := ["inf", "infinity", "nan"]

/-- The characters after the leading digits. -/
def afterDigits (cs : List Char) : List Char := cs.dropWhile Char.isDigit

/-- Whether what follows a mantissa is nothing or an exponent. -/
def isExponent : List Char → Bool
  | [] => true
  | mark :: rest =>
    (mark == 'e' || mark == 'E') &&
      let digits :=
        match rest with
        | '+' :: digits => digits
        | '-' :: digits => digits
        | digits => digits
      !digits.isEmpty && digits.all Char.isDigit

/-- Whether characters are a decimal number: digits with at most one point among or around them,
at least one digit in all, and perhaps an exponent. A sign cannot start a bare scalar, so none is
looked for. -/
def isDecimal (cs : List Char) : Bool :=
  let whole := cs.takeWhile Char.isDigit
  match afterDigits cs with
  | '.' :: rest =>
    (!whole.isEmpty || !(rest.takeWhile Char.isDigit).isEmpty) && isExponent (afterDigits rest)
  | rest => !whole.isEmpty && isExponent rest

/-- The text with its ASCII letters in lower case. -/
def lowerCase (text : String) : String := String.ofList (text.toList.map Char.toLower)

/-- Whether a text is a number to a reader of documents. -/
def isNumber (text : String) : Bool :=
  numberWords.contains (lowerCase text) || isDecimal text.toList

/-- Whether a text may be written bare. -/
def isPlain (text : String) : Bool :=
  match text.toList with
  | [] => false
  | first :: rest =>
    mayStart first && rest.all mayFollow && !reserved.contains (lowerCase text) && !isNumber text

/-- Whether a character is a control of Unicode's general category Cc. -/
def isControl (c : Char) : Bool := c.toNat < 0x20 || (0x7F ≤ c.toNat && c.toNat ≤ 0x9F)

/-- A hexadecimal digit in lower case. -/
def hexDigit (n : Nat) : Char := if n < 10 then Char.ofNat (48 + n) else Char.ofNat (87 + n)

/-- A character as it is written between quotes. -/
def escape (c : Char) : List Char :=
  if c = '"' then ['\\', '"']
  else if c = '\\' then ['\\', '\\']
  else if c = '\n' then ['\\', 'n']
  else if c = '\r' then ['\\', 'r']
  else if c = '\t' then ['\\', 't']
  else if isControl c then
    ['\\', 'u', '0', '0', hexDigit (c.toNat / 16), hexDigit (c.toNat % 16)]
  else [c]

/-- A text between double quotes. -/
def quoted (text : String) : List Char := '"' :: (text.toList.flatMap escape ++ ['"'])

/-- A text bare where that is safe, else between double quotes. -/
def scalar (text : String) : List Char := if isPlain text then text.toList else quoted text

/-- Scalars with commas between them. -/
def separated : List String → List Char
  | [] => []
  | [item] => scalar item
  | item :: items => scalar item ++ ',' :: ' ' :: separated items

/-- A list of scalars in brackets. -/
def flow (items : List String) : List Char := '[' :: (separated items ++ [']'])

end Pipewright.Scalar
