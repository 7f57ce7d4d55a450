import Pipewright.Http.Charset.Chinese
import Pipewright.Http.Charset.Japanese
import Pipewright.Http.Charset.Korean
import Pipewright.Http.Charset.SingleByte
import Pipewright.Text.Letter

/-!
# Text of a body

A body is text in the charset that a mark at its start names, or else in the one that its media
type names, or else in UTF-8. Bytes that mean nothing become replacement characters, so every body
is some text.
-/
namespace Pipewright.Http

/-! ## Media types -/

namespace MediaType

/-- Whether a character may stand in a name or a bare value. -/
def isToken (c : Char) : Bool :=
  c.isAlphanum || c == '!' || c == '#' || c == '$' || c == '%' || c == '&' || c == '\'' || c == '+'
    || c == '-' || c == '.' || c == '^' || c == '_' || c == '\x60' || c == '|' || c == '~'

/-- Whether a character may stand in quotes. -/
def isQuotable (c : Char) : Bool := 0x1F < c.toNat && c != '\x7f'

/-- The value between quotes that have been opened, and what follows them; at least one character
stands between them. -/
def quotedValue (text : List Char) : Option (List Char × List Char) :=
  match text with
  | [] => none
  | first :: rest =>
    let value := first :: rest.takeWhile (· != '\"')
    match rest.dropWhile (· != '\"') with
    | [] => none
    | _ :: rest => if value.all isQuotable then some (value, rest) else none

/-- The value of a parameter, and what follows it up to the next one. -/
def value (text : List Char) : Option (List Char × List Char) :=
  match text with
  | '\"' :: rest => do
    let (value, rest) ← quotedValue rest
    match rest.dropWhile (· == ' ') with
    | [] => some (value, [])
    | ';' :: rest => some (value, rest)
    | _ => none
  | _ =>
    let value := text.takeWhile isToken
    match text.dropWhile isToken with
    | [] => some (value, [])
    | ';' :: rest => if value.isEmpty then none else some (value, rest)
    | _ => none

/-- The parameters of a media type by name. Fuel bounds their number. -/
def parameters : Nat → List Char → Option (List (List Char × List Char))
  | 0, _ => none
  | fuel + 1, text =>
    match text.dropWhile (· == ' ') with
    | [] => some []
    | text =>
      let name := text.takeWhile isToken
      match text.dropWhile isToken with
      | '=' :: rest =>
        if name.isEmpty then none
        else do
          let (value, rest) ← value rest
          let more ← parameters fuel rest
          some ((name.map Char.toLower, value) :: more)
      | _ => none

/-- The charset that a media type names, if it is a media type and names one. -/
def charset (text : String) : Option (List Char) := do
  let text := text.toList
  if !text.all fun c => c == '\t' || (0x20 ≤ c.toNat && c.toNat < 0x7F) then none
  let kind := text.takeWhile isToken
  match text.dropWhile isToken with
  | '/' :: rest =>
    let subkind := rest.takeWhile isToken
    if kind.isEmpty || subkind.isEmpty then none
    match rest.dropWhile isToken with
    | ';' :: rest => (← parameters (rest.length + 1) rest).lookup "charset".toList
    | _ => none
  | _ => none

end MediaType

/-! ## Charsets -/

/-- A charset. -/
inductive Charset where
  /-- UTF-8. -/
  | utf8
  /-- UTF-16, the high byte first or last. -/
  | utf16 (highFirst : Bool)
  /-- A charset of one byte. -/
  | singleByte (charset : Charset.SingleByte)
  /-- The charset of Japanese whose second byte may be one of ASCII. -/
  | shiftJis
  /-- The charset of Japanese with bytes beyond ASCII. -/
  | eucJp
  /-- The charset of Japanese with marks between bytes of ASCII. -/
  | iso2022Jp
  /-- The charset of Korean. -/
  | eucKr
  /-- The charset of simplified Chinese. -/
  | gb18030
  /-- The charset of traditional Chinese. -/
  | big5
  /-- The charset whose bytes from 128 on are for private use. -/
  | userDefined
  /-- The charset of all those that may hide ASCII: it has no text. -/
  | withheld
  deriving DecidableEq

namespace Charset

/-- The charsets of more than one byte, and those without a text, by their labels. -/
def otherLabels : List (String × Charset) :=
  [("unicode-1-1-utf-8", .utf8), ("unicode11utf8", .utf8), ("unicode20utf8", .utf8),
    ("utf-8", .utf8), ("utf8", .utf8), ("x-unicode20utf8", .utf8),
    ("unicodefffe", .utf16 true), ("utf-16be", .utf16 true),
    ("csunicode", .utf16 false), ("iso-10646-ucs-2", .utf16 false), ("ucs-2", .utf16 false),
    ("unicode", .utf16 false), ("unicodefeff", .utf16 false), ("utf-16", .utf16 false),
    ("utf-16le", .utf16 false),
    ("csshiftjis", .shiftJis), ("ms932", .shiftJis), ("ms_kanji", .shiftJis),
    ("shift-jis", .shiftJis), ("shift_jis", .shiftJis), ("sjis", .shiftJis),
    ("windows-31j", .shiftJis), ("x-sjis", .shiftJis),
    ("cseucpkdfmtjapanese", .eucJp), ("euc-jp", .eucJp), ("x-euc-jp", .eucJp),
    ("csiso2022jp", .iso2022Jp), ("iso-2022-jp", .iso2022Jp),
    ("cseuckr", .eucKr), ("csksc56011987", .eucKr), ("euc-kr", .eucKr), ("iso-ir-149", .eucKr),
    ("korean", .eucKr), ("ks_c_5601-1987", .eucKr), ("ks_c_5601-1989", .eucKr),
    ("ksc5601", .eucKr), ("ksc_5601", .eucKr), ("windows-949", .eucKr),
    ("chinese", .gb18030), ("csgb2312", .gb18030), ("csiso58gb231280", .gb18030),
    ("gb18030", .gb18030), ("gb2312", .gb18030), ("gb_2312", .gb18030),
    ("gb_2312-80", .gb18030), ("gbk", .gb18030), ("iso-ir-58", .gb18030), ("x-gbk", .gb18030),
    ("big5", .big5), ("big5-hkscs", .big5), ("cn-big5", .big5), ("csbig5", .big5),
    ("x-x-big5", .big5), ("x-user-defined", .userDefined),
    ("csiso2022kr", .withheld), ("hz-gb-2312", .withheld), ("iso-2022-cn", .withheld),
    ("iso-2022-cn-ext", .withheld), ("iso-2022-kr", .withheld), ("replacement", .withheld)]

/-- The charset of a label; blanks around it and capitals do not count. -/
def ofLabel (label : List Char) : Option Charset :=
  let isEdge (c : Char) : Bool := c == ' ' || c == '\t' || c == '\n' || c == '\x0c' || c == '\r'
  let trimmed := ((label.dropWhile isEdge).reverse.dropWhile isEdge).reverse
  let label := String.ofList (trimmed.map Char.toLower)
  match singleByteLabels.lookup label with
  | some charset => some (singleByte charset)
  | none => otherLabels.lookup label

/-- The units of two bytes, and whether a byte is left over. -/
def units16 (highFirst : Bool) : List UInt8 → List Nat × Bool
  | [] => ([], false)
  | [_] => ([], true)
  | a :: b :: rest =>
    let (units, odd) := units16 highFirst rest
    ((if highFirst then a.toNat * 256 + b.toNat else b.toNat * 256 + a.toNat) :: units, odd)

/-- The characters of units of two bytes: half a pair stands for nothing. -/
def chars16 : List Nat → List Char
  | [] => []
  | [unit] => [if 0xD800 ≤ unit && unit < 0xE000 then replacement else Char.ofNat unit]
  | high :: low :: rest =>
    if 0xD800 ≤ high && high < 0xDC00 then
      if 0xDC00 ≤ low && low < 0xE000 then
        Char.ofNat (0x10000 + (high - 0xD800) * 0x400 + (low - 0xDC00)) :: chars16 rest
      else replacement :: chars16 (low :: rest)
    else if 0xDC00 ≤ high && high < 0xE000 then replacement :: chars16 (low :: rest)
    else Char.ofNat high :: chars16 (low :: rest)

/-- Whether units end within a pair. -/
def endsInPair (units : List Nat) : Bool :=
  match units.getLast? with
  | some unit => 0xD800 ≤ unit && unit < 0xDC00
  | none => false

/-- The text of bytes in a charset. -/
def decode (charset : Charset) (bytes : List UInt8) : List Char :=
  match charset with
  | utf8 => lossy bytes
  | utf16 highFirst =>
    let (units, odd) := units16 highFirst bytes
    let chars := chars16 units
    if odd && !endsInPair units then chars ++ [replacement] else chars
  | singleByte charset => bytes.map charset.toChar
  | shiftJis => Front.decode ShiftJis.front bytes
  | eucJp => Front.decode EucJp.front bytes
  | iso2022Jp => Iso2022Jp.decode bytes
  | eucKr => Front.decode EucKr.front bytes
  | gb18030 => Front.decode Gb18030.front bytes
  | big5 => Front.decode Big5.front bytes
  | userDefined =>
    bytes.map fun b => if b < 128 then Char.ofNat b.toNat else Char.ofNat (0xF700 + b.toNat)
  | withheld => if bytes.isEmpty then [] else [replacement]

/-- The charset that a mark at the start of bytes names, and the bytes after it. -/
def ofMark : List UInt8 → Option (Charset × List UInt8)
  | 0xEF :: 0xBB :: 0xBF :: rest => some (utf8, rest)
  | 0xFE :: 0xFF :: rest => some (utf16 true, rest)
  | 0xFF :: 0xFE :: rest => some (utf16 false, rest)
  | _ => none

end Charset

/-- The text of a body with a media type. -/
def bodyText (mediaType : Option String) (bytes : List UInt8) : String :=
  match Charset.ofMark bytes with
  | some (charset, rest) => String.ofList (charset.decode rest)
  | none =>
    let charset := ((mediaType.bind MediaType.charset).bind Charset.ofLabel).getD .utf8
    String.ofList (charset.decode bytes)

end Pipewright.Http
