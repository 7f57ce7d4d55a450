import Pipewright.Http.HostName
import Pipewright.Http.Percent
import Pipewright.Text.Split

/-!
# Hosts

The host of an address is a name, four numbers, or eight groups in brackets. Names are in ASCII, the
form they are looked up in. Anything whose last label is a number has to be four numbers. Each host
has one written form, which `Host.parse` gives.
-/
namespace Pipewright.Http

namespace Host

/-- Whether no host holds a character. -/
def isForbidden (c : Char) : Bool :=
  c == '\x00' || c == '\t' || c == '\n' || c == '\r' || c == ' ' || c == '#' || c == '/' || c == ':'
    || c == '<' || c == '>' || c == '?' || c == '@' || c == '[' || c == '\\' || c == ']'
    || c == '^' || c == '|'

/-- Whether no name of a host holds a character. -/
def isForbiddenInName (c : Char) : Bool :=
  isForbidden c || c.toNat < 0x20 || c == '%' || c == '\x7f'

/-! ## Four numbers -/

/-- One of the four numbers: hexadecimal after 0x, octal after another zero, else decimal. -/
def readNumber : List Char → Option Nat
  | [] => none
  | ['0', 'x'] => some 0
  | ['0', 'X'] => some 0
  | '0' :: 'x' :: digits => readDigits 16 digits
  | '0' :: 'X' :: digits => readDigits 16 digits
  | ['0'] => some 0
  | '0' :: digits => readDigits 8 digits
  | digits => readDigits 10 digits

/-- The labels of a name, without an empty one at its end. -/
def labels (name : List Char) : List (List Char) :=
  let parts := splitAtChar '.' name
  if parts.length > 1 && parts.getLast? == some [] then parts.dropLast else parts

/-- Whether the last label of a name is a number. -/
def endsInNumber (name : List Char) : Bool :=
  match (labels name).getLast? with
  | none => false
  | some last => (!last.isEmpty && last.all Char.isDigit) || (readNumber last).isSome

/-- The value of numbers of which all but the last are one byte each; the last fills the rest. -/
def packNumbers : List Nat → Nat → Option Nat
  | [], _ => none
  | [last], room => if last < room then some last else none
  | n :: rest, room =>
    if n < 256 then (packNumbers rest (room / 256)).map (n * (room / 256) + ·) else none

/-- The four numbers of a name that ends in one. -/
def readFour (name : List Char) : Option Nat := do
  let numbers ← (labels name).mapM readNumber
  if numbers.length ≤ 4 then packNumbers numbers (Nat.pow 2 32) else none

/-- A natural number in decimal digits. -/
def decimal (n : Nat) : List Char := Nat.toDigits 10 n

/-- Four numbers with points between them. -/
def writeFour (n : Nat) : List Char :=
  joinWith ['.'] [decimal (n / Nat.pow 2 24), decimal (n / Nat.pow 2 16 % 256),
    decimal (n / Nat.pow 2 8 % 256), decimal (n % 256)]

/-! ## Eight groups -/

/-- A group of one to four hexadecimal digits. -/
def readGroup (cs : List Char) : Option Nat :=
  if cs.length ≤ 4 then readDigits 16 cs else none

/-- A number of one byte in decimal digits, without a zero before others. -/
def readByte (cs : List Char) : Option Nat :=
  match cs with
  | '0' :: _ :: _ => none
  | _ =>
    match readDigits 10 cs with
    | some n => if n < 256 then some n else none
    | none => none

/-- The two groups of four numbers with points between them. -/
def readTail (cs : List Char) : Option (List Nat) := do
  match ← (splitAtChar '.' cs).mapM readByte with
  | [a, b, c, d] => some [a * 256 + b, c * 256 + d]
  | _ => none

/-- The groups between colons, of which the last may be four numbers if that is allowed. -/
def readGroups (tailAllowed : Bool) : List (List Char) → Option (List Nat)
  | [] => some []
  | [last] =>
    if tailAllowed && last.contains '.' then readTail last else (readGroup last).map ([·])
  | group :: groups => do
    let n ← readGroup group
    let ns ← readGroups tailAllowed groups
    some (n :: ns)

/-- What stands before and after the first two colons in a row. -/
def splitAtGap : List Char → Option (List Char × List Char)
  | ':' :: ':' :: rest => some ([], rest)
  | c :: rest => (splitAtGap rest).map fun (before, after) => (c :: before, after)
  | [] => none

/-- The groups of a text without a gap; an empty text has none. -/
def groupsOf (tailAllowed : Bool) (cs : List Char) : Option (List Nat) :=
  if cs.isEmpty then some [] else readGroups tailAllowed (splitAtChar ':' cs)

/-- The eight groups of a text; two colons in a row stand for as many zeros as are missing. -/
def readEight (cs : List Char) : Option (List Nat) :=
  match splitAtGap cs with
  | none => do
    let groups ← groupsOf true cs
    if groups.length = 8 then some groups else none
  | some (before, after) => do
    let first ← groupsOf false before
    let last ← groupsOf true after
    if first.length + last.length ≤ 7 then
      some (first ++ List.replicate (8 - first.length - last.length) 0 ++ last)
    else none

/-- The number of zeros at the start. -/
def leadingZeros (groups : List Nat) : Nat := (groups.takeWhile (· == 0)).length

/-- Where the first of the longest runs of zeros starts, and how long it is. -/
def longestGap (start : Nat) : List Nat → Nat × Nat
  | [] => (start, 0)
  | group :: groups =>
    let here := leadingZeros (group :: groups)
    let (later, length) := longestGap (start + 1) groups
    if here ≥ length then (start, here) else (later, length)

/-- A group in hexadecimal digits. -/
def writeGroup (n : Nat) : List Char := Nat.toDigits 16 n

/-- Eight groups in brackets, the longest run of at least two zeros left out. -/
def writeEight (groups : List Nat) : List Char :=
  let write (part : List Nat) : List Char := joinWith [':'] (part.map writeGroup)
  let (start, length) := longestGap 0 groups
  let inner :=
    if length < 2 then write groups
    else write (groups.take start) ++ [':', ':'] ++ write (groups.drop (start + length))
  '[' :: inner ++ [']']

/-! ## Hosts -/

/-- The written form of a host of the web, if it is one. -/
def parse (text : List Char) : Option (List Char) :=
  match text with
  | '[' :: rest =>
    match rest.reverse with
    | ']' :: inner => (readEight inner.reverse).map writeEight
    | _ => none
  | _ =>
    match HostName.ascii? (lossy (percentDecode text)) with
    | none => none
    | some name =>
      if name.isEmpty || name.any isForbiddenInName then none
      else if endsInNumber name then (readFour name).map writeFour
      else some name

/-- The written form of a host of another scheme, if it is one; it may be empty. -/
def parseOther (text : List Char) : Option (List Char) :=
  match text with
  | '[' :: _ => parse text
  | _ =>
    if text.any isForbidden then none else some (percentEncode isEncodedAnywhere text)

end Host

end Pipewright.Http
