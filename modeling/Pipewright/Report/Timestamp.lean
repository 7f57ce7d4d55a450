import Pipewright.Text.Blank

/-!
# Moments in time

A moment is a date and a time of day in UTC, to the nanosecond, with a sixtieth second allowed for
leap seconds. It is written by RFC 3339 with as many thousands of fraction digits as it needs, and
read with any offset from UTC; the reader also takes blanks between the parts, a year of any width
after a sign, and a space in place of the T.
-/
namespace Pipewright

/-- Whether a year has a leap day. -/
def isLeapYear (year : Int) : Bool := year % 4 == 0 && (year % 100 != 0 || year % 400 == 0)

/-- The days of a month of a year. -/
def daysInMonth (year : Int) (month : Nat) : Nat :=
  if month == 2 then (if isLeapYear year then 29 else 28)
  else if month == 4 || month == 6 || month == 9 || month == 11 then 30
  else 31

/-- A date. -/
structure Date where
  /-- The year, year 0 being before year 1. -/
  year : Int
  /-- The month, from 1. -/
  month : Nat
  /-- The day of the month, from 1. -/
  day : Nat
  deriving DecidableEq

namespace Date

/-- Whether there is such a day, in the years that moments may have. -/
def isValid (d : Date) : Bool :=
  -262143 ≤ d.year && d.year ≤ 262142 && 1 ≤ d.month && d.month ≤ 12 && 1 ≤ d.day
    && d.day ≤ daysInMonth d.year d.month

/-- The day after. -/
def next (d : Date) : Date :=
  if d.day < daysInMonth d.year d.month then ⟨d.year, d.month, d.day + 1⟩
  else if d.month < 12 then ⟨d.year, d.month + 1, 1⟩
  else ⟨d.year + 1, 1, 1⟩

/-- The day before. -/
def previous (d : Date) : Date :=
  if 1 < d.day then ⟨d.year, d.month, d.day - 1⟩
  else if 1 < d.month then ⟨d.year, d.month - 1, daysInMonth d.year (d.month - 1)⟩
  else ⟨d.year - 1, 12, 31⟩

/-- The date that many days after the start of the year 1970. Years are counted from March, so that
a leap day is the last one of its year. -/
def ofDays (days : Nat) : Date :=
  let n := days + 719468
  let dayOfEra := n % 146097
  let yearOfEra := (dayOfEra - dayOfEra / 1460 + dayOfEra / 36524 - dayOfEra / 146096) / 365
  let dayOfYear := dayOfEra - (365 * yearOfEra + yearOfEra / 4 - yearOfEra / 100)
  let monthFromMarch := (5 * dayOfYear + 2) / 153
  let day := dayOfYear - (153 * monthFromMarch + 2) / 5 + 1
  let month := if monthFromMarch < 10 then monthFromMarch + 3 else monthFromMarch - 9
  let year := yearOfEra + n / 146097 * 400 + (if month ≤ 2 then 1 else 0)
  ⟨year, month, day⟩

end Date

/-- A moment in UTC. -/
structure Timestamp where
  /-- The date. -/
  date : Date
  /-- The hour, below 24. -/
  hour : Nat
  /-- The minute, below 60. -/
  minute : Nat
  /-- The second, up to 60. -/
  second : Nat
  /-- The nanoseconds, below 10^9. -/
  nano : Nat
  deriving DecidableEq

namespace Timestamp

/-- A number in at least that many digits. -/
def padded (width n : Nat) : List Char :=
  let digits := Nat.toDigits 10 n
  List.replicate (width - digits.length) '0' ++ digits

/-- A year in four digits, or with its sign and at least four when those do not do. -/
def yearText (year : Int) : List Char :=
  if 0 ≤ year && year ≤ 9999 then padded 4 year.natAbs
  else (if year < 0 then '-' else '+') :: padded 4 year.natAbs

/-- The fraction of a second in 0, 3, 6 or 9 digits. -/
def fractionText (nano : Nat) : List Char :=
  if nano == 0 then []
  else if nano % 1000000 == 0 then '.' :: padded 3 (nano / 1000000)
  else if nano % 1000 == 0 then '.' :: padded 6 (nano / 1000)
  else '.' :: padded 9 nano

/-- The characters of a moment's text. -/
def chars (t : Timestamp) : List Char :=
  yearText t.date.year ++ '-' :: padded 2 t.date.month ++ '-' :: padded 2 t.date.day
    ++ 'T' :: padded 2 t.hour ++ ':' :: padded 2 t.minute ++ ':' :: padded 2 t.second
    ++ fractionText t.nano ++ ['Z']

/-- The text of a moment. -/
def text (t : Timestamp) : String := String.ofList t.chars

/-- The time of day as a clock shows it. -/
def clock (t : Timestamp) : String :=
  String.ofList (padded 2 t.hour ++ ':' :: padded 2 t.minute ++ ':' :: padded 2 t.second)

/-- The moment that many nanoseconds after the start of the year 1970. -/
def ofUnix (nanoseconds : Nat) : Timestamp :=
  let seconds := nanoseconds / Nat.pow 10 9
  ⟨Date.ofDays (seconds / 86400), seconds % 86400 / 3600, seconds % 3600 / 60, seconds % 60,
    nanoseconds % Nat.pow 10 9⟩

/-- The characters without the blanks at their start. -/
def skipBlanks (cs : List Char) : List Char := cs.dropWhile isBlankChar

/-- Takes a number of at least one and at most that many digits. -/
def takeNumber (most : Nat) (cs : List Char) : Option (Nat × List Char) :=
  let digits := (cs.take most).takeWhile Char.isDigit
  if digits.isEmpty then none
  else some (Nat.ofDigitChars 10 digits 0, cs.drop digits.length)

/-- Takes a character, after any blanks. -/
def takeMark (mark : Char) (cs : List Char) : Option (List Char) :=
  match skipBlanks cs with
  | c :: rest => if c = mark then some rest else none
  | [] => none

/-- Takes a year: up to four digits, or any number of them after a sign. -/
def takeYear (cs : List Char) : Option (Int × List Char) :=
  match skipBlanks cs with
  | '-' :: rest => (takeNumber rest.length rest).map fun (n, rest) => (-(n : Int), rest)
  | '+' :: rest => (takeNumber rest.length rest).map fun (n, rest) => ((n : Int), rest)
  | cs => (takeNumber 4 cs).map fun (n, rest) => ((n : Int), rest)

/-- Takes a fraction of a second, if there is one; digits beyond the ninth are dropped. -/
def takeFraction (cs : List Char) : Option (Nat × List Char) :=
  match cs with
  | '.' :: rest =>
    let digits := rest.takeWhile Char.isDigit
    if digits.isEmpty then none
    else
      let kept := digits.take 9
      some (Nat.ofDigitChars 10 kept 0 * Nat.pow 10 (9 - kept.length), rest.drop digits.length)
  | cs => some (0, cs)

/-- Takes two digits. -/
def takeTwoDigits : List Char → Option (Nat × List Char)
  | a :: b :: rest =>
    if a.isDigit && b.isDigit then some (Nat.ofDigitChars 10 [a, b] 0, rest) else none
  | _ => none

/-- Takes an offset from UTC, in minutes. -/
def takeOffset (cs : List Char) : Option (Int × List Char) :=
  match cs with
  | 'Z' :: rest => some (0, rest)
  | 'z' :: rest => some (0, rest)
  | sign :: rest =>
    if sign = '+' ∨ sign = '-' ∨ sign = Char.ofNat 0x2212 then do
      let (hours, rest) ← takeTwoDigits rest
      let (minutes, rest) ← takeTwoDigits (rest.dropWhile fun c => c == ':' || isBlankChar c)
      if minutes < 60 && hours < 24 then
        let size : Int := hours * 60 + minutes
        some (if sign = '+' then size else -size, rest)
      else none
    else none
  | [] => none

/-- Takes UTC by its name in any case, or an offset. -/
def takeZone (cs : List Char) : Option (Int × List Char) :=
  match cs with
  | u :: t :: c :: rest =>
    if u.toUpper = 'U' ∧ t.toUpper = 'T' ∧ c.toUpper = 'C' then some (0, rest) else takeOffset cs
  | cs => takeOffset cs

/-- The moment at a local date and time that is that many minutes ahead of UTC. -/
def ofLocal (date : Date) (hour minute second nano : Nat) (offset : Int) : Timestamp :=
  let minutes : Int := hour * 60 + minute - offset
  if minutes < 0 then
    ⟨date.previous, ((minutes + 1440) / 60).toNat, (minutes % 60).toNat, second, nano⟩
  else if minutes < 1440 then ⟨date, (minutes / 60).toNat, (minutes % 60).toNat, second, nano⟩
  else ⟨date.next, ((minutes - 1440) / 60).toNat, (minutes % 60).toNat, second, nano⟩

/-- Reads a moment. -/
def parse (text : String) : Option Timestamp := do
  let (year, rest) ← takeYear text.toList
  let rest ← takeMark '-' rest
  let (month, rest) ← takeNumber 2 (skipBlanks rest)
  let rest ← takeMark '-' rest
  let (day, rest) ← takeNumber 2 (skipBlanks rest)
  let rest ←
    match rest with
    | 'T' :: rest => some rest
    | 't' :: rest => some rest
    | ' ' :: rest => some rest
    | _ => none
  let (hour, rest) ← takeNumber 2 (skipBlanks rest)
  let rest ← takeMark ':' rest
  let (minute, rest) ← takeNumber 2 (skipBlanks rest)
  let rest ← takeMark ':' rest
  let (second, rest) ← takeNumber 2 (skipBlanks rest)
  let (nano, rest) ← takeFraction rest
  let (offset, rest) ← takeZone (skipBlanks rest)
  let date : Date := ⟨year, month, day⟩
  if (skipBlanks rest).isEmpty && date.isValid && hour < 24 && minute < 60 && second ≤ 60 then
    some (ofLocal date hour minute second nano offset)
  else none

end Timestamp

end Pipewright
