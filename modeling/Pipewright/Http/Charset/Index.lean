/-!
# Indexes of characters

A charset of several bytes numbers its characters, and its bytes give the number of each. An index
is written as text: a number and a colon, and after them the characters from that number on, up to
the next number. Spaces and ends of lines between them do not count, and a number that is passed
over has no character.
-/
namespace Pipewright.Http.Charset

/-- Characters by their numbers. -/
structure Index where
  /-- The characters, with gaps. -/
  chars : Array Char

namespace Index

/-- What stands where there is no character. -/
def gap : Char := '\x00'

/-- The characters so far, and the number being read, with one more character of the text. -/
def step (progress : Array Char × Nat) (c : Char) : Array Char × Nat :=
  let (chars, n) := progress
  if c.isDigit then (chars, n * 10 + (c.toNat - 0x30))
  else if c == ':' then (chars ++ Array.replicate (n - chars.size) gap, 0)
  else if c == ' ' || c == '\n' then (chars, n)
  else (chars.push c, n)

/-- The index that a text writes. -/
def ofText (text : String) : Index := ⟨(text.foldl step (#[], 0)).1⟩

/-- The character of a number. -/
def get? (index : Index) (n : Nat) : Option Char := index.chars[n]?.filter (· != gap)

/-- The characters of a stretch of code points that an index does not have, in order. -/
def others (index : Index) (first count : Nat) : Array Char :=
  let present := index.chars.foldl
    (fun marks c => if c.toNat < first then marks else marks.setIfInBounds (c.toNat - first) true)
    (Array.replicate count false)
  (Array.range count).filterMap fun n =>
    if present.getD n false then none else some (Char.ofNat (first + n))

end Index

end Pipewright.Http.Charset
