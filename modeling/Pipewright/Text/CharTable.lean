import Pipewright.Text.Digits
import Pipewright.Text.Split

/-!
# Tables of characters

A property of characters is a table of spans of code points in ascending order. A table is written
as words: each span by its first and its last code point in hexadecimal digits, with a hyphen
between them if they differ, and after an equals sign the code points that it stands for, with
points between them.
-/
namespace Pipewright

/-- Code points in a row, with what they stand for. -/
structure Span where
  /-- The first of them. -/
  first : Nat
  /-- The last of them. -/
  last : Nat
  /-- The code points that they stand for. -/
  value : List Nat
  deriving DecidableEq

namespace Span

/-- The first and the last code point of a word. -/
def bounds? (word : List Char) : Option (Nat × Nat) :=
  match splitAtChar '-' word with
  | [first] => (readDigits 16 first).map fun n => (n, n)
  | [first, last] => do some (← readDigits 16 first, ← readDigits 16 last)
  | _ => none

/-- The span of a word. -/
def ofWord? (word : List Char) : Option Span :=
  match splitAtChar '=' word with
  | [bounds] => (bounds? bounds).map fun (first, last) => ⟨first, last, []⟩
  | [bounds, value] => do
    let (first, last) ← bounds? bounds
    some ⟨first, last, ← (splitAtChar '.' value).mapM (readDigits 16)⟩
  | _ => none

/-- The characters that a code point of a span stands for, where each code point stands for a text
that begins one further on than that of the code point before it. -/
def shifted (span : Span) (n : Nat) : List Char :=
  match span.value with
  | [] => []
  | v :: vs => Char.ofNat (v + (n - span.first)) :: vs.map Char.ofNat

end Span

/-- Spans in ascending order. -/
structure CharTable where
  /-- The spans. -/
  spans : Array Span

namespace CharTable

/-- The words of a text, which stand between spaces and ends of lines. -/
def words (text : String) : Array (List Char) :=
  let (done, word) := text.foldl (fun (done, word) c =>
    if c == ' ' || c == '\n' then
      if word.isEmpty then (done, []) else (done.push word.reverse, [])
    else (done, c :: word)) ((#[] : Array (List Char)), ([] : List Char))
  if word.isEmpty then done else done.push word.reverse

/-- The table that a text writes. -/
def ofText (text : String) : CharTable := ⟨(words text).filterMap Span.ofWord?⟩

/-- The span that holds a code point, among those from one place up to another. -/
def search (spans : Array Span) (n low high : Nat) : Option Span :=
  if low < high then
    let middle := (low + high) / 2
    match spans[middle]? with
    | none => none
    | some span =>
      if n < span.first then search spans n low middle
      else if span.last < n then search spans n (middle + 1) high
      else some span
  else none
termination_by high - low
decreasing_by all_goals omega

/-- The span of a table that holds a code point. -/
def at? (table : CharTable) (n : Nat) : Option Span := search table.spans n 0 table.spans.size

/-- The span of a table that holds a character. -/
def find? (table : CharTable) (c : Char) : Option Span := table.at? c.toNat

/-- Whether a table has a span that holds a character. -/
def contains (table : CharTable) (c : Char) : Bool := (table.find? c).isSome

end CharTable

end Pipewright
