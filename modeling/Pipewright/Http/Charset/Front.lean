/-!
# Bytes in groups

In a charset of several bytes the first byte of what is left, and those after it, decide what comes
next. A charset is given by what the front of a sequence of bytes means; text is read from front to
front.
-/
namespace Pipewright.Http.Charset

/-- The replacement character. -/
def replacement : Char := Char.ofNat 0xFFFD

/-- What the front of a sequence of bytes means. -/
structure Front where
  /-- The text of the front. -/
  text : List Char
  /-- How many bytes beyond the first belong to it. -/
  more : Nat
  deriving DecidableEq

namespace Front

/-- A character of so many bytes beyond the first. -/
def char (c : Char) (more : Nat) : Front := ⟨[c], more⟩

/-- A byte that means nothing. -/
def bad : Front := ⟨[replacement], 0⟩

/-- A front of at least so many bytes beyond the first that means nothing. The byte after those
belongs to it too, unless it is of ASCII, for that may be meant. -/
def badBefore (more : Nat) (rest : List UInt8) : Front :=
  match rest with
  | next :: _ => if next < 0x80 then ⟨[replacement], more⟩ else ⟨[replacement], more + 1⟩
  | [] => ⟨[replacement], more⟩

/-- The text of bytes, given what their front means. -/
def decode (front : UInt8 → List UInt8 → Front) : List UInt8 → List Char
  | [] => []
  | byte :: bytes =>
    (front byte bytes).text ++ decode front (bytes.drop (front byte bytes).more)
termination_by bytes => bytes.length
decreasing_by
  simp only [List.length_drop, List.length_cons]
  omega

end Front

end Pipewright.Http.Charset
