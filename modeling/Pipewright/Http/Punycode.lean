/-!
# Punycode

A label of a host name with characters outside ASCII is written with ASCII alone: first its ASCII
characters, then, in the order of their code points, where the others stand. Each place is a
distance from the one before, written in base 36 with a threshold for each digit that adapts to the
distances seen so far.
-/
namespace Pipewright.Punycode

/-- The character of a digit of base 36. -/
def digit (n : Nat) : Char :=
  if n < 26 then Char.ofNat (0x61 + n) else Char.ofNat (0x30 + (n - 26))

/-- The threshold of the digit at a position under a bias. -/
def threshold (position bias : Nat) : Nat :=
  if position ≤ bias then 1 else if bias + 26 ≤ position then 26 else position - bias

/-- Every threshold lies between one and 26. -/
theorem threshold_bounds (position bias : Nat) :
    1 ≤ threshold position bias ∧ threshold position bias ≤ 26 := by
  unfold threshold
  split
  · omega
  · split <;> omega

/-- The digits of a distance, from a position on. -/
def digits (bias position n : Nat) : List Char :=
  let t := threshold position bias
  if n < t then [digit n]
  else digit (t + (n - t) % (36 - t)) :: digits bias (position + 36) ((n - t) / (36 - t))
termination_by n
decreasing_by
  have bounds := threshold_bounds position bias
  have := Nat.div_le_self (n - threshold position bias) (36 - threshold position bias)
  omega

/-- The part of the bias that comes from a scaled distance. -/
def settle (distance bias : Nat) : Nat :=
  if 455 < distance then settle (distance / 35) (bias + 36)
  else bias + 36 * distance / (distance + 38)
termination_by distance
decreasing_by omega

/-- The bias after a distance to the character of that count. -/
def adapt (distance count : Nat) (isFirst : Bool) : Nat :=
  let scaled := if isFirst then distance / 700 else distance / 2
  settle (scaled + scaled / count) 0

/-- What has been written of a label. -/
structure Progress where
  /-- The digits of the places so far. -/
  written : List Char
  /-- The distance since the last place. -/
  distance : Nat
  /-- The bias. -/
  bias : Nat
  /-- How many characters have been placed. -/
  placed : Nat
  /-- Whether no character outside ASCII has been placed. -/
  isFirst : Bool

/-- Passes a character while those of a code point are placed. -/
def pass (point : Nat) (p : Progress) (c : Char) : Progress :=
  if c.toNat < point then { p with distance := p.distance + 1 }
  else if c.toNat = point then
    ⟨p.written ++ digits p.bias 36 p.distance, 0, adapt p.distance (p.placed + 1) p.isFirst,
      p.placed + 1, false⟩
  else p

/-- Places the characters of code points in order, the first of them at least a given one. -/
def place (label : List Char) : List Nat → Nat → Progress → Progress
  | [], _, p => p
  | point :: points, least, p =>
    let p := { p with distance := p.distance + (point - least) * (p.placed + 1) }
    let p := label.foldl (pass point) p
    place label points (point + 1) { p with distance := p.distance + 1 }

/-- Puts a number into an ascending list, unless it is there. -/
def insert (n : Nat) : List Nat → List Nat
  | [] => [n]
  | m :: rest => if n < m then n :: m :: rest else if n = m then m :: rest else m :: insert n rest

/-- A label written with ASCII characters. -/
def encode (label : List Char) : List Char :=
  let basic := label.filter fun c => c.toNat < 0x80
  let points := (label.filter fun c => 0x80 ≤ c.toNat).foldr (fun c => insert c.toNat) []
  let p := place label points 0x80 ⟨[], 0, 72, basic.length, true⟩
  basic ++ (if basic.isEmpty then [] else ['-']) ++ p.written

/-! ## Reading -/

/-- The value of a digit of base 36. -/
def digitValue (c : Char) : Option Nat :=
  let n := c.toNat
  if 0x61 ≤ n && n ≤ 0x7A then some (n - 0x61)
  else if 0x30 ≤ n && n ≤ 0x39 then some (n - 0x30 + 26)
  else none

/-- The bound of the weight of a digit, and of a distance. -/
def bound : Nat := Nat.pow 2 32

/-- A distance whose digits start a text, and what follows it. -/
def readDistance (bias position weight : Nat) : List Char → Option (Nat × List Char)
  | [] => none
  | c :: rest =>
    match digitValue c with
    | none => none
    | some d =>
      let t := threshold position bias
      if d < t then some (d * weight, rest)
      else if bound ≤ weight * (36 - t) then none
      else
        (readDistance bias (position + 36) (weight * (36 - t)) rest).map fun (n, rest) =>
          (d * weight + n, rest)

/-- A distance takes at least one digit. -/
theorem readDistance_length {bias position weight n : Nat} {text rest : List Char}
    (read : readDistance bias position weight text = some (n, rest)) :
    rest.length < text.length := by
  induction text generalizing position weight n with
  | nil => simp [readDistance] at read
  | cons c text ih =>
    simp only [readDistance] at read
    split at read
    · simp at read
    · split at read
      · simp_all
      · split at read
        · simp at read
        · obtain ⟨⟨m, after⟩, inner, same⟩ := Option.map_eq_some_iff.mp read
          have : after = rest := (Prod.mk.inj same).2
          subst this
          exact Nat.lt_succ_of_lt (ih inner)

/-- Puts a character in front of all but the first few of a text. -/
def putAt (place : Nat) (c : Char) (text : List Char) : List Char :=
  text.take place ++ c :: text.drop place

/-- What has been read of a label. -/
structure Reading where
  /-- The characters so far. -/
  text : List Char
  /-- The code point of the character that was placed last. -/
  point : Nat
  /-- The place after it. -/
  place : Nat
  /-- The bias. -/
  bias : Nat
  /-- Whether no character outside ASCII has been placed. -/
  isFirst : Bool

/-- Places a character at a distance; beyond the last place the next code point begins. -/
def Reading.step (r : Reading) (distance : Nat) : Option Reading :=
  let count := r.text.length + 1
  let total := r.place + distance
  let point := r.point + total / count
  if total < bound && point.isValidChar then
    some ⟨putAt (total % count) (Char.ofNat point) r.text, point, total % count + 1,
      adapt distance count r.isFirst, false⟩
  else none

/-- Places a character for each distance of a text. -/
def readPlaces (r : Reading) (text : List Char) : Option (List Char) :=
  if text.isEmpty then some r.text
  else
    match _read : readDistance r.bias 36 1 text with
    | none => none
    | some (distance, rest) => (r.step distance).bind fun r => readPlaces r rest
termination_by text.length
decreasing_by exact readDistance_length ‹_›

/-- The label that a text in ASCII writes. At least one distance follows the last hyphen, and before
a hyphen stands at least one character. -/
def decode (text : List Char) : Option (List Char) :=
  let places := (text.reverse.takeWhile (· != '-')).reverse
  let basic := text.take (text.length - places.length - 1)
  if places.isEmpty || (basic.isEmpty && places.length < text.length) then none
  else readPlaces ⟨basic, 0x80, 0, 72, true⟩ places

end Pipewright.Punycode
