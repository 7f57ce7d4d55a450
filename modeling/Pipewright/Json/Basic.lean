import Pipewright.Decimal.Shortest

/-!
# JSON values

A value as a tree. The members of an object keep the order of the text and may repeat a name;
`Json.settled` is the value in which the last member of a name stands alone and names are in the
order of their bytes. Integers that fit 64 bits, signed or unsigned, are exact; every other number
is of the binary format.
-/
namespace Pipewright

/-- A number as a value. -/
inductive Json.Number where
  /-- A non-negative integer below 2^64. -/
  | natural (n : Nat)
  /-- The integer -(n + 1), not below -2^63. -/
  | negative (n : Nat)
  /-- Any other number. -/
  | real (minus : Bool) (size : Binary64)
  deriving DecidableEq

/-- A JSON value. -/
inductive Json where
  /-- The null value. -/
  | null
  /-- A truth value. -/
  | bool (b : Bool)
  /-- A number. -/
  | number (n : Json.Number)
  /-- A text. -/
  | text (s : String)
  /-- A list of values. -/
  | list (items : List Json)
  /-- Named values in order. -/
  | object (members : List (String × Json))

instance : Inhabited Json := ⟨.null⟩

namespace Json

/-- A natural number as a value. -/
def nat (n : Nat) : Json := number (.natural n)

/-- A text or nothing, nothing being null. -/
def textOrNull : Option String → Json
  | some s => text s
  | none => null

/-- A word as a value. -/
def word (n : UInt64) : Json := nat n.toNat

/-- A word or nothing, nothing being null. -/
def wordOrNull : Option UInt64 → Json
  | some n => word n
  | none => null

/-- A list of texts. -/
def texts (items : List String) : Json := list (items.map text)

/-- The order of texts by their UTF-8 bytes, which is the order by code points. -/
def keyLess (a b : String) : Bool := decide (a < b)

/-- Puts a member where its name belongs, over an earlier member of that name. -/
def putMember (name : String) (value : Json) : List (String × Json) → List (String × Json)
  | [] => [(name, value)]
  | (other, old) :: rest =>
    if name == other then (name, value) :: rest
    else if keyLess name other then (name, value) :: (other, old) :: rest
    else (other, old) :: putMember name value rest

mutual

/-- The value in which names are in order and the last member of a name stands alone. -/
def settled : Json → Json
  | list items => list (settledItems items)
  | object members => object (settledMembers [] members)
  | null => null
  | bool b => bool b
  | number n => number n
  | text s => text s

/-- The settled values of a list. -/
def settledItems : List Json → List Json
  | [] => []
  | item :: items => settled item :: settledItems items

/-- The settled members, put one after another over those already placed. -/
def settledMembers (placed : List (String × Json)) : List (String × Json) → List (String × Json)
  | [] => placed
  | (name, value) :: rest => settledMembers (putMember name (settled value) placed) rest

end

mutual

/-- The levels of a value: one, and for a list or an object those of its tallest part. -/
def height : Json → Nat
  | list items => itemsHeight items + 1
  | object members => membersHeight members + 1
  | _ => 1

/-- The height of the tallest item. -/
def itemsHeight : List Json → Nat
  | [] => 0
  | item :: items => max (height item) (itemsHeight items)

/-- The height of the tallest member. -/
def membersHeight : List (String × Json) → Nat
  | [] => 0
  | (_, value) :: members => max (height value) (membersHeight members)

end

end Json

end Pipewright
