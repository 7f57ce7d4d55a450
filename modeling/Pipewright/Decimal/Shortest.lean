import Pipewright.Decimal.Binary64

/-!
# The shortest decimal that reads back

A number of the binary format is written with the fewest digits that determine it: for one digit,
then two, and so on, the two decimals of that length on either side of the number are tested
against the interval of reals that round to it. The first length with a hit wins, the nearer of two
hits, and the even one of two equally near.
-/
namespace Pipewright

/-- A positive decimal: digits, the first one not zero, and the power of ten of the first. -/
structure Decimal where
  /-- The digits in order, without trailing zeros. -/
  digits : List Char
  /-- The power of ten that the first digit counts. -/
  power : Int
  deriving DecidableEq

namespace Decimal

/-- The largest power of ten not above the positive quotient num / den, found from an estimate by
stepping up while the next power still fits; fuel bounds the steps. -/
def floorPower (num den : Nat) : Int :=
  let fits : Int → Bool := fun k =>
    match k with
    | .ofNat up => den * Nat.pow 10 up ≤ num
    | .negSucc down => den ≤ num * Nat.pow 10 (down + 1)
  let estimate : Int := (((Nat.log2 num : Int) - (Nat.log2 den : Int)) * 3) / 10 - 4
  let rec climb : Nat → Int → Int
    | 0, k => k
    | fuel + 1, k => if fits (k + 1) then climb fuel (k + 1) else k
  climb 40 (if fits estimate then estimate else estimate - 20)

/-- The quotient of num / den and 10^power, as a numerator and a denominator. -/
def scaled (num den : Nat) (power : Int) : Nat × Nat :=
  match power with
  | .ofNat up => (num, den * Nat.pow 10 up)
  | .negSucc down => (num * Nat.pow 10 (down + 1), den)

/-- The interval of reals that round to a positive number of the format, over a common
denominator: the lower end, the number, the upper end, the denominator. -/
def interval (x : Binary64) : Nat × Nat × Nat × Nat :=
  let narrow := x.significand == Nat.pow 2 52 && x.exponent != Binary64.leastExponent
  let low := 4 * x.significand - (if narrow then 1 else 2)
  let mid := 4 * x.significand
  let high := 4 * x.significand + 2
  match x.exponent with
  | .ofNat up => (low * Nat.pow 2 up, mid * Nat.pow 2 up, high * Nat.pow 2 up, 4)
  | .negSucc down => (low, mid, high, 4 * Nat.pow 2 (down + 1))

/-- The integer on the decimal grid 10^power that reads back as the number, if one of the two
beside the number does. -/
def onGrid (x : Binary64) (power : Int) : Option Nat :=
  let (low, mid, high, den) := interval x
  let (lowNum, gridDen) := scaled low den power
  let (midNum, _) := scaled mid den power
  let (highNum, _) := scaled high den power
  let inside : Nat → Bool := fun d =>
    if x.significand % 2 == 0 then lowNum ≤ d * gridDen && d * gridDen ≤ highNum
    else lowNum < d * gridDen && d * gridDen < highNum
  let below := midNum / gridDen
  let above := below + 1
  let distanceBelow := midNum - below * gridDen
  let distanceAbove := above * gridDen - midNum
  match inside below && below != 0, inside above with
  | true, true =>
    if distanceBelow < distanceAbove then some below
    else if distanceAbove < distanceBelow then some above
    else if below % 2 == 0 then some below else some above
  | true, false => some below
  | false, true => some above
  | false, false => none

/-- Digits of a positive integer without its trailing zeros. -/
def significantDigits (n : Nat) : List Char :=
  ((Nat.toDigits 10 n).reverse.dropWhile (· == '0')).reverse

/-- The first grid, from coarse to fine, that holds a decimal for the number. -/
def search (x : Binary64) : Nat → Int → Decimal
  | 0, _ => ⟨['0'], 0⟩
  | fuel + 1, power =>
    match onGrid x power with
    | some n => ⟨significantDigits n, power + ((Nat.toDigits 10 n).length - 1 : Nat)⟩
    | none => search x fuel (power - 1)

/-- The shortest decimal of a positive number of the format. -/
def shortest (x : Binary64) : Decimal :=
  let (num, den) := x.ratio
  search x 18 (floorPower num den)

/-- The text of a decimal: positional from 10^-5 up to below 10^16, with a fraction part even when
it is zero; otherwise one digit before the point, and an exponent with its sign and no leading
zero. -/
def toText (d : Decimal) : List Char :=
  if -5 ≤ d.power && d.power < 16 then
    match d.power with
    | .ofNat up =>
      let whole := d.digits.take (up + 1)
      let padded := whole ++ List.replicate (up + 1 - whole.length) '0'
      let fraction := d.digits.drop (up + 1)
      padded ++ '.' :: (if fraction.isEmpty then ['0'] else fraction)
    | .negSucc down => '0' :: '.' :: (List.replicate down '0' ++ d.digits)
  else
    let mantissa :=
      match d.digits with
      | [] => []
      | [first] => [first]
      | first :: rest => first :: '.' :: rest
    mantissa ++ 'e' :: (if d.power < 0 then '-' else '+') :: Nat.toDigits 10 d.power.natAbs

end Decimal

/-- The text of a number of the binary format and its sign. -/
def Binary64.toText (negative : Bool) (x : Binary64) : List Char :=
  let body := if x.significand == 0 then ['0', '.', '0'] else (Decimal.shortest x).toText
  if negative then '-' :: body else body

end Pipewright
