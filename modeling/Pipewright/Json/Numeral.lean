import Pipewright.Json.Outline

/-!
# The value of a numeral

Digits are taken into an integer below 2^64 as long as they fit. A numeral that is all taken and
has neither point nor exponent is that integer, except that minus zero and anything below -2^63
are of the binary format. Every other numeral is of the binary format: digits before the point that
no longer fit count as powers of ten, digits after it are dropped, and the integer is then
multiplied or divided by a power of ten, rounding each time.
-/
namespace Pipewright.Json

/-- The integers that a numeral's digits are taken into stay below this bound. -/
def wordBound : Nat := Nat.pow 2 64

/-- Takes digits into an integer until one no longer fits; the integer and the digits left. -/
def takeFitting (n : Nat) : List Char → Nat × List Char
  | [] => (n, [])
  | d :: digits =>
    let next := n * 10 + (d.toNat - '0'.toNat)
    if next < wordBound then takeFitting next digits else (n, d :: digits)

/-- The greatest exponent that is read in full. -/
def exponentBound : Nat := Nat.pow 2 31

/-- The value of exponent digits, or the count of digits read when it is no longer below the
bound. -/
def readPower (n count : Nat) : List Char → Nat ⊕ Nat
  | [] => .inl n
  | d :: digits =>
    let next := n * 10 + (d.toNat - '0'.toNat)
    if next < exponentBound then readPower next (count + 1) digits else .inr (count + 1)

/-- The number times a power of ten: none is beyond the greatest number of the format. Fuel bounds
the divisions that bring a large negative power into reach. -/
def scaleByTen : Nat → Binary64 → Int → Option Binary64
  | 0, _, _ => some Binary64.zero
  | fuel + 1, x, power =>
    match power with
    | .ofNat up =>
      if up ≤ 308 then (Binary64.pow10 up).bind x.mul
      else if x.significand == 0 then some x
      else none
    | .negSucc down =>
      let down := down + 1
      if down ≤ 308 then (Binary64.pow10 down).bind x.div
      else if x.significand == 0 then some x
      else
        match (Binary64.pow10 308).bind x.div with
        | some smaller => scaleByTen fuel smaller (308 - (down : Int))
        | none => none

/-- An integer times a power of ten as a number of the binary format. -/
def realOf (n : Nat) (power : Int) : Option Binary64 :=
  (Binary64.ofNat n).bind fun x => scaleByTen 8 x power

namespace Numeral

/-- The integer taken from all digits of the numeral before its exponent, and its power of ten. -/
def mantissa (numeral : Numeral) : Nat × Int :=
  let (n, beyond) := takeFitting 0 numeral.whole
  let (n, dropped) := takeFitting n numeral.fraction
  (n, (beyond.length : Int) - ((numeral.fraction.length - dropped.length : Nat) : Int))

/-- The value of a numeral, or the fault that it is beyond the binary format. -/
def value (numeral : Numeral) : Except Fault Number :=
  let (n, beyond) := takeFitting 0 numeral.whole
  if beyond.isEmpty && numeral.fraction.isEmpty && numeral.exponent.isNone then
    if !numeral.minus then .ok (.natural n)
    else if 0 < n && n ≤ Nat.pow 2 63 then .ok (.negative (n - 1))
    else
      match Binary64.ofNat n with
      | some size => .ok (.real true size)
      | none => .error (.form .numberRange numeral.stop)
  else
    let (n, power) := numeral.mantissa
    let finish (power : Int) : Except Fault Number :=
      match realOf n power with
      | some size => .ok (.real numeral.minus size)
      | none => .error (.form .numberRange numeral.stop)
    match numeral.exponent with
    | none => finish power
    | some (minus, digits) =>
      match readPower 0 0 digits with
      | .inl size => finish (if minus then power - size else power + size)
      | .inr count =>
        if n != 0 && !minus then
          .error (.form .numberRange (numeral.stop - digits.length + count))
        else .ok (.real numeral.minus Binary64.zero)

end Numeral

end Pipewright.Json
