/-!
# Double precision

The finite non-negative numbers of the IEEE 754 binary64 format, held exactly as an integer times
a power of two. Every operation computes the exact quotient of two integers and rounds once, to
the nearest number of the format and to the even one of two that are equally near; a quotient too
large for the format has no result.
-/
namespace Pipewright

/-- The number significand · 2^exponent, as the format holds it: the significand is below 2^53,
the exponent at least -1074, and one of the two is as small as that allows. -/
structure Binary64 where
  /-- The integer factor. -/
  significand : Nat
  /-- The power of two. -/
  exponent : Int
  deriving DecidableEq

namespace Binary64

/-- The least exponent of the format. -/
def leastExponent : Int := -1074

/-- The greatest exponent of the format. -/
def greatestExponent : Int := 971

/-- Zero. -/
def zero : Binary64 := ⟨0, leastExponent⟩

/-- The quotient rounded to the nearest integer, a half going to the even one. -/
def roundDiv (num den : Nat) : Nat :=
  let quotient := num / den
  let twice := 2 * (num % den)
  if twice < den then quotient
  else if twice == den then quotient + quotient % 2
  else quotient + 1

/-- The quotient of num / den and 2^exponent, as a numerator and a denominator. -/
def scaled (num den : Nat) (exponent : Int) : Nat × Nat :=
  match exponent with
  | .ofNat up => (num, den * Nat.pow 2 up)
  | .negSucc down => (num * Nat.pow 2 (down + 1), den)

/-- The exponent at which the quotient num / den has 53 binary digits, or the least exponent. -/
def exponentOf (num den : Nat) : Int :=
  let guess : Int := (Nat.log2 num : Int) - (Nat.log2 den : Int) - 52
  let (n, d) := scaled num den guess
  let exact := if n / d < Nat.pow 2 52 then guess - 1 else guess
  if exact < leastExponent then leastExponent else exact

/-- The number of the format nearest to num / den; none when it is beyond the greatest one. -/
def ofRatio (num den : Nat) : Option Binary64 :=
  if num == 0 then some zero
  else
    let exponent := exponentOf num den
    let (n, d) := scaled num den exponent
    let rounded := roundDiv n d
    let result : Binary64 :=
      if rounded == Nat.pow 2 53 then ⟨Nat.pow 2 52, exponent + 1⟩ else ⟨rounded, exponent⟩
    if result.exponent > greatestExponent then none else some result

/-- The number nearest to an integer. -/
def ofNat (n : Nat) : Option Binary64 := ofRatio n 1

/-- The exact value, as a numerator and a denominator. -/
def ratio (x : Binary64) : Nat × Nat :=
  match x.exponent with
  | .ofNat up => (x.significand * Nat.pow 2 up, 1)
  | .negSucc down => (x.significand, Nat.pow 2 (down + 1))

/-- The product, rounded. -/
def mul (x y : Binary64) : Option Binary64 :=
  ofRatio (x.ratio.1 * y.ratio.1) (x.ratio.2 * y.ratio.2)

/-- The quotient by a number that is not zero, rounded. -/
def div (x y : Binary64) : Option Binary64 :=
  ofRatio (x.ratio.1 * y.ratio.2) (x.ratio.2 * y.ratio.1)

/-- The power of ten nearest to 10^n. -/
def pow10 (n : Nat) : Option Binary64 := ofNat (Nat.pow 10 n)

end Binary64

end Pipewright
