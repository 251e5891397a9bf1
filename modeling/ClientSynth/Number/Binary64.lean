import ClientSynth.Number.Power

/-! # Binary floating point

Finite numbers of the 64-bit binary format, kept as a sign, a significand and
a power of two, so that rounding is integer arithmetic.  Every operation takes
the exact result as a ratio of naturals and rounds it once, to nearest, a half
going to the even neighbour.  A result beyond the largest finite number is
`none`. -/
namespace ClientSynth

/-- A finite number `± significand * 2 ^ exponent`.  Numbers made by
`Binary64.ofRatio` have a significand below `2 ^ 53`, and one below `2 ^ 52`
only at the smallest exponent. -/
structure Binary64 where
  /-- Whether the sign bit is set; zero has a sign too. -/
  negative : Bool
  /-- The significand. -/
  significand : Nat
  /-- The power of two. -/
  exponent : Int
  deriving Repr, DecidableEq

namespace Binary64

/-- Exponent of the smallest positive number. -/
def minExponent : Int := -1074

/-- Exponent of the largest finite number. -/
def maxExponent : Int := 971

/-- Zero with the given sign. -/
def zero (negative : Bool) : Binary64 := ⟨negative, 0, minExponent⟩

/-- Whether the number is a zero of either sign. -/
def isZero (x : Binary64) : Bool := x.significand == 0

/-- The number with its sign turned around. -/
def neg (x : Binary64) : Binary64 := ⟨!x.negative, x.significand, x.exponent⟩

/-- The quotient `num / den` rounded to the nearest natural, a half to the even one. -/
def roundDiv (num den : Nat) : Nat :=
  let quotient := num / den
  let twice := 2 * (num % den)
  if twice < den then quotient
  else if den < twice then quotient + 1
  else quotient + quotient % 2

/-- The ratio `num / den` divided by `2 ^ e`, again as a ratio. -/
def divPow2 (num den : Nat) (e : Int) : Nat × Nat :=
  if 0 ≤ e then (num, den * twoPow e.toNat) else (num * twoPow (-e).toNat, den)

/-- Exponent at which `num / den` has a significand of 53 bits, or the smallest
exponent for a ratio too small for that. -/
def exponentOf (num den : Nat) : Int :=
  let guess : Int := Int.ofNat num.log2 - Int.ofNat den.log2 - 52
  let scaled := divPow2 num den guess
  let exact := if scaled.1 / scaled.2 < twoPow 52 then guess - 1 else guess
  max exact minExponent

/-- The number nearest to `± num / den`. -/
def ofRatio (negative : Bool) (num den : Nat) : Option Binary64 :=
  if num = 0 then some (zero negative)
  else
    let e := exponentOf num den
    let scaled := divPow2 num den e
    let m := roundDiv scaled.1 scaled.2
    let result := if m = twoPow 53 then ⟨negative, twoPow 52, e + 1⟩ else ⟨negative, m, e⟩
    if maxExponent < result.exponent then none else some result

/-- The number nearest to the natural `n`. -/
def ofNat (n : Nat) : Option Binary64 := ofRatio false n 1

/-- Product, rounded. -/
def mul (x y : Binary64) : Option Binary64 :=
  let scaled := divPow2 (x.significand * y.significand) 1 (-(x.exponent + y.exponent))
  ofRatio (x.negative != y.negative) scaled.1 scaled.2

/-- Quotient, rounded; `y` is not zero. -/
def div (x y : Binary64) : Option Binary64 :=
  let scaled := divPow2 x.significand y.significand (-(x.exponent - y.exponent))
  ofRatio (x.negative != y.negative) scaled.1 scaled.2

/-- The number nearest to `± digits * 10 ^ scale`.  Scales far outside the range
of the format are decided without computing the power. -/
def ofDecimal (negative : Bool) (digits : Nat) (scale : Int) : Option Binary64 :=
  let magnitude : Int := Int.ofNat (Nat.toDigits 10 digits).length + scale
  if digits = 0 || magnitude < -400 then some (zero negative)
  else if 400 < magnitude then none
  else if 0 ≤ scale then ofRatio negative (digits * tenPow scale.toNat) 1
  else ofRatio negative digits (tenPow (-scale).toNat)

/-- The number nearest to `10 ^ k`. -/
def powerOfTen (k : Nat) : Option Binary64 := ofRatio false (tenPow k) 1

end Binary64
end ClientSynth
