import ClientSynth.Number.Binary64

/-! # Shortest decimal text

Decimal text of a binary floating-point number: the fewest digits that read
back as the same number, and of those the ones nearest to it.

The digits come from a search over decimal grids.  The numbers that round to
`x` form an interval around it, closed exactly if the significand is even.  The
coarsest grid `10 ^ k` with a point in that interval is the one to use, and
such a point is then one of the two neighbours of `x` on the grid. -/
namespace ClientSynth
namespace Binary64

/-- Largest `e` with `10 ^ e ≤ x`, for `x` not zero. -/
def decimalExponent (x : Binary64) : Int :=
  let scaled := divPow2 (x.significand * tenPow 400) 1 (-x.exponent)
  Int.ofNat (Nat.toDigits 10 (scaled.1 / scaled.2)).length - 401

/-- The neighbour of `x` on the grid `10 ^ k` that rounds to `x` and is nearest
to it, in units of the grid.  Distances are measured in quarters of the last
bit of `x`: its neighbours are four away, or two below a power of two, and the
interval that rounds to `x` ends halfway. -/
def onGrid (x : Binary64) (k : Int) : Option Nat :=
  let value := 4 * x.significand
  let below := if x.significand = twoPow 52 ∧ x.exponent ≠ minExponent then 1 else 2
  let grid := if 0 ≤ k then (tenPow k.toNat, 1) else (1, tenPow (-k).toNat)
  let unit := divPow2 grid.1 grid.2 (x.exponent - 2)
  let fits (d : Nat) : Bool :=
    let point := d * unit.1
    let low := (value - below) * unit.2
    let high := (value + 2) * unit.2
    if x.significand % 2 = 0 then decide (low ≤ point) && decide (point ≤ high)
    else decide (low < point) && decide (point < high)
  let d := value * unit.2 / unit.1
  let rest := value * unit.2 % unit.1
  let nearer := if 2 * rest < unit.1 ∨ (2 * rest = unit.1 ∧ d % 2 = 0) then d else d + 1
  let other := if nearer = d then d + 1 else d
  if fits nearer then some nearer else if fits other then some other else none

/-- Digits and power of ten of the shortest decimal that reads back as `x`. -/
def shortest (x : Binary64) : Nat × Int :=
  if x.isZero then (0, 0)
  else
    let top := x.decimalExponent + 1
    let grids := (List.range 19).map (fun i => top - Int.ofNat i)
    (grids.findSome? (fun k => (x.onGrid k).map (fun d => (d, k)))).getD (0, 0)

/-- Exponents of ten that are written without an exponent: from `1e-5` up to, but
not including, `1e16`. -/
def isPositional (exponent : Int) : Bool := decide (-5 ≤ exponent) && decide (exponent < 16)

/-- Decimal text: positional with at least one decimal place inside
`isPositional`, else one digit before the point and a signed exponent. -/
def text (x : Binary64) : String :=
  let sign := if x.negative then "-" else ""
  if x.isZero then sign ++ "0.0"
  else
    let (d, k) := x.shortest
    let digits := Nat.toDigits 10 d
    let exponent : Int := Int.ofNat digits.length - 1 + k
    let body : List Char :=
      if isPositional exponent then
        if 0 ≤ k then digits ++ List.replicate k.toNat '0' ++ ['.', '0']
        else if 0 ≤ exponent then
          digits.take (exponent.toNat + 1) ++ '.' :: digits.drop (exponent.toNat + 1)
        else ['0', '.'] ++ List.replicate ((-exponent).toNat - 1) '0' ++ digits
      else
        digits.take 1 ++ (if digits.length = 1 then [] else '.' :: digits.drop 1) ++
          ['e', if exponent < 0 then '-' else '+'] ++ Nat.toDigits 10 exponent.natAbs
    sign ++ String.ofList body

end Binary64
end ClientSynth
