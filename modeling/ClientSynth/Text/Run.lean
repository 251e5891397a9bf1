/-! # Runs of code points

Character properties are kept as lists of runs.  A run is an arithmetic
progression of code points; a shift run also says how far away the other case
of each member is. -/
namespace ClientSynth
namespace Text

/-- The code points `first`, `first + stride`, …, `last`. -/
structure Run where
  /-- Smallest member. -/
  first : Nat
  /-- Largest member. -/
  last : Nat
  /-- Distance between neighbours; 1 for a solid block. -/
  stride : Nat
  deriving Repr, DecidableEq

/-- Whether the code point `n` is a member of the run. -/
def Run.contains (r : Run) (n : Nat) : Bool :=
  decide (r.first ≤ n) && decide (n ≤ r.last) && (n - r.first) % r.stride == 0

/-- A run whose members all map to the code point `shift` further on. -/
structure ShiftRun where
  /-- The mapped characters. -/
  run : Run
  /-- Signed distance to the image. -/
  shift : Int
  deriving Repr, DecidableEq

/-- Image of the code point `n` under the first run that contains it. -/
def shiftOf (runs : List ShiftRun) (n : Nat) : Option Nat :=
  (runs.find? (fun r => r.run.contains n)).map (fun r => (Int.ofNat n + r.shift).toNat)

/-- Whether some run contains the code point `n`. -/
def inRuns (runs : List Run) (n : Nat) : Bool := runs.any (fun r => r.contains n)

end Text
end ClientSynth
