import ClientSynth.Number.Power

/-! # Machine words

Which whole numbers fit a word of a given width, with and without a sign. -/
namespace ClientSynth
namespace Word

/-- Whether `n` fits a word of `width` bits, one of which is the sign. -/
def fitsSigned (width : Nat) (n : Int) : Bool :=
  decide (-Int.ofNat (twoPow (width - 1)) ≤ n) && decide (n < Int.ofNat (twoPow (width - 1)))

/-- Whether `n` fits a word of `width` bits without a sign. -/
def fitsUnsigned (width : Nat) (n : Int) : Bool :=
  decide (0 ≤ n) && decide (n < Int.ofNat (twoPow width))

/-- Whether `n` fits a word of `width` bits of one kind or of the other. -/
def fits (width : Nat) (n : Int) : Bool := fitsSigned width n || fitsUnsigned width n

theorem fitsUnsigned_ofNat (width n : Nat) :
    fitsUnsigned width (Int.ofNat n) = decide (n < twoPow width) := by
  simp [fitsUnsigned]

end Word
end ClientSynth
