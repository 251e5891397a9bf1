import ClientSynth.Number.Shortest
import ClientSynth.Number.Word

/-! # Numbers and numerals

The numbers of a document, and the spellings under which a text counts as one:
whole numbers of a machine word and decimals with an optional exponent. -/
namespace ClientSynth

/-- A number of a document: a whole number, or a finite binary number. -/
inductive Number where
  /-- A whole number that fits 64 bits, with or without a sign. -/
  | integer (value : Int)
  /-- Any other number. -/
  | real (value : Binary64)
  deriving Repr, DecidableEq

/-- Decimal text of a number. -/
def Number.text : Number → String
  | .integer value => toString value
  | .real value => value.text

/-- The number as a signed 64-bit word, if it is one. -/
def Number.signed? : Number → Option Int
  | .integer value => if Word.fitsSigned 64 value then some value else none
  | .real _ => none

/-- The number as an unsigned 64-bit word, if it is one. -/
def Number.unsigned? : Number → Option Nat
  | .integer value => if Word.fitsUnsigned 64 value then some value.toNat else none
  | .real _ => none

namespace Numeral

/-- Value of a digit in bases up to 16. -/
def digitValue (c : Char) : Nat :=
  if c.isDigit then c.toNat - '0'.toNat
  else if 'a' ≤ c ∧ c ≤ 'f' then c.toNat - 'a'.toNat + 10
  else c.toNat - 'A'.toNat + 10

/-- Whether `c` is a digit in the given base. -/
def isDigitIn (base : Nat) (c : Char) : Bool :=
  (c.isDigit || (decide ('a' ≤ c) && decide (c ≤ 'f')) || (decide ('A' ≤ c) && decide (c ≤ 'F'))) &&
    decide (digitValue c < base)

/-- Value of a list of digits in the given base. -/
def ofDigits (base : Nat) (cs : List Char) : Nat :=
  cs.foldl (fun n c => n * base + digitValue c) 0

/-- Value of a nonempty run of digits, none if another character occurs. -/
def natural? (base : Nat) (cs : List Char) : Option Nat :=
  if !cs.isEmpty && cs.all (isDigitIn base) then some (ofDigits base cs) else none

/-- A decimal whole number of 64 bits without a minus sign; a plus is allowed. -/
def unsigned? (s : String) : Option Nat :=
  let body := match s.toList with
    | '+' :: rest => rest
    | cs => cs
  (natural? 10 body).filter (fun n => Word.fitsUnsigned 64 (Int.ofNat n))

/-- A decimal whole number of 64 bits with an optional sign. -/
def signed? (s : String) : Option Int :=
  let value := match s.toList with
    | '-' :: rest => (natural? 10 rest).map (fun n => -Int.ofNat n)
    | '+' :: rest => (natural? 10 rest).map Int.ofNat
    | cs => (natural? 10 cs).map Int.ofNat
  value.filter (Word.fitsSigned 64)

/-- A decimal in parts: sign, digits without the point, and power of ten. -/
structure Decimal where
  /-- Whether a minus sign stands in front. -/
  negative : Bool
  /-- The digits on both sides of the point, read as one number. -/
  digits : Nat
  /-- Power of ten of the last digit. -/
  scale : Int
  deriving Repr, DecidableEq

/-- The sign in front of a numeral, and what follows it. -/
def splitSign : List Char → Bool × List Char
  | '-' :: rest => (true, rest)
  | '+' :: rest => (false, rest)
  | cs => (false, cs)

/-- An exponent mark with its number, or nothing at all. -/
def exponent? : List Char → Option Int
  | [] => some 0
  | c :: rest =>
    if c = 'e' ∨ c = 'E' then
      let (negative, digits) := splitSign rest
      (natural? 10 digits).map (fun n => if negative then -Int.ofNat n else Int.ofNat n)
    else none

/-- A decimal: digits with an optional point, at least one digit on either side
of it, and an optional exponent. -/
def decimal? (cs : List Char) : Option Decimal :=
  let (negative, body) := splitSign cs
  let whole := body.takeWhile Char.isDigit
  let tail := body.dropWhile Char.isDigit
  let (places, rest) := match tail with
    | '.' :: more => (more.takeWhile Char.isDigit, more.dropWhile Char.isDigit)
    | _ => ([], tail)
  if whole.isEmpty && places.isEmpty then none
  else (exponent? rest).map (fun e =>
    ⟨negative, ofDigits 10 (whole ++ places), e - Int.ofNat places.length⟩)

/-- The words that stand for infinity and for no number at all, in lowercase. -/
def specialWords : List String := ["inf", "infinity", "nan"]

/-- Whether `s` is the text of a floating-point number: a decimal, or a word for
infinity or for no number, in any case and with an optional sign. -/
def isFloatText (s : String) : Bool :=
  (decimal? s.toList).isSome ||
    specialWords.contains (String.ofList ((splitSign s.toList).2.map Char.toLower))

end Numeral
end ClientSynth
