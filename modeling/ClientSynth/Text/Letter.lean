import ClientSynth.Text.CaseTable
import ClientSynth.Text.AlphanumericTable

/-! # Letters, case and blanks

Character classes as the naming rules use them.  ASCII characters are decided
by comparison; the rest by the property tables.  Case changes work on one
character at a time, without context, and may yield several characters
(`ß` becomes `SS`). -/
namespace ClientSynth
namespace Text

/-- Whether `c` is an ASCII character. -/
def isAscii (c : Char) : Bool := decide (c.toNat < 0x80)

/-- Whether `c` is an uppercase letter. -/
def isUpper (c : Char) : Bool :=
  if isAscii c then c.isUpper else inRuns uppercaseRuns c.toNat

/-- Whether `c` is a lowercase letter. -/
def isLower (c : Char) : Bool :=
  if isAscii c then c.isLower else inRuns lowercaseRuns c.toNat

/-- Whether `c` is a letter or a number of any script. -/
def isAlphanumeric (c : Char) : Bool :=
  if isAscii c then c.isAlphanum else inRuns alphanumericRuns c.toNat

/-- The character, or characters, of `c` in another case: an expansion if the
table has one, else a shift, else `c` itself. -/
def recase (expansions : List (Nat × List Nat)) (shifts : List ShiftRun) (c : Char) : List Char :=
  match expansions.lookup c.toNat with
  | some codes => codes.map Char.ofNat
  | none => [((shiftOf shifts c.toNat).map Char.ofNat).getD c]

/-- Lowercase form of `c`. -/
def toLower (c : Char) : List Char :=
  if isAscii c then [c.toLower] else recase lowerExpansions lowerShifts c

/-- Uppercase form of `c`. -/
def toUpper (c : Char) : List Char :=
  if isAscii c then [c.toUpper] else recase upperExpansions upperShifts c

/-- Every character of `s` in lowercase. -/
def lowercase (s : String) : String := String.ofList (s.toList.flatMap toLower)

/-- ASCII letters of `s` in lowercase, everything else as it is. -/
def asciiLowercase (s : String) : String := String.ofList (s.toList.map Char.toLower)

/-- Equality up to the case of ASCII letters. -/
def eqIgnoringAsciiCase (a b : String) : Bool := asciiLowercase a == asciiLowercase b

/-- Characters with the Unicode property `White_Space`. -/
def isBlank (c : Char) : Bool :=
  let n := c.toNat
  (decide (0x09 ≤ n) && decide (n ≤ 0x0D)) || n == 0x20 || n == 0x85 || n == 0xA0 ||
    n == 0x1680 || (decide (0x2000 ≤ n) && decide (n ≤ 0x200A)) || n == 0x2028 ||
    n == 0x2029 || n == 0x202F || n == 0x205F || n == 0x3000

end Text
end ClientSynth
