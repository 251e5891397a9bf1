import ClientSynth.Text.Letter

/-! # Trimming and cutting text

Small operations on texts seen as lists of characters, with the string
versions the rest of the library calls. -/
namespace ClientSynth
namespace Text

/-- `cs` without its longest suffix of characters satisfying `p`. -/
def trimEnd (p : Char → Bool) (cs : List Char) : List Char := (cs.reverse.dropWhile p).reverse

/-- `cs` without the characters satisfying `p` at either end. -/
def trim (p : Char → Bool) (cs : List Char) : List Char := trimEnd p (cs.dropWhile p)

/-- `s` without blanks at either end. -/
def stripBlanks (s : String) : String := String.ofList (trim isBlank s.toList)

/-- `s` without blanks at its end. -/
def stripTrailingBlanks (s : String) : String := String.ofList (trimEnd isBlank s.toList)

/-- Whether `s` holds nothing but blanks. -/
def isBlankText (s : String) : Bool := s.toList.all isBlank

/-- The pieces of `cs` between separators; `n` separators leave `n + 1` pieces. -/
def splitWhere (p : Char → Bool) : List Char → List (List Char)
  | [] => [[]]
  | c :: cs =>
    if p c then [] :: splitWhere p cs
    else match splitWhere p cs with
      | [] => [[c]]
      | piece :: pieces => (c :: piece) :: pieces

theorem splitWhere_ne_nil (p : Char → Bool) (cs : List Char) : splitWhere p cs ≠ [] := by
  cases cs with
  | nil => simp [splitWhere]
  | cons c cs =>
    unfold splitWhere
    split
    · simp
    · split <;> simp

/-- What follows the last separator, or all of `cs` without one. -/
def afterLast (p : Char → Bool) (cs : List Char) : List Char :=
  (cs.reverse.takeWhile (fun c => !p c)).reverse

/-- What precedes the first separator, or all of `cs` without one. -/
def beforeFirst (p : Char → Bool) (cs : List Char) : List Char := cs.takeWhile (fun c => !p c)

/-- `s` without `start`, if it begins with it. -/
def dropPrefix? (start s : String) : Option String :=
  if start.toList.isPrefixOf s.toList then some (String.ofList (s.toList.drop start.toList.length))
  else none

/-- `s` without `ending`, if it ends with it. -/
def dropSuffix? (ending s : String) : Option String :=
  if ending.toList.isSuffixOf s.toList then
    some (String.ofList (s.toList.take (s.toList.length - ending.toList.length)))
  else none

/-- `pieces` with `separator` between neighbours. -/
def joined (separator : String) (pieces : List String) : String := separator.intercalate pieces

end Text
end ClientSynth
