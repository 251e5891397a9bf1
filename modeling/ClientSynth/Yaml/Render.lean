import ClientSynth.Document.Form
import ClientSynth.Json.Render
import ClientSynth.Yaml.Cursor
import ClientSynth.Yaml.Resolve

/-! # Writing YAML

Block style: a line per scalar, fields of an inner record two columns deeper,
items of a list in the column of its key.  A text is written plain if it reads
back as the same text that way, else in the first of the other styles that can
hold it: single quotes, double quotes, or a literal block for one with line
breaks. -/
namespace ClientSynth
namespace Yaml

open Document (Form)

/-- Whether a character may be written as it is. -/
def isPrintable (c : Char) : Bool :=
  let n := c.toNat
  n == 0x0A || (decide (0x20 ≤ n) && decide (n ≤ 0x7E)) ||
    (decide (0xA0 ≤ n) && n != 0xFEFF && n != 0xFFFE && n != 0xFFFF)

/-- Characters that mean something at the start of a plain scalar. -/
def indicators : List Char :=
  ['#', ',', '[', ']', '\x7b', '\x7d', '&', '*', '!', '|', '>', '\'', '\"', '%', '@', '`']

/-- Neighbouring characters of a text, with what stands before and after it. -/
def neighbours (cs : List Char) : List (Option Char × Char × Option Char) :=
  (none :: cs.map some).zip (cs.zip ((cs.drop 1).map some ++ [none]))

/-- Whether a character means something to a reader of a plain scalar. -/
def isIndicator (around : Option Char × Char × Option Char) : Bool :=
  let (before, c, after) := around
  let spaced := endsWord after
  if before.isNone then indicators.contains c || ((c == '?' || c == ':' || c == '-') && spaced)
  else (c == ':' && spaced) || (c == '#' && endsWord before)

/-- Whether some character that satisfies `p` is followed by one that satisfies `q`. -/
def hasPair (p q : Char → Bool) (cs : List Char) : Bool :=
  (cs.zip (cs.drop 1)).any (fun pair => p pair.1 && q pair.2)

/-- Whether `c` is a space. -/
def isSpaceChar (c : Char) : Bool := c == ' '

/-- Whether a blank or a break at an end keeps a text from being plain. -/
def hasLooseEnd (cs : List Char) : Bool :=
  let isLoose (c : Option Char) : Bool := c.any (fun d => isSpaceChar d || isBreak d)
  isLoose cs.head? || isLoose cs.getLast?

/-- Whether a space before a break or a character that cannot be written as it is
leaves only double quotes. -/
def needsEscapes (cs : List Char) : Bool :=
  !cs.all isPrintable || hasPair isSpaceChar isBreak cs

/-- Whether a plain scalar can hold the text. -/
def canBePlain (cs : List Char) : Bool :=
  !(needsEscapes cs || hasLooseEnd cs || cs.any isBreak || (neighbours cs).any isIndicator ||
    cs.take 3 == ['-', '-', '-'] || cs.take 3 == ['.', '.', '.'])

/-- Whether single quotes can hold the text. -/
def canBeSingleQuoted (cs : List Char) : Bool := !(needsEscapes cs || hasPair isBreak isSpaceChar cs)

/-- Whether a literal block can hold the text. -/
def canBeLiteral (cs : List Char) : Bool := !needsEscapes cs && cs.getLast? != some ' '

/-- Whether a plain scalar would stand for something other than this text. -/
def isAmbiguous (cs : List Char) : Bool :=
  hasLeadingZero cs || plainAtom cs != some (.text (String.ofList cs))

/-- An upper-case number of base 16 with the given count of digits. -/
def hexDigits (count n : Nat) : List Char :=
  let digits := (Nat.toDigits 16 n).map Char.toUpper
  List.replicate (count - digits.length) '0' ++ digits

/-- A character between double quotes. -/
def escapeChar (c : Char) : List Char :=
  let n := c.toNat
  if isPrintable c && !isBreak c && c != '\"' && c != '\\' then [c]
  else if n = 0 then ['\\', '0']
  else if n = 7 then ['\\', 'a']
  else if n = 8 then ['\\', 'b']
  else if c = '\t' then ['\\', 't']
  else if c = '\n' then ['\\', 'n']
  else if n = 0x0B then ['\\', 'v']
  else if n = 0x0C then ['\\', 'f']
  else if c = '\r' then ['\\', 'r']
  else if n = 0x1B then ['\\', 'e']
  else if c = '\"' then ['\\', '\"']
  else if c = '\\' then ['\\', '\\']
  else if n = 0x85 then ['\\', 'N']
  else if n = 0x2028 then ['\\', 'L']
  else if n = 0x2029 then ['\\', 'P']
  else if n < 0x100 then ['\\', 'x'] ++ hexDigits 2 n
  else if n < 0x10000 then ['\\', 'u'] ++ hexDigits 4 n
  else ['\\', 'U'] ++ hexDigits 8 n

/-- A text between double quotes. -/
def doubleQuoted (cs : List Char) : String := String.ofList ('\"' :: cs.flatMap escapeChar ++ ['\"'])

/-- A text between single quotes. -/
def singleQuoted (cs : List Char) : String :=
  String.ofList ('\'' :: cs.flatMap (fun c => if c = '\'' then ['\'', '\''] else [c]) ++ ['\''])

/-- The mark of a literal block: the depth of the block if its first line does not
show it, and what becomes of the breaks at its end. -/
def literalMark (cs : List Char) : String :=
  let first := cs.head?.any (fun c => isSpaceChar c || isBreak c)
  let isBreakAt (c : Option Char) : Bool := c.any isBreak
  "|" ++ (if first then "2" else "") ++
    (if !isBreakAt cs.getLast? then "-"
      else if cs.length = 1 || isBreakAt cs.dropLast.getLast? then "+"
      else "")

/-- The lines of a literal block. -/
def literalLines (cs : List Char) : List String :=
  let lines := (Text.splitWhere (· == '\n') cs).map String.ofList
  if cs.getLast? == some '\n' then lines.dropLast else lines

/-- The written form of a part: what stands on the line of its key, and the lines
below. -/
structure Written where
  /-- On the line of the key; none for a part that starts below. -/
  head : Option String
  /-- Lines below, deeper than the key. -/
  inner : List String
  /-- Lines below, in the column of the key. -/
  level : List String

/-- A text. -/
def writeText (s : String) : Written :=
  let cs := s.toList
  if cs.contains '\n' then
    if canBeLiteral cs then ⟨some (literalMark cs), literalLines cs, []⟩
    else ⟨some (doubleQuoted cs), [], []⟩
  else if !isAmbiguous cs && canBePlain cs then ⟨some s, [], []⟩
  else if canBeSingleQuoted cs then ⟨some (singleQuoted cs), [], []⟩
  else ⟨some (doubleQuoted cs), [], []⟩

/-- A line two columns deeper; an empty one stays empty. -/
def deeper (line : String) : String := if line.isEmpty then line else "  " ++ line

/-- The lines of an item of a list. -/
def itemLines (w : Written) : List String :=
  match w.head with
  | some head => ("- " ++ head) :: (w.inner ++ w.level).map deeper
  | none =>
    match w.inner ++ w.level with
    | [] => []
    | first :: rest => ("- " ++ first) :: rest.map deeper

/-- The lines of a field. -/
def fieldLines (name : String) (w : Written) : List String :=
  (name ++ ":" ++ (w.head.map (fun h => " " ++ h)).getD "") :: (w.inner.map deeper ++ w.level)

mutual
/-- A part of a document. -/
def write : Form → Written
  | .absent => ⟨some "null", [], []⟩
  | .bool b => ⟨some (Json.boolText b), [], []⟩
  | .text s => writeText s
  | .list [] => ⟨some "[]", [], []⟩
  | .list items => ⟨none, [], writeItems items⟩
  | .record [] => ⟨some "\x7b\x7d", [], []⟩
  | .record fields => ⟨none, writeFields fields, []⟩

/-- The lines of the items of a list. -/
def writeItems : List Form → List String
  | [] => []
  | v :: rest => itemLines (write v) ++ writeItems rest

/-- The lines of the fields of a record. -/
def writeFields : List (String × Form) → List String
  | [] => []
  | (name, v) :: rest => fieldLines name (write v) ++ writeFields rest
end

/-- The text of a document. -/
def render (f : Form) : String :=
  let w := write f
  String.join ((w.head.toList ++ w.inner ++ w.level).map (fun line => line ++ "\n"))

end Yaml
end ClientSynth
