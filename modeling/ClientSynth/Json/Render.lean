import ClientSynth.Json.Value
import ClientSynth.Text.Trim

/-! # JSON text

How values are written: on one line without blanks.  Only the quote, the
backslash and control characters are escaped in texts. -/
namespace ClientSynth
namespace Json

/-- The four digits of a code point below `0x10000`, in base 16. -/
def fourHexDigits (n : Nat) : List Char :=
  let digits := Nat.toDigits 16 n
  List.replicate (4 - digits.length) '0' ++ digits

/-- How a character is written inside a JSON text. -/
def escapeChar (c : Char) : List Char :=
  if c = '\"' then ['\\', '\"']
  else if c = '\\' then ['\\', '\\']
  else if c = '\n' then ['\\', 'n']
  else if c = '\r' then ['\\', 'r']
  else if c = '\t' then ['\\', 't']
  else if c = '\x08' then ['\\', 'b']
  else if c = '\x0c' then ['\\', 'f']
  else if c.toNat < 0x20 then '\\' :: 'u' :: fourHexDigits c.toNat
  else [c]

/-- The quoted form of a text. -/
def quoted (s : String) : String :=
  String.ofList ('\"' :: s.toList.flatMap escapeChar ++ ['\"'])

/-- The text of a truth value. -/
def boolText (b : Bool) : String := if b then "true" else "false"

namespace Value

mutual
/-- The value on one line, without blanks. -/
def compact : Value → String
  | .null => "null"
  | .bool b => boolText b
  | .number n => n.text
  | .text s => quoted s
  | .list items => "[" ++ Text.joined "," (compactItems items) ++ "]"
  | .object members => "\x7b" ++ Text.joined "," (compactMembers members) ++ "\x7d"

/-- The items of a list, each on one line. -/
def compactItems : List Value → List String
  | [] => []
  | v :: rest => v.compact :: compactItems rest

/-- The members of an object, each on one line. -/
def compactMembers : List (String × Value) → List String
  | [] => []
  | (name, v) :: rest => (quoted name ++ ":" ++ v.compact) :: compactMembers rest
end

end Value
end Json
end ClientSynth
