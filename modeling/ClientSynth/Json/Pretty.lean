import ClientSynth.Document.Form
import ClientSynth.Json.Render

/-! # JSON text over several lines

A document with every item and every field on a line of its own, two spaces
deeper than the brackets around it. -/
namespace ClientSynth
namespace Json

open Document (Form)

/-- The start of a line `level` levels deep. -/
def margin (level : Nat) : String := String.ofList (List.replicate (2 * level) ' ')

/-- Lines between brackets, one level deeper than the brackets. -/
def bracketed (opening closing : String) (level : Nat) (lines : List String) : String :=
  if lines.isEmpty then opening ++ closing
  else
    let inner := "\n" ++ margin (level + 1)
    opening ++ inner ++ Text.joined ("," ++ inner) lines ++ "\n" ++ margin level ++ closing

mutual
/-- A document that starts on a line `level` levels deep. -/
def spread (level : Nat) : Form → String
  | .absent => "null"
  | .bool b => boolText b
  | .text s => quoted s
  | .list items => bracketed "[" "]" level (spreadItems (level + 1) items)
  | .record fields => bracketed "\x7b" "\x7d" level (spreadFields (level + 1) fields)

/-- The items of a list. -/
def spreadItems (level : Nat) : List Form → List String
  | [] => []
  | v :: rest => spread level v :: spreadItems level rest

/-- The fields of a record. -/
def spreadFields (level : Nat) : List (String × Form) → List String
  | [] => []
  | (name, v) :: rest => (quoted name ++ ": " ++ spread level v) :: spreadFields level rest
end

/-- The text of a document, without a line break at its end. -/
def pretty (f : Form) : String := spread 0 f

end Json
end ClientSynth
