import ClientSynth.Document.Form
import ClientSynth.Json.Render

/-! # Writing TOML

One line per field; fields that are absent are left out.  A list of two or more
items takes a line per item.  A text that would need escapes for a backslash or a
quote is written as it is, between single quotes, if it can be. -/
namespace ClientSynth
namespace Toml

open Document (Form)

/-- Whether a character has to be escaped in every text. -/
def isControl (c : Char) : Bool := (decide (c.toNat < 0x20) || c == '\x7f') && c != '\t' && c != '\n'

/-- The length of the longest run of single quotes. -/
def longestQuotes (cs : List Char) : Nat :=
  (cs.foldl (fun acc c =>
    if c = '\'' then (acc.1 + 1, max acc.2 (acc.1 + 1)) else (0, acc.2)) ((0, 0) : Nat × Nat)).2

/-- Whether a text is written without escapes. -/
def isLiteral (cs : List Char) : Bool :=
  cs.any (fun c => c == '\\' || c == '\"') && !cs.any isControl && decide (longestQuotes cs < 3) &&
    cs.getLast? != some '\''

/-- A character in a text with escapes; line breaks stay in a text of several
lines. -/
def escapeChar (c : Char) : List Char :=
  if c = '\x08' then ['\\', 'b']
  else if c = '\t' then ['\\', 't']
  else if c = '\n' then ['\n']
  else if c = '\x0c' then ['\\', 'f']
  else if c = '\r' then ['\\', 'r']
  else if c = '\"' then ['\\', '\"']
  else if c = '\\' then ['\\', '\\']
  else if c.toNat < 0x20 || c == '\x7f' then
    '\\' :: 'u' :: (Json.fourHexDigits c.toNat).map Char.toUpper
  else [c]

/-- A text as it is written. -/
def quoted (s : String) : String :=
  let cs := s.toList
  let hasLines := cs.contains '\n'
  if isLiteral cs then
    if hasLines then "'''\n" ++ s ++ "'''"
    else if cs.contains '\'' then "'''" ++ s ++ "'''"
    else "'" ++ s ++ "'"
  else
    let body := String.ofList (cs.flatMap escapeChar)
    if hasLines then "\"\"\"\n" ++ body ++ "\"\"\"" else "\"" ++ body ++ "\""

mutual
/-- A value behind its key. -/
def value : Form → String
  | .absent => ""
  | .bool b => Json.boolText b
  | .text s => quoted s
  | .list items =>
    match itemTexts items with
    | [] => "[]"
    | [one] => "[" ++ one ++ "]"
    | several => "[\n" ++ String.join (several.map (fun i => "    " ++ i ++ ",\n")) ++ "]"
  | .record fields => "\x7b " ++ Text.joined ", " (fieldTexts fields) ++ " \x7d"

/-- The items of a list. -/
def itemTexts : List Form → List String
  | [] => []
  | v :: rest => value v :: itemTexts rest

/-- The fields of a record that are there, each with its key. -/
def fieldTexts : List (String × Form) → List String
  | [] => []
  | (_, .absent) :: rest => fieldTexts rest
  | (name, v) :: rest => (name ++ " = " ++ value v) :: fieldTexts rest
end

/-- The text of a document with the given fields. -/
def render (fields : List (String × Form)) : String :=
  String.join ((fieldTexts fields).map (fun line => line ++ "\n"))

end Toml
end ClientSynth
