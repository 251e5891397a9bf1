import ClientSynth.Contract.Literal
import ClientSynth.Declaration

/-! # Default values

A declared default becomes a literal of the parameter's family.  A value that
does not fit the family becomes its text. -/
namespace ClientSynth
namespace Contract

open Declaration (Enumeration)

/-- The text of a value: itself for a text, else its JSON form. -/
def textual : Json.Value → String
  | .text s => s
  | v => v.compact

/-- The number a value stands for, written as a number or as text. -/
def wholeNumber? : Json.Value → Option Int
  | .number n => n.signed?
  | .text s => Numeral.signed? (Text.stripBlanks s)
  | _ => none

/-- The last part of a name after a dot or a colon. -/
def lastPart (s : String) : String :=
  String.ofList (Text.afterLast (fun c => c == '.' || c == ':') s.toList)

/-- Literal of a default whose type is an enumeration: the member with that
number, the number itself if no member has it, or else the member of that name. -/
def enumerationLiteral (value : Json.Value) (type : DeclaredType)
    (enumeration : Option Enumeration) : Literal :=
  let name := (enumeration.map Enumeration.name).getD type.base
  let members := (enumeration.map Enumeration.values).getD []
  match wholeNumber? value with
  | some number =>
    match members.find? (fun m => m.2 == number) with
    | some (member, _) => .member name member
    | none => .memberNumber name (toString number)
  | none =>
    match members.find? (fun m => m.1 == lastPart (textual value)) with
    | some (member, _) => .member name member
    | none => .text (textual value)

/-- Literal of a default whose type is a truth value. -/
def boolLiteral : Json.Value → Literal
  | .bool b => .bool b
  | .text s =>
    if Text.eqIgnoringAsciiCase s "true" then .bool true
    else if Text.eqIgnoringAsciiCase s "false" then .bool false
    else .text s
  | v => .text (textual v)

/-- Literal of a default whose type is a character. -/
def charLiteral (value : Json.Value) : Literal :=
  match (textual value).toList with
  | [c] => .char c
  | _ => .text (textual value)

/-- Literal of a default whose type is a number. -/
def numericLiteral : Json.Value → Literal
  | .number n => .number n.text
  | .text s =>
    if Numeral.isFloatText (Text.stripBlanks s) then .number (Text.stripBlanks s) else .text s
  | v => .text (textual v)

/-- Literal of a declared default; `enumeration` is the one the type names. -/
def Literal.ofDefault (value : Json.Value) (type : DeclaredType)
    (enumeration : Option Enumeration) : Literal :=
  match value with
  | .null => .null
  | _ =>
    match type.family with
    | .text => .str (textual value)
    | .bool => boolLiteral value
    | .char => charLiteral value
    | .numeric => numericLiteral value
    | .enumeration => enumerationLiteral value type enumeration
    | _ => .text (textual value)

end Contract
end ClientSynth
