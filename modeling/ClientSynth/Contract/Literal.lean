import ClientSynth.Contract.Type
import ClientSynth.Text.Escape
import ClientSynth.Json.Render

/-! # Default literals

A declared default value, classified by the family of its parameter's type. -/
namespace ClientSynth
namespace Contract

/-- A default value as the generated code can state it. -/
inductive Literal where
  | str (value : String)
  | bool (value : Bool)
  | char (value : Char)
  /-- A number as written. -/
  | number (text : String)
  /-- A member of an enumeration. -/
  | member (enumeration member : String)
  /-- A number that no member of the enumeration has. -/
  | memberNumber (enumeration : String) (value : String)
  /-- The text of a value that does not fit its family. -/
  | text (value : String)
  | null
  deriving Repr, DecidableEq

namespace Literal

/-- The literal as documentation shows it. -/
def display : Literal → String
  | str s => Text.stringLiteral s
  | bool b => Json.boolText b
  | char c => Text.charLiteral c
  | number n => n
  | member e m => e ++ "::" ++ m
  | memberNumber _ v => v
  | text s => Text.stringLiteral s
  | null => "None"

/-- Whether a number text has neither a point nor an exponent. -/
def isPlainInteger (n : String) : Bool :=
  n.toList.all (fun c => !(c == '.' || c == 'e' || c == 'E'))

/-- An expression in an option of the type `type`, if there is one.  Text that
fits no family is read at run time where the type allows it. -/
def fallback (literal : Literal) (type : DeclaredType) : Option String :=
  match literal with
  | str s =>
    if type.isBorrowed then some ("Some(" ++ Text.stringLiteral s ++ ")")
    else some ("Some(" ++ Text.stringLiteral s ++ ".to_string())")
  | bool b => some ("Some(" ++ Json.boolText b ++ ")")
  | char c => some ("Some(" ++ Text.charLiteral c ++ ")")
  | number n =>
    if type.isFloat && isPlainInteger n then some ("Some(" ++ n ++ ".0)")
    else some ("Some(" ++ n ++ ")")
  | member e m => some ("Some(" ++ e ++ "::" ++ m ++ ")")
  | text s =>
    if type.family.parsesFromText then some (Text.stringLiteral s ++ ".parse().ok()") else none
  | memberNumber _ _ => none
  | null => none

end Literal
end Contract
end ClientSynth
