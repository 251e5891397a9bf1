import ClientSynth.Json.Render
import ClientSynth.Text.Letter
import ClientSynth.Text.Trim

/-! # Annotations

Structured remarks on interfaces, methods and parameters, with their arguments
as written.  An annotation answers to its name with or without the ending
`Attribute`.  An argument is looked up by its position first and by its name
second, and one that is `null` counts as not given. -/
namespace ClientSynth

/-- An annotation with its arguments, not interpreted yet. -/
structure Annotation where
  /-- The name as written. -/
  name : String
  /-- Arguments given by position. -/
  positional : List Json.Value
  /-- Arguments given by name, in the order of the names. -/
  named : List (String × Json.Value)
  deriving Repr, BEq

namespace Annotation

/-- The ending an annotation name may carry. -/
def suffix : String := "Attribute"

/-- What an argument has to be. -/
inductive Expected where
  | text
  | bool
  | natural
  deriving Repr, DecidableEq

/-- An argument that is not what it has to be. -/
structure BadArgument where
  /-- Name of the argument. -/
  key : String
  /-- Name of the annotation. -/
  owner : String
  /-- What the argument has to be. -/
  expected : Expected
  deriving Repr, DecidableEq

/-- The wording of an expectation. -/
def Expected.phrase : Expected → String
  | .text => "a string"
  | .bool => "a boolean"
  | .natural => "a non-negative integer"

/-- The wording of a bad argument. -/
def BadArgument.message (b : BadArgument) : String :=
  "argument '" ++ b.key ++ "' of [" ++ b.owner ++ "] must be " ++ b.expected.phrase

/-- The annotation `name` without arguments. -/
def marker (name : String) : Annotation := ⟨name, [], []⟩

/-- The annotation `name` with its arguments written as one value: none for
`null`, by position for a list, by name for an object, else a single one. -/
def ofArguments (name : String) : Json.Value → Annotation
  | .null => marker name
  | .list items => ⟨name, items, []⟩
  | .object members => ⟨name, [], members⟩
  | single => ⟨name, [single], []⟩

/-- Whether the annotation answers to `name`. -/
def answersTo (a : Annotation) (name : String) : Bool :=
  a.name == name || Text.dropSuffix? suffix a.name == some name

/-- A value that is given and not `null`. -/
def given (value : Option Json.Value) : Option Json.Value := value.filter (fun v => !v.isNull)

/-- The argument called `key`. -/
def namedArgument (a : Annotation) (key : String) : Option Json.Value := given (a.named.lookup key)

/-- The argument at position `index`, else the one called `key`. -/
def argument (a : Annotation) (index : Nat) (key : String) : Option Json.Value :=
  given (a.positional[index]? <|> a.named.lookup key)

/-- The refusal of the argument `key`. -/
def bad {α : Type} (a : Annotation) (key : String) (expected : Expected) : Except BadArgument α :=
  .error ⟨key, a.name, expected⟩

/-- An argument as text; numbers and truth values count in their written form. -/
def textOf (a : Annotation) (key : String) : Json.Value → Except BadArgument String
  | .text s => .ok s
  | .number n => .ok n.text
  | .bool b => .ok (Json.boolText b)
  | _ => a.bad key .text

/-- The text argument at position `index` or called `key`. -/
def textArgument (a : Annotation) (index : Nat) (key : String) :
    Except BadArgument (Option String) :=
  match a.argument index key with
  | none => .ok none
  | some v => (a.textOf key v).map some

/-- The text argument called `key`. -/
def namedText (a : Annotation) (key : String) : Except BadArgument (Option String) :=
  match a.namedArgument key with
  | none => .ok none
  | some v => (a.textOf key v).map some

/-- The truth value called `key`; the words `true` and `false` count in any case. -/
def namedBool (a : Annotation) (key : String) : Except BadArgument (Option Bool) :=
  match a.namedArgument key with
  | none => .ok none
  | some (.bool b) => .ok (some b)
  | some (.text s) =>
    if Text.asciiLowercase s = "true" then .ok (some true)
    else if Text.asciiLowercase s = "false" then .ok (some false)
    else a.bad key .bool
  | some _ => a.bad key .bool

/-- The natural number called `key`; a text that spells one counts. -/
def namedNatural (a : Annotation) (key : String) : Except BadArgument (Option Nat) :=
  match a.namedArgument key with
  | none => .ok none
  | some (.number n) =>
    match n.unsigned? with
    | some k => .ok (some k)
    | none => a.bad key .natural
  | some (.text s) =>
    match Numeral.unsigned? (Text.stripBlanks s) with
    | some k => .ok (some k)
    | none => a.bad key .natural
  | some _ => a.bad key .natural

end Annotation
end ClientSynth
