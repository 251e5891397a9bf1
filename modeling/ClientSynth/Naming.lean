import ClientSynth.Text.Casing

/-! # Names of generated things

How the names of clients, wrap layers, token variants and registration entry
points follow from declared names. -/
namespace ClientSynth
namespace Naming

/-- Ending of the names of asynchronous methods. -/
def asyncSuffix : String := "Async"

/-- `name` without its interface marker: an `I` in front of an uppercase letter.
`Invoice` has no marker and keeps its first letter. -/
def stripInterfaceMarker (name : String) : Option String :=
  match name.toList with
  | 'I' :: second :: rest =>
    if Text.isUpper second then some (String.ofList (second :: rest)) else none
  | _ => none

/-- Name of the type that implements an interface. -/
def implementation (interface : String) : String :=
  (stripInterfaceMarker interface).getD (interface ++ "Impl")

/-- Name of the wrap interface of `interface`; a name chosen in the contract wins
unless it is blank. -/
def wrapInterface (interface : String) (chosen : Option String) : String :=
  match chosen with
  | some name => if Text.isBlankText name then interface ++ "Wrap" else Text.stripBlanks name
  | none => interface ++ "Wrap"

/-- `name` marked with a token scope: right before a final `Async`, else in front. -/
def withScope (name scope : String) : String :=
  match Text.dropSuffix? asyncSuffix name with
  | some base =>
    if base.isEmpty then scope ++ "_" ++ name else base ++ "_" ++ scope ++ "_" ++ asyncSuffix
  | none => scope ++ "_" ++ name

/-- Name of the registration entry point of a group, for its typed clients or for
its wrap clients. -/
def registrationEntry (group : Option String) (wrap : Bool) : String :=
  "Add" ++ (group.map Text.upperCamelCase).getD "" ++ "WebApiHttpClient" ++
    (if wrap then "Wrap" else "")

end Naming
end ClientSynth
