import ClientSynth.Declaration.Reading
import ClientSynth.Failure
import ClientSynth.Json.Text
import ClientSynth.Yaml.Node

/-! # Contract texts

A contract document is JSON or YAML.  A text that can be read as JSON is;
otherwise it has to be YAML. -/
namespace ClientSynth
namespace Declaration

/-- The declarations of a JSON text. -/
def ofJson? (text : String) : Option Contents :=
  (Json.document? text).bind (fun d => (d.read contents).toOption)

/-- The declarations of a YAML text. -/
def ofYaml? (text : String) : Option Contents :=
  (Yaml.document? text).bind (fun d => (d.read contents).toOption)

/-- Declarations that know where they came from. -/
def Contents.locatedAt (c : Contents) (location : String) : Contents :=
  { c with interfaces := c.interfaces.map (fun i => { i with source := location }) }

/-- The declarations of the contract document at `location`. -/
def parse (text location : String) : Except Failure Contents :=
  match (ofJson? text) <|> (ofYaml? text) with
  | some c => .ok (c.locatedAt location)
  | none =>
    .error (.contract (location ++ " is neither a valid JSON nor YAML contract document"))

end Declaration
end ClientSynth
