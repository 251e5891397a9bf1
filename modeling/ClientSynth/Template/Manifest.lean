import ClientSynth.Document.Reading
import ClientSynth.Files.Access
import ClientSynth.Toml.Text
import ClientSynth.Yaml.Node

/-! # Manifests

What a directory of templates says about itself, and the commands to run before
and after the generated files are written. -/
namespace ClientSynth
namespace Template

open Document FileAccess

/-- Commands around the writing of the generated files. -/
structure Hooks where
  before : List String
  after : List String
  deriving Repr, DecidableEq

/-- A manifest. -/
structure Manifest where
  name : String
  description : String
  version : String
  hooks : Hooks
  deriving Repr, DecidableEq

namespace Manifest

/-- A manifest that says nothing. -/
def blank : Manifest := ⟨"default", "", "0.1.0", ⟨[], []⟩⟩

/-- The manifest of templates that have none. -/
def standard : Manifest := { blank with description := "Embedded templates" }

/-- A command: a scalar that is a text by itself. -/
def command (tree : Tree) : Reading String := do
  match ← Reading.target tree with
  | .leaf l =>
    match l.free with
    | some (.text s) => return s
    | _ => Reading.refuse
  | _ => Reading.refuse

/-- A command, or a list of commands. -/
def commands (tree : Tree) : Reading (List String) := do
  match ← Reading.target tree with
  | .seq false items => Reading.deeper (items.mapM command)
  | other => return [← command other]

/-- Read one kind of commands. -/
def hooksField (field : String) (tree : Tree) (h : Hooks) : Reading Hooks := do
  match field with
  | "pre_generate" => return { h with before := ← commands tree }
  | _ => return { h with after := ← commands tree }

/-- Hooks. -/
def hooksOf (tree : Tree) : Reading Hooks :=
  Reading.record ["pre_generate", "post_generate"] ⟨[], []⟩ hooksField some tree

/-- Read one field of a manifest. -/
def readField (field : String) (tree : Tree) (m : Manifest) : Reading Manifest := do
  match field with
  | "name" => return { m with name := ← Reading.text tree }
  | "description" => return { m with description := ← Reading.text tree }
  | "version" => return { m with version := ← Reading.text tree }
  | _ => return { m with hooks := ← hooksOf tree }

/-- A manifest. -/
def reading (tree : Tree) : Reading Manifest :=
  Reading.record ["name", "description", "version", "hooks"] blank readField some tree

/-- The manifest of a document, or the failure of the file at `p`. -/
def ofDocument? (format : String) (p : Path) (document : Option Source) :
    Except Failure Manifest :=
  match document.bind (fun d => (d.read reading).toOption) with
  | some manifest => .ok manifest
  | none => .error (.template ("Invalid " ++ format ++ " in template manifest at " ++ p.text))

variable {m : Type → Type} [Monad m] [FileAccess m]

/-- The manifest in a directory; a YAML file goes before a TOML file. -/
def load (directory : Path) : ExceptT Failure m Manifest := do
  let yaml := directory.join "manifest.yaml"
  let toml := directory.join "manifest.toml"
  if ← (isPresent yaml : m Bool) then
    let text ← orFail (readText yaml)
    ExceptT.mk (pure (ofDocument? "YAML" yaml (Yaml.document? text)))
  else if ← (isPresent toml : m Bool) then
    let text ← orFail (readText toml)
    ExceptT.mk (pure (ofDocument? "TOML" toml (Toml.document? text)))
  else return standard

end Manifest
end Template
end ClientSynth
