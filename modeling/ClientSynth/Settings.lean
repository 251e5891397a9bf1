import ClientSynth.Document.Form
import ClientSynth.Document.Reading
import ClientSynth.Failure
import ClientSynth.Files.Path
import ClientSynth.Json.Pretty
import ClientSynth.Json.Text
import ClientSynth.Layer.Wrap
import ClientSynth.Template.Kind
import ClientSynth.Toml.Render
import ClientSynth.Toml.Text
import ClientSynth.Url
import ClientSynth.Yaml.Node
import ClientSynth.Yaml.Render

/-! # Settings

What a run is asked to do.  Settings are read from a file whose extension names
its format, and can be written to one. -/
namespace ClientSynth

open Document

/-- The settings of a run. -/
structure Settings where
  projectName : String
  /-- Paths and addresses of the contract documents, in order. -/
  contractPaths : List String
  /-- Directory of the generated files. -/
  outputDirectory : String
  /-- Name of the kind of templates. -/
  templateKind : String
  /-- Directory of templates that replace those of the kind. -/
  templateDirectory : Option String
  /-- The interfaces to generate; none named means all. -/
  included : List String
  /-- The interfaces to leave out. -/
  excluded : List String
  /-- Base address of interfaces that declare none. -/
  baseUrl : Option Url
  /-- Token manager of wrap layers that name none. -/
  tokenManager : String
  /-- Imports of every unit, besides those that all units have. -/
  imports : List String
  /-- Whether the unit of support code is generated. -/
  emitsSupport : Bool
  /-- Whether the unit that lists the modules is generated. -/
  emitsIndex : Bool
  deriving Repr, DecidableEq

namespace Settings

/-- Settings for one contract document, with everything else as usual. -/
def ofContract (projectName contractPath outputDirectory : String) : Settings where
  projectName := projectName
  contractPaths := [contractPath]
  outputDirectory := outputDirectory
  templateKind := Template.Kind.builtin.name
  templateDirectory := none
  included := []
  excluded := []
  baseUrl := none
  tokenManager := Layer.defaultTokenManager
  imports := []
  emitsSupport := true
  emitsIndex := true

/-- Whether an interface is to be generated. -/
def selects (s : Settings) (name : String) : Bool :=
  (s.included.isEmpty || s.included.contains name) && !s.excluded.contains name

/-- The address without slashes at its end. -/
def trimmedAddress (u : Url) : String :=
  String.ofList (Text.trimEnd (· == '/') u.text.toList)

/-- What contracts that say nothing are filled in with. -/
def layerOptions (s : Settings) : Layer.Options where
  baseUrl := s.baseUrl.map trimmedAddress
  tokenManager := some (Text.stripBlanks s.tokenManager) |>.filter (fun t => !t.isEmpty)

/-- The kind of templates. -/
def kind (s : Settings) : Except Failure Template.Kind :=
  (Template.Kind.parse s.templateKind).mapError .config

/-! ## Reading and writing -/

/-- Settings in the making: those that must be given, and the rest. -/
structure Draft where
  projectName : Option String
  contractPaths : Option (List String)
  outputDirectory : Option String
  rest : Settings

/-- The settings of a draft, if all that must be given is there. -/
def Draft.finish (d : Draft) : Option Settings := do
  return { d.rest with
    projectName := ← d.projectName
    contractPaths := ← d.contractPaths
    outputDirectory := ← d.outputDirectory }

/-- The names of the fields, in order. -/
def fieldNames : List String :=
  ["project_name", "contract_paths", "output_dir", "template_kind", "template_dir",
    "include_interfaces", "exclude_interfaces", "base_url", "default_token_manage", "imports",
    "emit_support", "emit_module_index"]

/-- An address. -/
def url (tree : Tree) : Reading Url := do Reading.present (Url.parse (← Reading.text tree))

/-- Read one field. -/
def readField (field : String) (tree : Tree) (d : Draft) : Reading Draft := do
  let r := d.rest
  match field with
  | "project_name" => return { d with projectName := some (← Reading.text tree) }
  | "contract_paths" => return { d with contractPaths := some (← Reading.list Reading.text tree) }
  | "output_dir" => return { d with outputDirectory := some (← Reading.text tree) }
  | "template_kind" => return { d with rest := { r with templateKind := ← Reading.text tree } }
  | "template_dir" =>
    return { d with rest := { r with templateDirectory := ← Reading.optional Reading.text tree } }
  | "include_interfaces" =>
    return { d with rest := { r with included := ← Reading.list Reading.text tree } }
  | "exclude_interfaces" =>
    return { d with rest := { r with excluded := ← Reading.list Reading.text tree } }
  | "base_url" => return { d with rest := { r with baseUrl := ← Reading.optional url tree } }
  | "default_token_manage" =>
    return { d with rest := { r with tokenManager := ← Reading.text tree } }
  | "imports" => return { d with rest := { r with imports := ← Reading.list Reading.text tree } }
  | "emit_support" => return { d with rest := { r with emitsSupport := ← Reading.bool tree } }
  | _ => return { d with rest := { r with emitsIndex := ← Reading.bool tree } }

/-- Settings. -/
def reading (tree : Tree) : Reading Settings :=
  Reading.record fieldNames ⟨none, none, none, ofContract "" "" ""⟩ readField Draft.finish tree

/-- The fields with their values. -/
def fields (s : Settings) : List (String × Form) :=
  fieldNames.zip
    [.text s.projectName, .ofTexts s.contractPaths, .text s.outputDirectory, .text s.templateKind,
      .ofText? s.templateDirectory, .ofTexts s.included, .ofTexts s.excluded,
      .ofText? (s.baseUrl.map Url.text), .text s.tokenManager, .ofTexts s.imports,
      .bool s.emitsSupport, .bool s.emitsIndex]

/-- The formats of settings files. -/
inductive Format where
  | yaml
  | toml
  | json
  deriving Repr, DecidableEq

/-- The format that the extension of a path names. -/
def Format.of (p : Path) : Except Failure Format :=
  match p.extension? with
  | some "yaml" | some "yml" => .ok .yaml
  | some "toml" => .ok .toml
  | some "json" => .ok .json
  | _ => .error (.config ("Unsupported configuration file '" ++ p.text ++
      "': expected .yaml, .yml, .toml or .json"))

/-- The document of a text. -/
def Format.document? : Format → String → Option Source
  | yaml => Yaml.document?
  | toml => Toml.document?
  | json => Json.document?

/-- The failure of a text that cannot be read. -/
def Format.failure : Format → Failure
  | yaml => .yaml
  | toml => .toml
  | json => .json

/-- The settings that a text of the given format holds. -/
def parse (format : Format) (text : String) : Except Failure Settings :=
  match (format.document? text).bind (fun d => (d.read reading).toOption) with
  | some s => .ok s
  | none => .error format.failure

/-- The text of settings in the given format. -/
def render (s : Settings) : Format → String
  | .yaml => Yaml.render (.record s.fields)
  | .toml => Toml.render s.fields
  | .json => Json.pretty (.record s.fields)

end Settings
end ClientSynth
