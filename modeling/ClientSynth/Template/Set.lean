import ClientSynth.Template.Builtin
import ClientSynth.Template.Directory
import ClientSynth.Template.Manifest
import ClientSynth.Template.Render

/-! # Template sets

The templates of a run by name: those that come along with the kind, each
replaced by a file of its name from the directory of templates. -/
namespace ClientSynth
namespace Template

open FileAccess

/-- The name of the generator in what it writes. -/
def generatorName : String := "webapigen"

/-- The version of the generator. -/
def generatorVersion : String := "0.1.0"

/-- The template around every unit. -/
def unitTemplate : String := "unit.rs.tera"

/-- The template of the support unit. -/
def supportTemplate : String := "support.rs.tera"

/-- The template of the unit that lists the modules. -/
def indexTemplate : String := "mod.rs.tera"

/-- The templates that every set needs. -/
def required : List String := [unitTemplate, supportTemplate, indexTemplate]

/-- A set of templates. -/
structure Set where
  kind : Kind
  /-- Where templates were looked for besides those that come along. -/
  directory : Option Directory
  manifest : Manifest
  /-- The templates by name; of two with one name the first counts. -/
  templates : List (String × List TemplatePart)
  deriving Repr

/-- The texts that come along with a kind. -/
def builtinTexts : Kind → List (String × String)
  | .builtin =>
    [(unitTemplate, ofLines unitLines), (supportTemplate, ofLines supportLines),
      (indexTemplate, ofLines indexLines)]
  | .custom => []

/-- The templates that come along with a kind. -/
def builtinTemplates (kind : Kind) : List (String × List TemplatePart) :=
  (builtinTexts kind).filterMap (fun t => (parse t.2).map (fun parts => (t.1, parts)))

/-- The name of the template in the file with the given segments. -/
def nameOf (segments : List String) : String :=
  (Text.joined "/" segments).map (fun c => if c = '\\' then '/' else c)

/-- Whether a file holds a template. -/
def isTemplateFile (segments : List String) : Bool :=
  (segments.getLast?.bind (fun name => (Path.mk name).extension?)) == some "tera"

/-- The failure of a template that cannot be read. -/
def malformed (p : Path) : Failure := .engine ("Failed to parse \"" ++ p.text)

namespace Set

variable {m : Type → Type} [Monad m] [FileAccess m]

/-- The files of templates below a directory, each with its segments, in order. -/
def discover (directory : Path) : ExceptT Failure m (List (List String × Path)) := do
  let files ← orFail (filesBelow directory)
  return (files.filter isTemplateFile).map (fun segments =>
    (segments, segments.foldl Path.join directory))

/-- Read the template of a file. -/
def readFile (file : List String × Path) : ExceptT Failure m (String × List TemplatePart) := do
  let text ← orFail (readText file.2)
  match parse text with
  | some parts => return (nameOf file.1, parts)
  | none => throw (malformed file.2)

/-- The set of a kind; `named` is the directory that the settings name. -/
def load (kind : Kind) (named : Option Path) : ExceptT Failure m Set := do
  let directory ← Directory.discover kind named
  let (manifest, own) ← match directory with
    | none => pure (Manifest.standard, [])
    | some d => do
      let own ← (← discover d.path).mapM readFile
      pure (← Manifest.load d.path, own)
  let templates := own ++ builtinTemplates kind
  match required.find? (fun name => (templates.lookup name).isNone) with
  | some name => throw (.template ("Template set '" ++ kind.name ++ "' has no " ++ name))
  | none => return ⟨kind, directory, manifest, templates⟩

/-- Whether there is a template of the given name. -/
def contains (s : Set) (name : String) : Bool := (s.templates.lookup name).isSome

/-- Render the template of the given name. -/
def render (s : Set) (name : String) (c : Context) : Except Failure String :=
  match (s.templates.lookup name).bind (renderParts c) with
  | some text => .ok text
  | none => .error (.engine ("Failed to render '" ++ name ++ "'"))

/-- What every template is told. -/
def generatorContext : Context :=
  [(["generator"], .text generatorName), (["version"], .text generatorVersion)]

/-- The file text of a unit with the given code.  Blanks at the end of the code
are left to the template. -/
def renderUnit (s : Set) (unitName source : String) (imports : List String) (body : String) :
    Except Failure String :=
  s.render unitTemplate
    ([(["unit_name"], .text unitName), (["source"], .text source), (["imports"], .list imports),
      (["body"], .text (Text.stripTrailingBlanks body))] ++ generatorContext)

/-- The text of the support unit. -/
def renderSupport (s : Set) : Except Failure String := s.render supportTemplate generatorContext

/-- The text of the unit that lists the given modules. -/
def renderIndex (s : Set) (modules : List String) : Except Failure String :=
  s.render indexTemplate ((["modules"], .list modules) :: generatorContext)

end Set
end Template
end ClientSynth
