import ClientSynth.Files.Access
import ClientSynth.Template.Kind

/-! # Template directories

Where the templates of a kind are looked for: in the directory that the settings
name, else in the first of the usual places that exists.  Inside it, the
templates of a kind are in a directory of the kind's name, unless that is the
name of the directory itself. -/
namespace ClientSynth
namespace Template

open FileAccess

/-- A directory of templates. -/
structure Directory where
  /-- The directory of all kinds. -/
  root : Path
  /-- The directory of the kind. -/
  path : Path
  kind : Kind
  deriving Repr, DecidableEq

namespace Directory

/-- The environment variable that names the directory of all kinds. -/
def environmentName : String := "WEBAPIGEN_TEMPLATE_DIR"

/-- The directory of the kind below `root`, or `root` itself. -/
def below (root : Path) (kind : Kind) : Directory :=
  if root.fileName? = some kind.name then ⟨root.parent?.getD root, root, kind⟩
  else ⟨root, root.join kind.name, kind⟩

/-- The failure of a directory that is not there. -/
def missing (p : Path) : Failure := .io ("Template directory not found: " ++ p.text)

variable {m : Type → Type} [Monad m] [FileAccess m]

/-- The first path that exists. -/
def firstPresent : List Path → m (Option Path)
  | [] => return none
  | p :: rest => do if ← isPresent p then return some p else firstPresent rest

/-- The usual places, in order. -/
def usualRoots : m (List Path) := do
  let named ← environment? environmentName
  let home ← home?
  return (named.map Path.mk).toList ++ [⟨"./templates"⟩] ++
    (home.map (fun h => (h.join ".webapigen").join "templates")).toList

/-- The directory of a kind.  One that the settings name has to exist; none is
found if the usual places have nothing for the kind. -/
def discover (kind : Kind) (named : Option Path) : ExceptT Failure m (Option Directory) := do
  match named with
  | some root =>
    if !(← (isPresent root : m Bool)) then throw (missing root)
    let d := below root kind
    if !(← (isPresent d.path : m Bool)) then throw (missing d.path)
    return some d
  | none =>
    match ← (do firstPresent (← usualRoots) : m (Option Path)) with
    | none => return none
    | some root =>
      let d := below root kind
      return if ← (isPresent d.path : m Bool) then some d else none

end Directory
end Template
end ClientSynth
