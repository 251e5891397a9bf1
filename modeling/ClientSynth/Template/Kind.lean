import ClientSynth.Failure
import ClientSynth.Text.Letter

/-! # Template kinds -/
namespace ClientSynth
namespace Template

/-- A set of templates. -/
inductive Kind where
  /-- The clients that come along. -/
  | builtin
  /-- All templates from a directory. -/
  | custom
  deriving Repr, DecidableEq

namespace Kind

/-- Every kind. -/
def all : List Kind := [.builtin, .custom]

/-- The name of a kind. -/
def name : Kind → String
  | builtin => "rust_reqwest"
  | custom => "custom"

/-- Whether templates of the kind come along. -/
def hasBuiltinTemplates : Kind → Bool
  | builtin => true
  | custom => false

/-- The kind of the given name, in any case. -/
def parse (s : String) : Except String Kind :=
  match all.find? (fun k => k.name == Text.lowercase s) with
  | some k => .ok k
  | none => .error ("Unknown template kind: " ++ s)

end Kind
end Template
end ClientSynth
