import ClientSynth.Declaration
import ClientSynth.Diagnostic

/-! # Declaration sets

All declarations of one run.  Documents are merged one after another, and of
two declarations with one name the first stays; the other is reported. -/
namespace ClientSynth

open Declaration Diagnostic

/-- The declarations of a run, each name once, in the order they were added. -/
structure DeclarationSet where
  enumerations : List Enumeration
  interfaces : List Interface
  deriving Repr

namespace DeclarationSet

/-- No declarations. -/
def empty : DeclarationSet := ⟨[], []⟩

/-- The interface with the given name. -/
def interface? (set : DeclarationSet) (name : String) : Option Interface :=
  set.interfaces.find? (fun i => i.name == name)

/-- The enumeration with the given name. -/
def enumeration? (set : DeclarationSet) (name : String) : Option Enumeration :=
  set.enumerations.find? (fun e => e.name == name)

/-- Whether `name` is an enumeration. -/
def isEnumeration (set : DeclarationSet) (name : String) : Bool := (set.enumeration? name).isSome

/-- The report that a declaration comes second. -/
def duplicate (kind name source : String) : Diagnostic :=
  .warning .duplicateDeclaration (kind ++ " '" ++ name ++ "' is declared more than once")
    ⟨source, name⟩

/-- Add one enumeration of the document at `source`. -/
def addEnumeration (source : String) (set : DeclarationSet) (e : Enumeration) :
    Reported DeclarationSet :=
  if (set.enumeration? e.name).isSome then ⟨set, [duplicate "enum" e.name source]⟩
  else .silent { set with enumerations := set.enumerations ++ [e] }

/-- Add one interface of the document at `source`. -/
def addInterface (source : String) (set : DeclarationSet) (i : Interface) :
    Reported DeclarationSet :=
  if (set.interface? i.name).isSome then ⟨set, [duplicate "interface" i.name source]⟩
  else .silent { set with interfaces := set.interfaces ++ [i] }

/-- Add a contract document. -/
def add (set : DeclarationSet) (source : String) (contents : Contents) : Reported DeclarationSet := do
  let set ← contents.enumerations.foldlM (addEnumeration source) set
  contents.interfaces.foldlM (addInterface source) set

/-- The declarations of documents, each with its location, merged in order. -/
def merge (documents : List (String × Contents)) : Reported DeclarationSet :=
  documents.foldlM (fun set d => set.add d.1 d.2) empty

end DeclarationSet
end ClientSynth
