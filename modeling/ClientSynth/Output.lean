import ClientSynth.Failure

/-! # Generated files

The files of a run before they are written: at most one of each name, in the
order of the names.  The first one accepted under a name stays. -/
namespace ClientSynth

/-- A generated file. -/
structure GeneratedUnit where
  /-- Name of the unit it was made from. -/
  name : String
  /-- Name of the file in the output directory. -/
  fileName : String
  text : String
  deriving Repr, DecidableEq

/-- The generated files of a run. -/
structure Output where
  /-- The files in the order of their names. -/
  units : List GeneratedUnit
  deriving Repr, DecidableEq

namespace Output

/-- No files. -/
def empty : Output := ⟨[]⟩

/-- Whether a file of this name is there. -/
def contains (o : Output) (fileName : String) : Bool :=
  o.units.any (fun u => u.fileName == fileName)

/-- `units` with `u` at its place. -/
def insert (u : GeneratedUnit) : List GeneratedUnit → List GeneratedUnit
  | [] => [u]
  | v :: rest => if u.fileName < v.fileName then u :: v :: rest else v :: insert u rest

/-- Accept a file; one whose name is taken is refused. -/
def emit (o : Output) (u : GeneratedUnit) : Except Failure Output :=
  if o.contains u.fileName then
    .error (.generation u.name (u.fileName ++ " is already emitted"))
  else .ok ⟨insert u o.units⟩

/-- The first file made from the unit of the given name. -/
def get? (o : Output) (name : String) : Option GeneratedUnit :=
  o.units.find? (fun u => u.name == name)

end Output
end ClientSynth
