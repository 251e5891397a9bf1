import ClientSynth.Declaration
import ClientSynth.Diagnostic

/-! # Inherited methods

The methods that several interfaces bring together.  A name stands for one
method, the first; a later one that differs from it is an overload, which is
reported and dropped. -/
namespace ClientSynth
namespace Declaration

open Diagnostic

/-- The result of a method as written in its signature. -/
def resultText : Option Result → String
  | none => "async ()"
  | some r => (if r.isAsync then "async " else "") ++ r.type.getD "()"

/-- The signature of a declared method. -/
def Method.signature (m : Method) : String :=
  m.name ++ "(" ++ Text.joined ", " (m.parameters.map (fun p => Text.stripBlanks p.type)) ++
    ") -> " ++ resultText m.returns

/-- A method with the interface that declares it. -/
structure InheritedMethod where
  owner : Interface
  method : Method
  deriving Repr

namespace InheritedMethod

/-- The dotted name of an inherited method. -/
def symbol (m : InheritedMethod) : String := m.owner.name ++ "." ++ m.method.name

/-- Where an inherited method is declared. -/
def location (m : InheritedMethod) : Location := ⟨m.owner.source, m.symbol⟩

/-- The report that a method has the name of the one with signature `kept`. -/
def duplicate (m : InheritedMethod) (kept : String) : Diagnostic :=
  .warning .duplicateMethod
    ("method '" ++ m.method.signature ++ "' conflicts with '" ++ kept ++ "' and is skipped")
    m.location

/-- The methods of `candidates` whose names are new; `seen` holds the names so
far with their signatures.  A repetition is dropped, and reported if its
signature differs. -/
def distinct (seen : List (String × String)) : List InheritedMethod → Reported (List InheritedMethod)
  | [] => .silent []
  | m :: rest =>
    match seen.lookup m.method.name with
    | none =>
      let tail := distinct ((m.method.name, m.method.signature) :: seen) rest
      ⟨m :: tail.value, tail.log⟩
    | some kept =>
      let tail := distinct seen rest
      if m.method.signature = kept then tail
      else ⟨tail.value, duplicate m kept :: tail.log⟩

/-- The methods of the given interfaces, each name once. -/
def collect (interfaces : List Interface) : Reported (List InheritedMethod) :=
  distinct [] (interfaces.flatMap (fun i => i.methods.map (fun m => ⟨i, m⟩)))

end InheritedMethod
end Declaration
end ClientSynth
