import ClientSynth.Declaration
import ClientSynth.Document.Reading

/-! # Reading declarations

How each declaration is written in a document tree: its fields, in the order
that counts when it is written as a list, and which of them may be left out.
Each record is collected in a draft whose required fields start out empty. -/
namespace ClientSynth
namespace Declaration

open Document Document.Reading

/-- An annotation: a name, or a map with a single key that holds the arguments. -/
def annotationOf (tree : Tree) : Reading Annotation := do
  match ← target tree with
  | .leaf l =>
    match ← present l.free with
    | .text name => return .marker name
    | _ => throw .annotationShape
  | .map false ((key, value) :: rest) =>
    let all ← deeper (((key, value) :: rest).mapM (fun e => do
      return (← free .byValue e.1, ← free .byValue e.2)))
    match all.map Prod.fst with
    | [] => throw .annotationShape
    | first :: others =>
      if others.all (fun k => k == first) then
        match first with
        | .text name =>
          return .ofArguments name ((all.getLast?.map Prod.snd).getD .null)
        | _ => throw .annotationName
      else throw .annotationShape
  | other =>
    let _ ← free .byValue other
    throw .annotationShape

/-- A list of annotations. -/
def annotations (tree : Tree) : Reading (List Annotation) := list annotationOf tree

/-- A declared default value. -/
def defaultValue (tree : Tree) : Reading Json.Value := free .written tree

/-- A record in the making: the name, which must be given, and the rest. -/
structure Draft (α : Type) where
  /-- The name, once it has been read. -/
  name : Option String
  /-- The other fields, with defaults for those not read yet. -/
  body : α

/-- Fields of a member of an enumeration. -/
def memberFields : List String := ["name", "value"]

/-- Read one field of a member. -/
def memberField (field : String) (tree : Tree) (d : Draft (Option Int)) :
    Reading (Draft (Option Int)) := do
  match field with
  | "name" => return { d with name := some (← text tree) }
  | _ => return { d with body := ← optional signed tree }

/-- A member of an enumeration. -/
def member (tree : Tree) : Reading Member :=
  record memberFields ⟨none, none⟩ memberField (fun d => d.name.map (fun n => ⟨n, d.body⟩)) tree

/-- Fields of an enumeration. -/
def enumerationFields : List String := ["name", "members"]

/-- Read one field of an enumeration. -/
def enumerationField (field : String) (tree : Tree) (d : Draft (List Member)) :
    Reading (Draft (List Member)) := do
  match field with
  | "name" => return { d with name := some (← text tree) }
  | _ => return { d with body := ← list member tree }

/-- An enumeration. -/
def enumeration (tree : Tree) : Reading Enumeration :=
  record enumerationFields ⟨none, []⟩ enumerationField
    (fun d => d.name.map (fun n => ⟨n, d.body⟩)) tree

/-- A parameter in the making. -/
structure ParameterDraft where
  name : Option String
  type : Option String
  default : Option Json.Value
  annotations : List Annotation

/-- The parameter of a draft, if its required fields are there. -/
def ParameterDraft.finish (d : ParameterDraft) : Option Parameter := do
  return ⟨← d.name, ← d.type, d.default, d.annotations⟩

/-- Fields of a parameter. -/
def parameterFields : List String := ["name", "type", "default", "attributes"]

/-- Read one field of a parameter. -/
def parameterField (field : String) (tree : Tree) (d : ParameterDraft) : Reading ParameterDraft := do
  match field with
  | "name" => return { d with name := some (← text tree) }
  | "type" => return { d with type := some (← text tree) }
  | "default" => return { d with default := some (← defaultValue tree) }
  | _ => return { d with annotations := ← Declaration.annotations tree }

/-- A parameter. -/
def parameter (tree : Tree) : Reading Parameter :=
  record parameterFields ⟨none, none, none, []⟩ parameterField ParameterDraft.finish tree

/-- Fields of a result. -/
def resultFields : List String := ["type", "async"]

/-- Read one field of a result. -/
def resultField (field : String) (tree : Tree) (r : Result) : Reading Result := do
  match field with
  | "type" => return { r with type := ← optional text tree }
  | _ => return { r with isAsync := ← bool tree }

/-- A result. -/
def result (tree : Tree) : Reading Result := record resultFields ⟨none, false⟩ resultField some tree

/-- Fields of a method. -/
def methodFields : List String := ["name", "returns", "attributes", "parameters"]

/-- Read one field of a method. -/
def methodField (field : String) (tree : Tree) (d : Draft Method) : Reading (Draft Method) := do
  match field with
  | "name" => return { d with name := some (← text tree) }
  | "returns" => return { d with body := { d.body with returns := ← optional result tree } }
  | "attributes" => return { d with body := { d.body with annotations := ← annotations tree } }
  | _ => return { d with body := { d.body with parameters := ← list parameter tree } }

/-- A method. -/
def method (tree : Tree) : Reading Method :=
  record methodFields ⟨none, ⟨"", none, [], []⟩⟩ methodField
    (fun d => d.name.map (fun n => { d.body with name := n })) tree

/-- Fields of an interface. -/
def interfaceFields : List String := ["name", "extends", "attributes", "methods"]

/-- Read one field of an interface. -/
def interfaceField (field : String) (tree : Tree) (d : Draft Interface) :
    Reading (Draft Interface) := do
  match field with
  | "name" => return { d with name := some (← text tree) }
  | "extends" => return { d with body := { d.body with ancestors := ← list text tree } }
  | "attributes" => return { d with body := { d.body with annotations := ← annotations tree } }
  | _ => return { d with body := { d.body with methods := ← list method tree } }

/-- An interface; where it came from is filled in later. -/
def interface (tree : Tree) : Reading Interface :=
  record interfaceFields ⟨none, ⟨"", [], [], [], ""⟩⟩ interfaceField
    (fun d => d.name.map (fun n => { d.body with name := n })) tree

/-- Fields of a contract document. -/
def contentsFields : List String := ["enums", "interfaces"]

/-- Read one field of a contract document. -/
def contentsField (field : String) (tree : Tree) (c : Contents) : Reading Contents := do
  match field with
  | "enums" => return { c with enumerations := ← list enumeration tree }
  | _ => return { c with interfaces := ← list interface tree }

/-- The declarations of a contract document. -/
def contents (tree : Tree) : Reading Contents := record contentsFields ⟨[], []⟩ contentsField some tree

end Declaration
end ClientSynth
