import ClientSynth.Annotation

/-! # Declarations

What a contract document declares, before any of it is interpreted: interfaces
with their methods and parameters, and the enumerations that parameter types
refer to.  Types are texts here and annotations keep their arguments as
written. -/
namespace ClientSynth
namespace Declaration

/-- A member of an enumeration, with its number if one is given. -/
structure Member where
  name : String
  value : Option Int
  deriving Repr, DecidableEq

/-- An enumeration. -/
structure Enumeration where
  name : String
  members : List Member
  deriving Repr, DecidableEq

/-- A parameter of a method. -/
structure Parameter where
  name : String
  /-- The declared type. -/
  type : String
  /-- The default value; a declared `null` is a default too. -/
  default : Option Json.Value
  annotations : List Annotation
  deriving Repr, BEq

/-- The result of a method. -/
structure Result where
  /-- The type of the value, if there is one. -/
  type : Option String
  isAsync : Bool
  deriving Repr, DecidableEq

/-- A method of an interface. -/
structure Method where
  name : String
  /-- The result; an absent one means an asynchronous method without a value. -/
  returns : Option Result
  annotations : List Annotation
  parameters : List Parameter
  deriving Repr, BEq

/-- An interface. -/
structure Interface where
  name : String
  /-- Names of the interfaces it extends, in order. -/
  ancestors : List String
  annotations : List Annotation
  methods : List Method
  /-- Where the declaring document came from. -/
  source : String
  deriving Repr, BEq

/-- The declarations of one contract document. -/
structure Contents where
  enumerations : List Enumeration
  interfaces : List Interface
  deriving Repr, BEq

/-- Members with their numbers, counting up from `next` where none is given. -/
def numbered (next : Int) : List Member → List (String × Int)
  | [] => []
  | m :: rest =>
    let value := m.value.getD next
    (m.name, value) :: numbered (value + 1) rest

/-- The members of an enumeration with their numbers; the first one counts from
zero. -/
def Enumeration.values (e : Enumeration) : List (String × Int) := numbered 0 e.members

/-- The first annotation that answers to one of `names`. -/
def firstAnnotation (annotations : List Annotation) (names : List String) : Option Annotation :=
  annotations.find? (fun a => names.any a.answersTo)

/-- The first annotation of the interface that answers to one of `names`. -/
def Interface.annotated? (i : Interface) (names : List String) : Option Annotation :=
  firstAnnotation i.annotations names

/-- The first annotation of the method that answers to one of `names`. -/
def Method.annotated? (m : Method) (names : List String) : Option Annotation :=
  firstAnnotation m.annotations names

/-- Whether some annotation of the method answers to `name`. -/
def Method.isAnnotated (m : Method) (name : String) : Bool :=
  m.annotations.any (fun a => a.answersTo name)

end Declaration
end ClientSynth
