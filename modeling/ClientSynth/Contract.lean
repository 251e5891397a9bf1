import ClientSynth.Contract.Literal
import ClientSynth.Contract.Role
import ClientSynth.Naming

/-! # Contracts

Interfaces as they are understood.  Annotations have been interpreted once and for all:
what follows looks at the roles of parameters and never at annotations. -/
namespace ClientSynth
namespace Contract

/-- The result of a method. -/
inductive Returns where
  /-- A value, at once. -/
  | sync (type : DeclaredType)
  /-- A value, asynchronously. -/
  | async (type : DeclaredType)
  /-- No value, asynchronously. -/
  | asyncVoid
  deriving Repr, BEq

namespace Returns

/-- Whether the method is asynchronous. -/
def isAsync : Returns → Bool
  | sync _ => false
  | _ => true

/-- The type of the value, if there is one. -/
def value? : Returns → Option DeclaredType
  | sync t => some t
  | async t => some t
  | asyncVoid => none

/-- The value type in generated code; the unit type without a value. -/
def valueType (r : Returns) : String := (r.value?.map DeclaredType.raw).getD "()"

end Returns

/-- A parameter. -/
structure Parameter where
  name : String
  type : DeclaredType
  role : Role
  default : Option Literal
  deriving Repr, BEq

/-- A method. -/
structure Method where
  name : String
  verb : Verb
  urlTemplate : String
  returns : Returns
  parameters : List Parameter
  /-- Content type given on the method. -/
  contentType : Option String
  /-- Implemented by hand. -/
  ignoreImplementation : Bool
  /-- Left out of the wrap layer. -/
  ignoreWrap : Bool
  /-- The interface that declares it. -/
  declaredIn : String
  deriving Repr, BEq

namespace Method

/-- Snake-case name, from which the names of the hooks are made. -/
def functionName (m : Method) : String := Text.snakeCase m.name

/-- Name, parameter types and result as one text. -/
def signature (m : Method) : String :=
  m.name ++ "(" ++ Text.joined ", " (m.parameters.map (fun p => p.type.raw)) ++ ") -> " ++
    (if m.returns.isAsync then "async " else "") ++ m.returns.valueType

/-- The parameter that is the request body. -/
def body? (m : Method) : Option Parameter := m.parameters.find? (fun p => p.role.isBody)

/-- The token parameters. -/
def tokens (m : Method) : List Parameter := m.parameters.filter (fun p => p.role.isToken)

/-- The parameter that cancels the request. -/
def cancellation? (m : Method) : Option Parameter :=
  m.parameters.find? (fun p => p.role == .cancellation)

end Method

/-- What an interface says about its client. -/
structure ClientDescriptor where
  baseAddress : Option String
  timeoutSeconds : Option Nat
  /-- Content type for bodies that have no other. -/
  contentType : Option String
  registryGroup : Option String
  isAbstract : Bool
  tokenManager : Option String
  deriving Repr, DecidableEq

/-- What an interface says about its wrap layer. -/
structure WrapDescriptor where
  /-- A name for the wrap interface, in place of the usual one. -/
  name : Option String
  tokenManager : Option String
  deriving Repr, DecidableEq

/-- An interface. -/
structure Interface where
  name : String
  /-- Where the declaring document came from. -/
  source : String
  /-- Every interface it extends, directly or not. -/
  ancestors : List String
  methods : List Method
  client : ClientDescriptor
  wrap : Option WrapDescriptor
  deriving Repr, BEq

namespace Interface

/-- Name of the client type. -/
def implementation (i : Interface) : String := Naming.implementation i.name

/-- Name of the hooks trait. -/
def hooksTrait (i : Interface) : String := i.implementation ++ "Hooks"

/-- Name of the hooks that do nothing. -/
def defaultHooks (i : Interface) : String := i.implementation ++ "DefaultHooks"

/-- Name of the trait of methods implemented by hand. -/
def manualTrait (i : Interface) : String := i.implementation ++ "Manual"

/-- Whether some method is implemented by hand. -/
def hasManualMethods (i : Interface) : Bool := i.methods.any (fun m => m.ignoreImplementation)

/-- Name of the wrap interface, if there is to be one. -/
def wrapName? (i : Interface) : Option String :=
  i.wrap.map (fun w => Naming.wrapInterface i.name w.name)

end Interface
end Contract
end ClientSynth
