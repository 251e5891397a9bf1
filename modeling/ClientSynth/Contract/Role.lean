import ClientSynth.Contract.Verb

/-! # Roles of parameters

Each parameter has one role: where its value goes in the request, or that it
goes nowhere. -/
namespace ClientSynth
namespace Contract

/-- How a query value is written. -/
inductive QueryShape where
  /-- Text, left out when empty and percent-encoded. -/
  | text
  /-- Any other simple value, as it displays. -/
  | value
  /-- A structured value, one pair per field. -/
  | object
  deriving Repr, DecidableEq

/-- A single query value. -/
structure QueryBinding where
  /-- The query key. -/
  key : String
  format : Option String
  shape : QueryShape
  deriving Repr, DecidableEq

/-- A request body. -/
structure BodyBinding where
  /-- Content type given on the parameter itself. -/
  contentType : Option String
  /-- Send the text of the value, not its JSON form. -/
  asText : Bool
  deriving Repr, DecidableEq

/-- The role of a parameter. -/
inductive Role where
  | path (format : Option String)
  | query (binding : QueryBinding)
  | arrayQuery (key : String) (separator : Option String)
  | header (name : String)
  | body (binding : BodyBinding)
  /-- A credential sent as a header, hidden from the wrap layer. -/
  | token (scope : Scope) (header : String)
  /-- In the signature only. -/
  | plain
  | cancellation
  deriving Repr, DecidableEq

namespace Role

/-- The name of the role. -/
def label : Role → String
  | path _ => "Path"
  | query _ => "Query"
  | arrayQuery _ _ => "ArrayQuery"
  | header _ => "Header"
  | body _ => "Body"
  | token _ _ => "Token"
  | plain => "Plain"
  | cancellation => "CancellationToken"

/-- Whether the value is bound to a placeholder of the URL. -/
def isPath : Role → Bool
  | path _ => true
  | _ => false

/-- Whether the value goes into the query. -/
def isQuery : Role → Bool
  | query _ => true
  | arrayQuery _ _ => true
  | _ => false

/-- Whether the value is the request body. -/
def isBody : Role → Bool
  | body _ => true
  | _ => false

/-- Whether the value is a token. -/
def isToken : Role → Bool
  | token _ _ => true
  | _ => false

/-- Whether the value is a token of either scope. -/
def isBothToken : Role → Bool
  | token .both _ => true
  | _ => false

end Role
end Contract
end ClientSynth
