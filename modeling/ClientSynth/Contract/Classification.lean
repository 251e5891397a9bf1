import ClientSynth.Contract.Role
import ClientSynth.Contract.Type
import ClientSynth.Declaration

/-! # Choosing roles

A parameter has one role.  A cancellation token is told by its type alone;
otherwise the role annotations decide.  The only two that go together are
`Token` and `Header`, which then names the header of the token. -/
namespace ClientSynth
namespace Contract

/-- Why a parameter has no role. -/
inductive RoleError where
  /-- Role annotations that do not go together. -/
  | conflict (annotations : List String)
  /-- A joined query on a type that is no sequence. -/
  | notASequence (parameter type : String)
  /-- A token scope that is none. -/
  | unknownScope (scope parameter : String)
  /-- A role annotation without a role. -/
  | unsupported (name : String)
  /-- An argument of the wrong kind. -/
  | argument (bad : Annotation.BadArgument)
  deriving Repr, DecidableEq

/-- The wording of a role error. -/
def RoleError.message : RoleError → String
  | conflict names => "conflicting role annotations: " ++ Text.joined ", " names
  | notASequence p t =>
    "[ArrayQuery] parameter '" ++ p ++ "' must be a sequence, found '" ++ t ++ "'"
  | unknownScope s p =>
    "unknown token scope '" ++ s ++ "' on parameter '" ++ p ++
      "' (expected Tenant, User or Both)"
  | unsupported a => "unsupported role annotation [" ++ a ++ "]"
  | argument b => b.message

/-- Header of a token that names none. -/
def defaultTokenHeader : String := "Authorization"

/-- Names of the role annotations. -/
def roleNames : List String := ["Path", "Query", "ArrayQuery", "Header", "Body", "Token"]

/-- Whether an annotation decides the role. -/
def isRoleAnnotation (a : Annotation) : Bool := roleNames.any a.answersTo

/-- A text argument, with the error as a role error. -/
def textArgument (a : Annotation) (index : Nat) (key : String) : Except RoleError (Option String) :=
  (a.textArgument index key).mapError .argument

/-- How a single query value of the family is written. -/
def shapeOf : Family → QueryShape
  | .text => .text
  | .object => .object
  | _ => .value

/-- Role of a query parameter. -/
def queryRole (a : Annotation) (p : Declaration.Parameter) (type : DeclaredType) :
    Except RoleError Role := do
  let key := (← textArgument a 0 "name").getD p.name
  if type.isSequence then return .arrayQuery key none
  else return .query ⟨key, ← textArgument a 1 "format", shapeOf type.family⟩

/-- Role of a parameter whose items make one query value. -/
def arrayQueryRole (a : Annotation) (p : Declaration.Parameter) (type : DeclaredType) :
    Except RoleError Role := do
  if !type.isSequence then throw (.notASequence p.name type.raw)
  let key := (← textArgument a 0 "name").getD p.name
  return .arrayQuery key ((← textArgument a 1 "separator").filter (fun s => !s.isEmpty))

/-- Role of a body parameter. -/
def bodyRole (a : Annotation) : Except RoleError Role := do
  let contentType := (← textArgument a 0 "content_type").filter (fun s => !Text.isBlankText s)
  let asText ← (a.namedBool "use_string_content").mapError RoleError.argument
  return .body ⟨contentType, asText.getD false⟩

/-- Role that a single role annotation gives. -/
def singleRole (a : Annotation) (p : Declaration.Parameter) (type : DeclaredType) :
    Except RoleError Role :=
  if a.answersTo "Path" then (textArgument a 0 "format").map .path
  else if a.answersTo "Query" then queryRole a p type
  else if a.answersTo "ArrayQuery" then arrayQueryRole a p type
  else if a.answersTo "Header" then (textArgument a 0 "name").map (fun n => .header (n.getD p.name))
  else if a.answersTo "Body" then bodyRole a
  else .error (.unsupported a.name)

/-- Scope of a token annotation. -/
def tokenScope (token : Annotation) (p : Declaration.Parameter) : Except RoleError Scope := do
  match ← textArgument token 0 "scope" with
  | none => return .tenant
  | some raw =>
    match Scope.parse raw with
    | some scope => return scope
    | none => throw (.unknownScope raw p.name)

/-- Role of a token, with the annotation that names its header. -/
def tokenRole (token : Annotation) (header : Option Annotation) (p : Declaration.Parameter) :
    Except RoleError Role := do
  let scope ← tokenScope token p
  match header with
  | none => return .token scope defaultTokenHeader
  | some h => return .token scope ((← textArgument h 0 "name").getD p.name)

/-- The role of a parameter of the given type. -/
def Role.classify (p : Declaration.Parameter) (type : DeclaredType) : Except RoleError Role :=
  if type.family = .cancellation then .ok .cancellation
  else
    let tags := p.annotations.filter isRoleAnnotation
    let headers := tags.filter (fun a => a.answersTo "Header")
    let others := tags.filter (fun a => !a.answersTo "Token" && !a.answersTo "Header")
    let conflict : Except RoleError Role := .error (.conflict (tags.map Annotation.name))
    match tags.find? (fun a => a.answersTo "Token") with
    | some credential =>
      if others.isEmpty && headers.length ≤ 1 then tokenRole credential headers.head? p else conflict
    | none =>
      match tags with
      | [] => .ok .plain
      | [tag] => singleRole tag p type
      | _ => conflict

end Contract
end ClientSynth
