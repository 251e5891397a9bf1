import ClientSynth.Request.Locals
import ClientSynth.Request.Value

/-! # Request bodies

The content type of a body, and the statements that attach it. -/
namespace ClientSynth
namespace Request

open Contract Code

/-- Content type of a body for which none is declared. -/
def defaultContentType : String := "application/json"

/-- A content type that is given and not blank, without blanks around it. -/
def declaredContentType (contentType : Option String) : Option String :=
  (contentType.map Text.stripBlanks).filter (fun c => !c.isEmpty)

/-- A content type without its parameters: `text/plain; charset=utf-8` is
`text/plain`. -/
def mediaType (contentType : String) : String :=
  Text.stripBlanks (String.ofList (Text.beforeFirst (fun c => c == ';') contentType.toList))

/-- The content type of a body: the parameter's as written, else the media type
of the method's, else that of the interface's, else JSON. -/
def resolveContentType (parameter method interface : Option String) : String :=
  match declaredContentType parameter with
  | some explicit => explicit
  | none =>
    (((declaredContentType method) <|> (declaredContentType interface)).map mediaType).getD
      defaultContentType

/-- What is sent as the body: the text of a value, or its JSON form. -/
def payload (p : Parameter) (asText : Bool) (value : Expr) : Expr :=
  if asText then textExpr value
  else .attempt (.call "serde_json::to_string" [if p.type.nullable then value else .borrow value])

/-- Set the content type and the body. -/
def setBody (locals : Locals) (contentType : String) (content : Expr) : Block :=
  [.assign locals.builder
    (((Expr.ident locals.builder).method "header"
      [.raw "reqwest::header::CONTENT_TYPE", .str contentType]).method "body" [content])]

/-- Attach a body parameter; a parameter of another role attaches nothing. -/
def bindBody (locals : Locals) (method interface : Option String) (p : Parameter) : Block :=
  match p.role with
  | .body b =>
    whenPresent p (fun value =>
      setBody locals (resolveContentType b.contentType method interface) (payload p b.asText value))
  | _ => []

/-- Attach the body, if there is one. -/
def bodyStatements (body : Option Parameter) (method interface : Option String) (locals : Locals) :
    Block :=
  match body with
  | some p => bindBody locals method interface p
  | none => []

end Request
end ClientSynth
