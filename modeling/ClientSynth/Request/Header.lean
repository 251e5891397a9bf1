import ClientSynth.Request.Locals
import ClientSynth.Request.Value

/-! # Headers

Statements that put header and token parameters into the request.  An absent
value and an empty text set no header. -/
namespace ClientSynth
namespace Request

open Contract Code

/-- Header that carries a parameter. -/
def headerName? : Role → Option String
  | .header name => some name
  | .token _ header => some header
  | _ => none

/-- Set a header; an empty text sets none. -/
def setHeader (locals : Locals) (p : Parameter) (name : String) (value : Expr) : Block :=
  let assign : Stmt := .assign locals.builder
    ((Expr.ident locals.builder).method "header" [.str name, textExpr value])
  if p.type.isText then [.ifThen (isNotEmpty value) [assign]] else [assign]

/-- Set the header of a parameter; a parameter without one sets nothing. -/
def bindHeader (locals : Locals) (p : Parameter) : Block :=
  match headerName? p.role with
  | some name => whenPresent p (setHeader locals p name)
  | none => []

/-- Set every header. -/
def headerStatements (parameters : List Parameter) (locals : Locals) : Block :=
  parameters.flatMap (bindHeader locals)

end Request
end ClientSynth
