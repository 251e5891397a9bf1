import ClientSynth.Contract.Placeholder
import ClientSynth.Request.Value

/-! # Request paths

The expression that makes the path of a request out of a URL template.  Each
placeholder with a path parameter becomes a hole filled by that parameter; all
other text, unmatched placeholders and stray braces included, stays as it is. -/
namespace ClientSynth
namespace Request

open Contract Code

/-- The format of a path parameter. -/
def pathFormat (p : Parameter) : Option String :=
  match p.role with
  | .path format => givenFormat format
  | _ => none

/-- Hole and argument for a path parameter; an absent value shows as nothing. -/
def pathArgument (p : Parameter) : String × Expr :=
  if p.type.nullable then
    let display : Expr := match pathFormat p with
      | some f =>
        let (hole, argument) := formatValue f (.ident "value")
        .lambda ["value"] (.format hole [argument])
      | none => .raw "ToString::to_string"
    ("\x7b\x7d",
      (((Expr.ident p.name).method0 "as_ref").method "map" [display]).method0 "unwrap_or_default")
  else shown (pathFormat p) (.ident p.name)

/-- `cs` as it is written in a template with holes: braces are doubled. -/
def escapeBraces (cs : List Char) : List Char :=
  cs.flatMap (fun c =>
    if c = '\x7b' then ['\x7b', '\x7b'] else if c = '\x7d' then ['\x7d', '\x7d'] else [c])

/-- The text of a part of a URL template. -/
def partText : UrlPart → List Char
  | .char c => [c]
  | .placeholder name => '\x7b' :: name.toList ++ ['\x7d']

/-- Template and arguments for the parts of a URL template. -/
def pathPieces (parameters : List Parameter) : List UrlPart → List Char × List Expr
  | [] => ([], [])
  | part :: rest =>
    let (template, arguments) := pathPieces parameters rest
    let filled := match part with
      | .placeholder name => pathParameter? name parameters
      | .char _ => none
    match filled with
    | some p =>
      let (hole, argument) := pathArgument p
      (hole.toList ++ template, argument :: arguments)
    | none => (escapeBraces (partText part) ++ template, arguments)

/-- The expression of the request path. -/
def pathExpr (template : String) (parameters : List Parameter) : Expr :=
  match pathPieces parameters (Placeholder.parts template.toList) with
  | (_, []) => .str template
  | (text, arguments) => .format (String.ofList text) arguments

end Request
end ClientSynth
