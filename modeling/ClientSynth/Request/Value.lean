import ClientSynth.Code
import ClientSynth.Contract

/-! # Values of parameters

How generated code shows a value: in a declared format or as it displays.  A
date pattern is applied by the value itself, any other format by the text it is
shown in. -/
namespace ClientSynth
namespace Request

open Contract Code

/-- A format that is given and not blank, without blanks around it. -/
def givenFormat (format : Option String) : Option String :=
  (format.map Text.stripBlanks).filter (fun f => !f.isEmpty)

/-- Whether a format is a date pattern, to be applied by the value itself. -/
def isDatePattern (format : String) : Bool := format.toList.contains '%'

theorem isDatePattern_iff {format : String} :
    isDatePattern format = true ↔ '%' ∈ format.toList := List.contains_iff_mem

/-- Hole and argument that show `value` in the given format. -/
def formatValue (format : String) (value : Expr) : String × Expr :=
  if isDatePattern format then ("\x7b\x7d", value.method "format" [.str format])
  else ("\x7b:" ++ (Text.dropPrefix? ":" format).getD format ++ "\x7d", value)

/-- Hole and argument that show a value in a format, or as it displays. -/
def shown (format : Option String) (value : Expr) : String × Expr :=
  match format with
  | some f => formatValue f value
  | none => ("\x7b\x7d", value)

/-- The text of a value. -/
def textExpr (value : Expr) : Expr := value.method0 "to_string"

/-- A value percent-encoded for the query. -/
def encoded (value : Expr) : Expr := .call "encode_query_value" [.borrow value]

/-- Whether a value is not empty. -/
def isNotEmpty (value : Expr) : Expr := .negate (value.method0 "is_empty")

/-- What `emit` makes of a parameter's value.  A nullable parameter is taken
apart first, and an absent value makes nothing. -/
def whenPresent (p : Parameter) (emit : Expr → Block) : Block :=
  let value := Expr.ident p.name
  if p.type.nullable then [.ifLet "Some" p.name (.borrow value) (emit value)] else emit value

end Request
end ClientSynth
