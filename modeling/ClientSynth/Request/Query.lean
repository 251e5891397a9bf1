import ClientSynth.Request.Locals
import ClientSynth.Request.Value

/-! # Queries

Statements that put query parameters into the request.  Query pairs are
collected in a list; text is percent-encoded on the way in, other values go in
as they display.  An absent value adds nothing. -/
namespace ClientSynth
namespace Request

open Contract Code

/-- Type of the list of query pairs. -/
def queryType : String := "Vec<(String, String)>"

/-- Add a pair to the query. -/
def pushPair (query key : String) (value : Expr) : Stmt :=
  .eval ((Expr.ident query).method "push" [.tuple [textExpr (.str key), value]])

/-- The text of a query value in an optional format. -/
def displayed (format : Option String) (value : Expr) : Expr :=
  match givenFormat format with
  | some f =>
    let (hole, argument) := formatValue f value
    if isDatePattern f then textExpr argument else .format hole [argument]
  | none => textExpr value

/-- Add a single query value. -/
def pushQuery (query : String) (b : QueryBinding) (value : Expr) : Block :=
  match b.shape with
  | .text => [.ifThen (isNotEmpty value) [pushPair query b.key (encoded value)]]
  | .value => [pushPair query b.key (displayed b.format value)]
  | .object =>
    [.eval ((Expr.ident query).method "extend"
      [.attempt (.call "query_pairs" [.borrow value])])]

/-- The items of a sequence that are present. -/
def presentItems (type : DeclaredType) (value : Expr) : Expr :=
  let items := value.method0 "iter"
  if (type.element.map DeclaredType.nullable).getD false then items.method0 "flatten" else items

/-- The encoded text of one item. -/
def encodedItem : Expr := encoded (textExpr (.ident "item"))

/-- Name of the list of texts that are joined into one query value. -/
def joinedValues (p : Parameter) : String := p.name ++ "_values"

/-- Add the items of a sequence: joined by a separator, or one pair each. -/
def pushItems (query key : String) (separator : Option String) (p : Parameter) (value : Expr) :
    Block :=
  let items := presentItems p.type value
  match separator with
  | some s =>
    let values := Expr.ident (joinedValues p)
    [.bindTyped (joinedValues p) "Vec<String>"
        ((items.method "map" [.lambda ["item"] encodedItem]).method0 "collect"),
      .ifThen (isNotEmpty values) [pushPair query key (values.method "join" [.str s])]]
  | none => [.forEach "item" items [pushPair query key encodedItem]]

/-- Add a query parameter; a parameter of another role adds nothing. -/
def bindQuery (locals : Locals) (p : Parameter) : Block :=
  match p.role with
  | .query b => whenPresent p (pushQuery locals.query b)
  | .arrayQuery key separator => whenPresent p (pushItems locals.query key separator p)
  | _ => []

/-- The query list and everything that goes into it. -/
def queryStatements (parameters : List Parameter) (locals : Locals) : Block :=
  let bound := parameters.filter (fun p => p.role.isQuery)
  .bind locals.query (!bound.isEmpty) (some queryType) (.call "Vec::new" []) ::
    bound.flatMap (bindQuery locals)

end Request
end ClientSynth
