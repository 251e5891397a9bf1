import ClientSynth.Code
import ClientSynth.Code.Identifier
import ClientSynth.Code.Writer

/-! # Writing code out

The text of generated code.  Statements are written line by line at the level
of the writer; an expression is text whose first line stands at a given level,
so a block inside it indents its own lines one level deeper. -/
namespace ClientSynth
namespace Code

/-- Whether an operand needs parentheses in front of a method call. -/
def Expr.needsParens : Expr → Bool
  | .borrow _ => true
  | .negate _ => true
  | .closure _ _ _ => true
  | _ => false

/-- `s` in parentheses. -/
def parens (s : String) : String := "(" ++ s ++ ")"

/-- Arguments or parameters between commas. -/
def commas (items : List String) : String := Text.joined ", " items

/-- One field of a struct literal; a field named like its value is written once. -/
def fieldText (name value : String) : String :=
  if name = value then name else name ++ ": " ++ value

/-- A type after a colon, or nothing. -/
def typeAnnotation : Option String → String
  | none => ""
  | some type => ": " ++ type

/-- The head of a closure: its parameters and result type. -/
def closureHead (params : List String) (result : Option String) : String :=
  "|" ++ commas (params.map Identifier.variableName) ++ "| " ++
    match result with
    | none => ""
    | some type => "-> " ++ type ++ " "

mutual

/-- Text of an expression whose first line stands at `level`. -/
def Expr.text (level : Nat) : Expr → String
  | .raw code => code
  | .ident name => Identifier.variableName name
  | .str value => Text.stringLiteral value
  | .call callee arguments => callee ++ parens (commas (Expr.texts level arguments))
  | .method receiver name arguments =>
    (if receiver.needsParens then parens (receiver.text level) else receiver.text level) ++ "." ++
      Identifier.functionName name ++ parens (commas (Expr.texts level arguments))
  | .format template arguments =>
    "format!" ++ parens (commas (Text.stringLiteral template :: Expr.texts level arguments))
  | .await operand => operand.text level ++ ".await"
  | .attempt operand => operand.text level ++ "?"
  | .negate operand => "!" ++ operand.text level
  | .borrow operand => "&" ++ operand.text level
  | .block isAsync body =>
    (if isAsync then "async " else "") ++ "\x7b\n" ++
      (Stmt.writeAll body ⟨level + 1, ""⟩).text ++ indentation level ++ "\x7d"
  | .tuple items => parens (commas (Expr.texts level items))
  | .closure params result body => closureHead params result ++ body.text level
  | .invoke callee => parens (callee.text level) ++ "()"
  | .record name fields => name ++ " \x7b " ++ commas (Expr.fieldTexts level fields) ++ " \x7d"

/-- Texts of several expressions. -/
def Expr.texts (level : Nat) : List Expr → List String
  | [] => []
  | e :: rest => e.text level :: Expr.texts level rest

/-- Texts of the fields of a struct literal. -/
def Expr.fieldTexts (level : Nat) : List (String × Expr) → List String
  | [] => []
  | (name, e) :: rest =>
    fieldText (Identifier.variableName name) (e.text level) :: Expr.fieldTexts level rest

/-- Write a statement. -/
def Stmt.write : Stmt → Writer → Writer
  | .bind name isMutable type value, w =>
    w.line ("let " ++ (if isMutable then "mut " else "") ++ Identifier.variableName name ++
      typeAnnotation type ++ " = " ++ value.text w.level ++ ";")
  | .assign target value, w =>
    w.line (Identifier.variableName target ++ " = " ++ value.text w.level ++ ";")
  | .eval value, w => w.line (value.text w.level ++ ";")
  | .ifThen test body, w =>
    w.nested ("if " ++ test.text w.level ++ " \x7b") (Stmt.writeAll body) "\x7d"
  | .ifElse test body alternative, w =>
    let upper := w.nested ("if " ++ test.text w.level ++ " \x7b") (Stmt.writeAll body)
      "\x7d else \x7b"
    ((Stmt.writeAll alternative upper.indent).dedent).line "\x7d"
  | .ifLet variant binding value body, w =>
    w.nested ("if let " ++ variant ++ parens (Identifier.variableName binding) ++ " = " ++
      value.text w.level ++ " \x7b") (Stmt.writeAll body) "\x7d"
  | .forEach binding items body, w =>
    w.nested ("for " ++ Identifier.variableName binding ++ " in " ++ items.text w.level ++ " \x7b")
      (Stmt.writeAll body) "\x7d"
  | .hook name arguments, w =>
    w.line ("self.hooks." ++ Identifier.functionName name ++
      parens (commas (Expr.texts w.level arguments)) ++ ";")
  | .log level message arguments, w =>
    w.line ("log::" ++ level.text ++ "!" ++
      parens (commas (Text.stringLiteral message :: Expr.texts w.level arguments)) ++ ";")
  | .ret value, w => w.line ("return " ++ value.text w.level ++ ";")
  | .tail value, w => w.line (value.text w.level)
  | .comment text, w => w.line ("// " ++ text)

/-- Write statements in sequence. -/
def Stmt.writeAll : List Stmt → Writer → Writer
  | [], w => w
  | s :: rest, w => Stmt.writeAll rest (s.write w)

end

/-- Write documentation lines. -/
def writeDoc (doc : List String) (w : Writer) : Writer :=
  doc.foldl (fun w l => w.line (if l.isEmpty then "///" else "/// " ++ l)) w

namespace Function

/-- Texts of the parameters, the receiver first. -/
def paramTexts (f : Function) : List String :=
  (match f.receiver with
    | .none => []
    | .borrowed => ["&self"]
    | .consumed => ["self"]) ++
  f.params.map (fun p => Identifier.variableName p.1 ++ ": " ++ p.2)

/-- The line up to the body; a trait or trait implementation does not let its
methods be public. -/
def signatureText (f : Function) (mayBePublic : Bool) : String :=
  (if f.isPublic && mayBePublic then "pub " else "") ++ (if f.isAsync then "async " else "") ++
    "fn " ++ Identifier.functionName f.name ++ parens (commas f.paramTexts) ++
    match f.result with
    | none => ""
    | some type => " -> " ++ type

/-- Write a function. -/
def write (mayBePublic : Bool) (w : Writer) (f : Function) : Writer :=
  let w := writeDoc f.doc w
  let signature := f.signatureText mayBePublic
  match f.body with
  | none => w.line (signature ++ ";")
  | some [] => w.line (signature ++ " \x7b\x7d")
  | some body => w.nested (signature ++ " \x7b") (Stmt.writeAll body) "\x7d"

end Function

/-- The mark of a trait or implementation with asynchronous methods. -/
def writeAsyncMark (isAsync : Bool) (w : Writer) : Writer :=
  if isAsync then w.line "#[async_trait]" else w

/-- Write a trait. -/
def Trait.write (w : Writer) (t : Trait) : Writer :=
  let w := writeAsyncMark t.isAsync (writeDoc t.doc w)
  let bounds := if t.supertraits.isEmpty then "" else ": " ++ Text.joined " + " t.supertraits
  w.nested ("pub trait " ++ Identifier.typeName t.name ++ bounds ++ " \x7b")
    (fun w => w.separated (Function.write false) t.methods) "\x7d"

/-- Write a struct. -/
def Struct.write (w : Writer) (s : Struct) : Writer :=
  let w := writeDoc s.doc w
  let w := if s.derives.isEmpty then w else w.line ("#[derive" ++ parens (commas s.derives) ++ "]")
  let head := "pub struct " ++ Identifier.typeName s.name
  if s.fields.isEmpty then w.line (head ++ ";")
  else
    w.nested (head ++ " \x7b")
      (fun w => s.fields.foldl
        (fun w f => w.line (Identifier.variableName f.1 ++ ": " ++ f.2 ++ ",")) w) "\x7d"

/-- Write a constant, public in an implementation of no trait. -/
def Constant.write (isPublic : Bool) (w : Writer) (c : Constant) : Writer :=
  w.line ((if isPublic then "pub " else "") ++ "const " ++ c.name ++ ": " ++ c.type ++ " = " ++
    c.value ++ ";")

/-- Write an implementation. -/
def Implementation.write (w : Writer) (i : Implementation) : Writer :=
  let w := writeAsyncMark i.isAsync w
  let target := Identifier.typeName i.target
  let head := match i.ofTrait with
    | none => "impl " ++ target
    | some t => "impl " ++ t ++ " for " ++ target
  if i.constants.isEmpty && i.methods.isEmpty then w.line (head ++ " \x7b\x7d")
  else
    let isOwn := i.ofTrait.isNone
    w.nested (head ++ " \x7b")
      (fun w =>
        let w := i.constants.foldl (Constant.write isOwn) w
        let w := if i.constants.isEmpty || i.methods.isEmpty then w else w.blank
        w.separated (Function.write isOwn) i.methods) "\x7d"

/-- Write an item. -/
def Item.write (w : Writer) : Item → Writer
  | .trait t => t.write w
  | .struct s => s.write w
  | .implementation i => i.write w
  | .function f => f.write true w

/-- Text of items, with an empty line between neighbours. -/
def render (items : List Item) : String := (Writer.empty.separated Item.write items).text

end Code
end ClientSynth
