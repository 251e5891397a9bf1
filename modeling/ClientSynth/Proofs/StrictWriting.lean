import ClientSynth.Proofs.Writing

/-! # Writing that never leaves the outermost level

A writer at the outermost level stays there when it is to go one level less deep, and a slip
in the order of levels would go unnoticed.  Here the same code is written by writers that
refuse this step (`Writer.dedent?`), and a refusal anywhere, also in a block inside an
expression, is one of the whole.  Nothing is refused: a body is written one level deeper than
the lines around it and comes back to the level it was given, so there is always a level to
leave. -/
namespace ClientSynth
namespace Code

namespace Writer

/-- One level less deep; refused at the outermost level. -/
def dedent? (w : Writer) : Option Writer := if w.level = 0 then none else some w.dedent

/-- `Writer.nested`, refused where the body ends at the outermost level. -/
def nested? (w : Writer) (opening : String) (inside : Writer → Option Writer)
    (closing : String) : Option Writer := do
  let written ← inside (w.line opening).indent
  let back ← written.dedent?
  return back.line closing

theorem dedent?_of_pos {w : Writer} (h : 0 < w.level) : w.dedent? = some w.dedent :=
  if_neg (Nat.ne_of_gt h)

end Writer

/-! ### Strict rendering -/

mutual

/-- `Expr.text`, with writers that refuse to leave the outermost level. -/
def Expr.text? (level : Nat) : Expr → Option String
  | .raw code => some code
  | .ident name => some (Identifier.variableName name)
  | .str value => some (Text.stringLiteral value)
  | .call callee arguments => do
    let texts ← Expr.texts? level arguments
    return callee ++ parens (commas texts)
  | .method receiver name arguments => do
    let on ← receiver.text? level
    let texts ← Expr.texts? level arguments
    return (if receiver.needsParens then parens on else on) ++ "." ++
      Identifier.functionName name ++ parens (commas texts)
  | .format template arguments => do
    let texts ← Expr.texts? level arguments
    return "format!" ++ parens (commas (Text.stringLiteral template :: texts))
  | .await operand => do return (← operand.text? level) ++ ".await"
  | .attempt operand => do return (← operand.text? level) ++ "?"
  | .negate operand => do return "!" ++ (← operand.text? level)
  | .borrow operand => do return "&" ++ (← operand.text? level)
  | .block isAsync body => do
    let written ← Stmt.writeAll? body ⟨level + 1, ""⟩
    return (if isAsync then "async " else "") ++ "\x7b\n" ++ written.text ++
      indentation level ++ "\x7d"
  | .tuple items => do return parens (commas (← Expr.texts? level items))
  | .closure params result body => do return closureHead params result ++ (← body.text? level)
  | .invoke callee => do return parens (← callee.text? level) ++ "()"
  | .record name fields => do
    let texts ← Expr.fieldTexts? level fields
    return name ++ " \x7b " ++ commas texts ++ " \x7d"

/-- So for several expressions. -/
def Expr.texts? (level : Nat) : List Expr → Option (List String)
  | [] => some []
  | e :: rest => do return (← e.text? level) :: (← Expr.texts? level rest)

/-- So for the fields of a struct literal. -/
def Expr.fieldTexts? (level : Nat) : List (String × Expr) → Option (List String)
  | [] => some []
  | (name, e) :: rest => do
    return fieldText (Identifier.variableName name) (← e.text? level) ::
      (← Expr.fieldTexts? level rest)

/-- `Stmt.write`, with a writer that refuses to leave the outermost level. -/
def Stmt.write? : Stmt → Writer → Option Writer
  | .bind name isMutable type value, w => do
    let text ← value.text? w.level
    return w.line ("let " ++ (if isMutable then "mut " else "") ++ Identifier.variableName name ++
      typeAnnotation type ++ " = " ++ text ++ ";")
  | .assign target value, w => do
    let text ← value.text? w.level
    return w.line (Identifier.variableName target ++ " = " ++ text ++ ";")
  | .eval value, w => do return w.line ((← value.text? w.level) ++ ";")
  | .ifThen test body, w => do
    let text ← test.text? w.level
    w.nested? ("if " ++ text ++ " \x7b") (Stmt.writeAll? body) "\x7d"
  | .ifElse test body alternative, w => do
    let text ← test.text? w.level
    let upper ← w.nested? ("if " ++ text ++ " \x7b") (Stmt.writeAll? body) "\x7d else \x7b"
    let written ← Stmt.writeAll? alternative upper.indent
    let back ← written.dedent?
    return back.line "\x7d"
  | .ifLet variant binding value body, w => do
    let text ← value.text? w.level
    w.nested? ("if let " ++ variant ++ parens (Identifier.variableName binding) ++ " = " ++
      text ++ " \x7b") (Stmt.writeAll? body) "\x7d"
  | .forEach binding items body, w => do
    let text ← items.text? w.level
    w.nested? ("for " ++ Identifier.variableName binding ++ " in " ++ text ++ " \x7b")
      (Stmt.writeAll? body) "\x7d"
  | .hook name arguments, w => do
    let texts ← Expr.texts? w.level arguments
    return w.line ("self.hooks." ++ Identifier.functionName name ++ parens (commas texts) ++ ";")
  | .log level message arguments, w => do
    let texts ← Expr.texts? w.level arguments
    return w.line ("log::" ++ level.text ++ "!" ++
      parens (commas (Text.stringLiteral message :: texts)) ++ ";")
  | .ret value, w => do return w.line ("return " ++ (← value.text? w.level) ++ ";")
  | .tail value, w => do return w.line (← value.text? w.level)
  | .comment text, w => some (w.line ("// " ++ text))

/-- So for statements in sequence. -/
def Stmt.writeAll? : List Stmt → Writer → Option Writer
  | [], w => some w
  | s :: rest, w => do Stmt.writeAll? rest (← s.write? w)

end

/-! ### Nothing is refused -/

/-- Behind a body that is written one level deeper there is a level to leave. -/
theorem dedent?_writeAll (body : List Stmt) (w : Writer) :
    (Stmt.writeAll body w.indent).dedent? = some (Stmt.writeAll body w.indent).dedent := by
  apply Writer.dedent?_of_pos
  rw [(onlyAdds_writeAll body).level, Writer.level_indent]
  exact Nat.zero_lt_succ _

theorem nested?_writeAll {inside : Writer → Option Writer} {body : List Stmt}
    (h : ∀ w, inside w = some (Stmt.writeAll body w)) (w : Writer) (opening closing : String) :
    w.nested? opening inside closing = some (w.nested opening (Stmt.writeAll body) closing) := by
  rw [Writer.nested?, h, Option.bind_eq_bind, Option.bind_some, dedent?_writeAll]
  rfl

mutual

theorem Expr.text?_eq (level : Nat) : (e : Expr) → e.text? level = some (e.text level)
  | .raw _ | .ident _ | .str _ => by rw [Expr.text?, Expr.text]
  | .call _ arguments | .format _ arguments | .tuple arguments => by
    rw [Expr.text?, Expr.text, Expr.texts?_eq level arguments]
    rfl
  | .method receiver _ arguments => by
    rw [Expr.text?, Expr.text, receiver.text?_eq level, Expr.texts?_eq level arguments]
    rfl
  | .await operand | .attempt operand | .negate operand | .borrow operand | .invoke operand
  | .closure _ _ operand => by
    rw [Expr.text?, Expr.text, operand.text?_eq level]
    rfl
  | .block _ body => by
    rw [Expr.text?, Expr.text, Stmt.writeAll?_eq body]
    rfl
  | .record _ fields => by
    rw [Expr.text?, Expr.text, Expr.fieldTexts?_eq level fields]
    rfl

theorem Expr.texts?_eq (level : Nat) :
    (es : List Expr) → Expr.texts? level es = some (Expr.texts level es)
  | [] => by rw [Expr.texts?, Expr.texts]
  | e :: rest => by
    rw [Expr.texts?, Expr.texts, e.text?_eq level, Expr.texts?_eq level rest]
    rfl

theorem Expr.fieldTexts?_eq (level : Nat) : (fields : List (String × Expr)) →
    Expr.fieldTexts? level fields = some (Expr.fieldTexts level fields)
  | [] => by rw [Expr.fieldTexts?, Expr.fieldTexts]
  | (_, e) :: rest => by
    rw [Expr.fieldTexts?, Expr.fieldTexts, e.text?_eq level, Expr.fieldTexts?_eq level rest]
    rfl

theorem Stmt.write?_eq : (s : Stmt) → (w : Writer) → s.write? w = some (s.write w)
  | .bind _ _ _ value, w | .assign _ value, w | .eval value, w | .ret value, w
  | .tail value, w => by
    rw [Stmt.write?, Stmt.write, value.text?_eq w.level]
    rfl
  | .hook _ arguments, w | .log _ _ arguments, w => by
    rw [Stmt.write?, Stmt.write, Expr.texts?_eq w.level arguments]
    rfl
  | .ifThen value body, w | .ifLet _ _ value body, w | .forEach _ value body, w => by
    rw [Stmt.write?, Stmt.write, value.text?_eq w.level]
    exact nested?_writeAll (Stmt.writeAll?_eq body) w _ _
  | .ifElse test body alternative, w => by
    rw [Stmt.write?, Stmt.write, test.text?_eq w.level]
    simp only [Option.bind_eq_bind, Option.bind_some, nested?_writeAll (Stmt.writeAll?_eq body),
      Stmt.writeAll?_eq alternative, dedent?_writeAll]
    rfl
  | .comment _, w => by rw [Stmt.write?, Stmt.write]

/-- **No writer is ever to leave the outermost level**: strict rendering comes to the same. -/
theorem Stmt.writeAll?_eq :
    (body : List Stmt) → (w : Writer) → Stmt.writeAll? body w = some (Stmt.writeAll body w)
  | [], w => by rw [Stmt.writeAll?, Stmt.writeAll]
  | s :: rest, w => by
    rw [Stmt.writeAll?, Stmt.writeAll, s.write?_eq w]
    exact Stmt.writeAll?_eq rest (s.write w)

end

end Code
end ClientSynth
