import ClientSynth.Proofs.CodeEquations

/-! # Expressions that keep their shape

The text of an expression puts parentheses around what a method is called on, and around
nothing else that an operator applies to.  So an expression can be told from its text exactly
if it does without other parentheses (`Expr.keepsShape`). -/
namespace ClientSynth
namespace Code

/-! ### Names as they are written -/

mutual

/-- The expression with its names as they are written. -/
def Expr.spelled : Expr → Expr
  | .raw code => .raw code
  | .ident name => .raw (Identifier.variableName name)
  | .str value => .str value
  | .call callee arguments => .call callee (Expr.spelledEach arguments)
  | .method receiver name arguments =>
    .method receiver.spelled (Identifier.functionName name) (Expr.spelledEach arguments)
  | .format template arguments => .format template (Expr.spelledEach arguments)
  | .await operand => .await operand.spelled
  | .attempt operand => .attempt operand.spelled
  | .negate operand => .negate operand.spelled
  | .borrow operand => .borrow operand.spelled
  | .block isAsync body => .block isAsync (Stmt.spelledAll body)
  | .tuple items => .tuple (Expr.spelledEach items)
  | .closure params result body =>
    .closure (params.map Identifier.variableName) result body.spelled
  | .invoke callee => .invoke callee.spelled
  | .record name fields => .record name (Expr.spelledFields fields)

/-- Each of several expressions, spelled. -/
def Expr.spelledEach : List Expr → List Expr
  | [] => []
  | e :: rest => e.spelled :: Expr.spelledEach rest

/-- The fields of a struct literal, spelled. -/
def Expr.spelledFields : List (String × Expr) → List (String × Expr)
  | [] => []
  | (name, e) :: rest => (Identifier.variableName name, e.spelled) :: Expr.spelledFields rest

/-- The statement with its names as they are written. -/
def Stmt.spelled : Stmt → Stmt
  | .bind name isMutable type value =>
    .bind (Identifier.variableName name) isMutable type value.spelled
  | .assign target value => .assign (Identifier.variableName target) value.spelled
  | .eval value => .eval value.spelled
  | .ifThen test body => .ifThen test.spelled (Stmt.spelledAll body)
  | .ifElse test body alternative =>
    .ifElse test.spelled (Stmt.spelledAll body) (Stmt.spelledAll alternative)
  | .ifLet variant binding value body =>
    .ifLet variant (Identifier.variableName binding) value.spelled (Stmt.spelledAll body)
  | .forEach binding items body =>
    .forEach (Identifier.variableName binding) items.spelled (Stmt.spelledAll body)
  | .hook name arguments => .hook (Identifier.functionName name) (Expr.spelledEach arguments)
  | .log level message arguments => .log level message (Expr.spelledEach arguments)
  | .ret value => .ret value.spelled
  | .tail value => .tail value.spelled
  | .comment text => .comment text

/-- Statements in sequence, spelled. -/
def Stmt.spelledAll : List Stmt → List Stmt
  | [] => []
  | s :: rest => s.spelled :: Stmt.spelledAll rest

end

theorem Expr.treesEach_eq_map (es : List Expr) : Expr.treesEach es = es.map Expr.trees := by
  induction es with
  | nil => rw [Expr.treesEach, List.map_nil]
  | cons e es ih => rw [Expr.treesEach, ih, List.map_cons]

theorem Expr.spelledEach_eq_map (es : List Expr) :
    Expr.spelledEach es = es.map Expr.spelled := by
  induction es with
  | nil => rw [Expr.spelledEach, List.map_nil]
  | cons e es ih => rw [Expr.spelledEach, ih, List.map_cons]

/-! ### What operators apply to -/

/-- Expressions that begin with an operator, or with the parameters of a closure, and go on
for as long as they can. -/
def Expr.isOpen : Expr → Bool
  | .negate _ => true
  | .borrow _ => true
  | .closure _ none _ => true
  | _ => false

/-- A block that is not asynchronous. -/
def Expr.isBlock : Expr → Bool
  | .block false _ => true
  | _ => false

/-- Whether a struct literal stands in the expression outside of all brackets. -/
def Expr.exposesRecord : Expr → Bool
  | .record _ _ => true
  | .method receiver _ _ => !receiver.needsParens && receiver.exposesRecord
  | .await operand => operand.exposesRecord
  | .attempt operand => operand.exposesRecord
  | .negate operand => operand.exposesRecord
  | .borrow operand => operand.exposesRecord
  | .closure _ none body => body.exposesRecord
  | _ => false

/-- Whether a statement is a comment. -/
def Stmt.isComment : Stmt → Bool
  | .comment _ => true
  | _ => false

/-- Whether other statements may follow a statement: the value of a block is its last part,
comments apart, unless it is a block itself. -/
def Stmt.mayPrecede (rest : List Stmt) : Stmt → Bool
  | .tail value => value.isBlock || rest.all Stmt.isComment
  | _ => true

mutual

/-- Whether the expression needs no parentheses but those that its text has: `.await` and `?`
are applied to nothing that begins with an operator, no tuple has a single item, what a
closure computes is a block where it states its result, and so on inside. -/
def Expr.keepsShape : Expr → Bool
  | .raw _ => true
  | .ident _ => true
  | .str _ => true
  | .call _ arguments => Expr.keepShape arguments
  | .method receiver _ arguments => receiver.keepsShape && Expr.keepShape arguments
  | .format _ arguments => Expr.keepShape arguments
  | .await operand => !operand.isOpen && operand.keepsShape
  | .attempt operand => !operand.isOpen && operand.keepsShape
  | .negate operand => operand.keepsShape
  | .borrow operand => operand.keepsShape
  | .block _ body => Stmt.keepShape body
  | .tuple items => items.length != 1 && Expr.keepShape items
  | .closure _ result body => (result.isNone || body.isBlock) && body.keepsShape
  | .invoke callee => callee.keepsShape
  | .record _ fields => Expr.fieldsKeepShape fields

/-- So it is for each of several expressions. -/
def Expr.keepShape : List Expr → Bool
  | [] => true
  | e :: rest => e.keepsShape && Expr.keepShape rest

/-- So it is for the fields of a struct literal. -/
def Expr.fieldsKeepShape : List (String × Expr) → Bool
  | [] => true
  | (_, e) :: rest => e.keepsShape && Expr.fieldsKeepShape rest

/-- So it is for a statement, whose head has no struct literal in front of a block. -/
def Stmt.keepsShape : Stmt → Bool
  | .bind _ _ _ value => value.keepsShape
  | .assign _ value => value.keepsShape
  | .eval value => value.keepsShape
  | .ifThen test body => !test.exposesRecord && test.keepsShape && Stmt.keepShape body
  | .ifElse test body alternative =>
    !test.exposesRecord && test.keepsShape && Stmt.keepShape body && Stmt.keepShape alternative
  | .ifLet _ _ value body => !value.exposesRecord && value.keepsShape && Stmt.keepShape body
  | .forEach _ items body => !items.exposesRecord && items.keepsShape && Stmt.keepShape body
  | .hook _ arguments => Expr.keepShape arguments
  | .log _ _ arguments => Expr.keepShape arguments
  | .ret value => value.keepsShape
  | .tail value => value.keepsShape
  | .comment _ => true

/-- So it is for statements in sequence, where each may precede the others. -/
def Stmt.keepShape : List Stmt → Bool
  | [] => true
  | s :: rest => s.keepsShape && s.mayPrecede rest && Stmt.keepShape rest

end

theorem Expr.keepShape_eq_all (es : List Expr) :
    Expr.keepShape es = es.all Expr.keepsShape := by
  induction es with
  | nil => rw [Expr.keepShape, List.all_nil]
  | cons e es ih => rw [Expr.keepShape, ih, List.all_cons]

/-- Whether the first operator that is read applies to all of the expression, and to whatever
operator stands behind it. -/
def Expr.leadsOpen : Expr → Bool
  | .method receiver _ _ => !receiver.needsParens && receiver.leadsOpen
  | .await operand => operand.leadsOpen
  | .attempt operand => operand.leadsOpen
  | e => e.isOpen

theorem Expr.needsParens_of_isOpen {e : Expr} (h : e.isOpen = true) : e.needsParens = true := by
  cases e <;> first | rfl | cases h

/-- In an expression that keeps its shape, only one that begins with an operator leads
open. -/
theorem Expr.isOpen_of_leadsOpen : (e : Expr) → e.keepsShape = true → e.leadsOpen = true →
    e.isOpen = true
  | .method receiver _ _, hkeeps, hopen => by
    rw [Expr.keepsShape, Bool.and_eq_true] at hkeeps
    rw [Expr.leadsOpen, Bool.and_eq_true, Bool.not_eq_true'] at hopen
    have hneeds := needsParens_of_isOpen (isOpen_of_leadsOpen receiver hkeeps.1 hopen.2)
    rw [hopen.1] at hneeds
    cases hneeds
  | .await operand, hkeeps, hopen | .attempt operand, hkeeps, hopen => by
    rw [Expr.keepsShape, Bool.and_eq_true, Bool.not_eq_true'] at hkeeps
    rw [Expr.leadsOpen] at hopen
    have hoperand := isOpen_of_leadsOpen operand hkeeps.2 hopen
    rw [hkeeps.1] at hoperand
    cases hoperand
  | .negate _, _, hopen | .borrow _, _, hopen | .closure _ _ _, _, hopen | .raw _, _, hopen
  | .ident _, _, hopen | .str _, _, hopen | .call _ _, _, hopen | .format _ _, _, hopen
  | .block _ _, _, hopen | .tuple _, _, hopen | .invoke _, _, hopen | .record _ _, _, hopen => by
    rwa [Expr.leadsOpen] at hopen
    all_goals nofun

end Code
end ClientSynth
