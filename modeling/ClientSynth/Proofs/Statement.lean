import ClientSynth.Code

/-! # The statements of a piece of code

Every statement of a block, in the order in which they are written: those in the
bodies of other statements, and those in the blocks and closures inside of
expressions.  What is said of all of them holds wherever a statement stands. -/
namespace ClientSynth
namespace Code

mutual

/-- The statements inside an expression. -/
@[simp] def Expr.statements : Expr → List Stmt
  | .raw _ | .ident _ | .str _ => []
  | .call _ arguments | .format _ arguments | .tuple arguments => Expr.statementsAll arguments
  | .method receiver _ arguments => receiver.statements ++ Expr.statementsAll arguments
  | .await operand | .attempt operand | .negate operand | .borrow operand | .invoke operand =>
    operand.statements
  | .block _ body => Stmt.statementsAll body
  | .closure _ _ body => body.statements
  | .record _ fields => Expr.statementsFields fields

/-- The statements inside several expressions. -/
@[simp] def Expr.statementsAll : List Expr → List Stmt
  | [] => []
  | e :: rest => e.statements ++ Expr.statementsAll rest

/-- The statements inside the fields of a record. -/
@[simp] def Expr.statementsFields : List (String × Expr) → List Stmt
  | [] => []
  | (_, e) :: rest => e.statements ++ Expr.statementsFields rest

/-- A statement and the statements inside it. -/
@[simp] def Stmt.statements : Stmt → List Stmt
  | .bind name isMutable type value => .bind name isMutable type value :: value.statements
  | .assign target value => .assign target value :: value.statements
  | .eval value => .eval value :: value.statements
  | .ifThen test body => .ifThen test body :: test.statements ++ Stmt.statementsAll body
  | .ifElse test body alternative =>
    .ifElse test body alternative ::
      test.statements ++ Stmt.statementsAll body ++ Stmt.statementsAll alternative
  | .ifLet variant binding value body =>
    .ifLet variant binding value body :: value.statements ++ Stmt.statementsAll body
  | .forEach binding items body =>
    .forEach binding items body :: items.statements ++ Stmt.statementsAll body
  | .hook name arguments => .hook name arguments :: Expr.statementsAll arguments
  | .log level message arguments => .log level message arguments :: Expr.statementsAll arguments
  | .ret value => .ret value :: value.statements
  | .tail value => .tail value :: value.statements
  | .comment text => [.comment text]

/-- The statements of a block, and the statements inside them. -/
@[simp] def Stmt.statementsAll : List Stmt → List Stmt
  | [] => []
  | s :: rest => s.statements ++ Stmt.statementsAll rest

end

variable {α β : Type}

theorem Expr.statementsAll_eq_nil {es : List Expr} (h : ∀ e ∈ es, e.statements = []) :
    Expr.statementsAll es = [] := by
  induction es with
  | nil => rfl
  | cons e rest ih =>
      rw [Expr.statementsAll, h e List.mem_cons_self,
        ih (fun d hd => h d (List.mem_cons_of_mem e hd)), List.append_nil]

namespace Stmt

@[simp] theorem statementsAll_append (a b : Block) :
    Stmt.statementsAll (a ++ b) = Stmt.statementsAll a ++ Stmt.statementsAll b := by
  induction a with
  | nil => rfl
  | cons s rest ih =>
      rw [List.cons_append, Stmt.statementsAll, ih, Stmt.statementsAll, List.append_assoc]

/-! ### What a selection finds in a block -/

/-- What `select` finds among all statements of a block. -/
def collect (select : Stmt → Option α) (body : Block) : List α :=
  (Stmt.statementsAll body).filterMap select

section Collect
variable (select : Stmt → Option α)

@[simp] theorem collect_nil : collect select [] = [] := rfl

theorem collect_cons (s : Stmt) (rest : Block) :
    collect select (s :: rest) = s.statements.filterMap select ++ collect select rest := by
  rw [collect, Stmt.statementsAll, List.filterMap_append, collect]

@[simp] theorem collect_append (a b : Block) :
    collect select (a ++ b) = collect select a ++ collect select b := by
  rw [collect, statementsAll_append, List.filterMap_append, collect, collect]

theorem collect_flatMap (f : β → Block) (items : List β) :
    collect select (items.flatMap f) = items.flatMap (fun item => collect select (f item)) := by
  induction items with
  | nil => rfl
  | cons item rest ih => rw [List.flatMap_cons, collect_append, ih, List.flatMap_cons]

theorem mem_collect {select : Stmt → Option α} {body : Block} {a : α} :
    a ∈ collect select body ↔ ∃ s ∈ Stmt.statementsAll body, select s = some a :=
  List.mem_filterMap

end Collect

/-! ### Bindings and hook calls -/

/-- The name that a `let` binds. -/
@[simp] def boundName? : Stmt → Option String
  | .bind name _ _ _ => some name
  | _ => none

/-- The hook that a statement calls, with the number of its arguments. -/
@[simp] def hookCall? : Stmt → Option (String × Nat)
  | .hook name arguments => some (name, arguments.length)
  | _ => none

/-- A statement that binds no name and calls no hook itself. -/
@[simp] def isPlain : Stmt → Bool
  | .bind _ _ _ _ => false
  | .hook _ _ => false
  | _ => true

/-- No statement of the block binds a name or calls a hook. -/
def ArePlain (body : Block) : Prop := ∀ s ∈ Stmt.statementsAll body, s.isPlain = true

theorem arePlain_nil : ArePlain [] := fun _ h => nomatch h

theorem arePlain_append {a b : Block} (ha : ArePlain a) (hb : ArePlain b) : ArePlain (a ++ b) := by
  intro s hs
  rw [statementsAll_append] at hs
  exact (List.mem_append.mp hs).elim (ha s) (hb s)

theorem arePlain_flatMap {f : β → Block} {items : List β} (h : ∀ item ∈ items, ArePlain (f item)) :
    ArePlain (items.flatMap f) := by
  induction items with
  | nil => exact arePlain_nil
  | cons item rest ih =>
      exact arePlain_append (h item List.mem_cons_self)
        (ih (fun other hother => h other (List.mem_cons_of_mem item hother)))

/-- A selection that looks for bindings or hooks finds nothing in a plain block. -/
theorem ArePlain.collect_eq_nil {body : Block} (h : ArePlain body) {select : Stmt → Option α}
    (hselect : ∀ s, s.isPlain = true → select s = none) : collect select body = [] :=
  List.filterMap_eq_nil_iff.mpr (fun s hs => hselect s (h s hs))

theorem boundName?_of_isPlain (s : Stmt) (h : s.isPlain = true) : s.boundName? = none := by
  cases s <;> first | rfl | cases h

theorem hookCall?_of_isPlain (s : Stmt) (h : s.isPlain = true) : s.hookCall? = none := by
  cases s <;> first | rfl | cases h

end Stmt

end Code
end ClientSynth
