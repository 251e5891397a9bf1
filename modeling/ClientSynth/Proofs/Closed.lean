import ClientSynth.Code.Identifier
import ClientSynth.Proofs.Statement

/-! # Names in scope

Which names a piece of code may use where it stands, and which of them it may change.
A `let` binds its name for the rest of its block; the variables of a closure, a loop and
a match are bound in their own bodies, and none of them is mutable.  A name is in scope
by its spelling.  What it stands for is decided by how names are written, so it may be
changed only if the innermost binder that is written like it is mutable.

Closedness runs along a block with a scope that grows.  `Leads` states both at once,
what a scope has to offer for the block to be closed and what it offers afterwards, and
chains like a program logic: a block is closed if its parts lead from one to the next. -/
namespace ClientSynth
namespace Code

/-- A name that is bound, and whether it was declared mutable. -/
structure Binder where
  name : String
  isMutable : Bool

/-- The binders around a piece of code, the innermost first. -/
abbrev Binders := List Binder

/-- Names bound by anything but a `let`. -/
def fixed (names : List String) : Binders := names.map (fun name => ⟨name, false⟩)

/-- The name is bound. -/
def Binds (scope : Binders) (name : String) : Prop := ∃ b ∈ scope, b.name = name

/-- The innermost binder that is written like the name is mutable. -/
def MayChange (scope : Binders) (name : String) : Prop :=
  (scope.find? (fun b => Identifier.variableName b.name == Identifier.variableName name)).any
    Binder.isMutable = true

/-- Calling the method changes what it is called on. -/
@[simp] def IsMutation (method : String) : Prop := method = "push" ∨ method = "extend"

/-- An expression can be changed: any value that has no name, and a name if it is mutable. -/
@[simp] def Expr.CanChange (scope : Binders) : Expr → Prop
  | .ident name => MayChange scope name
  | _ => True

/-- The scope behind a statement. -/
@[simp] def Stmt.extend (scope : Binders) : Stmt → Binders
  | .bind name isMutable _ _ => ⟨name, isMutable⟩ :: scope
  | _ => scope

mutual

/-- Every name of an expression is in scope, and mutable where it is changed. -/
@[simp] def Expr.IsClosed (scope : Binders) : Expr → Prop
  | .raw _ | .str _ => True
  | .ident name => Binds scope name
  | .call _ arguments | .format _ arguments | .tuple arguments => Expr.AreClosed scope arguments
  | .method receiver name arguments =>
    (IsMutation name → receiver.CanChange scope) ∧ receiver.IsClosed scope ∧
      Expr.AreClosed scope arguments
  | .await operand | .attempt operand | .negate operand | .borrow operand | .invoke operand =>
    operand.IsClosed scope
  | .block _ body => Stmt.AreClosed scope body
  | .closure params _ body => body.IsClosed (fixed params ++ scope)
  | .record _ fields => Expr.AreFieldsClosed scope fields

/-- `Expr.IsClosed` for several expressions. -/
@[simp] def Expr.AreClosed (scope : Binders) : List Expr → Prop
  | [] => True
  | e :: rest => e.IsClosed scope ∧ Expr.AreClosed scope rest

/-- `Expr.IsClosed` for the fields of a record. -/
@[simp] def Expr.AreFieldsClosed (scope : Binders) : List (String × Expr) → Prop
  | [] => True
  | (_, e) :: rest => e.IsClosed scope ∧ Expr.AreFieldsClosed scope rest

/-- Every name of a statement is in scope, and mutable where it is changed. -/
@[simp] def Stmt.IsClosed (scope : Binders) : Stmt → Prop
  | .bind _ _ _ value => value.IsClosed scope
  | .assign target value =>
    Binds scope target ∧ MayChange scope target ∧ value.IsClosed scope
  | .eval value | .ret value | .tail value => value.IsClosed scope
  | .ifThen test body => test.IsClosed scope ∧ Stmt.AreClosed scope body
  | .ifElse test body alternative =>
    test.IsClosed scope ∧ Stmt.AreClosed scope body ∧ Stmt.AreClosed scope alternative
  | .ifLet _ binding value body =>
    value.IsClosed scope ∧ Stmt.AreClosed (⟨binding, false⟩ :: scope) body
  | .forEach binding items body =>
    items.IsClosed scope ∧ Stmt.AreClosed (⟨binding, false⟩ :: scope) body
  | .hook _ arguments | .log _ _ arguments => Expr.AreClosed scope arguments
  | .comment _ => True

/-- `Stmt.IsClosed` for a block, each statement in the scope behind those before it. -/
@[simp] def Stmt.AreClosed (scope : Binders) : List Stmt → Prop
  | [] => True
  | s :: rest => s.IsClosed scope ∧ Stmt.AreClosed (s.extend scope) rest

end

/-- The binders of a function's parameters. -/
def Function.scope (f : Function) : Binders := fixed (f.params.map Prod.fst)

/-- The body of a function uses its parameters and what it binds itself. -/
def Function.IsClosed (f : Function) : Prop :=
  ∀ body, f.body = some body → Stmt.AreClosed f.scope body

/-! ### Scopes -/

section Scope
variable {scope : Binders} {name : String}

@[simp] theorem binds_cons {b : Binder} :
    Binds (b :: scope) name ↔ b.name = name ∨ Binds scope name := by
  simp [Binds]

@[simp] theorem fixed_nil : fixed [] = [] := rfl

@[simp] theorem fixed_cons (names : List String) :
    fixed (name :: names) = ⟨name, false⟩ :: fixed names := rfl

theorem binds_fixed {names : List String} : Binds (fixed names) name ↔ name ∈ names := by
  constructor
  · rintro ⟨b, hb, rfl⟩
    obtain ⟨bound, hbound, rfl⟩ := List.mem_map.mp hb
    exact hbound
  · intro h
    exact ⟨_, List.mem_map_of_mem h, rfl⟩

theorem mayChange_cons_ne {other : String}
    (h : Identifier.variableName other ≠ Identifier.variableName name) (isMutable : Bool) :
    MayChange (⟨other, isMutable⟩ :: scope) name ↔ MayChange scope name := by
  rw [MayChange, List.find?_cons_of_neg (by simpa using h), MayChange]

@[simp] theorem mayChange_cons_self : MayChange (⟨name, true⟩ :: scope) name := by
  rw [MayChange, List.find?_cons_of_pos (by simp)]
  rfl

theorem Expr.areClosed_iff {es : List Expr} :
    Expr.AreClosed scope es ↔ ∀ e ∈ es, e.IsClosed scope := by
  induction es with
  | nil => simp
  | cons e rest ih => simp [ih]

/-- The scope behind a block. -/
def extended (scope : Binders) (body : Block) : Binders := body.foldl Stmt.extend scope

@[simp] theorem extended_nil : extended scope [] = scope := rfl

@[simp] theorem extended_cons (s : Stmt) (rest : Block) :
    extended scope (s :: rest) = extended (s.extend scope) rest := rfl

theorem extended_append (a b : Block) : extended scope (a ++ b) = extended (extended scope a) b :=
  List.foldl_append

theorem binds_extend {s : Stmt} :
    Binds (s.extend scope) name ↔ Binds scope name ∨ s.boundName? = some name := by
  cases s <;> simp [or_comm]

/-- A block adds the names that its own statements bind. -/
theorem binds_extended {body : Block} :
    Binds (extended scope body) name ↔
      Binds scope name ∨ ∃ s ∈ body, s.boundName? = some name := by
  -- The scope grows from statement to statement, so the induction is over all scopes.
  induction body generalizing scope with
  | nil => simp
  | cons s rest ih =>
      rw [extended_cons, ih, binds_extend, or_assoc]
      simp

theorem areClosed_append {a b : Block} :
    Stmt.AreClosed scope (a ++ b) ↔
      Stmt.AreClosed scope a ∧ Stmt.AreClosed (extended scope a) b := by
  induction a generalizing scope with
  | nil => simp
  | cons s rest ih =>
      rw [List.cons_append, Stmt.AreClosed, ih, Stmt.AreClosed, and_assoc]
      rfl

end Scope

/-! ### From scope to scope -/

/-- In every scope that meets `before` the block is closed, and the scope behind it
meets `after`. -/
def Leads (before : Binders → Prop) (body : Block) (after : Binders → Prop) : Prop :=
  ∀ scope, before scope → Stmt.AreClosed scope body ∧ after (extended scope body)

namespace Leads
variable {before between after : Binders → Prop}

theorem nil : Leads before [] before := fun _ h => ⟨trivial, h⟩

theorem append {a b : Block} (ha : Leads before a between) (hb : Leads between b after) :
    Leads before (a ++ b) after := by
  intro scope h
  obtain ⟨hclosed, hbetween⟩ := ha scope h
  obtain ⟨hclosed', hafter⟩ := hb _ hbetween
  exact ⟨areClosed_append.mpr ⟨hclosed, hclosed'⟩, extended_append a b ▸ hafter⟩

theorem weaken {body : Block} (h : Leads before body between)
    (hafter : ∀ scope, between scope → after scope) : Leads before body after :=
  fun scope hscope => (h scope hscope).imp id (hafter _)

theorem cons {s : Stmt} {rest : Block} (hs : Leads before [s] between)
    (hrest : Leads between rest after) : Leads before (s :: rest) after :=
  hs.append hrest

theorem flatMap {α : Type} {f : α → Block} {items : List α}
    (h : ∀ item ∈ items, Leads before (f item) before) : Leads before (items.flatMap f) before := by
  induction items with
  | nil => exact nil
  | cons item rest ih =>
      rw [List.flatMap_cons]
      exact (h item List.mem_cons_self).append
        (ih (fun other hother => h other (List.mem_cons_of_mem item hother)))

end Leads

end Code
end ClientSynth
