import Mathlib.Data.List.Forall2
import ClientSynth.Layer.Wrap
import ClientSynth.Proofs.Statement
import ClientSynth.Proofs.WrapMethod

/-! # What a wrap method does

A wrap method talks to two things outside, the token manager and the client.  Its
parameters, the tokens it acquires and the arguments it passes on are each made from
the client method by a function of their own.  Here they are read off the generated
code and put beside the client method's parameters: every token is acquired once and
in front of the call, and every position of the call is filled, by the wrap method's
own parameter or by the token acquired for it.

The reading comes twice.  The steps of a body are the calls that it makes at the head
of a statement, with the name that the result gets.  The outside calls are all calls,
however deep in an expression, in the order of evaluation.  That both are the same
says that the steps leave out nothing. -/
namespace ClientSynth
namespace Layer

open Contract Code Request

/-! ## Reading code -/

/-- A call of a method on something outside of a body. -/
structure OutsideCall where
  target : String
  method : String
  arguments : List Expr

/-- A call, the name that its result is bound to, and whether it is waited for. -/
structure Step where
  result : Option String
  call : OutsideCall
  isAwaited : Bool

/-- The call that a method call is, if it is one on something outside. -/
@[simp] def outsideCall? (target : Expr) (method : String) (arguments : List Expr) :
    Option OutsideCall :=
  match target with
  | .raw code => some ⟨code, method, arguments⟩
  | _ => none

/-- The step that is taken for the value of an expression. -/
@[simp] def stepFor (result : Option String) : Expr → Option Step
  | .await (.method target method arguments) =>
    (outsideCall? target method arguments).map (fun call => ⟨result, call, true⟩)
  | .method target method arguments =>
    (outsideCall? target method arguments).map (fun call => ⟨result, call, false⟩)
  | _ => none

/-- The step at the head of a statement: a value that is bound unless it is an error, or
the value of a block. -/
@[simp] def step? : Stmt → Option Step
  | .bind name _ _ (.attempt value) => stepFor (some name) value
  | .tail value => stepFor none value
  | _ => none

/-- The steps of a body, in order. -/
def steps (body : Block) : List Step := Stmt.collect step? body

mutual

/-- The outside calls of an expression, in the order of evaluation. -/
@[simp] def exprCalls : Expr → List OutsideCall
  | .raw _ | .ident _ | .str _ => []
  | .call _ arguments | .format _ arguments | .tuple arguments => exprsCalls arguments
  | .method receiver name arguments =>
    exprCalls receiver ++ exprsCalls arguments ++ (outsideCall? receiver name arguments).toList
  | .await operand | .attempt operand | .negate operand | .borrow operand | .invoke operand =>
    exprCalls operand
  | .block _ body => outsideCalls body
  | .closure _ _ body => exprCalls body
  | .record _ fields => fieldCalls fields

/-- The outside calls of several expressions. -/
@[simp] def exprsCalls : List Expr → List OutsideCall
  | [] => []
  | e :: rest => exprCalls e ++ exprsCalls rest

/-- The outside calls of the fields of a record. -/
@[simp] def fieldCalls : List (String × Expr) → List OutsideCall
  | [] => []
  | (_, e) :: rest => exprCalls e ++ fieldCalls rest

/-- The outside calls of a statement. -/
@[simp] def stmtCalls : Stmt → List OutsideCall
  | .bind _ _ _ value | .assign _ value | .eval value | .ret value | .tail value => exprCalls value
  | .ifThen test body => exprCalls test ++ outsideCalls body
  | .ifElse test body alternative =>
    exprCalls test ++ outsideCalls body ++ outsideCalls alternative
  | .ifLet _ _ value body => exprCalls value ++ outsideCalls body
  | .forEach _ items body => exprCalls items ++ outsideCalls body
  | .hook _ arguments | .log _ _ arguments => exprsCalls arguments
  | .comment _ => []

/-- The outside calls of a block. -/
@[simp] def outsideCalls : Block → List OutsideCall
  | [] => []
  | s :: rest => stmtCalls s ++ outsideCalls rest

end

@[simp] theorem outsideCalls_append (a b : Block) :
    outsideCalls (a ++ b) = outsideCalls a ++ outsideCalls b := by
  induction a with
  | nil => rfl
  | cons s rest ih =>
      rw [List.cons_append, outsideCalls, ih, outsideCalls, List.append_assoc]

theorem exprsCalls_eq_nil {es : List Expr} (h : ∀ e ∈ es, exprCalls e = []) :
    exprsCalls es = [] := by
  induction es with
  | nil => rfl
  | cons e rest ih =>
      rw [exprsCalls, h e List.mem_cons_self, ih (fun d hd => h d (List.mem_cons_of_mem e hd)),
        List.append_nil]

/-! ## Wrap methods beside client methods -/

/-- The step that acquires a token: the getter is that of the token's own scope, or of
`chosen` where it takes either. -/
def Acquires (chosen : Scope) (isAsync : Bool) (p : Parameter) (step : Step) : Prop :=
  ∃ scope header, p.role = .token scope header ∧
    step = ⟨some p.name,
      ⟨"self.token_manage", (if scope = .both then chosen else scope).getter isAsync, []⟩, isAsync⟩

/-- A getter tells which of the concrete scopes it is for, and whether it is waited for. -/
theorem getter_inj {scope other : Scope} {isAsync isAsync' : Bool} (hscope : scope ≠ .both)
    (hother : other ≠ .both) (h : scope.getter isAsync = other.getter isAsync') :
    scope = other ∧ isAsync = isAsync' := by
  cases scope <;> cases other <;> cases isAsync <;> cases isAsync' <;> simp_all [Scope.getter]

/-- A token that takes either scope is acquired by a step of its own for each. -/
theorem Acquires.chosen_eq {chosen other : Scope} {isAsync isAsync' : Bool} {p : Parameter}
    {step : Step} (hboth : p.role.isBothToken = true) (hchosen : chosen ≠ .both)
    (hother : other ≠ .both) (h : Acquires chosen isAsync p step)
    (h' : Acquires other isAsync' p step) : chosen = other ∧ isAsync = isAsync' := by
  obtain ⟨scope, header, hrole, hstep⟩ := h
  obtain ⟨scope', header', hrole', rfl⟩ := h'
  obtain rfl : scope = .both := by
    rw [hrole] at hboth
    cases scope <;> first | rfl | cases hboth
  obtain rfl : scope' = .both := by
    rw [hrole] at hrole'
    cases hrole'
    rfl
  have hmethod := congrArg (fun s => s.call.method) hstep
  exact (getter_inj hother hchosen hmethod).imp Eq.symm Eq.symm

/-- What a wrap method passes on for a parameter of its client method. -/
inductive Passes (w : WrapMethod) : Parameter → Expr → Prop where
  /-- Its own parameter. -/
  | parameter {p : Parameter} (h : p ∈ w.parameters) : Passes w p (.ident p.name)
  | owned {p : Parameter} (h : p ∈ w.tokens.map TokenSlot.parameter)
      (hnullable : p.type.nullable = false) (hborrowed : p.type.isBorrowed = false) :
      Passes w p (.ident p.name)
  | borrowed {p : Parameter} (h : p ∈ w.tokens.map TokenSlot.parameter)
      (hnullable : p.type.nullable = false) (hborrowed : p.type.isBorrowed = true) :
      Passes w p (.borrow (.ident p.name))
  | someOwned {p : Parameter} (h : p ∈ w.tokens.map TokenSlot.parameter)
      (hnullable : p.type.nullable = true) (hborrowed : p.type.isBorrowed = false) :
      Passes w p (.call "Some" [.ident p.name])
  | someBorrowed {p : Parameter} (h : p ∈ w.tokens.map TokenSlot.parameter)
      (hnullable : p.type.nullable = true) (hborrowed : p.type.isBorrowed = true) :
      Passes w p (.call "Some" [.method (.ident p.name) "as_str" []])

/-- A wrap method stands in for a client method, with tokens of the scope `chosen` where
either will do. -/
structure StandsFor (w : WrapMethod) (m : Method) (chosen : Scope) : Prop where
  /-- Its parameters are those of the client method that are no tokens. -/
  signature : (wrapDeclaration w).params =
    (m.parameters.filter (fun p => !p.role.isToken)).map (fun p => (p.name, p.type.raw))
  /-- It acquires every token, and then makes the call. -/
  steps : ∃ acquired arguments,
    steps (forwardBody w) =
        acquired ++ [⟨none, ⟨"self.api", m.name, arguments⟩, m.returns.isAsync⟩] ∧
      List.Forall₂ (Acquires chosen m.returns.isAsync) m.tokens acquired ∧
      List.Forall₂ (Passes w) m.parameters arguments
  /-- It calls nothing else. -/
  complete : outsideCalls (forwardBody w) = (Layer.steps (forwardBody w)).map Step.call

/-! ### The code of a wrap method -/

section Body
variable (w : WrapMethod)

/-- The step that acquires a slot's token. -/
def acquisition (isAsync : Bool) (slot : TokenSlot) : Step :=
  ⟨some slot.parameter.name, ⟨"self.token_manage", slot.scope.getter isAsync, []⟩, isAsync⟩

/-- The call of the client method. -/
def forwardStep (w : WrapMethod) : Step :=
  ⟨none, ⟨"self.api", w.target.name, w.target.parameters.map forwardedArgument⟩,
    w.target.returns.isAsync⟩

theorem statements_forwardedArgument (p : Parameter) : (forwardedArgument p).statements = [] := by
  unfold forwardedArgument tokenArgument
  split
  · dsimp only
    split <;> simp [Expr.method0]
  · rfl

theorem exprCalls_forwardedArgument (p : Parameter) : exprCalls (forwardedArgument p) = [] := by
  unfold forwardedArgument tokenArgument
  split
  · dsimp only
    split <;> simp [Expr.method0]
  · rfl

theorem steps_acquire (slot : TokenSlot) :
    steps (acquire w slot) = [acquisition w.target.returns.isAsync slot] := by
  unfold acquire
  cases w.target.returns.isAsync <;>
    simp [steps, Stmt.collect, Stmt.bindTo, Expr.method0, acquisition]

theorem outsideCalls_acquire (slot : TokenSlot) :
    outsideCalls (acquire w slot) = [(acquisition w.target.returns.isAsync slot).call] := by
  unfold acquire
  cases w.target.returns.isAsync <;> simp [Stmt.bindTo, Expr.method0, acquisition]

theorem steps_forwardBlock : steps (forwardBlock w) =
    w.tokens.map (acquisition w.target.returns.isAsync) ++ [forwardStep w] := by
  have harguments : Expr.statementsAll (w.target.parameters.map forwardedArgument) = [] :=
    Expr.statementsAll_eq_nil (List.forall_mem_map.mpr (fun p _ => statements_forwardedArgument p))
  have htokens : w.tokens.flatMap (fun slot => steps (acquire w slot)) =
      w.tokens.map (acquisition w.target.returns.isAsync) := by
    simp only [steps_acquire, List.map_eq_flatMap]
  unfold forwardBlock
  dsimp only
  rw [steps, Stmt.collect_append, Stmt.collect_flatMap]
  refine congrArg₂ (· ++ ·) htokens ?_
  unfold forwardStep
  cases w.target.returns.isAsync <;> simp [Stmt.collect, harguments]

theorem outsideCalls_forwardBlock : outsideCalls (forwardBlock w) =
    (w.tokens.map (acquisition w.target.returns.isAsync) ++ [forwardStep w]).map Step.call := by
  have harguments : exprsCalls (w.target.parameters.map forwardedArgument) = [] :=
    exprsCalls_eq_nil (List.forall_mem_map.mpr (fun p _ => exprCalls_forwardedArgument p))
  have htokens : outsideCalls (w.tokens.flatMap (acquire w)) =
      (w.tokens.map (acquisition w.target.returns.isAsync)).map Step.call := by
    induction w.tokens with
    | nil => rfl
    | cons slot rest ih =>
        rw [List.flatMap_cons, outsideCalls_append, ih, outsideCalls_acquire]
        rfl
  unfold forwardBlock
  dsimp only
  rw [outsideCalls_append, htokens, List.map_append]
  unfold forwardStep
  cases w.target.returns.isAsync <;> simp [harguments]

/-- The block that forwards is all that a body does outside. -/
theorem steps_forwardBody : steps (forwardBody w) = steps (forwardBlock w) := by
  unfold forwardBody guarded
  cases w.target.returns.isAsync <;>
    simp [steps, Stmt.collect, Stmt.bindTyped, List.filterMap_cons]

theorem outsideCalls_forwardBody :
    outsideCalls (forwardBody w) = outsideCalls (forwardBlock w) := by
  unfold forwardBody guarded
  cases w.target.returns.isAsync <;> simp [Stmt.bindTyped]

end Body

/-! ### Variants -/

section Variant
variable (m : Method) (name : String) (chosen : Scope)

theorem acquires_slotFor {p : Parameter} (hp : p ∈ m.tokens) :
    Acquires chosen m.returns.isAsync p (acquisition m.returns.isAsync (slotFor chosen p)) := by
  obtain ⟨scope, header, hrole⟩ := isToken_of_mem_tokens hp
  refine ⟨scope, header, hrole, ?_⟩
  cases scope <;> simp [acquisition, slotFor, concreteScope, hrole]

theorem passes_forwardedArgument {p : Parameter} (hp : p ∈ m.parameters) :
    Passes (variant m name chosen) p (forwardedArgument p) := by
  have hslots : (variant m name chosen).tokens.map TokenSlot.parameter = m.tokens := by
    simp [variant, slotFor, Function.comp_def]
  unfold forwardedArgument
  split
  · next htoken =>
    have hslot : p ∈ (variant m name chosen).tokens.map TokenSlot.parameter := by
      rw [hslots]
      exact List.mem_filter.mpr ⟨hp, htoken⟩
    -- The form of the argument follows the token's type, and the relation has a case for each.
    unfold tokenArgument
    dsimp only
    split
    · next hnullable hborrowed => exact .owned hslot hnullable hborrowed
    · next hnullable hborrowed => exact .borrowed hslot hnullable hborrowed
    · next hnullable hborrowed => exact .someOwned hslot hnullable hborrowed
    · next hnullable hborrowed => exact .someBorrowed hslot hnullable hborrowed
  · next htoken => exact .parameter (List.mem_filter.mpr ⟨hp, by simp [htoken]⟩)

/-- A variant stands for its method, whatever it is called. -/
theorem variant_standsFor : StandsFor (variant m name chosen) m chosen where
  signature := rfl
  steps := by
    refine ⟨_, _, (steps_forwardBody _).trans (steps_forwardBlock _), ?_, ?_⟩
    · exact List.forall₂_map_right_iff.mpr (List.forall₂_map_right_iff.mpr
        (List.forall₂_same.mpr (fun p hp => acquires_slotFor m chosen hp)))
    · exact List.forall₂_map_right_iff.mpr
        (List.forall₂_same.mpr (fun p hp => passes_forwardedArgument m name chosen hp))
  complete := by
    rw [outsideCalls_forwardBody, outsideCalls_forwardBlock, steps_forwardBody, steps_forwardBlock]

/-- The variants for two scopes differ in their names and in the slots of tokens that
take either. -/
theorem variant_user_eq (other : String) : variant m other .user =
    { variant m name .tenant with
      name := other
      tokens := (variant m name .tenant).tokens.map (fun slot =>
        if slot.parameter.role.isBothToken then { slot with scope := .user } else slot) } := by
  have hslots : m.tokens.map (slotFor .user) = (m.tokens.map (slotFor .tenant)).map (fun slot =>
      if slot.parameter.role.isBothToken then { slot with scope := .user } else slot) := by
    rw [List.map_map]
    refine List.map_congr_left (fun p hp => ?_)
    obtain ⟨scope, header, hrole⟩ := isToken_of_mem_tokens hp
    cases scope <;> simp [slotFor, concreteScope, Role.isBothToken, hrole]
  rw [variant, hslots]
  rfl

end Variant

/-- **The wrap methods of a method.**  Without a token of either scope there is one, which
has the method's own name; with one there are two, first for tenants and then for users,
which differ in their names and in the slots of such tokens.  Each stands for the method. -/
theorem expandMethod_standsFor (m : Method) :
    ((∀ p ∈ m.parameters, p.role.isBothToken = false) ∧
      ∃ w, expandMethod m = [w] ∧ w.name = m.name ∧ ∀ chosen, StandsFor w m chosen) ∨
    ((∃ p ∈ m.parameters, p.role.isBothToken = true) ∧
      ∃ tenant user, expandMethod m = [tenant, user] ∧
        tenant.name = Naming.withScope m.name "Tenant" ∧
        user.name = Naming.withScope m.name "User" ∧ tenant.name ≠ user.name ∧
        StandsFor tenant m .tenant ∧ StandsFor user m .user ∧
        user = { tenant with
          name := user.name
          tokens := tenant.tokens.map (fun slot =>
            if slot.parameter.role.isBothToken then { slot with scope := .user } else slot) }) := by
  cases hboth : hasBothToken m with
  | false =>
      refine Or.inl ⟨fun p hp => ?_, variant m m.name .tenant, ?_, rfl, fun chosen => ?_⟩
      · have hnone := mt hasBothToken_iff.mpr (by rw [hboth]; exact Bool.false_ne_true)
        exact Bool.eq_false_iff.mpr (fun h => hnone ⟨p, hp, h⟩)
      · exact expandMethod_of_no_bothToken hboth .tenant
      -- Without a token of either scope the choice of scope makes no difference.
      · have hsame : [variant m m.name .tenant] = [variant m m.name chosen] := by
          rw [← expandMethod_of_no_bothToken hboth, ← expandMethod_of_no_bothToken hboth]
        rw [List.singleton_inj.mp hsame]
        exact variant_standsFor m m.name chosen
  | true =>
      exact Or.inr ⟨hasBothToken_iff.mp hboth, _, _, expandMethod_of_hasBothToken hboth, rfl, rfl,
        Naming.withScope_tenant_ne_user m.name, variant_standsFor m _ .tenant,
        variant_standsFor m _ .user, variant_user_eq m _ _⟩

end Layer
end ClientSynth
