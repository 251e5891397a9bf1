import ClientSynth.Code.Identifier
import ClientSynth.Proofs.Value

/-! # What generated code does

The meaning of generated code as it is read: bindings, assignments, conditions,
loops and calls over an environment of variables.  Two names are the same
variable if they are written as the same identifier.  Statements that talk to the
outside — hooks, logging, returning — and the expressions that only these need
have no meaning here. -/
namespace ClientSynth
namespace Code

variable {Atom : Type}

/-- A variable in scope, under the identifier it is written as. -/
structure Slot (Atom : Type) where
  ident : String
  isMutable : Bool
  value : Value Atom

/-- The variables in scope, the innermost first. -/
abbrev Env (Atom : Type) := List (Slot Atom)

namespace Env

/-- The variable that an identifier refers to: the innermost of that name. -/
def slot? (env : Env Atom) (ident : String) : Option (Slot Atom) :=
  env.find? (fun s => s.ident == ident)

/-- `env` with a new value of the variable that an identifier refers to. -/
def put (env : Env Atom) (ident : String) (v : Value Atom) : Env Atom :=
  match env with
  | [] => []
  | s :: rest => if s.ident = ident then { s with value := v } :: rest else s :: put rest ident v

/-- The value of a variable. -/
def read (env : Env Atom) (ident : String) : Outcome (Value Atom) :=
  match env.slot? ident with
  | some s => .ok s.value
  | none => .error .stuck

/-- Change a variable, which has to be mutable. -/
def update (env : Env Atom) (ident : String) (change : Value Atom → Outcome (Value Atom)) :
    Outcome (Env Atom) :=
  match env.slot? ident with
  | some ⟨_, true, v⟩ => (change v).map (env.put ident)
  | _ => .error .stuck

/-- What is left of `inner` at the end of a scope that was entered in `outer`. -/
def leave (outer inner : Env Atom) : Env Atom := inner.drop (inner.length - outer.length)

section Lemmas
variable {env : Env Atom} {ident other : String} {s : Slot Atom} {v w : Value Atom}

theorem slot?_cons_self (h : s.ident = ident) : slot? (s :: env) ident = some s :=
  List.find?_cons_of_pos (beq_iff_eq.mpr h)

theorem slot?_cons_ne (h : s.ident ≠ ident) : slot? (s :: env) ident = env.slot? ident :=
  List.find?_cons_of_neg (fun hs => h (beq_iff_eq.mp hs))

theorem put_cons_self (h : s.ident = ident) :
    put (s :: env) ident v = { s with value := v } :: env := by rw [put, if_pos h]

theorem put_cons_ne (h : s.ident ≠ ident) : put (s :: env) ident v = s :: env.put ident v := by
  rw [put, if_neg h]

@[simp] theorem length_put : (env.put ident v).length = env.length := by
  induction env with
  | nil => rfl
  | cons t rest ih => unfold put; split <;> simp [ih]

@[simp] theorem put_put : (env.put ident v).put ident w = env.put ident w := by
  induction env with
  | nil => rfl
  | cons t rest ih =>
      by_cases h : t.ident = ident
      · rw [put_cons_self h, put_cons_self h]
        exact put_cons_self h
      · rw [put_cons_ne h, put_cons_ne h, put_cons_ne h, ih]

theorem slot?_put_self (h : env.slot? ident = some s) :
    (env.put ident v).slot? ident = some { s with value := v } := by
  induction env with
  | nil => cases h
  | cons t rest ih =>
      by_cases ht : t.ident = ident
      · rw [slot?_cons_self ht] at h
        rw [put_cons_self ht, slot?_cons_self (by exact ht), Option.some.inj h]
      · rw [slot?_cons_ne ht] at h
        rw [put_cons_ne ht, slot?_cons_ne ht, ih h]

theorem slot?_put_ne (h : ident ≠ other) : (env.put ident v).slot? other = env.slot? other := by
  induction env with
  | nil => rfl
  | cons t rest ih =>
      by_cases ht : t.ident = ident
      · rw [put_cons_self ht, slot?_cons_ne (by rw [ht]; exact h),
          slot?_cons_ne (by rw [ht]; exact h)]
      · rw [put_cons_ne ht]
        by_cases hto : t.ident = other
        · rw [slot?_cons_self hto, slot?_cons_self hto]
        · rw [slot?_cons_ne hto, slot?_cons_ne hto, ih]

theorem slot?_append {entered : Env Atom} (h : ∀ t ∈ entered, t.ident ≠ ident) :
    slot? (entered ++ env) ident = env.slot? ident := by
  induction entered with
  | nil => rfl
  | cons t rest ih =>
      rw [List.cons_append, slot?_cons_ne (h t List.mem_cons_self)]
      exact ih (fun u hu => h u (List.mem_cons_of_mem _ hu))

theorem put_append {entered : Env Atom} (h : ∀ t ∈ entered, t.ident ≠ ident) :
    put (entered ++ env) ident v = entered ++ env.put ident v := by
  induction entered with
  | nil => rfl
  | cons t rest ih =>
      rw [List.cons_append, put_cons_ne (h t List.mem_cons_self),
        ih (fun u hu => h u (List.mem_cons_of_mem _ hu)), List.cons_append]

/-- Putting back the value that is there changes nothing. -/
theorem put_same (h : env.slot? ident = some s) : env.put ident s.value = env := by
  induction env with
  | nil => rfl
  | cons t rest ih =>
      by_cases ht : t.ident = ident
      · rw [slot?_cons_self ht] at h
        cases h
        rw [put_cons_self ht]
      · rw [slot?_cons_ne ht] at h
        rw [put_cons_ne ht, ih h]

theorem read_eq (h : env.slot? ident = some s) : env.read ident = .ok s.value := by
  rw [read, h]

/-! A variable that has just been bound. -/

theorem slot?_bound {isMutable : Bool} :
    slot? (⟨ident, isMutable, v⟩ :: env) ident = some ⟨ident, isMutable, v⟩ := slot?_cons_self rfl

theorem read_bound {isMutable : Bool} : read (⟨ident, isMutable, v⟩ :: env) ident = .ok v :=
  read_eq slot?_bound

theorem read_bound_ne {isMutable : Bool} (h : ident ≠ other) :
    read (⟨ident, isMutable, v⟩ :: env) other = env.read other := by
  rw [read, slot?_cons_ne h, read]

theorem put_bound {isMutable : Bool} :
    put (⟨ident, isMutable, v⟩ :: env) ident w = ⟨ident, isMutable, w⟩ :: env := put_cons_self rfl

theorem update_eq (h : env.slot? ident = some ⟨ident, true, v⟩)
    (change : Value Atom → Outcome (Value Atom)) :
    env.update ident change = (change v).map (env.put ident) := by
  rw [update, h]

/-- A scope is left with the variables it was entered with. -/
theorem leave_append {outer new inner : Env Atom} (h : inner.length = outer.length) :
    outer.leave (new ++ inner) = inner := by
  rw [leave, List.length_append, h, Nat.add_sub_cancel, List.drop_left]

end Lemmas
end Env

mutual

/-- The meaning of an expression. -/
def Expr.eval (rt : Runtime Atom) (env : Env Atom) : Expr → Outcome (Meaning Atom)
  | .raw "reqwest::header::CONTENT_TYPE" => .ok (.value (.text "content-type"))
  | .ident name => (env.read (Identifier.variableName name)).map .value
  | .str s => .ok (.value (.text s))
  | .call callee arguments => do
    let args ← Expr.evalAll rt env arguments
    (rt.call callee args).map .value
  | .method receiver name arguments => do
    let v ← (← receiver.eval rt env).value?
    let args ← Expr.evalAll rt env arguments
    (rt.method name v args).map .value
  | .format template arguments => do
    let args ← Expr.evalAll rt env arguments
    let vs ← args.mapM Meaning.value?
    return .value (.text (rt.format template (vs.map Value.peel)))
  | .attempt operand => do
    match ← (← operand.eval rt env).value? with
    | .good v => return .value v
    | .failed e => .error (.raised e)
    | _ => .error .stuck
  | .negate operand => do
    match ← (← operand.eval rt env).value? with
    | .flag b => return .value (.flag !b)
    | _ => .error .stuck
  | .borrow operand => do
    let v ← (← operand.eval rt env).value?
    return .value (.ref v)
  | .tuple items => do
    match ← Expr.evalAll rt env items with
    | [.value (.text key), .value (.text value)] => return .value (.pair key value)
    | _ => .error .stuck
  | .closure [param] _ body =>
    .ok (.function (fun v => do
      (← body.eval rt (⟨Identifier.variableName param, false, v⟩ :: env)).value?))
  | _ => .error .stuck

/-- The meanings of several expressions, from left to right. -/
def Expr.evalAll (rt : Runtime Atom) (env : Env Atom) : List Expr → Outcome (List (Meaning Atom))
  | [] => .ok []
  | e :: rest => do
    let m ← e.eval rt env
    let ms ← Expr.evalAll rt env rest
    return m :: ms

end

/-- The value of an expression. -/
def Expr.value (rt : Runtime Atom) (env : Env Atom) (e : Expr) : Outcome (Value Atom) := do
  (← e.eval rt env).value?

mutual

/-- The variables after a statement. -/
def Stmt.run (rt : Runtime Atom) (env : Env Atom) : Stmt → Outcome (Env Atom)
  | .bind name isMutable _ value => do
    let v ← value.value rt env
    return ⟨Identifier.variableName name, isMutable, v⟩ :: env
  | .assign target value => do
    let v ← value.value rt env
    env.update (Identifier.variableName target) (fun _ => .ok v)
  | .eval (.method (.ident target) name arguments) => do
    let args ← Expr.evalAll rt env arguments
    env.update (Identifier.variableName target) (Value.grow name args)
  | .ifThen test body => do
    match ← test.value rt env with
    | .flag true => return env.leave (← Stmt.runAll rt env body)
    | .flag false => return env
    | _ => .error .stuck
  | .ifElse test body alternative => do
    match ← test.value rt env with
    | .flag true => return env.leave (← Stmt.runAll rt env body)
    | .flag false => return env.leave (← Stmt.runAll rt env alternative)
    | _ => .error .stuck
  | .ifLet "Some" binding value body => do
    match (← value.value rt env).option? with
    | some (some v) =>
      return env.leave (← Stmt.runAll rt (⟨Identifier.variableName binding, false, v⟩ :: env) body)
    | some none => return env
    | none => .error .stuck
  | .forEach binding items body => do
    match ← items.value rt env with
    | .list vs =>
      vs.foldlM (fun env v => do
        return env.leave
          (← Stmt.runAll rt (⟨Identifier.variableName binding, false, v⟩ :: env) body)) env
    | _ => .error .stuck
  | .comment _ => .ok env
  | _ => .error .stuck

/-- The variables after statements in sequence. -/
def Stmt.runAll (rt : Runtime Atom) (env : Env Atom) : List Stmt → Outcome (Env Atom)
  | [] => .ok env
  | s :: rest => do Stmt.runAll rt (← s.run rt env) rest

end

section Equations
variable {rt : Runtime Atom} {env : Env Atom} {e : Expr} {es : List Expr} {v w : Value Atom}
  {ms : List (Meaning Atom)} {name : String}

/-! ### Values of expressions -/

theorem Expr.eval_of_value (h : e.value rt env = .ok v) : e.eval rt env = .ok (.value v) := by
  replace h : (e.eval rt env >>= Meaning.value?) = .ok v := h
  cases hm : e.eval rt env with
  | error halt => rw [hm] at h; cases h
  | ok m =>
      rw [hm] at h
      cases m with
      | value u => cases h; rfl
      | function f => cases h

theorem Expr.value_ident (name : String) :
    (Expr.ident name).value rt env = env.read (Identifier.variableName name) := by
  show ((env.read (Identifier.variableName name)).map Meaning.value >>= Meaning.value?) = _
  cases env.read (Identifier.variableName name) <;> rfl

theorem Expr.value_str (s : String) : (Expr.str s).value rt env = .ok (.text s) := rfl

theorem Expr.value_contentType :
    (Expr.raw "reqwest::header::CONTENT_TYPE").value rt env = .ok (.text "content-type") := rfl

theorem Expr.evalAll_nil : Expr.evalAll rt env [] = .ok [] := rfl

theorem Expr.evalAll_cons (h : e.value rt env = .ok v) (hes : Expr.evalAll rt env es = .ok ms) :
    Expr.evalAll rt env (e :: es) = .ok (.value v :: ms) := by
  show (e.eval rt env >>= fun m => Expr.evalAll rt env es >>= fun ms => pure (m :: ms)) = _
  rw [Expr.eval_of_value h, hes]
  rfl

theorem Expr.evalAll_one (h : e.value rt env = .ok v) :
    Expr.evalAll rt env [e] = .ok [.value v] := Expr.evalAll_cons h Expr.evalAll_nil

theorem Expr.evalAll_lambda (param : String) (body : Expr) :
    Expr.evalAll rt env [.lambda [param] body] =
      .ok [.function (fun v =>
        body.value rt (⟨Identifier.variableName param, false, v⟩ :: env))] := rfl

theorem Expr.value_call (h : Expr.evalAll rt env es = .ok ms) :
    (Expr.call name es).value rt env = rt.call name ms := by
  show (Expr.evalAll rt env es >>= fun ms => (rt.call name ms).map Meaning.value) >>=
    Meaning.value? = _
  rw [h]
  show (rt.call name ms).map Meaning.value >>= Meaning.value? = _
  cases rt.call name ms <;> rfl

theorem Expr.value_method (h : e.value rt env = .ok v) (hes : Expr.evalAll rt env es = .ok ms) :
    (e.method name es).value rt env = rt.method name v ms := by
  show (e.eval rt env >>= fun m => m.value? >>= fun v => Expr.evalAll rt env es >>= fun ms =>
    (rt.method name v ms).map Meaning.value) >>= Meaning.value? = _
  rw [Expr.eval_of_value h, hes]
  show (rt.method name v ms).map Meaning.value >>= Meaning.value? = _
  cases rt.method name v ms <;> rfl

theorem Expr.value_method0 (h : e.value rt env = .ok v) :
    (e.method0 name).value rt env = rt.method name v [] :=
  Expr.value_method h Expr.evalAll_nil

theorem Expr.value_method_halted {halt : Halt} (h : e.value rt env = .ok v)
    (hes : Expr.evalAll rt env es = .error halt) :
    (e.method name es).value rt env = .error halt := by
  show (e.eval rt env >>= fun m => m.value? >>= fun v => Expr.evalAll rt env es >>= fun ms =>
    (rt.method name v ms).map Meaning.value) >>= Meaning.value? = _
  rw [Expr.eval_of_value h, hes]
  rfl

theorem Expr.value_format (h : e.value rt env = .ok v) (template : String) :
    (Expr.format template [e]).value rt env = .ok (.text (rt.format template [v.peel])) := by
  show (Expr.evalAll rt env [e] >>= fun ms => _) >>= Meaning.value? = _
  rw [Expr.evalAll_one h]
  rfl

theorem Expr.value_attempt_good (h : e.value rt env = .ok (.good v)) :
    (Expr.attempt e).value rt env = .ok v := by
  show (e.eval rt env >>= fun m => _) >>= Meaning.value? = _
  rw [Expr.eval_of_value h]
  rfl

/-- An error is returned from wherever it stands among arguments. -/
theorem Expr.evalAll_attempt_failed {error : String}
    (h : e.value rt env = .ok (.failed error)) :
    Expr.evalAll rt env (.attempt e :: es) = .error (.raised error) := by
  show (e.eval rt env >>= fun m => _) >>= (fun m => _) = _
  rw [Expr.eval_of_value h]
  rfl

theorem Expr.value_negate {b : Bool} (h : e.value rt env = .ok (.flag b)) :
    (Expr.negate e).value rt env = .ok (.flag !b) := by
  show (e.eval rt env >>= fun m => _) >>= Meaning.value? = _
  rw [Expr.eval_of_value h]
  rfl

theorem Expr.value_borrow (h : e.value rt env = .ok v) :
    (Expr.borrow e).value rt env = .ok (.ref v) := by
  show (e.eval rt env >>= fun m => _) >>= Meaning.value? = _
  rw [Expr.eval_of_value h]
  rfl

theorem Expr.value_tuple {key value : String} {e' : Expr} (h : e.value rt env = .ok (.text key))
    (h' : e'.value rt env = .ok (.text value)) :
    (Expr.tuple [e, e']).value rt env = .ok (.pair key value) := by
  show (Expr.evalAll rt env [e, e'] >>= fun ms => _) >>= Meaning.value? = _
  rw [Expr.evalAll_cons h (Expr.evalAll_one h')]
  rfl

/-! ### Effects of statements -/

theorem Stmt.runAll_nil : Stmt.runAll rt env [] = .ok env := rfl

theorem Stmt.runAll_cons (s : Stmt) (rest : Block) :
    Stmt.runAll rt env (s :: rest) = s.run rt env >>= fun env => Stmt.runAll rt env rest := rfl

theorem Stmt.runAll_one (s : Stmt) : Stmt.runAll rt env [s] = s.run rt env := by
  rw [Stmt.runAll_cons]
  cases s.run rt env <;> rfl

theorem Stmt.runAll_append (a b : Block) :
    Stmt.runAll rt env (a ++ b) = Stmt.runAll rt env a >>= fun env => Stmt.runAll rt env b := by
  induction a generalizing env with
  | nil => rfl
  | cons s rest ih =>
      rw [List.cons_append, Stmt.runAll_cons, Stmt.runAll_cons]
      cases s.run rt env with
      | error halt => rfl
      | ok env => exact ih

theorem Stmt.run_bind (h : e.value rt env = .ok v) (isMutable : Bool) (type : Option String) :
    (Stmt.bind name isMutable type e).run rt env =
      .ok (⟨Identifier.variableName name, isMutable, v⟩ :: env) := by
  show (e.value rt env >>= fun v => _) = _
  rw [h]
  rfl

theorem Stmt.run_assign (h : e.value rt env = .ok v)
    (hslot : env.slot? (Identifier.variableName name) =
      some ⟨Identifier.variableName name, true, w⟩) :
    (Stmt.assign name e).run rt env = .ok (env.put (Identifier.variableName name) v) := by
  show (e.value rt env >>= fun v => _) = _
  rw [h]
  exact Env.update_eq hslot _

theorem Stmt.run_assign_halted {halt : Halt} (h : e.value rt env = .error halt) :
    (Stmt.assign name e).run rt env = .error halt := by
  show (e.value rt env >>= fun v => _) = _
  rw [h]
  rfl

theorem Stmt.run_grow {target : String} (h : Expr.evalAll rt env es = .ok ms)
    (hslot : env.slot? (Identifier.variableName target) =
      some ⟨Identifier.variableName target, true, v⟩) :
    (Stmt.eval ((Expr.ident target).method name es)).run rt env =
      (v.grow name ms).map (env.put (Identifier.variableName target)) := by
  show (Expr.evalAll rt env es >>= fun ms => _) = _
  rw [h]
  exact Env.update_eq hslot _

theorem Stmt.run_grow_halted {target : String} {halt : Halt}
    (h : Expr.evalAll rt env es = .error halt) :
    (Stmt.eval ((Expr.ident target).method name es)).run rt env = .error halt := by
  show (Expr.evalAll rt env es >>= fun ms => _) = _
  rw [h]
  rfl

theorem Stmt.run_ifThen {b : Bool} (h : e.value rt env = .ok (.flag b)) (body : Block) :
    (Stmt.ifThen e body).run rt env =
      if b then (Stmt.runAll rt env body).map env.leave else .ok env := by
  show (e.value rt env >>= fun v => _) = _
  rw [h]
  cases b <;> rfl

theorem Stmt.run_ifSome (h : e.value rt env = .ok v) (binding : String) (body : Block) :
    (Stmt.ifLet "Some" binding e body).run rt env =
      match v.option? with
      | some (some content) =>
        (Stmt.runAll rt (⟨Identifier.variableName binding, false, content⟩ :: env) body).map
          env.leave
      | some none => .ok env
      | none => .error .stuck := by
  show (e.value rt env >>= fun v => _) = _
  rw [h]
  rfl

theorem Stmt.run_forEach {items : List (Value Atom)} (h : e.value rt env = .ok (.list items))
    (binding : String) (body : Block) :
    (Stmt.forEach binding e body).run rt env =
      items.foldlM (fun (env : Env Atom) item =>
        (Stmt.runAll rt (⟨Identifier.variableName binding, false, item⟩ :: env) body).map
          env.leave) env := by
  show (e.value rt env >>= fun v => _) = _
  rw [h]
  rfl

end Equations

end Code
end ClientSynth
