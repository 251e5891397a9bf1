import ClientSynth.Code
import ClientSynth.Code.Identifier
import Mathlib.Tactic.Common

/-! # What generated code may do

Generated code read as a program of which only the course is known: requests may
or may not be built, sent and answered, texts may or may not be read, and a call
of anything else may give any value.  A run is what happens in it, in order, and
the value it goes on with or leaves its function with.  No run is ever stuck: where
a value says nothing about which way to go, every way is taken. -/
namespace ClientSynth
namespace Code

/-- A value, as far as the course of a method depends on it. -/
inductive Datum where
  | unit
  | flag (b : Bool)
  | number (n : Nat)
  | text (s : String)
  /-- The default value of a type. -/
  | fallback
  /-- A response, with its status code. -/
  | response (code : Nat)
  | status (code : Nat)
  | record (name : String) (fields : List (String × Datum))
  | ok (value : Datum)
  | err (error : Datum)

/-- What happens in a run. -/
inductive Event where
  /-- A request has been built. -/
  | built
  /-- A request has been sent and answered with a status code. -/
  | answered (code : Nat)
  /-- The text of a response has been read. -/
  | read (text : String)
  /-- A hook has been called. -/
  | called (hook : String)
  deriving Repr, DecidableEq

/-- How a piece of code ends. -/
inductive Flow (α : Type) where
  | next (a : α)
  /-- The function or asynchronous block around it is left with this value. -/
  | left (v : Datum)

/-- The runs that a piece of code has. -/
def Traces (α : Type) : Type := List Event → Flow α → Prop

namespace Traces

variable {α β : Type}

/-- Nothing happens. -/
def silent (a : α) : Traces α := fun events flow => events = [] ∧ flow = .next a

/-- One piece of code after another. -/
def andThen (x : Traces α) (f : α → Traces β) : Traces β := fun events flow =>
  (∃ v, x events (.left v) ∧ flow = .left v) ∨
  ∃ first rest a, events = first ++ rest ∧ x first (.next a) ∧ f a rest flow

instance : Monad Traces where
  pure := silent
  bind := andThen

/-- Leave the function or asynchronous block. -/
def leave (v : Datum) : Traces α := fun events flow => events = [] ∧ flow = .left v

/-- Any value. -/
def any : Traces α := fun events flow => events = [] ∧ ∃ a, flow = .next a

/-- Leave with an error of any kind. -/
def fail : Traces α := fun events flow => events = [] ∧ ∃ e, flow = .left (.err e)

/-- An error of any kind. -/
def failing : Traces Datum := do return .err (← any)

/-- Let something happen. -/
def emit (event : Event) : Traces Unit := fun events flow => events = [event] ∧ flow = .next ()

/-- One or the other. -/
def either (x y : Traces α) : Traces α := fun events flow => x events flow ∨ y events flow

/-- A function or asynchronous block whose code is `x` may come to the value `v`. -/
def gives (x : Traces Datum) (events : List Event) (v : Datum) : Prop :=
  x events (.next v) ∨ x events (.left v)

/-- The code inside a function or asynchronous block, seen from outside. -/
def caught (x : Traces Datum) : Traces Datum := fun events flow =>
  ∃ v, flow = .next v ∧ x.gives events v

/-- The same code a number of times. -/
def times (x : Traces Unit) : Nat → Traces Unit
  | 0 => pure ()
  | n + 1 => do x; times x n

/-- The same code any number of times. -/
def repeated (x : Traces Unit) : Traces Unit := fun events flow => ∃ n, times x n events flow

section Lemmas
variable {events : List Event} {flow : Flow β} {event : Event} {v : Datum} {x : Traces α}

@[simp] theorem pure_apply {flow : Flow α} {a : α} :
    (pure a : Traces α) events flow ↔ events = [] ∧ flow = .next a := Iff.rfl

theorem bind_apply {f : α → Traces β} : (x >>= f) events flow ↔
    (∃ v, x events (.left v) ∧ flow = .left v) ∨
    ∃ first rest a, events = first ++ rest ∧ x first (.next a) ∧ f a rest flow := Iff.rfl

@[simp] theorem either_apply {y : Traces α} {flow : Flow α} :
    (either x y) events flow ↔ x events flow ∨ y events flow := Iff.rfl

@[simp] theorem leave_apply : (leave v : Traces β) events flow ↔ events = [] ∧ flow = .left v :=
  Iff.rfl

@[simp] theorem any_apply {flow : Flow α} :
    (any : Traces α) events flow ↔ events = [] ∧ ∃ a, flow = .next a := Iff.rfl

@[simp] theorem bind_pure_left {a : α} {f : α → Traces β} : (pure a >>= f) = f a := by
  funext events flow
  simp [bind_apply]

theorem bind_pure_right : (x >>= fun a => pure a) = x := by
  funext events flow
  refine propext ⟨?_, fun hx => ?_⟩
  · rintro (⟨v, hx, rfl⟩ | ⟨first, rest, a, rfl, hx, rfl, rfl⟩)
    · exact hx
    · rwa [List.append_nil]
  · cases flow with
    | next a => exact Or.inr ⟨events, [], a, (List.append_nil _).symm, hx, rfl, rfl⟩
    | left v => exact Or.inl ⟨v, hx, rfl⟩

theorem bind_bind {γ : Type} {f : α → Traces β} {g : β → Traces γ} :
    (x >>= f >>= g) = x >>= fun a => f a >>= g := by
  funext events flow
  refine propext ⟨?_, ?_⟩
  · rintro (⟨v, (⟨u, hx, hu⟩ | ⟨first, rest, a, rfl, hx, hf⟩), rfl⟩ |
      ⟨all, last, b, rfl, (⟨u, -, hu⟩ | ⟨first, middle, a, rfl, hx, hf⟩), hg⟩)
    · cases hu
      exact Or.inl ⟨v, hx, rfl⟩
    · exact Or.inr ⟨first, rest, a, rfl, hx, Or.inl ⟨v, hf, rfl⟩⟩
    · cases hu
    · exact Or.inr ⟨first, middle ++ last, a, List.append_assoc .., hx,
        Or.inr ⟨middle, last, b, rfl, hf, hg⟩⟩
  · rintro (⟨v, hx, rfl⟩ |
      ⟨first, rest, a, rfl, hx, (⟨v, hf, rfl⟩ | ⟨middle, last, b, rfl, hf, hg⟩)⟩)
    · exact Or.inl ⟨v, Or.inl ⟨v, hx, rfl⟩, rfl⟩
    · exact Or.inl ⟨v, Or.inr ⟨first, rest, a, rfl, hx, hf⟩, rfl⟩
    · exact Or.inr ⟨first ++ middle, last, b, (List.append_assoc ..).symm,
        Or.inr ⟨first, middle, a, rfl, hx, hf⟩, hg⟩

@[simp] theorem leave_bind {f : α → Traces β} : (leave v >>= f) = leave v := by
  funext events flow
  simp [bind_apply]

@[simp] theorem fail_apply : (fail : Traces β) events flow ↔
    events = [] ∧ ∃ e, flow = .left (.err e) := Iff.rfl

@[simp] theorem fail_bind {f : α → Traces β} : (fail >>= f) = fail := by
  funext events flow
  simp [bind_apply]

@[simp] theorem any_bind {f : α → Traces β} :
    (any >>= f) events flow ↔ ∃ a, f a events flow := by
  simp [bind_apply]

@[simp] theorem emit_bind {f : Unit → Traces β} :
    (emit event >>= f) events flow ↔ ∃ rest, events = event :: rest ∧ f () rest flow := by
  simp only [bind_apply, emit, reduceCtorEq, and_false, false_and, exists_false, false_or]
  constructor
  · rintro ⟨first, rest, a, rfl, ⟨rfl, -⟩, hf⟩
    exact ⟨rest, rfl, hf⟩
  · rintro ⟨rest, rfl, hf⟩
    exact ⟨[event], rest, (), rfl, ⟨rfl, trivial⟩, hf⟩

@[simp] theorem either_bind {y : Traces α} {f : α → Traces β} :
    (either x y >>= f) = either (x >>= f) (y >>= f) := by
  funext events flow
  refine propext ?_
  simp only [bind_apply, either_apply]
  grind

/-! What a function or asynchronous block comes to. -/

@[simp] theorem gives_pure {w : Datum} :
    (pure w : Traces Datum).gives events v ↔ events = [] ∧ v = w := by
  simp [gives]

@[simp] theorem gives_leave {w : Datum} : (leave w).gives events v ↔ events = [] ∧ v = w := by
  simp [gives]

@[simp] theorem gives_fail :
    (fail : Traces Datum).gives events v ↔ events = [] ∧ ∃ e, v = .err e := by
  simp [gives]

@[simp] theorem gives_either {x y : Traces Datum} :
    (either x y).gives events v ↔ x.gives events v ∨ y.gives events v := or_or_or_comm

@[simp] theorem gives_any_bind {f : α → Traces Datum} :
    (any >>= f).gives events v ↔ ∃ a, (f a).gives events v := by
  simp [gives, exists_or]

@[simp] theorem gives_emit_bind {f : Unit → Traces Datum} :
    (emit event >>= f).gives events v ↔ ∃ rest, events = event :: rest ∧ (f ()).gives rest v := by
  simp [gives, and_or_left, exists_or]

theorem gives_bind {f : α → Traces Datum} : (x >>= f).gives events v ↔
    x events (.left v) ∨
    ∃ first rest a, events = first ++ rest ∧ x first (.next a) ∧ (f a).gives rest v := by
  unfold gives
  simp only [bind_apply]
  grind

end Lemmas
end Traces

/-- The variables in scope, the innermost first, under the identifiers they are
written as.  The value of one that may be changed is not kept. -/
abbrev Bindings := List (String × Option Datum)

namespace Bindings

/-- The value of the innermost variable of a name. -/
def read (scope : Bindings) (name : String) : Traces Datum :=
  match scope.lookup (Identifier.variableName name) with
  | some (some v) => pure v
  | _ => .any

/-- The scope with one more variable. -/
def bound (scope : Bindings) (name : String) (v : Option Datum) : Bindings :=
  (Identifier.variableName name, v) :: scope

/-- The scope with variables of unknown values. -/
def boundAll (scope : Bindings) (names : List String) : Bindings :=
  names.map (fun name => (Identifier.variableName name, none)) ++ scope

end Bindings

/-- The variables after a statement, and its value. -/
structure Frame where
  scope : Bindings
  value : Datum

/-- Whether a status code reports a success. -/
def isSuccessCode (code : Nat) : Bool := 200 ≤ code && code < 300

namespace Datum

/-- Whether a result is an error. -/
def isError : Datum → Bool
  | .err _ => true
  | _ => false

theorem isError_iff {v : Datum} : v.isError ↔ ∃ e, v = .err e := by
  cases v <;> simp [isError]

/-- The value of a fragment that stands as it is. -/
def verbatim (code : String) : Traces Datum :=
  match code with
  | "Ok(())" => pure (.ok .unit)
  | "Ok(Default::default())" => pure (.ok .fallback)
  | _ => .any

/-- A call with all that its arguments do.  One that has to find a thread to block
on may fail before they do anything. -/
def entering (callee : String) (run : Traces Datum) : Traces Datum :=
  if callee = "block_on" then .either .failing run else run

/-- What a call of a function may come to. -/
def call (callee : String) (arguments : List Datum) : Traces Datum :=
  match callee, arguments with
  | "Ok", [v] => pure (.ok v)
  | "Err", [v] => pure (.err v)
  | "send_request", _ =>
    .either .failing (do
      let code ← .any
      Traces.emit (.answered code)
      return .ok (.response code))
  | "read_body", _ =>
    .either .failing (do
      let text ← .any
      Traces.emit (.read text)
      return .ok (.text text))
  | "block_on", [v] => pure v
  | _, _ => .any

/-- What a call of a method may come to. -/
def method (v : Datum) (name : String) : Traces Datum :=
  match name, v with
  | "build", _ =>
    .either .failing (do
      Traces.emit .built
      return .ok (← .any))
  | "status", .response code => pure (.status code)
  | "is_success", .status code => pure (.flag (isSuccessCode code))
  | "as_u16", .status code => pure (.number code)
  | "trim", .text s => pure (.text (Text.stripBlanks s))
  | "is_empty", .text s => pure (.flag s.isEmpty)
  | "unwrap_or_default", .ok v => pure v
  | "unwrap_or_default", .err _ => pure .fallback
  | _, _ => .any

/-- The value of a result; an error leaves the function. -/
def attempt : Datum → Traces Datum
  | .ok v => pure v
  | .err e => .leave (.err e)
  | _ => .either .any .fail

/-- A result of which nothing is known is a value or an error. -/
theorem any_attempt : (Traces.any >>= attempt) = .either .any .fail := by
  funext events flow
  refine propext (Traces.any_bind.trans ⟨?_, ?_⟩)
  · rintro ⟨v, hv⟩
    unfold attempt at hv
    split at hv
    · exact Or.inl ⟨hv.1, _, hv.2⟩
    · exact Or.inr ⟨hv.1, _, hv.2⟩
    · exact hv
  · rintro (⟨hevents, v, hv⟩ | ⟨hevents, e, he⟩)
    · exact ⟨.ok v, hevents, hv⟩
    · exact ⟨.err e, hevents, he⟩

/-- The other flag. -/
def negate : Datum → Traces Datum
  | .flag b => pure (.flag !b)
  | _ => .any

/-- Which way a condition goes. -/
def test : Datum → Traces Bool
  | .flag b => pure b
  | _ => .any

/-- The content of a value if it matches a variant. -/
def content (variant : String) (v : Datum) : Traces (Option Datum) :=
  match variant, v with
  | "Ok", .ok v => pure (some v)
  | "Ok", .err _ => pure none
  | "Err", .ok _ => pure none
  | "Err", .err e => pure (some e)
  | _, _ => .any

end Datum

mutual

/-- The runs of an expression.  An asynchronous block is awaited where it stands. -/
def Expr.traces (scope : Bindings) : Expr → Traces Datum
  | .raw code => Datum.verbatim code
  | .ident name => scope.read name
  | .str s => pure (.text s)
  | .call callee arguments =>
    Datum.entering callee (do Datum.call callee (← Expr.tracesAll scope arguments))
  | .method receiver name arguments => do
    let v ← receiver.traces scope
    let _ ← Expr.tracesAll scope arguments
    v.method name
  | .format _ arguments => do
    let _ ← Expr.tracesAll scope arguments
    .any
  | .await operand => operand.traces scope
  | .attempt operand => do (← operand.traces scope).attempt
  | .negate operand => do (← operand.traces scope).negate
  | .borrow operand => operand.traces scope
  | .block true body => .caught (do return (← Stmt.tracesAll ⟨scope, .unit⟩ body).value)
  | .block false body => do return (← Stmt.tracesAll ⟨scope, .unit⟩ body).value
  | .tuple items => do
    let _ ← Expr.tracesAll scope items
    .any
  | .closure params _ body => do
    .repeated (do let _ ← (body.traces (scope.boundAll params)).caught)
    .any
  | .invoke (.closure _ _ body) => (body.traces scope).caught
  | .invoke callee => do
    let _ ← callee.traces scope
    .any
  | .record name fields => do return .record name (← Expr.tracesFields scope fields)

/-- The runs of several expressions, from left to right. -/
def Expr.tracesAll (scope : Bindings) : List Expr → Traces (List Datum)
  | [] => pure []
  | e :: rest => do
    let v ← e.traces scope
    return v :: (← Expr.tracesAll scope rest)

/-- The runs of the fields of a record. -/
def Expr.tracesFields (scope : Bindings) : List (String × Expr) → Traces (List (String × Datum))
  | [] => pure []
  | (name, e) :: rest => do
    let v ← e.traces scope
    return (name, v) :: (← Expr.tracesFields scope rest)

/-- The runs of a statement. -/
def Stmt.traces (scope : Bindings) : Stmt → Traces Frame
  | .bind name isMutable _ value => do
    let v ← value.traces scope
    return ⟨scope.bound name (if isMutable then none else some v), .unit⟩
  | .assign _ value | .eval value => do
    let _ ← value.traces scope
    return ⟨scope, .unit⟩
  | .ifThen test body => do
    if ← (← test.traces scope).test then
      let _ ← Stmt.tracesAll ⟨scope, .unit⟩ body
    return ⟨scope, .unit⟩
  | .ifElse test body alternative => do
    if ← (← test.traces scope).test then
      let _ ← Stmt.tracesAll ⟨scope, .unit⟩ body
    else
      let _ ← Stmt.tracesAll ⟨scope, .unit⟩ alternative
    return ⟨scope, .unit⟩
  | .ifLet variant binding value body => do
    if let some v ← (← value.traces scope).content variant then
      let _ ← Stmt.tracesAll ⟨scope.bound binding (some v), .unit⟩ body
    return ⟨scope, .unit⟩
  | .forEach binding items body => do
    let _ ← items.traces scope
    .repeated (do let _ ← Stmt.tracesAll ⟨scope.bound binding none, .unit⟩ body)
    return ⟨scope, .unit⟩
  | .hook name arguments => do
    let _ ← Expr.tracesAll scope arguments
    Traces.emit (.called name)
    return ⟨scope, .unit⟩
  | .log _ _ arguments => do
    let _ ← Expr.tracesAll scope arguments
    return ⟨scope, .unit⟩
  | .ret value => do .leave (← value.traces scope)
  | .tail value => do return ⟨scope, ← value.traces scope⟩
  | .comment _ => pure ⟨scope, .unit⟩

/-- The runs of statements in sequence; their value is that of the last one. -/
def Stmt.tracesAll (frame : Frame) : List Stmt → Traces Frame
  | [] => pure frame
  | s :: rest => do Stmt.tracesAll (← s.traces frame.scope) rest

end

/-! ### Statements and what follows them -/

/-- Statements, and then code that depends on what they leave behind. -/
def Stmt.runThen (frame : Frame) (body : Block) (f : Frame → Traces Datum) : Traces Datum :=
  Stmt.tracesAll frame body >>= f

section Statements
variable {frame : Frame} {rest : Block} {f : Frame → Traces Datum} {e : Expr} {name : String}

theorem Stmt.runThen_nil (frame : Frame) (f : Frame → Traces Datum) :
    Stmt.runThen frame [] f = f frame := Traces.bind_pure_left

theorem Stmt.runThen_cons (frame : Frame) (s : Stmt) (rest : Block) (f : Frame → Traces Datum) :
    Stmt.runThen frame (s :: rest) f =
      s.traces frame.scope >>= fun frame => Stmt.runThen frame rest f := Traces.bind_bind

theorem Stmt.runThen_append (frame : Frame) (front back : Block) (f : Frame → Traces Datum) :
    Stmt.runThen frame (front ++ back) f =
      Stmt.runThen frame front (fun frame => Stmt.runThen frame back f) := by
  induction front generalizing frame with
  | nil => rw [List.nil_append, Stmt.runThen_nil]
  | cons s rest ih =>
      rw [List.cons_append, Stmt.runThen_cons, Stmt.runThen_cons]
      simp only [ih]

theorem Stmt.runThen_bind (isMutable : Bool) (type : Option String) :
    Stmt.runThen frame (.bind name isMutable type e :: rest) f =
      e.traces frame.scope >>= fun v =>
        Stmt.runThen ⟨frame.scope.bound name (if isMutable then none else some v), .unit⟩
          rest f := by
  rw [Stmt.runThen_cons]
  simp only [Stmt.traces, Traces.bind_bind, Traces.bind_pure_left]

theorem Stmt.runThen_ifThen {body : Block} {b : Bool}
    (h : e.traces frame.scope = pure (.flag b)) :
    Stmt.runThen frame (.ifThen e body :: rest) f =
      if b then
        Stmt.runThen ⟨frame.scope, .unit⟩ body
          (fun _ => Stmt.runThen ⟨frame.scope, .unit⟩ rest f)
      else Stmt.runThen ⟨frame.scope, .unit⟩ rest f := by
  rw [Stmt.runThen_cons]
  simp only [Stmt.traces, h, Traces.bind_pure_left, Datum.test]
  cases b
  · simp
  · simp [Stmt.runThen, Traces.bind_bind]

theorem Stmt.runThen_ifLet_some {variant : String} {body : Block} {v : Datum}
    (h : e.traces frame.scope >>= Datum.content variant = pure (some v)) :
    Stmt.runThen frame (.ifLet variant name e body :: rest) f =
      Stmt.runThen ⟨frame.scope.bound name (some v), .unit⟩ body
        (fun _ => Stmt.runThen ⟨frame.scope, .unit⟩ rest f) := by
  rw [Stmt.runThen_cons]
  simp only [Stmt.traces, Traces.bind_bind]
  rw [← Traces.bind_bind, h, Traces.bind_pure_left]
  simp [Stmt.runThen, Traces.bind_bind]

theorem Stmt.runThen_ifLet_none {variant : String} {body : Block}
    (h : e.traces frame.scope >>= Datum.content variant = pure none) :
    Stmt.runThen frame (.ifLet variant name e body :: rest) f =
      Stmt.runThen ⟨frame.scope, .unit⟩ rest f := by
  rw [Stmt.runThen_cons]
  simp only [Stmt.traces, Traces.bind_bind]
  rw [← Traces.bind_bind, h, Traces.bind_pure_left, Traces.bind_pure_left]

theorem Stmt.runThen_ret :
    Stmt.runThen frame (.ret e :: rest) f = e.traces frame.scope >>= Traces.leave := by
  rw [Stmt.runThen_cons]
  simp only [Stmt.traces, Traces.bind_bind, Traces.leave_bind]

/-- The last statement of a block is its value. -/
theorem Stmt.runThen_tail : Stmt.runThen frame [.tail e] (fun frame => pure frame.value) =
    e.traces frame.scope := by
  rw [Stmt.runThen_cons]
  simp only [Stmt.traces, Stmt.runThen_nil, Traces.bind_bind, Traces.bind_pure_left]
  exact Traces.bind_pure_right

/-- A function with this body, called in a scope, may come to the value `v`. -/
def Stmt.Yields (scope : Bindings) (body : Block) (events : List Event) (v : Datum) : Prop :=
  (Stmt.runThen ⟨scope, .unit⟩ body (fun frame => pure frame.value)).gives events v

theorem Expr.traces_block (scope : Bindings) (body : Block) :
    (Expr.block true body).traces scope = fun events flow =>
      ∃ v, flow = .next v ∧ Stmt.Yields scope body events v := rfl

/-- The variable that was bound last. -/
theorem Bindings.read_bound (scope : Bindings) (name : String) (v : Datum) :
    (scope.bound name (some v)).read name = pure v := by
  simp [Bindings.read, Bindings.bound]

theorem Bindings.read_bound_ne {other : String} (scope : Bindings) (v : Option Datum)
    (h : Identifier.variableName other ≠ Identifier.variableName name) :
    (scope.bound name v).read other = scope.read other := by
  rw [Bindings.read, Bindings.bound, List.lookup_cons, beq_eq_false_iff_ne.mpr h, Bindings.read]

end Statements

end Code
end ClientSynth
