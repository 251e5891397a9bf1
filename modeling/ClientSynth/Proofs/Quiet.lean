import ClientSynth.Proofs.Trace
import ClientSynth.Request.Execution

/-! # Code that only prepares

The statements before a request is built call no hook and talk to nobody: nothing
happens in them, they can always go on, and what leaves them is an error. -/
namespace ClientSynth
namespace Code

variable {α β : Type} {mayFail : Prop}

instance : Inhabited Datum := ⟨.unit⟩

/-- Nothing happens and some run goes on.  Those that leave do so with an error, and
there are none unless the code may fail. -/
structure Traces.IsQuiet (x : Traces α) (mayFail : Prop) : Prop where
  silent : ∀ events flow, x events flow → events = []
  error : ∀ events v, x events (.left v) → mayFail ∧ ∃ e, v = .err e
  goesOn : ∃ a, x [] (.next a)

namespace Traces.IsQuiet

variable {x y : Traces α}

protected theorem pure (a : α) : (pure a : Traces α).IsQuiet mayFail :=
  ⟨fun _ _ h => h.1, fun _ _ h => (nomatch h.2), a, rfl, rfl⟩

protected theorem any [Inhabited α] : (any : Traces α).IsQuiet mayFail :=
  ⟨fun _ _ h => h.1, fun _ _ h => (nomatch h.2), default, rfl, default, rfl⟩

theorem bind {f : α → Traces β} (h : x.IsQuiet mayFail) (hf : ∀ a, (f a).IsQuiet mayFail) :
    (x >>= f).IsQuiet mayFail where
  silent := by
    rintro events flow (⟨v, hx, -⟩ | ⟨first, rest, a, rfl, hx, hrest⟩)
    · exact h.silent _ _ hx
    · rw [h.silent _ _ hx, (hf a).silent _ _ hrest, List.append_nil]
  error := by
    rintro events v (⟨u, hx, hu⟩ | ⟨first, rest, a, rfl, hx, hrest⟩)
    · cases hu
      exact h.error _ _ hx
    · exact (hf a).error _ _ hrest
  goesOn := by
    obtain ⟨a, ha⟩ := h.goesOn
    obtain ⟨b, hb⟩ := (hf a).goesOn
    exact ⟨b, Or.inr ⟨[], [], a, rfl, ha, hb⟩⟩

theorem orFail (hx : x.IsQuiet True) : (either x .fail).IsQuiet True where
  silent := fun _ _ => Or.rec (hx.silent _ _) And.left
  error := fun _ _ => Or.rec (hx.error _ _)
    (fun h => ⟨trivial, h.2.imp (fun _ he => Flow.left.inj he)⟩)
  goesOn := hx.goesOn.imp (fun _ => Or.inl)

theorem either (hx : x.IsQuiet mayFail) (hy : y.IsQuiet mayFail) : (either x y).IsQuiet mayFail :=
  ⟨fun _ _ => Or.rec (hx.silent _ _) (hy.silent _ _),
    fun _ _ => Or.rec (hx.error _ _) (hy.error _ _), hx.goesOn.imp (fun _ => Or.inl)⟩

protected theorem failing : failing.IsQuiet mayFail := by
  exact IsQuiet.any.bind (fun e => .pure (Datum.err e))

theorem caught {x : Traces Datum} (h : x.IsQuiet mayFail) : x.caught.IsQuiet mayFail where
  silent := by
    rintro events flow ⟨v, -, hv⟩
    exact hv.elim (h.silent _ _) (h.silent _ _)
  error := by
    rintro events v ⟨u, hu, -⟩
    cases hu
  goesOn := h.goesOn.imp (fun v hv => ⟨v, rfl, Or.inl hv⟩)

theorem times {x : Traces Unit} (h : x.IsQuiet mayFail) (n : Nat) :
    (x.times n).IsQuiet mayFail := by
  induction n with
  | zero => exact .pure ()
  | succ n ih => exact h.bind (fun _ => ih)

theorem repeated {x : Traces Unit} (h : x.IsQuiet mayFail) : x.repeated.IsQuiet mayFail where
  silent := fun _ _ ⟨n, hn⟩ => (h.times n).silent _ _ hn
  error := fun _ _ ⟨n, hn⟩ => (h.times n).error _ _ hn
  goesOn := ⟨(), 0, rfl, rfl⟩

/-- What follows quiet code decides what the whole comes to if that may be any error
without anything happening. -/
theorem gives_bind_iff {f : α → Traces Datum} {S : List Event → Datum → Prop}
    (h : x.IsQuiet mayFail) (hf : ∀ a events v, (f a).gives events v ↔ S events v)
    (herror : ∀ e, S [] (.err e)) {events : List Event} {v : Datum} :
    (x >>= f).gives events v ↔ S events v := by
  rw [Traces.gives_bind]
  constructor
  · rintro (hx | ⟨first, rest, a, rfl, hx, hrest⟩)
    · obtain rfl := h.silent _ _ hx
      obtain ⟨-, e, rfl⟩ := h.error _ _ hx
      exact herror e
    · rw [h.silent _ _ hx]
      exact (hf a rest v).mp hrest
  · intro hS
    -- Some run goes on; without it the code behind might never be reached.
    obtain ⟨a, ha⟩ := h.goesOn
    exact Or.inr ⟨[], events, a, rfl, ha, (hf a events v).mpr hS⟩

/-- Quiet code that cannot fail may be left out if its value does not matter. -/
theorem bind_const (h : x.IsQuiet False) (y : Traces β) : (x >>= fun _ => y) = y := by
  funext events flow
  refine propext ⟨?_, fun hy => ?_⟩
  · rintro (⟨v, hx, -⟩ | ⟨first, rest, a, rfl, hx, hy⟩)
    · exact (h.error _ _ hx).1.elim
    · rwa [h.silent _ _ hx]
  · obtain ⟨a, ha⟩ := h.goesOn
    exact Or.inr ⟨[], events, a, rfl, ha, hy⟩

end Traces.IsQuiet

/-! ### Values -/

open Traces (IsQuiet)

theorem Bindings.read_isQuiet (scope : Bindings) (name : String) :
    (scope.read name).IsQuiet mayFail := by
  unfold Bindings.read
  split
  · exact .pure _
  · exact .any

theorem Datum.verbatim_isQuiet (code : String) : (Datum.verbatim code).IsQuiet mayFail := by
  unfold Datum.verbatim
  split <;> first | exact .pure _ | exact .any

theorem Datum.entering_isQuiet (callee : String) {run : Traces Datum} (h : run.IsQuiet mayFail) :
    (Datum.entering callee run).IsQuiet mayFail := by
  unfold Datum.entering
  split
  · exact .either .failing h
  · exact h

theorem Datum.call_isQuiet {callee : String} (h : callee ∉ ["send_request", "read_body"])
    (arguments : List Datum) : (Datum.call callee arguments).IsQuiet mayFail := by
  unfold Datum.call
  split <;> simp_all [IsQuiet.pure, IsQuiet.any]

/-- Functions whose calls may give any value. -/
theorem Datum.call_other {callee : String}
    (h : callee ∉ ["Ok", "Err", "send_request", "read_body", "block_on"]) (arguments : List Datum) :
    Datum.call callee arguments = .any := by
  unfold Datum.call
  split <;> simp_all

theorem Datum.method_isQuiet {name : String} (h : name ≠ "build") (v : Datum) :
    (v.method name).IsQuiet mayFail := by
  unfold Datum.method
  split <;> simp_all [IsQuiet.pure, IsQuiet.any]

theorem Datum.attempt_any_isQuiet : (Traces.any >>= Datum.attempt).IsQuiet True := by
  rw [Datum.any_attempt]
  exact IsQuiet.any.orFail

theorem Datum.negate_isQuiet (v : Datum) : v.negate.IsQuiet mayFail := by
  unfold Datum.negate
  split
  · exact .pure _
  · exact .any

theorem Datum.test_isQuiet (v : Datum) : v.test.IsQuiet mayFail := by
  unfold Datum.test
  split
  · exact .pure _
  · exact .any

theorem Datum.content_isQuiet (variant : String) (v : Datum) :
    (v.content variant).IsQuiet mayFail := by
  unfold Datum.content
  split <;> first | exact .pure _ | exact .any

/-! ### Expressions -/

/-- Nothing happens in an expression, and it may have a value. -/
def Expr.IsQuiet (e : Expr) (mayFail : Prop) : Prop := ∀ scope, (e.traces scope).IsQuiet mayFail

/-- Nothing happens in a statement, and it may come to an end. -/
def Stmt.IsQuiet (s : Stmt) (mayFail : Prop) : Prop := ∀ scope, (s.traces scope).IsQuiet mayFail

namespace Expr

variable {e : Expr} {es : List Expr}

theorem tracesAll_isQuiet (h : ∀ e ∈ es, e.IsQuiet mayFail) (scope : Bindings) :
    (Expr.tracesAll scope es).IsQuiet mayFail := by
  induction es with
  | nil => exact .pure []
  | cons e rest ih =>
      have hrest := ih (fun d hd => h d (List.mem_cons_of_mem e hd))
      exact (h e List.mem_cons_self scope).bind (fun v => hrest.bind (fun vs => .pure (v :: vs)))

theorem isQuiet_raw (code : String) : (Expr.raw code).IsQuiet mayFail :=
  fun _ => Datum.verbatim_isQuiet code

theorem isQuiet_ident (name : String) : (Expr.ident name).IsQuiet mayFail :=
  fun scope => scope.read_isQuiet name

theorem isQuiet_str (s : String) : (Expr.str s).IsQuiet mayFail := fun _ => .pure _

theorem isQuiet_call {callee : String} (hcallee : callee ∉ ["send_request", "read_body"])
    (h : ∀ e ∈ es, e.IsQuiet mayFail) : (Expr.call callee es).IsQuiet mayFail :=
  fun scope => Datum.entering_isQuiet callee
    ((tracesAll_isQuiet h scope).bind (Datum.call_isQuiet hcallee))

theorem isQuiet_attempt {callee : String}
    (hcallee : callee ∉ ["Ok", "Err", "send_request", "read_body", "block_on"])
    (h : ∀ e ∈ es, e.IsQuiet True) : (Expr.attempt (.call callee es)).IsQuiet True := by
  intro scope
  have hentering : ∀ run, Datum.entering callee run = run := by
    intro run
    refine if_neg (fun hblock : callee = "block_on" => hcallee ?_)
    rw [hblock]
    decide
  unfold Expr.traces Expr.traces
  simp only [hentering, Datum.call_other hcallee, Traces.bind_bind]
  exact (tracesAll_isQuiet h scope).bind (fun _ => Datum.attempt_any_isQuiet)

theorem isQuiet_method {name : String} (he : e.IsQuiet mayFail) (hname : name ≠ "build")
    (h : ∀ e ∈ es, e.IsQuiet mayFail) : (e.method name es).IsQuiet mayFail :=
  fun scope => (he scope).bind (fun v =>
    (tracesAll_isQuiet h scope).bind (fun _ => v.method_isQuiet hname))

theorem isQuiet_method0 {name : String} (he : e.IsQuiet mayFail) (hname : name ≠ "build") :
    (e.method0 name).IsQuiet mayFail :=
  isQuiet_method he hname (fun _ h => nomatch h)

theorem isQuiet_format (template : String) (h : ∀ e ∈ es, e.IsQuiet mayFail) :
    (Expr.format template es).IsQuiet mayFail :=
  fun scope => (tracesAll_isQuiet h scope).bind (fun _ => .any)

theorem isQuiet_negate (h : e.IsQuiet mayFail) : (Expr.negate e).IsQuiet mayFail :=
  fun scope => (h scope).bind Datum.negate_isQuiet

theorem isQuiet_borrow (h : e.IsQuiet mayFail) : (Expr.borrow e).IsQuiet mayFail := h

theorem isQuiet_tuple (h : ∀ e ∈ es, e.IsQuiet mayFail) : (Expr.tuple es).IsQuiet mayFail :=
  fun scope => (tracesAll_isQuiet h scope).bind (fun _ => .any)

theorem isQuiet_lambda (params : List String) (h : e.IsQuiet mayFail) :
    (Expr.lambda params e).IsQuiet mayFail :=
  fun _ => ((h _).caught.bind (fun _ => .pure ())).repeated.bind (fun _ => .any)

end Expr

namespace Stmt

variable {e : Expr} {body : Block}

theorem tracesAll_isQuiet (h : ∀ s ∈ body, s.IsQuiet mayFail) (frame : Frame) :
    (Stmt.tracesAll frame body).IsQuiet mayFail := by
  induction body generalizing frame with
  | nil => exact .pure frame
  | cons s rest ih =>
      exact (h s List.mem_cons_self frame.scope).bind
        (ih (fun t ht => h t (List.mem_cons_of_mem s ht)))

theorem isQuiet_bind (name : String) (isMutable : Bool) (type : Option String)
    (h : e.IsQuiet mayFail) : (Stmt.bind name isMutable type e).IsQuiet mayFail :=
  fun scope => (h scope).bind (fun _ => .pure _)

theorem isQuiet_assign (target : String) (h : e.IsQuiet mayFail) :
    (Stmt.assign target e).IsQuiet mayFail :=
  fun scope => (h scope).bind (fun _ => .pure _)

theorem isQuiet_eval (h : e.IsQuiet mayFail) : (Stmt.eval e).IsQuiet mayFail :=
  fun scope => (h scope).bind (fun _ => .pure _)

theorem isQuiet_ifThen (h : e.IsQuiet mayFail) (hbody : ∀ s ∈ body, s.IsQuiet mayFail) :
    (Stmt.ifThen e body).IsQuiet mayFail := by
  intro scope
  refine (h scope).bind (fun v => v.test_isQuiet.bind (fun b => ?_))
  cases b
  · exact .pure _
  · exact (tracesAll_isQuiet hbody _).bind (fun _ => .pure _)

theorem isQuiet_ifLet (variant binding : String) (h : e.IsQuiet mayFail)
    (hbody : ∀ s ∈ body, s.IsQuiet mayFail) :
    (Stmt.ifLet variant binding e body).IsQuiet mayFail := by
  intro scope
  refine (h scope).bind (fun v => (v.content_isQuiet variant).bind (fun content => ?_))
  cases content
  · exact .pure _
  · exact (tracesAll_isQuiet hbody _).bind (fun _ => .pure _)

theorem isQuiet_forEach (binding : String) (h : e.IsQuiet mayFail)
    (hbody : ∀ s ∈ body, s.IsQuiet mayFail) : (Stmt.forEach binding e body).IsQuiet mayFail :=
  fun scope => (h scope).bind (fun _ =>
    ((tracesAll_isQuiet hbody _).bind (fun _ => .pure ())).repeated.bind (fun _ => .pure _))

/-- **What follows quiet statements decides what a block comes to** if that may be any
error without anything happening. -/
theorem gives_runThen_iff {frame : Frame} {f : Frame → Traces Datum}
    {S : List Event → Datum → Prop} (h : ∀ s ∈ body, s.IsQuiet True)
    (hf : ∀ frame events v, (f frame).gives events v ↔ S events v)
    (herror : ∀ e, S [] (.err e)) (events : List Event) (v : Datum) :
    (Stmt.runThen frame body f).gives events v ↔ S events v :=
  (tracesAll_isQuiet h frame).gives_bind_iff hf herror

/-! ### Quiet arguments

What a hook, a log statement or a call of known outcome is given does not matter
as long as it is quiet. -/

variable {frame : Frame} {rest : Block} {f : Frame → Traces Datum} {args : List Expr}

theorem gives_runThen_hook (h : ∀ e ∈ args, e.IsQuiet False) (name : String)
    {events : List Event} {v : Datum} :
    (Stmt.runThen frame (.hook name args :: rest) f).gives events v ↔
      ∃ more, events = .called name :: more ∧
        (Stmt.runThen ⟨frame.scope, .unit⟩ rest f).gives more v := by
  have hhook : (Stmt.hook name args).traces frame.scope =
      Traces.emit (.called name) >>= fun _ => pure ⟨frame.scope, .unit⟩ :=
    (Expr.tracesAll_isQuiet h frame.scope).bind_const _
  simp [Stmt.runThen_cons, hhook, Traces.bind_bind]

theorem runThen_log (h : ∀ e ∈ args, e.IsQuiet False) (level : LogLevel) (message : String) :
    Stmt.runThen frame (.log level message args :: rest) f =
      Stmt.runThen ⟨frame.scope, .unit⟩ rest f := by
  have hlog : (Stmt.log level message args).traces frame.scope = pure ⟨frame.scope, .unit⟩ :=
    (Expr.tracesAll_isQuiet h frame.scope).bind_const _
  rw [Stmt.runThen_cons, hlog, Traces.bind_pure_left]

end Stmt

theorem Expr.traces_call {callee : String} {args : List Expr} {x : Traces Datum}
    (h : ∀ e ∈ args, e.IsQuiet False) (hcallee : callee ≠ "block_on")
    (hcall : ∀ vs, Datum.call callee vs = x) (scope : Bindings) :
    (Expr.call callee args).traces scope = x := by
  unfold Expr.traces
  rw [Datum.entering, if_neg hcallee]
  simp only [hcall]
  exact (Expr.tracesAll_isQuiet h scope).bind_const x

end Code

end ClientSynth
