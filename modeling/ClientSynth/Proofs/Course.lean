import ClientSynth.Proofs.RequestRun

/-! # The course of a request

Everything that a method does is told by four things: whether its request was
built, how it was answered, what was read of the answer, and the result.  They
determine which hooks are called, and in which order. -/
namespace ClientSynth
namespace Request

open Contract Code

/-- How a request went. -/
structure Course where
  isBuilt : Bool
  /-- Status code of the answer, if there was one. -/
  answer : Option Nat
  /-- Text of the answer, if it was read. -/
  text : Option String
  result : Datum

namespace Course

/-- What happens in the request block. -/
def requestEvents (m : Method) (c : Course) : List Event :=
  (if c.isBuilt then .built :: beforeHooks m else []) ++
    match c.answer with
    | none => []
    | some code =>
      .answered code ::
        if isSuccessCode code then afterHooks m ++ reading c.text else reading c.text ++ failHooks m

/-- What happens in the method. -/
def events (m : Method) (c : Course) : List Event :=
  c.requestEvents m ++ if c.result.isError then errorHooks m else []

/-- The course is possible for the method: one thing follows another, and the result
goes with what happened. -/
structure Fits (m : Method) (c : Course) : Prop where
  built : c.answer ≠ none → c.isBuilt
  answered : c.text ≠ none → c.answer ≠ none
  unanswered : c.answer = none → c.result.isError
  refused : ∀ code, c.answer = some code → ¬ isSuccessCode code →
    c.result = .err (transportError code c.text)
  void : ∀ code, c.answer = some code → isSuccessCode code → m.returns.value? = none →
    c.text = none ∧ c.result = .ok .unit
  unread : ∀ code, c.answer = some code → isSuccessCode code → m.returns.value? ≠ none →
    c.text = none → c.result.isError
  blank : ∀ code text, c.answer = some code → isSuccessCode code → c.text = some text →
    Text.isBlankText text → c.result = .ok .fallback
  decoded : ∀ code text, c.answer = some code → isSuccessCode code → c.text = some text →
    ¬ Text.isBlankText text → c.result.isError ∨ ∃ v, c.result = .ok v

end Course

section Block
variable {m : Method} {interfaceContentType : Option String} {scope : Bindings}
  {events : List Event} {v : Datum}

/-- A successful answer is read only where a result is declared. -/
theorem comesOfSuccess_iff {code : Nat} (hcode : isSuccessCode code) :
    ComesOfSuccess m events v ↔
      ∃ text, (Course.mk true (some code) text v).Fits m ∧ events = reading text := by
  unfold ComesOfSuccess
  cases hvalue : m.returns.value? with
  | none =>
      constructor
      · rintro ⟨rfl, rfl⟩
        refine ⟨none, ?_, rfl⟩
        constructor <;> grind
      · rintro ⟨text, hfits, rfl⟩
        obtain ⟨rfl, rfl⟩ := hfits.void code rfl hcode hvalue
        exact ⟨rfl, rfl⟩
  | some type =>
      constructor
      · rintro (⟨rfl, hv⟩ | ⟨text, rfl, hv⟩)
        · refine ⟨none, ?_, rfl⟩
          constructor <;> grind
        · refine ⟨some text, ?_, rfl⟩
          constructor <;> grind
      · rintro ⟨text, hfits, rfl⟩
        cases text with
        | none => exact Or.inl ⟨rfl, hfits.unread code rfl hcode (by simp [hvalue]) rfl⟩
        | some text =>
            have hresult : if Text.isBlankText text then v = .ok .fallback
                else v.isError ∨ ∃ value, v = .ok value := by
              split
              · next hblank => exact hfits.blank code text rfl hcode rfl hblank
              · next hblank => exact hfits.decoded code text rfl hcode rfl hblank
            exact Or.inr ⟨text, rfl, hresult⟩

/-- An answer gives rise to the courses with that answer. -/
theorem comesOfAnswer_iff {code : Nat} : ComesOfAnswer m code events v ↔
    ∃ text, (Course.mk true (some code) text v).Fits m ∧
      events = if isSuccessCode code then afterHooks m ++ reading text
        else reading text ++ failHooks m := by
  unfold ComesOfAnswer
  by_cases hcode : isSuccessCode code
  · rw [if_pos hcode]
    constructor
    · rintro ⟨more, rfl, hsuccess⟩
      obtain ⟨text, hfits, rfl⟩ := (comesOfSuccess_iff hcode).mp hsuccess
      exact ⟨text, hfits, (if_pos hcode).symm⟩
    · rintro ⟨text, hfits, rfl⟩
      exact ⟨reading text, if_pos hcode, (comesOfSuccess_iff hcode).mpr ⟨text, hfits, rfl⟩⟩
  · rw [if_neg hcode]
    constructor
    · rintro ⟨text, rfl, rfl⟩
      refine ⟨text, ?_, (if_neg hcode).symm⟩
      constructor <;> grind
    · rintro ⟨text, hfits, rfl⟩
      exact ⟨text, if_neg hcode, hfits.refused code rfl hcode⟩

/-- The request block takes exactly the courses that are possible. -/
theorem comesOf_iff : ComesOf m (ComesOfAnswer m) events v ↔
    ∃ c : Course, c.Fits m ∧ events = c.requestEvents m ∧ v = c.result := by
  constructor
  · rintro (⟨rfl, hv⟩ | ⟨more, rfl, ⟨rfl, hv⟩ | ⟨code, rest, rfl, hrest⟩⟩)
    · exact ⟨⟨false, none, none, v⟩, by constructor <;> grind, rfl, rfl⟩
    · exact ⟨⟨true, none, none, v⟩, by constructor <;> grind, rfl, rfl⟩
    · obtain ⟨text, hfits, rfl⟩ := comesOfAnswer_iff.mp hrest
      exact ⟨⟨true, some code, text, v⟩, hfits, rfl, rfl⟩
  · rintro ⟨⟨isBuilt, answer, text, result⟩, hfits, rfl, rfl⟩
    cases answer with
    | none =>
        have hresult := hfits.unanswered rfl
        cases isBuilt with
        | false => exact Or.inl ⟨rfl, hresult⟩
        | true => exact Or.inr ⟨[], rfl, Or.inl ⟨rfl, hresult⟩⟩
    | some code =>
        obtain rfl : isBuilt = true := hfits.built (Option.some_ne_none code)
        exact Or.inr ⟨_, rfl, Or.inr ⟨code, _, rfl, comesOfAnswer_iff.mpr ⟨text, hfits, rfl⟩⟩⟩

/-- The result of a course is a value or an error. -/
theorem Course.Fits.result_cases {c : Course} (h : c.Fits m) :
    c.result.isError ∨ ∃ value, c.result = .ok value := by
  cases hanswer : c.answer with
  | none => exact Or.inl (h.unanswered hanswer)
  | some code =>
      by_cases hcode : isSuccessCode code
      · cases hvalue : m.returns.value? with
        | none => exact Or.inr ⟨_, (h.void code hanswer hcode hvalue).2⟩
        | some type =>
            cases htext : c.text with
            | none => exact Or.inl (h.unread code hanswer hcode (by simp [hvalue]) htext)
            | some text =>
                by_cases hblank : Text.isBlankText text
                · exact Or.inr ⟨_, h.blank code text hanswer hcode htext hblank⟩
                · exact h.decoded code text hanswer hcode htext hblank
      · exact Or.inl (Datum.isError_iff.mpr ⟨_, h.refused code hanswer hcode⟩)

/-! ### The method -/

/-- Waiting for the request block adds nothing: that no thread is found to block on
looks like a request that could not be built. -/
theorem requestExpr_traces {flow : Flow Datum} :
    (requestExpr m interfaceContentType).traces scope events flow ↔
      ∃ c : Course, c.Fits m ∧ events = c.requestEvents m ∧ flow = .next c.result := by
  have hcourses : (∃ v, flow = .next v ∧ ComesOf m (ComesOfAnswer m) events v) ↔
      ∃ c : Course, c.Fits m ∧ events = c.requestEvents m ∧ flow = .next c.result := by
    simp only [comesOf_iff]
    grind
  have hblock : ∀ flow, (Expr.block true (requestBlock m interfaceContentType (localsOf m))).traces
      scope events flow ↔ ∃ v, flow = .next v ∧ ComesOf m (ComesOfAnswer m) events v := by
    intro flow
    rw [Expr.traces_block]
    exact exists_congr (fun v => and_congr_right (fun _ => requestBlock_yields))
  rw [← hcourses]
  unfold requestExpr
  dsimp only
  split
  · exact hblock flow
  · have hcall : (Expr.call "block_on"
        [.block true (requestBlock m interfaceContentType (localsOf m))]).traces scope =
        .either .failing
          ((Expr.block true (requestBlock m interfaceContentType (localsOf m))).traces scope) := by
      rw [Expr.traces, Datum.entering, if_pos rfl]
      simp [Expr.tracesAll, Traces.bind_bind, Datum.call, Traces.bind_pure_right]
    -- The failure to wait has the course of a request that is not built.
    rw [hcall, Traces.either_apply, hblock, or_iff_right_of_imp]
    intro hfailing
    obtain ⟨e, rfl, rfl⟩ := Traces.any_bind.mp hfailing
    exact ⟨.err e, rfl, Or.inl ⟨rfl, rfl⟩⟩

/-- An error is shown to the error hooks, and a value is not. -/
theorem gives_errorHandling (locals : Locals) {result : Datum}
    (h : result.isError ∨ ∃ value, result = .ok value) :
    (Stmt.runThen ⟨scope.bound locals.result (some result), .unit⟩
      [.ifLet "Err" locals.error (.borrow (.ident locals.result)) (errorHandling m locals),
        .tail (.ident locals.result)] (fun frame => pure frame.value)).gives events v ↔
      events = (if result.isError then errorHooks m else []) ∧ v = result := by
  have hread : (Expr.borrow (.ident locals.result)).traces
      (scope.bound locals.result (some result)) = pure result := Bindings.read_bound _ _ _
  have htail : (Stmt.runThen ⟨scope.bound locals.result (some result), .unit⟩
      [.tail (.ident locals.result)] (fun frame => pure frame.value)) = pure result :=
    Stmt.runThen_tail.trans hread
  have herror : (Expr.ident locals.error).IsQuiet False := Expr.isQuiet_ident _
  have hargs : ∀ e ∈ [Expr.ident locals.error], e.IsQuiet False :=
    List.forall_mem_singleton.mpr herror
  -- The pattern matches an error only, and either way the value of the block is the result.
  rcases h with h | ⟨value, rfl⟩
  · obtain ⟨e, rfl⟩ := Datum.isError_iff.mp h
    have hsome : (Expr.borrow (.ident locals.result)).traces
        (scope.bound locals.result (some (.err e))) >>= Datum.content "Err" = pure (some e) := by
      rw [hread]
      exact Traces.bind_pure_left
    rw [Stmt.runThen_ifLet_some hsome]
    unfold errorHandling
    dsimp only
    rw [Stmt.runThen_log hargs,
      gives_hooks (List.forall_mem_cons.mpr ⟨Expr.isQuiet_str _, hargs⟩) hargs]
    simp only [Stmt.runThen_nil, htail, Traces.gives_pure]
    simp [Datum.isError, errorHooks]
  · have hnone : (Expr.borrow (.ident locals.result)).traces
        (scope.bound locals.result (some (.ok value))) >>= Datum.content "Err" = pure none := by
      rw [hread]
      exact Traces.bind_pure_left
    rw [Stmt.runThen_ifLet_none hnone, htail]
    exact Traces.gives_pure

/-- A method ends with the result of its request.  If that is an error, the error hooks
are called last. -/
theorem executionBody_yields : Stmt.Yields scope (executionBody m interfaceContentType) events v ↔
    ∃ inner, (requestExpr m interfaceContentType).traces scope inner (.next v) ∧
      events = inner ++ if v.isError then errorHooks m else [] := by
  unfold Stmt.Yields executionBody guarded
  dsimp only
  rw [Stmt.bindTyped, Stmt.runThen_bind, Traces.gives_bind]
  constructor
  · rintro (hleft | ⟨inner, rest, result, rfl, hinner, hrest⟩)
    · -- What leaves the block is caught there, so nothing leaves the method early.
      obtain ⟨c, -, -, hflow⟩ := requestExpr_traces.mp hleft
      cases hflow
    · obtain ⟨c, hfits, -, hflow⟩ := requestExpr_traces.mp hinner
      cases hflow
      obtain ⟨rfl, rfl⟩ := (gives_errorHandling _ hfits.result_cases).mp hrest
      exact ⟨inner, hinner, rfl⟩
  · rintro ⟨inner, hinner, rfl⟩
    obtain ⟨c, hfits, -, hflow⟩ := requestExpr_traces.mp hinner
    cases hflow
    exact Or.inr ⟨inner, _, c.result, rfl, hinner,
      (gives_errorHandling _ hfits.result_cases).mpr ⟨rfl, rfl⟩⟩

end Block

/-- **What a method does.**  Each of its runs takes one of the possible courses, and each
of those is taken: `Course.events` says which hooks are called and when.  The result is
that of the request, and the error hooks come on top exactly if it is an error. -/
theorem executionBody_courses (m : Method) (interfaceContentType : Option String)
    (scope : Bindings) (events : List Event) (v : Datum) :
    (Stmt.Yields scope (executionBody m interfaceContentType) events v ↔
      ∃ c : Course, c.Fits m ∧ events = c.events m ∧ v = c.result) ∧
    (Stmt.Yields scope (executionBody m interfaceContentType) events v ↔
      ∃ inner, (requestExpr m interfaceContentType).traces scope inner (.next v) ∧
        events = inner ++ if v.isError then errorHooks m else []) := by
  refine ⟨executionBody_yields.trans ⟨?_, ?_⟩, executionBody_yields⟩
  · rintro ⟨inner, hinner, rfl⟩
    obtain ⟨c, hfits, rfl, hflow⟩ := requestExpr_traces.mp hinner
    cases hflow
    exact ⟨c, hfits, rfl, rfl⟩
  · rintro ⟨c, hfits, rfl, rfl⟩
    exact ⟨c.requestEvents m, requestExpr_traces.mpr ⟨c, hfits, rfl, rfl⟩, rfl⟩

example (m : Method) :
    Course.events m ⟨true, some 404, some "gone", .err (transportError 404 (some "gone"))⟩ =
      [.built, .called "on_before_request", .called (MethodHooks.of m).before,
        .answered 404, .read "gone",
        .called "on_request_fail", .called (MethodHooks.of m).fail,
        .called "on_request_error", .called (MethodHooks.of m).error] := rfl

end Request
end ClientSynth
