import ClientSynth.Proofs.Locals
import ClientSynth.Proofs.Preparation

/-! # What comes of a request

The runs of the request block, stage by stage from its end: what a successful
answer comes to, what any answer comes to, and what sending a request comes to.
Everything before that only prepares, so it shows in none of them. -/
namespace ClientSynth
namespace Request

open Contract Code

/-- An interface's hook and that of its method are called. -/
def calls (interface method : String) : List Event := [.called interface, .called method]

section Hooks
variable (m : Method)

def beforeHooks : List Event := calls "on_before_request" (MethodHooks.of m).before

def afterHooks : List Event := calls "on_after_response" (MethodHooks.of m).after

def failHooks : List Event := calls "on_request_fail" (MethodHooks.of m).fail

def errorHooks : List Event := calls "on_request_error" (MethodHooks.of m).error

end Hooks

/-- The text of an answer, or the default one if it was not read. -/
def textOrDefault (text : Option String) : Datum := (text.map Datum.text).getD .fallback

/-- The error that an unsuccessful answer becomes. -/
def transportError (code : Nat) (text : Option String) : Datum :=
  .record (errorType ++ "::Transport") [("status", .number code), ("body", textOrDefault text)]

/-- The text of an answer is read, if it can be. -/
def reading (text : Option String) : List Event := (text.map Event.read).toList

/-! ### Steps of the request block -/

section Steps
variable {m : Method} {locals : Locals} {scope : Bindings} {frame : Frame} {rest : Block}
  {f : Frame → Traces Datum} {events : List Event} {v : Datum} {args : List Expr}

theorem gives_hooks {margs : List Expr} (h : ∀ e ∈ args, e.IsQuiet False)
    (hm : ∀ e ∈ margs, e.IsQuiet False) (interface method : String) :
    (Stmt.runThen frame (.hook interface args :: .hook method margs :: rest) f).gives events v ↔
      ∃ more, events = calls interface method ++ more ∧
        (Stmt.runThen ⟨frame.scope, .unit⟩ rest f).gives more v := by
  simp [Stmt.gives_runThen_hook h, Stmt.gives_runThen_hook hm, calls]

/-- Reading an answer. -/
theorem traces_readResponse : (readResponse m locals).traces scope =
    .either .failing (do
      let text ← .any
      Traces.emit (.read text)
      return .ok (.text text)) := by
  have hargs : ∀ e ∈ [Expr.ident locals.response, cancelArgument m], e.IsQuiet False := by
    simpa using ⟨Expr.isQuiet_ident _, cancelArgument_isQuiet m⟩
  exact Expr.traces_call hargs (by decide) (fun vs => rfl) scope

theorem gives_bind_text :
    (Stmt.runThen frame (.bindTo locals.text (.attempt (readResponse m locals)) :: rest) f).gives
        events v ↔
      (events = [] ∧ v.isError) ∨
      ∃ text more, events = .read text :: more ∧
        (Stmt.runThen ⟨frame.scope.bound locals.text (some (.text text)), .unit⟩ rest f).gives
          more v := by
  rw [Stmt.bindTo, Stmt.runThen_bind, Expr.traces, traces_readResponse]
  simp [Traces.bind_bind, Traces.failing, Datum.attempt, Datum.isError_iff]

/-- A decoded text may be any value, or none. -/
theorem gives_decoded {text : Expr} (h : text.IsQuiet False) :
    ((Expr.call "Ok" [.attempt (.call "serde_json::from_str" [.borrow text])]).traces scope).gives
        events v ↔ events = [] ∧ (v.isError ∨ ∃ value, v = .ok value) := by
  have hcall : (Expr.call "serde_json::from_str" [.borrow text]).traces scope = .any :=
    Expr.traces_call (List.forall_mem_singleton.mpr (Expr.isQuiet_borrow h)) (by decide)
      (fun vs => rfl) scope
  have hok :
      (Expr.call "Ok" [.attempt (.call "serde_json::from_str" [.borrow text])]).traces scope =
        (.any >>= Datum.attempt) >>= fun value => pure (Datum.ok value) := by
    unfold Expr.traces Expr.tracesAll Expr.traces
    rw [hcall, Datum.entering, if_neg (by decide)]
    simp [Traces.bind_bind, Expr.tracesAll, Datum.call]
  rw [hok, Datum.any_attempt, Traces.either_bind, Traces.fail_bind, Traces.gives_either,
    Traces.gives_any_bind, Traces.gives_fail, Datum.isError_iff, or_comm, and_or_left]
  simp only [Traces.gives_pure, exists_and_left]

theorem traces_isBlank (scope : Bindings) (name text : String) :
    (((Expr.ident name).method0 "trim").method0 "is_empty").traces
        (scope.bound name (some (.text text))) = pure (.flag (Text.isBlankText text)) := by
  simp [Expr.method0, Expr.traces, Expr.tracesAll, Bindings.read_bound, Datum.method,
    Text.isEmpty_stripBlanks]

/-- What becomes of a successful answer after its hooks. -/
def ComesOfSuccess (m : Method) (events : List Event) (v : Datum) : Prop :=
  match m.returns.value? with
  | none => events = [] ∧ v = .ok .unit
  | some _ => (events = [] ∧ v.isError) ∨
    ∃ text, events = [.read text] ∧
      if Text.isBlankText text then v = .ok .fallback else v.isError ∨ ∃ value, v = .ok value

theorem gives_value : (Stmt.runThen frame (valueStatements m locals)
      (fun frame => pure frame.value)).gives events v ↔ ComesOfSuccess m events v := by
  unfold valueStatements ComesOfSuccess
  cases m.returns.value? with
  | none =>
      rw [Stmt.runThen_tail]
      exact Traces.gives_pure
  | some type =>
      dsimp only
      rw [gives_bind_text]
      refine or_congr_right (exists_congr (fun text => ?_))
      rw [Stmt.runThen_ifThen (traces_isBlank _ _ _)]
      cases Text.isBlankText text with
      | true =>
          rw [if_pos rfl, Stmt.runThen_ret]
          simp [Expr.traces, Datum.verbatim]
      | false =>
          rw [if_neg Bool.false_ne_true, Stmt.runThen_tail]
          simp only [gives_decoded (Expr.isQuiet_ident locals.text)]
          simp

/-- The scope in which an answer is judged. -/
def answeredScope (locals : Locals) (scope : Bindings) (code : Nat) : Bindings :=
  scope.bound locals.status (some (.status code))

theorem traces_transportError (hne : Identifier.variableName locals.status ≠
      Identifier.variableName locals.body) (code : Nat) (text : Option String) :
    (Expr.call "Err" [.record (errorType ++ "::Transport")
        [("status", (Expr.ident locals.status).method0 "as_u16"),
          ("body", .ident locals.body)]]).traces
      ((answeredScope locals scope code).bound locals.body
        (some (textOrDefault text))) = pure (.err (transportError code text)) := by
  simp [Expr.traces, Expr.tracesAll, Expr.tracesFields, Expr.method0, Datum.entering, Datum.call,
    Bindings.read_bound, Bindings.read_bound_ne _ _ hne, answeredScope, Datum.method,
    transportError]

theorem gives_failHandling (hne : Identifier.variableName locals.status ≠
      Identifier.variableName locals.body) (code : Nat) (text : Option String) :
    (Stmt.runThen ⟨(answeredScope locals scope code).bound locals.body
        (some (textOrDefault text)), .unit⟩ (failHandling m locals) f).gives
      events v ↔ events = failHooks m ∧ v = .err (transportError code text) := by
  have hstatus : (Expr.ident locals.status).IsQuiet False := Expr.isQuiet_ident _
  have hbody : (Expr.ident locals.body).IsQuiet False := Expr.isQuiet_ident _
  have hargs : ∀ e ∈ [Expr.ident locals.status, .borrow (.ident locals.body)], e.IsQuiet False := by
    simpa using ⟨hstatus, Expr.isQuiet_borrow hbody⟩
  unfold failHandling
  dsimp only
  rw [gives_hooks (List.forall_mem_cons.mpr ⟨Expr.isQuiet_str _, hargs⟩) hargs]
  simp only [Stmt.runThen_log (List.forall_mem_cons.mpr ⟨hstatus,
      List.forall_mem_singleton.mpr hbody⟩), Stmt.runThen_ret, traces_transportError hne,
    Traces.bind_pure_left, Traces.gives_leave]
  simp [failHooks]

theorem gives_readOrDefault {g : Datum → Traces Datum} :
    ((((readResponse m locals).method0 "unwrap_or_default").traces scope) >>= g).gives events v ↔
      ∃ text more, events = reading text ++ more ∧ (g (textOrDefault text)).gives more v := by
  have hread : ((readResponse m locals).method0 "unwrap_or_default").traces scope =
      .either (.any >>= fun _ : Datum => pure .fallback)
        (do
          let text ← .any
          Traces.emit (.read text)
          return .text text) := by
    simp [Expr.traces, Expr.tracesAll, Expr.method0, traces_readResponse, Traces.failing,
      Traces.bind_bind, Datum.method]
  rw [hread, Traces.either_bind, Traces.gives_either, Option.exists]
  simp [Traces.bind_bind, reading, textOrDefault]

theorem gives_failStatement (hne : Identifier.variableName locals.status ≠
      Identifier.variableName locals.body) (code : Nat) :
    (Stmt.runThen ⟨answeredScope locals scope code, .unit⟩ (failStatement m locals :: rest) f).gives
        events v ↔
      if isSuccessCode code then
        (Stmt.runThen ⟨answeredScope locals scope code, .unit⟩ rest f).gives events v
      else ∃ text, events = reading text ++ failHooks m ∧ v = .err (transportError code text) := by
  have htest : (Expr.negate ((Expr.ident locals.status).method0 "is_success")).traces
      (answeredScope locals scope code) = pure (.flag !isSuccessCode code) := by
    simp [Expr.traces, Expr.tracesAll, Expr.method0, answeredScope, Bindings.read_bound,
      Datum.method, Datum.negate]
  unfold failStatement
  rw [Stmt.runThen_ifThen htest]
  cases isSuccessCode code with
  | true => rfl
  | false =>
      rw [Bool.not_false, if_pos rfl, if_neg Bool.false_ne_true, Stmt.bindTo, Stmt.runThen_bind,
        gives_readOrDefault]
      refine exists_congr (fun text => ?_)
      simp only [Bool.false_eq_true, if_false, gives_failHandling hne]
      simp

/-- What comes of an answer. -/
def ComesOfAnswer (m : Method) (code : Nat) (events : List Event) (v : Datum) : Prop :=
  if isSuccessCode code then ∃ more, events = afterHooks m ++ more ∧ ComesOfSuccess m more v
  else ∃ text, events = reading text ++ failHooks m ∧ v = .err (transportError code text)

/-- The statements after an answer. -/
theorem gives_answered (hne : Identifier.variableName locals.status ≠
      Identifier.variableName locals.body) (code : Nat) :
    (Stmt.runThen ⟨answeredScope locals scope code, .unit⟩
        (failStatement m locals :: afterStatements m locals ++ valueStatements m locals)
        (fun frame => pure frame.value)).gives events v ↔ ComesOfAnswer m code events v := by
  have hresponse : (Expr.borrow (.ident locals.response)).IsQuiet False :=
    Expr.isQuiet_borrow (Expr.isQuiet_ident _)
  rw [List.cons_append, gives_failStatement hne]
  unfold afterStatements
  dsimp only
  rw [List.cons_append, List.singleton_append,
    gives_hooks (List.forall_mem_cons.mpr ⟨Expr.isQuiet_str _,
      List.forall_mem_singleton.mpr hresponse⟩) (List.forall_mem_singleton.mpr hresponse)]
  simp only [gives_value]
  rfl

theorem gives_build {g : Datum → Traces Datum} :
    ((Expr.attempt ((Expr.ident locals.builder).method0 "build")).traces scope >>= g).gives
        events v ↔
      (events = [] ∧ v.isError) ∨
      ∃ more request, events = .built :: more ∧ (g request).gives more v := by
  have hmethod : ∀ v : Datum, v.method "build" = .either .failing (do
      Traces.emit .built
      return .ok (← .any)) := fun v => rfl
  have hbuild : ((Expr.ident locals.builder).method0 "build").traces scope =
      .either .failing (do
        Traces.emit .built
        return .ok (← .any)) := by
    simp only [Expr.method0, Expr.traces, Expr.tracesAll, hmethod, Traces.bind_pure_left]
    exact (scope.read_isQuiet locals.builder).bind_const _
  unfold Expr.traces
  rw [hbuild, Datum.isError_iff]
  simp [Traces.bind_bind, Traces.failing, Datum.attempt, exists_and_left]

theorem gives_sendRequest {g : Datum → Traces Datum} :
    ((Expr.attempt (.await (.call "send_request"
        [.raw "&self.client", .ident locals.request, cancelArgument m]))).traces scope >>= g).gives
        events v ↔
      (events = [] ∧ v.isError) ∨
      ∃ code more, events = .answered code :: more ∧ (g (.response code)).gives more v := by
  have hargs : ∀ e ∈ [.raw "&self.client", Expr.ident locals.request, cancelArgument m],
      e.IsQuiet False := by
    simpa using ⟨Expr.isQuiet_raw _, Expr.isQuiet_ident _, cancelArgument_isQuiet m⟩
  have hsend : (Expr.call "send_request"
        [.raw "&self.client", .ident locals.request, cancelArgument m]).traces scope =
      .either .failing (do
        let code ← .any
        Traces.emit (.answered code)
        return .ok (.response code)) := Expr.traces_call hargs (by decide) (fun vs => rfl) scope
  unfold Expr.traces Expr.traces
  rw [hsend, Datum.isError_iff]
  simp [Traces.bind_bind, Traces.failing, Datum.attempt]

/-- What comes of a request, `S` telling what comes of an answer. -/
def ComesOf (m : Method) (S : Nat → List Event → Datum → Prop) (events : List Event) (v : Datum) :
    Prop :=
  (events = [] ∧ v.isError) ∨
  ∃ more, events = .built :: beforeHooks m ++ more ∧
    ((more = [] ∧ v.isError) ∨ ∃ code rest, more = .answered code :: rest ∧ S code rest v)

/-- The statements that send a request, before any that depend on its answer. -/
theorem gives_send {S : Nat → List Event → Datum → Prop}
    (hf : ∀ scope code events v,
      (f ⟨answeredScope locals scope code, .unit⟩).gives events v ↔ S code events v) :
    (Stmt.runThen frame (sendStatements m locals) f).gives events v ↔ ComesOf m S events v := by
  have hrequest : (Expr.raw ("&mut " ++ locals.request)).IsQuiet False := Expr.isQuiet_raw _
  unfold sendStatements
  dsimp only
  rw [Stmt.runThen_bind, gives_build]
  have hstatus : ∀ (scope : Bindings) (code : Nat),
      ((Expr.ident locals.response).method0 "status").traces
        (scope.bound locals.response (some (.response code))) = pure (.status code) := by
    intro scope code
    simp [Expr.method0, Expr.traces, Expr.tracesAll, Bindings.read_bound, Datum.method]
  simp only [gives_hooks (List.forall_mem_cons.mpr ⟨Expr.isQuiet_str m.name,
      List.forall_mem_singleton.mpr hrequest⟩) (List.forall_mem_singleton.mpr hrequest),
    Stmt.bindTo, Stmt.runThen_bind, gives_sendRequest, Bool.false_eq_true, if_false, hstatus,
    Traces.bind_pure_left, Stmt.runThen_nil]
  unfold answeredScope at hf
  simp [hf, beforeHooks, ComesOf]

end Steps

/-! ### Locals -/

theorem variableName_status_ne_body (m : Method) :
    Identifier.variableName (localsOf m).status ≠ Identifier.variableName (localsOf m).body := by
  have hstatus := isPlainWord_of_mem_baseNames "status" (by decide)
  have hbody := isPlainWord_of_mem_baseNames "body" (by decide)
  intro h
  simp only [localsOf, Locals.beside, freeName, hstatus.variableName_suffixed,
    hbody.variableName_suffixed] at h
  exact absurd (hstatus.eq_of_suffixed hbody h) (by decide)

/-! ### The request block -/

section Block
variable {m : Method} {interfaceContentType : Option String} {scope : Bindings}
  {events : List Event} {v : Datum}

/-- Everything before the request is built only prepares, and so does not show. -/
theorem requestBlock_yields :
    Stmt.Yields scope (requestBlock m interfaceContentType (localsOf m)) events v ↔
      ComesOf m (ComesOfAnswer m) events v := by
  have hprepare : ∀ s ∈ defaultStatements m.parameters ++ addressStatements m (localsOf m) ++
      builderStatement m (builderStatements m interfaceContentType (localsOf m)) (localsOf m) ::
        builderStatements m interfaceContentType (localsOf m), s.IsQuiet True := by
    rw [List.forall_mem_append, List.forall_mem_append, List.forall_mem_cons]
    exact ⟨⟨defaultStatements_isQuiet _, addressStatements_isQuiet m _⟩,
      builderStatement_isQuiet m _ _, builderStatements_isQuiet m _ _⟩
  have hblock : requestBlock m interfaceContentType (localsOf m) =
      (defaultStatements m.parameters ++ addressStatements m (localsOf m) ++
        builderStatement m (builderStatements m interfaceContentType (localsOf m)) (localsOf m) ::
          builderStatements m interfaceContentType (localsOf m)) ++
      (sendStatements m (localsOf m) ++
        (failStatement m (localsOf m) :: afterStatements m (localsOf m) ++
          valueStatements m (localsOf m))) := by
    simp [requestBlock]
  rw [Stmt.Yields, hblock, Stmt.runThen_append]
  -- An error while preparing cannot be told from a request that could not be built.
  have herror : ∀ e, ComesOf m (ComesOfAnswer m) [] (.err e) := fun e => Or.inl ⟨rfl, rfl⟩
  refine Stmt.gives_runThen_iff hprepare (fun frame events v => ?_) herror events v
  rw [Stmt.runThen_append]
  exact gives_send (fun scope code events v => gives_answered (variableName_status_ne_body m) code)

end Block
end Request
end ClientSynth
