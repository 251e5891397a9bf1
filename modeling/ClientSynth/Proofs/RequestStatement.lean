import ClientSynth.Proofs.Statement
import ClientSynth.Request.Execution

/-! # The statements of a method

Which names a method's body binds and which hooks it calls, each in order and with
nothing left out.  What is made of the parameters is plain code, with one
exception: the items of a sequence that are joined by a separator are put into a
list with a name of its own. -/
namespace ClientSynth
namespace Request

open Contract Code

/-! ### Expressions without statements -/

section Expressions
variable {e : Expr}

@[simp] theorem statements_textExpr (e : Expr) : (textExpr e).statements = e.statements := by
  simp [textExpr, Expr.method0]

@[simp] theorem statements_encoded (e : Expr) : (encoded e).statements = e.statements := by
  simp [encoded]

@[simp] theorem statements_isNotEmpty (e : Expr) : (isNotEmpty e).statements = e.statements := by
  simp [isNotEmpty, Expr.method0]

@[simp] theorem statements_formatValue (format : String) (e : Expr) :
    (formatValue format e).2.statements = e.statements := by
  unfold formatValue
  split <;> simp

@[simp] theorem statements_shown (format : Option String) (e : Expr) :
    (shown format e).2.statements = e.statements := by
  cases format with
  | none => rfl
  | some f => exact statements_formatValue f e

@[simp] theorem statements_displayed (format : Option String) (e : Expr) :
    (displayed format e).statements = e.statements := by
  unfold displayed
  split
  · dsimp only
    split <;> simp
  · simp

@[simp] theorem statements_presentItems (type : DeclaredType) (e : Expr) :
    (presentItems type e).statements = e.statements := by
  unfold presentItems
  dsimp only
  split <;> simp [Expr.method0]

@[simp] theorem statements_payload (p : Parameter) (asText : Bool) (e : Expr) :
    (payload p asText e).statements = e.statements := by
  unfold payload
  split
  · simp
  · split <;> simp

@[simp] theorem statements_encodedItem : encodedItem.statements = [] := by simp [encodedItem]

@[simp] theorem statements_pathArgument (p : Parameter) : (pathArgument p).2.statements = [] := by
  unfold pathArgument
  split
  · dsimp only
    split <;> simp [Expr.method0, Expr.lambda]
  · simp

theorem statements_pathPieces (parameters : List Parameter) (parts : List UrlPart) :
    ∀ e ∈ (pathPieces parameters parts).2, e.statements = [] := by
  induction parts with
  | nil => exact fun e he => nomatch he
  | cons part rest ih =>
      unfold pathPieces
      dsimp only
      split
      · exact List.forall_mem_cons.mpr ⟨statements_pathArgument _, ih⟩
      · exact ih

@[simp] theorem statements_pathExpr (template : String) (parameters : List Parameter) :
    (pathExpr template parameters).statements = [] := by
  have hpieces := statements_pathPieces parameters (Placeholder.parts template.toList)
  unfold pathExpr
  split
  · rfl
  · next heq => exact Expr.statementsAll_eq_nil (by rwa [heq] at hpieces)

@[simp] theorem statements_cancelArgument (m : Method) : (cancelArgument m).statements = [] := by
  unfold cancelArgument
  split
  · rfl
  · dsimp only
    split <;> rfl

@[simp] theorem statements_readResponse (m : Method) (locals : Locals) :
    (readResponse m locals).statements = [] := by
  simp [readResponse]

end Expressions

/-! ### What is made of the parameters -/

section Parameters
variable {locals : Locals} {p : Parameter} {value : Expr}

theorem mem_statementsAll_whenPresent {emit : Expr → Block} {s : Stmt}
    (h : s ∈ Stmt.statementsAll (whenPresent p emit)) :
    (∃ body, s = .ifLet "Some" p.name (.borrow (.ident p.name)) body) ∨
      s ∈ Stmt.statementsAll (emit (.ident p.name)) := by
  unfold whenPresent at h
  dsimp only at h
  split at h
  · simp only [Stmt.statementsAll, Stmt.statements, Expr.statements, List.append_nil,
      List.cons_append, List.nil_append, List.mem_cons] at h
    exact h.imp (fun hs => ⟨_, hs⟩) id
  · exact Or.inr h

theorem arePlain_whenPresent {emit : Expr → Block} (h : Stmt.ArePlain (emit (.ident p.name))) :
    Stmt.ArePlain (whenPresent p emit) := by
  intro s hs
  rcases mem_statementsAll_whenPresent hs with ⟨body, rfl⟩ | hs
  · rfl
  · exact h s hs

theorem arePlain_pushQuery {query : String} {b : QueryBinding} (h : value.statements = []) :
    Stmt.ArePlain (pushQuery query b value) := by
  unfold Stmt.ArePlain pushQuery
  split <;> simp [pushPair, h]

theorem arePlain_bindHeader : Stmt.ArePlain (bindHeader locals p) := by
  unfold bindHeader
  split
  · refine arePlain_whenPresent ?_
    unfold Stmt.ArePlain setHeader
    dsimp only
    split <;> simp
  · exact Stmt.arePlain_nil

theorem arePlain_bindBody {method interface : Option String} :
    Stmt.ArePlain (bindBody locals method interface p) := by
  unfold bindBody
  split
  · refine arePlain_whenPresent ?_
    simp [Stmt.ArePlain, setBody]
  · exact Stmt.arePlain_nil

/-- What adds to the request builder is plain code. -/
theorem arePlain_builderStatements (m : Method) (interfaceContentType : Option String)
    (locals : Locals) : Stmt.ArePlain (builderStatements m interfaceContentType locals) := by
  refine Stmt.arePlain_append (Stmt.arePlain_flatMap (fun p _ => arePlain_bindHeader)) ?_
  unfold bodyStatements
  split
  · exact arePlain_bindBody
  · exact Stmt.arePlain_nil

/-- Whether the items of a parameter are joined by a separator. -/
def isJoined (p : Parameter) : Bool :=
  match p.role with
  | .arrayQuery _ separator => separator.isSome
  | _ => false

/-- The `let` of a parameter's joined items. -/
def joinedBinding (p : Parameter) : Stmt :=
  .bindTyped (joinedValues p) "Vec<String>"
    (((presentItems p.type (.ident p.name)).method "map" [.lambda ["item"] encodedItem]).method0
      "collect")

section Select
variable {α : Type} {select : Stmt → Option α}
  (hselect : ∀ s, s.isPlain = true → select s = none)
include hselect

theorem collect_whenPresent {emit : Expr → Block} :
    Stmt.collect select (whenPresent p emit) = Stmt.collect select (emit (.ident p.name)) := by
  unfold whenPresent
  dsimp only
  split
  · simp only [Stmt.collect, Stmt.statementsAll, Stmt.statements, Expr.statements, List.append_nil]
    exact List.filterMap_cons_none (hselect _ rfl)
  · rfl

theorem collect_pushItems (query key : String) (separator : Option String) :
    Stmt.collect select (pushItems query key separator p (.ident p.name)) =
      if separator.isSome then [joinedBinding p].filterMap select else [] := by
  cases separator with
  | none =>
      have hplain : Stmt.ArePlain (pushItems query key none p (.ident p.name)) := by
        simp [Stmt.ArePlain, pushItems, pushPair]
      exact hplain.collect_eq_nil hselect
  | some s =>
      -- The list of the items is what the `let` binds; what is done with it is plain.
      have hrest : Stmt.ArePlain [.ifThen (isNotEmpty (.ident (joinedValues p)))
          [pushPair query key ((Expr.ident (joinedValues p)).method "join" [.str s])]] := by
        simp [Stmt.ArePlain, pushPair]
      have hbinding : (joinedBinding p).statements = [joinedBinding p] := by
        simp [joinedBinding, Stmt.bindTyped, Expr.method0, Expr.lambda]
      have hitems : pushItems query key (some s) p (.ident p.name) = [joinedBinding p,
        .ifThen (isNotEmpty (.ident (joinedValues p)))
          [pushPair query key ((Expr.ident (joinedValues p)).method "join" [.str s])]] := rfl
      rw [hitems, Stmt.collect_cons, hrest.collect_eq_nil hselect, List.append_nil, hbinding]
      rfl

/-- A query parameter adds plain code, and the list of its items if they are joined. -/
theorem collect_bindQuery :
    Stmt.collect select (bindQuery locals p) =
      if isJoined p then [joinedBinding p].filterMap select else [] := by
  unfold bindQuery isJoined
  cases p.role with
  | query b =>
      dsimp only
      rw [collect_whenPresent hselect]
      exact (arePlain_pushQuery (by rfl)).collect_eq_nil hselect
  | arrayQuery key separator =>
      dsimp only
      rw [collect_whenPresent hselect, collect_pushItems hselect]
  | _ => rfl

/-- The query statements declare the list of pairs, and then the lists of joined items. -/
theorem collect_queryStatements (parameters : List Parameter) :
    Stmt.collect select (queryStatements parameters locals) =
      (.bind locals.query (!(parameters.filter (fun p => p.role.isQuery)).isEmpty) (some queryType)
          (.call "Vec::new" []) ::
        (parameters.filter isJoined).map joinedBinding).filterMap select := by
  have hjoined : ∀ ps : List Parameter,
      (ps.filter (fun p => p.role.isQuery)).flatMap
          (fun p => Stmt.collect select (bindQuery locals p)) =
        ((ps.filter isJoined).map joinedBinding).filterMap select := by
    intro ps
    induction ps with
    | nil => rfl
    | cons p rest ih =>
        -- Nothing that is joined is left out with what does not go into the query.
        have hquery : isJoined p = true → p.role.isQuery = true := by
          unfold isJoined Role.isQuery
          split <;> simp_all
        by_cases hp : isJoined p
        · rw [List.filter_cons_of_pos (by exact hquery hp), List.filter_cons_of_pos hp,
            List.flatMap_cons, ih, collect_bindQuery hselect, if_pos hp, List.map_cons,
            ← List.filterMap_append]
          rfl
        · rw [List.filter_cons_of_neg hp, ← ih, List.filter_cons]
          split
          · rw [List.flatMap_cons, collect_bindQuery hselect, if_neg hp, List.nil_append]
          · rfl
  unfold queryStatements
  dsimp only
  rw [Stmt.collect_cons, Stmt.collect_flatMap, hjoined, ← List.filterMap_append]
  rfl

end Select

end Parameters

/-! ### What a method binds and calls -/

section Method
variable (m : Method) (interfaceContentType : Option String) (locals : Locals)

/-- The statements of a request after the defaults. -/
def requestSteps : Block :=
  let additions := builderStatements m interfaceContentType locals
  addressStatements m locals ++ builderStatement m additions locals :: additions ++
    sendStatements m locals ++ failStatement m locals :: afterStatements m locals ++
    valueStatements m locals

theorem requestBlock_eq : requestBlock m interfaceContentType locals =
    defaultStatements m.parameters ++ requestSteps m interfaceContentType locals := by
  simp [requestBlock, requestSteps]

/-- A default is a `let` of the parameter's own name. -/
theorem defaultStatement_eq_some {p : Parameter} {s : Stmt} (h : defaultStatement p = some s) :
    ∃ fallback,
      s = .bindTo p.name ((Expr.ident p.name).method "or_else" [.lambda [] (.raw fallback)]) := by
  unfold defaultStatement at h
  split at h
  · obtain ⟨fallback, -, rfl⟩ := Option.map_eq_some_iff.mp h
    exact ⟨fallback, rfl⟩
  · cases h

theorem statements_defaultStatement {p : Parameter} {s : Stmt} (h : defaultStatement p = some s) :
    s.statements = [s] := by
  obtain ⟨fallback, rfl⟩ := defaultStatement_eq_some h
  simp [Stmt.bindTo, Expr.lambda]

theorem statementsAll_defaultStatements (parameters : List Parameter) :
    Stmt.statementsAll (defaultStatements parameters) = defaultStatements parameters := by
  unfold defaultStatements
  induction parameters with
  | nil => rfl
  | cons p rest ih =>
      cases hp : defaultStatement p with
      | none => rw [List.filterMap_cons_none hp, ih]
      | some s =>
          rw [List.filterMap_cons_some hp, Stmt.statementsAll, ih, statements_defaultStatement hp]
          rfl

theorem boundNames_addressStatements : Stmt.collect Stmt.boundName? (addressStatements m locals) =
    locals.path :: locals.query :: (m.parameters.filter isJoined).map joinedValues ++
      [locals.url] := by
  have hjoined : ((m.parameters.filter isJoined).map joinedBinding).filterMap Stmt.boundName? =
      (m.parameters.filter isJoined).map joinedValues := by
    rw [List.filterMap_map]
    exact congrFun List.filterMap_eq_map _
  unfold addressStatements
  rw [List.cons_append, Stmt.collect_cons, Stmt.collect_append,
    collect_queryStatements Stmt.boundName?_of_isPlain, List.filterMap_cons, hjoined]
  simp [Stmt.bindTo, Stmt.collect]

theorem boundNames_sendStatements : Stmt.collect Stmt.boundName? (sendStatements m locals) =
    [locals.request, locals.response, locals.status] := by
  simp [sendStatements, Stmt.collect, Stmt.bindTo, Expr.method0, List.filterMap_cons]

theorem boundNames_failStatement :
    (failStatement m locals).statements.filterMap Stmt.boundName? = [locals.body] := by
  simp [failStatement, failHandling, Stmt.bindTo, Expr.method0, List.filterMap_cons]

theorem boundNames_afterStatements :
    Stmt.collect Stmt.boundName? (afterStatements m locals) = [] := by
  simp [afterStatements, Stmt.collect]

theorem boundNames_valueStatements : Stmt.collect Stmt.boundName? (valueStatements m locals) =
    if m.returns.value?.isSome then [locals.text] else [] := by
  unfold valueStatements
  cases m.returns.value? <;>
    simp [Stmt.collect, Stmt.bindTo, Expr.method0]

/-- **The names that a request binds** after the defaults: the locals, and the lists of
joined items. -/
theorem boundNames_requestSteps :
    Stmt.collect Stmt.boundName? (requestSteps m interfaceContentType locals) =
      locals.path :: locals.query :: (m.parameters.filter isJoined).map joinedValues ++
        [locals.url, locals.builder, locals.request, locals.response, locals.status, locals.body] ++
        if m.returns.value?.isSome then [locals.text] else [] := by
  have hplain := arePlain_builderStatements m interfaceContentType locals
  have hbuilder : (builderStatement m (builderStatements m interfaceContentType locals)
      locals).statements.filterMap Stmt.boundName? = [locals.builder] := by
    simp [builderStatement]
  unfold requestSteps
  simp only [Stmt.collect_append, Stmt.collect_cons, boundNames_addressStatements,
    hplain.collect_eq_nil Stmt.boundName?_of_isPlain, hbuilder, boundNames_sendStatements,
    boundNames_failStatement, boundNames_afterStatements, boundNames_valueStatements]
  simp

/-! #### Hooks -/

/-- The calls of the hooks before a request. -/
theorem hookCalls_sendStatements : Stmt.collect Stmt.hookCall? (sendStatements m locals) =
    [("on_before_request", 2), ((MethodHooks.of m).before, 1)] := by
  simp [sendStatements, Stmt.collect, Stmt.bindTo, Expr.method0, List.filterMap_cons]

theorem hookCalls_failStatement :
    (failStatement m locals).statements.filterMap Stmt.hookCall? =
      [("on_request_fail", 3), ((MethodHooks.of m).fail, 2)] := by
  simp [failStatement, failHandling, Stmt.bindTo, Expr.method0, List.filterMap_cons]

theorem hookCalls_afterStatements : Stmt.collect Stmt.hookCall? (afterStatements m locals) =
    [("on_after_response", 2), ((MethodHooks.of m).after, 1)] := by
  simp [afterStatements, Stmt.collect]

theorem hookCalls_valueStatements :
    Stmt.collect Stmt.hookCall? (valueStatements m locals) = [] := by
  unfold valueStatements
  cases m.returns.value? <;>
    simp [Stmt.collect, Stmt.bindTo, Expr.method0]

theorem hookCalls_defaultStatements :
    Stmt.collect Stmt.hookCall? (defaultStatements m.parameters) = [] := by
  rw [Stmt.collect, statementsAll_defaultStatements]
  refine List.filterMap_eq_nil_iff.mpr (fun s hs => ?_)
  obtain ⟨p, -, hp⟩ := List.mem_filterMap.mp hs
  obtain ⟨fallback, rfl⟩ := defaultStatement_eq_some hp
  rfl

theorem hookCalls_addressStatements :
    Stmt.collect Stmt.hookCall? (addressStatements m locals) = [] := by
  have hjoined : ((m.parameters.filter isJoined).map joinedBinding).filterMap Stmt.hookCall? = [] :=
    List.filterMap_eq_nil_iff.mpr (List.forall_mem_map.mpr (fun p _ => rfl))
  unfold addressStatements
  rw [List.cons_append, Stmt.collect_cons, Stmt.collect_append,
    collect_queryStatements Stmt.hookCall?_of_isPlain, List.filterMap_cons, hjoined]
  simp [Stmt.bindTo, Stmt.collect]

/-- The hooks that a request calls, an unsuccessful answer's before a successful one's. -/
theorem hookCalls_requestBlock :
    Stmt.collect Stmt.hookCall? (requestBlock m interfaceContentType locals) =
      [("on_before_request", 2), ((MethodHooks.of m).before, 1),
        ("on_request_fail", 3), ((MethodHooks.of m).fail, 2),
        ("on_after_response", 2), ((MethodHooks.of m).after, 1)] := by
  have hplain := arePlain_builderStatements m interfaceContentType locals
  have hbuilder : (builderStatement m (builderStatements m interfaceContentType locals)
      locals).statements.filterMap Stmt.hookCall? = [] := by
    simp [builderStatement]
  rw [requestBlock_eq]
  unfold requestSteps
  simp only [Stmt.collect_append, Stmt.collect_cons, hookCalls_defaultStatements,
    hookCalls_addressStatements, hplain.collect_eq_nil Stmt.hookCall?_of_isPlain, hbuilder,
    hookCalls_sendStatements, hookCalls_failStatement, hookCalls_afterStatements,
    hookCalls_valueStatements]
  simp

theorem statements_requestExpr : (requestExpr m interfaceContentType).statements =
    Stmt.statementsAll (requestBlock m interfaceContentType (localsOf m)) := by
  unfold requestExpr
  dsimp only
  split <;> simp

/-- **The hooks that a method calls**, each with the number of its arguments. -/
theorem hookCalls_executionBody :
    Stmt.collect Stmt.hookCall? (executionBody m interfaceContentType) =
      [("on_before_request", 2), ((MethodHooks.of m).before, 1),
        ("on_request_fail", 3), ((MethodHooks.of m).fail, 2),
        ("on_after_response", 2), ((MethodHooks.of m).after, 1),
        ("on_request_error", 2), ((MethodHooks.of m).error, 1)] := by
  have hrequest := hookCalls_requestBlock m interfaceContentType (localsOf m)
  have hbind : (Stmt.bindTyped (localsOf m).result (returnType m)
      (requestExpr m interfaceContentType)).statements.filterMap Stmt.hookCall? =
        Stmt.collect Stmt.hookCall? (requestBlock m interfaceContentType (localsOf m)) := by
    rw [Stmt.bindTyped, Stmt.statements, statements_requestExpr]
    rfl
  unfold executionBody guarded
  dsimp only
  rw [Stmt.collect_cons, hbind, hrequest]
  simp [errorHandling, Stmt.collect, List.filterMap_cons]

end Method

end Request
end ClientSynth
