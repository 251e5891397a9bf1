import ClientSynth.Layer.Wrap
import ClientSynth.Proofs.Closed
import ClientSynth.Proofs.Locals
import ClientSynth.Proofs.RequestStatement
import ClientSynth.Proofs.WrapMethod

/-! # Closed bodies

The body of every generated function is closed: the request of a client method, the
call of a method written by hand, and what a wrap method forwards.  Each part of a body
leads from a scope that offers what the part uses to one that offers what the next part
uses.  What is changed is the query and the request builder; each is declared mutable
exactly if there is something to add, and nothing that is bound in between is written
like it. -/
namespace ClientSynth

open Contract Code

namespace Request

/-! ### Expressions -/

section Expressions
variable {scope : Binders} {e : Expr} {p : Parameter}

@[simp] theorem isClosed_textExpr : (textExpr e).IsClosed scope ↔ e.IsClosed scope := by
  simp [textExpr, Expr.method0]

@[simp] theorem isClosed_encoded : (encoded e).IsClosed scope ↔ e.IsClosed scope := by
  simp [encoded]

@[simp] theorem isClosed_isNotEmpty : (isNotEmpty e).IsClosed scope ↔ e.IsClosed scope := by
  simp [isNotEmpty, Expr.method0]

@[simp] theorem isClosed_formatValue (format : String) :
    (formatValue format e).2.IsClosed scope ↔ e.IsClosed scope := by
  unfold formatValue
  split <;> simp

@[simp] theorem isClosed_shown (format : Option String) :
    (shown format e).2.IsClosed scope ↔ e.IsClosed scope := by
  cases format with
  | none => rfl
  | some f => exact isClosed_formatValue f

@[simp] theorem isClosed_displayed (format : Option String) :
    (displayed format e).IsClosed scope ↔ e.IsClosed scope := by
  unfold displayed
  split
  · dsimp only
    split <;> simp
  · simp

@[simp] theorem isClosed_presentItems (type : DeclaredType) :
    (presentItems type e).IsClosed scope ↔ e.IsClosed scope := by
  unfold presentItems
  dsimp only
  split <;> simp [Expr.method0]

@[simp] theorem isClosed_encodedItem : encodedItem.IsClosed scope ↔ Binds scope "item" := by
  simp [encodedItem]

@[simp] theorem isClosed_payload (asText : Bool) :
    (payload p asText e).IsClosed scope ↔ e.IsClosed scope := by
  unfold payload
  split
  · simp
  · split <;> simp

theorem isClosed_pathArgument (h : Binds scope p.name) : (pathArgument p).2.IsClosed scope := by
  unfold pathArgument
  split
  · -- A value that may be absent is shown by a closure with a variable of its own.
    dsimp only
    split <;> simp [Expr.method0, Expr.lambda, h]
  · simpa using h

theorem isClosed_pathPieces {parameters : List Parameter}
    (h : ∀ p ∈ parameters, Binds scope p.name) (parts : List UrlPart) :
    ∀ e ∈ (pathPieces parameters parts).2, e.IsClosed scope := by
  induction parts with
  | nil => exact fun e he => nomatch he
  | cons part rest ih =>
      unfold pathPieces
      dsimp only
      split
      · next p hfilled =>
        refine List.forall_mem_cons.mpr ⟨isClosed_pathArgument (h p ?_), ih⟩
        split at hfilled
        · exact List.mem_of_find?_eq_some hfilled
        · cases hfilled
      · exact ih

theorem isClosed_pathExpr {parameters : List Parameter}
    (h : ∀ p ∈ parameters, Binds scope p.name) (template : String) :
    (pathExpr template parameters).IsClosed scope := by
  have hpieces := isClosed_pathPieces h (Placeholder.parts template.toList)
  unfold pathExpr
  split
  · trivial
  · next heq => exact Expr.areClosed_iff.mpr (by rwa [heq] at hpieces)

theorem isClosed_cancelArgument {m : Method} (h : ∀ p ∈ m.parameters, Binds scope p.name) :
    (cancelArgument m).IsClosed scope := by
  unfold cancelArgument
  split
  · trivial
  · next p hp =>
    have hbound := h p (List.mem_of_find?_eq_some hp)
    dsimp only
    split <;> simp [Expr.method0, hbound]

end Expressions

/-! ### What a scope offers -/

/-- The parameters of a method and some names are bound, and the changeable ones may be
changed. -/
structure Offers (m : Method) (bound changeable : List String) (scope : Binders) : Prop where
  parameters : ∀ p ∈ m.parameters, Binds scope p.name
  bound : ∀ name ∈ bound, Binds scope name
  changeable : ∀ name ∈ changeable, MayChange scope name

section Scopes
variable {m : Method} {bound changeable : List String} {scope : Binders}

/-- A binder that is written like none of the changeable names takes nothing away. -/
theorem Offers.cons (h : Offers m bound changeable scope) {other : String}
    (hne : ∀ name ∈ changeable, Identifier.variableName other ≠ Identifier.variableName name)
    (isMutable : Bool) : Offers m bound changeable (⟨other, isMutable⟩ :: scope) where
  parameters p hp := binds_cons.mpr (Or.inr (h.parameters p hp))
  bound name hname := binds_cons.mpr (Or.inr (h.bound name hname))
  changeable name hname :=
    (mayChange_cons_ne (hne name hname) isMutable).mpr (h.changeable name hname)

/-- A local that is bound is offered. -/
theorem Offers.bind (h : Offers m bound [] scope) (name : String) (isMutable : Bool) :
    Offers m (name :: bound) [] (⟨name, isMutable⟩ :: scope) where
  parameters := (h.cons (by simp) isMutable).parameters
  bound := List.forall_mem_cons.mpr
    ⟨binds_cons.mpr (Or.inl rfl), (h.cons (by simp) isMutable).bound⟩
  changeable := by simp

/-- A local that is declared mutable may be changed. -/
theorem Offers.bindMutable (h : Offers m bound [] scope) (name : String) :
    Offers m (name :: bound) [name] (⟨name, true⟩ :: scope) where
  parameters := (h.bind name true).parameters
  bound := (h.bind name true).bound
  changeable := by simp

/-- A parameter that is bound again takes no local away. -/
theorem Offers.consParameter (h : Offers m bound changeable scope)
    (hlocal : ∀ name ∈ changeable, name ∈ (localsOf m).toList) {p : Parameter}
    (hp : p ∈ m.parameters) (isMutable : Bool) :
    Offers m bound changeable (⟨p.name, isMutable⟩ :: scope) :=
  h.cons (fun name hname =>
    (variableName_beside_ne (hlocal name hname) (List.mem_map_of_mem hp)).symm) isMutable

theorem leads_whenPresent (hlocal : ∀ name ∈ changeable, name ∈ (localsOf m).toList)
    {p : Parameter} (hp : p ∈ m.parameters) {emit : Expr → Block}
    (h : Leads (Offers m bound changeable) (emit (.ident p.name)) (Offers m bound changeable)) :
    Leads (Offers m bound changeable) (whenPresent p emit) (Offers m bound changeable) := by
  intro scope hscope
  unfold whenPresent
  dsimp only
  split
  · obtain ⟨hclosed, -⟩ := h _ (hscope.consParameter hlocal hp false)
    refine ⟨?_, hscope⟩
    simp [hscope.parameters p hp, hclosed]
  · exact h scope hscope

end Scopes

/-! ### The parts of a request -/

section Parts
variable (m : Method)

theorem leads_defaultStatements :
    Leads (Offers m [] []) (defaultStatements m.parameters) (Offers m [] []) := by
  rw [defaultStatements, List.filterMap_eq_flatMap_toList]
  refine Leads.flatMap (fun p hp => ?_)
  cases hdefault : defaultStatement p with
  | none => exact Leads.nil
  | some s =>
      obtain ⟨fallback, rfl⟩ := defaultStatement_eq_some hdefault
      intro scope hscope
      refine ⟨?_, hscope.cons (by simp) false⟩
      simp [Stmt.bindTo, Expr.lambda, hscope.parameters p hp]

variable {m}

@[simp] theorem isClosed_pushPair {scope : Binders} {query key : String} {value : Expr} :
    (pushPair query key value).IsClosed scope ↔
      MayChange scope query ∧ Binds scope query ∧ value.IsClosed scope := by
  simp [pushPair]

/-- Adding a query value changes nothing but the query. -/
theorem closed_pushQuery {scope : Binders} {query : String} {value : Expr} (b : QueryBinding)
    (hbound : Binds scope query) (hmutable : MayChange scope query)
    (hvalue : value.IsClosed scope) :
    Stmt.AreClosed scope (pushQuery query b value) ∧
      extended scope (pushQuery query b value) = scope := by
  unfold pushQuery
  split <;> simp [hbound, hmutable, hvalue, pushPair]

/-- The variable for an item is not the query. -/
theorem variableName_item_ne_query (m : Method) :
    Identifier.variableName "item" ≠ Identifier.variableName (localsOf m).query :=
  (variableName_freeName_ne (isPlainWord_of_mem_baseNames "query" (by decide)) isPlainWord_item
    (by decide) _).symm

/-- The list of joined items is not the query. -/
theorem variableName_joinedValues_ne_query (m : Method) (p : Parameter) :
    Identifier.variableName (joinedValues p) ≠ Identifier.variableName (localsOf m).query :=
  variableName_joined_ne (isPlainWord_of_mem_baseNames "query" (by decide)) (by decide) p.name _

theorem leads_pushItems {p : Parameter} (hp : p ∈ m.parameters) (key : String)
    (separator : Option String) :
    Leads (Offers m [(localsOf m).query, (localsOf m).path] [(localsOf m).query])
      (pushItems (localsOf m).query key separator p (.ident p.name))
      (Offers m [(localsOf m).query, (localsOf m).path] [(localsOf m).query]) := by
  intro scope hscope
  have hvalue := hscope.parameters p hp
  have hquery := hscope.bound (localsOf m).query (by simp)
  have hmutable := hscope.changeable (localsOf m).query (by simp)
  have hitem := (mayChange_cons_ne (variableName_item_ne_query m) false).mpr hmutable
  have hjoined :=
    (mayChange_cons_ne (variableName_joinedValues_ne_query m p) false).mpr hmutable
  unfold pushItems
  cases separator with
  | none =>
      refine ⟨?_, hscope⟩
      simp only [Stmt.AreClosed, Stmt.IsClosed, isClosed_presentItems, Expr.IsClosed,
        isClosed_pushPair, isClosed_encodedItem, binds_cons, hvalue, hquery, hitem, true_or,
        or_true, and_self]
  | some s =>
      -- The list of joined items stays bound behind the statements; it is not the query.
      refine ⟨?_, hscope.cons ?_ false⟩
      · simp only [Stmt.bindTyped, Stmt.AreClosed, Stmt.IsClosed, Stmt.extend, Expr.method0,
          Expr.lambda, Expr.IsClosed, Expr.AreClosed, isClosed_presentItems, isClosed_isNotEmpty,
          isClosed_pushPair, isClosed_encodedItem, fixed_cons, fixed_nil, List.cons_append,
          List.nil_append, binds_cons, hvalue, hquery, hjoined, true_or, or_true, and_self,
          and_true]
        simp
      · simpa using variableName_joinedValues_ne_query m p

theorem leads_bindQuery {p : Parameter} (hp : p ∈ m.parameters) :
    Leads (Offers m [(localsOf m).query, (localsOf m).path] [(localsOf m).query])
      (bindQuery (localsOf m) p)
      (Offers m [(localsOf m).query, (localsOf m).path] [(localsOf m).query]) := by
  have hlocal : ∀ name ∈ [(localsOf m).query], name ∈ (localsOf m).toList := by
    simp [Locals.toList]
  unfold bindQuery
  split
  · refine leads_whenPresent hlocal hp ?_
    intro scope hscope
    have hvalue : (Expr.ident p.name).IsClosed scope := hscope.parameters p hp
    obtain ⟨hclosed, hsame⟩ := closed_pushQuery _ (hscope.bound (localsOf m).query (by simp))
      (hscope.changeable (localsOf m).query (by simp)) hvalue
    exact ⟨hclosed, hsame.symm ▸ hscope⟩
  · exact leads_whenPresent hlocal hp (leads_pushItems hp _ _)
  · exact Leads.nil

/-- The query is mutable if anything goes into it. -/
theorem leads_queryStatements :
    Leads (Offers m [(localsOf m).path] []) (queryStatements m.parameters (localsOf m))
      (Offers m [(localsOf m).query, (localsOf m).path] []) := by
  unfold queryStatements
  dsimp only
  cases hbound : m.parameters.filter (fun p => p.role.isQuery) with
  | nil =>
      exact fun scope hscope => ⟨by simp, hscope.bind _ _⟩
  | cons q rest =>
      have hquery : Leads (Offers m [(localsOf m).path] [])
          [.bind (localsOf m).query true (some queryType) (.call "Vec::new" [])]
          (Offers m [(localsOf m).query, (localsOf m).path] [(localsOf m).query]) :=
        fun scope hscope => ⟨by simp, hscope.bindMutable _⟩
      refine Leads.weaken (hquery.cons (Leads.flatMap (fun p hp => ?_))) ?_
      · have hmem : p ∈ m.parameters.filter (fun p => p.role.isQuery) := hbound ▸ hp
        exact leads_bindQuery (List.mem_filter.mp hmem).1
      · exact fun scope hscope => ⟨hscope.parameters, hscope.bound, by simp⟩

variable (m)

theorem leads_addressStatements :
    Leads (Offers m [] []) (addressStatements m (localsOf m)) (Offers m [(localsOf m).url] []) := by
  have hpath : Leads (Offers m [] [])
      [.bindTo (localsOf m).path (pathExpr m.urlTemplate m.parameters)]
      (Offers m [(localsOf m).path] []) :=
    fun scope hscope => ⟨⟨isClosed_pathExpr hscope.parameters _, trivial⟩, hscope.bind _ _⟩
  have hurl : Leads (Offers m [(localsOf m).query, (localsOf m).path] [])
      [.bindTo (localsOf m).url (.call "build_url" [.raw "&self.base_address",
        .borrow (.ident (localsOf m).path), .borrow (.ident (localsOf m).query)])]
      (Offers m [(localsOf m).url] []) := by
    intro scope hscope
    have hpath := hscope.bound (localsOf m).path (by simp)
    have hquery := hscope.bound (localsOf m).query (by simp)
    refine ⟨by simp [Stmt.bindTo, hpath, hquery], ?_⟩
    have hbound := hscope.bind (localsOf m).url false
    exact ⟨hbound.parameters, by simp [Stmt.bindTo], hbound.changeable⟩
  exact (hpath.cons leads_queryStatements).append hurl

/-- Setting a header changes the request builder. -/
theorem leads_bindHeader {p : Parameter} (hp : p ∈ m.parameters) :
    Leads (Offers m [(localsOf m).builder] [(localsOf m).builder]) (bindHeader (localsOf m) p)
      (Offers m [(localsOf m).builder] [(localsOf m).builder]) := by
  unfold bindHeader
  split
  · refine leads_whenPresent (by simp [Locals.toList]) hp ?_
    intro scope hscope
    have hvalue := hscope.parameters p hp
    have hbuilder := hscope.bound (localsOf m).builder (by simp)
    have hmutable := hscope.changeable (localsOf m).builder (by simp)
    unfold setHeader
    dsimp only
    split
    · exact ⟨by simp [hvalue, hbuilder, hmutable], hscope⟩
    · exact ⟨by simp [hvalue, hbuilder, hmutable], hscope⟩
  · exact Leads.nil

/-- Attaching the body changes the request builder. -/
theorem leads_bodyStatements (interfaceContentType : Option String) :
    Leads (Offers m [(localsOf m).builder] [(localsOf m).builder])
      (bodyStatements m.body? m.contentType interfaceContentType (localsOf m))
      (Offers m [(localsOf m).builder] [(localsOf m).builder]) := by
  unfold bodyStatements
  split
  · next p hbody =>
    have hp : p ∈ m.parameters := List.mem_of_find?_eq_some hbody
    unfold bindBody
    split
    · refine leads_whenPresent (by simp [Locals.toList]) hp ?_
      intro scope hscope
      have hvalue := hscope.parameters p hp
      have hbuilder := hscope.bound (localsOf m).builder (by simp)
      have hmutable := hscope.changeable (localsOf m).builder (by simp)
      exact ⟨by simp [setBody, hvalue, hbuilder, hmutable], hscope⟩
    · exact Leads.nil
  · exact Leads.nil

/-- The request builder is mutable if anything is added to it. -/
theorem leads_builder (interfaceContentType : Option String) :
    Leads (Offers m [(localsOf m).url] [])
      (builderStatement m (builderStatements m interfaceContentType (localsOf m)) (localsOf m) ::
        builderStatements m interfaceContentType (localsOf m))
      (Offers m [(localsOf m).builder] []) := by
  have hadditions : Leads (Offers m [(localsOf m).builder] [(localsOf m).builder])
      (builderStatements m interfaceContentType (localsOf m))
      (Offers m [(localsOf m).builder] [(localsOf m).builder]) :=
    (Leads.flatMap (fun p hp => leads_bindHeader m hp)).append (leads_bodyStatements m _)
  intro scope hscope
  have hurl := hscope.bound (localsOf m).url (by simp)
  -- The builder is declared mutable by the very test that is made here.
  cases hadd : builderStatements m interfaceContentType (localsOf m) with
  | nil =>
      have hbound := hscope.bind (localsOf m).builder false
      refine ⟨by simp [builderStatement, hurl], ?_⟩
      exact ⟨hbound.parameters, by simp [builderStatement], by simp⟩
  | cons s rest =>
      have hbound := hscope.bindMutable (localsOf m).builder
      obtain ⟨hclosed, hafter⟩ := hadditions (⟨(localsOf m).builder, true⟩ :: scope)
        ⟨hbound.parameters, by simp, hbound.changeable⟩
      rw [hadd] at hclosed hafter
      refine ⟨⟨by simp [builderStatement, hurl], hclosed⟩, ?_⟩
      exact ⟨hafter.parameters, hafter.bound, by simp⟩

theorem leads_sendStatements :
    Leads (Offers m [(localsOf m).builder] []) (sendStatements m (localsOf m))
      (Offers m [(localsOf m).status, (localsOf m).response] []) := by
  intro scope hscope
  have hbuilder := hscope.bound (localsOf m).builder (by simp)
  have hbound := ((hscope.bind (localsOf m).request true).bind (localsOf m).response false).bind
    (localsOf m).status false
  have hcancel := isClosed_cancelArgument (hscope.bind (localsOf m).request true).parameters
  refine ⟨by simp [sendStatements, Stmt.bindTo, Expr.method0, hbuilder, hcancel], ?_⟩
  exact ⟨hbound.parameters, by simp [sendStatements, Stmt.bindTo], by simp⟩

theorem isClosed_readResponse {scope : Binders}
    (hparameters : ∀ p ∈ m.parameters, Binds scope p.name)
    (hresponse : Binds scope (localsOf m).response) :
    (readResponse m (localsOf m)).IsClosed scope := by
  simp [readResponse, hresponse, isClosed_cancelArgument hparameters]

theorem leads_failStatement :
    Leads (Offers m [(localsOf m).status, (localsOf m).response] []) [failStatement m (localsOf m)]
      (Offers m [(localsOf m).status, (localsOf m).response] []) := by
  intro scope hscope
  have hstatus := hscope.bound (localsOf m).status (by simp)
  have hread := isClosed_readResponse m hscope.parameters
    (hscope.bound (localsOf m).response (by simp))
  refine ⟨?_, hscope⟩
  simp [failStatement, failHandling, Stmt.bindTo, Expr.method0, hstatus, hread]

theorem leads_afterStatements :
    Leads (Offers m [(localsOf m).status, (localsOf m).response] [])
      (afterStatements m (localsOf m))
      (Offers m [(localsOf m).status, (localsOf m).response] []) := by
  intro scope hscope
  have hresponse := hscope.bound (localsOf m).response (by simp)
  exact ⟨by simp [afterStatements, hresponse], hscope⟩

theorem leads_valueStatements :
    Leads (Offers m [(localsOf m).status, (localsOf m).response] [])
      (valueStatements m (localsOf m))
      (fun _ => True) := by
  intro scope hscope
  have hread := isClosed_readResponse m hscope.parameters
    (hscope.bound (localsOf m).response (by simp))
  refine ⟨?_, trivial⟩
  unfold valueStatements
  split
  · simp
  · simp [Stmt.bindTo, Expr.method0, hread]

/-- A request is closed where the parameters of its method are bound. -/
theorem leads_requestBlock (interfaceContentType : Option String) :
    Leads (Offers m [] []) (requestBlock m interfaceContentType (localsOf m)) (fun _ => True) :=
  (((((leads_defaultStatements m).append (leads_addressStatements m)).append
    (leads_builder m interfaceContentType)).append (leads_sendStatements m)).append
    ((leads_failStatement m).cons (leads_afterStatements m))).append (leads_valueStatements m)

end Parts

/-! ### Client methods -/

section Method
variable (m : Method)

/-- The binders of a method's own declaration. -/
theorem offers_methodDeclaration : Offers m [] [] (methodDeclaration m).scope where
  parameters p hp := by
    have hnames : (methodDeclaration m).params.map Prod.fst = m.parameters.map Parameter.name := by
      simp [methodDeclaration, declarationWith]
    rw [Function.scope, hnames]
    exact binds_fixed.mpr (List.mem_map_of_mem hp)
  bound := by simp
  changeable := by simp

theorem isClosed_requestExpr {scope : Binders} (h : Offers m [] [] scope)
    (interfaceContentType : Option String) :
    (requestExpr m interfaceContentType).IsClosed scope := by
  obtain ⟨hclosed, -⟩ := leads_requestBlock m interfaceContentType scope h
  unfold requestExpr
  dsimp only
  split <;> simp [hclosed]

/-- The result of a block is bound around what is done about an error. -/
theorem areClosed_guarded {scope : Binders} {locals : Locals} {request : Expr} {onError : Block}
    (resultType : String) (hrequest : request.IsClosed scope)
    (herror : Stmt.AreClosed (⟨locals.error, false⟩ :: ⟨locals.result, false⟩ :: scope) onError) :
    Stmt.AreClosed scope (guarded resultType locals request onError) := by
  simp [guarded, Stmt.bindTyped, hrequest, herror]

theorem isClosed_executionBody (interfaceContentType : Option String) :
    ((methodDeclaration m).withBody (executionBody m interfaceContentType)).IsClosed := by
  rintro body ⟨⟩
  refine areClosed_guarded _ (isClosed_requestExpr m (offers_methodDeclaration m) _) ?_
  simp [errorHandling]

theorem isClosed_manualBody (manualTrait : String) :
    ((methodDeclaration m).withBody (manualBody m manualTrait)).IsClosed := by
  rintro body ⟨⟩
  have harguments : Expr.AreClosed (methodDeclaration m).scope
      (m.parameters.map (fun p => .ident p.name)) :=
    Expr.areClosed_iff.mpr (List.forall_mem_map.mpr (offers_methodDeclaration m).parameters)
  show Stmt.AreClosed (methodDeclaration m).scope (manualBody m manualTrait)
  unfold manualBody
  dsimp only
  split <;> simp [harguments]

end Method

end Request

namespace Layer

open Request

/-! ### Wrap methods -/

section Forward
variable {w : WrapMethod} {scope : Binders}

/-- Acquiring a token uses nothing but the token. -/
theorem areClosed_acquire (slot : TokenSlot) : Stmt.AreClosed scope (acquire w slot) := by
  unfold acquire
  dsimp only
  split <;> simp [Stmt.bindTo, Expr.method0]

theorem isClosed_forwardedArgument {p : Parameter} (h : Binds scope p.name) :
    (forwardedArgument p).IsClosed scope := by
  unfold forwardedArgument tokenArgument
  split
  · dsimp only
    split <;> simp [Expr.method0, h]
  · exact h

/-- A block forwards if every parameter of the client method is bound, or is a token
that is acquired. -/
theorem areClosed_forwardBlock (h : ∀ p ∈ w.target.parameters,
    Binds scope p.name ∨ p ∈ w.tokens.map TokenSlot.parameter) :
    Stmt.AreClosed scope (forwardBlock w) := by
  have hacquire : Leads (fun _ => True) (w.tokens.flatMap (acquire w)) (fun _ => True) :=
    Leads.flatMap (fun slot _ scope _ => ⟨areClosed_acquire slot, trivial⟩)
  have hbound : ∀ p ∈ w.target.parameters,
      Binds (extended scope (w.tokens.flatMap (acquire w))) p.name := by
    intro p hp
    -- A token is bound by the first statement that acquires it.
    refine binds_extended.mpr ((h p hp).imp id (fun htoken => ?_))
    obtain ⟨slot, hslot, rfl⟩ := List.mem_map.mp htoken
    exact ⟨_, List.mem_flatMap.mpr ⟨slot, hslot, List.mem_cons_self⟩, rfl⟩
  have harguments : Expr.AreClosed (extended scope (w.tokens.flatMap (acquire w)))
      (w.target.parameters.map forwardedArgument) :=
    Expr.areClosed_iff.mpr (List.forall_mem_map.mpr
      (fun p hp => isClosed_forwardedArgument (hbound p hp)))
  unfold forwardBlock
  dsimp only
  refine areClosed_append.mpr ⟨(hacquire scope trivial).1, ?_⟩
  split <;> simp [harguments]

theorem areClosed_forwardBody (h : ∀ p ∈ w.target.parameters,
    Binds scope p.name ∨ p ∈ w.tokens.map TokenSlot.parameter) :
    Stmt.AreClosed scope (forwardBody w) := by
  have hblock := areClosed_forwardBlock h
  refine areClosed_guarded _ ?_ (by simp)
  split <;> simp [hblock]

/-- A parameter of the client method is one of the wrap method or one of its tokens. -/
theorem isClosed_forwardBody {m : Method} (hw : w ∈ expandMethod m) :
    ((wrapDeclaration w).withBody (forwardBody w)).IsClosed := by
  obtain ⟨name, chosen, rfl⟩ := exists_variant hw
  rintro body ⟨⟩
  refine areClosed_forwardBody (fun p hp => ?_)
  have hnames : (wrapDeclaration (variant m name chosen)).params.map Prod.fst =
      (openParameters m).map Parameter.name := by
    simp [wrapDeclaration, declarationWith, variant]
  by_cases htoken : p.role.isToken = true
  · refine Or.inr (List.mem_map.mpr ⟨slotFor chosen p, ?_, rfl⟩)
    exact List.mem_map_of_mem (List.mem_filter.mpr ⟨hp, htoken⟩)
  · refine Or.inl ?_
    show Binds (fixed ((wrapDeclaration (variant m name chosen)).params.map Prod.fst)) p.name
    rw [hnames]
    exact binds_fixed.mpr (List.mem_map_of_mem (List.mem_filter.mpr ⟨hp, by simp [htoken]⟩))

end Forward

/-- **Generated bodies are closed.**  The client method, the one that calls a method
written by hand and every wrap method use what they take and what they bind themselves,
and change only what they declare mutable. -/
theorem bodies_isClosed (m : Method) (interfaceContentType : Option String) (manualTrait : String) :
    ((methodDeclaration m).withBody (executionBody m interfaceContentType)).IsClosed ∧
      ((methodDeclaration m).withBody (manualBody m manualTrait)).IsClosed ∧
      ∀ w ∈ expandMethod m, ((wrapDeclaration w).withBody (forwardBody w)).IsClosed :=
  ⟨isClosed_executionBody m interfaceContentType, isClosed_manualBody m manualTrait,
    fun _ hw => isClosed_forwardBody hw⟩

end Layer
end ClientSynth
