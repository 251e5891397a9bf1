import ClientSynth.Proofs.Binding
import ClientSynth.Request.Execution

/-! # What is added to a request

The headers and the body that the values of a method's parameters stand for
(`builderAdditions`), and that the statements between the declaration of the request
builder and its use add these, in this order, and nothing else. -/
namespace ClientSynth
namespace Request

open Contract Code

variable {Atom : Type}

/-! ### Additions of a value -/

/-- The header of a parameter with the value `v`: none for an absent value nor for an
empty text. -/
def headerAdditions (rt : Runtime Atom) (p : Parameter) (v : Value Atom) : List Addition :=
  match headerName? p.role with
  | none => []
  | some name =>
    (v.content? p.type).elim [] (fun c =>
      if p.type.family = .text ∧ rt.textOf c = "" then [] else [.header name (rt.textOf c)])

/-- What is sent as the body: the text of a value or its JSON form, which a value may
lack. -/
def content (rt : Runtime Atom) (asText : Bool) (v : Value Atom) : Except String String :=
  if asText then .ok (rt.textOf v) else rt.json v.peel

/-- The content type and the body of a parameter with the value `v`; an absent value
has neither. -/
def bodyAdditions (rt : Runtime Atom) (method interface : Option String) (p : Parameter)
    (v : Value Atom) : Except String (List Addition) :=
  match p.role with
  | .body b =>
    (v.content? p.type).elim (.ok []) (fun c =>
      (content rt b.asText c).map (fun text =>
        [.header "content-type" (resolveContentType b.contentType method interface), .body text]))
  | _ => .ok []

/-- Everything that is added for a method: the headers of its parameters in their
order, then content type and body of its body parameter, if it has one. -/
def builderAdditions (rt : Runtime Atom) (m : Method) (interface : Option String)
    (values : Parameter → Value Atom) : Except String (List Addition) :=
  let headers := m.parameters.flatMap (fun p => headerAdditions rt p (values p))
  let body := match m.body? with
    | none => Except.ok []
    | some p => bodyAdditions rt m.contentType interface p (values p)
  body.map (headers ++ ·)

/-! ### Headers -/

section Statements
variable {rt : Runtime Atom} {env : Env Atom} {e : Expr} {v : Value Atom} {locals : Locals}

theorem value_withHeader {old : List Addition} {builder key : Expr} {name text : String}
    (hbuilder : builder.value rt env = .ok (.builder old)) (hkey : key.value rt env = .ok (.text name))
    (h : e.value rt env = .ok (.text text)) :
    (builder.method "header" [key, e]).value rt env =
      .ok (.builder (old ++ [.header name text])) :=
  (Expr.value_method hbuilder (Expr.evalAll_cons hkey (Expr.evalAll_one h))).trans
    (Runtime.method_header name text)

theorem appends_setHeader {p : Parameter} {name : String} (h : e.value rt env = .ok v)
    (hbase : HasBase p.type v) :
    Appends rt env (setHeader locals p name e) (Identifier.variableName locals.builder)
      Value.builder []
      (.ok (if p.type.family = .text ∧ rt.textOf v = "" then []
        else [.header name (rt.textOf v)])) := by
  have hassign : Appends rt env
      [.assign locals.builder ((Expr.ident locals.builder).method "header"
        [.str name, textExpr e])] (Identifier.variableName locals.builder) Value.builder []
      (.ok [.header name (rt.textOf v)]) := by
    intro old hold
    have hbuilder : (Expr.ident locals.builder).value rt env = .ok (.builder old) :=
      (Expr.value_ident _).trans (Env.read_eq hold)
    have hvalue := value_withHeader hbuilder (Expr.value_str name) (value_textExpr h)
    exact ⟨[], nofun, (Stmt.runAll_one _).trans (Stmt.run_assign hvalue hold)⟩
  -- Only a text can be empty, so only a text is tested before the header is set.
  unfold setHeader
  by_cases htext : p.type.family = .text
  · obtain ⟨s, hs⟩ := hbase.peel_eq_text htext
    rw [if_pos (by simpa [DeclaredType.isText] using htext)]
    rw [rt.textOf_eq hs] at hassign ⊢
    refine .ifThen (value_isNotEmpty_text h hs) (fun hempty => ?_) (fun hnonempty => ?_)
    · rw [if_pos ⟨htext, by simpa using hempty⟩]
    · rw [if_neg (fun hboth => by simp [hboth.2] at hnonempty)]
      exact hassign
  · rw [if_neg (by simpa [DeclaredType.isText] using htext), if_neg (fun hboth => htext hboth.1)]
    exact hassign

/-! ### The body -/

/-- The form in which a value is handed over: a reference to it, which the content of
a nullable parameter already is. -/
theorem value_payload {p : Parameter} (h : e.value rt env = .ok v)
    (href : p.type.nullable = true → ∃ c, v = .ref c) (asText : Bool) :
    (∃ text, content rt asText v = .ok text ∧ (payload p asText e).value rt env = .ok (.text text)) ∨
    (∃ error, content rt asText v = .error error ∧
      Expr.evalAll rt env [payload p asText e] = .error (.raised error)) := by
  cases asText with
  | true => exact Or.inl ⟨_, rfl, value_textExpr h⟩
  | false =>
      -- The borrow is left out where the value is already a reference: either way a reference is
      -- written, and writing looks through references.
      have hargument : ∃ w, (if p.type.nullable then e else .borrow e).value rt env =
          .ok (.ref w) ∧ w.peel = v.peel := by
        cases hnullable : p.type.nullable with
        | true =>
            obtain ⟨c, rfl⟩ := href hnullable
            exact ⟨c, h, rfl⟩
        | false => exact ⟨v, Expr.value_borrow h, rfl⟩
      obtain ⟨w, hw, hpeel⟩ := hargument
      have hcall : (Expr.call "serde_json::to_string"
          [if p.type.nullable then e else .borrow e]).value rt env =
            .ok (Runtime.result .text (rt.json v.peel)) := by
        rw [← hpeel]
        exact (Expr.value_call (Expr.evalAll_one hw)).trans Runtime.call_json
      cases hjson : rt.json v.peel with
      | ok text =>
          rw [hjson] at hcall
          exact Or.inl ⟨text, hjson, Expr.value_attempt_good hcall⟩
      | error error =>
          rw [hjson] at hcall
          exact Or.inr ⟨error, hjson, Expr.evalAll_attempt_failed hcall⟩

theorem appends_setBody {p : Parameter} (h : e.value rt env = .ok v)
    (href : p.type.nullable = true → ∃ c, v = .ref c) (asText : Bool) (contentType : String) :
    Appends rt env (setBody locals contentType (payload p asText e))
      (Identifier.variableName locals.builder) Value.builder []
      ((content rt asText v).map
        (fun text => [.header "content-type" contentType, .body text])) := by
  intro old hold
  have hbuilder : (Expr.ident locals.builder).value rt env = .ok (.builder old) :=
    (Expr.value_ident _).trans (Env.read_eq hold)
  have hheader := value_withHeader hbuilder Expr.value_contentType (Expr.value_str contentType)
  rcases value_payload h href asText with ⟨text, hcontent, hpayload⟩ | ⟨error, hcontent, hpayload⟩
  · have hbody := (Expr.value_method hheader (Expr.evalAll_one hpayload)).trans
      (Runtime.method_body text)
    rw [hcontent]
    refine ⟨[], nofun, (Stmt.runAll_one _).trans ((Stmt.run_assign hbody hold).trans ?_)⟩
    rw [List.append_assoc]
    rfl
  · rw [hcontent]
    exact (Stmt.runAll_one _).trans
      (Stmt.run_assign_halted (Expr.value_method_halted hheader hpayload))

end Statements

/-! ### All additions -/

section Methods
variable (rt : Runtime Atom) {m : Method} {p : Parameter} {env : Env Atom} {v : Value Atom}

theorem variableName_ne_builder (hp : p ∈ m.parameters) :
    Identifier.variableName p.name ≠ Identifier.variableName (localsOf m).builder :=
  variableName_ne_freeName (isPlainWord_of_mem_baseNames _ (by decide)) (List.mem_map_of_mem hp)

theorem bindHeader_appends (hp : p ∈ m.parameters) (htype : HasType p.type v)
    (hread : env.read (Identifier.variableName p.name) = .ok v) :
    Appends rt env (bindHeader (localsOf m) p) (Identifier.variableName (localsOf m).builder)
      Value.builder [] (.ok (headerAdditions rt p v)) := by
  unfold bindHeader headerAdditions
  cases headerName? p.role with
  | none => exact .nil
  | some name =>
      have helim : ∀ (o : Option (Value Atom)) (f : Value Atom → List Addition),
          (.ok (o.elim [] f) : Except String (List Addition)) =
            o.elim (.ok []) (fun c => .ok (f c)) := fun o f => by cases o <;> rfl
      dsimp only
      rw [helim]
      exact .whenPresent hread htype (variableName_ne_builder hp) (fun _ => rfl)
        (fun env w hw hbase _ => appends_setHeader ((Expr.value_ident _).trans hw) hbase)

theorem bindBody_appends (hp : p ∈ m.parameters) (htype : HasType p.type v)
    (hread : env.read (Identifier.variableName p.name) = .ok v) (method interface : Option String) :
    Appends rt env (bindBody (localsOf m) method interface p)
      (Identifier.variableName (localsOf m).builder) Value.builder []
      (bodyAdditions rt method interface p v) := by
  unfold bindBody bodyAdditions
  cases p.role with
  | body b =>
      exact .whenPresent hread htype (variableName_ne_builder hp) (fun _ => rfl)
        (fun env w hw _ href =>
          appends_setBody ((Expr.value_ident _).trans hw) href b.asText _)
  | _ => exact .nil

theorem headerStatements_appends {values : Parameter → Value Atom}
    (htypes : ∀ p ∈ m.parameters, HasType p.type (values p))
    (hholds : Holds values m.parameters env) :
    Appends rt env (headerStatements m.parameters (localsOf m))
      (Identifier.variableName (localsOf m).builder) Value.builder []
      (.ok (m.parameters.flatMap (fun p => headerAdditions rt p (values p)))) := by
  have hall : Appends rt env (m.parameters.flatMap (bindHeader (localsOf m)))
      (Identifier.variableName (localsOf m).builder) Value.builder
      (m.parameters.flatMap (fun _ => []))
      (allOf (fun p => .ok (headerAdditions rt p (values p))) m.parameters) := by
    refine .flatMap (fun _ _ => List.not_mem_nil) ?_ ?_ hholds
    · intro p _ env env' hholds hsame q hq
      rw [hsame _ (variableName_ne_builder hq) List.not_mem_nil, hholds q hq]
    · exact fun p hp env hholds => bindHeader_appends rt hp (htypes p hp) (hholds p hp)
  rw [allOf_ok (fun _ _ => rfl)] at hall
  exact hall.mono (by simp)

theorem bodyStatements_appends (interface : Option String) {values : Parameter → Value Atom}
    (htypes : ∀ p ∈ m.parameters, HasType p.type (values p))
    (hholds : Holds values m.parameters env) :
    Appends rt env (bodyStatements m.body? m.contentType interface (localsOf m))
      (Identifier.variableName (localsOf m).builder) Value.builder []
      (match m.body? with
        | none => .ok []
        | some p => bodyAdditions rt m.contentType interface p (values p)) := by
  cases hbody : m.body? with
  | none => exact .nil
  | some p =>
      have hp : p ∈ m.parameters := List.mem_of_find?_eq_some hbody
      exact bindBody_appends rt hp (htypes p hp) (hholds p hp) _ _

theorem builderStatements_appends (interface : Option String) {values : Parameter → Value Atom}
    (htypes : ∀ p ∈ m.parameters, HasType p.type (values p))
    (hholds : Holds values m.parameters env) :
    Appends rt env (builderStatements m interface (localsOf m))
      (Identifier.variableName (localsOf m).builder) Value.builder []
      (builderAdditions rt m interface values) := by
  have hheaders := headerStatements_appends rt htypes hholds
  have hboth := hheaders.append List.not_mem_nil (fun env' hsame =>
    bodyStatements_appends rt interface htypes (fun p hp =>
      (hsame _ (variableName_ne_builder hp) List.not_mem_nil).trans (hholds p hp)))
  have hmap : ∀ (headers : List Addition) (body : Except String (List Addition)),
      (Except.ok headers >>= fun a => body >>= fun b => .ok (a ++ b)) =
        body.map (headers ++ ·) := fun headers body => by cases body <;> rfl
  rw [hmap] at hboth
  exact hboth

variable (m) in
/-- **Headers and body are added as the values say.**  In a method body the statements
stand right behind the declaration of the request builder, which is mutable if there
are any.  From there, for all parameters, content types and values, they add the
headers of the parameters in their order and then content type and body of the body
parameter, and leave everything else as it is; they only stop for a body without a
JSON form. -/
theorem builderStatements_spec (interface : Option String) :
    (∃ before after, requestBlock m interface (localsOf m) =
      before ++ (builderStatement m (builderStatements m interface (localsOf m)) (localsOf m) ::
        builderStatements m interface (localsOf m)) ++ after) ∧
    ∀ (values : Parameter → Value Atom) (env : Env Atom) (old : List Addition),
      (∀ p ∈ m.parameters, HasType p.type (values p)) → Holds values m.parameters env →
      env.slot? (Identifier.variableName (localsOf m).builder) =
        some ⟨Identifier.variableName (localsOf m).builder,
          !(builderStatements m interface (localsOf m)).isEmpty, .builder old⟩ →
      Stmt.runAll rt env (builderStatements m interface (localsOf m)) =
        ((builderAdditions rt m interface values).map (fun added =>
          env.put (Identifier.variableName (localsOf m).builder)
            (.builder (old ++ added)))).mapError .raised := by
  constructor
  · refine ⟨defaultStatements m.parameters ++ addressStatements m (localsOf m),
      sendStatements m (localsOf m) ++
        (failStatement m (localsOf m) :: afterStatements m (localsOf m) ++
          valueStatements m (localsOf m)), ?_⟩
    simp only [requestBlock, List.append_assoc]
  · intro values env old htypes hholds hslot
    by_cases hnone : builderStatements m interface (localsOf m) = []
    · -- Run beside a mutable builder, no statements add nothing.
      have hinside : Holds values m.parameters
          (⟨Identifier.variableName (localsOf m).builder, true, .builder old⟩ :: env) :=
        hholds.bound (fun p hp => variableName_ne_builder hp)
      have happends := builderStatements_appends rt interface htypes hinside
      rw [hnone] at happends ⊢
      have hadditions : builderAdditions rt m interface values = .ok [] :=
        happends.eq_nil (fun _ _ => Value.builder.inj) Env.slot?_bound
      rw [hadditions]
      have hsame : env.put (Identifier.variableName (localsOf m).builder)
          (.builder (old ++ [])) = env := by
        rw [List.append_nil]
        exact Env.put_same hslot
      exact congrArg Except.ok hsame.symm
    · rw [List.isEmpty_eq_false_iff.mpr hnone] at hslot
      exact (builderStatements_appends rt interface htypes hholds).run_eq hslot

end Methods

/-- A method with a token, two headers and a body. -/
def saveMethod : Method :=
  ⟨"Save", .post, "/orders", .asyncVoid,
    [⟨"token", .mk "&str" "&str" .text false none, .token .both "Authorization", none⟩,
      ⟨"amount", .mk "u32" "u32" .numeric false none, .body ⟨none, false⟩, none⟩,
      ⟨"trace", .mk "Option<u32>" "u32" .numeric true none, .header "X-Trace", none⟩,
      ⟨"note", .mk "String" "String" .text false none, .header "X-Note", none⟩],
    some "application/json; charset=utf-8", false, false, "IOrderApi"⟩

/-- Values for its parameters: no trace and an empty note. -/
def savedValues (p : Parameter) : Value Nat :=
  match p.name with
  | "token" => .ref (.text "secret")
  | "amount" => .atom 12
  | "trace" => .absent
  | _ => .text ""

/-- The variables of its body behind the declaration of the request builder. -/
def savedVariables (added : List Addition) : Env Nat :=
  [⟨"builder", true, .builder added⟩, ⟨"token", false, .ref (.text "secret")⟩,
    ⟨"amount", false, .atom 12⟩, ⟨"trace", false, .absent⟩, ⟨"note", false, .text ""⟩]

theorem saveMethod_additions :
    Stmt.runAll plainRuntime (savedVariables [])
        (builderStatements saveMethod (some "text/xml") (localsOf saveMethod)) =
      .ok (savedVariables [.header "Authorization" "secret",
        .header "content-type" "application/json", .body "12"]) := by
  have htypes : ∀ p ∈ saveMethod.parameters, HasType p.type (savedValues p) := by
    intro p hp
    simp only [saveMethod, List.mem_cons, List.not_mem_nil, or_false] at hp
    rcases hp with rfl | rfl | rfl | rfl
    · exact .value rfl (.ref (.text rfl))
    · exact .value rfl (.atom nofun nofun)
    · exact .absent rfl
    · exact .value rfl (.text rfl)
  have hnames : Identifier.variableName "token" = "token" ∧
      Identifier.variableName "amount" = "amount" ∧
      Identifier.variableName "trace" = "trace" ∧ Identifier.variableName "note" = "note" ∧
      Identifier.variableName (localsOf saveMethod).builder = "builder" := by decide
  obtain ⟨htoken, hamount, htrace, hnote, hbuilder⟩ := hnames
  have hholds : Holds savedValues saveMethod.parameters (savedVariables []) := by
    intro p hp
    simp only [saveMethod, List.mem_cons, List.not_mem_nil, or_false] at hp
    rcases hp with rfl | rfl | rfl | rfl
    · rw [htoken]; rfl
    · rw [hamount]; rfl
    · rw [htrace]; rfl
    · rw [hnote]; rfl
  have hadditions : builderAdditions plainRuntime saveMethod (some "text/xml") savedValues =
      .ok [.header "Authorization" "secret", .header "content-type" "application/json",
        .body "12"] := by
    rfl
  obtain ⟨-, hrun⟩ := builderStatements_spec plainRuntime saveMethod (some "text/xml")
  refine (hrun savedValues (savedVariables []) [] htypes hholds ?_).trans ?_
  · rw [hbuilder]
    rfl
  · rw [hadditions, hbuilder]
    rfl

end Request
end ClientSynth
