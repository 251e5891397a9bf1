import ClientSynth.Proofs.Binding
import ClientSynth.Proofs.Role
import ClientSynth.Request.Execution

/-! # What the query of a request holds

For each query parameter the pairs that its value stands for
(`parameterPairs`), and that its statements append these and no others. -/
namespace ClientSynth
namespace Request

open Contract Code

variable {Atom : Type}

/-! ### Pairs of a value -/

/-- The text of a value in an optional format. -/
def shownText (rt : Runtime Atom) (format : Option String) (v : Value Atom) : String :=
  match givenFormat format with
  | none => rt.textOf v
  | some f =>
    if '%' ∈ f.toList then rt.textOf (rt.dated f v.peel)
    else rt.format ("\x7b:" ++ (Text.dropPrefix? ":" f).getD f ++ "\x7d") [v.peel]

/-- The pairs of a single value: an encoded text if it is not empty, the text of
any other simple value as it is, the pairs of a structured one. -/
def singlePairs (rt : Runtime Atom) (b : QueryBinding) (v : Value Atom) :
    Except String (List (String × String)) :=
  match b.shape with
  | .text => .ok (if rt.textOf v = "" then [] else [(b.key, rt.encode (rt.textOf v))])
  | .value => .ok [(b.key, shownText rt b.format v)]
  | .object => rt.queryPairs v.peel

/-- The items of a sequence that are present. -/
def presentValues (type : DeclaredType) (v : Value Atom) : List (Value Atom) :=
  match type.element with
  | none => []
  | some element => v.items.filterMap (Value.content? element)

/-- The pairs of a sequence with the given encoded texts: one with all of them
joined, if there are any, or one each. -/
def sequencePairs (key : String) (separator : Option String) (texts : List String) :
    List (String × String) :=
  match separator with
  | none => texts.map (fun text => (key, text))
  | some s => if texts = [] then [] else [(key, Text.joined s texts)]

/-- The pairs of a query parameter with the value `v`; an absent value has none. -/
def parameterPairs (rt : Runtime Atom) (p : Parameter) (v : Value Atom) :
    Except String (List (String × String)) :=
  (v.content? p.type).elim (.ok []) (fun c =>
    match p.role with
    | .query b => singlePairs rt b c
    | .arrayQuery key separator =>
      .ok (sequencePairs key separator
        ((presentValues p.type c).map (fun item => rt.encode (rt.textOf item))))
    | _ => .ok [])

/-! ### Single values -/

theorem shapeOf_eq_text {family : Family} (h : shapeOf family = .text) : family = .text := by
  cases family <;> first | rfl | cases h

section Statements
variable {rt : Runtime Atom} {env : Env Atom} {e : Expr} {v : Value Atom} {names : List String}

theorem appends_pushPair {query key text : String} (h : e.value rt env = .ok (.text text)) :
    Appends rt env [pushPair query key e] (Identifier.variableName query) Runtime.pairList names
      (.ok [(key, text)]) := by
  intro old hold
  refine ⟨[], nofun, ?_⟩
  have hkey : (textExpr (.str key)).value rt env = .ok (.text key) :=
    value_textExpr (Expr.value_str key)
  have hargs := Expr.evalAll_one (Expr.value_tuple hkey h)
  rw [Stmt.runAll_one, pushPair, Stmt.run_grow hargs hold, Runtime.pairList_append]
  rfl

theorem value_displayed (h : e.value rt env = .ok v) (format : Option String) :
    (displayed format e).value rt env = .ok (.text (shownText rt format v)) := by
  cases hgiven : givenFormat format with
  | none =>
      simp only [displayed, shownText, hgiven]
      exact value_textExpr h
  | some f =>
      by_cases hdate : '%' ∈ f.toList
      · have hpattern := isDatePattern_iff.mpr hdate
        simp only [displayed, shownText, hgiven, formatValue, if_pos hpattern, if_pos hdate]
        exact value_textExpr ((Expr.value_method h (Expr.evalAll_one (Expr.value_str f))).trans
          (Runtime.method_format f))
      · have hpattern := mt isDatePattern_iff.mp hdate
        simp only [displayed, shownText, hgiven, formatValue, if_neg hpattern, if_neg hdate]
        exact Expr.value_format h _

theorem appends_extend {query : String} (h : e.value rt env = .ok v) :
    Appends rt env
      [.eval ((Expr.ident query).method "extend" [.attempt (.call "query_pairs" [.borrow e])])]
      (Identifier.variableName query) Runtime.pairList names (rt.queryPairs v.peel) := by
  have hcall : (Expr.call "query_pairs" [.borrow e]).value rt env =
      .ok (Runtime.result Runtime.pairList (rt.queryPairs v.peel)) :=
    (Expr.value_call (Expr.evalAll_one (Expr.value_borrow h))).trans Runtime.call_queryPairs
  intro old hold
  cases hpairs : rt.queryPairs v.peel with
  | error error =>
      rw [hpairs] at hcall
      exact (Stmt.runAll_one _).trans (Stmt.run_grow_halted (Expr.evalAll_attempt_failed hcall))
  | ok pairs =>
      rw [hpairs] at hcall
      have hargs := Expr.evalAll_one (Expr.value_attempt_good hcall)
      refine ⟨[], nofun, ?_⟩
      rw [Stmt.runAll_one, Stmt.run_grow hargs hold, Runtime.pairList_append]
      rfl

/-- **The statements for a single value append its pairs.** -/
theorem appends_pushQuery {query : String} {b : QueryBinding} {type : DeclaredType}
    (h : e.value rt env = .ok v) (hbase : HasBase type v) (hshape : b.shape = shapeOf type.family) :
    Appends rt env (pushQuery query b e) (Identifier.variableName query) Runtime.pairList names
      (singlePairs rt b v) := by
  unfold pushQuery singlePairs
  cases hb : b.shape with
  | value => exact appends_pushPair (value_displayed h b.format)
  | object => exact appends_extend h
  | text =>
      have hfamily : type.family = .text := by
        rw [hb] at hshape
        exact shapeOf_eq_text hshape.symm
      obtain ⟨s, hs⟩ := hbase.peel_eq_text hfamily
      rw [rt.textOf_eq hs]
      refine .ifThen (value_isNotEmpty_text h hs) (fun hempty => ?_) (fun hnonempty => ?_)
      · rw [if_pos (by simpa using hempty)]
      · rw [if_neg (by simpa using hnonempty)]
        exact appends_pushPair (value_encoded h hs)

/-! ### Sequences -/

/-- Optional items that are looked at through references. -/
theorem mapM_option?_ref {element : DeclaredType} (hnullable : element.nullable = true)
    {items : List (Value Atom)} (htypes : ∀ w ∈ items, HasType element w) :
    (items.map Value.ref).mapM Value.option? =
      some (items.map (fun w => (w.content? element).map .ref)) := by
  induction items with
  | nil => rfl
  | cons w items ih =>
      have hrest := ih (fun u hu => htypes u (List.mem_cons_of_mem _ hu))
      have hw : (Value.ref w).option? = some ((w.content? element).map .ref) := by
        rcases (htypes w List.mem_cons_self).content? with
          ⟨-, rfl, hc⟩ | ⟨-, c, rfl, hc, -⟩ | ⟨hn, -, -⟩
        · rw [hc]
          rfl
        · rw [hc]
          rfl
        · exact absurd (hn.symm.trans hnullable) Bool.false_ne_true
      rw [List.map_cons, List.mapM_cons, hw, hrest]
      rfl

/-- The items that are looped over are references to those that are present. -/
theorem value_presentItems {type : DeclaredType} (h : e.value rt env = .ok v)
    (hbase : HasBase type v) (hfamily : type.family = .sequence) :
    (presentItems type e).value rt env = .ok (.list ((presentValues type v).map .ref)) := by
  obtain ⟨element, items, helement, hitems, htypes⟩ := hbase.peel_eq_list hfamily
  have hiter : (e.method0 "iter").value rt env = .ok (.list (items.map .ref)) :=
    (Expr.value_method0 h).trans (Runtime.method_iter hitems)
  have hpresent : presentValues type v = items.filterMap (Value.content? element) := by
    simp only [presentValues, helement, Value.items, hitems]
  rw [hpresent, presentItems, helement]
  -- Items that may be absent are flattened; the others are all there.
  cases hnullable : element.nullable with
  | false =>
      have hall : ∀ w ∈ items, w.content? element = some w := by
        intro w _
        simp only [Value.content?, hnullable]
      rw [List.filterMap_congr hall, List.filterMap_some]
      simpa [hnullable] using hiter
  | true =>
      have hflatten : ((e.method0 "iter").method0 "flatten").value rt env =
          .ok (.list ((items.map (fun w => (w.content? element).map .ref)).filterMap id)) :=
        (Expr.value_method0 hiter).trans
          (Runtime.method_flatten (mapM_option?_ref hnullable htypes))
      rw [List.filterMap_map, Function.id_comp] at hflatten
      rw [List.map_filterMap]
      simpa [hnullable] using hflatten

/-- The encoded text of the item at hand. -/
theorem value_encodedItem (item : Value Atom) (env : Env Atom) :
    encodedItem.value rt (⟨Identifier.variableName "item", false, item⟩ :: env) =
      .ok (.text (rt.encode (rt.textOf item))) := by
  have hitem : (Expr.ident "item").value rt (⟨Identifier.variableName "item", false, item⟩ :: env) =
      .ok item := (Expr.value_ident _).trans Env.read_bound
  exact value_encoded (value_textExpr hitem) rfl

/-- The list of the encoded texts of all items. -/
theorem value_collected {items : List (Value Atom)}
    (h : e.value rt env = .ok (.list (items.map .ref))) :
    ((e.method "map" [.lambda ["item"] encodedItem]).method0 "collect").value rt env =
      .ok (.list ((items.map (fun item => rt.encode (rt.textOf item))).map .text)) := by
  have htexts : (items.map Value.ref).mapM
      (fun item => encodedItem.value rt (⟨Identifier.variableName "item", false, item⟩ :: env)) =
        .ok ((items.map (fun item => rt.encode (rt.textOf item))).map .text) := by
    simp only [value_encodedItem, List.map_map]
    exact List.mapM_pure.trans (congrArg Except.ok (List.map_map ..))
  have hmap : (e.method "map" [.lambda ["item"] encodedItem]).value rt env =
      .ok (.list ((items.map (fun item => rt.encode (rt.textOf item))).map .text)) := by
    rw [Expr.value_method h (Expr.evalAll_lambda _ _), Runtime.method_map, htexts]
    rfl
  exact (Expr.value_method0 hmap).trans Runtime.method_collect

theorem mapM_text? (texts : List String) :
    (texts.map (Value.text : String → Value Atom)).mapM Value.text? = some texts := by
  induction texts with
  | nil => rfl
  | cons text texts ih =>
      rw [List.map_cons, List.mapM_cons, ih]
      rfl

/-- **The statements for a sequence append its pairs.**  Only a list of joined values
is left behind, and only where the type is not nullable. -/
theorem appends_pushItems {query key : String} {separator : Option String} {p : Parameter}
    (h : e.value rt env = .ok v) (hbase : HasBase p.type v) (hfamily : p.type.family = .sequence)
    (hitem : Identifier.variableName "item" ≠ Identifier.variableName query)
    (hjoined : Identifier.variableName (joinedValues p) ≠ Identifier.variableName query) :
    Appends rt env (pushItems query key separator p e) (Identifier.variableName query)
      Runtime.pairList [Identifier.variableName (joinedValues p)]
      (.ok (sequencePairs key separator
        ((presentValues p.type v).map (fun item => rt.encode (rt.textOf item))))) := by
  have hitems := value_presentItems h hbase hfamily
  cases separator with
  | none =>
      have hpairs : sequencePairs key none
          ((presentValues p.type v).map (fun item => rt.encode (rt.textOf item))) =
            ((presentValues p.type v).map .ref).flatMap
              (fun item => [(key, rt.encode (rt.textOf item))]) := by
        rw [sequencePairs, List.map_map, List.flatMap_map, List.map_eq_flatMap]
        rfl
      rw [hpairs]
      exact .forEach hitems hitem
        (fun env item _ => appends_pushPair (value_encodedItem item env))
  | some s =>
      have hcollected := value_collected hitems
      -- From here on it does not matter where the texts come from.
      generalize (presentValues p.type v).map (fun item => rt.encode (rt.textOf item)) = texts
        at hcollected ⊢
      have hvalues : (Expr.ident (joinedValues p)).value rt
          (⟨Identifier.variableName (joinedValues p), false, .list (texts.map .text)⟩ :: env) =
            .ok (.list (texts.map .text)) :=
        (Expr.value_ident _).trans Env.read_bound
      have hjoin := (Expr.value_method hvalues (Expr.evalAll_one (Expr.value_str s))).trans
        (Runtime.method_join (mapM_text? texts))
      rw [sequencePairs]
      refine .bind hcollected hjoined
        (.ifThen (value_isNotEmpty_list hvalues rfl) (fun hempty => ?_) (fun hnonempty => ?_))
      · rw [if_pos (by simpa using hempty)]
      · rw [if_neg (by simpa using hnonempty)]
        exact appends_pushPair hjoin

end Statements

/-! ### All query parameters -/

theorem singlePairs_ref (rt : Runtime Atom) (b : QueryBinding) (v : Value Atom) :
    singlePairs rt b (.ref v) = singlePairs rt b v := rfl

/-- **The statements of a query parameter append its pairs.**  The role is one that
was chosen for the type, the locals are those of the method, and the value is any
of the type. -/
theorem bindQuery_appends (rt : Runtime Atom) {m : Method} {p : Parameter} (hp : p ∈ m.parameters)
    {declared : Declaration.Parameter} (hrole : Role.classify declared p.type = .ok p.role)
    {env : Env Atom} {v : Value Atom} (hread : env.read (Identifier.variableName p.name) = .ok v)
    (htype : HasType p.type v) :
    Appends rt env (bindQuery (localsOf m) p) (Identifier.variableName (localsOf m).query)
      Runtime.pairList [Identifier.variableName (joinedValues p)] (parameterPairs rt p v) := by
  have hquery : IsPlainWord "query" := isPlainWord_of_mem_baseNames _ (by decide)
  have hparam : Identifier.variableName p.name ≠ Identifier.variableName (localsOf m).query :=
    variableName_ne_freeName hquery (List.mem_map_of_mem hp)
  have hitem : Identifier.variableName "item" ≠ Identifier.variableName (localsOf m).query :=
    (variableName_freeName_ne hquery isPlainWord_item (by decide) _).symm
  have hjoined : Identifier.variableName (joinedValues p) ≠
      Identifier.variableName (localsOf m).query :=
    variableName_joined_ne hquery (by decide) p.name _
  have hfits := classify_fits hrole
  unfold bindQuery parameterPairs
  cases hp : p.role with
  | query b =>
      rw [hp] at hfits
      obtain ⟨-, -, hshape⟩ := hfits
      exact .whenPresent hread htype hparam (singlePairs_ref rt b)
        (fun env w hw hbase _ =>
          appends_pushQuery ((Expr.value_ident _).trans hw) hbase hshape)
  | arrayQuery key separator =>
      rw [hp] at hfits
      exact .whenPresent hread htype hparam (fun _ => rfl)
        (fun env w hw hbase _ =>
          appends_pushItems ((Expr.value_ident _).trans hw) hbase hfits hitem hjoined)
  | _ => cases v.content? p.type <;> exact .nil

/-- **What the query statements are and do.**  The list of pairs is declared first,
empty, and mutable if anything is added to it.  The query parameters follow in
their order, and the statements of each append its pairs. -/
theorem queryStatements_spec (rt : Runtime Atom) (m : Method) :
    ∃ declaration,
      queryStatements m.parameters (localsOf m) =
        declaration ::
          (m.parameters.filter (fun p => p.role.isQuery)).flatMap (bindQuery (localsOf m)) ∧
      (∀ env, declaration.run rt env =
        .ok (⟨Identifier.variableName (localsOf m).query,
          !(m.parameters.filter (fun p => p.role.isQuery)).isEmpty, Runtime.pairList []⟩ :: env)) ∧
      ∀ p ∈ m.parameters, p.role.isQuery = true →
        ∀ declared, Role.classify declared p.type = .ok p.role →
          ∀ env v, env.read (Identifier.variableName p.name) = .ok v → HasType p.type v →
            Appends rt env (bindQuery (localsOf m) p) (Identifier.variableName (localsOf m).query)
              Runtime.pairList [Identifier.variableName (joinedValues p)]
              (parameterPairs rt p v) := by
  refine ⟨_, rfl, fun env => ?_, fun p hp _ declared hrole env v hread htype => ?_⟩
  · exact Stmt.run_bind (Expr.value_call Expr.evalAll_nil) _ _
  · exact bindQuery_appends rt hp hrole hread htype

/-- The statements of several query parameters append the pairs of all.  A list of
joined values stays in scope, so none may be written like one of the parameters. -/
theorem bindQueries_appends (rt : Runtime Atom) {m : Method} {values : Parameter → Value Atom}
    {queries : List Parameter} (hqueries : queries ⊆ m.parameters)
    (hroles : ∀ p ∈ queries, ∃ declared, Role.classify declared p.type = .ok p.role)
    (hapart : ∀ p ∈ queries, ∀ q ∈ queries,
      Identifier.variableName q.name ≠ Identifier.variableName (joinedValues p))
    (htypes : ∀ p ∈ queries, HasType p.type (values p)) {env : Env Atom}
    (hholds : Holds values queries env) :
    Appends rt env (queries.flatMap (bindQuery (localsOf m)))
      (Identifier.variableName (localsOf m).query) Runtime.pairList
      (queries.flatMap (fun p => [Identifier.variableName (joinedValues p)]))
      (allOf (fun p => parameterPairs rt p (values p)) queries) := by
  have hquery : IsPlainWord "query" := isPlainWord_of_mem_baseNames _ (by decide)
  refine .flatMap ?_ ?_ ?_ hholds
  · intro p _ hmem
    exact variableName_joined_ne hquery (by decide) p.name _ (List.mem_singleton.mp hmem).symm
  · intro p hp env env' hholds hsame q hq
    rw [hsame, hholds q hq]
    · exact variableName_ne_freeName hquery (List.mem_map_of_mem (hqueries hq))
    · exact fun hmem => hapart p hp q hq (List.mem_singleton.mp hmem)
  · intro p hp env hholds
    obtain ⟨declared, hrole⟩ := hroles p hp
    exact bindQuery_appends rt (hqueries hp) hrole (hholds p hp) (htypes p hp)

/-- **All query statements together append the pairs of all query parameters**, in
their order, to the list they declare; or they stop with the first error. -/
theorem queryStatements_run (rt : Runtime Atom) {m : Method} {values : Parameter → Value Atom}
    {queries : List Parameter} (hqueries : m.parameters.filter (fun p => p.role.isQuery) = queries)
    (hroles : ∀ p ∈ queries, ∃ declared, Role.classify declared p.type = .ok p.role)
    (hapart : ∀ p ∈ queries, ∀ q ∈ queries,
      Identifier.variableName q.name ≠ Identifier.variableName (joinedValues p))
    (htypes : ∀ p ∈ queries, HasType p.type (values p)) {env : Env Atom}
    (hholds : Holds values queries env) :
    match allOf (fun p => parameterPairs rt p (values p)) queries with
    | .ok pairs => ∃ left : Env Atom,
        (∀ s ∈ left, s.ident ∈
          queries.flatMap (fun p => [Identifier.variableName (joinedValues p)])) ∧
        Stmt.runAll rt env (queryStatements m.parameters (localsOf m)) =
          .ok (left ++ ⟨Identifier.variableName (localsOf m).query, !queries.isEmpty,
            Runtime.pairList pairs⟩ :: env)
    | .error error =>
      Stmt.runAll rt env (queryStatements m.parameters (localsOf m)) =
        .error (.raised error) := by
  have hquery : IsPlainWord "query" := isPlainWord_of_mem_baseNames _ (by decide)
  have hdeclared : Stmt.runAll rt env (queryStatements m.parameters (localsOf m)) =
      Stmt.runAll rt (⟨Identifier.variableName (localsOf m).query, !queries.isEmpty,
        Runtime.pairList []⟩ :: env) (queries.flatMap (bindQuery (localsOf m))) := by
    rw [← hqueries, queryStatements, Stmt.runAll_cons,
      Stmt.run_bind (Expr.value_call Expr.evalAll_nil)]
    rfl
  rw [hdeclared]
  cases queries with
  -- The list cannot be changed, and nothing tries to.
  | nil => exact ⟨[], nofun, rfl⟩
  | cons p rest =>
      have hsubset : p :: rest ⊆ m.parameters := hqueries ▸ List.filter_subset_self _
      have hinside : Holds values (p :: rest)
          (⟨Identifier.variableName (localsOf m).query, true, Runtime.pairList []⟩ :: env) :=
        hholds.bound (fun q hq => variableName_ne_freeName hquery (List.mem_map_of_mem (hsubset hq)))
      have happends := bindQueries_appends rt hsubset hroles hapart htypes hinside []
        Env.slot?_bound
      cases hall : allOf (fun p => parameterPairs rt p (values p)) (p :: rest) with
      | error error =>
          rw [hall] at happends
          exact happends
      | ok pairs =>
          rw [hall] at happends
          obtain ⟨left, hleft, hrun⟩ := happends
          exact ⟨left, hleft, hrun.trans (by rw [Env.put_bound]; rfl)⟩

/-- Colours, some of them missing, that make one query value. -/
def tagsParameter : Parameter :=
  ⟨"tags",
    .mk "Option<Vec<Option<String>>>" "Vec<Option<String>>" .sequence true
      (some (.mk "Option<String>" "String" .text true none)),
    .arrayQuery "tag" (some ","), none⟩

/-- The parameter as it is declared. -/
def declaredTags : Declaration.Parameter :=
  ⟨"tags", "Option<Vec<Option<String>>>", none,
    [⟨"ArrayQuery", [.text "tag", .text ","], []⟩]⟩

/-- A method with this parameter. -/
def tagsMethod : Method :=
  ⟨"FindByTags", .get, "/tags", .asyncVoid, [tagsParameter], none, false, false, "ITagApi"⟩

/-- Two colours and a missing one. -/
def someTags : Value Nat :=
  .present (.list [.present (.text "red"), .absent, .present (.text "blue")])

theorem tagsMethod_query :
    Appends plainRuntime [⟨"tags", false, someTags⟩, ⟨"query", true, Runtime.pairList []⟩]
      (bindQuery (localsOf tagsMethod) tagsParameter) "query" Runtime.pairList ["tags_values"]
      (.ok [("tag", "red,blue")]) := by
  obtain ⟨-, -, -, happends⟩ := queryStatements_spec plainRuntime tagsMethod
  have hrole : Role.classify declaredTags tagsParameter.type = .ok tagsParameter.role := by
    with_unfolding_all rfl
  have hnames : Identifier.variableName tagsParameter.name = "tags" ∧
      Identifier.variableName (localsOf tagsMethod).query = "query" ∧
      Identifier.variableName (joinedValues tagsParameter) = "tags_values" := by decide
  have htype : HasType tagsParameter.type someTags := by
    refine .present rfl (.list rfl rfl (fun v hv => ?_))
    simp only [List.mem_cons, List.not_mem_nil, or_false] at hv
    rcases hv with rfl | rfl | rfl
    · exact .present rfl (.text rfl)
    · exact .absent rfl
    · exact .present rfl (.text rfl)
  have hpairs : parameterPairs plainRuntime tagsParameter someTags =
      .ok [("tag", "red,blue")] := by
    rfl
  rw [← hpairs, ← hnames.2.1, ← hnames.2.2]
  exact happends tagsParameter List.mem_cons_self rfl declaredTags hrole _ _
    (hnames.1 ▸ rfl) htype

end Request
end ClientSynth
