import ClientSynth.Proofs.Quiet
import ClientSynth.Request.Execution

/-! # Preparing a request

The statements of a method before its request is built fill in defaults and put
the path, the query, the headers and the body together.  They only prepare: no
hook is called before they are through, and what stops them is an error. -/
namespace ClientSynth
namespace Request

open Contract Code

variable {e : Expr}

/-! ### The statements before a request -/

theorem textExpr_isQuiet (h : e.IsQuiet True) : (textExpr e).IsQuiet True :=
  Expr.isQuiet_method0 h (by decide)

theorem encoded_isQuiet (h : e.IsQuiet True) : (encoded e).IsQuiet True :=
  Expr.isQuiet_call (by decide) (by simpa using Expr.isQuiet_borrow h)

theorem isNotEmpty_isQuiet (h : e.IsQuiet True) : (isNotEmpty e).IsQuiet True :=
  Expr.isQuiet_negate (Expr.isQuiet_method0 h (by decide))

theorem formatValue_isQuiet (format : String) (h : e.IsQuiet True) :
    (formatValue format e).2.IsQuiet True := by
  unfold formatValue
  split
  · exact Expr.isQuiet_method h (by decide) (by simpa using Expr.isQuiet_str format)
  · exact h

theorem shown_isQuiet (format : Option String) (h : e.IsQuiet True) :
    (shown format e).2.IsQuiet True := by
  cases format with
  | none => exact h
  | some f => exact formatValue_isQuiet f h

theorem whenPresent_isQuiet {p : Parameter} {emit : Expr → Block}
    (h : ∀ value : Expr, value.IsQuiet True → ∀ s ∈ emit value, s.IsQuiet True) :
    ∀ s ∈ whenPresent p emit, s.IsQuiet True := by
  have hvalue := h _ (Expr.isQuiet_ident p.name)
  unfold whenPresent
  dsimp only
  split
  · simpa using
      Stmt.isQuiet_ifLet "Some" p.name (Expr.isQuiet_borrow (Expr.isQuiet_ident p.name)) hvalue
  · exact hvalue

theorem pathArgument_isQuiet (p : Parameter) : (pathArgument p).2.IsQuiet True := by
  have hvalue : (Expr.ident p.name).IsQuiet True := Expr.isQuiet_ident p.name
  unfold pathArgument
  split
  · refine Expr.isQuiet_method
      (Expr.isQuiet_method (Expr.isQuiet_method hvalue ?_ ?_) ?_ ?_) ?_ ?_ <;> try simp
    split
    · exact Expr.isQuiet_lambda _ (Expr.isQuiet_format _
        (by simpa using formatValue_isQuiet _ (Expr.isQuiet_ident "value")))
    · exact Expr.isQuiet_raw _
  · exact shown_isQuiet _ hvalue

theorem pathPieces_isQuiet (parameters : List Parameter) (parts : List UrlPart) :
    ∀ e ∈ (pathPieces parameters parts).2, e.IsQuiet True := by
  induction parts with
  | nil => exact fun e he => nomatch he
  | cons part rest ih =>
      unfold pathPieces
      dsimp only
      split
      · exact List.forall_mem_cons.mpr ⟨pathArgument_isQuiet _, ih⟩
      · exact ih

theorem pathExpr_isQuiet (template : String) (parameters : List Parameter) :
    (pathExpr template parameters).IsQuiet True := by
  have hpieces := pathPieces_isQuiet parameters (Placeholder.parts template.toList)
  unfold pathExpr
  split
  · exact Expr.isQuiet_str template
  · next heq => exact Expr.isQuiet_format _ (by rwa [heq] at hpieces)

theorem defaultStatements_isQuiet (parameters : List Parameter) :
    ∀ s ∈ defaultStatements parameters, s.IsQuiet True := by
  intro s hs
  obtain ⟨p, -, hp⟩ := List.mem_filterMap.mp hs
  unfold defaultStatement at hp
  split at hp
  · obtain ⟨fallback, -, rfl⟩ := Option.map_eq_some_iff.mp hp
    exact Stmt.isQuiet_bind _ _ _ (Expr.isQuiet_method (Expr.isQuiet_ident _) (by decide)
      (by simpa using Expr.isQuiet_lambda [] (Expr.isQuiet_raw fallback)))
  · cases hp

theorem pushPair_isQuiet (query key : String) (h : e.IsQuiet True) :
    (pushPair query key e).IsQuiet True :=
  Stmt.isQuiet_eval (Expr.isQuiet_method (Expr.isQuiet_ident query) (by decide)
    (by simpa using
      Expr.isQuiet_tuple (by simpa using ⟨textExpr_isQuiet (Expr.isQuiet_str key), h⟩)))

theorem displayed_isQuiet (format : Option String) (h : e.IsQuiet True) :
    (displayed format e).IsQuiet True := by
  unfold displayed
  split
  · dsimp only
    split
    · exact textExpr_isQuiet (formatValue_isQuiet _ h)
    · exact Expr.isQuiet_format _ (by simpa using formatValue_isQuiet _ h)
  · exact textExpr_isQuiet h

theorem pushQuery_isQuiet (query : String) (b : QueryBinding) (h : e.IsQuiet True) :
    ∀ s ∈ pushQuery query b e, s.IsQuiet True := by
  unfold pushQuery
  split <;> rw [List.forall_mem_singleton]
  · exact Stmt.isQuiet_ifThen (isNotEmpty_isQuiet h)
      (by simpa using pushPair_isQuiet query b.key (encoded_isQuiet h))
  · exact pushPair_isQuiet query b.key (displayed_isQuiet b.format h)
  · exact Stmt.isQuiet_eval (Expr.isQuiet_method (Expr.isQuiet_ident query) (by decide)
      (by simpa using Expr.isQuiet_attempt (by decide) (by simpa using Expr.isQuiet_borrow h)))

theorem presentItems_isQuiet (type : DeclaredType) (h : e.IsQuiet True) :
    (presentItems type e).IsQuiet True := by
  have hitems : (e.method0 "iter").IsQuiet True := Expr.isQuiet_method0 h (by decide)
  unfold presentItems
  dsimp only
  split
  · exact Expr.isQuiet_method0 hitems (by decide)
  · exact hitems

theorem encodedItem_isQuiet : encodedItem.IsQuiet True :=
  encoded_isQuiet (textExpr_isQuiet (Expr.isQuiet_ident "item"))

theorem pushItems_isQuiet (query key : String) (separator : Option String) (p : Parameter)
    (h : e.IsQuiet True) : ∀ s ∈ pushItems query key separator p e, s.IsQuiet True := by
  have hitems := presentItems_isQuiet p.type h
  unfold pushItems
  dsimp only
  split
  · next s =>
    have hvalues : (Expr.ident (joinedValues p)).IsQuiet True := Expr.isQuiet_ident _
    have hmap :
        ((presentItems p.type e).method "map" [.lambda ["item"] encodedItem]).IsQuiet True :=
      Expr.isQuiet_method hitems (by decide)
        (List.forall_mem_singleton.mpr (Expr.isQuiet_lambda ["item"] encodedItem_isQuiet))
    have hjoin : ((Expr.ident (joinedValues p)).method "join" [.str s]).IsQuiet True :=
      Expr.isQuiet_method hvalues (by decide) (List.forall_mem_singleton.mpr (Expr.isQuiet_str s))
    simp only [List.forall_mem_cons, List.not_mem_nil, false_implies, implies_true, and_true]
    exact ⟨Stmt.isQuiet_bind _ _ _ (Expr.isQuiet_method0 hmap (by decide)),
      Stmt.isQuiet_ifThen (isNotEmpty_isQuiet hvalues)
        (by simpa using pushPair_isQuiet query key hjoin)⟩
  · rw [List.forall_mem_singleton]
    exact Stmt.isQuiet_forEach "item" hitems
      (by simpa using pushPair_isQuiet query key encodedItem_isQuiet)

theorem bindQuery_isQuiet (locals : Locals) (p : Parameter) :
    ∀ s ∈ bindQuery locals p, s.IsQuiet True := by
  unfold bindQuery
  split
  · exact whenPresent_isQuiet (fun value h => pushQuery_isQuiet _ _ h)
  · exact whenPresent_isQuiet (fun value h => pushItems_isQuiet _ _ _ _ h)
  · exact fun s hs => nomatch hs

theorem queryStatements_isQuiet (parameters : List Parameter) (locals : Locals) :
    ∀ s ∈ queryStatements parameters locals, s.IsQuiet True := by
  unfold queryStatements
  refine List.forall_mem_cons.mpr
    ⟨Stmt.isQuiet_bind _ _ _ (Expr.isQuiet_call (by decide) (by simp)), ?_⟩
  intro s hs
  obtain ⟨p, -, hp⟩ := List.mem_flatMap.mp hs
  exact bindQuery_isQuiet locals p s hp

theorem addressStatements_isQuiet (m : Method) (locals : Locals) :
    ∀ s ∈ addressStatements m locals, s.IsQuiet True := by
  have hurl : (Expr.call "build_url" [.raw "&self.base_address", .borrow (.ident locals.path),
      .borrow (.ident locals.query)]).IsQuiet True :=
    Expr.isQuiet_call (by decide) (by
      simpa using ⟨Expr.isQuiet_raw _, Expr.isQuiet_borrow (Expr.isQuiet_ident _),
        Expr.isQuiet_borrow (Expr.isQuiet_ident _)⟩)
  unfold addressStatements
  rw [List.forall_mem_append, List.forall_mem_cons, List.forall_mem_singleton]
  exact ⟨⟨Stmt.isQuiet_bind _ _ _ (pathExpr_isQuiet _ _), queryStatements_isQuiet _ _⟩,
    Stmt.isQuiet_bind _ _ _ hurl⟩

theorem bindHeader_isQuiet (locals : Locals) (p : Parameter) :
    ∀ s ∈ bindHeader locals p, s.IsQuiet True := by
  unfold bindHeader
  split
  · next name _ =>
    refine whenPresent_isQuiet (fun value h => ?_)
    have hassign : (Stmt.assign locals.builder ((Expr.ident locals.builder).method "header"
        [.str name, textExpr value])).IsQuiet True :=
      Stmt.isQuiet_assign _ (Expr.isQuiet_method (Expr.isQuiet_ident _) (by decide)
        (by simpa using ⟨Expr.isQuiet_str name, textExpr_isQuiet h⟩))
    unfold setHeader
    dsimp only
    split <;> rw [List.forall_mem_singleton]
    · exact Stmt.isQuiet_ifThen (isNotEmpty_isQuiet h) (by simpa using hassign)
    · exact hassign
  · exact fun s hs => nomatch hs

theorem payload_isQuiet (p : Parameter) (asText : Bool) (h : e.IsQuiet True) :
    (payload p asText e).IsQuiet True := by
  unfold payload
  split
  · exact textExpr_isQuiet h
  · refine Expr.isQuiet_attempt (by decide) (List.forall_mem_singleton.mpr ?_)
    split
    · exact h
    · exact Expr.isQuiet_borrow h

theorem bindBody_isQuiet (locals : Locals) (method interface : Option String) (p : Parameter) :
    ∀ s ∈ bindBody locals method interface p, s.IsQuiet True := by
  unfold bindBody
  split
  · next b _ =>
    refine whenPresent_isQuiet (fun value h => List.forall_mem_singleton.mpr ?_)
    refine Stmt.isQuiet_assign _ (Expr.isQuiet_method (Expr.isQuiet_method (Expr.isQuiet_ident _)
      (by decide) ?_) (by decide) ?_)
    · simpa using ⟨Expr.isQuiet_raw _, Expr.isQuiet_str _⟩
    · simpa using payload_isQuiet p b.asText h
  · exact fun s hs => nomatch hs

theorem builderStatements_isQuiet (m : Method) (interfaceContentType : Option String)
    (locals : Locals) : ∀ s ∈ builderStatements m interfaceContentType locals, s.IsQuiet True := by
  unfold builderStatements bodyStatements
  rw [List.forall_mem_append]
  constructor
  · intro s hs
    obtain ⟨p, -, hp⟩ := List.mem_flatMap.mp hs
    exact bindHeader_isQuiet locals p s hp
  · split
    · exact bindBody_isQuiet _ _ _ _
    · exact fun s hs => nomatch hs

theorem builderStatement_isQuiet (m : Method) (additions : Block) (locals : Locals) :
    (builderStatement m additions locals).IsQuiet True :=
  Stmt.isQuiet_bind _ _ _ (Expr.isQuiet_method (Expr.isQuiet_raw _) (by decide)
    (by simpa using ⟨Expr.isQuiet_raw _, Expr.isQuiet_ident _⟩))

theorem cancelArgument_isQuiet {mayFail : Prop} (m : Method) :
    (cancelArgument m).IsQuiet mayFail := by
  unfold cancelArgument
  split
  · exact Expr.isQuiet_raw _
  · next p _ =>
    have hp : (Expr.ident p.name).IsQuiet mayFail := Expr.isQuiet_ident p.name
    dsimp only
    split
    · exact hp
    · exact Expr.isQuiet_method0 hp (by decide)
    · exact Expr.isQuiet_call (by decide) (by simpa using hp)
    · exact Expr.isQuiet_call (by decide) (by simpa using Expr.isQuiet_borrow hp)

end Request
end ClientSynth
