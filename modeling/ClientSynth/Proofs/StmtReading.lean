import ClientSynth.Proofs.ExprReading

/-! # Which statements are read back

A statement is read back from its trees exactly if it keeps its shape, provided that this is
so for what it is made of.  What stands behind the value of a block decides whether it is
read as the value. -/
namespace ClientSynth
namespace Code
namespace Reader

/-! ### Expressions as statements -/

section Forms
variable {inside : Inside} {e x y : Expr} {es : List Expr} {body : List Stmt}
  {rest r ts us : List Tree} {n : Nat}

theorem effect_eq_eval (h : effect x = .eval y) : x = y := by
  unfold effect at h
  split at h
  · cases h
  · split at h
    · cases h
    · cases h
      rfl
  · cases h
    rfl

theorem raw_ne_spelled {code : String} {c : Char} (hc : c ∈ code.toList)
    (hword : isWordChar c = false) (hcolon : c ≠ ':') (h : e.HasPlainCode) :
    e.spelled ≠ .raw code := by
  intro heq
  have hchars : ∀ d ∈ code.toList, isWordChar d = true ∨ d = ':' := by
    cases e with
    | raw other =>
      rw [Expr.spelled] at heq
      rw [Expr.HasPlainCode] at h
      cases heq
      exact h.isWordChar_or
    | ident name =>
      rw [Expr.spelled] at heq
      cases heq
      exact (IsPath.word (Identifier.isSegment_variableName name)).isWordChar_or
    | _ => rw [Expr.spelled] at heq; cases heq
  rcases hchars c hc with hd | hd
  · rw [hword] at hd
    cases hd
  · exact hcolon hd

theorem logLevel?_of_isPath {callee : String} (h : IsPath callee) : logLevel? callee = none := by
  refine List.find?_eq_none.mpr fun level _ heq => ?_
  have hmark : '!' ∈ callee.toList := by
    rw [eq_of_beq heq, String.toList_append]
    exact List.mem_append_right _ (by decide)
  rcases h.isWordChar_or _ hmark with hd | hd <;> cases hd

/-- A plain expression is evaluated, and neither calls a hook nor logs. -/
theorem effect_spelled (h : e.HasPlainCode) : effect e.spelled = .eval e.spelled := by
  unfold effect
  split
  · next heq =>
    cases e with
    | method receiver name arguments =>
      rw [Expr.spelled] at heq
      rw [Expr.HasPlainCode] at h
      have hreceiver := (Expr.method.inj heq).1
      exact absurd hreceiver (raw_ne_spelled (c := '.') (by decide) (by decide) (by decide) h.1)
    | _ => rw [Expr.spelled] at heq; cases heq
  · next callee message arguments heq =>
    cases e with
    | call other fs =>
      rw [Expr.spelled] at heq
      rw [Expr.HasPlainCode] at h
      rw [Expr.spelled, heq, ← (Expr.call.inj heq).1, logLevel?_of_isPath h.1]
    | _ => rw [Expr.spelled] at heq; cases heq
  · rfl

theorem worded_of_startsExpr {w : String} (h : (Tree.word w).startsExpr = true) :
    worded inside w rest = simple inside (.word w :: rest) := by
  have hne : ∀ v, (Tree.word v).startsExpr = false → w ≠ v := by
    rintro v hv rfl
    rw [hv] at h
    cases h
  unfold worded
  rw [if_neg (hne "let" (by decide)), if_neg (hne "if" (by decide)),
    if_neg (hne "for" (by decide)), if_neg (hne "return" (by decide))]

theorem startsOperator_append (h : startsOperator ts = true) :
    startsOperator (ts ++ us) = true := by
  cases ts with
  | nil => cases h
  | cons t ts => cases t <;> exact h

/-- An operand that begins with a block is the block, or what follows the block in it begins
with an operator: with an operator behind the operand, one follows the block either way. -/
theorem startsOperator_behind (h : e.HasPlainCode) (hrest : startsOperator rest = true)
    (hoperand : e.isBlock = false → ∀ us, e.trees = .group .curly ts :: us →
      startsOperator us = true) (heq : e.trees ++ rest = .group .curly ts :: us) :
    startsOperator us = true := by
  by_cases hblock : e.isBlock = true
  · obtain ⟨body, rfl⟩ := eq_block_of_isBlock hblock
    rw [Expr.trees] at heq
    cases heq
    exact hrest
  · obtain ⟨t, more, hmore, -⟩ := e.exists_trees h
    rw [hmore, List.cons_append] at heq
    cases heq
    exact startsOperator_append (hoperand (Bool.eq_false_iff.mpr hblock) more hmore)

/-- Behind a block at the start of an expression stands an operator, or the block is all. -/
theorem startsOperator_of_curly : (e : Expr) → e.HasPlainCode → e.isBlock = false → ∀ ts us,
    e.trees = .group .curly ts :: us → startsOperator us = true
  | .raw code, h, _, ts, us, heq => by
    rw [Expr.HasPlainCode] at h
    obtain ⟨first, more, hfirst, -⟩ := h.exists_trees
    rw [Expr.trees, hfirst] at heq
    cases heq
  | .call callee _, h, _, ts, us, heq | .record callee _, h, _, ts, us, heq => by
    rw [Expr.HasPlainCode] at h
    obtain ⟨first, more, hfirst, -⟩ := h.1.exists_trees
    rw [Expr.trees, hfirst] at heq
    cases heq
  | .await operand, h, _, ts, us, heq | .attempt operand, h, _, ts, us, heq => by
    rw [Expr.HasPlainCode] at h
    rw [Expr.trees] at heq
    exact startsOperator_behind h rfl
      (fun hblock => startsOperator_of_curly operand h hblock ts) heq
  | .method receiver name arguments, h, _, ts, us, heq => by
    rw [Expr.HasPlainCode] at h
    rw [Expr.trees] at heq
    by_cases hneeds : receiver.needsParens = true
    · rw [if_pos hneeds] at heq
      cases heq
    · rw [if_neg hneeds] at heq
      exact startsOperator_behind h.1 rfl
        (fun hblock => startsOperator_of_curly receiver h.1 hblock ts) heq
  | .block false _, _, hblock, _, _, _ => by cases hblock
  | .block true _, _, _, _, _, heq | .closure _ _ _, _, _, _, _, heq
  | .ident _, _, _, _, _, heq | .str _, _, _, _, _, heq | .format _ _, _, _, _, _, heq
  | .negate _, _, _, _, _, heq | .borrow _, _, _, _, _, heq | .tuple _, _, _, _, _, heq
  | .invoke _, _, _, _, _, heq => by
    rw [Expr.trees] at heq
    cases heq

theorem afterBlock_of_startsOperator (h : startsOperator rest = true) (body : List Stmt) :
    afterBlock inside ts body rest = simple inside ts := by
  unfold startsOperator at h
  split at h
  · rw [Bool.or_eq_true, beq_iff_eq, beq_iff_eq] at h
    rcases h with rfl | rfl <;> rfl
  · cases h

/-- A statement that begins with an expression, which is more than a block, is a simple one. -/
theorem stmt_expr (h : e.HasPlainCode) (hblock : e.isBlock = false) :
    stmt inside (e.trees ++ rest) = simple inside (e.trees ++ rest) := by
  obtain ⟨t, ts, heq, hstarts⟩ := e.exists_trees h
  rw [heq, List.cons_append]
  cases t with
  | word w => rw [stmt, worded_of_startsExpr hstarts]
  | quoted value => rw [stmt] <;> nofun
  | comment text => cases hstarts
  | mark c => rw [stmt] <;> nofun
  | group bracket inner =>
    cases bracket with
    | round => rw [stmt] <;> nofun
    | curly =>
      have hoperator := startsOperator_of_curly e h hblock _ _ heq
      rw [stmt]
      cases hbody : inside.body inner with
      | none => rw [simple, expr_block, hbody]; rfl
      | some body => exact afterBlock_of_startsOperator (startsOperator_append hoperator) body

/-! ### What stands behind a statement -/

/-- What may stand behind a whole statement: no word or mark that continues it. -/
def startsStmt : List Tree → Bool
  | .word w :: _ => w != "else"
  | .mark c :: _ => c != '.' && c != '?' && c != ';'
  | _ => true

/-- Whether a statement keeps its meaning in front of `rest`: the value of a block is its last
part, comments apart, unless it is a block itself. -/
def mayStandBefore (rest : List Tree) : Stmt → Bool
  | .tail value => value.isBlock || rest.all isComment
  | _ => true

/-- The statement is read back from its trees, in front of whatever it may stand before,
exactly if it keeps its shape. -/
def StmtReadsExactly (s : Stmt) : Prop :=
  ∀ n rest r, depth s.trees ≤ n → startsStmt rest = true → mayStandBefore rest s = true →
    (stmt (insideAt n) (s.trees ++ rest) = some (s.spelled, r) ↔
      s.keepsShape = true ∧ r = rest)

/-! ### Sentences -/

/-- An expression up to a semicolon. -/
theorem sentence_iff (h : IsReadable e) (hn : depth e.trees ≤ n) :
    sentence (insideAt n) (e.trees ++ .mark ';' :: rest) = some (e.spelled, r) ↔
      e.keepsShape = true ∧ r = rest := by
  have hread := h.readsExactly n true (.mark ';' :: rest) (.mark ';' :: r) hn rfl
  simp only [true_or, true_and, List.cons.injEq] at hread
  rw [← hread, sentence, Option.bind_eq_some_iff]
  constructor
  · rintro ⟨⟨x, us⟩, hx, hended⟩
    unfold ended at hended
    split at hended
    · next heq =>
      cases heq
      cases hended
      exact hx
    · cases hended
  · exact fun hx => ⟨_, hx, rfl⟩

/-- A statement that is made of what a sentence gives. -/
theorem map_sentence_iff (make : Expr → Stmt) (hmake : ∀ x y, make x = make y → x = y)
    (h : IsReadable e) (hn : depth e.trees ≤ n) :
    ((sentence (insideAt n) (e.trees ++ .mark ';' :: rest)).map fun s => (make s.1, s.2)) =
        some (make e.spelled, r) ↔
      e.keepsShape = true ∧ r = rest := by
  rw [← sentence_iff h hn, Option.map_eq_some_iff]
  constructor
  · rintro ⟨⟨x, us⟩, hx, heq⟩
    obtain ⟨hvalue, rfl⟩ := Prod.mk.inj heq
    rw [hx, hmake x _ hvalue]
  · exact fun hx => ⟨_, hx, rfl⟩

theorem readsStmt_ret (h : IsReadable e) : StmtReadsExactly (.ret e) := by
  intro n rest r hn _ _
  rw [Stmt.trees] at hn ⊢
  rw [Stmt.spelled, Stmt.keepsShape,
    ← map_sentence_iff .ret (fun _ _ heq => Stmt.ret.inj heq) h
      (depth_tail_le (depth_le_left hn))]
  simp only [List.cons_append, List.append_assoc, List.nil_append]
  rfl

theorem readsStmt_assign (target : String) (h : IsReadable e) :
    StmtReadsExactly (.assign target e) := by
  intro n rest r hn _ _
  rw [Stmt.trees] at hn ⊢
  rw [Stmt.spelled, Stmt.keepsShape, ← map_sentence_iff (.assign _)
    (fun _ _ heq => (Stmt.assign.inj heq).2) h
    (depth_tail_le (depth_tail_le (depth_le_left hn)))]
  have hstarts : (Tree.word (Identifier.variableName target)).startsExpr = true := by
    rw [Tree.startsExpr, not_keyword_of_isSegment (Identifier.isSegment_variableName target),
      Bool.not_false, Bool.or_true]
  have htarget : expr (insideAt n) true (.word (Identifier.variableName target) ::
      .mark '=' :: (e.trees ++ .mark ';' :: rest)) = _ := (takes_name target).ends rfl
  simp only [List.cons_append, List.append_assoc, List.nil_append]
  rw [stmt, worded_of_startsExpr hstarts, simple, htarget]
  rfl

theorem worded_let : worded inside "let" rest = afterLet inside rest := by
  unfold worded
  exact if_pos rfl

theorem binding_eq (name : String) (isMutable : Bool) {type : Option String}
    (h : ∀ t ∈ type, IsPath t) :
    binding inside isMutable (.word name :: (typeTrees type ++ .mark '=' :: rest)) =
      (sentence inside rest).map fun s => (.bind name isMutable type s.1, s.2) := by
  cases type with
  | none => rfl
  | some t =>
    rw [typeTrees, List.cons_append, binding, path_fragment (h t rfl) rfl]
    rfl

theorem afterLet_eq (name : String) (isMutable : Bool) :
    afterLet inside ((if isMutable then [.word "mut"] else []) ++
        .word (Identifier.variableName name) :: rest) =
      binding inside isMutable (.word (Identifier.variableName name) :: rest) := by
  cases isMutable with
  | true => rfl
  | false =>
    have hmut : Identifier.variableName name ≠ "mut" := by
      intro heq
      have hkeyword := not_keyword_of_isSegment (Identifier.isSegment_variableName name)
      rw [heq] at hkeyword
      exact absurd hkeyword (by decide)
    exact if_neg hmut

theorem readsStmt_bind (name : String) (isMutable : Bool) {type : Option String}
    (htype : ∀ t ∈ type, IsPath t) (h : IsReadable e) :
    StmtReadsExactly (.bind name isMutable type e) := by
  intro n rest r hn _ _
  rw [Stmt.trees] at hn ⊢
  rw [Stmt.spelled, Stmt.keepsShape, ← map_sentence_iff (.bind _ _ _)
    (fun _ _ heq => (Stmt.bind.inj heq).2.2.2) h
    (depth_tail_le (depth_le_right (depth_le_left hn)))]
  simp only [List.cons_append, List.append_assoc, List.nil_append]
  rw [stmt, worded_let, afterLet_eq, binding_eq _ _ htype]

/-! ### Expressions that are statements -/

theorem block_iff (h : BodyReads body)
    (hn : depth (.group .curly (Stmt.treesAll body) :: us) ≤ n) :
    block (insideAt n) (.group .curly (Stmt.treesAll body) :: rest) =
        some (Stmt.spelledAll body, r) ↔
      Stmt.keepShape body = true ∧ r = rest := by
  rw [← h n us hn, block, Option.map_eq_some_iff]
  constructor
  · rintro ⟨statements, hbody, heq⟩
    obtain ⟨rfl, rfl⟩ := Prod.mk.inj heq
    exact ⟨hbody, rfl⟩
  · rintro ⟨hbody, rfl⟩
    exact ⟨_, hbody, rfl⟩

theorem simple_of_semicolon (h : expr inside true ts = some (x, .mark ';' :: rest)) :
    simple inside ts = some (effect x, rest) := by
  rw [simple, h]
  rfl

/-- What is evaluated stands in front of a semicolon. -/
theorem expr_of_simple_eval (h : simple inside ts = some (.eval x, r)) :
    expr inside true ts = some (x, .mark ';' :: r) := by
  obtain ⟨⟨y, us⟩, hread, h⟩ := Option.bind_eq_some_iff.mp h
  rw [hread]
  split at h
  · next heq =>
    cases heq
    obtain ⟨heffect, rfl⟩ := Prod.mk.inj (Option.some.inj h)
    rw [effect_eq_eval heffect]
  · obtain ⟨s, -, heq⟩ := Option.map_eq_some_iff.mp h
    cases heq
  · split at h
    · cases h
    · cases h

theorem effect_ne_tail : effect x ≠ .tail y := by
  unfold effect
  split
  · nofun
  · split <;> nofun
  · nofun

/-- What is a value has comments behind it only. -/
theorem expr_of_simple_tail (h : simple inside ts = some (.tail x, r)) :
    expr inside true ts = some (x, r) ∧ r.all isComment = true := by
  obtain ⟨⟨y, us⟩, hread, h⟩ := Option.bind_eq_some_iff.mp h
  rw [hread]
  split at h
  · exact absurd (Prod.mk.inj (Option.some.inj h)).1 effect_ne_tail
  · obtain ⟨s, -, heq⟩ := Option.map_eq_some_iff.mp h
    cases heq
  · next hpair =>
    cases hpair
    split at h
    · next hcomments =>
      cases h
      exact ⟨rfl, hcomments⟩
    · cases h

theorem ends_of_comments (h : rest.all isComment = true) : ends true rest = true := by
  cases rest with
  | nil => rfl
  | cons t rest =>
    rw [List.all_cons, Bool.and_eq_true] at h
    cases t <;> first | rfl | cases h.1

theorem simple_of_comments (h : expr inside true ts = some (x, rest))
    (hrest : rest.all isComment = true) : simple inside ts = some (.tail x, rest) := by
  rw [simple, h, Option.bind_some]
  split
  · next heq => cases heq; cases hrest
  · next heq => cases heq; cases hrest
  · next heq => cases heq; exact if_pos hrest

theorem afterBlock_of_startsStmt (h : startsStmt rest = true) (body : List Stmt) :
    afterBlock inside ts body rest = some (.tail (.block false body), rest) := by
  unfold afterBlock
  split
  · cases h
  · cases h
  · cases h
  · rfl

/-- A statement that is made of a block at its start. -/
theorem bind_body_iff {o : Option (List Stmt)} (make : Expr → Stmt)
    (hmake : ∀ x y, make x = make y → x = y) :
    (o.bind fun statements => some (make (.block false statements), rest)) =
        some (make (.block false body), r) ↔ o = some body ∧ r = rest := by
  cases o with
  | none => exact ⟨nofun, nofun⟩
  | some statements =>
    constructor
    · intro h
      obtain ⟨heq, rfl⟩ := Prod.mk.inj (Option.some.inj h)
      cases hmake _ _ heq
      exact ⟨rfl, rfl⟩
    · rintro ⟨heq, rfl⟩
      cases heq
      rfl

/-- A block in front of a semicolon is evaluated. -/
theorem readsStmt_eval (h : IsReadable e)
    (hbody : ∀ body, e = .block false body → BodyReads body) : StmtReadsExactly (.eval e) := by
  intro n rest r hn _ _
  rw [Stmt.trees] at hn ⊢
  rw [Stmt.spelled, Stmt.keepsShape, List.append_assoc, List.singleton_append]
  by_cases hblock : e.isBlock = true
  · obtain ⟨body, rfl⟩ := eq_block_of_isBlock hblock
    rw [Expr.trees] at hn ⊢
    rw [Expr.spelled, Expr.keepsShape, ← hbody body rfl n _ (depth_le_left hn)]
    exact bind_body_iff .eval fun _ _ heq => Stmt.eval.inj heq
  · have hread := h.readsExactly n true (.mark ';' :: rest) (.mark ';' :: r) (depth_le_left hn) rfl
    simp only [true_or, true_and, List.cons.injEq] at hread
    rw [stmt_expr h.hasPlainCode (Bool.eq_false_iff.mpr hblock), ← hread]
    constructor
    · exact expr_of_simple_eval
    · intro hexpr
      rw [simple_of_semicolon hexpr, effect_spelled h.hasPlainCode]

/-- The value of a block. -/
theorem readsStmt_tail (h : IsReadable e)
    (hbody : ∀ body, e = .block false body → BodyReads body) : StmtReadsExactly (.tail e) := by
  intro n rest r hn hrest hbefore
  rw [Stmt.trees] at hn ⊢
  rw [Stmt.spelled, Stmt.keepsShape]
  by_cases hblock : e.isBlock = true
  · obtain ⟨body, rfl⟩ := eq_block_of_isBlock hblock
    rw [Expr.trees] at hn ⊢
    rw [Expr.spelled, Expr.keepsShape, ← hbody body rfl n _ hn,
      ← bind_body_iff .tail fun _ _ heq => Stmt.tail.inj heq]
    -- What stands behind begins a statement, so it does not go on from the block.
    have hafter (b : List Stmt) :
        afterBlock (insideAt n) (.group .curly (Stmt.treesAll body) :: rest) b rest =
          some (.tail (.block false b), rest) := afterBlock_of_startsStmt hrest b
    simp only [← hafter]
    rfl
  · rw [mayStandBefore, Bool.or_eq_true] at hbefore
    have hcomments := hbefore.resolve_left hblock
    have hends := ends_of_comments hcomments
    have hread := h.readsExactly n true rest r hn hends
    simp only [true_or, true_and] at hread
    rw [stmt_expr h.hasPlainCode (Bool.eq_false_iff.mpr hblock), ← hread]
    constructor
    · exact fun hstmt => (expr_of_simple_tail hstmt).1
    · intro hexpr
      obtain rfl := (hread.mp hexpr).2
      exact simple_of_comments hexpr hcomments

theorem stmt_word {w : String} (h : (Tree.word w).startsExpr = true) :
    stmt inside (.word w :: rest) = simple inside (.word w :: rest) := by
  rw [stmt, worded_of_startsExpr h]

theorem operators_of_semicolon (inside : Inside) (e : Expr) :
    operators inside e (.mark ';' :: rest) = some (e, .mark ';' :: rest) := by
  have hends : ends true (.mark ';' :: rest) = true := rfl
  exact operators_of_ends hends e

/-- A call of a hook is a method call on the field that holds the hooks. -/
theorem expr_hooks (name : String) :
    expr inside true (.word "self" :: .mark '.' :: .word "hooks" :: .mark '.' :: .word name ::
        .group .round ts :: .mark ';' :: rest) =
      (inside.items ts).map fun es =>
        (.method (.raw "self.hooks") name es, .mark ';' :: rest) := by
  have hpath : IsPath "self" := .word (by decide)
  have htrees : fragmentTrees "self" = [.word "self"] :=
    (spells_of_isSegment (by decide)).fragmentTrees_eq
  rw [← List.singleton_append, ← htrees, takes_fragment hpath _ rfl, Option.bind_some]
  show operators inside (.raw "self.hooks")
    (.mark '.' :: .word name :: .group .round ts :: .mark ';' :: rest) = _
  rw [operators_method]
  cases inside.items ts with
  | none => rfl
  | some es => exact operators_of_semicolon inside _

theorem readsStmt_hook (name : String) (hes : ∀ e ∈ es, IsReadable e) :
    StmtReadsExactly (.hook name es) := by
  intro n rest r hn _ _
  rw [Stmt.trees] at hn ⊢
  have hitems := items_iff hes
    (depth_tail_le (depth_tail_le (depth_tail_le (depth_tail_le (depth_tail_le hn)))))
  rw [Stmt.spelled, Stmt.keepsShape, ← hitems]
  simp only [List.cons_append, List.nil_append]
  rw [stmt_word (by decide), simple, expr_hooks]
  cases (insideAt n).items (commaTrees (Expr.treesEach es)) with
  | none => exact ⟨nofun, nofun⟩
  | some fs =>
    show some (Stmt.hook (Identifier.functionName name) fs, rest) = _ ↔ _
    simp [eq_comm]

/-- A log statement is the use of a macro. -/
theorem expr_log (level : LogLevel) :
    expr inside true (.word "log" :: .mark ':' :: .mark ':' :: .word level.text :: .mark '!' ::
        .group .round ts :: .mark ';' :: rest) =
      (inside.items ts).map fun es =>
        (.call ("log::" ++ level.text ++ "!") es, .mark ';' :: rest) := by
  have hsegment : isSegment level.text = true := by cases level <;> decide
  have hpath : IsPath ("log" ++ "::" ++ level.text) := .inside (.word (by decide)) hsegment
  -- The path of the macro is four trees, here taken for one fragment.
  have htrees : fragmentTrees ("log" ++ "::" ++ level.text) =
      [.word "log", .mark ':', .mark ':', .word level.text] :=
    (encloses_log.append_spells (spells_of_isSegment hsegment)).fragmentTrees_eq
  have hmacro : ∀ es, macroCall ("log" ++ "::" ++ level.text) es =
      .call ("log::" ++ level.text ++ "!") es := by
    intro es
    cases level <;> rfl
  have hread : expr inside true (_ ++ .mark '!' :: .group .round ts :: .mark ';' :: rest) = _ :=
    expr_macro hpath
  rw [htrees] at hread
  refine hread.trans ?_
  cases inside.items ts with
  | none => rfl
  | some es =>
    rw [Option.bind_some, hmacro]
    exact operators_of_semicolon inside _

theorem effect_log_iff {level : LogLevel} {message : String} {fs : List Expr} :
    effect (.call ("log::" ++ level.text ++ "!") fs) = .log level message es ↔
      fs = .str message :: es := by
  have hlevel : logLevel? ("log::" ++ level.text ++ "!") = some level := by
    cases level <;> decide
  unfold effect
  split
  · next heq => cases heq
  · next callee text arguments heq =>
    cases heq
    rw [hlevel]
    simp
  · next hne =>
    constructor
    · nofun
    · rintro rfl
      exact (hne _ _ _ rfl).elim

theorem readsStmt_log (level : LogLevel) (message : String) (hes : ∀ e ∈ es, IsReadable e) :
    StmtReadsExactly (.log level message es) := by
  have htrees : [.quoted message] :: Expr.treesEach es =
      Expr.treesEach (.str message :: es) := by rw [Expr.treesEach, Expr.trees]
  intro n rest r hn _ _
  rw [Stmt.trees, htrees] at hn ⊢
  have hitems := items_iff (isReadable_str_cons message hes)
    (depth_tail_le (depth_tail_le (depth_tail_le (depth_tail_le (depth_tail_le hn)))))
  rw [Expr.spelledEach, Expr.spelled, Expr.keepShape, Expr.keepsShape, Bool.true_and] at hitems
  rw [Stmt.spelled, Stmt.keepsShape, ← hitems]
  simp only [List.cons_append, List.nil_append]
  rw [stmt_word (by decide), simple, expr_log]
  cases (insideAt n).items (commaTrees (Expr.treesEach (.str message :: es))) with
  | none =>
    constructor
    · intro hnone
      cases hnone
    · rintro ⟨hnone, -⟩
      cases hnone
  | some fs =>
    show some (effect (.call _ fs), rest) = _ ↔ _
    rw [Option.some.injEq, Prod.mk.injEq, effect_log_iff, Option.some.injEq]
    exact and_congr_right fun _ => eq_comm

theorem readsStmt_comment (text : String) : StmtReadsExactly (.comment text) := by
  intro n rest r _ _ _
  rw [Stmt.trees, Stmt.spelled, Stmt.keepsShape, List.singleton_append, stmt]
  simp [eq_comm]

/-! ### Statements with a head -/

/-- A head and a block behind it, of which `make` makes a statement. -/
theorem head_iff (h : IsReadable e) (hbody : BodyReads body) (hn : depth e.trees ≤ n)
    (hdepth : depth (.group .curly (Stmt.treesAll body) :: us) ≤ n) {s : Stmt}
    (make : Expr → List Stmt → List Tree → Reading Stmt)
    (hmake : ∀ x b ts, make x b ts = some (s, r) → x = e.spelled ∧ b = Stmt.spelledAll body) :
    ((expr (insideAt n) false (e.trees ++ .group .curly (Stmt.treesAll body) :: rest)).bind
        fun value => (block (insideAt n) value.2).bind fun b => make value.1 b.1 b.2) =
        some (s, r) ↔
      (e.exposesRecord = false ∧ e.keepsShape = true ∧ Stmt.keepShape body = true) ∧
        make e.spelled (Stmt.spelledAll body) rest = some (s, r) := by
  -- A head is read without struct literals, so the block behind it is never taken for one.
  have hread := fun r => h.readsExactly n false (.group .curly (Stmt.treesAll body) :: rest) r hn
    rfl
  constructor
  · intro hsome
    obtain ⟨⟨x, ts⟩, hx, hsome⟩ := Option.bind_eq_some_iff.mp hsome
    obtain ⟨⟨b, more⟩, hb, hsome⟩ := Option.bind_eq_some_iff.mp hsome
    obtain ⟨rfl, rfl⟩ := hmake x b more hsome
    obtain ⟨hkeeps, hexposes, rfl⟩ := (hread ts).mp hx
    obtain ⟨hshape, rfl⟩ := (block_iff hbody hdepth).mp hb
    exact ⟨⟨hexposes.resolve_left Bool.false_ne_true, hkeeps, hshape⟩, hsome⟩
  · rintro ⟨⟨hexposes, hkeeps, hshape⟩, hsome⟩
    rw [(hread _).mpr ⟨hkeeps, .inr hexposes, rfl⟩, Option.bind_some]
    dsimp only
    rw [(block_iff hbody hdepth).mpr ⟨hshape, rfl⟩]
    exact hsome

theorem stmt_if (h : e.HasPlainCode) :
    stmt inside (.word "if" :: (e.trees ++ rest)) = ifTest inside (e.trees ++ rest) := by
  obtain ⟨t, ts, heq, hstarts⟩ := e.exists_trees h
  rw [stmt]
  unfold worded
  rw [if_neg (by decide), if_pos rfl, heq, List.cons_append]
  cases t with
  | word w =>
    refine if_neg ?_
    rintro rfl
    exact absurd hstarts (by decide)
  | _ => rfl

theorem afterIf_eq_ifThen {b : List Stmt} (h : afterIf inside x b ts = some (.ifThen y body, r)) :
    x = y ∧ b = body := by
  unfold afterIf at h
  split at h
  · split at h
    · obtain ⟨s, -, heq⟩ := Option.map_eq_some_iff.mp h
      cases heq
    · cases h
      exact ⟨rfl, rfl⟩
  · cases h
    exact ⟨rfl, rfl⟩

theorem afterIf_of_startsStmt (h : startsStmt rest = true) :
    afterIf inside x body rest = some (.ifThen x body, rest) := by
  unfold afterIf
  split
  · exact if_neg (bne_iff_ne.mp h)
  · rfl

theorem readsStmt_ifThen (h : IsReadable e) (hbody : BodyReads body) :
    StmtReadsExactly (.ifThen e body) := by
  intro n rest r hn hrest _
  rw [Stmt.trees] at hn ⊢
  have hdepth := depth_le_left hn
  rw [Stmt.spelled, Stmt.keepsShape]
  simp only [List.cons_append, List.append_assoc, List.nil_append]
  rw [stmt_if h.hasPlainCode, ifTest, head_iff h hbody (depth_tail_le hdepth)
    (depth_le_right hn) (afterIf (insideAt n)) fun _ _ _ => afterIf_eq_ifThen,
    afterIf_of_startsStmt hrest, eq_comm (a := r)]
  simp [and_assoc]

theorem afterIf_eq_ifElse {b other : List Stmt}
    (h : afterIf inside x b ts = some (.ifElse y body other, r)) : x = y ∧ b = body := by
  unfold afterIf at h
  split at h
  · split at h
    · obtain ⟨s, -, heq⟩ := Option.map_eq_some_iff.mp h
      cases heq
      exact ⟨rfl, rfl⟩
    · cases h
  · cases h

theorem readsStmt_ifElse {alternative : List Stmt} (h : IsReadable e) (hbody : BodyReads body)
    (halternative : BodyReads alternative) : StmtReadsExactly (.ifElse e body alternative) := by
  intro n rest r hn hrest _
  rw [Stmt.trees] at hn ⊢
  have hdepth := depth_le_left hn
  have hother : block (insideAt n) (.group .curly (Stmt.treesAll alternative) :: rest) =
      some (_, r) ↔ _ := block_iff halternative (depth_tail_le (depth_tail_le (depth_le_right hn)))
  rw [Stmt.spelled, Stmt.keepsShape]
  simp only [List.cons_append, List.append_assoc, List.nil_append]
  rw [stmt_if h.hasPlainCode, ifTest, head_iff h hbody (depth_tail_le hdepth)
    (depth_le_right hn) (afterIf (insideAt n)) fun _ _ _ => afterIf_eq_ifElse, afterIf,
    if_pos rfl]
  have helse : ((block (insideAt n) (.group .curly (Stmt.treesAll alternative) :: rest)).map
      fun b => (Stmt.ifElse e.spelled (Stmt.spelledAll body) b.1, b.2)) =
        some (.ifElse e.spelled (Stmt.spelledAll body) (Stmt.spelledAll alternative), r) ↔
      Stmt.keepShape alternative = true ∧ r = rest := by
    rw [← hother, Option.map_eq_some_iff]
    constructor
    · rintro ⟨⟨b, us⟩, hb, heq⟩
      cases heq
      exact hb
    · exact fun hb => ⟨_, hb, rfl⟩
  rw [helse]
  simp [and_assoc]

/-- A head that makes one statement only. -/
theorem map_head_iff (h : IsReadable e) (hbody : BodyReads body) (hn : depth e.trees ≤ n)
    (hdepth : depth (.group .curly (Stmt.treesAll body) :: us) ≤ n)
    (make : Expr → List Stmt → Stmt)
    (hmake : ∀ x b y c, make x b = make y c → x = y ∧ b = c) :
    ((expr (insideAt n) false (e.trees ++ .group .curly (Stmt.treesAll body) :: rest)).bind
        fun value => (block (insideAt n) value.2).bind fun b =>
          some (make value.1 b.1, b.2)) = some (make e.spelled (Stmt.spelledAll body), r) ↔
      (!e.exposesRecord && e.keepsShape && Stmt.keepShape body) = true ∧ r = rest := by
  rw [head_iff h hbody hn hdepth (fun x b ts => some (make x b, ts))
    fun x b ts heq => hmake _ _ _ _ (Prod.mk.inj (Option.some.inj heq)).1, eq_comm (a := r)]
  simp [and_assoc]

theorem readsStmt_ifLet {variant : String} (name : String) (hvariant : IsPath variant)
    (h : IsReadable e) (hbody : BodyReads body) :
    StmtReadsExactly (.ifLet variant name e body) := by
  intro n rest r hn _ _
  rw [Stmt.trees] at hn ⊢
  have hdepth := depth_tail_le (depth_tail_le (depth_le_right (depth_le_left hn)))
  rw [Stmt.spelled, Stmt.keepsShape, ← map_head_iff h hbody hdepth (depth_le_right hn)
    (.ifLet variant (Identifier.variableName name)) fun _ _ _ _ heq => (Stmt.ifLet.inj heq).2.2]
  simp only [List.cons_append, List.append_assoc, List.nil_append]
  rw [stmt]
  unfold worded
  rw [if_neg (by decide), if_pos rfl]
  dsimp only
  rw [if_pos rfl, ifLet, path_fragment hvariant rfl, Option.bind_some]
  rfl

theorem readsStmt_forEach (name : String) (h : IsReadable e) (hbody : BodyReads body) :
    StmtReadsExactly (.forEach name e body) := by
  intro n rest r hn _ _
  rw [Stmt.trees] at hn ⊢
  have hdepth := depth_tail_le (depth_tail_le (depth_tail_le (depth_le_left hn)))
  rw [Stmt.spelled, Stmt.keepsShape, ← map_head_iff h hbody hdepth (depth_le_right hn)
    (.forEach (Identifier.variableName name)) fun _ _ _ _ heq => (Stmt.forEach.inj heq).2]
  simp only [List.cons_append, List.append_assoc, List.nil_append]
  rw [stmt]
  unfold worded
  rw [if_neg (by decide), if_neg (by decide), if_pos rfl, forEach, if_pos rfl]

end Forms

end Reader
end Code
end ClientSynth
