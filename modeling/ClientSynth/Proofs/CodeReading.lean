import ClientSynth.Proofs.StmtReading

/-! # Reading rendered code

Statements one after the other are read back if each is, and from this and what holds for
single expressions and statements it follows for all of them: the text of a plain expression
is read as the expression exactly if it keeps its shape. -/
namespace ClientSynth
namespace Code

/-- How an expression begins, as a statement: not with what continues the one in front. -/
theorem Expr.exists_startsStmt {e : Expr} (h : e.HasPlainCode) :
    ∃ t ts, e.trees = t :: ts ∧ (∀ us, Reader.startsStmt (t :: us) = true) ∧
      Reader.isComment t = false := by
  obtain ⟨t, ts, heq, hstarts⟩ := e.exists_trees h
  refine ⟨t, ts, heq, fun us => ?_, ?_⟩
  · cases t with
    | word w =>
      refine bne_iff_ne.mpr ?_
      rintro rfl
      exact absurd hstarts (by decide)
    | mark c =>
      rw [Tree.startsExpr, Bool.or_eq_true, Bool.or_eq_true, beq_iff_eq, beq_iff_eq,
        beq_iff_eq] at hstarts
      rcases hstarts with (rfl | rfl) | rfl <;> rfl
    | _ => rfl
  · cases t with
    | comment text => cases hstarts
    | _ => rfl

theorem Stmt.exists_trees (s : Stmt) (h : s.HasPlainCode) :
    ∃ t ts, s.trees = t :: ts ∧ (∀ us, Reader.startsStmt (t :: us) = true) ∧
      Reader.isComment t = s.isComment := by
  cases s with
  | assign target value =>
    have hname : Identifier.variableName target ≠ "else" := by
      intro heq
      have hkeyword := not_keyword_of_isSegment (Identifier.isSegment_variableName target)
      rw [heq] at hkeyword
      exact absurd hkeyword (by decide)
    rw [Stmt.trees]
    exact ⟨_, _, rfl, fun _ => bne_iff_ne.mpr hname, rfl⟩
  | eval value | tail value =>
    rw [Stmt.HasPlainCode] at h
    obtain ⟨t, ts, heq, hstarts, hcomment⟩ := Expr.exists_startsStmt h
    rw [Stmt.trees, heq]
    exact ⟨t, _, rfl, hstarts, hcomment⟩
  | _ =>
    rw [Stmt.trees]
    exact ⟨_, _, rfl, fun _ => rfl, rfl⟩

namespace Reader

section Sequence
variable {inside : Inside} {body : List Stmt} {s : Stmt} {ts : List Tree} {n : Nat}

theorem startsStmt_treesAll (h : ∀ s ∈ body, s.HasPlainCode) :
    startsStmt (Stmt.treesAll body) = true := by
  cases body with
  | nil => rw [Stmt.treesAll]; rfl
  | cons s body =>
    obtain ⟨t, ts, heq, hstarts, -⟩ := s.exists_trees (h s List.mem_cons_self)
    rw [Stmt.treesAll, heq, List.cons_append]
    exact hstarts _

theorem isComment_spelled (s : Stmt) : s.spelled.isComment = s.isComment := by
  cases s <;> simp only [Stmt.spelled, Stmt.isComment]

/-- Statements have comments for trees exactly if they are comments. -/
theorem all_isComment_treesAll (h : ∀ s ∈ body, s.HasPlainCode) :
    (Stmt.treesAll body).all isComment = body.all Stmt.isComment := by
  induction body with
  | nil => rw [Stmt.treesAll]; rfl
  | cons s body ih =>
    obtain ⟨t, ts, heq, -, hcomment⟩ := s.exists_trees (h s List.mem_cons_self)
    rw [Stmt.treesAll, List.all_append, List.all_cons,
      ih fun s hs => h s (List.mem_cons_of_mem _ hs)]
    by_cases hs : s.isComment = true
    · cases s with
      | comment text => rw [Stmt.trees]; rfl
      | _ => cases hs
    · rw [Bool.not_eq_true] at hs
      rw [heq, List.all_cons, hcomment, hs, Bool.false_and, Bool.false_and]

theorem all_isComment_spelledAll (body : List Stmt) :
    (Stmt.spelledAll body).all Stmt.isComment = body.all Stmt.isComment := by
  induction body with
  | nil => rw [Stmt.spelledAll]
  | cons s body ih => rw [Stmt.spelledAll, List.all_cons, List.all_cons, ih, isComment_spelled]

/-- Comments are read as comments. -/
theorem all_isComment_of_sequence (h : ts.all isComment = true)
    (hread : sequence (stmt inside) n ts = some body) : body.all Stmt.isComment = true := by
  induction ts generalizing n body with
  | nil =>
    rw [sequence] at hread
    cases hread
    rfl
  | cons t ts ih =>
    rw [List.all_cons, Bool.and_eq_true] at h
    cases n with
    | zero => cases hread
    | succ n =>
      cases t with
      | comment text =>
        obtain ⟨statements, hmore, rfl⟩ : ∃ statements,
            sequence (stmt inside) n ts = some statements ∧ .comment text :: statements = body :=
          Option.map_eq_some_iff.mp hread
        rw [List.all_cons, ih h.2 hmore]
        rfl
      | _ => cases h.1

/-- What is asked of the statements of a block. -/
structure IsReadableStmt (s : Stmt) : Prop where
  hasPlainCode : s.HasPlainCode
  readsExactly : StmtReadsExactly s

theorem mayPrecede_eq (h : ∀ s ∈ body, s.HasPlainCode) :
    s.mayPrecede body = mayStandBefore (Stmt.treesAll body) s := by
  cases s with
  | tail value => rw [Stmt.mayPrecede, mayStandBefore, all_isComment_treesAll h]
  | _ => rfl

theorem sequence_succ_iff {read : List Tree → Reading Stmt} {ss : List Stmt} (h : ts ≠ []) :
    sequence read (n + 1) ts = some (s :: ss) ↔
      ∃ r, read ts = some (s, r) ∧ sequence read n r = some ss := by
  rw [sequence, Option.bind_eq_some_iff]
  · constructor
    · rintro ⟨⟨a, r⟩, hread, hmap⟩
      obtain ⟨as, has, heq⟩ := Option.map_eq_some_iff.mp hmap
      cases heq
      exact ⟨r, hread, has⟩
    · rintro ⟨r, hread, hmore⟩
      exact ⟨(s, r), hread, Option.map_eq_some_iff.mpr ⟨ss, hmore, rfl⟩⟩
  · exact h

/-- What is read behind a value that is no block are comments, so that is all there is. -/
theorem mayStandBefore_of_sequence (hs : s.HasPlainCode) (hplain : ∀ s ∈ body, s.HasPlainCode)
    {k : Nat} {r : List Tree}
    (hstmt : stmt (insideAt n) (s.trees ++ Stmt.treesAll body) = some (s.spelled, r))
    (hmore : sequence (stmt (insideAt n)) k r = some (Stmt.spelledAll body)) :
    mayStandBefore (Stmt.treesAll body) s = true := by
  cases s with
  | tail value =>
    rw [mayStandBefore, Bool.or_eq_true]
    refine or_iff_not_imp_left.mpr fun hblock => ?_
    rw [Stmt.HasPlainCode] at hs
    rw [Stmt.trees, Stmt.spelled, stmt_expr hs (Bool.eq_false_iff.mpr hblock)] at hstmt
    have hcomments := all_isComment_of_sequence (expr_of_simple_tail hstmt).2 hmore
    rwa [all_isComment_treesAll hplain, ← all_isComment_spelledAll]
  | _ => rfl

/-- **Statements in sequence are read back exactly if each keeps its shape and may stand in
front of the others.** -/
theorem sequence_iff (h : ∀ s ∈ body, IsReadableStmt s) (hn : depth (Stmt.treesAll body) ≤ n)
    {k : Nat} (hk : body.length ≤ k) :
    sequence (stmt (insideAt n)) k (Stmt.treesAll body) = some (Stmt.spelledAll body) ↔
      Stmt.keepShape body = true := by
  induction body generalizing k with
  | nil =>
    rw [Stmt.treesAll, Stmt.spelledAll, Stmt.keepShape, sequence]
    exact ⟨fun _ => rfl, fun _ => rfl⟩
  | cons s body ih =>
    obtain ⟨k, rfl⟩ : ∃ m, k = m + 1 := ⟨k - 1, by rw [List.length_cons] at hk; omega⟩
    have hs := h s List.mem_cons_self
    have hplain : ∀ s ∈ body, s.HasPlainCode := fun s hs =>
      (h s (List.mem_cons_of_mem _ hs)).hasPlainCode
    rw [Stmt.treesAll] at hn ⊢
    have hbody := ih (fun s hs => h s (List.mem_cons_of_mem _ hs)) (depth_le_right hn)
      (Nat.le_of_succ_le_succ hk)
    have hread := fun r => hs.readsExactly n (Stmt.treesAll body) r (depth_le_left hn)
      (startsStmt_treesAll hplain)
    have hne : s.trees ++ Stmt.treesAll body ≠ [] := by
      obtain ⟨t, ts, heq, -⟩ := s.exists_trees hs.hasPlainCode
      rw [heq]
      exact List.cons_ne_nil _ _
    rw [Stmt.spelledAll, Stmt.keepShape, sequence_succ_iff hne, Bool.and_eq_true,
      Bool.and_eq_true, mayPrecede_eq hplain, ← hbody]
    constructor
    · rintro ⟨r, hstmt, hmore⟩
      have hbefore := mayStandBefore_of_sequence hs.hasPlainCode hplain hstmt hmore
      obtain ⟨hkeeps, rfl⟩ := (hread r hbefore).mp hstmt
      exact ⟨⟨hkeeps, hbefore⟩, hmore⟩
    · rintro ⟨⟨hkeeps, hbefore⟩, hmore⟩
      exact ⟨_, (hread _ hbefore).mpr ⟨hkeeps, rfl⟩, hmore⟩

theorem length_treesAll_ge (h : ∀ s ∈ body, s.HasPlainCode) :
    body.length ≤ (Stmt.treesAll body).length := by
  induction body with
  | nil => exact Nat.zero_le _
  | cons s body ih =>
    obtain ⟨t, ts, heq, -⟩ := s.exists_trees (h s List.mem_cons_self)
    have hbody := ih fun s hs => h s (List.mem_cons_of_mem _ hs)
    rw [Stmt.treesAll, heq, List.length_cons, List.length_append, List.length_cons]
    omega

theorem bodyReads_of_readable (h : ∀ s ∈ body, IsReadableStmt s) : BodyReads body := by
  intro n us hn
  obtain ⟨m, rfl, hm⟩ := exists_level hn
  exact sequence_iff h hm (length_treesAll_ge fun s hs => (h s hs).hasPlainCode)

end Sequence

/-! ### All code -/

mutual

/-- **A plain expression is read back from its trees exactly if it keeps its shape.** -/
theorem readsExactly : (e : Expr) → e.HasPlainCode → ReadsExactly e
  | .raw code, h => by
    rw [Expr.HasPlainCode] at h
    exact readsExactly_raw h
  | .ident name, _ => readsExactly_ident name
  | .str value, _ => readsExactly_str value
  | .call callee arguments, h => by
    rw [Expr.HasPlainCode] at h
    exact readsExactly_call h.1 (readableEach arguments h.2)
  | .method receiver name arguments, h => by
    rw [Expr.HasPlainCode] at h
    exact readsExactly_method ⟨h.1, readsExactly receiver h.1⟩ name (readableEach arguments h.2)
  | .format template arguments, h => by
    rw [Expr.HasPlainCode] at h
    exact readsExactly_format template (readableEach arguments h)
  | .await operand, h => by
    rw [Expr.HasPlainCode] at h
    exact readsExactly_await ⟨h, readsExactly operand h⟩
  | .attempt operand, h => by
    rw [Expr.HasPlainCode] at h
    exact readsExactly_attempt ⟨h, readsExactly operand h⟩
  | .negate operand, h => by
    rw [Expr.HasPlainCode] at h
    exact readsExactly_negate (readsExactly operand h)
  | .borrow operand, h => by
    rw [Expr.HasPlainCode] at h
    exact readsExactly_borrow (readsExactly operand h)
  | .block isAsync body, h => by
    rw [Expr.HasPlainCode] at h
    exact readsExactly_block isAsync (bodyReads_of_readable (readableBody body h))
  | .tuple items, h => by
    rw [Expr.HasPlainCode] at h
    exact readsExactly_tuple (readableEach items h)
  | .closure params none body, h => by
    rw [Expr.HasPlainCode] at h
    exact readsExactly_closure params ⟨h.2, readsExactly body h.2⟩
  | .closure params (some type) body, h => by
    rw [Expr.HasPlainCode] at h
    exact readsExactly_closure_result params (h.1 type rfl) ⟨h.2, readsExactly body h.2⟩
  | .invoke callee, h => by
    rw [Expr.HasPlainCode] at h
    exact readsExactly_invoke ⟨h, readsExactly callee h⟩
  | .record name fields, h => by
    rw [Expr.HasPlainCode] at h
    exact readsExactly_record h.1 (readableFields fields h.2)

/-- So is each of several expressions. -/
theorem readableEach : (es : List Expr) → Expr.HavePlainCode es → ∀ e ∈ es, IsReadable e
  | [], _ => nofun
  | e :: rest, h => by
    rw [Expr.HavePlainCode] at h
    exact List.forall_mem_cons.mpr ⟨⟨h.1, readsExactly e h.1⟩, readableEach rest h.2⟩

/-- So are the values of the fields of a struct literal. -/
theorem readableFields : (fields : List (String × Expr)) → Expr.FieldsHavePlainCode fields →
    ∀ f ∈ fields, IsReadable f.2
  | [], _ => nofun
  | (_, e) :: rest, h => by
    rw [Expr.FieldsHavePlainCode] at h
    exact List.forall_mem_cons.mpr ⟨⟨h.1, readsExactly e h.1⟩, readableFields rest h.2⟩

/-- So is a statement. -/
theorem stmtReadsExactly : (s : Stmt) → s.HasPlainCode → StmtReadsExactly s
  | .bind name isMutable type value, h => by
    rw [Stmt.HasPlainCode] at h
    exact readsStmt_bind name isMutable h.1 ⟨h.2, readsExactly value h.2⟩
  | .assign target value, h => by
    rw [Stmt.HasPlainCode] at h
    exact readsStmt_assign target ⟨h, readsExactly value h⟩
  | .eval value, h => by
    rw [Stmt.HasPlainCode] at h
    exact readsStmt_eval ⟨h, readsExactly value h⟩ (bodyOfBlock value h)
  | .ifThen test body, h => by
    rw [Stmt.HasPlainCode] at h
    exact readsStmt_ifThen ⟨h.1, readsExactly test h.1⟩
      (bodyReads_of_readable (readableBody body h.2))
  | .ifElse test body alternative, h => by
    rw [Stmt.HasPlainCode] at h
    exact readsStmt_ifElse ⟨h.1, readsExactly test h.1⟩
      (bodyReads_of_readable (readableBody body h.2.1))
      (bodyReads_of_readable (readableBody alternative h.2.2))
  | .ifLet variant binding value body, h => by
    rw [Stmt.HasPlainCode] at h
    exact readsStmt_ifLet binding h.1 ⟨h.2.1, readsExactly value h.2.1⟩
      (bodyReads_of_readable (readableBody body h.2.2))
  | .forEach binding items body, h => by
    rw [Stmt.HasPlainCode] at h
    exact readsStmt_forEach binding ⟨h.1, readsExactly items h.1⟩
      (bodyReads_of_readable (readableBody body h.2))
  | .hook name arguments, h => by
    rw [Stmt.HasPlainCode] at h
    exact readsStmt_hook name (readableEach arguments h)
  | .log level message arguments, h => by
    rw [Stmt.HasPlainCode] at h
    exact readsStmt_log level message (readableEach arguments h)
  | .ret value, h => by
    rw [Stmt.HasPlainCode] at h
    exact readsStmt_ret ⟨h, readsExactly value h⟩
  | .tail value, h => by
    rw [Stmt.HasPlainCode] at h
    exact readsStmt_tail ⟨h, readsExactly value h⟩ (bodyOfBlock value h)
  | .comment text, _ => readsStmt_comment text

/-- So are the statements of a block. -/
theorem readableBody : (body : List Stmt) → Stmt.HavePlainCode body → ∀ s ∈ body, IsReadableStmt s
  | [], _ => nofun
  | s :: rest, h => by
    rw [Stmt.HavePlainCode] at h
    exact List.forall_mem_cons.mpr ⟨⟨h.1, stmtReadsExactly s h.1⟩, readableBody rest h.2⟩

/-- So is the body of an expression that is a block. -/
theorem bodyOfBlock : (e : Expr) → e.HasPlainCode → ∀ body, e = .block false body → BodyReads body
  | .block false body, h, _, rfl => by
    rw [Expr.HasPlainCode] at h
    exact bodyReads_of_readable (readableBody body h)

end

end Reader

/-- The text of a plain expression is read as its trees are. -/
theorem Expr.read_text_eq_some_iff {e x : Expr} (h : e.HasPlainCode) (level : Nat) :
    Reader.read (e.text level) = some x ↔
      Reader.expr (Reader.insideAt (Reader.depth e.trees)) true e.trees = some (x, []) := by
  rw [Reader.read, (e.spells h level).treesOf_eq, Option.bind_some]
  split
  · next y heq => simp [heq]
  · next hne =>
    constructor
    · nofun
    · exact fun heq => absurd heq (hne x)

theorem Expr.expr_trees_iff {e : Expr} (h : e.HasPlainCode) :
    Reader.expr (Reader.insideAt (Reader.depth e.trees)) true e.trees = some (e.spelled, []) ↔
      e.keepsShape = true := by
  have hread := Reader.readsExactly e h (Reader.depth e.trees) true [] [] (Nat.le_refl _) rfl
  simpa using hread

/-- **The text of a plain expression is read as the expression, with its names as they are
written, exactly if the expression keeps its shape.** -/
theorem Expr.read_text_iff {e : Expr} (h : e.HasPlainCode) (level : Nat) :
    Reader.read (e.text level) = some e.spelled ↔ e.keepsShape = true := by
  rw [Expr.read_text_eq_some_iff h, Expr.expr_trees_iff h]

/-- A method is called on the whole of a reference. -/
theorem Expr.calledReference_read :
    (Expr.method (.borrow (.ident "x")) "Clone" []).HasPlainCode ∧
      (Expr.method (.borrow (.ident "x")) "Clone" []).text 0 = "(&x).clone()" ∧
      Reader.read ((Expr.method (.borrow (.ident "x")) "Clone" []).text 0) =
        some (.method (.borrow (.raw "x")) "clone" []) := by
  have hplain : (Expr.method (.borrow (.ident "x")) "Clone" []).HasPlainCode := by
    simp [Expr.HasPlainCode, Expr.HavePlainCode]
  have hspelled : (Expr.method (.borrow (.ident "x")) "Clone" []).spelled =
      .method (.borrow (.raw "x")) "clone" [] := by
    have hx : Identifier.variableName "x" = "x" := by decide
    have hclone : Identifier.functionName "Clone" = "clone" := by decide
    simp [Expr.spelled, Expr.spelledEach, hx, hclone]
  exact ⟨hplain, by decide, hspelled ▸ (Expr.read_text_iff hplain 0).mpr (by decide)⟩

/-- An await behind a reference is read as part of what the reference is to. -/
theorem Expr.awaitedReference_not_read :
    (Expr.await (.borrow (.ident "x"))).HasPlainCode ∧
      (Expr.await (.borrow (.ident "x"))).text 0 = "&x.await" ∧
      (Expr.borrow (.await (.ident "x"))).text 0 = "&x.await" ∧
      Reader.read "&x.await" = some (.borrow (.await (.raw "x"))) ∧
      Reader.read ((Expr.await (.borrow (.ident "x"))).text 0) ≠
        some (Expr.await (.borrow (.ident "x"))).spelled := by
  have hplain : (Expr.borrow (.await (.ident "x"))).HasPlainCode := by simp [Expr.HasPlainCode]
  have htext : (Expr.borrow (.await (.ident "x"))).text 0 = "&x.await" := by decide
  have hspelled : (Expr.borrow (.await (.ident "x"))).spelled = .borrow (.await (.raw "x")) := by
    have hx : Identifier.variableName "x" = "x" := by decide
    simp [Expr.spelled, hx]
  have hread : Reader.read "&x.await" = some (.borrow (.await (.raw "x"))) := by
    rw [← htext, Expr.read_text_eq_some_iff hplain, ← hspelled, Expr.expr_trees_iff hplain]
    decide
  have hsame : (Expr.await (.borrow (.ident "x"))).text 0 = "&x.await" := by decide
  refine ⟨by simp [Expr.HasPlainCode], hsame, htext, hread, ?_⟩
  rw [hsame, hread]
  simp [Expr.spelled]

end Code
end ClientSynth
