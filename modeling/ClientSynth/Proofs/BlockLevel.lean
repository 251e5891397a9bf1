import ClientSynth.Proofs.CodeName
import ClientSynth.Proofs.Escape
import ClientSynth.Proofs.Indentation
import ClientSynth.Proofs.StrictWriting

/-! # Blocks at their level

What a block looks like does not depend on the level that it is written at: at a deeper level
each of its lines is further to the right, and empty lines stay empty.  This is by no means
clear for the blocks inside expressions.  Their lines are indented by writers of their own,
which take their level from the one that is passed down through the expression, and the text
they come to is put into a line that is indented by the writer around it.  Where a fragment
that is written as it stands has a line break, nobody indents what is behind it. -/
namespace ClientSynth
namespace Code

variable {n level : Nat}

/-! ### Fragments that are written as they stand -/

mutual

/-- The fragments of an expression that are written as they stand. -/
def Expr.verbatim : Expr → List String
  | .raw code => [code]
  | .ident _ | .str _ => []
  | .call callee arguments => callee :: Expr.verbatimEach arguments
  | .method receiver _ arguments => receiver.verbatim ++ Expr.verbatimEach arguments
  | .format _ arguments => Expr.verbatimEach arguments
  | .await operand | .attempt operand | .negate operand | .borrow operand => operand.verbatim
  | .block _ body => Stmt.verbatimAll body
  | .tuple items => Expr.verbatimEach items
  | .closure _ result body => result.toList ++ body.verbatim
  | .invoke callee => callee.verbatim
  | .record name fields => name :: Expr.verbatimFields fields

/-- Those of several expressions. -/
def Expr.verbatimEach : List Expr → List String
  | [] => []
  | e :: rest => e.verbatim ++ Expr.verbatimEach rest

/-- Those of the fields of a struct literal. -/
def Expr.verbatimFields : List (String × Expr) → List String
  | [] => []
  | (_, e) :: rest => e.verbatim ++ Expr.verbatimFields rest

/-- Those of a statement. -/
def Stmt.verbatim : Stmt → List String
  | .bind _ _ type value => type.toList ++ value.verbatim
  | .assign _ value | .eval value | .ret value | .tail value => value.verbatim
  | .ifThen test body => test.verbatim ++ Stmt.verbatimAll body
  | .ifElse test body alternative =>
    test.verbatim ++ (Stmt.verbatimAll body ++ Stmt.verbatimAll alternative)
  | .ifLet variant _ value body => variant :: (value.verbatim ++ Stmt.verbatimAll body)
  | .forEach _ items body => items.verbatim ++ Stmt.verbatimAll body
  | .hook _ arguments | .log _ _ arguments => Expr.verbatimEach arguments
  | .comment text => [text]

/-- Those of statements in sequence. -/
def Stmt.verbatimAll : List Stmt → List String
  | [] => []
  | s :: rest => s.verbatim ++ Stmt.verbatimAll rest

end

/-- None of the fragments has a line break. -/
def Unbroken (fragments : List String) : Prop := ∀ s ∈ fragments, '\n' ∉ s.toList

instance : DecidablePred Unbroken :=
  fun fragments => inferInstanceAs (Decidable (∀ s ∈ fragments, '\n' ∉ s.toList))

theorem unbroken_append {fragments others : List String} :
    Unbroken (fragments ++ others) ↔ Unbroken fragments ∧ Unbroken others :=
  List.forall_mem_append

theorem unbroken_cons {fragment : String} {others : List String} :
    Unbroken (fragment :: others) ↔ '\n' ∉ fragment.toList ∧ Unbroken others :=
  List.forall_mem_cons

/-! ### Names and literals -/

theorem no_break_of_isSegment {word : String} (h : isSegment word = true) :
    '\n' ∉ word.toList := by
  simp only [isSegment, Bool.and_eq_true] at h
  intro hbreak
  have hword := List.all_eq_true.mp h.1.2 '\n' hbreak
  exact not_blank_of_isWordChar hword (.inr rfl)

theorem hangs_variableName (name : String) :
    Hangs n (Identifier.variableName name) (Identifier.variableName name) :=
  hangs_of_no_break (no_break_of_isSegment (Identifier.isSegment_variableName name))

theorem hangs_functionName (name : String) :
    Hangs n (Identifier.functionName name) (Identifier.functionName name) :=
  hangs_of_no_break (no_break_of_isSegment (Identifier.isSegment_functionName name))

theorem hangs_stringLiteral (s : String) :
    Hangs n (Text.stringLiteral s) (Text.stringLiteral s) := by
  apply hangs_of_no_break
  intro hbreak
  have hprintable := Text.isPrintable_of_mem_stringLiteral hbreak
  exact absurd hprintable (by decide)

theorem Hangs.annotated {s t : String} {type : Option String} (h : Hangs n s t)
    (htype : Unbroken type.toList) :
    Hangs n (s ++ typeAnnotation type) (t ++ typeAnnotation type) := by
  apply h.append
  cases type with
  | none => exact hangs_of_no_break (by decide)
  | some type =>
    have htype := htype type (List.mem_singleton.mpr rfl)
    exact (hangs_of_no_break htype).behind (by decide)

theorem hangs_closureHead {params : List String} {result : Option String}
    (h : Unbroken result.toList) :
    Hangs n (closureHead params result) (closureHead params result) := by
  have hparams : Hangs n (commas (params.map Identifier.variableName))
      (commas (params.map Identifier.variableName)) := by
    apply Hangs.commas
    rw [List.forall₂_map_left_iff, List.forall₂_map_right_iff, List.forall₂_same]
    exact fun name _ => hangs_variableName name
  apply Hangs.append
  · exact (hparams.behind (by decide)).followed (by decide)
  · cases result with
    | none => exact hangs_of_no_break (by decide)
    | some type =>
      have htype := h type (List.mem_singleton.mpr rfl)
      exact ((hangs_of_no_break htype).behind (by decide)).followed (by decide)

/-! ### Ways of writing -/

section Ways
variable {write inside first second : Writer → Writer} {opening : Writer → String}
  {closing : String}

theorem Moves.comp (hfirst : OnlyAdds first) (hsecond : OnlyAdds second)
    (h : Moves n (added first level) (added first (level + n)))
    (h' : Moves n (added second level) (added second (level + n))) :
    Moves n (added (fun w => second (first w)) level)
      (added (fun w => second (first w)) (level + n)) := by
  rw [added_comp hfirst hsecond, added_comp hfirst hsecond]
  exact h.append h'

/-- A line whose text is rendered at the level of the writer. -/
theorem moves_of_line {text : Writer → String} (hwrite : ∀ w, write w = w.line (text w))
    (h : Hangs n (text ⟨level, ""⟩) (text ⟨level + n, ""⟩)) :
    Moves n (added write level) (added write (level + n)) := by
  rw [added, hwrite, added, hwrite]
  exact h.line

/-- Lines one level deeper, and one that closes them. -/
theorem Moves.closed (hinside : OnlyAdds inside) (hclosing : '\n' ∉ closing.toList)
    (h : Moves n (added inside (level + 1)) (added inside (level + 1 + n))) :
    Moves n (added (fun w => (inside w.indent).dedent.line closing) level)
      (added (fun w => (inside w.indent).dedent.line closing) (level + n)) := by
  have hclosed : ∀ l, added (fun w => (inside w.indent).dedent.line closing) l =
      added inside (l + 1) ++ added (fun w => w.line closing) l := by
    intro l
    rw [← added_indented hinside]
    exact added_comp hinside.indented (onlyAdds_constant closing) l
  rw [hclosed, hclosed, Nat.add_right_comm level n 1]
  exact h.append (hangs_of_no_break hclosing).line

/-- Lines between one whose text is rendered at the level of the writer and one that closes
them. -/
theorem moves_of_nested (hinside : OnlyAdds inside)
    (hwrite : ∀ w, write w = w.nested (opening w) inside closing)
    (hlevel : ∀ w, opening w = opening ⟨w.level, ""⟩)
    (hopening : Hangs n (opening ⟨level, ""⟩) (opening ⟨level + n, ""⟩))
    (hclosing : '\n' ∉ closing.toList)
    (h : Moves n (added inside (level + 1)) (added inside (level + 1 + n))) :
    Moves n (added write level) (added write (level + n)) := by
  have hline : OnlyAdds (fun w => w.line (opening w)) := onlyAdds_line hlevel
  have hrest : OnlyAdds (fun w => (inside w.indent).dedent.line closing) :=
    hinside.indented.comp (onlyAdds_constant closing)
  rw [funext hwrite]
  exact (moves_of_line (fun _ => rfl) hopening).comp hline hrest (h.closed hinside hclosing)

end Ways

/-! ### Expressions and statements -/

mutual

/-- An expression hangs from its first line, at whatever level that line stands. -/
theorem Expr.hangs_text : (e : Expr) → Unbroken e.verbatim → (level : Nat) →
    Hangs n (e.text level) (e.text (level + n))
  | .raw code, h, level => by
    rw [Expr.text, Expr.text]
    exact hangs_of_no_break (h code (by simp [Expr.verbatim]))
  | .ident name, _, level => by
    rw [Expr.text, Expr.text]
    exact hangs_variableName name
  | .str value, _, level => by
    rw [Expr.text, Expr.text]
    exact hangs_stringLiteral value
  | .call callee arguments, h, level => by
    rw [Expr.verbatim, unbroken_cons] at h
    rw [Expr.text, Expr.text]
    exact (hangs_of_no_break h.1).append (hangs_arguments (Expr.hangs_texts arguments h.2 level))
  | .method receiver name arguments, h, level => by
    rw [Expr.verbatim, unbroken_append] at h
    have hreceiver := receiver.hangs_text h.1 level
    have hon : Hangs n
        (if receiver.needsParens then parens (receiver.text level) else receiver.text level)
        (if receiver.needsParens then parens (receiver.text (level + n))
          else receiver.text (level + n)) := by
      split
      · exact hreceiver.parens
      · exact hreceiver
    rw [Expr.text, Expr.text]
    exact ((hon.followed (by decide)).append (hangs_functionName name)).append
      (hangs_arguments (Expr.hangs_texts arguments h.2 level))
  | .format template arguments, h, level => by
    rw [Expr.verbatim] at h
    have hparts := List.Forall₂.cons (hangs_stringLiteral template)
      (Expr.hangs_texts arguments h level)
    rw [Expr.text, Expr.text]
    exact (hangs_arguments hparts).behind (by decide)
  | .await operand, h, level | .attempt operand, h, level => by
    rw [Expr.verbatim] at h
    rw [Expr.text, Expr.text]
    exact (operand.hangs_text h level).followed (by decide)
  | .negate operand, h, level | .borrow operand, h, level => by
    rw [Expr.verbatim] at h
    rw [Expr.text, Expr.text]
    exact (operand.hangs_text h level).behind (by decide)
  | .block isAsync body, h, level => by
    rw [Expr.verbatim] at h
    -- The body is written by a writer of its own, one level below the line that it is put into.
    have hbraces := (Stmt.moves_writeAll body h (level + 1)).braces level
    have hmark : '\n' ∉ (if isAsync then "async " else "").toList := by cases isAsync <;> decide
    rw [Expr.text, Expr.text, Nat.add_right_comm level n 1]
    have htext := (hangs_of_no_break hmark).append hbraces
    simp only [← String.append_assoc] at htext
    exact htext
  | .tuple items, h, level => by
    rw [Expr.verbatim] at h
    rw [Expr.text, Expr.text]
    exact hangs_arguments (Expr.hangs_texts items h level)
  | .closure params result body, h, level => by
    rw [Expr.verbatim, unbroken_append] at h
    rw [Expr.text, Expr.text]
    exact (hangs_closureHead h.1).append (body.hangs_text h.2 level)
  | .invoke callee, h, level => by
    rw [Expr.verbatim] at h
    rw [Expr.text, Expr.text]
    exact (callee.hangs_text h level).parens.followed (by decide)
  | .record name fields, h, level => by
    rw [Expr.verbatim, unbroken_cons] at h
    rw [Expr.text, Expr.text]
    have hfields := Hangs.commas (Expr.hangs_fieldTexts fields h.2 level)
    exact (((hangs_of_no_break h.1).followed (by decide)).append hfields).followed (by decide)

theorem Expr.hangs_texts : (es : List Expr) → Unbroken (Expr.verbatimEach es) → (level : Nat) →
    List.Forall₂ (Hangs n) (Expr.texts level es) (Expr.texts (level + n) es)
  | [], _, level => by
    rw [Expr.texts, Expr.texts]
    exact .nil
  | e :: rest, h, level => by
    rw [Expr.verbatimEach, unbroken_append] at h
    rw [Expr.texts, Expr.texts]
    exact .cons (e.hangs_text h.1 level) (Expr.hangs_texts rest h.2 level)

theorem Expr.hangs_fieldTexts : (fields : List (String × Expr)) →
    Unbroken (Expr.verbatimFields fields) → (level : Nat) →
    List.Forall₂ (Hangs n) (Expr.fieldTexts level fields) (Expr.fieldTexts (level + n) fields)
  | [], _, level => by
    rw [Expr.fieldTexts, Expr.fieldTexts]
    exact .nil
  | (name, e) :: rest, h, level => by
    rw [Expr.verbatimFields, unbroken_append] at h
    have hname := no_break_of_isSegment (Identifier.isSegment_variableName name)
    rw [Expr.fieldTexts, Expr.fieldTexts]
    exact .cons ((e.hangs_text h.1 level).fieldText hname)
      (Expr.hangs_fieldTexts rest h.2 level)

/-- What is written of a statement moves with the level it is written at. -/
theorem Stmt.moves_write : (s : Stmt) → Unbroken s.verbatim → (level : Nat) →
    Moves n (added s.write level) (added s.write (level + n))
  | .bind name isMutable type value, h, level => by
    rw [Stmt.verbatim, unbroken_append] at h
    have hmark : '\n' ∉ (if isMutable then "mut " else "").toList := by cases isMutable <;> decide
    apply moves_of_line
    · intro w
      rw [Stmt.write]
    · exact ((((((hangs_of_no_break hmark).behind (by decide)).append
        (hangs_variableName name)).annotated h.1).followed (by decide)).append
          (value.hangs_text h.2 level)).followed (by decide)
  | .assign target value, h, level => by
    rw [Stmt.verbatim] at h
    apply moves_of_line
    · intro w
      rw [Stmt.write]
    · exact (((hangs_variableName target).followed (by decide)).append
        (value.hangs_text h level)).followed (by decide)
  | .eval value, h, level => by
    rw [Stmt.verbatim] at h
    apply moves_of_line
    · intro w
      rw [Stmt.write]
    · exact (value.hangs_text h level).followed (by decide)
  | .ifThen test body, h, level => by
    rw [Stmt.verbatim, unbroken_append] at h
    apply moves_of_nested (onlyAdds_writeAll body)
    · intro w
      rw [Stmt.write]
    · intro w
      rfl
    · exact ((test.hangs_text h.1 level).behind (by decide)).followed (by decide)
    · decide
    · exact Stmt.moves_writeAll body h.2 (level + 1)
  | .ifElse test body alternative, h, level => by
    rw [Stmt.verbatim, unbroken_append, unbroken_append] at h
    -- The line between the bodies closes the one above it, and stands where the test stood.
    have hupper : OnlyAdds (fun w => w.nested ("if " ++ test.text w.level ++ " \x7b")
        (Stmt.writeAll body) "\x7d else \x7b") :=
      (onlyAdds_writeAll body).nested (fun _ => rfl) _
    have hlower : OnlyAdds (fun w => (Stmt.writeAll alternative w.indent).dedent.line "\x7d") :=
      (onlyAdds_writeAll alternative).indented.comp (onlyAdds_constant _)
    have hwrite : (Stmt.ifElse test body alternative).write = fun w =>
        (Stmt.writeAll alternative (w.nested ("if " ++ test.text w.level ++ " \x7b")
          (Stmt.writeAll body) "\x7d else \x7b").indent).dedent.line "\x7d" := by
      funext w
      rw [Stmt.write]
    rw [hwrite]
    apply Moves.comp hupper hlower
    · apply moves_of_nested (onlyAdds_writeAll body) (fun _ => rfl) (fun _ => rfl)
      · exact ((test.hangs_text h.1 level).behind (by decide)).followed (by decide)
      · decide
      · exact Stmt.moves_writeAll body h.2.1 (level + 1)
    · apply Moves.closed (onlyAdds_writeAll alternative)
      · decide
      · exact Stmt.moves_writeAll alternative h.2.2 (level + 1)
  | .ifLet variant binding value body, h, level => by
    rw [Stmt.verbatim, unbroken_cons, unbroken_append] at h
    apply moves_of_nested (onlyAdds_writeAll body)
    · intro w
      rw [Stmt.write]
    · intro w
      rfl
    · exact (((((hangs_of_no_break h.1).behind (by decide)).append
        (hangs_variableName binding).parens).followed (by decide)).append
          (value.hangs_text h.2.1 level)).followed (by decide)
    · decide
    · exact Stmt.moves_writeAll body h.2.2 (level + 1)
  | .forEach binding items body, h, level => by
    rw [Stmt.verbatim, unbroken_append] at h
    apply moves_of_nested (onlyAdds_writeAll body)
    · intro w
      rw [Stmt.write]
    · intro w
      rfl
    · exact ((((hangs_variableName binding).behind (by decide)).followed (by decide)).append
        (items.hangs_text h.1 level)).followed (by decide)
    · decide
    · exact Stmt.moves_writeAll body h.2 (level + 1)
  | .hook name arguments, h, level => by
    rw [Stmt.verbatim] at h
    apply moves_of_line
    · intro w
      rw [Stmt.write]
    · have harguments := hangs_arguments (Expr.hangs_texts arguments h level)
      exact (((hangs_functionName name).behind (by decide)).append harguments).followed (by decide)
  | .log logLevel message arguments, h, level => by
    rw [Stmt.verbatim] at h
    have hlevel : '\n' ∉ logLevel.text.toList := by cases logLevel <;> decide
    have hparts := List.Forall₂.cons (hangs_stringLiteral message)
      (Expr.hangs_texts arguments h level)
    apply moves_of_line
    · intro w
      rw [Stmt.write]
    · exact ((((hangs_of_no_break hlevel).behind (by decide)).followed (by decide)).append
        (hangs_arguments hparts)).followed (by decide)
  | .ret value, h, level => by
    rw [Stmt.verbatim] at h
    apply moves_of_line
    · intro w
      rw [Stmt.write]
    · exact ((value.hangs_text h level).behind (by decide)).followed (by decide)
  | .tail value, h, level => by
    rw [Stmt.verbatim] at h
    apply moves_of_line
    · intro w
      rw [Stmt.write]
    · exact value.hangs_text h level
  | .comment text, h, level => by
    rw [Stmt.verbatim, unbroken_cons] at h
    apply moves_of_line
    · intro w
      rw [Stmt.write]
    · exact (hangs_of_no_break h.1).behind (by decide)

theorem Stmt.moves_writeAll : (body : List Stmt) → Unbroken (Stmt.verbatimAll body) →
    (level : Nat) → Moves n (added (Stmt.writeAll body) level)
      (added (Stmt.writeAll body) (level + n))
  | [], _, level => by
    rw [added, added, Stmt.writeAll, Stmt.writeAll]
    exact moves_empty
  | s :: rest, h, level => by
    rw [Stmt.verbatimAll, unbroken_append] at h
    have hwrite : Stmt.writeAll (s :: rest) = fun w => Stmt.writeAll rest (s.write w) := by
      funext w
      rw [Stmt.writeAll]
    rw [hwrite]
    exact Moves.comp (onlyAdds_write s) (onlyAdds_writeAll rest) (s.moves_write h.1 level)
      (Stmt.moves_writeAll rest h.2 level)

end

/-! ### Blocks -/

/-- A block that keeps to the level it is written at. -/
structure KeepsToLevel (body : Block) : Prop where
  /-- Behind the block the writer is at the level it was at. -/
  level : ∀ w, (Stmt.writeAll body w).level = w.level
  /-- No writer is to leave the outermost level, whether the one of the block or one of a block
  inside an expression. -/
  strict : ∀ w, Stmt.writeAll? body w = some (Stmt.writeAll body w)
  /-- What is written stands behind what was there, and only the level matters for it. -/
  text : ∀ w, (Stmt.writeAll body w).text = w.text ++ added (Stmt.writeAll body) w.level
  /-- The lines at a level are those at the outermost one, indented that much. -/
  lines : ∀ n, (added (Stmt.writeAll body) n).toList.splitOn '\n' =
    ((added (Stmt.writeAll body) 0).toList.splitOn '\n').map (indentLine n)

/-- **A block looks alike at every level**, if no fragment that is written as it stands has a
line break. -/
theorem writeAll_keepsToLevel {body : Block} (h : Unbroken (Stmt.verbatimAll body)) :
    KeepsToLevel body where
  level := (onlyAdds_writeAll body).level
  strict := Stmt.writeAll?_eq body
  text := (onlyAdds_writeAll body).text
  lines := by
    intro n
    have hmoves : Moves n (added (Stmt.writeAll body) 0) (added (Stmt.writeAll body) (0 + n)) :=
      Stmt.moves_writeAll body h 0
    rw [Nat.zero_add] at hmoves
    rw [hmoves.text, splitOn_moved]

/-- A block with others inside its expressions: one that is awaited, one in a closure, and one
in a field of a struct literal. -/
def nestedBlock : Block :=
  [.bindTyped "result" "Result<(), Error>" (.await (.block true
    [.ifLet "Some" "type" (.ident "type") [.log .debug "type\n\x7b\x7d" [.ident "type"]],
      .ifElse (.raw "ready") [.tail (.raw "")] [.comment "not yet"],
      .tail (.raw "Ok(())")])),
    .eval (.call "run" [.closure ["item"] (some "Pair") (.block false
      [.tail (.record "Pair" [("item", .ident "item"),
        ("rest", .block false [.ret (.raw "x")])])])]),
    .tail (.ident "result")]

theorem nestedBlock_keepsToLevel :
    Unbroken (Stmt.verbatimAll nestedBlock) ∧ KeepsToLevel nestedBlock :=
  ⟨by decide, writeAll_keepsToLevel (by decide)⟩

/-- A line break in a fragment begins a line that nobody indents. -/
example : added (Stmt.writeAll [.tail (.raw "a\nb")]) 1 = "    a\nb\n" := by decide

end Code
end ClientSynth
