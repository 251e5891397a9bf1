import ClientSynth.Proofs.CodeName
import ClientSynth.Proofs.Writing

/-! # Trees of code

What the text of an expression or a statement consists of.  Where everything that stands as
it is, is a path (`Expr.HasPlainCode`), the text spells the trees of the expression, at any level
and whatever stands around it. -/
namespace ClientSynth
namespace Code

open Text

/-! ### Trees -/

/-- Trees of several parts between commas. -/
def commaTrees (parts : List (List Tree)) : List Tree := [.mark ','].intercalate parts

/-- Trees of the head of a closure. -/
def closureTrees (params : List String) (result : Option String) : List Tree :=
  .mark '|' :: commaTrees (params.map fun p => [.word (Identifier.variableName p)]) ++
    .mark '|' :: match result with
      | none => []
      | some type => .mark '-' :: .mark '>' :: fragmentTrees type

/-- Whether an expression is written as the name `w`. -/
def Expr.isNamed (w : String) : Expr → Bool
  | .raw code => code == w
  | .ident name => Identifier.variableName name == w
  | _ => false

/-- Trees of a field whose value has the trees `ts`. -/
def fieldTrees (name : String) (value : Expr) (ts : List Tree) : List Tree :=
  if value.isNamed name then [.word name] else .word name :: .mark ':' :: ts

/-- Trees of a type after a colon. -/
def typeTrees : Option String → List Tree
  | none => []
  | some type => .mark ':' :: fragmentTrees type

mutual

/-- Trees of an expression. -/
def Expr.trees : Expr → List Tree
  | .raw code => fragmentTrees code
  | .ident name => [.word (Identifier.variableName name)]
  | .str value => [.quoted value]
  | .call callee arguments =>
    fragmentTrees callee ++ [.group .round (commaTrees (Expr.treesEach arguments))]
  | .method receiver name arguments =>
    (if receiver.needsParens then [.group .round receiver.trees] else receiver.trees) ++
      [.mark '.', .word (Identifier.functionName name),
        .group .round (commaTrees (Expr.treesEach arguments))]
  | .format template arguments =>
    [.word "format", .mark '!',
      .group .round (commaTrees ([.quoted template] :: Expr.treesEach arguments))]
  | .await operand => operand.trees ++ [.mark '.', .word "await"]
  | .attempt operand => operand.trees ++ [.mark '?']
  | .negate operand => .mark '!' :: operand.trees
  | .borrow operand => .mark '&' :: operand.trees
  | .block isAsync body =>
    (if isAsync then [.word "async"] else []) ++ [.group .curly (Stmt.treesAll body)]
  | .tuple items => [.group .round (commaTrees (Expr.treesEach items))]
  | .closure params result body => closureTrees params result ++ body.trees
  | .invoke callee => [.group .round callee.trees, .group .round []]
  | .record name fields =>
    fragmentTrees name ++ [.group .curly (commaTrees (Expr.treesOfFields fields))]

/-- Trees of each of several expressions. -/
def Expr.treesEach : List Expr → List (List Tree)
  | [] => []
  | e :: rest => e.trees :: Expr.treesEach rest

/-- Trees of each of the fields of a struct literal. -/
def Expr.treesOfFields : List (String × Expr) → List (List Tree)
  | [] => []
  | (name, e) :: rest =>
    fieldTrees (Identifier.variableName name) e e.trees :: Expr.treesOfFields rest

/-- Trees of a statement. -/
def Stmt.trees : Stmt → List Tree
  | .bind name isMutable type value =>
    .word "let" :: (if isMutable then [.word "mut"] else []) ++
      .word (Identifier.variableName name) :: typeTrees type ++
      .mark '=' :: value.trees ++ [.mark ';']
  | .assign target value =>
    .word (Identifier.variableName target) :: .mark '=' :: value.trees ++ [.mark ';']
  | .eval value => value.trees ++ [.mark ';']
  | .ifThen test body => .word "if" :: test.trees ++ [.group .curly (Stmt.treesAll body)]
  | .ifElse test body alternative =>
    .word "if" :: test.trees ++ [.group .curly (Stmt.treesAll body), .word "else",
      .group .curly (Stmt.treesAll alternative)]
  | .ifLet variant binding value body =>
    .word "if" :: .word "let" :: fragmentTrees variant ++
      .group .round [.word (Identifier.variableName binding)] :: .mark '=' :: value.trees ++
      [.group .curly (Stmt.treesAll body)]
  | .forEach binding items body =>
    .word "for" :: .word (Identifier.variableName binding) :: .word "in" :: items.trees ++
      [.group .curly (Stmt.treesAll body)]
  | .hook name arguments =>
    [.word "self", .mark '.', .word "hooks", .mark '.', .word (Identifier.functionName name),
      .group .round (commaTrees (Expr.treesEach arguments)), .mark ';']
  | .log level message arguments =>
    [.word "log", .mark ':', .mark ':', .word level.text, .mark '!',
      .group .round (commaTrees ([.quoted message] :: Expr.treesEach arguments)), .mark ';']
  | .ret value => .word "return" :: value.trees ++ [.mark ';']
  | .tail value => value.trees
  | .comment text => [.comment text]

/-- Trees of statements in sequence. -/
def Stmt.treesAll : List Stmt → List Tree
  | [] => []
  | s :: rest => s.trees ++ Stmt.treesAll rest

end

/-! ### Plain code -/

mutual

/-- Whatever stands as it is in the expression is a path, and comments keep to their line. -/
def Expr.HasPlainCode : Expr → Prop
  | .raw code => IsPath code
  | .ident _ => True
  | .str _ => True
  | .call callee arguments => IsPath callee ∧ Expr.HavePlainCode arguments
  | .method receiver _ arguments => receiver.HasPlainCode ∧ Expr.HavePlainCode arguments
  | .format _ arguments => Expr.HavePlainCode arguments
  | .await operand => operand.HasPlainCode
  | .attempt operand => operand.HasPlainCode
  | .negate operand => operand.HasPlainCode
  | .borrow operand => operand.HasPlainCode
  | .block _ body => Stmt.HavePlainCode body
  | .tuple items => Expr.HavePlainCode items
  | .closure _ result body => (∀ type ∈ result, IsPath type) ∧ body.HasPlainCode
  | .invoke callee => callee.HasPlainCode
  | .record name fields => IsPath name ∧ Expr.FieldsHavePlainCode fields

/-- So it is in each of several expressions. -/
def Expr.HavePlainCode : List Expr → Prop
  | [] => True
  | e :: rest => e.HasPlainCode ∧ Expr.HavePlainCode rest

/-- So it is in the fields of a struct literal. -/
def Expr.FieldsHavePlainCode : List (String × Expr) → Prop
  | [] => True
  | (_, e) :: rest => e.HasPlainCode ∧ Expr.FieldsHavePlainCode rest

/-- So it is in a statement. -/
def Stmt.HasPlainCode : Stmt → Prop
  | .bind _ _ type value => (∀ t ∈ type, IsPath t) ∧ value.HasPlainCode
  | .assign _ value => value.HasPlainCode
  | .eval value => value.HasPlainCode
  | .ifThen test body => test.HasPlainCode ∧ Stmt.HavePlainCode body
  | .ifElse test body alternative =>
    test.HasPlainCode ∧ Stmt.HavePlainCode body ∧ Stmt.HavePlainCode alternative
  | .ifLet variant _ value body => IsPath variant ∧ value.HasPlainCode ∧ Stmt.HavePlainCode body
  | .forEach _ items body => items.HasPlainCode ∧ Stmt.HavePlainCode body
  | .hook _ arguments => Expr.HavePlainCode arguments
  | .log _ _ arguments => Expr.HavePlainCode arguments
  | .ret value => value.HasPlainCode
  | .tail value => value.HasPlainCode
  | .comment text => '\n' ∉ text.toList

/-- So it is in statements in sequence. -/
def Stmt.HavePlainCode : List Stmt → Prop
  | [] => True
  | s :: rest => s.HasPlainCode ∧ Stmt.HavePlainCode rest

end

/-! ### Parts of texts -/

section Parts
variable {s t : String} {ts us : List Tree} {level : Nat}

theorem encloses_dot : Encloses "." [.mark '.'] := encloses_mark (by decide) rfl

theorem encloses_bang : Encloses "!" [.mark '!'] := encloses_mark (by decide) rfl

theorem encloses_ampersand : Encloses "&" [.mark '&'] := encloses_mark (by decide) rfl

theorem encloses_question : Encloses "?" [.mark '?'] := encloses_mark (by decide) rfl

theorem encloses_bar : Encloses "|" [.mark '|'] := encloses_mark (by decide) rfl

theorem encloses_semicolon : Encloses ";" [.mark ';'] := encloses_mark (by decide) rfl

theorem encloses_comma : Encloses ", " [.mark ','] :=
  Encloses.append (s := ",") (t := " ") (encloses_mark (by decide) rfl) encloses_space

theorem encloses_type : Encloses ": " [.mark ':'] :=
  Encloses.append (s := ":") (t := " ") encloses_colon encloses_space

theorem encloses_equals : Encloses " = " [.mark '='] := by
  have hequals : Encloses "= " [.mark '='] :=
    Encloses.append (s := "=") (t := " ") (encloses_mark (by decide) rfl) encloses_space
  exact Encloses.append (s := " ") (t := "= ") encloses_space hequals

theorem encloses_arrow : Encloses "-> " [.mark '-', .mark '>'] := by
  have hgreater : Encloses "> " [.mark '>'] :=
    Encloses.append (s := ">") (t := " ") (encloses_mark (by decide) rfl) encloses_space
  exact Encloses.append (s := "-") (t := "> ") (encloses_mark (by decide) rfl) hgreater

theorem encloses_word (h : s ≠ "" ∧ s.toList.all isWordChar = true) :
    Encloses (s ++ " ") [.word s] :=
  (spells_word h.1 h.2).append_encloses encloses_space (by decide)

theorem encloses_let : Encloses "let " [.word "let"] := encloses_word (s := "let") (by decide)

theorem encloses_if : Encloses "if " [.word "if"] := encloses_word (s := "if") (by decide)

theorem encloses_ifLet : Encloses "if let " [.word "if", .word "let"] :=
  Encloses.append (s := "if ") (t := "let ") encloses_if encloses_let

theorem encloses_for : Encloses "for " [.word "for"] := encloses_word (s := "for") (by decide)

theorem encloses_in : Encloses " in " [.word "in"] :=
  Encloses.append (s := " ") (t := "in ") encloses_space (encloses_word (s := "in") (by decide))

theorem encloses_return : Encloses "return " [.word "return"] :=
  encloses_word (s := "return") (by decide)

theorem encloses_else : Encloses " else " [.word "else"] :=
  Encloses.append (s := " ") (t := "else ") encloses_space
    (encloses_word (s := "else") (by decide))

theorem encloses_format : Encloses "format!" [.word "format", .mark '!'] :=
  Spells.append_encloses (s := "format") (t := "!") (spells_word (by decide) (by decide))
    encloses_bang (by decide)

theorem spells_await : Spells ".await" [.mark '.', .word "await"] :=
  Encloses.append_spells (s := ".") (t := "await") encloses_dot
    (spells_word (by decide) (by decide))

theorem encloses_hooks :
    Encloses "self.hooks." [.word "self", .mark '.', .word "hooks", .mark '.'] := by
  have hself : Encloses "self." [.word "self", .mark '.'] :=
    Spells.append_encloses (s := "self") (t := ".") (spells_word (by decide) (by decide))
      encloses_dot (by decide)
  have hhooks : Encloses "hooks." [.word "hooks", .mark '.'] :=
    Spells.append_encloses (s := "hooks") (t := ".") (spells_word (by decide) (by decide))
      encloses_dot (by decide)
  exact Encloses.append (s := "self.") (t := "hooks.") hself hhooks

theorem encloses_log : Encloses "log::" [.word "log", .mark ':', .mark ':'] :=
  Spells.append_encloses (s := "log") (t := "::") (spells_word (by decide) (by decide))
    encloses_colons (by decide)

theorem encloses_level (level : LogLevel) :
    Encloses (level.text ++ "!") [.word level.text, .mark '!'] := by
  have hlevel : Spells level.text [.word level.text] := by
    cases level <;> exact spells_word (by decide) (by decide)
  exact hlevel.append_encloses encloses_bang (by decide)

theorem encloses_mut (isMutable : Bool) :
    Encloses (if isMutable then "mut " else "") (if isMutable then [.word "mut"] else []) := by
  cases isMutable with
  | false => exact encloses_empty
  | true => exact encloses_word (s := "mut") (by decide)

theorem encloses_async (isAsync : Bool) :
    Encloses (if isAsync then "async " else "") (if isAsync then [.word "async"] else []) := by
  cases isAsync with
  | false => exact encloses_empty
  | true => exact encloses_word (s := "async") (by decide)

theorem spells_variableName (name : String) :
    Spells (Identifier.variableName name) [.word (Identifier.variableName name)] :=
  spells_of_isSegment (Identifier.isSegment_variableName name)

theorem spells_functionName (name : String) :
    Spells (Identifier.functionName name) [.word (Identifier.functionName name)] :=
  spells_of_isSegment (Identifier.isSegment_functionName name)

theorem IsPath.spells (h : IsPath s) : Spells s (fragmentTrees s) := by
  obtain ⟨first, more, hform⟩ := h.exists_form
  rw [hform.spells.fragmentTrees_eq]
  exact hform.spells

/-! ### Several parts -/

theorem commaTrees_cons_cons (us : List Tree) (tss : List (List Tree)) :
    commaTrees (ts :: us :: tss) = ts ++ .mark ',' :: commaTrees (us :: tss) := by
  rw [commaTrees, List.intercalate_cons_cons, List.append_assoc]
  rfl

theorem commas_cons_cons (texts : List String) :
    commas (s :: t :: texts) = s ++ ", " ++ commas (t :: texts) :=
  String.intercalate_cons_cons

theorem spells_commas {texts : List String} {tss : List (List Tree)}
    (h : List.Forall₂ Spells texts tss) : Spells (commas texts) (commaTrees tss) := by
  induction h with
  | nil => exact encloses_empty.spells
  | @cons s ts texts tss hs hrest ih =>
    cases hrest with
    | nil =>
      rw [commas, joined, String.intercalate_singleton, commaTrees, List.intercalate_singleton]
      exact hs
    | cons hnext hmore =>
      rw [commas_cons_cons, commaTrees_cons_cons]
      have hcomma := hs.append_encloses encloses_comma (by decide)
      simpa using hcomma.append_spells ih

theorem parens_stops (s : String) : parens s ≠ "" ∧ StopsWord (parens s).toList := by
  rw [parens, String.toList_append, String.toList_append]
  exact ⟨by simp, stopsWord_cons (by decide) _⟩

/-- What a name or another expression is called with stands in parentheses behind it. -/
theorem Spells.append_parens (hs : Spells s ts) (ht : Spells t us) :
    Encloses (s ++ parens t) (ts ++ [.group .round us]) :=
  hs.append_encloses ht.round (parens_stops t)

/-- A struct literal is a name with fields in braces behind it. -/
theorem Spells.append_fields (hs : Spells s ts) (ht : Spells t us) :
    Encloses (s ++ " \x7b " ++ t ++ " \x7d") (ts ++ [.group .curly us]) := by
  have hinner := (encloses_space.append_spells ht).append encloses_space.spells (by decide)
  have hfields := (hs.append_encloses encloses_space (by decide)).append hinner.curly
  rw [show " \x7b " = " " ++ "\x7b" ++ " " from rfl, show " \x7d" = " " ++ "\x7d" from rfl]
  simpa only [String.append_assoc, List.append_assoc, List.nil_append, List.append_nil]
    using hfields

theorem spells_type {type : Option String} (h : ∀ t ∈ type, IsPath t) :
    Spells ( typeAnnotation type) (typeTrees type) ∧
      StopsWord (String.toList <| typeAnnotation type) := by
  cases type with
  | none => exact ⟨encloses_empty.spells, by decide⟩
  | some t =>
    rw [typeTrees, typeAnnotation, String.toList_append]
    exact ⟨encloses_type.append_spells (h t rfl).spells, stopsWord_cons (by decide) _⟩

theorem encloses_closureHead (params : List String) {result : Option String}
    (h : ∀ type ∈ result, IsPath type) :
    Encloses (closureHead params result) (closureTrees params result) := by
  have hparams : Spells (commas (params.map Identifier.variableName))
      (commaTrees (params.map fun p => [.word (Identifier.variableName p)])) := by
    apply spells_commas
    rw [List.forall₂_map_left_iff, List.forall₂_map_right_iff]
    exact List.forall₂_same.mpr fun p _ => spells_variableName p
  have hbar : Encloses "| " [.mark '|'] :=
    Encloses.append (s := "|") (t := " ") encloses_bar encloses_space
  have hclosed := (encloses_bar.append_spells hparams).append_encloses hbar (by decide)
  cases result with
  | none =>
    simpa [closureHead, closureTrees] using hclosed
  | some type =>
    have hresult := ((hclosed.append encloses_arrow).append_spells
      (h type rfl).spells).append_encloses encloses_space (by decide)
    simpa only [closureHead, closureTrees, String.append_assoc, List.append_assoc,
      List.cons_append, List.nil_append, List.append_nil] using hresult

/-! ### Lines -/

theorem encloses_line (h : Spells s ts) : Encloses (added (fun w => w.line s) level) ts := by
  by_cases hs : s = ""
  · subst hs
    rw [h.unique encloses_empty.spells]
    exact encloses_newline
  · rw [added_line hs]
    have hline := ((encloses_spaces (4 * level)).append_spells h).append_encloses
      encloses_newline (by decide)
    rwa [List.nil_append, List.append_nil] at hline

theorem Encloses.braces (h : Encloses s ts) (level : Nat) :
    Encloses ("\x7b\n" ++ s ++ indentation level ++ "\x7d") [.group .curly ts] := by
  have hinner := (encloses_newline.append h).append (encloses_spaces (4 * level))
  have hbraces := hinner.spells.curly
  rw [List.append_nil, List.nil_append] at hbraces
  rw [show "\x7b\n" = "\x7b" ++ "\n" from rfl, indentation]
  simpa only [String.append_assoc] using hbraces

theorem encloses_nested {inside : Writer → Writer} (hinside : OnlyAdds inside)
    (hs : Spells s ts) (h : Encloses (added inside (level + 1)) us) :
    Encloses (added (fun w => w.nested (s ++ " \x7b") inside "\x7d") level)
      (ts ++ [.group .curly us]) := by
  have hopening : s ++ " \x7b" ≠ "" := by simp
  have hclosing : "\x7d" ≠ "" := by decide
  have hblock := ((hs.append_encloses encloses_space (by decide)).append
    (h.braces level)).append encloses_newline
  have hline := (encloses_spaces (4 * level)).append hblock
  rw [added_nested hinside, added_line hopening, added_line hclosing, indentation]
  rw [show " \x7b" = " " ++ "\x7b" from rfl]
  rw [show "\x7b\n" = "\x7b" ++ "\n" from rfl, indentation] at hline
  simpa only [String.append_assoc, List.append_assoc, List.nil_append, List.append_nil] using hline

theorem encloses_nested_else {inside alternative : Writer → Writer} {vs : List Tree}
    (hinside : OnlyAdds inside) (halternative : OnlyAdds alternative) (hs : Spells s ts)
    (h : Encloses (added inside (level + 1)) us)
    (h' : Encloses (added alternative (level + 1)) vs) :
    Encloses (added (fun w =>
        ((alternative (w.nested (s ++ " \x7b") inside "\x7d else \x7b").indent).dedent).line
          "\x7d") level)
      (ts ++ [.group .curly us, .word "else", .group .curly vs]) := by
  have hopening : s ++ " \x7b" ≠ "" := by simp
  have hbranch : "\x7d else \x7b" ≠ "" := by decide
  have hclosing : "\x7d" ≠ "" := by decide
  have hclose := onlyAdds_constant "\x7d"
  have hblock := (hs.append_encloses encloses_space (by decide)).append
    (h.braces level)
  have hbranches := ((hblock.append encloses_else).append
    (h'.braces level)).append encloses_newline
  have hline := (encloses_spaces (4 * level)).append hbranches
  -- The written text is cut where the writers follow each other, then regrouped as above.
  rw [added_comp (hinside.between _ _) (halternative.indented.comp hclose),
    added_comp halternative.indented hclose, added_indented halternative, added_nested hinside,
    added_line hopening, added_line hbranch, added_line hclosing, indentation]
  rw [show " \x7b" = " " ++ "\x7b" from rfl,
    show "\x7d else \x7b" = "\x7d" ++ " else " ++ "\x7b" from rfl]
  rw [show "\x7b\n" = "\x7b" ++ "\n" from rfl, indentation] at hline
  simpa only [String.append_assoc, List.append_assoc, List.cons_append, List.nil_append,
    List.append_nil] using hline

end Parts

/-! ### Expressions and statements -/

/-- An expression that is written as a word is a name. -/
theorem Expr.isNamed_of_trees {e : Expr} {w : String} (h : e.trees = [.word w])
    (htext : ∀ code, e = .raw code → code = w) : e.isNamed w = true := by
  cases e with
  | raw code => exact beq_iff_eq.mpr (htext code rfl)
  | ident name => simpa [Expr.trees, Expr.isNamed] using h
  | block isAsync body => cases isAsync <;> simp [Expr.trees] at h
  | _ => simp [Expr.trees, closureTrees, List.append_eq_cons_iff] at h

theorem Expr.spells_field (name : String) {e : Expr} {level : Nat} (hplain : e.HasPlainCode)
    (h : Spells (e.text level) e.trees) :
    Spells (fieldText (Identifier.variableName name) (e.text level))
      (fieldTrees (Identifier.variableName name) e e.trees) := by
  have hname := spells_variableName name
  -- A text spells no two lists of trees, so a value with the text of the name is the name.
  have hiff : e.text level = Identifier.variableName name ↔
      e.isNamed (Identifier.variableName name) = true := by
    constructor
    · intro heq
      refine Expr.isNamed_of_trees (h.unique (heq ▸ hname)) fun code hcode => ?_
      rwa [hcode, Expr.text] at heq
    · intro hnamed
      cases e with
      | raw code => rw [Expr.text, eq_of_beq hnamed]
      | ident other => rw [Expr.text, eq_of_beq hnamed]
      | _ => cases hnamed
  unfold fieldText fieldTrees
  by_cases hnamed : e.isNamed (Identifier.variableName name) = true
  · rw [if_pos (hiff.mpr hnamed).symm, if_pos hnamed]
    exact hname
  · rw [if_neg (fun heq => hnamed (hiff.mp heq.symm)), if_neg hnamed]
    exact (hname.append_encloses encloses_type (by decide)).append_spells h

mutual

/-- **The text of a plain expression spells its trees**, at every level. -/
theorem Expr.spells : (e : Expr) → e.HasPlainCode → ∀ level, Spells (e.text level) e.trees
  | .raw code, h, level => by
    rw [Expr.text, Expr.trees]
    rw [Expr.HasPlainCode] at h
    exact h.spells
  | .ident name, _, level => by
    rw [Expr.text, Expr.trees]
    exact spells_variableName name
  | .str value, _, level => by
    rw [Expr.text, Expr.trees]
    exact (encloses_quoted value).spells
  | .call callee arguments, h, level => by
    rw [Expr.HasPlainCode] at h
    rw [Expr.text, Expr.trees]
    exact (h.1.spells.append_parens (spells_commas (Expr.spellsEach arguments h.2 level))).spells
  | .method receiver name arguments, h, level => by
    rw [Expr.HasPlainCode] at h
    -- Parentheses or not, the receiver spells its trees, and a point ends its last word.
    have hreceiver : Spells
        (if receiver.needsParens then parens (receiver.text level) else receiver.text level)
        (if receiver.needsParens then [.group .round receiver.trees] else receiver.trees) := by
      split
      · exact (Expr.spells receiver h.1 level).round.spells
      · exact Expr.spells receiver h.1 level
    have hname := (hreceiver.append_encloses encloses_dot (by decide)).append_spells
      (spells_functionName name)
    have hcall := hname.append_parens (spells_commas (Expr.spellsEach arguments h.2 level))
    rw [Expr.text, Expr.trees]
    simpa only [List.append_assoc, List.cons_append, List.nil_append] using hcall.spells
  | .format template arguments, h, level => by
    rw [Expr.HasPlainCode] at h
    have hparts := List.Forall₂.cons (encloses_quoted template).spells
      (Expr.spellsEach arguments h level)
    rw [Expr.text, Expr.trees]
    exact (encloses_format.append (spells_commas hparts).round).spells
  | .await operand, h, level => by
    rw [Expr.HasPlainCode] at h
    rw [Expr.text, Expr.trees]
    exact (Expr.spells operand h level).append spells_await (by decide)
  | .attempt operand, h, level => by
    rw [Expr.HasPlainCode] at h
    rw [Expr.text, Expr.trees]
    exact (Expr.spells operand h level).append encloses_question.spells (by decide)
  | .negate operand, h, level => by
    rw [Expr.HasPlainCode] at h
    rw [Expr.text, Expr.trees]
    exact encloses_bang.append_spells (Expr.spells operand h level)
  | .borrow operand, h, level => by
    rw [Expr.HasPlainCode] at h
    rw [Expr.text, Expr.trees]
    exact encloses_ampersand.append_spells (Expr.spells operand h level)
  | .block isAsync body, h, level => by
    rw [Expr.HasPlainCode] at h
    rw [Expr.text, Expr.trees]
    have hbody := (Stmt.enclosesAll body h (level + 1)).braces level
    have hblock := (encloses_async isAsync).append hbody
    rw [added] at hblock
    simpa only [String.append_assoc] using hblock.spells
  | .tuple items, h, level => by
    rw [Expr.HasPlainCode] at h
    rw [Expr.text, Expr.trees]
    exact (spells_commas (Expr.spellsEach items h level)).round.spells
  | .closure params result body, h, level => by
    rw [Expr.HasPlainCode] at h
    rw [Expr.text, Expr.trees]
    exact (encloses_closureHead params h.1).append_spells (Expr.spells body h.2 level)
  | .invoke callee, h, level => by
    rw [Expr.HasPlainCode] at h
    rw [Expr.text, Expr.trees]
    have hempty : Encloses "()" [.group .round []] := encloses_empty.spells.round
    exact ((Expr.spells callee h level).round.append hempty).spells
  | .record name fields, h, level => by
    rw [Expr.HasPlainCode] at h
    rw [Expr.text, Expr.trees]
    exact (h.1.spells.append_fields (spells_commas (Expr.spellsFields fields h.2 level))).spells

/-- So do the texts of several expressions. -/
theorem Expr.spellsEach : (es : List Expr) → Expr.HavePlainCode es → ∀ level,
    List.Forall₂ Spells (Expr.texts level es) (Expr.treesEach es)
  | [], _, level => by
    rw [Expr.texts, Expr.treesEach]
    exact .nil
  | e :: rest, h, level => by
    rw [Expr.HavePlainCode] at h
    rw [Expr.texts, Expr.treesEach]
    exact .cons (Expr.spells e h.1 level) (Expr.spellsEach rest h.2 level)

/-- So do the fields of a struct literal. -/
theorem Expr.spellsFields : (fields : List (String × Expr)) → Expr.FieldsHavePlainCode fields →
    ∀ level, List.Forall₂ Spells (Expr.fieldTexts level fields) (Expr.treesOfFields fields)
  | [], _, level => by
    rw [Expr.fieldTexts, Expr.treesOfFields]
    exact .nil
  | (name, e) :: rest, h, level => by
    rw [Expr.FieldsHavePlainCode] at h
    rw [Expr.fieldTexts, Expr.treesOfFields]
    exact .cons (Expr.spells_field name h.1 (Expr.spells e h.1 level))
      (Expr.spellsFields rest h.2 level)

/-- What a statement adds spells its trees. -/
theorem Stmt.encloses : (s : Stmt) → s.HasPlainCode → ∀ level,
    Encloses (added s.write level) s.trees
  | .bind name isMutable type value, h, level => by
    rw [Stmt.HasPlainCode] at h
    obtain ⟨htype, hstops⟩ := spells_type h.1
    have hname := (encloses_let.append (encloses_mut isMutable)).append_spells
      (spells_variableName name)
    have hequals := (hname.append htype hstops).append_encloses encloses_equals (by decide)
    have hvalue := (hequals.append_spells (Expr.spells value h.2 level)).append_encloses
      encloses_semicolon (by decide)
    rw [added, Stmt.write, Stmt.trees]
    simp only [List.append_assoc, List.cons_append, List.nil_append] at hvalue ⊢
    exact encloses_line hvalue.spells
  | .assign target value, h, level => by
    rw [Stmt.HasPlainCode] at h
    have htarget := (spells_variableName target).append_encloses encloses_equals (by decide)
    have hvalue := (htarget.append_spells (Expr.spells value h level)).append_encloses
      encloses_semicolon (by decide)
    rw [added, Stmt.write, Stmt.trees]
    exact encloses_line hvalue.spells
  | .eval value, h, level => by
    rw [Stmt.HasPlainCode] at h
    rw [added, Stmt.write, Stmt.trees]
    exact encloses_line ((Expr.spells value h level).append_encloses encloses_semicolon
      (by decide)).spells
  | .ifThen test body, h, level => by
    rw [Stmt.HasPlainCode] at h
    rw [added, Stmt.write, Stmt.trees]
    exact encloses_nested (onlyAdds_writeAll body)
      (encloses_if.append_spells (Expr.spells test h.1 level))
      (Stmt.enclosesAll body h.2 (level + 1))
  | .ifElse test body alternative, h, level => by
    rw [Stmt.HasPlainCode] at h
    rw [added, Stmt.write, Stmt.trees]
    exact encloses_nested_else (onlyAdds_writeAll body) (onlyAdds_writeAll alternative)
      (encloses_if.append_spells (Expr.spells test h.1 level))
      (Stmt.enclosesAll body h.2.1 (level + 1)) (Stmt.enclosesAll alternative h.2.2 (level + 1))
  | .ifLet variant binding value body, h, level => by
    rw [Stmt.HasPlainCode] at h
    have hpattern := (encloses_ifLet.append_spells h.1.spells).append_parens
      (spells_variableName binding)
    have hhead := (hpattern.append encloses_equals).append_spells
      (Expr.spells value h.2.1 level)
    have hline := encloses_nested (onlyAdds_writeAll body) hhead
      (Stmt.enclosesAll body h.2.2 (level + 1))
    rw [added, Stmt.write, Stmt.trees]
    simp only [List.append_assoc, List.cons_append, List.nil_append] at hline ⊢
    exact hline
  | .forEach binding items body, h, level => by
    rw [Stmt.HasPlainCode] at h
    have hname := (encloses_for.append_spells (spells_variableName binding)).append_encloses
      encloses_in (by decide)
    have hline := encloses_nested (onlyAdds_writeAll body)
      (hname.append_spells (Expr.spells items h.1 level))
      (Stmt.enclosesAll body h.2 (level + 1))
    rw [added, Stmt.write, Stmt.trees]
    simp only [List.cons_append, List.nil_append] at hline ⊢
    exact hline
  | .hook name arguments, h, level => by
    rw [Stmt.HasPlainCode] at h
    have hname := encloses_hooks.append_spells (spells_functionName name)
    have hcall := (hname.append_parens (spells_commas (Expr.spellsEach arguments h level))).append
      encloses_semicolon
    rw [added, Stmt.write, Stmt.trees]
    exact encloses_line hcall.spells
  | .log logLevel message arguments, h, level => by
    rw [Stmt.HasPlainCode] at h
    have hparts := List.Forall₂.cons (encloses_quoted message).spells
      (Expr.spellsEach arguments h level)
    have hname := encloses_log.append (encloses_level logLevel)
    rw [← String.append_assoc] at hname
    have hcall := (hname.append (spells_commas hparts).round).append encloses_semicolon
    rw [added, Stmt.write, Stmt.trees]
    exact encloses_line hcall.spells
  | .ret value, h, level => by
    rw [Stmt.HasPlainCode] at h
    have hvalue := (encloses_return.append_spells (Expr.spells value h level)).append_encloses
      encloses_semicolon (by decide)
    rw [added, Stmt.write, Stmt.trees]
    exact encloses_line hvalue.spells
  | .tail value, h, level => by
    rw [Stmt.HasPlainCode] at h
    rw [added, Stmt.write, Stmt.trees]
    exact encloses_line (Expr.spells value h level)
  | .comment text, h, level => by
    rw [Stmt.HasPlainCode] at h
    have hline := (encloses_spaces (4 * level)).append (encloses_comment h)
    rw [added, Stmt.write, Stmt.trees]
    show Encloses (added (fun w => w.line ("// " ++ text)) level) _
    rw [added_line (by simp), indentation]
    rw [List.nil_append] at hline
    simpa only [String.append_assoc] using hline

/-- What statements add spells their trees. -/
theorem Stmt.enclosesAll : (body : List Stmt) → Stmt.HavePlainCode body → ∀ level,
    Encloses (added (Stmt.writeAll body) level) (Stmt.treesAll body)
  | [], _, level => by
    rw [added, Stmt.writeAll, Stmt.treesAll]
    exact encloses_empty
  | s :: rest, h, level => by
    rw [Stmt.HavePlainCode] at h
    have hboth := (Stmt.encloses s h.1 level).append (Stmt.enclosesAll rest h.2 level)
    rw [← added_comp (onlyAdds_write s) (onlyAdds_writeAll rest)] at hboth
    rw [added, Stmt.writeAll, Stmt.treesAll]
    exact hboth

end

end Code
end ClientSynth
