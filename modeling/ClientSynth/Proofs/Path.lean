import ClientSynth.Proofs.FormatText
import ClientSynth.Proofs.Placeholder
import ClientSynth.Request.Path

/-! # What the path of a request stands for

`Code.Expr.pieces?` reads the expression of a request path.  It reads as the URL
template itself, with a hole for each placeholder that a path parameter fills
(`Substituted`), and what stays behind as a placeholder is what
`unmatchedPlaceholders` warns of. -/
namespace ClientSynth
namespace Request

open Contract Code

/-! ### The text with its holes -/

/-- The piece that shows `value`: a date pattern is applied by the value itself,
any other format is that of the hole. -/
def formatted (format : Option String) (value : Expr) : Piece :=
  match format with
  | none => .hole none value
  | some f =>
    if '%' ∈ f.toList then .hole none (value.method "format" [.str f])
    else .hole (some ((Text.dropPrefix? ":" f).getD f)) value

/-- The text of a nullable value, shown by `display`; an absent one has the empty
text. -/
def textOrNothing (name : String) (display : Expr) : Expr :=
  (((Expr.ident name).method0 "as_ref").method "map" [display]).method0 "unwrap_or_default"

/-- `Shows p piece`: the piece is the value of the path parameter `p` in its format. -/
inductive Shows (p : Parameter) : Piece → Prop where
  | value : p.type.nullable = false → Shows p (formatted (pathFormat p) (.ident p.name))
  | optional : p.type.nullable = true → pathFormat p = none →
      Shows p (.hole none (textOrNothing p.name (.raw "ToString::to_string")))
  /-- The format is applied inside, where the value is present. -/
  | optionalFormatted {f : String} {body : Expr} : p.type.nullable = true →
      pathFormat p = some f → body.pieces? = some [formatted (some f) (.ident "value")] →
      Shows p (.hole none (textOrNothing p.name (.lambda ["value"] body)))

/-- Whether the placeholder `name` is one for `p`. -/
def Fills (p : Parameter) (name : String) : Prop :=
  p.role.isPath = true ∧ Text.eqIgnoringAsciiCase p.name name = true

/-- `Substituted parameters parts pieces`: the parts of a template with the first
parameter that fills a placeholder in place of it, and all others as they stand. -/
inductive Substituted (parameters : List Parameter) : List UrlPart → List Piece → Prop where
  | done : Substituted parameters [] []
  | char {c : Char} {parts : List UrlPart} {pieces : List Piece} :
      Substituted parameters parts pieces →
      Substituted parameters (.char c :: parts) (.char c :: pieces)
  | filled {name : String} {before after : List Parameter} {p : Parameter} {piece : Piece}
      {parts : List UrlPart} {pieces : List Piece} :
      parameters = before ++ p :: after → Fills p name → (∀ q ∈ before, ¬ Fills q name) →
      Shows p piece → Substituted parameters parts pieces →
      Substituted parameters (.placeholder name :: parts) (piece :: pieces)
  | kept {name : String} {parts : List UrlPart} {pieces : List Piece} :
      (∀ p ∈ parameters, ¬ Fills p name) → Substituted parameters parts pieces →
      Substituted parameters (.placeholder name :: parts)
        ((Placeholder.braced name.toList).map Piece.char ++ pieces)

/-- Whether no format of a path parameter holds a brace. -/
def PlainFormats (parameters : List Parameter) : Prop :=
  ∀ p ∈ parameters, ∀ f, p.role = .path (some f) → FormatText.IsPlain f.toList

/-- A piece as it is seen in a text: a hole is a blank, which belongs to no
placeholder. -/
def visible : Piece → Char
  | .char c => c
  | .hole _ _ => ' '

/-- Names of the placeholders that can be seen in a text. -/
def survivors (pieces : List Piece) : List String :=
  (Placeholder.all (String.ofList (pieces.map visible))).map Placeholder.name

/-! ### Formats without braces -/

theorem givenFormat_eq_some {format : Option String} {f : String}
    (h : givenFormat format = some f) : ∃ raw, format = some raw ∧ f = Text.stripBlanks raw := by
  obtain ⟨hraw, -⟩ := Option.filter_eq_some_iff.mp h
  obtain ⟨raw, hformat, rfl⟩ := Option.map_eq_some_iff.mp hraw
  exact ⟨raw, hformat, rfl⟩

theorem mem_of_mem_trim {p : Char → Bool} {c : Char} {cs : List Char}
    (h : c ∈ Text.trim p cs) : c ∈ cs := by
  have hrev : c ∈ ((cs.dropWhile p).reverse.dropWhile p) := List.mem_reverse.mp h
  have hdrop : c ∈ cs.dropWhile p :=
    List.mem_reverse.mp ((List.dropWhile_sublist p).subset hrev)
  exact (List.dropWhile_sublist p).subset hdrop

/-- The format of a path parameter is free of braces when the declared one is. -/
theorem isPlain_pathFormat {parameters : List Parameter} (hplain : PlainFormats parameters)
    {p : Parameter} (hp : p ∈ parameters) {f : String} (hf : pathFormat p = some f) :
    FormatText.IsPlain f.toList := by
  unfold pathFormat at hf
  split at hf
  · rename_i format hrole
    obtain ⟨raw, rfl, rfl⟩ := givenFormat_eq_some hf
    intro c hc
    rw [Text.stripBlanks, String.toList_ofList] at hc
    exact hplain p hp raw hrole c (mem_of_mem_trim hc)
  · cases hf

theorem isPlain_dropPrefix {f : String} (h : FormatText.IsPlain f.toList) (start : String) :
    FormatText.IsPlain ((Text.dropPrefix? start f).getD f).toList := by
  unfold Text.dropPrefix?
  split
  · intro c hc
    rw [Option.getD_some, String.toList_ofList] at hc
    exact h c (List.mem_of_mem_drop hc)
  · exact h

theorem isPlain_holeChars {spec : Option String}
    (h : ∀ s, spec = some s → FormatText.IsPlain s.toList) :
    FormatText.IsPlain (Piece.holeChars spec) := by
  intro c hc
  cases spec with
  | none => exact absurd hc List.not_mem_nil
  | some s =>
      rcases List.mem_cons.mp hc with rfl | hc
      · decide
      · exact h s rfl c hc

/-! ### Holes -/

/-- The hole and argument that show a value are read as the piece that shows it. -/
theorem read_shown (format : Option String) (value : Expr)
    (hplain : ∀ f, format = some f → FormatText.IsPlain f.toList) (rest : List Char)
    (args : List Expr) :
    FormatText.read .text ((shown format value).1.toList ++ rest) ((shown format value).2 :: args) =
      (FormatText.read .text rest args).map (formatted format value :: ·) := by
  have hempty : FormatText.IsPlain (Piece.holeChars none) := isPlain_holeChars nofun
  have hdisplay : ∀ argument : Expr,
      FormatText.read .text ("\x7b\x7d".toList ++ rest) (argument :: args) =
        (FormatText.read .text rest args).map (.hole none argument :: ·) :=
    fun argument => FormatText.read_hole hempty rest argument args
  cases format with
  | none => exact hdisplay value
  | some f =>
      -- A date pattern is applied to the value, which is then shown plainly; any other format
      -- goes into the hole.
      by_cases hdate : '%' ∈ f.toList
      · rw [shown, formatValue, if_pos (isDatePattern_iff.mpr hdate), formatted, if_pos hdate]
        exact hdisplay _
      · rw [shown, formatValue, if_neg (mt isDatePattern_iff.mp hdate), formatted, if_neg hdate]
        have hspec : FormatText.IsPlain
            (Piece.holeChars (some ((Text.dropPrefix? ":" f).getD f))) :=
          isPlain_holeChars (fun s hs => Option.some.inj hs ▸ isPlain_dropPrefix (hplain f rfl) ":")
        have hread := FormatText.read_hole hspec rest value args
        simpa [Piece.holeChars] using hread

/-- The hole and argument of a path parameter are read as a piece that shows it. -/
theorem read_pathArgument {p : Parameter}
    (hplain : ∀ f, pathFormat p = some f → FormatText.IsPlain f.toList) :
    ∃ piece, Shows p piece ∧ ∀ rest args,
      FormatText.read .text ((pathArgument p).1.toList ++ rest) ((pathArgument p).2 :: args) =
        (FormatText.read .text rest args).map (piece :: ·) := by
  cases hnullable : p.type.nullable with
  | false =>
      refine ⟨_, .value hnullable, fun rest args => ?_⟩
      rw [pathArgument, hnullable]
      exact read_shown _ (.ident p.name) hplain rest args
  | true =>
      have hdisplay := fun argument => read_shown none argument nofun
      cases hformat : pathFormat p with
      | none =>
          refine ⟨_, .optional hnullable hformat, fun rest args => ?_⟩
          rw [pathArgument, hnullable, hformat]
          exact hdisplay _ rest args
      | some f =>
          have hbody : (Expr.format (formatValue f (.ident "value")).1
              [(formatValue f (.ident "value")).2]).pieces? =
                some [formatted (some f) (.ident "value")] := by
            have hread := read_shown (some f) (.ident "value")
              (fun g hg => hplain g (hformat.trans hg)) [] []
            simpa [Expr.pieces?, shown, FormatText.read] using hread
          refine ⟨_, .optionalFormatted hnullable hformat hbody, fun rest args => ?_⟩
          rw [pathArgument, hnullable, hformat]
          exact hdisplay _ rest args

/-! ### The whole template -/

theorem escapeBraces_append (cs ds : List Char) :
    escapeBraces (cs ++ ds) = escapeBraces cs ++ escapeBraces ds :=
  List.flatMap_append

/-- Doubling the braces of a text makes it stand for itself. -/
theorem read_escapeBraces (cs rest : List Char) (args : List Expr) :
    FormatText.read .text (escapeBraces cs ++ rest) args =
      (FormatText.read .text rest args).map (cs.map Piece.char ++ ·) := by
  induction cs with
  | nil => simp [escapeBraces]
  | cons c cs ih =>
      have hc : ∀ tail : List Char, FormatText.read .text (escapeBraces [c] ++ tail) args =
          (FormatText.read .text tail args).map (.char c :: ·) := by
        intro tail
        by_cases hopen : c = '\x7b'
        · subst hopen
          exact FormatText.read_doubled_open tail args
        · by_cases hclose : c = '\x7d'
          · subst hclose
            exact FormatText.read_doubled_close tail args
          · have hplain : escapeBraces [c] = [c] := by simp [escapeBraces, hopen, hclose]
            rw [hplain, List.singleton_append, FormatText.read_char hopen hclose]
      rw [← List.singleton_append, escapeBraces_append, List.append_assoc, hc, ih, Option.map_map]
      rfl

theorem pathParameter?_eq_some {name : String} {parameters : List Parameter} {p : Parameter}
    (h : pathParameter? name parameters = some p) :
    ∃ before after, parameters = before ++ p :: after ∧ Fills p name ∧
      ∀ q ∈ before, ¬ Fills q name := by
  obtain ⟨hp, before, after, hparameters, hbefore⟩ := List.find?_eq_some_iff_append.mp h
  refine ⟨before, after, hparameters, Bool.and_eq_true_iff.mp hp, fun q hq hfills => ?_⟩
  simpa [hfills.1, hfills.2] using hbefore q hq

theorem pathParameter?_eq_none {name : String} {parameters : List Parameter} :
    pathParameter? name parameters = none ↔ ∀ p ∈ parameters, ¬ Fills p name := by
  rw [pathParameter?, List.find?_eq_none]
  exact forall₂_congr (fun p _ => not_congr Bool.and_eq_true_iff)

section Pieces
variable {parameters : List Parameter}

theorem pathPieces_char (c : Char) (parts : List UrlPart) :
    pathPieces parameters (.char c :: parts) =
      (escapeBraces [c] ++ (pathPieces parameters parts).1, (pathPieces parameters parts).2) := by
  rw [pathPieces]
  rfl

theorem pathPieces_kept {name : String} (h : pathParameter? name parameters = none)
    (parts : List UrlPart) :
    pathPieces parameters (.placeholder name :: parts) =
      (escapeBraces (Placeholder.braced name.toList) ++ (pathPieces parameters parts).1,
        (pathPieces parameters parts).2) := by
  rw [pathPieces]
  simp only [h]
  rfl

theorem pathPieces_filled {name : String} {p : Parameter}
    (h : pathParameter? name parameters = some p) (parts : List UrlPart) :
    pathPieces parameters (.placeholder name :: parts) =
      ((pathArgument p).1.toList ++ (pathPieces parameters parts).1,
        (pathArgument p).2 :: (pathPieces parameters parts).2) := by
  rw [pathPieces]
  simp only [h]

/-- The template and arguments for any parts are read as these with the path
parameters in place of the placeholders they fill. -/
theorem read_pathPieces (hplain : PlainFormats parameters) (parts : List UrlPart) :
    ∃ pieces, Substituted parameters parts pieces ∧
      FormatText.read .text (pathPieces parameters parts).1 (pathPieces parameters parts).2 =
        some pieces := by
  induction parts with
  | nil => exact ⟨[], .done, by simp [pathPieces, FormatText.read]⟩
  | cons part parts ih =>
      obtain ⟨pieces, hpieces, hread⟩ := ih
      cases part with
      | char c =>
          refine ⟨_, .char hpieces, ?_⟩
          rw [pathPieces_char, read_escapeBraces, hread]
          rfl
      | placeholder name =>
          cases hfound : pathParameter? name parameters with
          | none =>
              refine ⟨_, .kept (pathParameter?_eq_none.mp hfound) hpieces, ?_⟩
              rw [pathPieces_kept hfound, read_escapeBraces, hread]
              rfl
          | some p =>
              obtain ⟨before, after, hparameters, hfills, hbefore⟩ :=
                pathParameter?_eq_some hfound
              have hp : p ∈ parameters := hparameters ▸ List.mem_append_cons_self
              obtain ⟨piece, hpiece, hslot⟩ :=
                read_pathArgument (fun f hf => isPlain_pathFormat hplain hp hf)
              refine ⟨_, .filled hparameters hfills hbefore hpiece hpieces, ?_⟩
              rw [pathPieces_filled hfound, hslot, hread]
              rfl

/-- Without arguments nothing has been filled, and all text is doubled. -/
theorem pathPieces_of_no_arguments {parts : List UrlPart}
    (h : (pathPieces parameters parts).2 = []) :
    (pathPieces parameters parts).1 = escapeBraces (parts.flatMap partText) := by
  induction parts with
  | nil => rfl
  | cons part parts ih =>
      rw [List.flatMap_cons, escapeBraces_append]
      cases part with
      | char c =>
          rw [pathPieces_char] at h ⊢
          rw [ih h]
          rfl
      | placeholder name =>
          cases hfound : pathParameter? name parameters with
          | none =>
              rw [pathPieces_kept hfound] at h ⊢
              rw [ih h]
              rfl
          | some p =>
              rw [pathPieces_filled hfound] at h
              cases h

end Pieces

theorem partText_of_splits {cs : List Char} {parts : List UrlPart}
    (h : Placeholder.Splits cs parts) : parts.flatMap partText = cs := by
  induction h with
  | done => rfl
  | placeholder _ _ ih =>
      rw [List.flatMap_cons, ih, partText, String.toList_ofList, Placeholder.braced]
  | char _ _ ih => rw [List.flatMap_cons, ih, partText, List.singleton_append]

theorem pieces?_pathExpr (template : String) {parameters : List Parameter}
    (hplain : PlainFormats parameters) :
    ∃ pieces, Substituted parameters (Placeholder.parts template.toList) pieces ∧
      (pathExpr template parameters).pieces? = some pieces := by
  obtain ⟨pieces, hpieces, hread⟩ :=
    read_pathPieces hplain (Placeholder.parts template.toList)
  refine ⟨pieces, hpieces, ?_⟩
  rw [pathExpr]
  split
  · rename_i text hpathPieces
    have htext := pathPieces_of_no_arguments (congrArg Prod.snd hpathPieces)
    rw [partText_of_splits (Placeholder.splits_parts _)] at htext
    rw [htext, hpathPieces] at hread
    have hself := read_escapeBraces template.toList [] []
    rw [List.append_nil, hread] at hself
    rw [hself]
    simp [Expr.pieces?, FormatText.read]
  · rename_i text arguments _ hpathPieces
    rw [Expr.pieces?, String.toList_ofList]
    rw [hpathPieces] at hread
    exact hread

theorem argument?_of_pieces {e : Expr} {pieces : List Piece} (h : e.pieces? = some pieces) :
    pieces.filterMap Piece.argument? = e.fillers := by
  unfold Expr.pieces? at h
  split at h
  · rename_i s
    cases h
    rw [List.filterMap_map]
    exact List.filterMap_eq_nil_iff.mpr (fun _ _ => rfl)
  · exact FormatText.arguments_of_read h
  · cases h

/-! ### What stays behind -/

theorem Shows.visible_eq {p : Parameter} {piece : Piece} (h : Shows p piece) :
    visible piece = ' ' := by
  have hformatted : ∀ format value, visible (formatted format value) = ' ' := by
    intro format value
    unfold formatted
    split
    · rfl
    · split <;> rfl
  cases h with
  | value _ => exact hformatted _ _
  | optional _ _ => rfl
  | optionalFormatted _ _ _ => rfl

section Survivors
variable {parameters : List Parameter} {cs : List Char} {parts : List UrlPart}
  {pieces : List Piece}

/-- A name and a closing brace that can be seen after the substitution were there
before it: a hole shows as a blank, and a placeholder left behind begins with a
brace. -/
theorem closed_of_visible (hsplits : Placeholder.Splits cs parts)
    (hpieces : Substituted parameters parts pieces) {name after : List Char}
    (hname : ∀ c ∈ name, Placeholder.isNameChar c = true)
    (hvisible : pieces.map visible = name ++ '\x7d' :: after) :
    ∃ rest, cs = name ++ '\x7d' :: rest := by
  have hhead : ∀ {c : Char} {tail name : List Char},
      (∀ d ∈ name, Placeholder.isNameChar d = true) → c :: tail = name ++ '\x7d' :: after →
      c = '\x7d' ∨ Placeholder.isNameChar c = true := by
    intro c tail name hname h
    cases name with
    | nil => exact Or.inl (List.cons.inj h).1
    | cons d name => exact Or.inr ((List.cons.inj h).1 ▸ hname d List.mem_cons_self)
  induction hpieces generalizing cs name with
  | done => cases name <;> cases hvisible
  | char _ ih =>
      cases hsplits with
      | char _ hsplits =>
          cases name with
          | nil => exact ⟨_, congrArg (· :: _) (List.cons.inj hvisible).1⟩
          | cons d name =>
              obtain ⟨hd, htail⟩ := List.cons.inj hvisible
              obtain ⟨rest, rfl⟩ :=
                ih hsplits (fun e he => hname e (List.mem_cons_of_mem _ he)) htail
              exact ⟨rest, congrArg (· :: _) hd⟩
  -- Neither a blank nor an opening brace belongs to a name or closes one.
  | filled _ _ _ hpiece _ _ =>
      rw [List.map_cons, hpiece.visible_eq] at hvisible
      exact absurd (hhead hname hvisible) (by decide)
  | kept _ _ _ => exact absurd (hhead hname hvisible) (by decide)

/-- The part that can still be seen of a part: a filled placeholder is a blank. -/
def remaining (parameters : List Parameter) : UrlPart → UrlPart
  | .char c => .char c
  | .placeholder name =>
    if (pathParameter? name parameters).isSome then .char ' ' else .placeholder name

/-- What can be seen after the substitution has the parts of the template, less
the placeholders that were filled. -/
theorem splits_visible (hsplits : Placeholder.Splits cs parts)
    (hpieces : Substituted parameters parts pieces) :
    Placeholder.Splits (pieces.map visible) (parts.map (remaining parameters)) := by
  induction hpieces generalizing cs with
  | done => exact .done
  | @char c _ _ hpieces ih =>
      cases hsplits with
      | char hno hsplits =>
          -- A placeholder that can be seen here would have been one in the template.
          refine .char (fun name after hname heq => ?_) (ih hsplits)
          rw [Placeholder.braced_append] at heq
          obtain ⟨hc, htail⟩ := List.cons.inj heq
          obtain ⟨rest, rfl⟩ := closed_of_visible hsplits hpieces hname.isNameChar htail
          exact hno name rest hname (by rw [Placeholder.braced_append]; exact congrArg (· :: _) hc)
  | @filled name _ _ p _ _ _ hparameters hfills _ hpiece _ ih =>
      have hsome : (pathParameter? name parameters).isSome = true := by
        rw [Option.isSome_iff_ne_none, Ne, pathParameter?_eq_none]
        exact fun hnone => hnone p (hparameters ▸ List.mem_append_cons_self) hfills
      cases hsplits with
      | placeholder _ hsplits =>
          rw [List.map_cons, List.map_cons, hpiece.visible_eq, remaining, if_pos hsome]
          refine .char (fun name after _ heq => ?_) (ih hsplits)
          rw [Placeholder.braced_append] at heq
          exact absurd (List.cons.inj heq).1 (by decide)
  | @kept name _ _ hnone _ ih =>
      have hisNone : ¬ (pathParameter? name parameters).isSome = true := by
        rw [pathParameter?_eq_none.mpr hnone]
        exact Bool.false_ne_true
      cases hsplits with
      | placeholder hname hsplits =>
          rw [List.map_append, List.map_map, List.map_cons, remaining, if_neg hisNone]
          rw [String.toList_ofList]
          have hsame : (visible ∘ Piece.char) = id := rfl
          rw [hsame, List.map_id]
          exact .placeholder hname (ih hsplits)

/-- What is left of the names of the parts. -/
theorem filterMap_remaining (parts : List UrlPart) :
    (parts.map (remaining parameters)).filterMap Placeholder.nameOf =
      (parts.filterMap Placeholder.nameOf).filter
        (fun name => (pathParameter? name parameters).isNone) := by
  induction parts with
  | nil => rfl
  | cons part parts ih =>
      cases part with
      | char c =>
          rw [List.map_cons, remaining, List.filterMap_cons_none rfl, ih,
            List.filterMap_cons_none rfl]
      | placeholder name =>
          cases hfound : pathParameter? name parameters with
          | none => simp [remaining, Placeholder.nameOf, hfound, ih]
          | some p => simp [remaining, Placeholder.nameOf, List.filterMap_cons, hfound, ih]

theorem unmatchedPlaceholders_eq (template : String) (parameters : List Parameter) :
    unmatchedPlaceholders template parameters =
      ((Placeholder.parts template.toList).filterMap Placeholder.nameOf).filter
        (fun name => (pathParameter? name parameters).isNone) := by
  rw [unmatchedPlaceholders, Placeholder.all, ← Placeholder.map_name_located _ 0,
    List.filter_map]
  rfl

theorem survivors_eq {template : String}
    (hpieces : Substituted parameters (Placeholder.parts template.toList) pieces) :
    survivors pieces = unmatchedPlaceholders template parameters := by
  have hsplits := splits_visible (Placeholder.splits_parts _) hpieces
  rw [survivors, Placeholder.all, Placeholder.map_name_located, String.toList_ofList,
    ← Placeholder.splits_iff.mp hsplits, filterMap_remaining, unmatchedPlaceholders_eq]

end Survivors

/-- **A path expression stands for its template with the path parameters filled in.**
When no format of a path parameter holds a brace, the expression has a reading.
It is that of the template's parts, each placeholder that a path parameter fills
being the hole of the first such parameter and all other text as it stands; its
holes take the arguments of the expression, one each and in order; and the
placeholders left in it are those that are warned of. -/
theorem pathExpr_reads (template : String) (parameters : List Parameter)
    (hplain : PlainFormats parameters) :
    ∃ parts pieces, Placeholder.Splits template.toList parts ∧
      Substituted parameters parts pieces ∧
      (pathExpr template parameters).pieces? = some pieces ∧
      pieces.filterMap Piece.argument? = (pathExpr template parameters).fillers ∧
      survivors pieces = unmatchedPlaceholders template parameters := by
  obtain ⟨pieces, hpieces, hread⟩ := pieces?_pathExpr template hplain
  exact ⟨_, pieces, Placeholder.splits_parts _, hpieces, hread, argument?_of_pieces hread,
    survivors_eq hpieces⟩

/-- Doubled braces around a placeholder, two that touch, one that nothing fills and
a brace on its own. -/
def itemTemplate : String := "/\x7b\x7bid\x7d\x7d/\x7bOwner\x7d\x7bday\x7d/\x7bpart\x7d/\x7b"

/-- Path parameters for it: a number in a format, an optional text, and an optional
date in a pattern. -/
def itemParameters : List Parameter :=
  [⟨"id", .mk "i64" "i64" .numeric false none, .path (some "04"), none⟩,
    ⟨"owner", .mk "Option<String>" "String" .text true none, .path none, none⟩,
    ⟨"day", .mk "Option<NaiveDate>" "NaiveDate" .scalar true none, .path (some "%Y-%m"), none⟩]

theorem itemPath_reads :
    PlainFormats itemParameters ∧
      (pathExpr itemTemplate itemParameters).fillers.length = 3 ∧
      unmatchedPlaceholders itemTemplate itemParameters = ["part"] ∧
      ∃ parts pieces, Placeholder.Splits itemTemplate.toList parts ∧
        Substituted itemParameters parts pieces ∧
        (pathExpr itemTemplate itemParameters).pieces? = some pieces ∧
        pieces.filterMap Piece.argument? = (pathExpr itemTemplate itemParameters).fillers ∧
        survivors pieces = unmatchedPlaceholders itemTemplate itemParameters := by
  have hplain : PlainFormats itemParameters := by
    intro p hp f hf
    simp only [itemParameters, List.mem_cons, List.not_mem_nil, or_false] at hp
    rcases hp with rfl | rfl | rfl <;> cases hf <;> decide
  refine ⟨hplain, ?_, ?_, pathExpr_reads itemTemplate itemParameters hplain⟩
  · with_unfolding_all rfl
  · with_unfolding_all rfl

/-- A hole with a format stands inside the doubled braces. -/
example : pathExpr "/\x7b\x7bid\x7d\x7d/\x7bpart\x7d" itemParameters =
    .format "/\x7b\x7b\x7b:04\x7d\x7d\x7d/\x7b\x7bpart\x7d\x7d" [.ident "id"] := by
  with_unfolding_all rfl

end Request
end ClientSynth
