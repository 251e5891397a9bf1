import Mathlib.Data.List.Infix

/-! # Lines of a comment

A text that is written into a line comment stays in the comment unless it breaks the line:
then each line that it begins has to be a comment line itself.  Text on either side of a
break matters for the line it is on only, and text behind a character that is neither an
indentation nor a slash does not make a line a comment line.  So texts with such characters
between them stay in a comment together exactly if each of them does. -/
namespace ClientSynth
namespace Text

/-- The characters that a line may be indented with. -/
def isIndent (c : Char) : Bool := c == ' ' || c == '\t'

/-- What starts a documentation comment. -/
def commentMark : List Char := ['/', '/', '/']

/-- A line that starts, after its indentation, with the mark of a comment. -/
def IsCommentLine (line : List Char) : Prop := commentMark <+: line.dropWhile isIndent

instance : DecidablePred IsCommentLine :=
  fun line => inferInstanceAs (Decidable (commentMark <+: line.dropWhile isIndent))

/-- The lines of a text that ends each of its lines with a break. -/
def physicalLines (cs : List Char) : List (List Char) := (cs.splitOn '\n').dropLast

/-- A text that is nothing but comment lines. -/
def IsComment (cs : List Char) : Prop := ∀ line ∈ physicalLines cs, IsCommentLine line

/-- A text that does not leave a comment it is written into: the lines it begins are comment
lines. -/
def StaysInComment (cs : List Char) : Prop := ∀ line ∈ (cs.splitOn '\n').tail, IsCommentLine line

instance : DecidablePred StaysInComment :=
  fun cs => inferInstanceAs (Decidable (∀ line ∈ (cs.splitOn '\n').tail, IsCommentLine line))

/-- A text that begins with neither an indentation nor a slash. -/
def SetsOff : List Char → Prop
  | [] => True
  | c :: _ => isIndent c = false ∧ c ≠ '/'

instance : DecidablePred SetsOff
  | [] => .isTrue trivial
  | c :: _ => inferInstanceAs (Decidable (isIndent c = false ∧ c ≠ '/'))

variable {a b cs : List Char} {c : Char}

/-! ### Starting a line -/

/-- A mark does not reach beyond a character that it does not contain. -/
theorem prefix_append_cons_iff {mark : List Char} (h : c ∉ mark) :
    mark <+: a ++ c :: b ↔ mark <+: a := by
  constructor
  · intro hmark
    rcases List.prefix_or_prefix_of_prefix hmark (List.prefix_append _ _) with
      hle | ⟨rest, rfl⟩
    · exact hle
    · rw [List.prefix_append_right_inj] at hmark
      cases rest with
      | nil => rw [List.append_nil]
      | cons d rest =>
        rw [(List.cons_prefix_cons.mp hmark).1] at h
        exact absurd (List.mem_append_right _ List.mem_cons_self) h
  · exact fun hmark => hmark.trans (List.prefix_append _ _)

/-- What follows a character that is neither an indentation nor a slash does not decide
whether a line is a comment line. -/
theorem isCommentLine_append_cons (hindent : isIndent c = false) (hslash : c ≠ '/') :
    IsCommentLine (a ++ c :: b) ↔ IsCommentLine a := by
  have hmark : c ∉ commentMark := by simp [commentMark, hslash]
  unfold IsCommentLine
  rw [List.dropWhile_append]
  split
  · next hempty =>
    rw [List.isEmpty_iff.mp hempty, List.dropWhile_cons_of_neg (by simp [hindent])]
    exact prefix_append_cons_iff (a := []) hmark
  · exact prefix_append_cons_iff hmark

/-- Every line of a text is a comment line exactly if the first one is and the text stays in
the comment. -/
theorem forall_splitOn_iff :
    (∀ line ∈ cs.splitOn '\n', IsCommentLine line) ↔ IsCommentLine cs ∧ StaysInComment cs := by
  have hjoined : ['\n'].intercalate (cs.splitOn '\n') = cs := List.intercalate_splitOn '\n'
  unfold StaysInComment
  cases hlines : cs.splitOn '\n' with
  | nil => exact absurd hlines (List.splitOn_ne_nil _ _)
  | cons first rest =>
    have hfirst : IsCommentLine cs ↔ IsCommentLine first := by
      rw [hlines] at hjoined
      cases rest with
      | nil =>
        rw [← hjoined]
        simp
      | cons second rest =>
        rw [List.intercalate_cons_cons, List.append_assoc] at hjoined
        rw [← hjoined]
        exact isCommentLine_append_cons rfl (by decide)
    rw [List.forall_mem_cons, hfirst, List.tail_cons]

/-! ### Staying in a comment -/

theorem staysInComment_break_cons :
    StaysInComment ('\n' :: cs) ↔ IsCommentLine cs ∧ StaysInComment cs := by
  rw [← forall_splitOn_iff, StaysInComment, List.splitOn_cons_eq_if_modifyHead]
  rfl

theorem staysInComment_cons (h : c ≠ '\n') :
    StaysInComment (c :: cs) ↔ StaysInComment cs := by
  rw [StaysInComment, List.splitOn_cons_eq_if_modifyHead, if_neg (by simpa using h),
    List.tail_modifyHead]
  rfl

theorem staysInComment_nil : StaysInComment [] := nofun

theorem staysInComment_of_no_break (h : '\n' ∉ cs) : StaysInComment cs := by
  intro line hline
  rw [List.splitOn_eq_singleton h] at hline
  cases hline

/-- What precedes a text on its first line does not matter. -/
theorem staysInComment_append_of_no_break (h : '\n' ∉ a) :
    StaysInComment (a ++ b) ↔ StaysInComment b := by
  induction a with
  | nil => rfl
  | cons c a ih =>
    rw [List.mem_cons, not_or] at h
    rw [List.cons_append, staysInComment_cons (Ne.symm h.1), ih h.2]

/-- **Texts stay in a comment together** exactly if each of them does, where the second one
does not begin with an indentation or a slash. -/
theorem staysInComment_append (h : SetsOff b) :
    StaysInComment (a ++ b) ↔ StaysInComment a ∧ StaysInComment b := by
  cases b with
  | nil => simp [staysInComment_nil]
  | cons c b =>
    obtain ⟨hindent, hslash⟩ := h
    induction a with
    | nil => simp [staysInComment_nil]
    | cons d a ih =>
      rw [List.cons_append]
      by_cases hbreak : d = '\n'
      · subst hbreak
        rw [staysInComment_break_cons, staysInComment_break_cons,
          isCommentLine_append_cons hindent hslash, ih, and_assoc]
      · rw [staysInComment_cons hbreak, staysInComment_cons hbreak, ih]

theorem SetsOff.append (h : SetsOff a) (hne : a ≠ []) (b : List Char) : SetsOff (a ++ b) := by
  cases a with
  | nil => exact absurd rfl hne
  | cons c a => exact h

/-! ### Comments line by line -/

theorem isComment_nil : IsComment [] := nofun

/-- A comment of several lines is one line after the other. -/
theorem isComment_append_break :
    IsComment (a ++ '\n' :: b) ↔ (IsCommentLine a ∧ StaysInComment a) ∧ IsComment b := by
  rw [← forall_splitOn_iff, IsComment, physicalLines, List.splitOn_append_cons_self,
    List.dropLast_append_of_ne_nil (List.splitOn_ne_nil _ _), List.forall_mem_append]
  rfl

end Text
end ClientSynth
