import ClientSynth.Proofs.Words
import ClientSynth.Proofs.Writing

/-! # Texts that are moved to the right

A text is moved by indenting each of its lines that is not empty.  The text of an expression
begins in the middle of a line, so it hangs: its first line stays where it is and only the
lines behind it are moved.  Both go through a text from one line break to the next, and so
from one part of a text to the next, as long as no part but the last breaks its line at its
end.  Texts that keep to this at both ends (`Hangs`) can be put behind each other; lines that
are written (`Moves`) are complete, and can be put below each other. -/
namespace ClientSynth
namespace Code

variable {n level : Nat} {a b cs : List Char} {c : Char} {s t : String}

/-! ### Lines -/

/-- A line `n` steps of four blanks further to the right; an empty line stays empty. -/
def indentLine (n : Nat) (line : List Char) : List Char :=
  if line = [] then [] else List.replicate (4 * n) ' ' ++ line

/-- The writer indents by four blanks for each level. -/
theorem toList_indentation (n : Nat) : (indentation n).toList = List.replicate (4 * n) ' ' :=
  String.toList_ofList

/-- What an indentation puts in front of a line that begins with the text. -/
def margin (n : Nat) (cs : List Char) : List Char :=
  if cs.head?.all (· == '\n') then [] else (indentation n).toList

/-- The text with every line behind the first one moved `n` steps. -/
def hang (n : Nat) : List Char → List Char
  | [] => []
  | c :: cs => c :: ((if c = '\n' then margin n cs else []) ++ hang n cs)

/-- The text with every line moved `n` steps. -/
def moved (n : Nat) (cs : List Char) : List Char := margin n cs ++ hang n cs

@[simp] theorem margin_nil (n : Nat) : margin n [] = [] := rfl

@[simp] theorem margin_break (n : Nat) (cs : List Char) : margin n ('\n' :: cs) = [] := rfl

theorem margin_cons (h : c ≠ '\n') (n : Nat) (cs : List Char) :
    margin n (c :: cs) = (indentation n).toList := if_neg (by simpa using h)

/-- What follows the start of a text does not decide whether it is moved. -/
theorem margin_append (h : a ≠ []) (n : Nat) (b : List Char) :
    margin n (a ++ b) = margin n a := by
  cases a with
  | nil => exact absurd rfl h
  | cons c a => rfl

theorem hang_step (n : Nat) (c : Char) (cs : List Char) :
    hang n (c :: cs) = c :: ((if c = '\n' then margin n cs else []) ++ hang n cs) := rfl

theorem hang_break (n : Nat) (cs : List Char) : hang n ('\n' :: cs) = '\n' :: moved n cs := rfl

theorem hang_cons (h : c ≠ '\n') (n : Nat) (cs : List Char) :
    hang n (c :: cs) = c :: hang n cs := by
  rw [hang_step, if_neg h, List.nil_append]

theorem moved_break (n : Nat) (cs : List Char) : moved n ('\n' :: cs) = '\n' :: moved n cs := rfl

theorem moved_cons (h : c ≠ '\n') (n : Nat) (cs : List Char) :
    moved n (c :: cs) = (indentation n).toList ++ c :: hang n cs := by
  rw [moved, margin_cons h, hang_cons h]

/-- A text on one line has nothing to move behind it. -/
theorem hang_of_no_break (h : '\n' ∉ cs) (n : Nat) : hang n cs = cs := by
  induction cs with
  | nil => rfl
  | cons c cs ih =>
    rw [List.mem_cons, not_or] at h
    rw [hang_cons (Ne.symm h.1), ih h.2]

/-- Moving a text neither breaks a line nor joins two. -/
theorem break_mem_hang_iff (n : Nat) (cs : List Char) : '\n' ∈ hang n cs ↔ '\n' ∈ cs := by
  constructor
  · intro h
    by_contra hno
    rw [hang_of_no_break hno] at h
    exact hno h
  · intro h
    induction cs with
    | nil => exact h
    | cons c cs ih =>
      by_cases hc : c = '\n'
      · subst hc
        exact List.mem_cons_self
      · rw [hang_cons hc]
        rcases List.mem_cons.mp h with rfl | h
        · exact absurd rfl hc
        · exact List.mem_cons_of_mem c (ih h)

/-- At a line break a text is cut into two that are moved by themselves. -/
theorem hang_append_break (n : Nat) (a b : List Char) :
    hang n (a ++ '\n' :: b) = hang n a ++ '\n' :: moved n b := by
  induction a with
  | nil => rfl
  | cons c a ih =>
    have hmargin : margin n (a ++ '\n' :: b) = margin n a := by
      cases a with
      | nil => rfl
      | cons d a => rfl
    rw [List.cons_append, hang_step, ih, hmargin, hang_step, List.cons_append, List.append_assoc]

theorem moved_append_break (n : Nat) (a b : List Char) :
    moved n (a ++ '\n' :: b) = moved n a ++ '\n' :: moved n b := by
  cases a with
  | nil => rfl
  | cons c a =>
    rw [moved, margin_append (List.cons_ne_nil c a), hang_append_break, ← List.append_assoc]
    rfl

/-- Behind a text that does not break its line at its end the line goes on. -/
theorem hang_append (h : a.getLast? ≠ some '\n') (n : Nat) (b : List Char) :
    hang n (a ++ b) = hang n a ++ hang n b := by
  induction a with
  | nil => rfl
  | cons c a ih =>
    by_cases hne : a = []
    · subst hne
      have hc : c ≠ '\n' := fun hc => h (by rw [hc]; rfl)
      rw [List.singleton_append, hang_cons hc, hang_cons hc]
      rfl
    · have hrest : a.getLast? ≠ some '\n' := by
        intro hlast
        exact h (by rw [List.getLast?_cons, hlast]; rfl)
      rw [List.cons_append, hang_step, ih hrest, margin_append hne, hang_step, List.cons_append,
        List.append_assoc]

theorem moved_of_no_break (h : '\n' ∉ cs) (n : Nat) : moved n cs = indentLine n cs := by
  cases cs with
  | nil => rfl
  | cons c cs =>
    have hc : c ≠ '\n' := fun hc => h (hc ▸ List.mem_cons_self)
    rw [moved, hang_of_no_break h, margin_cons hc, indentLine, if_neg (List.cons_ne_nil c cs),
      toList_indentation]

theorem moved_intercalate {lines : List (List Char)} (h : ∀ line ∈ lines, '\n' ∉ line) (n : Nat) :
    moved n (['\n'].intercalate lines) = ['\n'].intercalate (lines.map (indentLine n)) := by
  induction lines with
  | nil => rfl
  | cons line lines ih =>
    obtain ⟨hline, hlines⟩ := List.forall_mem_cons.mp h
    by_cases hne : lines = []
    · subst hne
      rw [List.intercalate_singleton, List.map_singleton, List.intercalate_singleton,
        moved_of_no_break hline]
    · have hindented : lines.map (indentLine n) ≠ [] := by simpa using hne
      rw [List.intercalate_cons_of_ne_nil hne, List.append_assoc, List.singleton_append,
        moved_append_break, moved_of_no_break hline, ih hlines, List.map_cons,
        List.intercalate_cons_of_ne_nil hindented, List.append_assoc, List.singleton_append]

/-- **The lines of a moved text** are the lines of the text, each indented. -/
theorem splitOn_moved (n : Nat) (cs : List Char) :
    (moved n cs).splitOn '\n' = (cs.splitOn '\n').map (indentLine n) := by
  have hlines : ∀ line ∈ cs.splitOn '\n', '\n' ∉ line := fun line h => (Text.of_mem_splitOn h).1
  have hindented : ∀ line ∈ (cs.splitOn '\n').map (indentLine n), '\n' ∉ line := by
    intro line h
    obtain ⟨original, horiginal, rfl⟩ := List.mem_map.mp h
    unfold indentLine
    split
    · exact List.not_mem_nil
    · rw [← toList_indentation, List.mem_append, not_or]
      exact ⟨break_not_mem_indentation n, hlines original horiginal⟩
  calc (moved n cs).splitOn '\n'
    _ = (moved n (['\n'].intercalate (cs.splitOn '\n'))).splitOn '\n' := by
      rw [List.intercalate_splitOn]
    _ = (['\n'].intercalate ((cs.splitOn '\n').map (indentLine n))).splitOn '\n' := by
      rw [moved_intercalate hlines]
    _ = (cs.splitOn '\n').map (indentLine n) :=
      List.splitOn_intercalate '\n' hindented (by simp [List.splitOn_ne_nil])

theorem indentation_add (level n : Nat) :
    indentation (level + n) = indentation n ++ indentation level := by
  rw [indentation, indentation, indentation, ← String.ofList_append,
    List.replicate_append_replicate, Nat.mul_add, Nat.add_comm]

/-! ### Hanging texts -/

/-- `t` is `s` with the lines behind the first one moved `n` steps.  The text neither begins
nor ends with a line break, so it can stand in the middle of a line. -/
structure Hangs (n : Nat) (s t : String) : Prop where
  head : s.toList.head? ≠ some '\n'
  last : s.toList.getLast? ≠ some '\n'
  text : t.toList = hang n s.toList

theorem hangs_of_no_break (h : '\n' ∉ s.toList) : Hangs n s s where
  head := fun hhead => h (List.mem_of_head? hhead)
  last := fun hlast => h (List.mem_of_getLast? hlast)
  text := (hang_of_no_break h n).symm

theorem Hangs.append {s' t' : String} (h : Hangs n s t) (h' : Hangs n s' t') :
    Hangs n (s ++ s') (t ++ t') where
  head := by
    intro hhead
    rw [String.toList_append, List.head?_append] at hhead
    -- The text in front decides, unless it is empty; for the last character, the one behind.
    cases hs : s.toList.head? with
    | none =>
      rw [hs] at hhead
      exact h'.head hhead
    | some c =>
      rw [hs] at hhead
      exact h.head (hs.trans hhead)
  last := by
    intro hlast
    rw [String.toList_append, List.getLast?_append] at hlast
    cases hs : s'.toList.getLast? with
    | none =>
      rw [hs] at hlast
      exact h.last hlast
    | some c =>
      rw [hs] at hlast
      exact h'.last (hs.trans hlast)
  text := by
    rw [String.toList_append, String.toList_append, h.text, h'.text, hang_append h.last]

theorem Hangs.behind {front : String} (h : Hangs n s t) (hfront : '\n' ∉ front.toList) :
    Hangs n (front ++ s) (front ++ t) := (hangs_of_no_break hfront).append h

theorem Hangs.followed {back : String} (h : Hangs n s t) (hback : '\n' ∉ back.toList) :
    Hangs n (s ++ back) (t ++ back) := h.append (hangs_of_no_break hback)

theorem Hangs.parens (h : Hangs n s t) : Hangs n (parens s) (parens t) :=
  (h.behind (by decide)).followed (by decide)

theorem Hangs.commas {ss ts : List String} (h : List.Forall₂ (Hangs n) ss ts) :
    Hangs n (commas ss) (commas ts) := by
  induction h with
  | nil => exact hangs_of_no_break (by decide)
  | @cons s t ss ts hfirst hrest ih =>
    cases hrest with
    | nil => simpa [Code.commas, Text.joined] using hfirst
    | cons hnext hrest =>
      rw [Code.commas, Code.commas, Text.joined, Text.joined, String.intercalate_cons_cons,
        String.intercalate_cons_cons]
      exact (hfirst.followed (by decide)).append ih

/-- Arguments between parentheses. -/
theorem hangs_arguments {ss ts : List String} (h : List.Forall₂ (Hangs n) ss ts) :
    Hangs n (Code.parens (Code.commas ss)) (Code.parens (Code.commas ts)) :=
  (Hangs.commas h).parens

/-- A field is left out at one level exactly if it is at every other one: what hangs is on one
line together. -/
theorem Hangs.fieldText {name : String} (hname : '\n' ∉ name.toList) (h : Hangs n s t) :
    Hangs n (fieldText name s) (fieldText name t) := by
  have hsame : name = s ↔ name = t := by
    constructor
    · rintro rfl
      apply String.toList_inj.mp
      rw [h.text, hang_of_no_break hname]
    · rintro rfl
      have hno : '\n' ∉ s.toList := by
        rw [← break_mem_hang_iff n, ← h.text]
        exact hname
      apply String.toList_inj.mp
      rw [h.text, hang_of_no_break hno]
  unfold Code.fieldText
  by_cases hs : name = s
  · rw [if_pos hs, if_pos (hsame.mp hs)]
    exact hangs_of_no_break hname
  · rw [if_neg hs, if_neg fun ht => hs (hsame.mpr ht)]
    exact ((hangs_of_no_break hname).followed (by decide)).append h

theorem Hangs.eq_empty_iff (h : Hangs n s t) : s = "" ↔ t = "" := by
  rw [← String.toList_eq_nil_iff, ← String.toList_eq_nil_iff, h.text]
  cases s.toList with
  | nil => exact Iff.rfl
  | cons c cs => simp [hang]

/-! ### Complete lines -/

/-- `t` is `s` with every line moved `n` steps.  The text ends with a line break, if it is not
empty, so another line can stand below it. -/
structure Moves (n : Nat) (s t : String) : Prop where
  ended : s ≠ "" → s.toList.getLast? = some '\n'
  text : t.toList = moved n s.toList

theorem moves_empty : Moves n "" "" where
  ended := fun h => absurd rfl h
  text := rfl

theorem moves_break : Moves n "\n" "\n" where
  ended := fun _ => rfl
  text := rfl

/-- Text below complete lines is moved by itself. -/
theorem Moves.moved_append (h : Moves n s t) (cs : List Char) :
    moved n (s.toList ++ cs) = t.toList ++ moved n cs := by
  by_cases hs : s = ""
  · rw [h.text, hs]
    rfl
  · obtain ⟨a, ha⟩ := List.getLast?_eq_some_iff.mp (h.ended hs)
    rw [h.text, ha, List.append_assoc, List.singleton_append, moved_append_break,
      moved_append_break, List.append_assoc]
    rfl

theorem Moves.append {s' t' : String} (h : Moves n s t) (h' : Moves n s' t') :
    Moves n (s ++ s') (t ++ t') where
  ended := by
    intro hne
    rw [String.toList_append, List.getLast?_append]
    by_cases hs : s' = ""
    · subst hs
      rw [String.append_empty] at hne
      rw [h.ended hne]
      rfl
    · rw [h'.ended hs]
      rfl
  text := by
    rw [String.toList_append, String.toList_append, h.moved_append, h'.text]

/-- A hanging text that begins a line, and the end of the line. -/
theorem Hangs.moves (h : Hangs n s t) (hne : s ≠ "") :
    Moves n (s ++ "\n") (indentation n ++ t ++ "\n") where
  ended := by
    intro _
    rw [String.toList_append]
    exact List.getLast?_concat
  text := by
    obtain ⟨c, cs, hs⟩ := List.exists_cons_of_ne_nil (mt String.toList_eq_nil_iff.mp hne)
    have hc : c ≠ '\n' := fun hc => h.head (by rw [hs, hc]; rfl)
    have hbreak : hang n (s.toList ++ ['\n']) = t.toList ++ ['\n'] := by
      rw [hang_append h.last, h.text]
      rfl
    rw [hs, List.cons_append, hang_cons hc] at hbreak
    rw [String.toList_append, String.toList_append, String.toList_append, hs, List.cons_append]
    show _ = moved n (c :: (cs ++ ['\n']))
    rw [moved_cons hc, hbreak, List.append_assoc]
    rfl

/-- A line of a hanging text, at its level and `n` steps deeper. -/
theorem Hangs.line (h : Hangs n s t) :
    Moves n (added (fun w => w.line s) level) (added (fun w => w.line t) (level + n)) := by
  by_cases hs : s = ""
  · have ht := h.eq_empty_iff.mp hs
    subst hs ht
    exact moves_break
  · have ht : t ≠ "" := fun ht => hs (h.eq_empty_iff.mpr ht)
    have hline := (hangs_of_no_break (break_not_mem_indentation level)).append h
    have hne : indentation level ++ s ≠ "" := by
      intro hempty
      exact hs (String.append_eq_empty_iff.mp hempty).2
    have hmoves := hline.moves hne
    rw [← String.append_assoc] at hmoves
    rw [added_line hs, added_line ht, indentation_add]
    exact hmoves

/-- Complete lines between a brace at the end of a line and the brace that closes it. -/
theorem Moves.braces (h : Moves n s t) (level : Nat) :
    Hangs n ("\x7b\n" ++ s ++ indentation level ++ "\x7d")
      ("\x7b\n" ++ t ++ indentation (level + n) ++ "\x7d") where
  head := by
    simp
  last := by
    rw [String.toList_append]
    exact fun hlast => absurd (Option.some.inj (List.getLast?_concat.symm.trans hlast)) (by decide)
  text := by
    have hclosing : '\n' ∉ (indentation level).toList ++ ['\x7d'] := by
      simpa using break_not_mem_indentation level
    have hbraces : ("\x7b\n" ++ s ++ indentation level ++ "\x7d").toList =
        '\x7b' :: '\n' :: (s.toList ++ ((indentation level).toList ++ ['\x7d'])) := by
      simp
    rw [hbraces, hang_cons (by decide), hang_break, h.moved_append, moved_of_no_break hclosing,
      indentLine, if_neg (by simp), indentation_add, ← toList_indentation]
    simp

end Code
end ClientSynth
