import Mathlib.Data.List.TakeWhile
import ClientSynth.Contract.Placeholder

/-! # Where the placeholders of a template are

`Placeholder.parts` is a scanner.  `Placeholder.Splits` says without one what the
parts of a template are: a placeholder wherever a name stands in braces, and a
character for everything else.  The two agree, so a template has its parts and no
others. -/
namespace ClientSynth
namespace Placeholder

/-! ### Names -/

/-- An ASCII letter or an underscore. -/
def IsNameStart (c : Char) : Prop := 'A' ≤ c ∧ c ≤ 'Z' ∨ 'a' ≤ c ∧ c ≤ 'z' ∨ c = '_'

/-- An ASCII letter, an underscore or an ASCII digit. -/
def IsNameChar (c : Char) : Prop := IsNameStart c ∨ '0' ≤ c ∧ c ≤ '9'

/-- A placeholder name: an ASCII letter or underscore, then those and digits. -/
def IsName (name : List Char) : Prop :=
  ∃ c rest, name = c :: rest ∧ IsNameStart c ∧ ∀ d ∈ rest, IsNameChar d

/-- The scanner starts a name where one can start. -/
theorem isNameStart_iff {c : Char} : isNameStart c = true ↔ IsNameStart c := by
  have htest : isNameStart c = (decide ('A' ≤ c ∧ c ≤ 'Z') ||
      decide ('a' ≤ c) && decide (c ≤ 'z') || c == '_') := rfl
  simp [htest, IsNameStart, or_assoc]

/-- The scanner goes on with a name where one goes on. -/
theorem isNameChar_iff {c : Char} : isNameChar c = true ↔ IsNameChar c := by
  have htest : isNameChar c =
      (c.isAlpha || decide ('0' ≤ c) && decide (c ≤ '9') || c == '_') := rfl
  rw [IsNameChar, ← isNameStart_iff, htest, isNameStart]
  simp [or_right_comm]

theorem IsName.isNameChar {name : List Char} (h : IsName name) :
    ∀ c ∈ name, isNameChar c = true := by
  obtain ⟨c, rest, rfl, hstart, hrest⟩ := h
  intro d hd
  rcases List.mem_cons.mp hd with rfl | hd
  · exact isNameChar_iff.mpr (Or.inl hstart)
  · exact isNameChar_iff.mpr (hrest d hd)

/-! ### Parts -/

/-- The text of a placeholder of the given name. -/
def braced (name : List Char) : List Char := '\x7b' :: name ++ ['\x7d']

theorem braced_append (name rest : List Char) :
    braced name ++ rest = '\x7b' :: (name ++ '\x7d' :: rest) := by
  simp [braced]

/-- `Splits cs parts`: the template `cs` has the parts `parts`. -/
inductive Splits : List Char → List UrlPart → Prop where
  | done : Splits [] []
  | placeholder {name rest : List Char} {parts : List UrlPart} :
      IsName name → Splits rest parts →
      Splits (braced name ++ rest) (.placeholder (String.ofList name) :: parts)
  /-- A character is one only where no placeholder begins. -/
  | char {c : Char} {rest : List Char} {parts : List UrlPart} :
      (∀ name after, IsName name → c :: rest ≠ braced name ++ after) → Splits rest parts →
      Splits (c :: rest) (.char c :: parts)

/-- What stands after an opening brace begins with a name and a closing brace
exactly if the scanner finds them. -/
theorem afterBrace_eq_some_iff {cs name after : List Char} :
    afterBrace cs = some (name, after) ↔ IsName name ∧ cs = name ++ '\x7d' :: after := by
  constructor
  · intro h
    unfold afterBrace at h
    split at h
    · rename_i c rest
      split at h
      · rename_i hstart
        split at h
        · rename_i tail hdrop
          cases h
          refine ⟨⟨c, rest.takeWhile isNameChar, rfl, isNameStart_iff.mp hstart, ?_⟩, ?_⟩
          · exact fun d hd => isNameChar_iff.mp (List.mem_takeWhile_imp hd)
          · rw [List.cons_append, ← hdrop, List.takeWhile_append_dropWhile]
        · cases h
      · cases h
    · cases h
  · rintro ⟨⟨c, rest, rfl, hname, hchars⟩, rfl⟩
    have hstart := isNameStart_iff.mpr hname
    have hrest : ∀ d ∈ rest, isNameChar d = true := fun d hd => isNameChar_iff.mpr (hchars d hd)
    -- The brace is no character of a name, so the name is taken up to it and no further.
    have hclose : ¬ isNameChar '\x7d' = true := by decide
    rw [List.cons_append]
    simp only [afterBrace, hstart, if_true, List.dropWhile_append_of_pos hrest,
      List.dropWhile_cons_of_neg hclose, List.takeWhile_append_of_pos hrest,
      List.takeWhile_cons_of_neg hclose, List.append_nil]

/-! ### What the scanner does with a character -/

theorem parts_nil : parts [] = [] := by rw [parts]

theorem parts_brace {rest name after : List Char} (h : afterBrace rest = some (name, after)) :
    parts ('\x7b' :: rest) = .placeholder (String.ofList name) :: parts after := by
  rw [parts, if_pos rfl]
  split
  · rename_i name' after' h'
    rw [h] at h'
    cases h'
    rfl
  · rename_i h'
    rw [h] at h'
    cases h'

theorem parts_char {c : Char} {rest : List Char} (h : c = '\x7b' → afterBrace rest = none) :
    parts (c :: rest) = .char c :: parts rest := by
  rw [parts]
  split
  · rename_i hc
    split
    · rename_i name after h'
      rw [h hc] at h'
      cases h'
    · rfl
  · rfl

/-- No placeholder begins at a character exactly if the scanner takes it as one. -/
theorem no_braced_iff {c : Char} {rest : List Char} :
    (∀ name after, IsName name → c :: rest ≠ braced name ++ after) ↔
      (c = '\x7b' → afterBrace rest = none) := by
  constructor
  · intro h hc
    rcases hrest : afterBrace rest with _ | ⟨name, after⟩
    · rfl
    · obtain ⟨hname, rfl⟩ := afterBrace_eq_some_iff.mp hrest
      exact absurd (by rw [hc, braced_append]) (h name after hname)
  · intro h name after hname heq
    rw [braced_append] at heq
    obtain ⟨hc, hrest⟩ := List.cons.inj heq
    have hfound := afterBrace_eq_some_iff.mpr ⟨hname, hrest⟩
    rw [h hc] at hfound
    cases hfound

theorem splits_parts (cs : List Char) : Splits cs (parts cs) := by
  induction cs using parts.induct with
  | case1 => exact parts_nil ▸ .done
  | case2 rest name after h _ ih =>
      obtain ⟨hname, rfl⟩ := afterBrace_eq_some_iff.mp h
      rw [parts_brace h, ← braced_append]
      exact .placeholder hname ih
  | case3 rest h ih =>
      rw [parts_char (fun _ => h)]
      exact .char (no_braced_iff.mpr (fun _ => h)) ih
  | case4 c rest hc ih =>
      have h : c = '\x7b' → afterBrace rest = none := fun hc' => absurd hc' hc
      rw [parts_char h]
      exact .char (no_braced_iff.mpr h) ih

/-- **A template has exactly the parts that the scanner finds.** -/
theorem splits_iff {cs : List Char} {ps : List UrlPart} : Splits cs ps ↔ ps = parts cs := by
  constructor
  · intro h
    induction h with
    | done => rw [parts_nil]
    | @placeholder name rest _ hname _ ih =>
        have h : afterBrace (name ++ '\x7d' :: rest) = some (name, rest) :=
          afterBrace_eq_some_iff.mpr ⟨hname, rfl⟩
        rw [braced_append, parts_brace h, ih]
    | char hno _ ih => rw [parts_char (no_braced_iff.mp hno), ih]
  · rintro rfl
    exact splits_parts cs

/-! ### Names in order -/

/-- The name of a placeholder; a character has none. -/
def nameOf : UrlPart → Option String
  | .char _ => none
  | .placeholder name => some name

theorem map_name_located (ps : List UrlPart) (offset : Nat) :
    (located offset ps).map Placeholder.name = ps.filterMap nameOf := by
  induction ps generalizing offset with
  | nil => rfl
  | cons p ps ih =>
      cases p with
      | char c => rw [located, ih, List.filterMap_cons_none rfl]
      | placeholder name =>
          rw [located, List.map_cons, ih]
          rfl

end Placeholder
end ClientSynth
