import ClientSynth.Proofs.ByteCut
import ClientSynth.Proofs.Trim
import ClientSynth.Text.Casing

/-! # Underscores at the ends of a name

The underscores at the ends of a name are measured and put around the snake case of what is
between them.  One more of them at either end changes neither what is between them nor the
other end, so it is one more of them in the result.  A name without anything else is left
alone, which comes to the same.  A suffix of underscores is therefore never lost, and names
that differ in nothing but such a suffix stay different.

The ends are measured in bytes: the text is as much longer than it is without its underscores
in front as there are underscores in front.  Underscores have one byte each, so a cut at such
a place is never inside a character, however many bytes the other characters have. -/
namespace ClientSynth
namespace Text

variable {cs : List Char}

/-! ### The ends by their bytes -/

/-- Snake case that keeps the underscores at both ends, with the ends cut off by their bytes. -/
def snakeIdentByBytes? (cs : List Char) : Option (List Char) :=
  let core := trim isUnderscore cs
  if core = [] then some cs
  else do
    let front := byteCount cs - byteCount (cs.dropWhile isUnderscore)
    let back := byteCount cs - byteCount (trimEnd isUnderscore cs)
    let atFront ← cutAtByte? front cs
    let atBack ← cutAtByte? (byteCount cs - back) cs
    return atFront.1 ++ snakeChars core ++ atBack.2

/-- **The ends of a name can be cut off by their bytes.** -/
theorem snakeIdentByBytes?_eq (cs : List Char) :
    snakeIdentByBytes? cs = some (snakeIdentChars cs) := by
  unfold snakeIdentByBytes? snakeIdentChars
  dsimp only
  split
  · rfl
  · have hfront : cs.takeWhile isUnderscore ++ cs.dropWhile isUnderscore = cs :=
      List.takeWhile_append_dropWhile
    have hback : trimEnd isUnderscore cs ++ (cs.reverse.takeWhile isUnderscore).reverse = cs :=
      List.rdropWhile_append_rtakeWhile
    -- Both positions are lengths of prefixes, so that cutting there never fails.
    have hstart : byteCount cs - byteCount (cs.dropWhile isUnderscore) =
        byteCount (cs.takeWhile isUnderscore) := by
      have hcount := byteCount_append (cs.takeWhile isUnderscore) (cs.dropWhile isUnderscore)
      rw [hfront] at hcount
      omega
    have hstop : byteCount cs - (byteCount cs - byteCount (trimEnd isUnderscore cs)) =
        byteCount (trimEnd isUnderscore cs) := by
      have hcount := byteCount_append (trimEnd isUnderscore cs)
        (cs.reverse.takeWhile isUnderscore).reverse
      rw [hback] at hcount
      omega
    have hcutFront := cutAtByte?_append (cs.takeWhile isUnderscore) (cs.dropWhile isUnderscore)
    have hcutBack := cutAtByte?_append (trimEnd isUnderscore cs)
      (cs.reverse.takeWhile isUnderscore).reverse
    rw [hfront] at hcutFront
    rw [hback] at hcutBack
    rw [hstart, hstop, hcutFront, hcutBack]
    rfl

/-! ### One more underscore -/

/-- A name with something between its underscores is not all underscores. -/
theorem exists_not_underscore (h : trim isUnderscore cs ≠ []) :
    ∃ c ∈ cs, ¬ isUnderscore c = true := by
  have hall : ¬ cs.all isUnderscore = true := fun hall => h (trim_eq_nil hall)
  simpa using hall

theorem takeWhile_append_of_not {p : Char → Bool} (h : ∃ c ∈ cs, ¬ p c = true) (ds : List Char) :
    (cs ++ ds).takeWhile p = cs.takeWhile p := by
  obtain ⟨c, hc, hnot⟩ := h
  rw [List.takeWhile_append, if_neg]
  intro hlength
  have htake : cs.takeWhile p = cs :=
    (List.takeWhile_prefix p).eq_of_length hlength
  rw [← htake] at hc
  exact hnot (List.mem_takeWhile_imp hc)

theorem snakeIdentChars_concat (cs : List Char) :
    snakeIdentChars (cs ++ ['_']) = snakeIdentChars cs ++ ['_'] := by
  have htrim : trim isUnderscore (cs ++ ['_']) = trim isUnderscore cs :=
    trim_concat_of_pos rfl cs
  unfold snakeIdentChars
  rw [htrim]
  by_cases hcore : trim isUnderscore cs = []
  · rw [if_pos hcore, if_pos hcore]
  · rw [if_neg hcore, if_neg hcore, takeWhile_append_of_not (exists_not_underscore hcore),
      List.reverse_append, List.reverse_singleton, List.singleton_append,
      List.takeWhile_cons_of_pos rfl, List.reverse_cons]
    simp only [List.append_assoc]

theorem snakeIdentChars_cons (cs : List Char) :
    snakeIdentChars ('_' :: cs) = '_' :: snakeIdentChars cs := by
  have htrim : trim isUnderscore ('_' :: cs) = trim isUnderscore cs := trim_cons_of_pos rfl cs
  unfold snakeIdentChars
  rw [htrim]
  by_cases hcore : trim isUnderscore cs = []
  · rw [if_pos hcore, if_pos hcore]
  · obtain ⟨c, hc, hnot⟩ := exists_not_underscore hcore
    have hreverse : ∃ c ∈ cs.reverse, ¬ isUnderscore c = true :=
      ⟨c, List.mem_reverse.mpr hc, hnot⟩
    rw [if_neg hcore, if_neg hcore, List.takeWhile_cons_of_pos rfl, List.reverse_cons,
      takeWhile_append_of_not hreverse]
    rfl

theorem snakeIdentChars_append_replicate (cs : List Char) (k : Nat) :
    snakeIdentChars (cs ++ List.replicate k '_') =
      snakeIdentChars cs ++ List.replicate k '_' := by
  induction k with
  | zero => rw [List.replicate_zero, List.append_nil, List.append_nil]
  | succ k ih =>
    rw [List.replicate_succ', ← List.append_assoc, snakeIdentChars_concat, ih, List.append_assoc]

theorem snakeIdentChars_replicate_append (cs : List Char) (k : Nat) :
    snakeIdentChars (List.replicate k '_' ++ cs) =
      List.replicate k '_' ++ snakeIdentChars cs := by
  induction k with
  | zero => rfl
  | succ k ih => rw [List.replicate_succ, List.cons_append, snakeIdentChars_cons, ih]; rfl

/-! ### Names with underscores at their ends -/

/-- As many underscores. -/
def underscores (k : Nat) : String := String.ofList (List.replicate k '_')

theorem underscores_injective : Function.Injective underscores := by
  intro j k h
  have hlength := congrArg (fun s => s.toList.length) h
  simpa [underscores] using hlength

theorem snakeIdent_append_underscores (s : String) (k : Nat) :
    snakeIdent (s ++ underscores k) = snakeIdent s ++ underscores k := by
  rw [snakeIdent, String.toList_append, underscores, String.toList_ofList,
    snakeIdentChars_append_replicate, String.ofList_append, snakeIdent]

theorem snakeIdent_underscores_append (s : String) (k : Nat) :
    snakeIdent (underscores k ++ s) = underscores k ++ snakeIdent s := by
  rw [snakeIdent, String.toList_append, underscores, String.toList_ofList,
    snakeIdentChars_replicate_append, String.ofList_append, snakeIdent]

/-- What becomes of underscores at the ends of a name. -/
structure KeepsEdges (name : String) : Prop where
  /-- The ends are found by their bytes, and no cut is inside a character. -/
  measured : snakeIdentByBytes? name.toList = some (snakeIdent name).toList
  /-- Underscores behind the name stay behind it. -/
  behind : ∀ k, snakeIdent (name ++ underscores k) = snakeIdent name ++ underscores k
  /-- Underscores in front of the name stay in front of it. -/
  before : ∀ k, snakeIdent (underscores k ++ name) = underscores k ++ snakeIdent name
  /-- Names with other numbers of underscores behind them stay different. -/
  behind_injective : Function.Injective fun k => snakeIdent (name ++ underscores k)
  /-- Names with other numbers of underscores in front of them stay different. -/
  before_injective : Function.Injective fun k => snakeIdent (underscores k ++ name)

/-- **Underscores at the ends of a name are kept, one by one**, so a suffixed name never
becomes the one without the suffix. -/
theorem snakeIdent_keepsEdges (name : String) : KeepsEdges name where
  measured := by
    rw [snakeIdentByBytes?_eq, snakeIdent, String.toList_ofList]
  behind := snakeIdent_append_underscores name
  before := snakeIdent_underscores_append name
  behind_injective := by
    intro j k h
    simp only [snakeIdent_append_underscores] at h
    exact underscores_injective ((String.append_right_inj _).mp h)
  before_injective := by
    intro j k h
    simp only [snakeIdent_underscores_append] at h
    exact underscores_injective ((String.append_left_inj _).mp h)

example : snakeIdent "__userId\u00e9_" = "__user_id\u00e9_" := by decide +kernel

end Text
end ClientSynth
