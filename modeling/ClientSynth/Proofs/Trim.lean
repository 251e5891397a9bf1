import Mathlib.Data.List.DropRight
import ClientSynth.Text.Trim

/-! # Trimmed text

What is left after trimming neither starts nor ends with a trimmed character,
so trimming twice is trimming once. -/
namespace ClientSynth
namespace Text

variable {p : Char → Bool}

theorem trimEnd_eq_rdropWhile (cs : List Char) : trimEnd p cs = cs.rdropWhile p := rfl

/-- Cutting the end off leaves the start alone. -/
theorem dropWhile_trimEnd {cs : List Char} (h : cs.dropWhile p = cs) :
    (trimEnd p cs).dropWhile p = trimEnd p cs := by
  rw [trimEnd_eq_rdropWhile]
  obtain ⟨cut, hcut⟩ := List.rdropWhile_prefix p cs
  cases ht : cs.rdropWhile p with
  | nil => rfl
  | cons c rest =>
    rw [ht, List.cons_append] at hcut
    rw [← hcut, List.dropWhile_eq_self_iff] at h
    exact List.dropWhile_cons_of_neg (h (Nat.zero_lt_succ _))

/-- A last character that is not trimmed stays where it is. -/
theorem trim_concat {c : Char} (hc : ¬ p c = true) (cs : List Char) :
    trim p (cs ++ [c]) = cs.dropWhile p ++ [c] := by
  have hdrop : (cs ++ [c]).dropWhile p = cs.dropWhile p ++ [c] := by
    rw [List.dropWhile_append]
    split
    · rename_i hempty
      rw [List.isEmpty_iff.mp hempty, List.dropWhile_cons_of_neg hc, List.nil_append]
    · rfl
  rw [trim, hdrop, trimEnd, List.reverse_append, List.reverse_singleton, List.singleton_append,
    List.dropWhile_cons_of_neg hc, List.reverse_cons, List.reverse_reverse]

theorem trim_trim (cs : List Char) : trim p (trim p cs) = trim p cs := by
  have h : (trim p cs).dropWhile p = trim p cs :=
    dropWhile_trimEnd (List.dropWhile_idempotent p cs)
  rw [trim, h]
  exact List.rdropWhile_idempotent p _

/-- Only characters that are trimmed get lost. -/
theorem mem_trim {c : Char} {cs : List Char} (hc : ¬ p c = true) (h : c ∈ cs) : c ∈ trim p cs := by
  have hdrop : ∀ {ds : List Char}, c ∈ ds → c ∈ ds.dropWhile p := by
    intro ds hds
    rw [← List.takeWhile_append_dropWhile (p := p) (l := ds)] at hds
    rcases List.mem_append.mp hds with htake | hdrop
    · exact absurd (List.mem_takeWhile_imp htake) hc
    · exact hdrop
  rw [trim, trimEnd, List.mem_reverse]
  exact hdrop (List.mem_reverse.mpr (hdrop h))

/-- What stands between trimmed characters is left over if none of it is trimmed. -/
theorem trim_between {front cs back : List Char} (hfront : ∀ c ∈ front, p c = true)
    (hcs : ∀ c ∈ cs, ¬ p c = true) (hback : ∀ c ∈ back, p c = true) :
    trim p (front ++ cs ++ back) = cs := by
  have hend : ∀ {ds : List Char}, (∀ c ∈ ds, ¬ p c = true) → ds.dropWhile p = ds := by
    intro ds hds
    cases ds with
    | nil => rfl
    | cons d ds => exact List.dropWhile_cons_of_neg (hds d List.mem_cons_self)
  rw [trim, List.append_assoc, List.dropWhile_append_of_pos hfront, List.dropWhile_append, hend hcs]
  cases cs with
  | nil =>
      rw [List.isEmpty_nil, if_pos rfl, List.dropWhile_eq_nil_iff.mpr hback]
      rfl
  | cons c cs =>
      have hreverse : ∀ d ∈ (c :: cs).reverse, ¬ p d = true :=
        fun d hd => hcs d (List.mem_reverse.mp hd)
      rw [List.isEmpty_cons, if_neg (by decide), trimEnd, List.reverse_append,
        List.dropWhile_append_of_pos (by simpa using hback), hend hreverse, List.reverse_reverse]

theorem trim_eq_nil {cs : List Char} (h : cs.all p) : trim p cs = [] := by
  have hdrop : cs.dropWhile p = [] :=
    List.dropWhile_eq_nil_iff.mpr (fun c hc => List.all_eq_true.mp h c hc)
  rw [trim, hdrop]
  rfl

/-- What no trimmed character at an end changes is not changed by trimming. -/
theorem apply_trim {α : Type} {f : List Char → α} (hfront : ∀ c, p c = true → ∀ cs, f (c :: cs) = f cs)
    (hback : ∀ c, p c = true → ∀ cs, f (cs ++ [c]) = f cs) (cs : List Char) :
    f (trim p cs) = f cs := by
  have hdrop : f (cs.dropWhile p) = f cs := by
    induction cs with
    | nil => rfl
    | cons c cs ih =>
      by_cases hc : p c = true
      · rw [List.dropWhile_cons_of_pos hc, ih, hfront c hc]
      · rw [List.dropWhile_cons_of_neg hc]
  have hcut : ∀ ds : List Char, f (ds.rdropWhile p) = f ds := by
    intro ds
    induction ds using List.reverseRecOn with
    | nil => rfl
    | append_singleton ds d ih =>
      by_cases hd : p d = true
      · rw [List.rdropWhile_concat_pos p ds d hd, ih, hback d hd]
      · rw [List.rdropWhile_concat_neg p ds d hd]
  calc f (trim p cs)
    _ = f ((cs.dropWhile p).rdropWhile p) := rfl
    _ = f (cs.dropWhile p) := hcut _
    _ = f cs := hdrop

theorem trim_cons_of_pos {c : Char} (hc : p c = true) (cs : List Char) :
    trim p (c :: cs) = trim p cs := by
  rw [trim, List.dropWhile_cons_of_pos hc, trim]

theorem trim_concat_of_pos {c : Char} (hc : p c = true) (cs : List Char) :
    trim p (cs ++ [c]) = trim p cs := by
  rw [trim, List.dropWhile_append]
  split
  · next hempty =>
    rw [List.dropWhile_cons_of_pos hc, List.dropWhile_nil, trim, List.isEmpty_iff.mp hempty]
  · rw [trimEnd_eq_rdropWhile, List.rdropWhile_concat_pos p _ c hc]
    rfl

@[simp] theorem stripBlanks_stripBlanks (s : String) :
    stripBlanks (stripBlanks s) = stripBlanks s := by
  simp only [stripBlanks, String.toList_ofList, trim_trim]

/-- Nothing but the empty text is both trimmed and blank. -/
theorem eq_empty_of_isBlankText {s : String} (hs : stripBlanks s = s) (h : isBlankText s) :
    s = "" := by
  rw [← hs, stripBlanks, trim_eq_nil h]

theorem all_of_trim_eq_nil {cs : List Char} (h : trim p cs = []) : cs.all p := by
  cases hdrop : cs.dropWhile p with
  | nil => exact List.all_eq_true.mpr (fun c hc => List.dropWhile_eq_nil_iff.mp hdrop c hc)
  | cons c rest =>
      -- The first character that stays at the start stays at the end, too.
      have hc : ¬ p c := by
        have hhead := List.head?_dropWhile_not p cs
        rw [hdrop] at hhead
        simpa using hhead
      rw [trim, hdrop, trimEnd_eq_rdropWhile] at h
      exact absurd (List.rdropWhile_eq_nil_iff.mp h c List.mem_cons_self) hc

/-- What is trimmed starts with a character that stays. -/
theorem not_of_head?_trim {c : Char} {cs : List Char} (h : (trim p cs).head? = some c) :
    p c = false := by
  have hstart : (trim p cs).dropWhile p = trim p cs :=
    dropWhile_trimEnd (List.dropWhile_idempotent p cs)
  have hnot := List.head?_dropWhile_not p (trim p cs)
  rw [hstart, h] at hnot
  simpa using hnot

/-- A text is blank exactly if trimming leaves nothing of it. -/
theorem isEmpty_stripBlanks (s : String) : (stripBlanks s).isEmpty = isBlankText s := by
  rw [Bool.eq_iff_iff, String.isEmpty_iff]
  constructor
  · intro h
    exact all_of_trim_eq_nil (by simpa [stripBlanks] using h)
  · intro h
    rw [stripBlanks, trim_eq_nil h]

/-! ### Cutting -/

theorem dropPrefix?_append (start rest : String) : dropPrefix? start (start ++ rest) = some rest := by
  rw [dropPrefix?, String.toList_append, if_pos (List.isPrefixOf_iff_prefix.mpr ⟨_, rfl⟩),
    List.drop_left, String.ofList_toList]

theorem dropSuffix?_append (front ending : String) :
    dropSuffix? ending (front ++ ending) = some front := by
  rw [dropSuffix?, String.toList_append, if_pos (List.isSuffixOf_iff_suffix.mpr ⟨_, rfl⟩),
    List.length_append, Nat.add_sub_cancel, List.take_left, String.ofList_toList]

theorem dropSuffix?_eq_some {ending name base : String}
    (h : dropSuffix? ending name = some base) : name = base ++ ending := by
  unfold dropSuffix? at h
  split at h
  · next hends =>
    obtain rfl := Option.some.inj h
    apply String.toList_inj.mp
    rw [String.toList_append, String.toList_ofList]
    exact (List.suffix_iff_eq_append.mp (List.isSuffixOf_iff_suffix.mp hends)).symm
  · cases h

end Text
end ClientSynth
