import ClientSynth.Proofs.Words

/-! # Snake case of a name between words

A word of lowercase letters and digits is its own snake case.  Between two such words and
two underscores, a name of any characters keeps its snake case, and leaves only the words
around it if it has none. -/
namespace ClientSynth
namespace Text

/-- Letters and digits that are no uppercase letters. -/
def AreLower (cs : List Char) : Prop := ∀ c ∈ cs, isUpper c = false ∧ isAlphanumeric c = true

-- The test goes through the list; that there are finitely many characters is no help here.
instance (cs : List Char) : Decidable (AreLower cs) := List.decidableBAll _ cs

theorem AreLower.no_underscore {cs : List Char} (h : AreLower cs) : '_' ∉ cs := by
  intro hmem
  exact ne_underscore_of_isAlphanumeric (h '_' hmem).2 rfl

theorem marked_of_areLower {cs : List Char} (h : AreLower cs) (prev : Option Char) :
    marked prev cs = cs := by
  induction cs generalizing prev with
  | nil => rfl
  | cons c cs ih =>
      obtain ⟨hupper, halnum⟩ := h c List.mem_cons_self
      have hmark : mark prev cs.head? c = [c] := by simp [mark, hupper, halnum]
      rw [marked_cons, hmark, ih (fun d hd => h d (List.mem_cons_of_mem c hd))]
      rfl

theorem words_of_areLower {cs : List Char} (h : AreLower cs) (hne : cs ≠ []) : words cs = [cs] := by
  rw [words, marked_of_areLower h, pieces_of_not_mem h.no_underscore hne]

/-! ### Plain characters -/

/-- Lowercase letters and digits of ASCII. -/
def isPlain (c : Char) : Bool := c.isLower || c.isDigit

theorem isAscii_of_isPlain {c : Char} (h : isPlain c = true) : isAscii c = true := by
  refine decide_eq_true ?_
  rcases (Bool.or_eq_true _ _).mp h with h | h
  · have hrange : (decide (c.val ≥ 97) && decide (c.val ≤ 122)) = true := h
    have hle : c.val ≤ 122 := of_decide_eq_true (Bool.and_eq_true_iff.mp hrange).2
    exact Nat.lt_of_le_of_lt (UInt32.le_iff_toNat_le.mp hle) (by decide)
  · have hrange : (decide (c.val ≥ 48) && decide (c.val ≤ 57)) = true := h
    have hle : c.val ≤ 57 := of_decide_eq_true (Bool.and_eq_true_iff.mp hrange).2
    exact Nat.lt_of_le_of_lt (UInt32.le_iff_toNat_le.mp hle) (by decide)

/-- A plain character is no uppercase letter and ends a word, and as a letter it has one
uppercase form, of which it is the lowercase form. -/
theorem of_isPlain {c : Char} (h : isPlain c = true) :
    (isUpper c = false ∧ isAlphanumeric c = true ∧ (isLower c || c.isDigit) = true) ∧
      (c.isLower = true →
        toUpper c = [c.toUpper] ∧ isUpper c.toUpper = true ∧ toLower c.toUpper = [c]) :=
  forall_ascii (P := fun c => isPlain c = true →
      (isUpper c = false ∧ isAlphanumeric c = true ∧ (isLower c || c.isDigit) = true) ∧
        (c.isLower = true →
          toUpper c = [c.toUpper] ∧ isUpper c.toUpper = true ∧ toLower c.toUpper = [c]))
    (by decide +kernel) c (isAscii_of_isPlain h) h

/-- Plain characters need not be marked. -/
theorem areLower_of_isPlain {cs : List Char} (h : ∀ c ∈ cs, isPlain c = true) : AreLower cs :=
  fun c hc => ⟨(of_isPlain (h c hc)).1.1, (of_isPlain (h c hc)).1.2.1⟩

/-! ### Names between words -/

/-- Characters and the underscore that separates them from a word behind them. -/
def linked (cs : List Char) : List Char := if cs = [] then [] else cs ++ ['_']

theorem joinWords_concat {ws : List (List Char)} (h : ∀ w ∈ ws, IsWord w) (w : List Char) :
    joinWords (ws ++ [w]) = linked (joinWords ws) ++ w := by
  by_cases hne : ws = []
  · subst hne
    simp [joinWords, linked]
  · have hjoin : joinWords ws ≠ [] := by
      intro hnil
      have hpieces := pieces_joinWords h
      rw [hnil] at hpieces
      exact hne hpieces.symm
    rw [linked, if_neg hjoin, joinWords_append hne (List.cons_ne_nil w [])]
    simp [joinWords]

/-- **Snake case of a name between two words.** -/
theorem snakeChars_between {front back : List Char} (hfront : AreLower front)
    (hback : AreLower back) (hfront' : front ≠ []) (hback' : back ≠ []) (cs : List Char) :
    snakeChars (front ++ '_' :: (cs ++ '_' :: back)) =
      front ++ '_' :: (linked (snakeChars cs) ++ back) := by
  have hwords : words (front ++ '_' :: (cs ++ '_' :: back)) = front :: (words cs ++ [back]) := by
    rw [words_append, words_append, words_of_areLower hfront hfront',
      words_of_areLower hback hback', List.singleton_append]
  have hne : words cs ++ [back] ≠ [] := List.append_ne_nil_of_right_ne_nil _ (List.cons_ne_nil _ _)
  rw [snakeChars_eq_joinWords, hwords, joinWords_cons hne,
    joinWords_concat (fun w hw => isWord_of_mem_words hw), snakeChars_eq_joinWords]

end Text
end ClientSynth
