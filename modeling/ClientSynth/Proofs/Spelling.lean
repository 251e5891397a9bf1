import ClientSynth.Code.Identifier
import ClientSynth.Proofs.Words

/-! # How identifiers are spelled

An identifier spells the words of a name and puts underscores around them: those that the
name has at its ends, where they are kept, and those that escaping adds.  A keyword gets
the mark of a raw identifier in front.  All of this can be read off an identifier again,
so two names have the same identifier exactly if they are spelled alike. -/
namespace ClientSynth
namespace Code
namespace Identifier

open Text

/-- The words of an identifier, and the underscores in front of them and behind them. -/
structure Spelling where
  before : Nat
  words : List (List Char)
  after : Nat
  deriving Repr, DecidableEq

namespace Spelling

/-- The identifier without the mark of a raw one. -/
def bare (s : Spelling) : List Char :=
  List.replicate s.before '_' ++ (joinWords s.words ++ List.replicate s.after '_')

/-- The identifier. -/
def text (s : Spelling) : String :=
  if keywords.contains (String.ofList s.bare) then "r#" ++ String.ofList s.bare
  else String.ofList s.bare

/-- Spellings that differ in text as soon as they differ: underscores that have no words
between them count as being in front. -/
structure IsRegular (s : Spelling) : Prop where
  isWord : ∀ w ∈ s.words, IsWord w
  no_hash : ∀ w ∈ s.words, '#' ∉ w
  after : s.words = [] → s.after = 0

end Spelling

/-! ### Reading a spelling back -/

theorem mem_joinWords {ws : List (List Char)} {c : Char} (h : c ∈ joinWords ws) :
    c = '_' ∨ ∃ w ∈ ws, c ∈ w := by
  induction ws with
  | nil => cases h
  | cons w ws ih =>
      by_cases hne : ws = []
      · subst hne
        exact Or.inr ⟨w, List.mem_cons_self, by simpa [joinWords] using h⟩
      · rw [joinWords_cons hne, List.mem_append, List.mem_cons] at h
        rcases h with hw | rfl | hws
        · exact Or.inr ⟨w, List.mem_cons_self, hw⟩
        · exact Or.inl rfl
        · rcases ih hws with hc | ⟨v, hv, hc⟩
          · exact Or.inl hc
          · exact Or.inr ⟨v, List.mem_cons_of_mem w hv, hc⟩

/-- Joined words begin with a character of the first one. -/
theorem joinWords_eq_cons {ws : List (List Char)} (h : ∀ w ∈ ws, IsWord w) (hne : ws ≠ []) :
    ∃ c cs, joinWords ws = c :: cs ∧ c ≠ '_' := by
  obtain ⟨w, rest, rfl⟩ := List.exists_cons_of_ne_nil hne
  have hw := h w List.mem_cons_self
  obtain ⟨c, cs, rfl⟩ := List.exists_cons_of_ne_nil hw.nonempty
  have hc : c ≠ '_' := by
    rintro rfl
    exact hw.no_underscore List.mem_cons_self
  by_cases hrest : rest = []
  · subst hrest
    exact ⟨c, cs, by simp [joinWords], hc⟩
  · exact ⟨c, cs ++ '_' :: joinWords rest, joinWords_cons hrest, hc⟩

theorem pieces_replicate_append (n : Nat) (cs : List Char) :
    pieces (List.replicate n '_' ++ cs) = pieces cs := by
  induction n with
  | zero => rfl
  | succ n ih => rw [List.replicate_succ, List.cons_append, pieces_underscore, ih]

theorem pieces_append_replicate (n : Nat) (cs : List Char) :
    pieces (cs ++ List.replicate n '_') = pieces cs := by
  induction n with
  | zero => rw [List.replicate_zero, List.append_nil]
  | succ n ih => rw [List.replicate_succ', ← List.append_assoc, pieces_concat, ih]

/-- An identifier without the mark of a raw one. -/
def rawless : List Char → List Char
  | 'r' :: '#' :: cs => cs
  | cs => cs

theorem rawless_of_no_hash {cs : List Char} (h : '#' ∉ cs) : rawless cs = cs := by
  unfold rawless
  split
  · exact absurd (List.mem_cons_of_mem _ List.mem_cons_self) h
  · rfl

namespace Spelling
variable {s t : Spelling}

theorem IsRegular.no_hash_bare (hs : s.IsRegular) : '#' ∉ s.bare := by
  intro hmem
  rw [bare, List.mem_append, List.mem_append] at hmem
  rcases hmem with hbefore | hwords | hafter
  · exact absurd (List.eq_of_mem_replicate hbefore) (by decide)
  · rcases mem_joinWords hwords with hc | ⟨w, hw, hc⟩
    · exact absurd hc (by decide)
    · exact hs.no_hash w hw hc
  · exact absurd (List.eq_of_mem_replicate hafter) (by decide)

theorem IsRegular.rawless_text (hs : s.IsRegular) : rawless s.text.toList = s.bare := by
  unfold text
  split
  · rw [String.toList_append]
    exact String.toList_ofList
  · rw [String.toList_ofList, rawless_of_no_hash hs.no_hash_bare]

theorem IsRegular.pieces_bare (hs : s.IsRegular) : pieces s.bare = s.words := by
  rw [bare, pieces_replicate_append, pieces_append_replicate, pieces_joinWords hs.isWord]

/-- As many underscores are read in front of a character that is none. -/
theorem replicate_append_inj {m n : Nat} {c : Char} (hc : c ≠ '_') {cs ds : List Char}
    (h : List.replicate m '_' ++ c :: cs = List.replicate n '_' ++ c :: ds) : m = n := by
  have hc : ¬ isUnderscore c = true := fun hunderscore => hc (eq_of_beq hunderscore)
  have htake : ∀ (k : Nat) (es : List Char),
      (List.replicate k '_' ++ c :: es).takeWhile isUnderscore = List.replicate k '_' := by
    intro k es
    rw [List.takeWhile_append_of_pos (fun d hd => by rw [List.eq_of_mem_replicate hd]; rfl),
      List.takeWhile_cons_of_neg hc, List.append_nil]
  have hsame := congrArg (fun es => (es.takeWhile isUnderscore).length) h
  simpa only [htake, List.length_replicate] using hsame

/-- **A spelling can be read off its text.** -/
theorem IsRegular.text_inj (hs : s.IsRegular) (ht : t.IsRegular) (h : s.text = t.text) : s = t := by
  have hbare : s.bare = t.bare := by rw [← hs.rawless_text, h, ht.rawless_text]
  have hwords : s.words = t.words := by rw [← hs.pieces_bare, hbare, ht.pieces_bare]
  obtain ⟨before, ws, after⟩ := s
  obtain ⟨before', vs, after'⟩ := t
  obtain rfl : ws = vs := hwords
  by_cases hne : ws = []
  · -- Nothing but the underscores in front is left.
    obtain rfl : after = 0 := hs.after hne
    obtain rfl : after' = 0 := ht.after hne
    have hlength := congrArg List.length hbare
    simp only [bare, List.length_append, List.length_replicate] at hlength
    rw [show before = before' by omega]
  · obtain ⟨c, cs, hjoin, hc⟩ := joinWords_eq_cons hs.isWord hne
    simp only [bare, hjoin, List.cons_append] at hbare
    obtain rfl : before = before' := replicate_append_inj hc hbare
    have hlength := congrArg List.length hbare
    simp only [List.length_append, List.length_cons, List.length_replicate] at hlength
    rw [show after = after' by omega]

end Spelling

/-! ### Functions -/

theorem underscore_not_mem_keyword : ∀ word ∈ keywords, '_' ∉ word.toList := by decide

/-- What has an underscore is no keyword. -/
theorem Spelling.text_of_mem {s : Spelling} (h : '_' ∈ s.bare) : s.text = String.ofList s.bare := by
  refine if_neg (fun hkeyword => ?_)
  have hno := underscore_not_mem_keyword _ (List.contains_iff_mem.mp hkeyword)
  rw [String.toList_ofList] at hno
  exact hno h

/-- The spelling that escaping gives to some words: an underscore stands for none at all,
behind a reserved word, and in front of a digit. -/
def escaped (ws : List (List Char)) : Spelling :=
  if ws = [] then ⟨1, [], 0⟩
  else if reserved.contains (String.ofList (joinWords ws)) then ⟨0, ws, 1⟩
  else if ((joinWords ws).head?.map Char.isDigit).getD false then ⟨1, ws, 0⟩
  else ⟨0, ws, 0⟩

theorem words_escaped (ws : List (List Char)) : (escaped ws).words = ws := by
  unfold escaped
  split
  · next hnil => exact hnil.symm
  · split
    · rfl
    · split <;> rfl

theorem after_escaped {ws : List (List Char)} (h : (escaped ws).words = []) :
    (escaped ws).after = 0 := by
  rw [words_escaped] at h
  rw [escaped, if_pos h]

theorem escape_joinWords {ws : List (List Char)} (h : ∀ w ∈ ws, IsWord w) :
    escape (String.ofList (joinWords ws)) = (escaped ws).text := by
  by_cases hne : ws = []
  · subst hne
    decide
  · obtain ⟨c, cs, hjoin, hc⟩ := joinWords_eq_cons h hne
    have hempty : (String.ofList (joinWords ws)).isEmpty = false := by simp [hjoin]
    rw [escape, hempty, if_neg Bool.false_ne_true, escaped, if_neg hne]
    split
    · rw [Spelling.text_of_mem (by simp [Spelling.bare])]
      simp [Spelling.bare, String.ofList_append]
    · split
      · next hkeyword =>
        -- No keyword begins with a digit, so the order of these two rules does not matter.
        have hdigit : ∀ word ∈ keywords,
            (word.toList.head?.map Char.isDigit).getD false = false := by decide
        have hstart := hdigit _ (List.contains_iff_mem.mp hkeyword)
        rw [String.toList_ofList] at hstart
        rw [hstart, if_neg Bool.false_ne_true]
        simp [Spelling.text, Spelling.bare, List.contains_iff_mem.mp hkeyword]
      · next hkeyword =>
        rw [String.toList_ofList]
        split
        · rw [Spelling.text_of_mem (by simp [Spelling.bare])]
          simp [Spelling.bare]
        · have hkeyword : String.ofList (joinWords ws) ∉ keywords := by simpa using hkeyword
          simp [Spelling.text, Spelling.bare, hkeyword]

theorem hash_not_mem_words {cs w : List Char} (hw : w ∈ words cs) : '#' ∉ w := by
  intro hmem
  exact symbol_not_mem_letters (by decide) (by decide) (by decide) (by decide) cs
    (mem_letters_of_mem_words hw hmem)

theorem isRegular_escaped (cs : List Char) : (escaped (words cs)).IsRegular where
  isWord := by
    rw [words_escaped]
    exact fun w hw => isWord_of_mem_words hw
  no_hash := by
    rw [words_escaped]
    exact fun w hw => hash_not_mem_words hw
  after := after_escaped

theorem functionName_eq (name : String) :
    functionName name = (escaped (words name.toList)).text := by
  rw [functionName, snakeCase, snakeChars_eq_joinWords,
    escape_joinWords (fun w hw => isWord_of_mem_words hw)]

/-- **Function names are alike exactly if they have the same words.** -/
theorem functionName_eq_iff {a b : String} :
    functionName a = functionName b ↔ words a.toList = words b.toList := by
  rw [functionName_eq, functionName_eq]
  constructor
  · intro h
    have hspelling := (isRegular_escaped a.toList).text_inj (isRegular_escaped b.toList) h
    rw [← words_escaped (words a.toList), hspelling, words_escaped]
  · intro h
    rw [h]

/-- Escaping tells nothing apart that snake case does not, and confuses nothing. -/
theorem functionName_eq_iff_snakeCase {a b : String} :
    functionName a = functionName b ↔ snakeCase a = snakeCase b := by
  rw [functionName_eq_iff, snakeCase_eq_iff]

/-! ### Variables -/

/-- The spelling of a variable's name. -/
def variableSpelling (name : String) : Spelling :=
  let cs := name.toList
  let before := (cs.takeWhile isUnderscore).length
  let after := (cs.reverse.takeWhile isUnderscore).length
  if cs.all isUnderscore then ⟨1, [], 0⟩
  else if before = 0 ∧ after = 0 then escaped (words cs)
  else if words cs = [] then ⟨before + after, [], 0⟩
  else ⟨before, words cs, after⟩

theorem takeWhile_underscore (cs : List Char) :
    cs.takeWhile isUnderscore = List.replicate (cs.takeWhile isUnderscore).length '_' := by
  refine List.eq_replicate_of_mem (fun c hc => ?_)
  have hunderscore : isUnderscore c = true := List.mem_takeWhile_imp hc
  exact eq_of_beq hunderscore

/-- A variable keeps the underscores around its words. -/
theorem toList_snakeIdent {name : String} (h : ¬ name.toList.all isUnderscore = true) :
    (snakeIdent name).toList =
      List.replicate (name.toList.takeWhile isUnderscore).length '_' ++
        (joinWords (words name.toList) ++
          List.replicate (name.toList.reverse.takeWhile isUnderscore).length '_') := by
  have hcore : ¬ trim isUnderscore name.toList = [] := fun hnil => h (all_of_trim_eq_nil hnil)
  rw [snakeIdent, String.toList_ofList, snakeIdentChars, if_neg hcore, snakeChars_eq_joinWords,
    words_trim, ← takeWhile_underscore, takeWhile_underscore name.toList.reverse,
    List.reverse_replicate, List.length_replicate, List.append_assoc]

theorem ends_joinWords_words (cs : List Char) :
    (joinWords (words cs)).head? ≠ some '_' ∧ (joinWords (words cs)).getLast? ≠ some '_' := by
  rw [← snakeChars_eq_joinWords]
  exact ⟨head?_trim_ne _, getLast?_trim_ne _⟩

/-- Of underscores put around words one stands at an end, if there are any. -/
theorem underscore_at_end (before after : Nat) (cs : List Char) (h : ¬ (before = 0 ∧ after = 0)) :
    (List.replicate before '_' ++ (cs ++ List.replicate after '_')).head? = some '_' ∨
      (List.replicate before '_' ++ (cs ++ List.replicate after '_')).getLast? = some '_' := by
  cases before with
  | succ n => exact Or.inl (by rw [List.replicate_succ]; rfl)
  | zero =>
      obtain ⟨n, rfl⟩ := Nat.exists_eq_succ_of_ne_zero (fun hafter => h ⟨rfl, hafter⟩)
      refine Or.inr ?_
      rw [List.replicate_succ', ← List.append_assoc, ← List.append_assoc, List.getLast?_concat]

theorem variableName_eq (name : String) : variableName name = (variableSpelling name).text := by
  unfold variableName variableSpelling
  dsimp only
  by_cases hall : name.toList.all isUnderscore = true
  · rw [if_pos hall, if_pos hall]
    decide
  rw [if_neg hall, if_neg hall]
  have hident := toList_snakeIdent hall
  generalize (name.toList.takeWhile isUnderscore).length = before at hident ⊢
  generalize (name.toList.reverse.takeWhile isUnderscore).length = after at hident ⊢
  by_cases hends : before = 0 ∧ after = 0
  · obtain ⟨rfl, rfl⟩ := hends
    -- Words alone neither begin nor end with an underscore, and are escaped.
    have hident : (snakeIdent name).toList = joinWords (words name.toList) := by
      simpa using hident
    have hplain : ¬ ((snakeIdent name).toList.head? = some '_' ∨
        (snakeIdent name).toList.getLast? = some '_') := by
      rw [hident]
      exact not_or.mpr (ends_joinWords_words _)
    rw [if_neg hplain, if_pos ⟨rfl, rfl⟩,
      ← escape_joinWords (fun w hw => isWord_of_mem_words hw), ← hident, String.ofList_toList]
  · -- The name has underscores at an end, which stay and rule out a keyword.
    have hkept := underscore_at_end before after (joinWords (words name.toList)) hends
    rw [← hident] at hkept
    have hmem : '_' ∈ (snakeIdent name).toList := by
      rcases hkept with hhead | hlast
      · exact List.mem_of_head? hhead
      · exact List.mem_of_getLast? hlast
    rw [if_pos hkept, if_neg hends]
    split
    · next hnil =>
      have hbare : (snakeIdent name).toList = Spelling.bare ⟨before + after, [], 0⟩ := by
        rw [hident, hnil, Spelling.bare, List.replicate_add]
        simp [joinWords]
      rw [Spelling.text_of_mem (hbare ▸ hmem), ← hbare, String.ofList_toList]
    · have hbare : (snakeIdent name).toList = Spelling.bare ⟨before, words name.toList, after⟩ :=
        hident
      rw [Spelling.text_of_mem (hbare ▸ hmem), ← hbare, String.ofList_toList]

theorem isRegular_variableSpelling (name : String) : (variableSpelling name).IsRegular := by
  unfold variableSpelling
  dsimp only
  split
  · exact ⟨fun w hw => (List.not_mem_nil hw).elim, fun w hw => (List.not_mem_nil hw).elim,
      fun _ => rfl⟩
  · split
    · exact isRegular_escaped name.toList
    · split
      · exact ⟨fun w hw => (List.not_mem_nil hw).elim, fun w hw => (List.not_mem_nil hw).elim,
          fun _ => rfl⟩
      · next hne =>
        exact ⟨fun w hw => isWord_of_mem_words hw, fun w hw => hash_not_mem_words hw,
          fun hnil => absurd hnil hne⟩

/-- **Variables are alike exactly if they are spelled alike.** -/
theorem variableName_eq_iff {a b : String} :
    variableName a = variableName b ↔ variableSpelling a = variableSpelling b := by
  rw [variableName_eq, variableName_eq]
  constructor
  · exact (isRegular_variableSpelling a).text_inj (isRegular_variableSpelling b)
  · intro h
    rw [h]

end Identifier
end Code
end ClientSynth
