import ClientSynth.Proofs.SnakeCase

/-! # The form of snake case

Snake case has single underscores between its words and none at its ends, and without them it
is the letters of the name.  So nothing of a name is lost but its case, its symbols and where
its underscores were.  The snake case of an ASCII name is in lowercase, and its words are found
again in it: it is its own snake case. -/
namespace ClientSynth
namespace Text

/-! ### Letters -/

/-- The letters of a name hold no underscore, so none of them is lost with the underscores. -/
theorem underscore_not_mem_letters (cs : List Char) : '_' ∉ letters cs :=
  symbol_not_mem_letters (by decide) (by decide) (by decide) (by decide) cs

theorem joinedLetters_letters (cs : List Char) : joinedLetters (letters cs) = letters cs := by
  apply List.filter_eq_self.mpr
  intro c hc
  have hne : c ≠ '_' := by
    rintro rfl
    exact underscore_not_mem_letters cs hc
  simpa [isUnderscore] using hne

/-! ### ASCII names -/

theorem isPlain_of_mem_toLower {c d : Char} (hascii : isAscii c = true) (hupper : isUpper c = true)
    (hd : d ∈ toLower c) : isPlain d = true := by
  have hlower := forall_ascii (P := fun c => isUpper c = true → isPlain c.toLower = true)
    (by decide +kernel) c hascii hupper
  rw [toLower, if_pos hascii, List.mem_singleton] at hd
  rwa [hd]

theorem isPlain_of_not_upper {c : Char} (hascii : isAscii c = true) (hupper : ¬ isUpper c = true)
    (halnum : isAlphanumeric c = true) : isPlain c = true :=
  forall_ascii (P := fun c => ¬ isUpper c = true → isAlphanumeric c = true → isPlain c = true)
    (by decide +kernel) c hascii hupper halnum

/-- The words of an ASCII name are plain. -/
theorem isPlain_of_mem_words {cs w : List Char} (h : ∀ c ∈ cs, isAscii c = true)
    (hw : w ∈ words cs) : ∀ d ∈ w, isPlain d = true := by
  intro d hd
  obtain ⟨c, hc, ⟨hupper, hlower⟩ | ⟨hupper, halnum, rfl⟩⟩ :=
    mem_letters (mem_letters_of_mem_words hw hd)
  · exact isPlain_of_mem_toLower (h c hc) hupper hlower
  · exact isPlain_of_not_upper (h d hc) hupper halnum

/-- Words in lowercase are found again in the text they are joined to. -/
theorem words_joinWords {ws : List (List Char)} (hws : ∀ w ∈ ws, w ≠ [] ∧ AreLower w) :
    words (joinWords ws) = ws := by
  induction ws with
  | nil => rfl
  | cons w ws ih =>
    obtain ⟨⟨hne, hlower⟩, hrest⟩ := List.forall_mem_cons.mp hws
    by_cases hnil : ws = []
    · subst hnil
      rw [joinWords, List.intercalate_singleton, words_of_areLower hlower hne]
    · rw [joinWords_cons hnil, words_append, words_of_areLower hlower hne, ih hrest]
      rfl

theorem snakeChars_snakeChars {cs : List Char} (h : ∀ c ∈ cs, isAscii c = true) :
    snakeChars (snakeChars cs) = snakeChars cs := by
  have hwords : ∀ w ∈ words cs, w ≠ [] ∧ AreLower w := by
    intro w hw
    have hplain := isPlain_of_mem_words h hw
    exact ⟨(isWord_of_mem_words hw).nonempty, areLower_of_isPlain hplain⟩
  rw [snakeChars_eq_joinWords cs, snakeChars_eq_joinWords, words_joinWords hwords]

/-! ### Snake case -/

/-- What makes a text the snake case of a name. -/
structure IsSnakeCaseOf (name text : String) : Prop where
  head : text.toList.head? ≠ some '_'
  last : text.toList.getLast? ≠ some '_'
  /-- No two underscores stand in a row. -/
  single : text.toList.IsChain Apart
  /-- Without its underscores the text is the letters of the name, in their order. -/
  letters : joinedLetters text.toList = letters name.toList
  /-- An ASCII name has the same snake case as its snake case. -/
  stable : (∀ c ∈ name.toList, isAscii c = true) → snakeCase text = text

/-- **Snake case has its form whatever the name**, keeps the letters, and does not change what
is an ASCII name's snake case already. -/
theorem isSnakeCaseOf_snakeCase (name : String) : IsSnakeCaseOf name (snakeCase name) where
  head := by
    rw [snakeCase, String.toList_ofList]
    exact head?_trim_ne _
  last := by
    rw [snakeCase, String.toList_ofList]
    exact getLast?_trim_ne _
  single := by
    rw [snakeCase, String.toList_ofList]
    exact isChain_trim (isChain_reverse_snakeFrom _)
  letters := by
    rw [snakeCase, String.toList_ofList, joinedLetters_snakeChars, joinedLetters_letters]
  stable h := by
    rw [snakeCase, snakeCase, String.toList_ofList]
    exact congrArg String.ofList (snakeChars_snakeChars h)

example : snakeCase "getHTTPResponse-2.Code" = "get_http_response_2_code" := by decide

/-- Beyond ASCII a lowercase form may hold a mark that is dropped when it is read again. -/
example : snakeCase (snakeCase "\u0130") ≠ snakeCase "\u0130" := by decide +kernel

end Text
end ClientSynth
