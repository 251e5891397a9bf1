import ClientSynth.Proofs.CodeReader
import ClientSynth.Proofs.IdentifierForm

/-! # Names in code

Identifiers and paths as what is read of them.  An identifier is one word, and never a
keyword: a name that spells one gets the mark of its raw form.  A path is a word or several
ones with two colons between them. -/
namespace ClientSynth
namespace Text
variable {c d : Char}

/-! ### Lowercase forms -/

theorem isWordChar_of_not_ascii (h : isAscii c = false) : Code.isWordChar c = true := by
  rw [Code.isWordChar, h]
  rfl

theorem isAscii_ofNat {n : Nat} (hn : 127 < n) (hvalid : n.isValidChar) :
    isAscii (Char.ofNat n) = false := by
  rw [Char.ofNat, dif_pos hvalid]
  exact decide_eq_false (Nat.not_lt.mpr hn)

/-- The image of a run stays among the characters that are not ASCII, or is one letter. -/
def ShiftRun.StaysLetter (r : ShiftRun) : Prop :=
  (127 < r.run.first + r.shift ∧ r.run.last + r.shift < 0xD800) ∨
    (0xDFFF < r.run.first + r.shift ∧ r.run.last + r.shift < 0x110000) ∨
    (r.run.first = r.run.last ∧
      Code.isWordChar (Char.ofNat (Int.ofNat r.run.first + r.shift).toNat) = true)

instance (r : ShiftRun) : Decidable r.StaysLetter := by
  unfold ShiftRun.StaysLetter
  infer_instance

theorem staysLetter_lowerShifts : ∀ r ∈ lowerShifts, r.StaysLetter := by decide +kernel

theorem isWordChar_shifted {r : ShiftRun} (hr : r ∈ lowerShifts) {n : Nat}
    (hcontains : r.run.contains n = true) :
    Code.isWordChar (Char.ofNat (Int.ofNat n + r.shift).toNat) = true := by
  simp only [Run.contains, Bool.and_eq_true, decide_eq_true_eq] at hcontains
  obtain ⟨⟨hfirst, hlast⟩, -⟩ := hcontains
  rcases staysLetter_lowerShifts r hr with h | h | ⟨heq, h⟩
  · exact isWordChar_of_not_ascii (isAscii_ofNat (by simp only [Int.ofNat_eq_natCast]; omega)
      (.inl (by simp only [Int.ofNat_eq_natCast]; omega)))
  · exact isWordChar_of_not_ascii (isAscii_ofNat (by simp only [Int.ofNat_eq_natCast]; omega)
      (.inr ⟨by simp only [Int.ofNat_eq_natCast]; omega,
        by simp only [Int.ofNat_eq_natCast]; omega⟩))
  · rwa [show n = r.run.first by omega]

/-- Lowercase forms of capitals stand in words. -/
theorem isWordChar_of_mem_toLower (hupper : isUpper c = true) (hd : d ∈ toLower c) :
    Code.isWordChar d = true := by
  rcases mem_toLower hd with ⟨hascii, -⟩ | ⟨p, hp, n, hn, rfl⟩ | ⟨r, hr, hcontains, rfl⟩ |
    ⟨hascii, rfl⟩
  · have hplain := isPlain_of_mem_toLower hascii hupper hd
    rcases Code.Identifier.isNameChar_of_isPlain hplain with halnum | rfl
    · simp [Code.isWordChar, halnum]
    · rfl
  · have hall : ∀ p ∈ lowerExpansions, ∀ n ∈ p.2, Code.isWordChar (Char.ofNat n) = true := by
      decide +kernel
    exact hall p hp n hn
  · exact isWordChar_shifted hr hcontains
  · exact isWordChar_of_not_ascii hascii

theorem isWordChar_of_isAlphanumeric (h : isAlphanumeric c = true) :
    Code.isWordChar c = true := by
  by_cases hascii : isAscii c = true
  · rw [isAlphanumeric, if_pos hascii] at h
    simp [Code.isWordChar, h]
  · exact isWordChar_of_not_ascii (Bool.eq_false_iff.mpr hascii)

theorem isWordChar_of_mem_words {cs w : List Char} (hw : w ∈ words cs) (hd : d ∈ w) :
    Code.isWordChar d = true := by
  obtain ⟨c, -, ⟨hupper, hlower⟩ | ⟨-, halnum, rfl⟩⟩ :=
    mem_letters (mem_letters_of_mem_words hw hd)
  · exact isWordChar_of_mem_toLower hupper hlower
  · exact isWordChar_of_isAlphanumeric halnum

end Text

namespace Code

open Text

/-! ### Identifiers -/

/-- A word that is no keyword. -/
def isSegment (word : String) : Bool :=
  !word.isEmpty && word.toList.all isWordChar && !Identifier.keywords.contains word

namespace Identifier

theorem isWordChar_of_mem_bare {s : Spelling} {cs : List Char}
    (hwords : s.words = words cs ∨ s.words = []) {d : Char} (hd : d ∈ s.bare) :
    isWordChar d = true := by
  rw [Spelling.bare, List.mem_append, List.mem_append] at hd
  rcases hd with hd | hd | hd
  · rw [List.eq_of_mem_replicate hd]
    rfl
  · rcases hwords with hwords | hwords
    · rw [hwords] at hd
      rcases mem_joinWords hd with rfl | ⟨w, hw, hd⟩
      · rfl
      · exact isWordChar_of_mem_words hw hd
    · rw [hwords] at hd
      cases hd
  · rw [List.eq_of_mem_replicate hd]
    rfl

/-- The raw form of a keyword is no keyword. -/
theorem raw_not_keyword : ∀ word ∈ keywords, isSegment ("r#" ++ word) = true := by decide +kernel

theorem isSegment_text {s : Spelling} (hne : s.bare ≠ [])
    (hchars : ∀ d ∈ s.bare, isWordChar d = true) : isSegment s.text = true := by
  unfold Spelling.text
  split
  · next hkeyword => exact raw_not_keyword _ (List.contains_iff_mem.mp hkeyword)
  · next hkeyword =>
    have hkeyword : keywords.contains (String.ofList s.bare) = false := by simpa using hkeyword
    have hempty : (String.ofList s.bare).isEmpty = false := by simpa using hne
    have hall : s.bare.all isWordChar = true := List.all_eq_true.mpr hchars
    rw [isSegment, hkeyword, hempty, String.toList_ofList, hall]
    rfl

/-- **A function's identifier is one word and no keyword.** -/
theorem isSegment_functionName (name : String) : isSegment (functionName name) = true := by
  have hwords : ∀ w ∈ words name.toList, IsWord w := fun w hw => isWord_of_mem_words hw
  rw [functionName_eq]
  exact isSegment_text (isEscaped_escaped hwords).nonempty
    fun d => isWordChar_of_mem_bare (.inl (words_escaped _))

/-- **A variable's identifier is one word and no keyword.** -/
theorem isSegment_variableName (name : String) : isSegment (variableName name) = true := by
  rw [variableName_eq]
  exact isSegment_text (isVariableForm_variableSpelling name).nonempty
    fun d => isWordChar_of_mem_bare (words_variableSpelling name)

end Identifier

/-! ### Words and paths -/

theorem spells_of_isSegment {word : String} (h : isSegment word = true) :
    Spells word [.word word] := by
  simp only [isSegment, Bool.and_eq_true, Bool.not_eq_true', String.isEmpty_eq_false_iff] at h
  exact spells_word h.1.1 h.1.2

theorem not_keyword_of_isSegment {word : String} (h : isSegment word = true) :
    Identifier.keywords.contains word = false := by
  simp only [isSegment, Bool.and_eq_true, Bool.not_eq_true'] at h
  exact h.2

/-- A path: words with two colons between them. -/
inductive IsPath : String → Prop where
  | word {word : String} : isSegment word = true → IsPath word
  | inside {path word : String} : IsPath path → isSegment word = true →
      IsPath (path ++ "::" ++ word)

/-- What a path consists of. -/
theorem IsPath.isWordChar_or {code : String} (h : IsPath code) :
    ∀ c ∈ code.toList, isWordChar c = true ∨ c = ':' := by
  induction h with
  | word hword =>
    simp only [isSegment, Bool.and_eq_true] at hword
    exact fun c hc => .inl (List.all_eq_true.mp hword.1.2 c hc)
  | inside _ hword ih =>
    simp only [isSegment, Bool.and_eq_true] at hword
    intro c hc
    rw [String.toList_append, String.toList_append, List.mem_append, List.mem_append] at hc
    rcases hc with (hc | hc) | hc
    · exact ih c hc
    · exact .inr (by simpa using hc)
    · exact .inl (List.all_eq_true.mp hword.1.2 c hc)

/-- The trees of code that stands as it is. -/
def fragmentTrees (code : String) : List Tree := (treesOf code).getD []

theorem Spells.fragmentTrees_eq {code : String} {ts : List Tree} (h : Spells code ts) :
    fragmentTrees code = ts := by
  rw [fragmentTrees, h.treesOf_eq]
  rfl

theorem encloses_colon : Encloses ":" [.mark ':'] := encloses_mark (by decide) rfl

theorem encloses_colons : Encloses "::" [.mark ':', .mark ':'] :=
  Encloses.append (s := ":") (t := ":") encloses_colon encloses_colon

/-- What a path is read as: its first word, with the others behind it. -/
structure PathForm (code first : String) (more : List Tree) : Prop where
  spells : Spells code (.word first :: more)
  not_keyword : Identifier.keywords.contains first = false
  depth_eq : Reader.depth more = 0
  read : ∀ rest, Reader.pathFrom first (more ++ rest) = Reader.pathFrom code rest

theorem Reader.depth_append (ts us : List Tree) : depth (ts ++ us) = max (depth ts) (depth us) := by
  induction ts with
  | nil => simp [depth]
  | cons t ts ih => rw [List.cons_append, depth, ih, depth, Nat.max_assoc]

theorem IsPath.exists_form {code : String} (h : IsPath code) :
    ∃ first more, PathForm code first more := by
  induction h with
  | @word word hword =>
    exact ⟨word, [], spells_of_isSegment hword, not_keyword_of_isSegment hword,
      by rw [Reader.depth], fun _ => rfl⟩
  | @inside path word hpath hword ih =>
    obtain ⟨first, more, hform⟩ := ih
    refine ⟨first, more ++ [.mark ':', .mark ':', .word word], ?_, hform.not_keyword, ?_, ?_⟩
    · have hcolons := hform.spells.append_encloses encloses_colons (by decide)
      simpa using hcolons.append_spells (spells_of_isSegment hword)
    · simp [Reader.depth_append, hform.depth_eq, Reader.depth, Reader.treeDepth]
    · intro rest
      rw [List.append_assoc, hform.read]
      rfl

end Code
end ClientSynth
