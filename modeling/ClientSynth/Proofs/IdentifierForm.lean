import ClientSynth.Proofs.SnakeForm
import ClientSynth.Proofs.Spelling

/-! # The form of identifiers

What the language takes for an identifier: letters, digits and underscores that do not begin
with a digit, and no keyword unless it is in its raw form.  The spelling of a name decides
whether it has this form.  Escaping puts an underscore in front of a digit, and then nothing
is wrong: the function of an ASCII name has this form, whatever the name.  But a variable whose
name ends with underscores is not escaped, and keeps the digit at its start. -/
namespace ClientSynth
namespace Code
namespace Identifier

open Text

/-! ### Keywords -/

/-- Words that the language gives a meaning. -/
def strictKeywords : List String :=
  ["as", "async", "await", "break", "const", "continue", "crate", "dyn", "else", "enum", "extern",
    "false", "fn", "for", "if", "impl", "in", "let", "loop", "match", "mod", "move", "mut", "pub",
    "ref", "return", "self", "Self", "static", "struct", "super", "trait", "true", "type",
    "unsafe", "use", "where", "while"]

/-- Words that are set aside for a meaning to come. -/
def futureKeywords : List String :=
  ["abstract", "become", "box", "do", "final", "macro", "override", "priv", "try", "typeof",
    "unsized", "virtual", "yield"]

/-- Words that begin a path, and keep that meaning in any form. -/
def pathKeywords : List String := ["crate", "self", "Self", "super"]

/-- A word that is no name. -/
def IsKeyword (word : String) : Prop := word ∈ strictKeywords ∨ word ∈ futureKeywords

/-- A word that is a name in its raw form. -/
def HasRawForm (word : String) : Prop := IsKeyword word ∧ word ∉ pathKeywords

/-- The words that are escaped are those with a raw form. -/
theorem mem_keywords_iff {word : String} : word ∈ keywords ↔ HasRawForm word := by
  have hraw : ∀ word ∈ keywords, (word ∈ strictKeywords ∨ word ∈ futureKeywords) ∧
      word ∉ pathKeywords := by decide +kernel
  have hstrict : ∀ word ∈ strictKeywords, word ∉ pathKeywords → word ∈ keywords := by
    decide +kernel
  have hfuture : ∀ word ∈ futureKeywords, word ∈ keywords := by decide +kernel
  constructor
  · exact hraw word
  · rintro ⟨hword | hword, hpath⟩
    · exact hstrict word hword hpath
    · exact hfuture word hword

/-- The words that cannot be escaped are the others. -/
theorem mem_reserved_iff {word : String} :
    word ∈ reserved ↔ IsKeyword word ∧ ¬ HasRawForm word := by
  have hkept : ∀ word ∈ reserved, word ∈ strictKeywords ∧ word ∈ pathKeywords := by decide +kernel
  have hpaths : ∀ word ∈ pathKeywords, word ∈ reserved := by decide +kernel
  constructor
  · intro hword
    obtain ⟨hstrict, hpath⟩ := hkept word hword
    exact ⟨.inl hstrict, fun hraw => hraw.2 hpath⟩
  · rintro ⟨hkeyword, hnone⟩
    exact hpaths word (by_contra fun hpath => hnone ⟨hkeyword, hpath⟩)

/-- What is in neither table is no keyword. -/
theorem not_isKeyword {word : String} (hkeyword : word ∉ keywords) (hreserved : word ∉ reserved) :
    ¬ IsKeyword word := by
  intro hword
  by_cases hraw : HasRawForm word
  · exact hkeyword (mem_keywords_iff.mpr hraw)
  · exact hreserved (mem_reserved_iff.mpr ⟨hword, hraw⟩)

/-! ### The form -/

/-- What an identifier consists of. -/
def IsNameChar (c : Char) : Prop := c.isAlphanum = true ∨ c = '_'

/-- Letters, digits and underscores, of which the first is no digit. -/
structure IsNameForm (cs : List Char) : Prop where
  nonempty : cs ≠ []
  isNameChar : ∀ c ∈ cs, IsNameChar c
  head : ∀ c, cs.head? = some c → c.isDigit = false

/-- An identifier of the language. -/
inductive IsIdentifier : String → Prop where
  /-- A single underscore is none, and neither is a word with a meaning of its own. -/
  | plain {name : String} : IsNameForm name.toList → name ≠ "_" → ¬ IsKeyword name →
      IsIdentifier name
  /-- The raw form of a keyword that has one. -/
  | raw {word : String} : HasRawForm word → IsIdentifier ("r#" ++ word)

/-- What can stand for a variable: an identifier, or the wildcard. -/
def IsPattern (text : String) : Prop := text = "_" ∨ IsIdentifier text

theorem IsPattern.head {text : String} (h : IsPattern text) (c : Char)
    (hc : text.toList.head? = some c) : c.isDigit = false := by
  rcases h with rfl | hident
  · cases hc
    rfl
  · cases hident with
    | plain hform => exact hform.head c hc
    | raw hword =>
      rw [String.toList_append] at hc
      cases hc
      rfl

/-- All characters of a name are ASCII. -/
def IsAsciiName (name : String) : Prop := ∀ c ∈ name.toList, isAscii c = true

instance (name : String) : Decidable (IsAsciiName name) :=
  List.decidableBAll _ _

/-! ### Spellings -/

theorem head_digit_of_keyword : ∀ word ∈ keywords,
    (word.toList.head?.map Char.isDigit).getD false = false := by decide

theorem underscore_not_mem_reserved : ∀ word ∈ reserved, '_' ∉ word.toList := by decide

namespace Spelling
variable {s : Spelling}

/-- **A spelling that is written in letters, digits and underscores has the form of a
variable**, exactly if it does not begin with a digit. -/
theorem isPattern_text_iff (hchars : ∀ c ∈ s.bare, IsNameChar c) (hne : s.bare ≠ [])
    (hreserved : String.ofList s.bare ∉ reserved) :
    IsPattern s.text ↔ ∀ c, s.bare.head? = some c → c.isDigit = false := by
  unfold text
  split
  · next hkeyword =>
    have hmem := List.contains_iff_mem.mp hkeyword
    refine ⟨fun _ c hc => ?_, fun _ => .inr (.raw (mem_keywords_iff.mp hmem))⟩
    have hhead := head_digit_of_keyword _ hmem
    rw [String.toList_ofList, hc] at hhead
    exact hhead
  · next hkeyword =>
    constructor
    · intro hpattern c hc
      exact hpattern.head c (by rwa [String.toList_ofList])
    · intro hhead
      by_cases hwild : String.ofList s.bare = "_"
      · exact .inl hwild
      · refine .inr (.plain ?_ hwild (not_isKeyword (by simpa using hkeyword) hreserved))
        rw [String.toList_ofList]
        exact ⟨hne, hchars, hhead⟩

end Spelling

/-! ### ASCII names -/

theorem isNameChar_of_isPlain {c : Char} (h : isPlain c = true) : IsNameChar c := by
  have halnum := forall_ascii (P := fun c => isPlain c = true → c.isAlphanum = true)
    (by decide +kernel) c (isAscii_of_isPlain h) h
  exact .inl halnum

/-- The words of an ASCII name are written in letters and digits. -/
theorem isNameChar_of_mem_joinWords {cs : List Char} (h : ∀ c ∈ cs, isAscii c = true) {d : Char}
    (hd : d ∈ joinWords (words cs)) : IsNameChar d := by
  rcases mem_joinWords hd with hd | ⟨w, hw, hd⟩
  · exact .inr hd
  · exact isNameChar_of_isPlain (isPlain_of_mem_words h hw d hd)

theorem isNameChar_of_mem_bare {s : Spelling} {cs : List Char} (h : ∀ c ∈ cs, isAscii c = true)
    (hwords : s.words = words cs ∨ s.words = []) {d : Char} (hd : d ∈ s.bare) : IsNameChar d := by
  rw [Spelling.bare, List.mem_append, List.mem_append] at hd
  rcases hd with hd | hd | hd
  · exact .inr (List.eq_of_mem_replicate hd)
  · rcases hwords with hwords | hwords
    · exact isNameChar_of_mem_joinWords h (hwords ▸ hd)
    · rw [hwords] at hd
      cases hd
  · exact .inr (List.eq_of_mem_replicate hd)

/-! ### What escaping sees to -/

/-- A spelling that is no reserved word, and does not begin with a digit. -/
structure Spelling.IsEscaped (s : Spelling) : Prop where
  nonempty : s.bare ≠ []
  not_reserved : String.ofList s.bare ∉ reserved
  head : ∀ c, s.bare.head? = some c → c.isDigit = false

theorem head_digit_of_reserved : ∀ word ∈ reserved,
    (word.toList.head?.map Char.isDigit).getD false = false := by decide

theorem not_mem_reserved_of_mem {cs : List Char} (h : '_' ∈ cs) : String.ofList cs ∉ reserved := by
  intro hmem
  have hno := underscore_not_mem_reserved _ hmem
  rw [String.toList_ofList] at hno
  exact hno h

/-- An underscore in front is enough. -/
theorem isEscaped_of_before {s : Spelling} (h : s.before ≠ 0) : s.IsEscaped := by
  obtain ⟨n, hn⟩ := Nat.exists_eq_succ_of_ne_zero h
  have hbare : s.bare =
      '_' :: (List.replicate n '_' ++ (joinWords s.words ++ List.replicate s.after '_')) := by
    rw [Spelling.bare, hn]
    rfl
  refine ⟨by rw [hbare]; exact List.cons_ne_nil _ _, ?_, fun c hc => ?_⟩
  · exact not_mem_reserved_of_mem (hbare ▸ List.mem_cons_self)
  · rw [hbare] at hc
    cases hc
    rfl

theorem isEscaped_escaped {ws : List (List Char)} (h : ∀ w ∈ ws, IsWord w) :
    (escaped ws).IsEscaped := by
  unfold escaped
  split
  · exact isEscaped_of_before Nat.one_ne_zero
  next hne =>
  obtain ⟨c, cs, hjoin, -⟩ := joinWords_eq_cons h hne
  split
  · next hreserved =>
    -- A reserved word does not begin with a digit, and gets an underscore behind it.
    have hbare : Spelling.bare ⟨0, ws, 1⟩ = joinWords ws ++ ['_'] := rfl
    refine ⟨by rw [hbare]; simp, ?_, fun d hd => ?_⟩
    · exact not_mem_reserved_of_mem (hbare ▸ List.mem_append_right _ List.mem_cons_self)
    · have hhead := head_digit_of_reserved _ (List.contains_iff_mem.mp hreserved)
      rw [hbare, hjoin] at hd
      cases hd
      rwa [String.toList_ofList, hjoin] at hhead
  · next hreserved =>
    split
    · exact isEscaped_of_before Nat.one_ne_zero
    · next hdigit =>
      have hbare : Spelling.bare ⟨0, ws, 0⟩ = joinWords ws := List.append_nil _
      refine ⟨by rw [hbare, hjoin]; exact List.cons_ne_nil _ _, ?_, fun d hd => ?_⟩
      · rw [hbare]
        simpa using hreserved
      · rw [hbare] at hd
        rw [hd] at hdigit
        simpa using hdigit

/-! ### Functions -/

/-- The function of an ASCII name is an identifier, or an underscore if it has no words. -/
theorem isPattern_functionName {name : String} (h : IsAsciiName name) :
    IsPattern (functionName name) := by
  have hescaped : (escaped (words name.toList)).IsEscaped :=
    isEscaped_escaped (fun w hw => isWord_of_mem_words hw)
  rw [functionName_eq,
    Spelling.isPattern_text_iff ?_ hescaped.nonempty hescaped.not_reserved]
  · exact hescaped.head
  · exact fun c => isNameChar_of_mem_bare h (.inl (words_escaped _))

/-- **Escaping confuses no functions**, and makes an identifier of every ASCII name. -/
theorem functionName_faithful (a b : String) :
    (functionName a = functionName b ↔ snakeCase a = snakeCase b) ∧
      (IsAsciiName a → IsPattern (functionName a)) :=
  ⟨functionName_eq_iff_snakeCase, isPattern_functionName⟩

/-- A reserved word has no raw form, and its underscore is no part of its snake case. -/
theorem selfFunction_isPattern :
    IsAsciiName "Self" ∧ functionName "Self" = "self_" ∧
      functionName "Self" = functionName "self_" ∧ IsPattern (functionName "Self") := by
  have hascii : IsAsciiName "Self" := by decide
  obtain ⟨hfaithful, hpattern⟩ := functionName_faithful "Self" "self_"
  exact ⟨hascii, by decide, hfaithful.mpr (by decide), hpattern hascii⟩

/-! ### Variables -/

/-- A variable that begins with a digit: its name ends with underscores, which stay, and does
not begin with them. -/
def KeepsDigit (name : String) : Prop :=
  name.toList.head? ≠ some '_' ∧ name.toList.getLast? = some '_' ∧
    ∃ c, (snakeCase name).toList.head? = some c ∧ c.isDigit = true

theorem length_takeWhile_underscore_eq_zero_iff (cs : List Char) :
    (cs.takeWhile isUnderscore).length = 0 ↔ cs.head? ≠ some '_' := by
  cases cs with
  | nil => simp
  | cons c cs =>
    by_cases hc : c = '_'
    · subst hc
      simp [isUnderscore]
    · have hneg : ¬ isUnderscore c = true := fun h => hc (eq_of_beq h)
      rw [List.takeWhile_cons_of_neg hneg]
      simpa using hc

theorem KeepsDigit.not_all {name : String} (h : KeepsDigit name) :
    ¬ name.toList.all isUnderscore = true := by
  obtain ⟨hhead, hlast, -⟩ := h
  intro hall
  cases hname : name.toList with
  | nil =>
    rw [hname] at hlast
    cases hlast
  | cons c cs =>
    rw [hname, List.all_cons, Bool.and_eq_true] at hall
    rw [hname, eq_of_beq hall.1] at hhead
    exact hhead rfl

/-- What the spelling of a variable is, up to the digit that it may keep. -/
structure IsVariableForm (name : String) (s : Spelling) : Prop where
  nonempty : s.bare ≠ []
  not_reserved : String.ofList s.bare ∉ reserved
  head_iff : (∀ c, s.bare.head? = some c → c.isDigit = false) ↔ ¬ KeepsDigit name

theorem Spelling.IsEscaped.isVariableForm {s : Spelling} (h : s.IsEscaped) {name : String}
    (hkeeps : ¬ KeepsDigit name) : IsVariableForm name s :=
  ⟨h.nonempty, h.not_reserved, fun _ => hkeeps, fun _ => h.head⟩

/-- With underscores behind its words alone, a name keeps the digit that it begins with. -/
theorem isVariableForm_of_after {name : String} {n : Nat} (hne : words name.toList ≠ [])
    (hhead : name.toList.head? ≠ some '_') (hlast : name.toList.getLast? = some '_') :
    IsVariableForm name ⟨0, words name.toList, n + 1⟩ := by
  obtain ⟨c, cs, hjoin, -⟩ := joinWords_eq_cons (fun w hw => isWord_of_mem_words hw) hne
  have hsnake : (snakeCase name).toList = joinWords (words name.toList) := by
    rw [snakeCase, String.toList_ofList, snakeChars_eq_joinWords]
  have hbare : Spelling.bare ⟨0, words name.toList, n + 1⟩ =
      c :: (cs ++ List.replicate (n + 1) '_') := by
    rw [Spelling.bare, hjoin]
    rfl
  refine ⟨by rw [hbare]; exact List.cons_ne_nil _ _, ?_, ?_⟩
  · refine not_mem_reserved_of_mem ?_
    rw [hbare, List.replicate_succ]
    simp
  · rw [hbare, KeepsDigit, hsnake, hjoin]
    simp [hhead, hlast]

theorem isVariableForm_variableSpelling (name : String) :
    IsVariableForm name (variableSpelling name) := by
  have hbefore := length_takeWhile_underscore_eq_zero_iff name.toList
  have hafter := length_takeWhile_underscore_eq_zero_iff name.toList.reverse
  rw [List.head?_reverse] at hafter
  have hsnake : (snakeCase name).toList = joinWords (words name.toList) := by
    rw [snakeCase, String.toList_ofList, snakeChars_eq_joinWords]
  have hwords : ∀ w ∈ words name.toList, IsWord w := fun w hw => isWord_of_mem_words hw
  unfold variableSpelling
  dsimp only
  generalize (name.toList.takeWhile isUnderscore).length = before at hbefore ⊢
  generalize (name.toList.reverse.takeWhile isUnderscore).length = after at hafter ⊢
  split
  · next hall =>
    exact (isEscaped_of_before Nat.one_ne_zero).isVariableForm (fun hkeeps => hkeeps.not_all hall)
  split
  · next hends =>
    refine (isEscaped_escaped hwords).isVariableForm (fun hkeeps => ?_)
    exact hafter.mp hends.2 hkeeps.2.1
  next hends =>
  split
  · next hnil =>
    have hcount : before + after ≠ 0 := fun hzero => hends (Nat.add_eq_zero_iff.mp hzero)
    refine (isEscaped_of_before hcount).isVariableForm (fun hkeeps => ?_)
    obtain ⟨c, hc, -⟩ := hkeeps.2.2
    rw [hsnake, hnil] at hc
    cases hc
  next hne =>
  by_cases hzero : before = 0
  · subst hzero
    obtain ⟨n, rfl⟩ := Nat.exists_eq_succ_of_ne_zero (fun hafter => hends ⟨rfl, hafter⟩)
    have hlast : name.toList.getLast? = some '_' := by
      by_contra hlast
      cases hafter.mpr hlast
    exact isVariableForm_of_after hne (hbefore.mp rfl) hlast
  · refine (isEscaped_of_before hzero).isVariableForm (fun hkeeps => ?_)
    exact hzero (hbefore.mpr hkeeps.1)

/-- The words of a variable's spelling are those of its name, or it has none. -/
theorem words_variableSpelling (name : String) :
    (variableSpelling name).words = words name.toList ∨ (variableSpelling name).words = [] := by
  unfold variableSpelling
  dsimp only
  split
  · exact .inr rfl
  split
  · exact .inl (words_escaped _)
  split
  · exact .inr rfl
  · exact .inl rfl

/-- **The variable of an ASCII name is an identifier or the wildcard**, exactly if it does not
keep a digit at its start. -/
theorem variableName_isPattern_iff {name : String} (h : IsAsciiName name) :
    IsPattern (variableName name) ↔ ¬ KeepsDigit name := by
  have hform := isVariableForm_variableSpelling name
  rw [variableName_eq, Spelling.isPattern_text_iff ?_ hform.nonempty hform.not_reserved,
    hform.head_iff]
  exact fun c => isNameChar_of_mem_bare h (words_variableSpelling name)

/-- A keyword in capitals is written in its raw form. -/
theorem matchVariable_isPattern :
    IsAsciiName "Match" ∧ variableName "Match" = "r#match" ∧ IsPattern (variableName "Match") := by
  have hascii : IsAsciiName "Match" := by decide
  refine ⟨hascii, by decide, (variableName_isPattern_iff hascii).mpr (fun hkeeps => ?_)⟩
  exact absurd hkeeps.2.1 (by decide)

/-- The name `1_` is written as it is, which is a number. -/
theorem numberedVariable_not_isPattern :
    IsAsciiName "1_" ∧ variableName "1_" = "1_" ∧ ¬ IsPattern (variableName "1_") := by
  refine ⟨by decide, by decide, fun hpattern => ?_⟩
  exact absurd (hpattern.head '1' (by decide)) (by decide)

end Identifier
end Code
end ClientSynth
