import ClientSynth.Proofs.Escape
import ClientSynth.Proofs.Numeral

/-! # Reading quoted text

How the literals of the generated code are read: from the opening delimiter on, character by
character, to the first delimiter that no backslash escapes.  Behind a backslash stands one
of six letters and quotes, or the code point of a character in braces.  Reading is defined
without regard to how literals are written, and it is told nothing about where a literal
ends.  Still it ends where writing ended, with the very text that was written, whatever
follows.  So a text cannot get out of its literal, and no two texts have the same one. -/
namespace ClientSynth
namespace Text

variable {c d delimiter : Char} {cs rest more : List Char}

/-! ### The rules of reading -/

/-- The character with code point `n`, if there is one. -/
def character? (n : Nat) : Option Char := if n.isValidChar then some (Char.ofNat n) else none

/-- The character that a letter or a quote behind a backslash stands for. -/
def escapedBy? : Char → Option Char
  | 't' => some '\t'
  | 'r' => some '\r'
  | 'n' => some '\n'
  | '\'' => some '\''
  | '\"' => some '\"'
  | '\\' => some '\\'
  | _ => none

/-- The character with the given hexadecimal code point, of which there are at most six
digits. -/
def codePoint? (digits : List Char) : Option Char :=
  if digits.length ≤ 6 then (Numeral.natural? 16 digits).bind character? else none

/-- The character that is escaped by what follows a backslash, and what is left. -/
def readEscape : List Char → Option (Char × List Char)
  | 'u' :: '\x7b' :: rest =>
    match rest.dropWhile (fun c => c != '\x7d') with
    | [] => none
    | _ :: more => (codePoint? (rest.takeWhile (fun c => c != '\x7d'))).map (fun c => (c, more))
  | c :: rest => (escapedBy? c).map (fun d => (d, rest))
  | [] => none

theorem length_readEscape_lt (h : readEscape cs = some (d, more)) : more.length < cs.length := by
  unfold readEscape at h
  split at h
  · next rest =>
    split at h
    · cases h
    · next c following hdrop =>
      obtain ⟨e, -, he⟩ := Option.map_eq_some_iff.mp h
      cases he
      have hle := (List.dropWhile_sublist (fun c => c != '\x7d') (l := rest)).length_le
      rw [hdrop] at hle
      simp only [List.length_cons] at hle ⊢
      omega
  · next c rest _ =>
    obtain ⟨e, -, he⟩ := Option.map_eq_some_iff.mp h
    cases he
    exact Nat.lt_succ_self _
  · cases h

/-- The text up to the first delimiter that is not escaped, and what follows this
delimiter. -/
def readUntil (delimiter : Char) : List Char → Option (List Char × List Char)
  | [] => none
  | c :: rest =>
    if c = delimiter then some ([], rest)
    else if c = '\\' then
      match h : readEscape rest with
      | none => none
      | some (d, more) =>
        have : more.length < rest.length + 1 := Nat.lt_succ_of_lt (length_readEscape_lt h)
        (readUntil delimiter more).map (fun r => (d :: r.1, r.2))
    else (readUntil delimiter rest).map (fun r => (c :: r.1, r.2))
  termination_by cs => cs.length

/-- The text of the literal at the start, and what follows the literal. -/
def readQuoted (delimiter : Char) : List Char → Option (List Char × List Char)
  | [] => none
  | c :: rest => if c = delimiter then readUntil delimiter rest else none

theorem readUntil_delimiter (delimiter : Char) (rest : List Char) :
    readUntil delimiter (delimiter :: rest) = some ([], rest) := by
  rw [readUntil, if_pos rfl]

theorem readUntil_char (hdelimiter : c ≠ delimiter) (hbackslash : c ≠ '\\') :
    readUntil delimiter (c :: rest) =
      (readUntil delimiter rest).map (fun r => (c :: r.1, r.2)) := by
  rw [readUntil, if_neg hdelimiter, if_neg hbackslash]

theorem readUntil_escape (hdelimiter : delimiter ≠ '\\') (h : readEscape cs = some (d, more)) :
    readUntil delimiter ('\\' :: cs) =
      (readUntil delimiter more).map (fun r => (d :: r.1, r.2)) := by
  rw [readUntil, if_neg hdelimiter.symm, if_pos rfl]
  split
  · next hnone => rw [hnone] at h; cases h
  · next e following hsome =>
    rw [hsome] at h
    cases h
    rfl

theorem length_readUntil_lt {delimiter : Char} {cs content more : List Char}
    (h : readUntil delimiter cs = some (content, more)) : more.length < cs.length := by
  induction cs using readUntil.induct delimiter generalizing content more with
  | case1 =>
    rw [readUntil] at h
    cases h
  | case2 rest =>
    rw [readUntil_delimiter] at h
    cases h
    exact Nat.lt_succ_self _
  | case3 rest hnone hne =>
    rw [readUntil, if_neg hne, if_pos rfl] at h
    split at h
    · cases h
    · next hsome =>
      rw [hnone] at hsome
      cases hsome
  | case4 rest d following hescape hlt hne ih =>
    rw [readUntil_escape (fun heq => hne heq.symm) hescape] at h
    obtain ⟨r, hr, heq⟩ := Option.map_eq_some_iff.mp h
    cases heq
    have hle := ih hr
    rw [List.length_cons]
    omega
  | case5 c rest hne hbackslash ih =>
    rw [readUntil_char hne hbackslash] at h
    obtain ⟨r, hr, heq⟩ := Option.map_eq_some_iff.mp h
    cases heq
    exact Nat.lt_succ_of_lt (ih hr)

/-- Whether a delimiter stands in `cs` that no backslash escapes. -/
def hasBare (delimiter : Char) : List Char → Bool
  | [] => false
  | '\\' :: _ :: rest => hasBare delimiter rest
  | c :: rest => c == delimiter || hasBare delimiter rest

theorem hasBare_cons (hdelimiter : c ≠ delimiter) (hbackslash : c ≠ '\\') :
    hasBare delimiter (c :: rest) = hasBare delimiter rest := by
  rw [hasBare.eq_3 _ _ _ (fun _ _ h => absurd h hbackslash)]
  simp [hdelimiter]

theorem hasBare_append (h : ∀ c ∈ cs, c ≠ delimiter ∧ c ≠ '\\') :
    hasBare delimiter (cs ++ rest) = hasBare delimiter rest := by
  induction cs with
  | nil => rfl
  | cons c cs ih =>
    obtain ⟨hdelimiter, hbackslash⟩ := h c List.mem_cons_self
    rw [List.cons_append, hasBare_cons hdelimiter hbackslash,
      ih fun d hd => h d (List.mem_cons_of_mem c hd)]

/-! ### Reading a code point -/

/-- What is a hexadecimal digit is neither a delimiter nor part of an escape. -/
theorem ne_of_mem_hexDigits {n : Nat} (h : c ∈ hexDigits n) :
    c ≠ '\"' ∧ c ≠ '\'' ∧ c ≠ '\\' ∧ c ≠ '\x7d' := by
  obtain ⟨d, hd, rfl⟩ := Numeral.exists_digit_of_mem_toDigits (by decide) h
  have hdigits : ∀ k < 16, Nat.digitChar k ≠ '\"' ∧ Nat.digitChar k ≠ '\'' ∧
      Nat.digitChar k ≠ '\\' ∧ Nat.digitChar k ≠ '\x7d' := by decide
  exact hdigits d hd

theorem character?_toNat (c : Char) : character? c.toNat = some c := by
  have hvalid : c.toNat.isValidChar := c.valid
  rw [character?, if_pos hvalid, Char.ofNat_toNat]

theorem codePoint?_hexDigits (c : Char) : codePoint? (hexDigits c.toNat) = some c := by
  have hbound : c.toNat < 16 ^ 6 := by
    rcases c.valid with hlow | ⟨-, hhigh⟩
    · exact Nat.lt_trans hlow (by decide)
    · exact Nat.lt_trans hhigh (by decide)
  have hlength : (Nat.toDigits 16 c.toNat).length ≤ 6 :=
    (Nat.length_toDigits_le_iff (by decide) (by decide)).mpr hbound
  rw [codePoint?, hexDigits, if_pos hlength, Numeral.natural?_toDigits (by decide) (by decide)]
  exact character?_toNat c

theorem readEscape_codePoint (c : Char) (rest : List Char) :
    readEscape ('u' :: '\x7b' :: (hexDigits c.toNat ++ '\x7d' :: rest)) = some (c, rest) := by
  have hdigits : ∀ d ∈ hexDigits c.toNat, (d != '\x7d') = true := by
    intro d hd
    simpa using (ne_of_mem_hexDigits hd).2.2.2
  have htake : (hexDigits c.toNat ++ '\x7d' :: rest).takeWhile (fun c => c != '\x7d') =
      hexDigits c.toNat := by
    rw [List.takeWhile_append_of_pos hdigits]
    simp
  have hdrop : (hexDigits c.toNat ++ '\x7d' :: rest).dropWhile (fun c => c != '\x7d') =
      '\x7d' :: rest := by
    rw [List.dropWhile_append_of_pos hdigits]
    simp
  rw [readEscape, hdrop, htake, codePoint?_hexDigits]
  rfl

/-! ### Reading what has been written -/

/-- The ways in which a character is written: behind a backslash, as itself, or by its code
point. -/
theorem escapeChar_cases (c : Char) :
    (∃ letter, escapedBy? letter = some c ∧ letter ≠ 'u' ∧ escapeChar c = ['\\', letter]) ∨
      (c ≠ '\"' ∧ c ≠ '\'' ∧ c ≠ '\\' ∧ escapeChar c = [c]) ∨
      escapeChar c = '\\' :: 'u' :: '\x7b' :: (hexDigits c.toNat ++ ['\x7d']) := by
  unfold escapeChar
  split
  · next h => exact .inl ⟨'t', by rw [h]; rfl, by decide, rfl⟩
  split
  · next h => exact .inl ⟨'r', by rw [h]; rfl, by decide, rfl⟩
  split
  · next h => exact .inl ⟨'n', by rw [h]; rfl, by decide, rfl⟩
  split
  · next h => exact .inl ⟨'\'', by rw [h]; rfl, by decide, rfl⟩
  split
  · next h => exact .inl ⟨'\"', by rw [h]; rfl, by decide, rfl⟩
  split
  · next h => exact .inl ⟨'\\', by rw [h]; rfl, by decide, rfl⟩
  next hsingle hdouble hbackslash =>
  split
  · exact .inr (.inl ⟨hdouble, hsingle, hbackslash, rfl⟩)
  · exact .inr (.inr rfl)

/-- The two delimiters of literals. -/
def IsQuote (delimiter : Char) : Prop := delimiter = '\"' ∨ delimiter = '\''

/-- One written character is read as this character. -/
theorem readUntil_escapeChar (hquote : IsQuote delimiter) (c : Char) (rest : List Char) :
    readUntil delimiter (escapeChar c ++ rest) =
      (readUntil delimiter rest).map (fun r => (c :: r.1, r.2)) := by
  have hne : delimiter ≠ '\\' := by rcases hquote with rfl | rfl <;> decide
  rcases escapeChar_cases c with
    ⟨letter, hletter, hu, heq⟩ | ⟨hdouble, hsingle, hbackslash, heq⟩ | heq
  · have hread : readEscape (letter :: rest) = some (c, rest) := by
      rw [readEscape.eq_2 _ _ (fun _ hcontra _ => hu hcontra), hletter]
      rfl
    rw [heq]
    exact readUntil_escape hne hread
  · have hdelimiter : c ≠ delimiter := by rcases hquote with rfl | rfl <;> assumption
    rw [heq, List.singleton_append, readUntil_char hdelimiter hbackslash]
  · rw [heq]
    simp only [List.cons_append, List.append_assoc]
    exact readUntil_escape hne (readEscape_codePoint c rest)

/-- A text is read up to the delimiter behind it. -/
theorem readUntil_escape_append (hquote : IsQuote delimiter) (cs rest : List Char) :
    readUntil delimiter (escape cs ++ delimiter :: rest) = some (cs, rest) := by
  induction cs with
  | nil => exact readUntil_delimiter delimiter rest
  | cons c cs ih =>
    rw [escape, List.flatMap_cons, List.append_assoc, readUntil_escapeChar hquote, ← escape, ih]
    rfl

theorem hasBare_escapeChar (hquote : IsQuote delimiter) (c : Char) (rest : List Char) :
    hasBare delimiter (escapeChar c ++ rest) = hasBare delimiter rest := by
  rcases escapeChar_cases c with ⟨letter, -, -, heq⟩ | ⟨hdouble, hsingle, hbackslash, heq⟩ | heq
  · rw [heq]
    rfl
  · have hdelimiter : c ≠ delimiter := by rcases hquote with rfl | rfl <;> assumption
    rw [heq, List.singleton_append, hasBare_cons hdelimiter hbackslash]
  · have hplain : ∀ d ∈ '\x7b' :: (hexDigits c.toNat ++ ['\x7d']), d ≠ delimiter ∧ d ≠ '\\' := by
      intro d hd
      simp only [List.mem_cons, List.mem_append, List.not_mem_nil, or_false] at hd
      rcases hquote with rfl | rfl <;> rcases hd with rfl | hd | rfl
      any_goals decide
      · exact ⟨(ne_of_mem_hexDigits hd).1, (ne_of_mem_hexDigits hd).2.2.1⟩
      · exact ⟨(ne_of_mem_hexDigits hd).2.1, (ne_of_mem_hexDigits hd).2.2.1⟩
    rw [heq, List.cons_append, List.cons_append, hasBare]
    exact hasBare_append hplain

theorem hasBare_escape (hquote : IsQuote delimiter) (cs : List Char) :
    hasBare delimiter (escape cs) = false := by
  induction cs with
  | nil => rfl
  | cons c cs ih => rw [escape, List.flatMap_cons, hasBare_escapeChar hquote, ← escape, ih]

/-! ### Literals -/

/-- A literal with the text that it stands for. -/
structure Quotes (delimiter : Char) (content : List Char) (literal : String) : Prop where
  /-- It is printable ASCII. -/
  printable : ∀ c ∈ literal.toList, IsPrintable c
  /-- No delimiter between the outer ones stands there without being escaped. -/
  enclosed : ∃ inside, literal.toList = delimiter :: inside ++ [delimiter] ∧
    hasBare delimiter inside = false
  /-- Whatever follows, reading gives the text and stops right behind the literal. -/
  reads : ∀ rest, readQuoted delimiter (literal.toList ++ rest) = some (content, rest)

theorem readQuoted_escape (hquote : IsQuote delimiter) (cs rest : List Char) :
    readQuoted delimiter (delimiter :: escape cs ++ [delimiter] ++ rest) = some (cs, rest) := by
  rw [List.append_assoc, List.cons_append, readQuoted, if_pos rfl]
  exact readUntil_escape_append hquote cs rest

theorem quotes_stringLiteral (s : String) : Quotes '\"' s.toList (stringLiteral s) where
  printable _ := isPrintable_of_mem_stringLiteral
  enclosed := ⟨escape s.toList, String.toList_ofList, hasBare_escape (.inl rfl) _⟩
  reads rest := by
    rw [stringLiteral, String.toList_ofList]
    exact readQuoted_escape (.inl rfl) s.toList rest

theorem quotes_charLiteral (c : Char) : Quotes '\'' [c] (charLiteral c) where
  printable _ := isPrintable_of_mem_charLiteral
  enclosed := by
    refine ⟨escapeChar c, String.toList_ofList, ?_⟩
    simpa [escape] using hasBare_escape (.inr rfl) [c]
  reads rest := by
    rw [charLiteral, String.toList_ofList]
    simpa [escape] using readQuoted_escape (.inr rfl) [c] rest

/-- One literal stands for one text. -/
theorem Quotes.content_eq {content other : List Char} {literal : String}
    (h : Quotes delimiter content literal) (h' : Quotes delimiter other literal) :
    content = other := by
  have hread := (h.reads []).symm.trans (h'.reads [])
  exact congrArg Prod.fst (Option.some.inj hread)

/-- **Quoting loses nothing and lets nothing out**: string and character literals are
printable, enclosed by their only bare delimiters, and read back as what they were written
for, so that different texts have different literals. -/
theorem literals_quote :
    (∀ s, Quotes '\"' s.toList (stringLiteral s)) ∧ (∀ c, Quotes '\'' [c] (charLiteral c)) ∧
      Function.Injective stringLiteral ∧ Function.Injective charLiteral := by
  refine ⟨quotes_stringLiteral, quotes_charLiteral, fun s t h => ?_, fun c d h => ?_⟩
  · have ht := quotes_stringLiteral t
    rw [← h] at ht
    exact String.toList_inj.mp ((quotes_stringLiteral s).content_eq ht)
  · have hd := quotes_charLiteral d
    rw [← h] at hd
    exact List.singleton_inj.mp ((quotes_charLiteral c).content_eq hd)

end Text
end ClientSynth
