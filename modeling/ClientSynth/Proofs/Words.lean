import Mathlib.Data.List.Chain
import ClientSynth.Proofs.Trim
import ClientSynth.Text.Casing

/-! # The words of a name

Snake case is built backwards and one character at a time, and so says little about whole
names.  This is what it amounts to: mark every place where a word starts with an
underscore, cut the marked name at its underscores, and drop the empty pieces.  What
remains are the words of the name.  Snake case puts one underscore between any two of
them, and it can be cut into these words again.  So two names have the same snake case
exactly if they have the same words, and an underscore in a name only ever separates the
words in front of it from those behind it. -/
namespace ClientSynth
namespace Text

/-! ### Lowercase forms -/

/-- What can be checked code by code holds of every ASCII character. -/
theorem forall_ascii {P : Char → Prop} (h : ∀ n < 128, P (Char.ofNat n)) (c : Char)
    (hc : isAscii c = true) : P c := by
  have hcode := h c.toNat (of_decide_eq_true hc)
  rwa [Char.ofNat_toNat] at hcode

theorem toNat_ofNat_le {n : Nat} (h : 95 < n) :
    (Char.ofNat n).toNat = 0 ∨ 95 < (Char.ofNat n).toNat := by
  by_cases hvalid : n.isValidChar
  · rw [Char.ofNat, dif_pos hvalid]
    exact Or.inr h
  · rw [Char.ofNat, dif_neg hvalid]
    exact Or.inl rfl

theorem shift_lowerShifts : ∀ r ∈ lowerShifts, (95 : Int) < r.run.first + r.shift := by
  decide +kernel

/-- Where a lowercase form comes from: the rule for ASCII, the expansions, the shifts, or no
rule at all. -/
theorem mem_toLower {c d : Char} (h : d ∈ toLower c) :
    (isAscii c = true ∧ d = c.toLower) ∨
    (∃ p ∈ lowerExpansions, ∃ n ∈ p.2, d = Char.ofNat n) ∨
    (∃ r ∈ lowerShifts, r.run.contains c.toNat = true ∧
      d = Char.ofNat (Int.ofNat c.toNat + r.shift).toNat) ∨
    (isAscii c = false ∧ d = c) := by
  unfold toLower at h
  split at h
  · next hascii => exact .inl ⟨hascii, List.mem_singleton.mp h⟩
  · next hascii =>
    unfold recase at h
    split at h
    · next codes hcodes =>
      obtain ⟨front, back, heq, -⟩ := List.lookup_eq_some_iff.mp hcodes
      obtain ⟨n, hn, rfl⟩ := List.mem_map.mp h
      exact .inr (.inl ⟨(c.toNat, codes), by simp [heq], n, hn, rfl⟩)
    · rw [List.mem_singleton] at h
      cases hshift : shiftOf lowerShifts c.toNat with
      | none =>
          rw [hshift] at h
          exact .inr (.inr (.inr ⟨Bool.eq_false_iff.mpr hascii, h⟩))
      | some n =>
          rw [hshift] at h
          obtain ⟨r, hr, rfl⟩ := Option.map_eq_some_iff.mp hshift
          have hcontains := List.find?_some hr
          exact .inr (.inr (.inl ⟨r, List.mem_of_find?_eq_some hr, hcontains, h⟩))

/-- No lowercase form of another character holds a symbol. -/
theorem symbol_not_mem_toLower {c d : Char} (hpos : 0 < d.toNat) (hd : d.toNat < 96) (hc : c ≠ d) :
    d ∉ toLower c := by
  intro hmem
  rcases mem_toLower hmem with ⟨hascii, rfl⟩ | ⟨p, hp, n, hn, rfl⟩ | ⟨r, hr, hcontains, hchar⟩ |
    ⟨-, rfl⟩
  · have hlower := forall_ascii (P := fun c => c.toLower = c ∨ 95 < c.toLower.toNat)
      (by decide +kernel) c hascii
    rcases hlower with heq | hgt
    · exact hc heq.symm
    · omega
  · have hall : ∀ p ∈ lowerExpansions, ∀ n ∈ p.2, 95 < (Char.ofNat n).toNat := by
      decide +kernel
    have hgt := hall p hp n hn
    omega
  · have himage := shift_lowerShifts r hr
    simp only [Run.contains, Bool.and_eq_true, decide_eq_true_eq] at hcontains
    have hfirst := hcontains.1.1
    have hcode : 95 < (Int.ofNat c.toNat + r.shift).toNat := by
      simp only [Int.ofNat_eq_natCast]
      omega
    -- The code may be none of a character, and then it is read as the first of all.
    have hgt := toNat_ofNat_le hcode
    rw [← hchar] at hgt
    omega
  · exact hc rfl

theorem underscore_not_mem_toLower {c : Char} (h : isUpper c = true) : '_' ∉ toLower c := by
  have hc : c ≠ '_' := by
    rintro rfl
    cases h
  exact symbol_not_mem_toLower (by decide) (by decide) hc

theorem ne_underscore_of_isAlphanumeric {c : Char} (h : isAlphanumeric c = true) : '_' ≠ c := by
  rintro rfl
  cases h

/-! ### Marked names -/

/-- What a character contributes: its letters, in front of which a word may start, or a
separator. -/
def mark (prev next : Option Char) (c : Char) : List Char :=
  if isUpper c then (if startsWord prev next then '_' :: toLower c else toLower c)
  else if isAlphanumeric c then [c]
  else if isWordSeparator c then ['_']
  else []

/-- A name with an underscore wherever a word may start; `prev` is the character in front. -/
def marked (prev : Option Char) : List Char → List Char
  | [] => []
  | c :: rest => mark prev rest.head? c ++ marked (some c) rest

theorem marked_cons (prev : Option Char) (c : Char) (rest : List Char) :
    marked prev (c :: rest) = mark prev rest.head? c ++ marked (some c) rest := rfl

/-- Behind an underscore a name is marked as it is at the start. -/
theorem marked_underscore (cs : List Char) : marked (some '_') cs = marked none cs := by
  cases cs with
  | nil => rfl
  | cons c rest => rfl

/-- In front of an underscore no word starts that would not start at the end. -/
theorem mark_before_underscore (prev : Option Char) (c : Char) :
    mark prev (some '_') c = mark prev none c := by
  have hstarts : startsWord prev (some '_') = startsWord prev none := by cases prev <;> rfl
  rw [mark, hstarts, mark]

theorem marked_append (prev : Option Char) (cs ds : List Char) :
    marked prev (cs ++ '_' :: ds) = marked prev cs ++ '_' :: marked none ds := by
  induction cs generalizing prev with
  | nil =>
      rw [List.nil_append, marked_cons, marked_underscore]
      rfl
  | cons c cs ih =>
      -- The last character in front of the underscore sees it where it saw the end before.
      have hhead : mark prev (cs ++ '_' :: ds).head? c = mark prev cs.head? c := by
        cases cs with
        | nil => exact mark_before_underscore prev c
        | cons d rest => rfl
      rw [List.cons_append, marked_cons, hhead, ih, marked_cons, List.append_assoc]

/-! ### Pieces of a text -/

/-- The pieces of a text between underscores, without the empty ones. -/
def pieces (cs : List Char) : List (List Char) := (cs.splitOn '_').filter (fun w => !w.isEmpty)

theorem pieces_append (cs ds : List Char) : pieces (cs ++ '_' :: ds) = pieces cs ++ pieces ds := by
  rw [pieces, List.splitOn_append_cons_self, List.filter_append, pieces, pieces]

theorem pieces_underscore (cs : List Char) : pieces ('_' :: cs) = pieces cs := pieces_append [] cs

theorem pieces_of_not_mem {cs : List Char} (h : '_' ∉ cs) (hne : cs ≠ []) : pieces cs = [cs] := by
  rw [pieces, List.splitOn_eq_singleton h]
  simp [hne]

/-- What no underscore at an end changes is not changed by trimming. -/
theorem apply_trim_underscores {α : Type} {f : List Char → α} (hfront : ∀ cs, f ('_' :: cs) = f cs)
    (hback : ∀ cs, f (cs ++ ['_']) = f cs) (cs : List Char) : f (trim isUnderscore cs) = f cs := by
  refine apply_trim (fun c hc ds => ?_) (fun c hc ds => ?_) cs
  · rw [eq_of_beq hc, hfront]
  · rw [eq_of_beq hc, hback]

theorem pieces_concat (cs : List Char) : pieces (cs ++ ['_']) = pieces cs := by
  rw [pieces_append cs []]
  exact List.append_nil _

theorem pieces_trim (cs : List Char) : pieces (trim isUnderscore cs) = pieces cs :=
  apply_trim_underscores pieces_underscore pieces_concat cs

/-- A word: not empty, and without underscores. -/
structure IsWord (w : List Char) : Prop where
  nonempty : w ≠ []
  no_underscore : '_' ∉ w

/-- The pieces between separators are made of the other characters. -/
theorem of_mem_splitOn {separator : Char} {cs w : List Char} (h : w ∈ cs.splitOn separator) :
    separator ∉ w ∧ w ⊆ cs := by
  induction cs generalizing w with
  | nil =>
      rw [List.splitOn_nil, List.mem_singleton] at h
      subst h
      exact ⟨List.not_mem_nil, List.Subset.refl _⟩
  | cons c cs ih =>
      rw [List.splitOn_cons_eq_if_modifyHead] at h
      split at h
      · rcases List.mem_cons.mp h with rfl | h
        · exact ⟨List.not_mem_nil, List.nil_subset _⟩
        · obtain ⟨hno, hsubset⟩ := ih h
          exact ⟨hno, List.subset_cons_of_subset c hsubset⟩
      · next hc =>
        -- The character goes to the front of the first piece.
        obtain ⟨first, rest, hsplit⟩ :=
          List.exists_cons_of_ne_nil (List.splitOn_ne_nil separator cs)
        rw [hsplit, List.modifyHead_cons] at h
        rcases List.mem_cons.mp h with rfl | h
        · obtain ⟨hno, hsubset⟩ := ih (hsplit ▸ List.mem_cons_self)
          refine ⟨fun hmem => ?_, List.cons_subset_cons c hsubset⟩
          rcases List.mem_cons.mp hmem with rfl | hmem
          · exact hc (beq_self_eq_true _)
          · exact hno hmem
        · obtain ⟨hno, hsubset⟩ := ih (hsplit ▸ List.mem_cons_of_mem first h)
          exact ⟨hno, List.subset_cons_of_subset c hsubset⟩

theorem isWord_of_mem_pieces {cs w : List Char} (h : w ∈ pieces cs) : IsWord w := by
  obtain ⟨hsplit, hne⟩ := List.mem_filter.mp h
  exact ⟨by simpa using hne, (of_mem_splitOn hsplit).1⟩

theorem subset_of_mem_pieces {cs w : List Char} (h : w ∈ pieces cs) : w ⊆ cs :=
  (of_mem_splitOn (List.mem_filter.mp h).1).2

/-- Words with one underscore between neighbours. -/
def joinWords (ws : List (List Char)) : List Char := ['_'].intercalate ws

theorem joinWords_cons {w : List Char} {ws : List (List Char)} (h : ws ≠ []) :
    joinWords (w :: ws) = w ++ '_' :: joinWords ws := by
  rw [joinWords, List.intercalate_cons_of_ne_nil h, List.append_assoc]
  rfl

theorem joinWords_append {ws vs : List (List Char)} (hws : ws ≠ []) (hvs : vs ≠ []) :
    joinWords (ws ++ vs) = joinWords ws ++ '_' :: joinWords vs := by
  induction ws with
  | nil => exact absurd rfl hws
  | cons w ws ih =>
      rw [List.cons_append, joinWords_cons (List.append_ne_nil_of_right_ne_nil ws hvs)]
      by_cases hne : ws = []
      · subst hne
        simp [joinWords]
      · rw [ih hne, joinWords_cons hne, List.append_assoc]
        rfl

/-- Joined words are cut into these words again. -/
theorem pieces_joinWords {ws : List (List Char)} (h : ∀ w ∈ ws, IsWord w) :
    pieces (joinWords ws) = ws := by
  by_cases hne : ws = []
  · rw [hne]
    rfl
  · rw [pieces, joinWords,
      List.splitOn_intercalate '_' (fun w hw => (h w hw).no_underscore) hne, List.filter_eq_self]
    intro w hw
    simpa using (h w hw).nonempty

theorem joinWords_inj {ws vs : List (List Char)} (hws : ∀ w ∈ ws, IsWord w)
    (hvs : ∀ w ∈ vs, IsWord w) (h : joinWords ws = joinWords vs) : ws = vs := by
  rw [← pieces_joinWords hws, h, pieces_joinWords hvs]

/-! ### Texts of joined words -/

/-- Two neighbours that are not both underscores. -/
def Apart (c d : Char) : Prop := ¬ (c = '_' ∧ d = '_')

/-- Without an underscore at either end and without two in a row, no piece is empty. -/
theorem nil_not_mem_splitOn : ∀ {cs : List Char}, cs.IsChain Apart → cs ≠ [] →
    cs.head? ≠ some '_' → cs.getLast? ≠ some '_' → [] ∉ cs.splitOn '_'
  | [c], _, _, hhead, _ => by
      have hc : '_' ∉ [c] := by
        intro hmem
        exact hhead (by rw [List.mem_singleton.mp hmem]; rfl)
      rw [List.splitOn_eq_singleton hc]
      simp
  | c :: d :: rest, hchain, _, hhead, hlast => by
      have hc : c ≠ '_' := fun hc => hhead (by rw [hc]; rfl)
      rw [List.isChain_cons_cons] at hchain
      rw [List.splitOn_cons_eq_if_modifyHead, if_neg (by simpa using hc)]
      by_cases hd : d = '_'
      · -- The piece ends here; what follows starts the next one.
        subst hd
        rw [List.splitOn_cons_eq_if_modifyHead, if_pos (by rfl), List.modifyHead_cons]
        have hrest : rest ≠ [] := by
          rintro rfl
          exact hlast rfl
        obtain ⟨e, es, rfl⟩ := List.exists_cons_of_ne_nil hrest
        have he : e ≠ '_' := fun he => (List.isChain_cons_cons.mp hchain.2).1 ⟨rfl, he⟩
        have ih := nil_not_mem_splitOn (List.isChain_cons_cons.mp hchain.2).2 hrest
          (fun h => he (Option.some.inj h)) (by simpa using hlast)
        simpa using ih
      · have ih := nil_not_mem_splitOn hchain.2 (List.cons_ne_nil d rest)
          (fun h => hd (Option.some.inj h)) (by simpa using hlast)
        obtain ⟨first, others, hsplit⟩ :=
          List.exists_cons_of_ne_nil (List.splitOn_ne_nil '_' (d :: rest))
        rw [hsplit] at ih ⊢
        rw [List.modifyHead_cons]
        simp only [List.mem_cons, not_or] at ih ⊢
        exact ⟨by simp, ih.2⟩

theorem head?_trim_ne (cs : List Char) : (trim isUnderscore cs).head? ≠ some '_' := by
  intro hhead
  have hnot : isUnderscore '_' = false := not_of_head?_trim hhead
  cases hnot

theorem getLast?_trim_ne (cs : List Char) : (trim isUnderscore cs).getLast? ≠ some '_' := by
  intro hlast
  have hne : trim isUnderscore cs ≠ [] := by
    intro hnil
    rw [hnil] at hlast
    cases hlast
  have hnot := List.rdropWhile_last_not isUnderscore (cs.dropWhile isUnderscore) hne
  rw [List.getLast?_eq_some_getLast hne] at hlast
  have hunderscore : ((cs.dropWhile isUnderscore).rdropWhile isUnderscore).getLast hne = '_' :=
    Option.some.inj hlast
  rw [hunderscore] at hnot
  exact hnot rfl

/-- Trimming puts nothing together that was not. -/
theorem isChain_trim {cs : List Char} (h : cs.IsChain Apart) :
    (trim isUnderscore cs).IsChain Apart :=
  h.infix ((List.rdropWhile_prefix isUnderscore _).isInfix.trans
    (List.dropWhile_suffix isUnderscore).isInfix)

/-- A trimmed text without two underscores in a row is what its pieces are joined to. -/
theorem joinWords_pieces_trim {cs : List Char} (h : cs.IsChain Apart) :
    joinWords (pieces (trim isUnderscore cs)) = trim isUnderscore cs := by
  by_cases hne : trim isUnderscore cs = []
  · rw [hne]
    rfl
  · have hnil := nil_not_mem_splitOn (isChain_trim h) hne (head?_trim_ne cs) (getLast?_trim_ne cs)
    rw [pieces, List.filter_eq_self.mpr, joinWords, List.intercalate_splitOn]
    intro w hw
    have hw : w ≠ [] := by
      rintro rfl
      exact hnil hw
    simpa using hw

/-! ### Snake case -/

/-- What a character makes of the backwards text in front of it. -/
def snakeStep (prev next : Option Char) (out : List Char) (c : Char) : List Char :=
  if isUpper c then (toLower c).reverse ++ (if startsWord prev next then separate out else out)
  else if isAlphanumeric c then c :: out
  else if isWordSeparator c && !out.isEmpty then separate out
  else out

theorem snakeFrom_cons (prev : Option Char) (out : List Char) (c : Char) (rest : List Char) :
    snakeFrom prev out (c :: rest) =
      snakeFrom (some c) (snakeStep prev rest.head? out c) rest := rfl

/-- A separator cuts like an underscore, whether or not there is one already. -/
theorem pieces_separate (out rest : List Char) :
    pieces ((separate out).reverse ++ rest) = pieces (out.reverse ++ '_' :: rest) := by
  unfold separate
  split
  · next hhead =>
    obtain ⟨out, rfl⟩ : ∃ tail, out = '_' :: tail := by
      cases out with
      | nil => cases hhead
      | cons c tail => exact ⟨tail, by rw [Option.some.inj hhead]⟩
    rw [List.reverse_cons, List.append_assoc, List.append_assoc, List.singleton_append,
      List.singleton_append, pieces_append, pieces_append, pieces_underscore]
  · rw [List.reverse_cons, List.append_assoc, List.singleton_append]

theorem pieces_snakeStep (prev next : Option Char) (out rest : List Char) (c : Char) :
    pieces ((snakeStep prev next out c).reverse ++ rest) =
      pieces (out.reverse ++ (mark prev next c ++ rest)) := by
  unfold snakeStep mark
  split
  · rw [List.reverse_append, List.reverse_reverse, List.append_assoc]
    split
    · rw [pieces_separate, List.cons_append]
    · rfl
  · split
    · rw [List.reverse_cons, List.append_assoc]
    · cases isWordSeparator c with
      | false => rfl
      | true =>
          cases out with
          | nil => exact (pieces_underscore rest).symm
          | cons d out => exact pieces_separate (d :: out) rest

/-- Reading on adds the pieces of what is read. -/
theorem pieces_snakeFrom (prev : Option Char) (out cs : List Char) :
    pieces (snakeFrom prev out cs).reverse = pieces (out.reverse ++ marked prev cs) := by
  induction cs generalizing prev out with
  | nil => rw [snakeFrom, marked, List.append_nil]
  | cons c cs ih => rw [snakeFrom_cons, ih, pieces_snakeStep, marked_cons]

theorem isChain_append {front out : List Char} (hfront : '_' ∉ front) (h : out.IsChain Apart) :
    (front ++ out).IsChain Apart := by
  induction front with
  | nil => exact h
  | cons c front ih =>
      rw [List.mem_cons, not_or] at hfront
      refine List.isChain_cons.mpr ⟨fun d _ hboth => hfront.1 hboth.1.symm, ih hfront.2⟩

theorem isChain_separate {out : List Char} (h : out.IsChain Apart) :
    (separate out).IsChain Apart := by
  unfold separate
  split
  · exact h
  · next hhead =>
    refine List.isChain_cons.mpr ⟨fun d hd hboth => ?_, h⟩
    exact hhead (hboth.2 ▸ hd)

/-- No step puts two underscores in a row. -/
theorem isChain_snakeStep {out : List Char} (h : out.IsChain Apart) (prev next : Option Char)
    (c : Char) : (snakeStep prev next out c).IsChain Apart := by
  unfold snakeStep
  split
  · next hupper =>
    have hlower : '_' ∉ (toLower c).reverse := by
      rw [List.mem_reverse]
      exact underscore_not_mem_toLower hupper
    split
    · exact isChain_append hlower (isChain_separate h)
    · exact isChain_append hlower h
  · split
    · next halnum =>
      have hc : '_' ∉ [c] := by
        rw [List.mem_singleton]
        exact ne_underscore_of_isAlphanumeric halnum
      exact isChain_append hc h
    · split
      · exact isChain_separate h
      · exact h

theorem isChain_snakeFrom {out : List Char} (h : out.IsChain Apart) (prev : Option Char)
    (cs : List Char) : (snakeFrom prev out cs).IsChain Apart := by
  induction cs generalizing prev out with
  | nil => exact h
  | cons c cs ih => exact ih (isChain_snakeStep h prev cs.head? c) (some c)

/-- A name that is read from its start holds no two underscores in a row. -/
theorem isChain_reverse_snakeFrom (cs : List Char) :
    (snakeFrom none [] cs).reverse.IsChain Apart := by
  rw [List.isChain_reverse]
  refine (isChain_snakeFrom List.isChain_nil none cs).imp ?_
  exact fun c d hcd hboth => hcd hboth.symm

/-- The words of a name. -/
def words (cs : List Char) : List (List Char) := pieces (marked none cs)

theorem isWord_of_mem_words {cs w : List Char} (h : w ∈ words cs) : IsWord w :=
  isWord_of_mem_pieces h

/-- **Snake case joins the words of a name.** -/
theorem snakeChars_eq_joinWords (cs : List Char) : snakeChars cs = joinWords (words cs) := by
  have hpieces : pieces (snakeChars cs) = words cs := by
    rw [snakeChars, pieces_trim, pieces_snakeFrom]
    rfl
  rw [← hpieces]
  exact (joinWords_pieces_trim (isChain_reverse_snakeFrom cs)).symm

/-- Names have the same snake case exactly if they have the same words. -/
theorem snakeCase_eq_iff {a b : String} :
    snakeCase a = snakeCase b ↔ words a.toList = words b.toList := by
  rw [snakeCase, snakeCase, String.ofList_inj, snakeChars_eq_joinWords, snakeChars_eq_joinWords]
  constructor
  · exact joinWords_inj (fun w hw => isWord_of_mem_words hw) (fun w hw => isWord_of_mem_words hw)
  · exact congrArg joinWords

/-! ### Letters -/

/-- The characters of a name that its snake case keeps, in lowercase. -/
def letters (cs : List Char) : List Char :=
  cs.flatMap (fun c => if isUpper c then toLower c else if isAlphanumeric c then [c] else [])

/-- A name in snake case without its underscores. -/
def joinedLetters (cs : List Char) : List Char := cs.filter (fun c => !isUnderscore c)

theorem letters_append (cs ds : List Char) : letters (cs ++ ds) = letters cs ++ letters ds :=
  List.flatMap_append

theorem joinedLetters_append (cs ds : List Char) :
    joinedLetters (cs ++ ds) = joinedLetters cs ++ joinedLetters ds := List.filter_append cs ds

theorem joinedLetters_underscore (cs : List Char) :
    joinedLetters ('_' :: cs) = joinedLetters cs := rfl

theorem joinedLetters_mark (prev next : Option Char) (c : Char) :
    joinedLetters (mark prev next c) = joinedLetters (letters [c]) := by
  have hletters : letters [c] =
      if isUpper c then toLower c else if isAlphanumeric c then [c] else [] :=
    List.flatMap_singleton ..
  rw [hletters]
  unfold mark
  split
  · split
    · exact joinedLetters_underscore (toLower c)
    · rfl
  · split
    · rfl
    · split <;> rfl

theorem joinedLetters_marked (prev : Option Char) (cs : List Char) :
    joinedLetters (marked prev cs) = joinedLetters (letters cs) := by
  induction cs generalizing prev with
  | nil => rfl
  | cons c cs ih =>
      have hletters : letters (c :: cs) = letters [c] ++ letters cs := letters_append [c] cs
      rw [marked_cons, joinedLetters_append, joinedLetters_mark, ih, hletters, joinedLetters_append]

theorem mem_letters {cs : List Char} {d : Char} (h : d ∈ letters cs) :
    ∃ c ∈ cs, (isUpper c = true ∧ d ∈ toLower c) ∨
      (¬ isUpper c = true ∧ isAlphanumeric c = true ∧ d = c) := by
  obtain ⟨c, hc, hd⟩ := List.mem_flatMap.mp h
  refine ⟨c, hc, ?_⟩
  split at hd
  · next hupper => exact .inl ⟨hupper, hd⟩
  · next hupper =>
    split at hd
    · next halnum => exact .inr ⟨hupper, halnum, List.mem_singleton.mp hd⟩
    · cases hd

/-- No symbol is a letter of a name. -/
theorem symbol_not_mem_letters {d : Char} (hpos : 0 < d.toNat) (hd : d.toNat < 96)
    (hupper : isUpper d = false) (halnum : isAlphanumeric d = false) (cs : List Char) :
    d ∉ letters cs := by
  intro hmem
  obtain ⟨c, -, ⟨hc, hlower⟩ | ⟨-, hc, rfl⟩⟩ := mem_letters hmem
  · have hne : c ≠ d := by
      rintro rfl
      rw [hc] at hupper
      cases hupper
    exact symbol_not_mem_toLower hpos hd hne hlower
  · rw [hc] at halnum
    cases halnum

/-- The words of a name are made of its letters. -/
theorem mem_letters_of_mem_words {cs w : List Char} (hw : w ∈ words cs) {d : Char} (hd : d ∈ w) :
    d ∈ letters cs := by
  have hne : d ≠ '_' := by
    rintro rfl
    exact (isWord_of_mem_words hw).no_underscore hd
  have hmarked : d ∈ joinedLetters (marked none cs) :=
    List.mem_filter.mpr ⟨subset_of_mem_pieces hw hd, by simpa [isUnderscore] using hne⟩
  rw [joinedLetters_marked] at hmarked
  exact (List.mem_filter.mp hmarked).1

theorem joinedLetters_joinWords (ws : List (List Char)) :
    joinedLetters (joinWords ws) = joinedLetters ws.flatten := by
  induction ws with
  | nil => rfl
  | cons w ws ih =>
      by_cases hne : ws = []
      · subst hne
        simp [joinWords]
      · rw [joinWords_cons hne, joinedLetters_append, joinedLetters_underscore, ih,
          List.flatten_cons, joinedLetters_append]

/-- **Snake case keeps the letters of a name.** -/
theorem joinedLetters_snakeChars (cs : List Char) :
    joinedLetters (snakeChars cs) = joinedLetters (letters cs) := by
  have hsplit : joinWords ((marked none cs).splitOn '_') = marked none cs :=
    List.intercalate_splitOn '_'
  calc joinedLetters (snakeChars cs)
    _ = joinedLetters (words cs).flatten := by
      rw [snakeChars_eq_joinWords, joinedLetters_joinWords]
    _ = joinedLetters ((marked none cs).splitOn '_').flatten := by
      rw [words, pieces, List.flatten_filter_not_isEmpty]
    _ = joinedLetters (marked none cs) := by rw [← joinedLetters_joinWords, hsplit]
    _ = joinedLetters (letters cs) := joinedLetters_marked none cs

/-! ### Words of longer names -/

/-- An underscore separates the words in front of it from those behind it. -/
theorem words_append (cs ds : List Char) : words (cs ++ '_' :: ds) = words cs ++ words ds := by
  rw [words, marked_append, pieces_append, words, words]

theorem words_underscore (cs : List Char) : words ('_' :: cs) = words cs := words_append [] cs

theorem words_concat (cs : List Char) : words (cs ++ ['_']) = words cs := by
  rw [words_append cs []]
  exact List.append_nil _

/-- The underscores at the ends of a name belong to none of its words. -/
theorem words_trim (cs : List Char) : words (trim isUnderscore cs) = words cs :=
  apply_trim_underscores words_underscore words_concat cs

/-- A name behind which an uppercase letter starts a word. -/
def EndsWord (cs : List Char) : Prop :=
  ∃ p, cs.getLast? = some p ∧ isUpper p = false ∧ (isLower p || p.isDigit) = true

theorem EndsWord.append {ds : List Char} (h : EndsWord ds) (cs : List Char) :
    EndsWord (cs ++ ds) := by
  obtain ⟨p, hp, hends⟩ := h
  exact ⟨p, by rw [List.getLast?_append, hp, Option.some_or], hends⟩

/-- What is no uppercase letter does not look ahead. -/
theorem mark_of_not_upper {c : Char} (h : isUpper c = false) (prev next other : Option Char) :
    mark prev next c = mark prev other c := by
  rw [mark, mark, h]
  rfl

theorem marked_append_upper {cs : List Char} (hcs : EndsWord cs) {c : Char}
    (hc : isUpper c = true) (prev : Option Char) (ds : List Char) :
    marked prev (cs ++ c :: ds) = marked prev cs ++ '_' :: marked none (c :: ds) := by
  obtain ⟨p, hlast, hupper, hends⟩ := hcs
  induction cs generalizing prev with
  | nil => cases hlast
  | cons d cs ih =>
      cases cs with
      | nil =>
          obtain rfl : d = p := Option.some.inj hlast
          have hstarts : startsWord (some d) ds.head? = true := by simp [startsWord, hends]
          have hnext : mark (some d) ds.head? c = '_' :: toLower c := by simp [mark, hc, hstarts]
          have hfirst : mark none ds.head? c = toLower c := by simp [mark, hc, startsWord]
          simp only [List.singleton_append, marked_cons, List.head?_cons, hnext, hfirst]
          rw [mark_of_not_upper hupper prev (some c) none]
          simp [marked]
      | cons e cs =>
          rw [List.cons_append, marked_cons, ih (some d) (by simpa using hlast), marked_cons prev d,
            List.append_assoc]
          rfl

/-- An uppercase letter behind the end of a word separates the words in front of it from
its own and those behind it. -/
theorem words_append_upper {cs : List Char} (hcs : EndsWord cs) {c : Char}
    (hc : isUpper c = true) (ds : List Char) :
    words (cs ++ c :: ds) = words cs ++ words (c :: ds) := by
  rw [words, marked_append_upper hcs hc, pieces_append, words, words]

end Text
end ClientSynth
