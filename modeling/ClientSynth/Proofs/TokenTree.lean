import ClientSynth.Proofs.Unescape

/-! # Token trees

The first step of reading code: its words, text literals, line comments and punctuation
marks, with whatever stands between two brackets as a tree of its own.  Blanks and line
breaks only separate words.  Text literals are read as `Text.readUntil` reads them, so what
stands inside one is never taken for code. -/
namespace ClientSynth
namespace Code

open Text

/-- The brackets that come in pairs. -/
inductive Bracket where
  | round
  | curly
  deriving Repr, DecidableEq

/-- A piece of code that is not taken apart further before it is understood. -/
inductive Tree where
  /-- An identifier or a keyword. -/
  | word (text : String)
  /-- A text literal with the text that it stands for. -/
  | quoted (content : String)
  /-- A comment up to the end of its line. -/
  | comment (text : String)
  /-- A punctuation mark. -/
  | mark (c : Char)
  /-- What stands between two brackets. -/
  | group (bracket : Bracket) (inside : List Tree)
  deriving Repr

/-- What words consist of: letters, digits and underscores, the mark in the raw form of an
identifier, and everything that is not ASCII. -/
def isWordChar (c : Char) : Bool := !isAscii c || c.isAlphanum || c == '_' || c == '#'

/-- Whether a line goes on with the character. -/
def inLine (c : Char) : Bool := c != '\n'

/-- What a text begins with. -/
inductive Lexeme where
  /-- A blank or a line break. -/
  | blank
  | leaf (tree : Tree)
  | opening (bracket : Bracket)
  | closing (bracket : Bracket)
  deriving Repr

/-- The lexeme that a mark begins, and what follows it. -/
def markLexeme (c : Char) (rest : List Char) : Lexeme × List Char :=
  match c, rest with
  | '(', rest => (.opening .round, rest)
  | ')', rest => (.closing .round, rest)
  | '\x7b', rest => (.opening .curly, rest)
  | '\x7d', rest => (.closing .curly, rest)
  | '/', '/' :: ' ' :: line =>
    (.leaf (.comment (String.ofList (line.takeWhile inLine))),
      line.dropWhile inLine)
  | c, rest => (.leaf (.mark c), rest)

/-- The lexeme at the start, and what follows it.  There is none only where a text literal
does not end. -/
def lexeme (c : Char) (rest : List Char) : Option (Lexeme × List Char) :=
  if c = ' ' ∨ c = '\n' then some (.blank, rest)
  else if isWordChar c then
    some (.leaf (.word (String.ofList (c :: rest.takeWhile isWordChar))),
      rest.dropWhile isWordChar)
  else if c = '\"' then
    (readUntil '\"' rest).map (fun r => (.leaf (.quoted (String.ofList r.1)), r.2))
  else some (markLexeme c rest)

theorem length_markLexeme_le (c : Char) (rest : List Char) :
    (markLexeme c rest).2.length ≤ rest.length := by
  unfold markLexeme
  split
  case h_5 =>
    have hle := (List.dropWhile_sublist inLine (l := ‹List Char›)).length_le
    simp only [List.length_cons]
    omega
  all_goals exact Nat.le_refl _

theorem length_lexeme_le {c : Char} {rest more : List Char} {l : Lexeme}
    (h : lexeme c rest = some (l, more)) : more.length ≤ rest.length := by
  unfold lexeme at h
  split at h
  · cases h
    exact Nat.le_refl _
  split at h
  · cases h
    exact (List.dropWhile_sublist isWordChar (l := rest)).length_le
  split at h
  · obtain ⟨r, hr, heq⟩ := Option.map_eq_some_iff.mp h
    cases heq
    exact Nat.le_of_lt (length_readUntil_lt hr)
  · have hle := length_markLexeme_le c rest
    rw [Option.some.inj h] at hle
    exact hle

/-- The trees of a text: `done` have been read inside the innermost bracket, and `opened` are
the brackets around it, each with the trees in front of it. -/
def scan (done : List Tree) (opened : List (Bracket × List Tree)) (cs : List Char) :
    Option (List Tree) :=
  match cs with
  | [] => if opened.isEmpty then some done else none
  | c :: rest =>
    match h : lexeme c rest with
    | none => none
    | some (l, more) =>
      have : more.length < rest.length + 1 := Nat.lt_succ_of_le (length_lexeme_le h)
      match l with
      | .blank => scan done opened more
      | .leaf tree => scan (done ++ [tree]) opened more
      | .opening bracket => scan [] ((bracket, done) :: opened) more
      | .closing bracket =>
        match opened with
        | [] => none
        | (other, outer) :: others =>
          if other = bracket then scan (outer ++ [.group bracket done]) others more else none
  termination_by cs.length

/-- The trees of a whole text. -/
def treesOf (text : String) : Option (List Tree) := scan [] [] text.toList

/-! ### One lexeme after the other -/

section Scan
variable {c : Char} {rest more : List Char} {done ts : List Tree} {tree : Tree}
  {opened : List (Bracket × List Tree)} {bracket : Bracket}

theorem scan_nil (done : List Tree) : scan done [] [] = some done := by rw [scan]; rfl

theorem scan_blank (h : lexeme c rest = some (.blank, more)) :
    scan done opened (c :: rest) = scan done opened more := by
  rw [scan]
  split
  · next hnone => rw [hnone] at h; cases h
  · next hsome => rw [hsome] at h; cases h; rfl

theorem scan_leaf (h : lexeme c rest = some (.leaf tree, more)) :
    scan done opened (c :: rest) = scan (done ++ [tree]) opened more := by
  rw [scan]
  split
  · next hnone => rw [hnone] at h; cases h
  · next hsome => rw [hsome] at h; cases h; rfl

theorem scan_opening (h : lexeme c rest = some (.opening bracket, more)) :
    scan done opened (c :: rest) = scan [] ((bracket, done) :: opened) more := by
  rw [scan]
  split
  · next hnone => rw [hnone] at h; cases h
  · next hsome => rw [hsome] at h; cases h; rfl

theorem scan_closing (h : lexeme c rest = some (.closing bracket, more)) :
    scan ts ((bracket, done) :: opened) (c :: rest) =
      scan (done ++ [.group bracket ts]) opened more := by
  rw [scan]
  split
  · next hnone => rw [hnone] at h; cases h
  · next hsome => rw [hsome] at h; cases h; exact if_pos rfl

end Scan

/-! ### Texts of trees

A text spells trees if reading it adds them to what has been read, whatever stands around
it.  Only a word at its end needs something behind it that ends the word. -/

section Spells
variable {c : Char} {cs : List Char} {s t : String} {ts us : List Tree}

/-- No word goes on with `cs`. -/
def StopsWord (cs : List Char) : Prop := ∀ c, cs.head? = some c → isWordChar c = false

instance (cs : List Char) : Decidable (StopsWord cs) := cs.head?.decidableForallMem

theorem stopsWord_cons (h : isWordChar c = false) (cs : List Char) : StopsWord (c :: cs) := by
  intro d hd
  cases hd
  exact h

theorem StopsWord.append {ds : List Char} (hcs : StopsWord cs) (hds : StopsWord ds) :
    StopsWord (cs ++ ds) := by
  cases cs with
  | nil => exact hds
  | cons c cs => exact stopsWord_cons (hcs c rfl) _

/-- `s` is read as the trees `ts`, if no word goes on behind it. -/
def Spells (s : String) (ts : List Tree) : Prop :=
  ∀ done opened rest, StopsWord rest →
    scan done opened (s.toList ++ rest) = scan (done ++ ts) opened rest

/-- `s` is read as the trees `ts`, whatever follows. -/
def Encloses (s : String) (ts : List Tree) : Prop :=
  ∀ done opened rest, scan done opened (s.toList ++ rest) = scan (done ++ ts) opened rest

theorem Encloses.spells (h : Encloses s ts) : Spells s ts :=
  fun done opened rest _ => h done opened rest

theorem encloses_empty : Encloses "" [] := by
  intro done opened rest
  rw [String.toList_empty, List.nil_append, List.append_nil]

theorem Encloses.append_spells (hs : Encloses s ts) (ht : Spells t us) :
    Spells (s ++ t) (ts ++ us) := by
  intro done opened rest hrest
  rw [String.toList_append, List.append_assoc, hs, ht _ _ _ hrest, List.append_assoc]

theorem Encloses.append (hs : Encloses s ts) (ht : Encloses t us) :
    Encloses (s ++ t) (ts ++ us) := by
  intro done opened rest
  rw [String.toList_append, List.append_assoc, hs, ht, List.append_assoc]

/-- A word at the end of `s` is ended by `t`. -/
theorem Spells.append (hs : Spells s ts) (ht : Spells t us) (hstops : StopsWord t.toList) :
    Spells (s ++ t) (ts ++ us) := by
  intro done opened rest hrest
  rw [String.toList_append, List.append_assoc, hs _ _ _ (hstops.append hrest), ht _ _ _ hrest,
    List.append_assoc]

theorem Spells.append_encloses (hs : Spells s ts) (ht : Encloses t us)
    (hstops : t ≠ "" ∧ StopsWord t.toList) : Encloses (s ++ t) (ts ++ us) := by
  intro done opened rest
  obtain ⟨hne, hstops⟩ := hstops
  have hrest : StopsWord (t.toList ++ rest) := by
    obtain ⟨c, cs, ht⟩ := List.exists_cons_of_ne_nil (mt String.toList_eq_nil_iff.mp hne)
    rw [ht] at hstops ⊢
    exact stopsWord_cons (hstops c rfl) _
  rw [String.toList_append, List.append_assoc, hs _ _ _ hrest, ht, List.append_assoc]

theorem Spells.treesOf_eq (h : Spells s ts) : treesOf s = some ts := by
  have hscan := h [] [] [] (by decide)
  rwa [List.append_nil, List.nil_append, scan_nil] at hscan

/-- A text spells one list of trees only. -/
theorem Spells.unique (h : Spells s ts) (h' : Spells s us) : ts = us :=
  Option.some.inj (h.treesOf_eq.symm.trans h'.treesOf_eq)

theorem encloses_space : Encloses " " [] := by
  intro done opened rest
  rw [List.append_nil]
  exact scan_blank rfl

theorem encloses_newline : Encloses "\n" [] := by
  intro done opened rest
  rw [List.append_nil]
  exact scan_blank rfl

theorem encloses_spaces (n : Nat) : Encloses (String.ofList (List.replicate n ' ')) [] := by
  induction n with
  | zero => exact encloses_empty
  | succ n ih =>
    rw [List.replicate_succ, ← List.singleton_append, String.ofList_append]
    exact encloses_space.append ih

theorem not_blank_of_isWordChar (h : isWordChar c = true) : ¬ (c = ' ' ∨ c = '\n') := by
  rintro (rfl | rfl) <;> cases h

theorem spells_word (hne : s ≠ "") (h : s.toList.all isWordChar = true) :
    Spells s [.word s] := by
  intro done opened rest hrest
  rw [List.all_eq_true] at h
  obtain ⟨c, cs, hs⟩ := List.exists_cons_of_ne_nil (mt String.toList_eq_nil_iff.mp hne)
  rw [hs] at h
  have hcs : ∀ d ∈ cs, isWordChar d = true := fun d hd => h d (List.mem_cons_of_mem c hd)
  have hhead := h c List.mem_cons_self
  -- What follows does not continue the word.
  have htake : rest.takeWhile isWordChar = [] := by
    cases rest with
    | nil => rfl
    | cons d rest =>
      exact List.takeWhile_cons_of_neg (by rw [hrest d rfl]; exact Bool.false_ne_true)
  have hdrop : rest.dropWhile isWordChar = rest := by
    cases rest with
    | nil => rfl
    | cons d rest =>
      exact List.dropWhile_cons_of_neg (by rw [hrest d rfl]; exact Bool.false_ne_true)
  have hlexeme : lexeme c (cs ++ rest) = some (.leaf (.word s), rest) := by
    rw [lexeme, if_neg (not_blank_of_isWordChar hhead), if_pos hhead,
      List.takeWhile_append_of_pos hcs, List.dropWhile_append_of_pos hcs, htake, hdrop,
      List.append_nil, ← hs, String.ofList_toList]
  rw [hs, List.cons_append]
  exact scan_leaf hlexeme

theorem encloses_quoted (s : String) : Encloses (stringLiteral s) [.quoted s] := by
  intro done opened rest
  have hread := readUntil_escape_append (.inl rfl) s.toList rest
  rw [stringLiteral, String.toList_ofList, List.append_assoc, List.cons_append,
    List.singleton_append]
  refine scan_leaf ?_
  rw [lexeme, if_neg (by decide), if_neg (by decide), if_pos rfl, hread, Option.map_some,
    String.ofList_toList]

/-- The marks of expressions and statements. -/
def marks : List Char := ['&', '!', '|', '.', '?', ',', ':', ';', '=', '-', '>']

theorem lexeme_of_mem_marks (h : c ∈ marks) (rest : List Char) :
    lexeme c rest = some (.leaf (.mark c), rest) := by
  simp only [marks, List.mem_cons, List.not_mem_nil, or_false] at h
  rcases h with rfl | rfl | rfl | rfl | rfl | rfl | rfl | rfl | rfl | rfl | rfl <;> rfl

theorem encloses_mark (h : c ∈ marks) (hs : s.toList = [c]) : Encloses s [.mark c] := by
  intro done opened rest
  rw [hs]
  exact scan_leaf (lexeme_of_mem_marks h rest)

theorem Spells.round (h : Spells s ts) : Encloses ("(" ++ s ++ ")") [.group .round ts] := by
  intro done opened rest
  have hclose : StopsWord (')' :: rest) := stopsWord_cons (by decide) rest
  have hopen : scan done opened ('(' :: (s.toList ++ ')' :: rest)) =
      scan [] ((.round, done) :: opened) (s.toList ++ ')' :: rest) := scan_opening rfl
  rw [String.toList_append, String.toList_append, List.append_assoc, List.append_assoc]
  refine hopen.trans ?_
  rw [h _ _ _ hclose, List.nil_append]
  exact scan_closing rfl

theorem Spells.curly (h : Spells s ts) :
    Encloses ("\x7b" ++ s ++ "\x7d") [.group .curly ts] := by
  intro done opened rest
  have hclose : StopsWord ('\x7d' :: rest) := stopsWord_cons (by decide) rest
  have hopen : scan done opened ('\x7b' :: (s.toList ++ '\x7d' :: rest)) =
      scan [] ((.curly, done) :: opened) (s.toList ++ '\x7d' :: rest) := scan_opening rfl
  rw [String.toList_append, String.toList_append, List.append_assoc, List.append_assoc]
  refine hopen.trans ?_
  rw [h _ _ _ hclose, List.nil_append]
  exact scan_closing rfl

/-- A comment takes the line up to its end. -/
theorem encloses_comment (h : '\n' ∉ s.toList) : Encloses ("// " ++ s ++ "\n") [.comment s] := by
  intro done opened rest
  have hline : ∀ d ∈ s.toList, inLine d = true :=
    fun d hd => bne_iff_ne.mpr fun heq => h (heq ▸ hd)
  have hnewline : ¬ inLine '\n' = true := by decide
  have hlexeme : lexeme '/' ('/' :: ' ' :: (s.toList ++ '\n' :: rest)) =
      some (.leaf (.comment s), '\n' :: rest) := by
    rw [lexeme, if_neg (by decide), if_neg (by decide), if_neg (by decide)]
    show some (Lexeme.leaf (.comment (String.ofList (List.takeWhile _ (s.toList ++ _)))), _) = _
    rw [List.takeWhile_append_of_pos hline, List.takeWhile_cons_of_neg hnewline,
      List.append_nil, List.dropWhile_append_of_pos hline, List.dropWhile_cons_of_neg hnewline,
      String.ofList_toList]
  rw [String.toList_append, String.toList_append, List.append_assoc, List.append_assoc]
  refine (scan_leaf hlexeme).trans ?_
  exact scan_blank rfl

end Spells

end Code
end ClientSynth
