import Mathlib.Data.List.Nodup
import Mathlib.Data.List.Perm.Subperm
import ClientSynth.Code.Identifier
import ClientSynth.Proofs.EdgeUnderscore
import ClientSynth.Request.Locals

/-! # Locals beside parameters

A local is a plain word with underscores behind it.  It is written as it stands,
and since no parameter has its snake case, no parameter is written like it. -/
namespace ClientSynth
namespace Request

open Code

/-! ### Free names -/

theorem toList_suffixed (base : String) (count : Nat) :
    (suffixed base count).toList = base.toList ++ List.replicate count '_' := by
  rw [suffixed, String.toList_append, String.toList_ofList]

theorem suffixed_injective (base : String) : Function.Injective (suffixed base) := by
  intro m n h
  have hlength := congrArg (fun s => s.toList.length) h
  simpa [toList_suffixed] using hlength

theorem suffixed_zero (base : String) : suffixed base 0 = base := by simp [suffixed]

/-- Among more suffixed names than are taken one is free. -/
theorem exists_free (taken : List String) (base : String) :
    ∃ k ∈ List.range (taken.length + 1), suffixed base k ∉ taken := by
  by_contra hall
  have hsubset : (List.range (taken.length + 1)).map (suffixed base) ⊆ taken := by
    intro name hname
    obtain ⟨k, hk, rfl⟩ := List.mem_map.mp hname
    by_contra hnot
    exact hall ⟨k, hk, hnot⟩
  have hnodup : ((List.range (taken.length + 1)).map (suffixed base)).Nodup :=
    List.nodup_range.map (suffixed_injective base)
  -- Too many names to fit in, since no two counts give the same.
  have hlength := (hnodup.subperm hsubset).length_le
  rw [List.length_map, List.length_range] at hlength
  omega

/-- `name` is `base` with the fewest underscores behind it that make it differ from all of
`taken`. -/
def IsFirstFree (taken : List String) (base name : String) : Prop :=
  ∃ count, name = suffixed base count ∧ name ∉ taken ∧
    ∀ fewer < count, suffixed base fewer ∈ taken

theorem freeName_isFirstFree (taken : List String) (base : String) :
    IsFirstFree taken base (freeName taken base) := by
  rw [freeName]
  cases hfound : (List.range (taken.length + 1)).find?
      (fun k => !taken.contains (suffixed base k)) with
  | none =>
      obtain ⟨k, hk, hnot⟩ := exists_free taken base
      exact absurd (List.find?_eq_none.mp hfound k hk) (by simpa using hnot)
  | some count =>
      obtain ⟨hfree, -, hbefore⟩ := List.find?_range_eq_some.mp hfound
      exact ⟨count, rfl, by simpa using hfree, fun fewer hlt => by simpa using hbefore fewer hlt⟩

theorem freeName_not_mem (taken : List String) (base : String) : freeName taken base ∉ taken := by
  obtain ⟨-, -, hfree, -⟩ := freeName_isFirstFree taken base
  exact hfree

theorem getLast?_suffixed_ne {base : String} {c : Char} (hc : '_' ≠ c)
    (h : base.toList.getLast? ≠ some c) (count : Nat) :
    (suffixed base count).toList.getLast? ≠ some c := by
  rw [toList_suffixed]
  cases count with
  | zero => rwa [List.replicate_zero, List.append_nil]
  | succ n =>
      rw [List.replicate_succ', ← List.append_assoc, List.getLast?_concat]
      exact fun hlast => hc (Option.some.inj hlast)

/-! ### Plain words -/

/-- A word of lowercase letters that is written as it stands. -/
structure IsPlainWord (word : String) : Prop where
  nonempty : word.toList ≠ []
  lower : word.toList.all Char.isLower = true
  snake : Text.snakeChars word.toList = word.toList
  escape : Identifier.escape word = word

instance (word : String) : Decidable (IsPlainWord word) :=
  decidable_of_iff
    (word.toList ≠ [] ∧ word.toList.all Char.isLower = true ∧
      Text.snakeChars word.toList = word.toList ∧ Identifier.escape word = word)
    ⟨fun h => ⟨h.1, h.2.1, h.2.2.1, h.2.2.2⟩, fun h => ⟨h.nonempty, h.lower, h.snake, h.escape⟩⟩

/-- What locals are called when no parameter is. -/
def baseNames : List String :=
  ["path", "query", "url", "builder", "request", "response", "status", "body", "text", "result",
    "error"]

theorem isPlainWord_of_mem_baseNames : ∀ word ∈ baseNames, IsPlainWord word := by decide

/-- The variable that stands for one item of a sequence. -/
theorem isPlainWord_item : IsPlainWord "item" := by decide

section PlainWord
variable {word : String} (hword : IsPlainWord word)
include hword

theorem IsPlainWord.isLower : ∀ c ∈ word.toList, c.isLower = true :=
  List.all_eq_true.mp hword.lower

theorem IsPlainWord.no_underscore : ∀ c ∈ word.toList, ¬ Text.isUnderscore c = true := by
  intro c hc hunderscore
  have hlower := hword.isLower c hc
  rw [eq_of_beq hunderscore] at hlower
  exact absurd hlower (by decide)

/-- A plain word begins with a letter. -/
theorem IsPlainWord.exists_cons :
    ∃ c cs, word.toList = c :: cs ∧ c.isLower = true ∧ ¬ Text.isUnderscore c = true := by
  obtain ⟨c, cs, hcs⟩ := List.exists_cons_of_ne_nil hword.nonempty
  have hc : c ∈ word.toList := hcs ▸ List.mem_cons_self
  exact ⟨c, cs, hcs, hword.isLower c hc, hword.no_underscore c hc⟩

/-- Without its underscores a suffixed word is the word. -/
theorem IsPlainWord.filter_suffixed (count : Nat) :
    (suffixed word count).toList.filter (fun c => !Text.isUnderscore c) = word.toList := by
  rw [toList_suffixed, List.filter_append, List.filter_replicate, List.filter_eq_self.mpr]
  · simp [Text.isUnderscore]
  · intro c hc
    simpa using hword.no_underscore c hc

/-- Different words stay different whatever underscores they get. -/
theorem IsPlainWord.eq_of_suffixed {other : String} (hother : IsPlainWord other) {m n : Nat}
    (h : suffixed word m = suffixed other n) : word = other := by
  have hfilter := hword.filter_suffixed m
  rw [h, hother.filter_suffixed n] at hfilter
  exact String.toList_inj.mp hfilter.symm

/-- The characters of a suffixed word are letters and underscores. -/
theorem IsPlainWord.suffixed_chars (count : Nat) :
    ∀ c ∈ (suffixed word count).toList, c.isLower = true ∨ c = '_' := by
  intro c hc
  rw [toList_suffixed] at hc
  rcases List.mem_append.mp hc with hc | hc
  · exact Or.inl (hword.isLower c hc)
  · exact Or.inr (List.eq_of_mem_replicate hc)

theorem IsPlainWord.suffixed_ne_underscore (count : Nat) (rest : String) :
    suffixed word count ≠ "_" ++ rest := by
  intro h
  obtain ⟨c, cs, hcs, hlower, -⟩ := hword.exists_cons
  have hhead := congrArg (fun s : String => s.toList.head?) h
  simp only [toList_suffixed, hcs, String.toList_append] at hhead
  have hc : c = '_' := Option.some.inj hhead
  rw [hc] at hlower
  exact absurd hlower (by decide)

end PlainWord

/-! ### How names are written -/

section Written
variable {word : String} (hword : IsPlainWord word)
include hword

theorem IsPlainWord.snakeIdentChars_eq : Text.snakeIdentChars word.toList = word.toList := by
  obtain ⟨c, cs, hcs, -, hc⟩ := hword.exists_cons
  have hlead : word.toList.takeWhile Text.isUnderscore = [] := by
    rw [hcs, List.takeWhile_cons_of_neg hc]
  have htrail : word.toList.reverse.takeWhile Text.isUnderscore = [] := by
    apply List.takeWhile_eq_nil_iff.mpr
    intro h
    exact hword.no_underscore _ (List.mem_reverse.mp (List.getElem_mem h))
  have hcore := Text.trim_between (List.forall_mem_nil _) hword.no_underscore
    (List.forall_mem_nil _)
  rw [List.nil_append, List.append_nil] at hcore
  simp only [Text.snakeIdentChars, hcore, hlead, htrail, if_neg hword.nonempty, hword.snake,
    List.nil_append, List.reverse_nil, List.append_nil]

/-- A suffixed word keeps its underscores in snake case. -/
theorem IsPlainWord.snakeIdent_suffixed (count : Nat) :
    Text.snakeIdent (suffixed word count) = suffixed word count := by
  apply String.toList_inj.mp
  rw [Text.snakeIdent, String.toList_ofList, toList_suffixed,
    Text.snakeIdentChars_append_replicate, hword.snakeIdentChars_eq]

/-- A suffixed word is written as it stands. -/
theorem IsPlainWord.variableName_suffixed (count : Nat) :
    Identifier.variableName (suffixed word count) = suffixed word count := by
  have hall : ¬ (suffixed word count).toList.all Text.isUnderscore = true := by
    obtain ⟨c, cs, hcs, -, hc⟩ := hword.exists_cons
    intro h
    rw [toList_suffixed, hcs] at h
    exact hc (List.all_eq_true.mp h c List.mem_cons_self)
  rw [Identifier.variableName, if_neg hall]
  dsimp only
  rw [hword.snakeIdent_suffixed]
  split
  · rfl
  · rename_i hends
    cases count with
    | zero => simpa [suffixed] using hword.escape
    | succ n =>
        have hlast : (suffixed word (n + 1)).toList.getLast? = some '_' := by
          rw [toList_suffixed, List.replicate_succ', ← List.append_assoc, List.getLast?_concat]
        exact absurd (Or.inr hlast) hends

/-- A name that is escaped to a suffixed word is that word: escaping changes reserved
words, or puts a `#` or an underscore in front. -/
theorem IsPlainWord.eq_of_escape {name : String} {count : Nat}
    (h : Identifier.escape name = suffixed word count) : name = suffixed word count := by
  unfold Identifier.escape at h
  split at h
  · exact absurd h.symm (hword.suffixed_ne_underscore count "")
  · split at h
    · rename_i hreserved
      -- A reserved word gets an underscore behind it; with underscores left out it would be the
      -- plain word, which is not reserved.
      have hletters : ∀ r ∈ Identifier.reserved,
          (r ++ "_").toList.filter (fun c => !Text.isUnderscore c) = r.toList ∧
            Identifier.escape r ≠ r := by decide
      obtain ⟨hsame, hescape⟩ := hletters name (List.contains_iff_mem.mp hreserved)
      have hfilter := hword.filter_suffixed count
      rw [← h, hsame] at hfilter
      rw [String.toList_inj.mp hfilter] at hescape
      exact absurd hword.escape hescape
    · split at h
      · have hhash : '#' ∈ (suffixed word count).toList := by
          rw [← h, String.toList_append]
          exact List.mem_append_left _ (by decide)
        exact absurd (hword.suffixed_chars count _ hhash) (by decide)
      · split at h
        · exact absurd h.symm (hword.suffixed_ne_underscore count _)
        · exact h

/-- Only names with its snake case are written like a suffixed word. -/
theorem IsPlainWord.snakeIdent_of_variableName {name : String} {count : Nat}
    (h : Identifier.variableName name = suffixed word count) :
    Text.snakeIdent name = suffixed word count := by
  unfold Identifier.variableName at h
  split at h
  · exact absurd h.symm (hword.suffixed_ne_underscore count "")
  · dsimp only at h
    split at h
    · exact h
    · exact hword.eq_of_escape h

end Written

/-- A local that avoids the names of the parameters is written like none of them. -/
theorem variableName_ne_freeName {word : String} (hword : IsPlainWord word) {params : List String}
    {name : String} (hname : name ∈ params) :
    Identifier.variableName name ≠
      Identifier.variableName (freeName (params.map Text.snakeIdent) word) := by
  intro h
  have hmem : Text.snakeIdent name ∈ params.map Text.snakeIdent := List.mem_map_of_mem hname
  rw [freeName, hword.variableName_suffixed] at h
  rw [hword.snakeIdent_of_variableName h] at hmem
  exact freeName_not_mem _ word hmem

theorem toList_beside (params : List String) : (Locals.beside params).toList =
    baseNames.map (freeName (params.map Text.snakeIdent)) := rfl

/-- The locals beside some parameters are written like none of them. -/
theorem variableName_beside_ne {params : List String} {name : String}
    (hname : name ∈ (Locals.beside params).toList) {param : String} (hparam : param ∈ params) :
    Identifier.variableName name ≠ Identifier.variableName param := by
  rw [toList_beside] at hname
  obtain ⟨word, hword, rfl⟩ := List.mem_map.mp hname
  exact (variableName_ne_freeName (isPlainWord_of_mem_baseNames word hword) hparam).symm

/-- Locals called after different words are written differently. -/
theorem variableName_freeName_ne {word other : String} (hword : IsPlainWord word)
    (hother : IsPlainWord other) (hne : word ≠ other) (taken : List String) :
    Identifier.variableName (freeName taken word) ≠ Identifier.variableName other := by
  intro h
  rw [← suffixed_zero other, freeName, hword.variableName_suffixed, hother.variableName_suffixed] at h
  exact hne (hword.eq_of_suffixed hother h)

/-! ### Names of joined values -/

/-- Snake case of a text that ends in a small `s` ends in it. -/
theorem snakeChars_concat (cs : List Char) : ∃ ds, Text.snakeChars (cs ++ ['s']) = ds ++ ['s'] := by
  -- The result is built in reverse, whatever comes before the last character.
  have hfrom : ∀ prev out, ∃ ds, Text.snakeFrom prev out (cs ++ ['s']) = 's' :: ds := by
    induction cs with
    | nil => exact fun prev out => ⟨out, rfl⟩
    | cons c cs ih => exact fun prev out => ih _ _
  obtain ⟨ds, hds⟩ := hfrom none []
  rw [Text.snakeChars, hds, List.reverse_cons, Text.trim_concat (by decide)]
  exact ⟨_, rfl⟩

theorem snakeIdent_concat {name : String} {cs : List Char} (h : name.toList = cs ++ ['s']) :
    ∃ ds, (Text.snakeIdent name).toList = ds ++ ['s'] := by
  have hs : ¬ Text.isUnderscore 's' = true := by decide
  have hcore := Text.trim_concat hs cs
  obtain ⟨ds, hds⟩ := snakeChars_concat (cs.dropWhile Text.isUnderscore)
  refine ⟨(cs ++ ['s']).takeWhile Text.isUnderscore ++ ds, ?_⟩
  rw [Text.snakeIdent, String.toList_ofList, h, Text.snakeIdentChars]
  simp only [hcore, hds, List.reverse_append, List.reverse_singleton, List.singleton_append,
    List.takeWhile_cons_of_neg hs, List.reverse_nil, List.append_nil, List.append_assoc]
  exact if_neg (List.append_ne_nil_of_right_ne_nil _ (List.cons_ne_nil _ _))

/-- The list of joined values is written like no local but `status`. -/
theorem variableName_joined_ne {word : String} (hword : IsPlainWord word)
    (hlast : word.toList.getLast? ≠ some 's') (name : String) (taken : List String) :
    Identifier.variableName (name ++ "_values") ≠
      Identifier.variableName (freeName taken word) := by
  intro h
  rw [freeName, hword.variableName_suffixed] at h
  have hname : (name ++ "_values").toList = (name.toList ++ "_value".toList) ++ ['s'] := by
    rw [String.toList_append, List.append_assoc]
    rfl
  obtain ⟨ds, hds⟩ := snakeIdent_concat hname
  rw [hword.snakeIdent_of_variableName h] at hds
  exact getLast?_suffixed_ne (by decide) hlast _ (hds ▸ List.getLast?_concat)

end Request
end ClientSynth
