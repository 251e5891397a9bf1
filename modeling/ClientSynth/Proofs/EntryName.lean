import Mathlib.Data.List.Nodup
import ClientSynth.Proofs.Registration
import ClientSynth.Proofs.SnakeCase
import ClientSynth.Proofs.Spelling

/-! # Names of entry points

Groups are told apart by their names as they are, and their entry points by identifiers:
the name of a group is cut into words, the words are run together in camel case between
others, and the whole is cut into words again.  Groups with the same words have entry
points of one name.  The second cut may also find fewer words than the first put in, if a
word does not begin with an uppercase letter or is a single one.  For words that are not
so short and begin with a letter it finds what was put in.  An entry point for clients and
one for wrap layers always differ. -/
namespace ClientSynth

open Contract Code

namespace Text

/-! ### Camel case -/

theorem splitWhere_eq_splitOn (cs : List Char) : splitWhere isUnderscore cs = cs.splitOn '_' := by
  induction cs with
  | nil => rfl
  | cons c cs ih =>
      rw [splitWhere, List.splitOn_cons_eq_if_modifyHead, ih]
      change (if (c == '_') = true then _ else _) = _
      split
      · rfl
      · obtain ⟨first, rest, hsplit⟩ := List.exists_cons_of_ne_nil (List.splitOn_ne_nil '_' cs)
        rw [hsplit]
        rfl

/-- Nothing is written for an empty piece. -/
theorem flatMap_capitalize_filter (ps : List (List Char)) :
    (ps.filter (fun w => !w.isEmpty)).flatMap capitalize = ps.flatMap capitalize := by
  induction ps with
  | nil => rfl
  | cons w ps ih => cases w <;> simp [capitalize, ih]

/-- **Camel case runs the words of a name together.** -/
theorem toList_upperCamelCase (s : String) :
    (upperCamelCase s).toList = (words s.toList).flatMap capitalize := by
  rw [upperCamelCase, String.toList_ofList, splitWhere_eq_splitOn, ← flatMap_capitalize_filter,
    snakeChars_eq_joinWords]
  exact congrArg (List.flatMap capitalize)
    (pieces_joinWords (fun w hw => isWord_of_mem_words hw))

/-- A word of plain characters that begins with a letter and goes on behind it. -/
structure IsOrdinary (w : List Char) : Prop where
  starts : ∃ c rest, w = c :: rest ∧ c.isLower = true ∧ rest ≠ []
  plain : ∀ c ∈ w, isPlain c = true

/-- Capitalized, an ordinary word is still one word, and it ends where it ended. -/
theorem IsOrdinary.capitalize_spec {w : List Char} (h : IsOrdinary w) :
    (∃ c rest, capitalize w = c :: rest ∧ isUpper c = true) ∧ EndsWord (capitalize w) ∧
      words (capitalize w) = [w] := by
  obtain ⟨⟨c, rest, rfl, hlower, hrest⟩, hplain⟩ := h
  obtain ⟨hupper, hcapital, hback⟩ := (of_isPlain (hplain c List.mem_cons_self)).2 hlower
  have hcapitalize : capitalize (c :: rest) = c.toUpper :: rest := by
    rw [capitalize, hupper, List.singleton_append]
  have hareLower : AreLower (c :: rest) := areLower_of_isPlain hplain
  rw [hcapitalize]
  refine ⟨⟨_, rest, rfl, hcapital⟩, ?_, ?_⟩
  · have hlast := (of_isPlain (hplain _ (List.mem_cons_of_mem c (List.getLast_mem hrest)))).1
    refine EndsWord.append ?_ [c.toUpper]
    exact ⟨_, List.getLast?_eq_some_getLast hrest, hlast.1, hlast.2.2⟩
  · -- The letter in front gets its lowercase form back, and the rest is as it stands.
    have hmark : mark none rest.head? c.toUpper = [c] := by
      simp [mark, hcapital, hback, startsWord]
    have htail : AreLower rest := fun d hd => hareLower d (List.mem_cons_of_mem c hd)
    rw [words, marked_cons, hmark, marked_of_areLower htail]
    exact pieces_of_not_mem hareLower.no_underscore (List.cons_ne_nil c rest)

/-- **Ordinary words are cut out of camel case again.** -/
theorem words_append_camelCase {ws : List (List Char)} (hws : ∀ w ∈ ws, IsOrdinary w)
    {front : List Char} (hfront : EndsWord front) {c : Char} (hc : isUpper c = true)
    (back : List Char) :
    words (front ++ (ws.flatMap capitalize ++ c :: back)) =
      words front ++ (ws ++ words (c :: back)) := by
  induction ws generalizing front with
  | nil => exact words_append_upper hfront hc back
  | cons w ws ih =>
      obtain ⟨⟨d, rest, hd, hupper⟩, hends, hword⟩ := (hws w List.mem_cons_self).capitalize_spec
      have hfirst : words (front ++ capitalize w) = words front ++ [w] := by
        rw [hd, words_append_upper hfront hupper, ← hd, hword]
      have hrest := ih (fun v hv => hws v (List.mem_cons_of_mem w hv)) (hends.append front)
      rw [List.flatMap_cons, List.append_assoc, ← List.append_assoc front, hrest, hfirst]
      simp

end Text

namespace Layer

open Text (words)

/-! ### Entry points -/

/-- The words of a group's name; the unnamed group has none. -/
def groupWords (group : Option String) : List (List Char) :=
  (group.map (fun g => words g.toList)).getD []

/-- The words of the name of a group's entry point for clients. -/
def entryWords (group : Option String) : List (List Char) :=
  words (Naming.registrationEntry group false).toList

theorem toList_registrationEntry (group : Option String) (wrap : Bool) :
    (Naming.registrationEntry group wrap).toList =
      "Add".toList ++ ((groupWords group).flatMap Text.capitalize ++ "WebApiHttpClient".toList) ++
        if wrap then "Wrap".toList else [] := by
  have hgroup : ((group.map Text.upperCamelCase).getD "").toList =
      (groupWords group).flatMap Text.capitalize := by
    cases group with
    | none => rfl
    | some g => exact Text.toList_upperCamelCase g
  rw [Naming.registrationEntry, String.toList_append, String.toList_append, String.toList_append,
    hgroup, List.append_assoc "Add".toList]
  cases wrap <;> rfl

/-- Groups with the same words have entry points of the same words. -/
theorem entryWords_congr {g h : Option String} (hwords : groupWords g = groupWords h) :
    entryWords g = entryWords h := by
  rw [entryWords, entryWords, toList_registrationEntry, toList_registrationEntry, hwords]

/-- The last word of an entry point for clients. -/
theorem getLast?_entryWords (group : Option String) :
    (entryWords group).getLast? = some "client".toList := by
  have hsplit : (Naming.registrationEntry group false).toList =
      "Add".toList ++ ((groupWords group).flatMap Text.capitalize ++ "WebApiHttp".toList) ++
        'C' :: "lient".toList := by
    rw [toList_registrationEntry]
    simp
  have hends : Text.EndsWord "WebApiHttp".toList := ⟨'p', by decide⟩
  have hclient : words ('C' :: "lient".toList) = ["client".toList] := by decide
  rw [entryWords, hsplit, Text.words_append_upper ((hends.append _).append _) (by decide), hclient,
    List.getLast?_concat]

/-- The words of an entry point for wrap layers: one more than those of the entry point
for clients. -/
theorem words_registrationEntry_wrap (group : Option String) :
    words (Naming.registrationEntry group true).toList = entryWords group ++ ["wrap".toList] := by
  have hends : Text.EndsWord "WebApiHttpClient".toList := ⟨'t', by decide⟩
  have hwrap : words ('W' :: "rap".toList) = ["wrap".toList] := by decide
  rw [entryWords, toList_registrationEntry, toList_registrationEntry, if_neg Bool.false_ne_true,
    List.append_nil, if_pos rfl, ← hwrap]
  exact Text.words_append_upper ((hends.append _).append _) (by decide) _

/-- **Entry points are alike exactly if** both are for clients or both for wrap layers, and
those for clients are alike. -/
theorem functionName_registrationEntry_eq_iff {g h : Option String} {wrap other : Bool} :
    Identifier.functionName (Naming.registrationEntry g wrap) =
        Identifier.functionName (Naming.registrationEntry h other) ↔
      wrap = other ∧ entryWords g = entryWords h := by
  -- The one ends in `client`, the other in `wrap`.
  have hkinds : ∀ a b, entryWords a ≠ entryWords b ++ ["wrap".toList] := by
    intro a b hsame
    have hlast := getLast?_entryWords a
    rw [hsame, List.getLast?_concat] at hlast
    exact absurd hlast (by decide)
  rw [Identifier.functionName_eq_iff]
  cases wrap <;> cases other
  · exact (and_iff_right rfl).symm
  · rw [words_registrationEntry_wrap]
    exact iff_of_false (hkinds g h) (fun hboth => Bool.false_ne_true hboth.1)
  · rw [words_registrationEntry_wrap]
    exact iff_of_false (fun hsame => hkinds h g hsame.symm)
      (fun hboth => Bool.false_ne_true hboth.1.symm)
  · rw [words_registrationEntry_wrap, words_registrationEntry_wrap, List.append_left_inj]
    exact (and_iff_right rfl).symm

/-- The identifier under which an item declares a function. -/
def functionIdentifier? : Item → Option String
  | .function f => some (Identifier.functionName f.name)
  | _ => none

/-- The identifiers under which the registration unit of a run declares its functions. -/
def entryNames (interfaces : List Interface) (options : Options) : List String :=
  ((registrationUnit interfaces options).map (fun u => u.items.filterMap functionIdentifier?)).getD
    []

/-- The identifiers of the entry points of a group. -/
def namesOf (e : GroupEntries) : List String := e.items.filterMap functionIdentifier?

theorem clientName_mem_namesOf (interfaces : List Interface) (options : Options)
    (group : Option String) : Identifier.functionName (Naming.registrationEntry group false) ∈
      namesOf (entriesOf interfaces options group) :=
  List.mem_filterMap.mpr ⟨_, List.mem_cons_self, rfl⟩

/-- Every entry point of a group has its name, for clients or for wrap layers. -/
theorem mem_namesOf_entriesOf {interfaces : List Interface} {options : Options}
    {group : Option String} {name : String} :
    name ∈ namesOf (entriesOf interfaces options group) →
      ∃ wrap, name = Identifier.functionName (Naming.registrationEntry group wrap) := by
  intro hname
  obtain ⟨item, hitem, hname⟩ := List.mem_filterMap.mp hname
  rw [GroupEntries.items, List.mem_cons, Option.mem_toList, Option.map_eq_some_iff] at hitem
  rcases hitem with rfl | ⟨f, hf, rfl⟩
  · exact ⟨false, (Option.some.inj hname).symm⟩
  · have hentry := (wraps_entriesOf interfaces options group hf).1
    exact ⟨true, hentry ▸ (Option.some.inj hname).symm⟩

theorem nodup_namesOf_entriesOf (interfaces : List Interface) (options : Options)
    (group : Option String) : (namesOf (entriesOf interfaces options group)).Nodup := by
  rw [namesOf, GroupEntries.items]
  cases hwraps : (entriesOf interfaces options group).wraps with
  | none => exact List.nodup_singleton _
  | some f =>
      have hne : Identifier.functionName (Naming.registrationEntry group false) ≠
          Identifier.functionName f.name := by
        rw [(wraps_entriesOf interfaces options group hwraps).1]
        exact fun hsame =>
          Bool.false_ne_true (functionName_registrationEntry_eq_iff.mp hsame).1
      exact List.nodup_cons.mpr ⟨fun hmem => hne (List.mem_singleton.mp hmem),
        List.nodup_singleton _⟩

theorem entryNames_eq (interfaces : List Interface) (options : Options) :
    entryNames interfaces options =
      (groups interfaces).flatMap (fun g => namesOf (entriesOf interfaces options g)) := by
  by_cases hne : interfaces = []
  · subst hne
    rfl
  · obtain ⟨unit, hunit, hitems⟩ := items_registrationUnit hne options
    rw [entryNames, hunit, Option.map_some, Option.getD_some, hitems, List.filterMap_flatMap,
      List.flatMap_map]
    rfl

theorem nodup_entryNames (interfaces : List Interface) (options : Options) :
    (entryNames interfaces options).Nodup ↔
      (groups interfaces).Pairwise (fun g h => entryWords g ≠ entryWords h) := by
  rw [entryNames_eq, List.nodup_flatMap]
  constructor
  · rintro ⟨-, hapart⟩
    refine hapart.imp (fun {g h} hdisjoint hsame => ?_)
    have hname : Identifier.functionName (Naming.registrationEntry g false) =
        Identifier.functionName (Naming.registrationEntry h false) :=
      functionName_registrationEntry_eq_iff.mpr ⟨rfl, hsame⟩
    refine hdisjoint (clientName_mem_namesOf interfaces options g) ?_
    rw [hname]
    exact clientName_mem_namesOf interfaces options h
  · intro hwords
    refine ⟨fun g _ => nodup_namesOf_entriesOf interfaces options g,
      hwords.imp (fun {g h} hne => List.disjoint_left.mpr (fun name hg hh => hne ?_))⟩
    obtain ⟨wrap, hwrap⟩ := mem_namesOf_entriesOf hg
    obtain ⟨other, hother⟩ := mem_namesOf_entriesOf hh
    exact (functionName_registrationEntry_eq_iff.mp (hwrap.symm.trans hother)).2

/-- **When the functions of a registration unit have different names**: exactly if no two
groups have entry points of the same words.  Whether there are wrap layers makes no
difference. -/
theorem entryNames_nodup_iff (interfaces : List Interface) (options : Options) :
    (entryNames interfaces options).Nodup ↔ ((groups interfaces).map entryWords).Nodup := by
  rw [nodup_entryNames, List.Nodup, List.pairwise_map]

/-! ### Groups of ordinary words -/

/-- The words of an ordinary group come back in the name of its entry point. -/
theorem entryWords_of_isOrdinary {group : Option String}
    (h : ∀ w ∈ groupWords group, Text.IsOrdinary w) :
    entryWords group = "add".toList :: (groupWords group ++
      ["web".toList, "api".toList, "http".toList, "client".toList]) := by
  have hends : Text.EndsWord "Add".toList := ⟨'d', by decide⟩
  have hfront : words "Add".toList = ["add".toList] := by decide
  have hback : words ('W' :: "ebApiHttpClient".toList) =
      ["web".toList, "api".toList, "http".toList, "client".toList] := by decide
  rw [entryWords, toList_registrationEntry, if_neg Bool.false_ne_true, List.append_nil]
  refine (Text.words_append_camelCase h hends (c := 'W') (by decide) "ebApiHttpClient".toList).trans
    ?_
  rw [hfront, hback]
  rfl

/-- **Ordinary groups have entry points of different names exactly if** they have
different words. -/
theorem entryNames_nodup_iff_of_isOrdinary {interfaces : List Interface}
    (h : ∀ g ∈ groups interfaces, ∀ w ∈ groupWords g, Text.IsOrdinary w) (options : Options) :
    (entryNames interfaces options).Nodup ↔ ((groups interfaces).map groupWords).Nodup := by
  have hwords : ∀ a ∈ groups interfaces, ∀ b ∈ groups interfaces,
      entryWords a = entryWords b → groupWords a = groupWords b := by
    intro a ha b hb hsame
    rw [entryWords_of_isOrdinary (h a ha), entryWords_of_isOrdinary (h b hb)] at hsame
    exact List.append_cancel_right (List.cons.inj hsame).2
  rw [nodup_entryNames, List.Nodup, List.pairwise_map]
  constructor
  · exact fun hentries => hentries.imp (fun hne hsame => hne (entryWords_congr hsame))
  · exact fun hgroups => hgroups.imp_of_mem
      (fun ha hb hne hsame => hne (hwords _ ha _ hb hsame))

-- A word of one letter is taken for the end of the word in front of it.
example : entryWords (some "a-b") = entryWords (some "ab") := by decide +kernel

/-- Two clients in groups whose names differ in case alone. -/
def adminApis : List Interface :=
  [groupedApi "IUserApi" (some "admin") none, groupedApi "IOrderApi" (some "Admin") none]

/-- **Groups that are kept apart may have entry points of one name.** -/
theorem adminApis_declare_twice :
    ¬ ∀ (interfaces : List Interface) (options : Options),
      (entryNames interfaces options).Nodup := by
  intro hall
  have hdistinct := (nodup_entryNames _ _).mp (hall adminApis ⟨none, none⟩)
  have hgroups : groups adminApis = [some "Admin", some "admin"] := by decide
  rw [hgroups, List.pairwise_pair] at hdistinct
  exact hdistinct (entryWords_congr (by decide))

end Layer
end ClientSynth
