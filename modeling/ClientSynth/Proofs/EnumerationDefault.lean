import ClientSynth.Contract.Default
import ClientSynth.Proofs.Numeral
import ClientSynth.Proofs.Trim

/-! # Default values of enumeration types

The members of an enumeration have numbers.  Where none is given, a member counts on from
the one in front of it.  A default value is looked up twice over: what reads as a whole
number is looked for among the numbers, and whatever else it is, the last part of its text
is looked for among the names.  The two ways do not get into each other's way.  A name that
is no number is found by its name, with the name of the enumeration in front or without it,
and the first member with a number is found by this number, written as one or as text. -/
namespace ClientSynth

namespace Declaration

variable {next n bound : Int} {name : String} {m : Member} {ms : List Member} {e : Enumeration}

/-! ### Counting -/

theorem numbered_cons (next : Int) (m : Member) (ms : List Member) :
    numbered next (m :: ms) =
      (m.name, m.value.getD next) :: numbered (m.value.getD next + 1) ms := rfl

theorem map_fst_numbered (next : Int) (ms : List Member) :
    (numbered next ms).map Prod.fst = ms.map Member.name := by
  induction ms generalizing next with
  | nil => rfl
  | cons m ms ih => rw [numbered_cons, List.map_cons, List.map_cons, ih]

theorem getElem?_numbered_given {i : Nat} (h : ms[i]? = some m) (hvalue : m.value = some n) :
    (numbered next ms)[i]? = some (m.name, n) := by
  induction ms generalizing next i with
  | nil => cases h
  | cons first ms ih =>
    rw [numbered_cons]
    cases i with
    | zero =>
        obtain rfl : first = m := Option.some.inj h
        rw [hvalue]
        rfl
    | succ i => exact ih h

theorem getElem?_numbered_zero (h : ms[0]? = some m) (hvalue : m.value = none) :
    (numbered next ms)[0]? = some (m.name, next) := by
  cases ms with
  | nil => cases h
  | cons first ms =>
    obtain rfl : first = m := Option.some.inj h
    rw [numbered_cons, hvalue]
    rfl

theorem getElem?_numbered_succ {i : Nat} (h : ms[i + 1]? = some m) (hvalue : m.value = none)
    (hprevious : (numbered next ms)[i]? = some (name, n)) :
    (numbered next ms)[i + 1]? = some (m.name, n + 1) := by
  induction ms generalizing next i with
  | nil => cases h
  | cons first ms ih =>
    rw [numbered_cons] at hprevious ⊢
    cases i with
    | zero =>
        have hn : first.value.getD next = n := congrArg Prod.snd (Option.some.inj hprevious)
        rw [hn]
        exact getElem?_numbered_zero h hvalue
    | succ i => exact ih h hprevious

theorem le_of_mem_numbered (hnext : bound ≤ next) (hgiven : ∀ m ∈ ms, ∀ v ∈ m.value, bound ≤ v)
    {p : String × Int} (hp : p ∈ numbered next ms) : bound ≤ p.2 := by
  induction ms generalizing next with
  | nil => cases hp
  | cons m ms ih =>
    have hvalue : bound ≤ m.value.getD next := by
      cases hm : m.value with
      | none => exact hnext
      | some v => exact hgiven m List.mem_cons_self v hm
    rcases List.mem_cons.mp hp with rfl | hp
    · exact hvalue
    · exact ih (Int.le_trans hvalue (Int.le_add_one (Int.le_refl _)))
        (fun m' hm' => hgiven m' (List.mem_cons_of_mem m hm')) hp

/-- The numbers of members: the given one, or one more than that of the member in front. -/
structure CountsUp (ms : List Member) (values : List (String × Int)) : Prop where
  /-- The members keep their names and their order. -/
  names : values.map Prod.fst = ms.map Member.name
  /-- A given number is the member's number. -/
  given : ∀ (i : Nat) (m : Member) (n : Int), ms[i]? = some m → m.value = some n →
    values[i]? = some (m.name, n)
  /-- The first member counts from zero. -/
  first : ∀ m : Member, ms[0]? = some m → m.value = none → values[0]? = some (m.name, 0)
  /-- Any other member counts on. -/
  next : ∀ (i : Nat) (m : Member) (previous : String) (n : Int), ms[i + 1]? = some m →
    m.value = none → values[i]? = some (previous, n) → values[i + 1]? = some (m.name, n + 1)

theorem Enumeration.countsUp (e : Enumeration) : CountsUp e.members e.values where
  names := map_fst_numbered 0 e.members
  given _ _ _ h hvalue := getElem?_numbered_given h hvalue
  first _ h hvalue := getElem?_numbered_zero h hvalue
  next _ _ _ _ h hvalue hprevious := getElem?_numbered_succ h hvalue hprevious

/-- An enumeration whose numbers are words of 64 bits, the largest of them excepted, so that
one more is a word, too. -/
structure Enumeration.IsCountable (e : Enumeration) : Prop where
  given : ∀ m ∈ e.members, ∀ v ∈ m.value, Word.fitsSigned 64 v = true
  below : ∀ p ∈ e.values, p.2 + 1 < Int.ofNat (twoPow 63)

theorem Enumeration.IsCountable.fits (he : e.IsCountable) {p : String × Int}
    (hp : p ∈ e.values) : Word.fitsSigned 64 p.2 = true := by
  have hlow : -Int.ofNat (twoPow 63) ≤ p.2 := by
    refine le_of_mem_numbered (by decide) (fun m hm v hv => ?_) hp
    have hfits := he.given m hm v hv
    simp only [Word.fitsSigned, Bool.and_eq_true, decide_eq_true_eq] at hfits
    exact hfits.1
  have hhigh := he.below p hp
  simp only [Word.fitsSigned, Bool.and_eq_true, decide_eq_true_eq]
  exact ⟨hlow, Int.lt_trans (Int.lt_succ p.2) hhigh⟩

end Declaration

namespace Contract

open Declaration (Enumeration Member CountsUp)

variable {e : Enumeration} {type : DeclaredType} {value : Json.Value} {owner member s : String}

/-! ### The last part of a name -/

/-- What separates the parts of a name. -/
def isPartEnd (c : Char) : Bool := c == '.' || c == ':'

theorem afterLast_concat {p : Char → Bool} {c : Char} {cs : List Char} (front : List Char)
    (hc : p c = true) (hcs : ∀ d ∈ cs, p d = false) :
    Text.afterLast p (front ++ c :: cs) = cs := by
  rw [Text.afterLast, List.reverse_append, List.reverse_cons, List.append_assoc,
    List.takeWhile_append_of_pos (by simpa using hcs), List.singleton_append,
    List.takeWhile_cons_of_neg (by simp [hc]), List.append_nil, List.reverse_reverse]

theorem afterLast_of_none {p : Char → Bool} {cs : List Char} (hcs : ∀ d ∈ cs, p d = false) :
    Text.afterLast p cs = cs := by
  have htake : cs.reverse.takeWhile (fun c => !p c) = cs.reverse :=
    List.takeWhile_eq_self_iff.mpr (by simpa using hcs)
  rw [Text.afterLast, htake, List.reverse_reverse]

theorem lastPart_eq {name : String} (h : Text.afterLast isPartEnd s.toList = name.toList) :
    lastPart s = name :=
  (congrArg String.ofList h).trans String.ofList_toList

/-- A name without separators is its own last part, whatever parts stand in front. -/
theorem lastPart_name {name : String} (hname : ∀ c ∈ name.toList, isPartEnd c = false)
    (front : String) :
    lastPart name = name ∧ lastPart (front ++ "." ++ name) = name ∧
      lastPart (front ++ "::" ++ name) = name := by
  refine ⟨lastPart_eq (afterLast_of_none hname), lastPart_eq ?_, lastPart_eq ?_⟩
  · have hchars : (front ++ "." ++ name).toList = front.toList ++ '.' :: name.toList := by simp
    rw [hchars]
    exact afterLast_concat front.toList (by decide) hname
  · have hchars : (front ++ "::" ++ name).toList =
        (front.toList ++ [':']) ++ ':' :: name.toList := by simp
    rw [hchars]
    exact afterLast_concat (front.toList ++ [':']) (by decide) hname

/-! ### What reads as a whole number -/

/-- A text with a separator of parts does not read as a whole number. -/
theorem wholeNumber?_of_mem {c : Char} (hc : c ∈ s.toList) (hend : isPartEnd c = true) :
    wholeNumber? (.text s) = none := by
  have hplain : Text.isBlank c = false ∧ c.isDigit = false ∧ c ≠ '-' ∧ c ≠ '+' := by
    simp only [isPartEnd, Bool.or_eq_true, beq_iff_eq] at hend
    rcases hend with rfl | rfl <;> decide
  obtain ⟨hblank, hdigit, hminus, hplus⟩ := hplain
  rw [wholeNumber?]
  cases hread : Numeral.signed? (Text.stripBlanks s) with
  | none => rfl
  | some n =>
      have hmem : c ∈ (Text.stripBlanks s).toList := by
        rw [Text.stripBlanks, String.toList_ofList]
        exact Text.mem_trim (by simp [hblank]) hc
      rcases Numeral.of_mem_of_signed?_eq_some hread hmem with h | h | h
      · rw [hdigit] at h; cases h
      · exact absurd h hminus
      · exact absurd h hplus

theorem not_isBlank_of_isDigit {c : Char} (h : c.isDigit = true) : ¬ Text.isBlank c = true := by
  have hdigits : ∀ d < 10, ¬ Text.isBlank (Nat.digitChar d) = true := by decide
  obtain ⟨d, hd, rfl⟩ := Numeral.exists_digit_of_isDigit h
  exact hdigits d hd

/-- The text of a whole number reads as this number, also between blanks. -/
theorem wholeNumber?_text {n : Int} (hn : Word.fitsSigned 64 n = true) {front back : String}
    (hfront : Text.isBlankText front = true) (hback : Text.isBlankText back = true) :
    wholeNumber? (.text (front ++ toString n ++ back)) = some n := by
  have hchars : ∀ c ∈ (toString n).toList, ¬ Text.isBlank c = true := by
    intro c hc
    have hread := Numeral.of_mem_of_signed?_eq_some (Numeral.signed?_toString hn) hc
    rcases hread with h | rfl | rfl
    · exact fun hblank => not_isBlank_of_isDigit h hblank
    · decide
    · decide
  have hstrip : Text.stripBlanks (front ++ toString n ++ back) = toString n := by
    rw [Text.stripBlanks, String.toList_append, String.toList_append,
      Text.trim_between (List.all_eq_true.mp hfront) hchars (List.all_eq_true.mp hback),
      String.ofList_toList]
  rw [wholeNumber?, hstrip, Numeral.signed?_toString hn]

/-! ### Looking up -/

/-- A member is found by its number, and a number that no member has is kept. -/
theorem enumerationLiteral_number {n : Int} (h : wholeNumber? value = some n) :
    enumerationLiteral value type (some e) =
      match e.values.find? (fun m => m.2 == n) with
      | some (member, _) => .member e.name member
      | none => .memberNumber e.name (toString n) := by
  rw [enumerationLiteral, h]
  rfl

/-- A member is found by its name, and any other text is kept. -/
theorem enumerationLiteral_name (h : wholeNumber? value = none) :
    enumerationLiteral value type (some e) =
      match e.values.find? (fun m => m.1 == lastPart (textual value)) with
      | some (member, _) => .member e.name member
      | none => .text (textual value) := by
  rw [enumerationLiteral, h]
  rfl

/-- A default of an enumeration type is looked up, unless it is `null`. -/
theorem ofDefault_enumeration (htype : type.family = .enumeration) (hvalue : value ≠ .null) :
    Literal.ofDefault value type (some e) = enumerationLiteral value type (some e) := by
  cases value with
  | null => exact absurd rfl hvalue
  | _ => simp only [Literal.ofDefault, htype]

theorem mem_names_of_mem_values {p : String × Int} (hp : p ∈ e.values) :
    p.1 ∈ e.members.map Member.name := by
  rw [← (e.countsUp).names]
  exact List.mem_map_of_mem hp

theorem enumerationLiteral_member
    (h : enumerationLiteral value type (some e) = .member owner member) :
    owner = e.name ∧ member ∈ e.members.map Member.name := by
  cases hnumber : wholeNumber? value with
  | some n =>
      rw [enumerationLiteral_number hnumber] at h
      split at h
      · next found _ hfound =>
        cases h
        exact ⟨rfl, mem_names_of_mem_values (List.mem_of_find?_eq_some hfound)⟩
      · cases h
  | none =>
      rw [enumerationLiteral_name hnumber] at h
      split at h
      · next found _ hfound =>
        cases h
        exact ⟨rfl, mem_names_of_mem_values (List.mem_of_find?_eq_some hfound)⟩
      · cases h

theorem enumerationLiteral_memberNumber {number : String}
    (h : enumerationLiteral value type (some e) = .memberNumber owner number) :
    owner = e.name ∧ ∃ n : Int, number = toString n ∧ ∀ p ∈ e.values, p.2 ≠ n := by
  cases hnumber : wholeNumber? value with
  | some n =>
      rw [enumerationLiteral_number hnumber] at h
      split at h
      · cases h
      · next hnone =>
        cases h
        refine ⟨rfl, n, rfl, fun p hp => ?_⟩
        simpa using List.find?_eq_none.mp hnone p hp
  | none =>
      rw [enumerationLiteral_name hnumber] at h
      split at h <;> cases h

variable {n : Int} {before after : List (String × Int)}

/-- The first member with a number is found by it. -/
theorem enumerationLiteral_first (hvalues : e.values = before ++ (member, n) :: after)
    (hfirst : ∀ p ∈ before, p.2 ≠ n) (h : wholeNumber? value = some n) :
    enumerationLiteral value type (some e) = .member e.name member := by
  have hfound : e.values.find? (fun m => m.2 == n) = some (member, n) := by
    refine List.find?_eq_some_iff_append.mpr ⟨beq_self_eq_true n, before, after, hvalues, ?_⟩
    intro p hp
    simpa using hfirst p hp
  rw [enumerationLiteral_number h, hfound]

/-- The numbers of a countable enumeration are words. -/
theorem fits_of_values (he : e.IsCountable)
    (hvalues : e.values = before ++ (member, n) :: after) : Word.fitsSigned 64 n = true := by
  have hmem : (member, n) ∈ e.values := by
    rw [hvalues]
    exact List.mem_append_right before List.mem_cons_self
  exact he.fits hmem

/-- A declared member is found by the last part of a text that is no number. -/
theorem enumerationLiteral_named {m : Member} (hm : m ∈ e.members)
    (h : wholeNumber? (.text s) = none) (hlast : lastPart s = m.name) :
    enumerationLiteral (.text s) type (some e) = .member e.name m.name := by
  rw [enumerationLiteral_name h, textual, hlast]
  split
  · next found _ hfound =>
    have hname : found = m.name := by simpa using List.find?_some hfound
    rw [hname]
  · next hnone =>
    -- The members are all there under their names.
    have hmem : m.name ∈ e.values.map Prod.fst := by
      rw [(e.countsUp).names]
      exact List.mem_map_of_mem hm
    obtain ⟨p, hp, hname⟩ := List.mem_map.mp hmem
    exact absurd (beq_iff_eq.mpr hname) (List.find?_eq_none.mp hnone p hp)

/-! ### Reading defaults -/

/-- A name by which a member can be told: it is no number, and no part of it would be taken
for the whole. -/
structure IsPlainName (name : String) : Prop where
  parts : ∀ c ∈ name.toList, isPartEnd c = false
  number : wholeNumber? (.text name) = none

/-- How the defaults of an enumeration type are to be read. -/
structure ReadsMembers (e : Enumeration) (read : Json.Value → Literal) : Prop where
  /-- The members of the enumeration are numbered. -/
  counted : CountsUp e.members e.values
  /-- Only declared members are read. -/
  declared : ∀ value owner member, read value = .member owner member →
    owner = e.name ∧ member ∈ e.members.map Member.name
  /-- Only whole numbers that no member has are left as numbers. -/
  vacant : ∀ value owner number, read value = .memberNumber owner number →
    owner = e.name ∧ ∃ n : Int, number = toString n ∧ ∀ p ∈ e.values, p.2 ≠ n
  /-- A member is read from its name, with the name of the enumeration in front or without. -/
  named : ∀ m ∈ e.members, IsPlainName m.name →
    ∀ s ∈ [m.name, e.name ++ "." ++ m.name, e.name ++ "::" ++ m.name],
      read (.text s) = .member e.name m.name
  /-- The first member with a number is read from this number. -/
  number : ∀ before member n after, e.values = before ++ (member, n) :: after →
    (∀ p ∈ before, p.2 ≠ n) → read (.number (.integer n)) = .member e.name member
  /-- It is read from the text of the number, too, and blanks around it do not count. -/
  numeral : ∀ before member n after, e.values = before ++ (member, n) :: after →
    (∀ p ∈ before, p.2 ≠ n) → ∀ front back, Text.isBlankText front = true →
      Text.isBlankText back = true →
        read (.text (front ++ toString n ++ back)) = .member e.name member

/-- **Defaults name the members of their enumeration**, by name or by number, and what is
left as a number is the number of none. -/
theorem ofDefault_readsMembers (he : e.IsCountable) (htype : type.family = .enumeration) :
    ReadsMembers e (fun value => Literal.ofDefault value type (some e)) where
  counted := e.countsUp
  declared value owner member h := by
    by_cases hnull : value = .null
    · subst hnull
      cases h
    · exact enumerationLiteral_member ((ofDefault_enumeration htype hnull).symm.trans h)
  vacant value owner number h := by
    by_cases hnull : value = .null
    · subst hnull
      cases h
    · exact enumerationLiteral_memberNumber ((ofDefault_enumeration htype hnull).symm.trans h)
  named m hm hname s hs := by
    obtain ⟨halone, hdot, hcolons⟩ := lastPart_name hname.parts e.name
    rw [ofDefault_enumeration htype (by simp)]
    simp only [List.mem_cons, List.not_mem_nil, or_false] at hs
    -- The name alone, behind a point, and behind colons.
    rcases hs with rfl | rfl | rfl
    · exact enumerationLiteral_named hm hname.number halone
    · exact enumerationLiteral_named hm (wholeNumber?_of_mem (c := '.') (by simp) rfl) hdot
    · exact enumerationLiteral_named hm (wholeNumber?_of_mem (c := ':') (by simp) rfl) hcolons
  number before member n after hvalues hfirst := by
    have hnumber : wholeNumber? (.number (.integer n)) = some n := by
      rw [wholeNumber?, Number.signed?, if_pos (fits_of_values he hvalues)]
    rw [ofDefault_enumeration htype (by simp)]
    exact enumerationLiteral_first hvalues hfirst hnumber
  numeral before member n after hvalues hfirst front back hfront hback := by
    have hnumber := wholeNumber?_text (fits_of_values he hvalues) hfront hback
    rw [ofDefault_enumeration htype (by simp)]
    exact enumerationLiteral_first hvalues hfirst hnumber

/-- An enumeration whose numbers start below zero, are given or counted, and come twice. -/
def levels : Enumeration where
  name := "Level"
  members := [⟨"Low", some (-1)⟩, ⟨"Middle", none⟩, ⟨"High", some 0⟩, ⟨"Top", none⟩]

theorem levels_readsMembers :
    levels.IsCountable ∧ (DeclaredType.mk "Level" "Level" .enumeration false none).family =
        .enumeration ∧
      ReadsMembers levels (fun value => Literal.ofDefault value
        (DeclaredType.mk "Level" "Level" .enumeration false none) (some levels)) := by
  have hcountable : levels.IsCountable := ⟨by decide, by decide⟩
  exact ⟨hcountable, rfl, ofDefault_readsMembers hcountable rfl⟩

end Contract
end ClientSynth
