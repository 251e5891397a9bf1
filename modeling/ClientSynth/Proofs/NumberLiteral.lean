import Mathlib.Data.List.TakeWhile
import ClientSynth.Proofs.Numeral

/-! # Number literals

The number literals of the generated code, and which spellings of numbers are such literals.
A whole number is a run of decimal digits.  A floating-point number has a point behind its
digits, which may end the literal, or an exponent.  Numbers are read more freely than that:
a plus sign may stand in front, the digits may start behind the point or stop at it with an
exponent to follow, and there are words for infinity and for no number at all.  Once the
minus sign is put aside, a numeral is a literal exactly if it begins with a digit and has no
exponent directly behind its point.  The text of a binary number always is one. -/
namespace ClientSynth
namespace Numeral

/-! ### The grammar -/

/-- One or more decimal digits. -/
def IsDigits (cs : List Char) : Prop := cs ≠ [] ∧ ∀ c ∈ cs, c.isDigit = true

/-- The letters that an exponent may begin with. -/
def IsExponentMark (c : Char) : Prop := c = 'e' ∨ c = 'E'

/-- An exponent: its mark and digits, with or without a sign. -/
inductive IsExponent : List Char → Prop where
  | unsigned {c : Char} {digits : List Char} (hmark : IsExponentMark c)
      (hdigits : IsDigits digits) : IsExponent (c :: digits)
  | signed {c sign : Char} {digits : List Char} (hmark : IsExponentMark c)
      (hsign : sign = '-' ∨ sign = '+') (hdigits : IsDigits digits) :
      IsExponent (c :: sign :: digits)

/-- A literal of a floating-point type. -/
inductive IsFloatLiteral : List Char → Prop where
  /-- Nothing follows the point. -/
  | point {whole : List Char} (hwhole : IsDigits whole) : IsFloatLiteral (whole ++ ['.'])
  /-- Decimal places follow the point, and an exponent may follow them. -/
  | fraction {whole places exponent : List Char} (hwhole : IsDigits whole)
      (hplaces : IsDigits places) (hexponent : exponent = [] ∨ IsExponent exponent) :
      IsFloatLiteral (whole ++ '.' :: (places ++ exponent))
  /-- There is no point. -/
  | exponent {whole exponent : List Char} (hwhole : IsDigits whole)
      (hexponent : IsExponent exponent) :
      IsFloatLiteral (whole ++ exponent)

/-- What follows a minus sign, or all of `cs` without one. -/
def afterMinus : List Char → List Char
  | '-' :: rest => rest
  | cs => cs

/-- What follows the first point. -/
def afterPoint (cs : List Char) : List Char := (cs.dropWhile (fun c => c != '.')).tail

variable {c : Char} {cs digits body : List Char} {n : String}

/-! ### Digits and marks -/

theorem IsDigits.append (h : IsDigits cs) (h' : ∀ c ∈ digits, c.isDigit = true) :
    IsDigits (cs ++ digits) := by
  refine ⟨by simp [h.1], fun c hc => ?_⟩
  rcases List.mem_append.mp hc with hc | hc
  · exact h.2 c hc
  · exact h' c hc

theorem isDigits_toDigits (n : Nat) : IsDigits (Nat.toDigits 10 n) :=
  ⟨Nat.toDigits_ne_nil, fun _ hc => isDigit_of_mem_toDigits hc⟩

theorem isDigits_zero : IsDigits ['0'] := by
  refine ⟨by simp, fun c hc => ?_⟩
  rw [List.mem_singleton.mp hc]
  decide

theorem IsDigits.head? (h : IsDigits cs) (rest : List Char) :
    ∃ c, (cs ++ rest).head? = some c ∧ c.isDigit = true := by
  obtain ⟨hne, hdigits⟩ := h
  cases cs with
  | nil => exact absurd rfl hne
  | cons c cs => exact ⟨c, rfl, hdigits c List.mem_cons_self⟩

/-- A digit is no point, no mark and no sign. -/
theorem ne_of_isDigit (h : c.isDigit = true) :
    c ≠ '.' ∧ ¬ IsExponentMark c ∧ c ≠ '-' ∧ c ≠ '+' := by
  refine ⟨?_, ?_, ?_, ?_⟩
  · rintro rfl
    exact absurd h (by decide)
  · rintro (rfl | rfl) <;> exact absurd h (by decide)
  · rintro rfl
    exact absurd h (by decide)
  · rintro rfl
    exact absurd h (by decide)

theorem IsExponent.exists_mark (h : IsExponent cs) :
    ∃ c rest, cs = c :: rest ∧ IsExponentMark c := by
  cases h with
  | unsigned hmark _ => exact ⟨_, _, rfl, hmark⟩
  | signed hmark _ _ => exact ⟨_, _, rfl, hmark⟩

theorem IsExponent.no_point (h : IsExponent cs) : ∀ c ∈ cs, c ≠ '.' := by
  have hmark : ∀ {d : Char}, IsExponentMark d → d ≠ '.' := by
    rintro d (rfl | rfl) <;> decide
  intro c hc
  cases h with
  | unsigned hm hdigits =>
      rcases List.mem_cons.mp hc with rfl | hc
      · exact hmark hm
      · exact (ne_of_isDigit (hdigits.2 c hc)).1
  | signed hm hsign hdigits =>
      rcases List.mem_cons.mp hc with rfl | hc
      · exact hmark hm
      · rcases List.mem_cons.mp hc with rfl | hc
        · rcases hsign with rfl | rfl <;> decide
        · exact (ne_of_isDigit (hdigits.2 c hc)).1

theorem IsFloatLiteral.head? (h : IsFloatLiteral cs) :
    ∃ c, cs.head? = some c ∧ c.isDigit = true := by
  cases h with
  | point hwhole => exact hwhole.head? _
  | fraction hwhole _ _ => exact hwhole.head? _
  | exponent hwhole _ => exact hwhole.head? _

/-- A literal of a floating-point type has a point or an exponent. -/
theorem IsFloatLiteral.exists_mark (h : IsFloatLiteral cs) :
    ∃ c ∈ cs, c = '.' ∨ IsExponentMark c := by
  cases h with
  | point _ => exact ⟨'.', by simp, .inl rfl⟩
  | fraction _ _ _ => exact ⟨'.', by simp, .inl rfl⟩
  | exponent _ hexponent =>
      obtain ⟨c, rest, rfl, hmark⟩ := hexponent.exists_mark
      exact ⟨c, by simp, .inr hmark⟩

theorem IsDigits.no_mark (h : IsDigits cs) : ¬ ∃ c ∈ cs, c = '.' ∨ IsExponentMark c := by
  rintro ⟨c, hc, rfl | hmark⟩
  · exact (ne_of_isDigit (h.2 _ hc)).1 rfl
  · exact (ne_of_isDigit (h.2 c hc)).2.1 hmark

/-! ### The first point -/

theorem afterPoint_append (hcs : ∀ c ∈ cs, c ≠ '.') (rest : List Char) :
    afterPoint (cs ++ '.' :: rest) = rest := by
  rw [afterPoint, List.dropWhile_append_of_pos (by simpa using hcs)]
  simp

theorem beforePoint_append (hcs : ∀ c ∈ cs, c ≠ '.') (rest : List Char) :
    (cs ++ '.' :: rest).takeWhile (fun c => c != '.') = cs := by
  rw [List.takeWhile_append_of_pos (by simpa using hcs)]
  simp

theorem afterPoint_of_none (hcs : ∀ c ∈ cs, c ≠ '.') : afterPoint cs = [] := by
  have hdrop : cs.dropWhile (fun c => c != '.') = [] :=
    List.dropWhile_eq_nil_iff.mpr (by simpa using hcs)
  rw [afterPoint, hdrop]
  rfl

theorem IsDigits.no_point (h : IsDigits cs) : ∀ c ∈ cs, c ≠ '.' :=
  fun c hc => (ne_of_isDigit (h.2 c hc)).1

/-- No exponent stands directly behind the point of a literal. -/
theorem IsFloatLiteral.afterPoint (h : IsFloatLiteral cs) :
    ∀ c, (afterPoint cs).head? = some c → ¬ IsExponentMark c := by
  cases h with
  | point hwhole =>
      rw [afterPoint_append hwhole.no_point]
      rintro c ⟨⟩
  | fraction hwhole hplaces _ =>
      rw [afterPoint_append hwhole.no_point]
      obtain ⟨d, hd, hdigit⟩ := hplaces.head? _
      rw [hd]
      rintro c ⟨⟩
      exact (ne_of_isDigit hdigit).2.1
  | exponent hwhole hexponent =>
      have hnone : ∀ c ∈ _, c ≠ '.' := fun c hc =>
        (List.mem_append.mp hc).elim (hwhole.no_point c) (hexponent.no_point c)
      rw [afterPoint_of_none hnone]
      rintro c ⟨⟩

/-- Digits become a literal of a floating-point type by a point and a zero, and nothing else
without a point does. -/
theorem isFloatLiteral_append_zero (hcs : ∀ c ∈ cs, c ≠ '.') :
    IsFloatLiteral (cs ++ ['.', '0']) ↔ IsDigits cs := by
  constructor
  · intro h
    generalize hall : cs ++ ['.', '0'] = all at h
    -- The literal ends with a zero behind a point: it is no bare point and has no exponent.
    cases h with
    | point _ =>
        have hlast := congrArg List.getLast? hall
        simp at hlast
    | fraction hwhole _ _ =>
        have hfront := congrArg (List.takeWhile (fun c => c != '.')) hall
        rw [beforePoint_append hcs, beforePoint_append hwhole.no_point] at hfront
        rw [hfront]
        exact hwhole
    | exponent hwhole hexponent =>
        have hmem : '.' ∈ cs ++ ['.', '0'] := by simp
        rw [hall] at hmem
        rcases List.mem_append.mp hmem with hmem | hmem
        · exact absurd rfl (hwhole.no_point _ hmem)
        · exact absurd rfl (hexponent.no_point _ hmem)
  · intro h
    simpa using IsFloatLiteral.fraction h isDigits_zero (.inl rfl)

/-! ### Numerals -/

/-- What makes a numeral a literal: it begins with a digit, a minus sign aside, and no
exponent stands directly behind its point. -/
structure IsPlain (n : String) : Prop where
  leads : ∃ c, (afterMinus n.toList).head? = some c ∧ c.isDigit = true
  point : ∀ c, (afterPoint (afterMinus n.toList)).head? = some c → ¬ IsExponentMark c

theorem afterMinus_of_ne (h : c ≠ '-') : afterMinus (c :: cs) = c :: cs := by
  rw [afterMinus.eq_2]
  rintro rest ⟨⟩
  exact h rfl

/-- With a digit to begin with, the only sign there can be is the minus. -/
theorem splitSign_of_leads (h : ∃ c, (afterMinus cs).head? = some c ∧ c.isDigit = true) :
    (splitSign cs).2 = afterMinus cs := by
  unfold splitSign
  split
  · rfl
  · next rest =>
    obtain ⟨c, hc, hdigit⟩ := h
    cases hc
    exact absurd hdigit (by decide)
  · next hminus _ =>
    rw [afterMinus.eq_2 _ hminus]

theorem of_exponent? (h : (exponent? cs).isSome = true) : cs = [] ∨ IsExponent cs := by
  unfold exponent? at h
  split at h
  · exact .inl rfl
  · next c rest =>
    right
    split at h
    · next hmark =>
      have hdigits : ∀ {ds : List Char}, (natural? 10 ds).isSome = true → IsDigits ds := by
        intro ds hds
        obtain ⟨n, hn⟩ := Option.isSome_iff_exists.mp hds
        exact of_natural?_eq_some hn
      simp only [Option.isSome_map] at h
      unfold splitSign at h
      split at h
      · exact .signed hmark (.inl rfl) (hdigits h)
      · exact .signed hmark (.inr rfl) (hdigits h)
      · exact .unsigned hmark (hdigits h)
    · cases h

/-- The leading digits of a text. -/
theorem isDigits_takeWhile (h : ∃ c, cs.head? = some c ∧ c.isDigit = true) :
    IsDigits (cs.takeWhile Char.isDigit) := by
  obtain ⟨c, hc, hdigit⟩ := h
  cases cs with
  | nil => cases hc
  | cons d rest =>
    cases hc
    refine ⟨?_, fun d hd => List.mem_takeWhile_imp hd⟩
    rw [List.takeWhile_cons_of_pos hdigit]
    simp

/-- A decimal is a run of digits or a floating-point literal, unless its exponent stands
directly behind the point. -/
theorem of_decimal? (h : (decimal? cs).isSome = true) (hsign : (splitSign cs).2 = body)
    (hleads : ∃ c, body.head? = some c ∧ c.isDigit = true) :
    IsDigits body ∨ IsFloatLiteral body ∨
      ∃ c, (afterPoint body).head? = some c ∧ IsExponentMark c := by
  have hwhole := isDigits_takeWhile hleads
  have hbody := List.takeWhile_append_dropWhile (p := Char.isDigit) (l := body)
  unfold decimal? at h
  rw [← Prod.eta (splitSign cs), hsign] at h
  dsimp only at h
  split at h
  · next more htail =>
    dsimp only at h
    split at h
    · cases h
    rw [Option.isSome_map] at h
    rw [htail] at hbody
    have hmore := List.takeWhile_append_dropWhile (p := Char.isDigit) (l := more)
    by_cases hnone : more.takeWhile Char.isDigit = []
    · -- Without decimal places the exponent follows the point, if there is one.
      rw [hnone, List.nil_append] at hmore
      rw [hmore] at h
      rcases of_exponent? h with rfl | hexponent
      · rw [← hbody]
        exact .inr (.inl (.point hwhole))
      · obtain ⟨c, rest, rfl, hmark⟩ := hexponent.exists_mark
        refine .inr (.inr ⟨c, ?_, hmark⟩)
        rw [← hbody, afterPoint_append hwhole.no_point]
        rfl
    · have hplaces : IsDigits (more.takeWhile Char.isDigit) :=
        ⟨hnone, fun d hd => List.mem_takeWhile_imp hd⟩
      rw [← hbody, ← hmore]
      exact .inr (.inl (.fraction hwhole hplaces (of_exponent? h)))
  · dsimp only at h
    split at h
    · cases h
    rw [Option.isSome_map] at h
    rcases of_exponent? h with hnone | hexponent
    · rw [← hbody, hnone, List.append_nil]
      exact .inl hwhole
    · rw [← hbody]
      exact .inr (.inl (.exponent hwhole hexponent))

/-- The words for numbers do not begin with a digit. -/
theorem not_special (h : ∃ c, cs.head? = some c ∧ c.isDigit = true) :
    specialWords.contains (String.ofList (cs.map Char.toLower)) = false := by
  obtain ⟨c, hc, hdigit⟩ := h
  have hlower : c.toLower = c := by
    have hdigits : ∀ d < 10, (Nat.digitChar d).toLower = Nat.digitChar d := by decide
    obtain ⟨d, hd, rfl⟩ := exists_digit_of_isDigit hdigit
    exact hdigits d hd
  have hhead : (cs.map Char.toLower).head? = some c := by rw [List.head?_map, hc]; simp [hlower]
  cases hspecial : specialWords.contains (String.ofList (cs.map Char.toLower)) with
  | false => rfl
  | true =>
      have hwords : ∀ w ∈ specialWords, (w.toList.head?.map Char.isDigit) = some false := by decide
      have hword := hwords _ (List.contains_iff_mem.mp hspecial)
      rw [String.toList_ofList, hhead, Option.map_some, hdigit] at hword
      cases hword

/-- **Which numerals are literals**: the plain ones. -/
theorem isPlain_iff (h : isFloatText n = true) :
    IsPlain n ↔ IsDigits (afterMinus n.toList) ∨ IsFloatLiteral (afterMinus n.toList) := by
  constructor
  · rintro ⟨hleads, hpoint⟩
    have hsign := splitSign_of_leads hleads
    have hdecimal : (decimal? n.toList).isSome = true := by
      rw [isFloatText, hsign, not_special hleads, Bool.or_false] at h
      exact h
    rcases of_decimal? hdecimal hsign hleads with hdigits | hfloat | ⟨c, hc, hmark⟩
    · exact .inl hdigits
    · exact .inr hfloat
    · exact absurd hmark (hpoint c hc)
  · rintro (hdigits | hfloat)
    · have hleads := hdigits.head? []
      rw [List.append_nil] at hleads
      refine ⟨hleads, fun c hc => ?_⟩
      rw [afterPoint_of_none hdigits.no_point] at hc
      cases hc
    · exact ⟨hfloat.head?, hfloat.afterPoint⟩

/-! ### The texts of numbers -/

theorem afterMinus_of_isDigits (h : IsDigits cs) : afterMinus cs = cs := by
  obtain ⟨c, hc, hdigit⟩ := h.head? []
  cases cs with
  | nil => cases hc
  | cons d rest => exact afterMinus_of_ne (ne_of_isDigit (h.2 d List.mem_cons_self)).2.2.1

theorem isDigits_integer (k : Int) : IsDigits (afterMinus (toString k).toList) := by
  rw [toList_toString]
  split
  · rw [afterMinus_of_isDigits (isDigits_toDigits _)]
    exact isDigits_toDigits _
  · exact isDigits_toDigits _

theorem IsDigits.take (h : IsDigits cs) (k : Nat) : IsDigits (cs.take (k + 1)) := by
  refine ⟨?_, fun c hc => h.2 c (List.mem_of_mem_take hc)⟩
  cases cs with
  | nil => exact absurd rfl h.1
  | cons c cs => simp

theorem IsDigits.drop {k : Nat} (h : IsDigits cs) (hk : k < cs.length) : IsDigits (cs.drop k) :=
  ⟨by simpa using hk, fun c hc => h.2 c (List.mem_of_mem_drop hc)⟩

theorem isDigit_of_mem_replicate {k : Nat} (h : c ∈ List.replicate k '0') : c.isDigit = true := by
  rw [List.eq_of_mem_replicate h]
  decide

/-- Zeros behind the digits, and one behind the point. -/
theorem IsDigits.whole (h : IsDigits cs) (k : Nat) :
    IsFloatLiteral (cs ++ List.replicate k '0' ++ ['.', '0']) := by
  have hzeros : ∀ c ∈ List.replicate k '0', c.isDigit = true := fun _ => isDigit_of_mem_replicate
  have hwhole := h.append hzeros
  exact (isFloatLiteral_append_zero hwhole.no_point).mpr hwhole

/-- The point among the digits. -/
theorem IsDigits.parted {k : Nat} (h : IsDigits cs) (hk : k + 1 < cs.length) :
    IsFloatLiteral (cs.take (k + 1) ++ '.' :: cs.drop (k + 1)) := by
  simpa using IsFloatLiteral.fraction (h.take k) (h.drop hk) (.inl rfl)

/-- Zeros between the point and the digits. -/
theorem IsDigits.places (h : IsDigits cs) (k : Nat) :
    IsFloatLiteral (['0', '.'] ++ List.replicate k '0' ++ cs) := by
  have hplaces : IsDigits (List.replicate k '0' ++ cs) := by
    refine ⟨by simp [h.1], fun c hc => ?_⟩
    rcases List.mem_append.mp hc with hc | hc
    · exact isDigit_of_mem_replicate hc
    · exact h.2 c hc
  simpa using IsFloatLiteral.fraction isDigits_zero hplaces (.inl rfl)

/-- An exponent behind the digits, the first of which stands in front of the point. -/
theorem IsDigits.scaled {exponent : List Char} (h : IsDigits cs) (hexponent : IsExponent exponent) :
    IsFloatLiteral
      (cs.take 1 ++ (if cs.length = 1 then [] else '.' :: cs.drop 1) ++ exponent) := by
  split
  · simpa using IsFloatLiteral.exponent (h.take 0) hexponent
  · next hlength =>
    have hpos : 0 < cs.length := List.length_pos_iff.mpr h.1
    have hplaces := h.drop (k := 1) (by omega)
    simpa using IsFloatLiteral.fraction (h.take 0) hplaces (.inr hexponent)

/-- A minus sign in front of a literal is put aside. -/
theorem IsFloatLiteral.signed (h : IsFloatLiteral cs) (negative : Bool) :
    IsFloatLiteral (afterMinus ((if negative then "-" else "") ++ String.ofList cs).toList) := by
  obtain ⟨c, hc, hdigit⟩ := h.head?
  rw [String.toList_append, String.toList_ofList]
  split
  · exact h
  · cases cs with
    | nil => cases hc
    | cons d rest =>
      cases hc
      have hbody : afterMinus ("".toList ++ c :: rest) = c :: rest :=
        afterMinus_of_ne (ne_of_isDigit hdigit).2.2.1
      rw [hbody]
      exact h

/-- **The text of a binary number is a literal** of a floating-point type. -/
theorem isFloatLiteral_text (x : Binary64) : IsFloatLiteral (afterMinus x.text.toList) := by
  have hzero : IsFloatLiteral ['0', '.', '0'] :=
    (isFloatLiteral_append_zero isDigits_zero.no_point).mpr isDigits_zero
  unfold Binary64.text
  dsimp only
  split
  · exact hzero.signed x.negative
  refine IsFloatLiteral.signed ?_ x.negative
  have hdigits := isDigits_toDigits x.shortest.1
  have hlength : 0 < (Nat.toDigits 10 x.shortest.1).length := Nat.length_toDigits_pos
  generalize Nat.toDigits 10 x.shortest.1 = digits at *
  generalize hexponent : Int.ofNat digits.length - 1 + x.shortest.2 = exponent
  rw [Int.ofNat_eq_natCast] at hexponent
  split
  · split
    · exact hdigits.whole _
    · split
      · exact hdigits.parted (by omega)
      · exact hdigits.places _
  · have hsign : (if exponent < 0 then '-' else '+') = '-' ∨
        (if exponent < 0 then '-' else '+') = '+' := by
      split
      · exact .inl rfl
      · exact .inr rfl
    have hscale := IsExponent.signed (.inl rfl) hsign (isDigits_toDigits exponent.natAbs)
    rw [List.append_assoc]
    exact hdigits.scaled hscale

end Numeral
end ClientSynth
