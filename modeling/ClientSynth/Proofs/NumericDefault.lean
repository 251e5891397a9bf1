import ClientSynth.Contract.Default
import ClientSynth.Proofs.NumberLiteral

/-! # Default values of number types

The default of a parameter of a number type is written into the generated code as it was
spelled, and a whole number gets a point and a zero if the type is one of the two
floating-point types.  Whether this gives a literal of the type depends on the spelling,
since numbers are read more freely than they may be written, and on the type.  A fraction is
no literal of a whole number type.  A whole number is no literal of a floating-point type
that is not spelled as its bare name, for the point and the zero are then left out. -/
namespace ClientSynth
namespace Contract

open Numeral (IsDigits IsFloatLiteral IsExponentMark afterMinus)

variable {t : DeclaredType} {value : Json.Value} {enumeration : Option Declaration.Enumeration}
  {n s : String}

/-! ### Literals of a type -/

/-- Whether the type is one of the two floating-point types, by its bare name. -/
def DeclaredType.IsFloating (t : DeclaredType) : Prop := t.name = "f32" ∨ t.name = "f64"

instance (t : DeclaredType) : Decidable t.IsFloating :=
  inferInstanceAs (Decidable (t.name = "f32" ∨ t.name = "f64"))

/-- A literal of a number type, up to a minus sign: digits with a fraction or an exponent for
the floating-point types, and digits for the others. -/
def DeclaredType.IsLiteral (t : DeclaredType) (s : String) : Prop :=
  if t.IsFloating then IsFloatLiteral (afterMinus s.toList) else IsDigits (afterMinus s.toList)

/-- What is spelled as the bare name of a floating-point type is this type. -/
theorem isFloating_of_isFloat (h : t.isFloat = true) : t.IsFloating := by
  simp only [DeclaredType.isFloat, Bool.or_eq_true, beq_iff_eq] at h
  unfold DeclaredType.IsFloating DeclaredType.name
  rcases h with h | h
  · rw [h]
    exact .inl (by decide)
  · rw [h]
    exact .inr (by decide)

/-! ### What is written -/

/-- The number `n` as the generated code states it for the type. -/
def stated (t : DeclaredType) (n : String) : String :=
  if t.isFloat && Literal.isPlainInteger n then n ++ ".0" else n

theorem fallback_number (t : DeclaredType) (n : String) :
    (Literal.number n).fallback t = some ("Some(" ++ stated t n ++ ")") := by
  unfold Literal.fallback stated
  dsimp only
  split
  · rw [← String.append_assoc, String.append_assoc, String.append_assoc]
    rfl
  · rfl

theorem fallback_eq_iff :
    (Literal.number n).fallback t = some ("Some(" ++ s ++ ")") ↔ s = stated t n := by
  rw [fallback_number, Option.some_inj, String.append_left_inj, String.append_right_inj, eq_comm]

/-- A minus sign is all that is put aside. -/
theorem mem_afterMinus {c : Char} {cs : List Char} (hc : c ≠ '-') :
    c ∈ afterMinus cs ↔ c ∈ cs := by
  unfold afterMinus
  split
  · simp [hc]
  · rfl

theorem afterMinus_append_zero (cs : List Char) :
    afterMinus (cs ++ ['.', '0']) = afterMinus cs ++ ['.', '0'] := by
  cases cs with
  | nil => rfl
  | cons c cs =>
    by_cases hc : c = '-'
    · subst hc
      rfl
    · rw [List.cons_append, Numeral.afterMinus_of_ne hc, Numeral.afterMinus_of_ne hc,
        List.cons_append]

/-- A number text is plain if it has neither a point nor the mark of an exponent. -/
theorem isPlainInteger_iff :
    Literal.isPlainInteger n = true ↔
      ¬ ∃ c ∈ afterMinus n.toList, c = '.' ∨ IsExponentMark c := by
  have hsign : ∀ c : Char, c = '.' ∨ IsExponentMark c → c ≠ '-' := by
    rintro c (rfl | rfl | rfl) <;> decide
  have hmem : (∃ c ∈ afterMinus n.toList, c = '.' ∨ IsExponentMark c) ↔
      ∃ c ∈ n.toList, c = '.' ∨ IsExponentMark c := by
    constructor
    · rintro ⟨c, hc, hmark⟩
      exact ⟨c, (mem_afterMinus (hsign c hmark)).mp hc, hmark⟩
    · rintro ⟨c, hc, hmark⟩
      exact ⟨c, (mem_afterMinus (hsign c hmark)).mpr hc, hmark⟩
  rw [hmem]
  simp [Literal.isPlainInteger, IsExponentMark, and_assoc]

theorem isPlainInteger_of_isDigits (h : IsDigits (afterMinus n.toList)) :
    Literal.isPlainInteger n = true :=
  isPlainInteger_iff.mpr h.no_mark

theorem not_isPlainInteger_of_isFloatLiteral (h : IsFloatLiteral (afterMinus n.toList)) :
    ¬ Literal.isPlainInteger n = true :=
  fun hplain => isPlainInteger_iff.mp hplain h.exists_mark

/-- **When a stated number is a literal of the type**: if it is spelled with digits alone, in
every type but a floating-point type that is not spelled as its bare name, and if it is
spelled like a floating-point literal, in floating-point types only. -/
theorem isLiteral_stated_iff :
    t.IsLiteral (stated t n) ↔
      (IsDigits (afterMinus n.toList) ∧ (t.IsFloating → t.isFloat = true)) ∨
        (IsFloatLiteral (afterMinus n.toList) ∧ t.IsFloating) := by
  by_cases hfloating : t.IsFloating
  · rw [DeclaredType.IsLiteral, if_pos hfloating]
    by_cases hzero : (t.isFloat && Literal.isPlainInteger n) = true
    · -- A point and a zero are added.
      obtain ⟨hfloat, hplain⟩ := Bool.and_eq_true_iff.mp hzero
      have hpoint : ∀ c ∈ afterMinus n.toList, c ≠ '.' :=
        fun c hc hdot => isPlainInteger_iff.mp hplain ⟨c, hc, .inl hdot⟩
      have hfraction : ¬ IsFloatLiteral (afterMinus n.toList) :=
        fun h => not_isPlainInteger_of_isFloatLiteral h hplain
      have hchars : (n ++ ".0").toList = n.toList ++ ['.', '0'] := String.toList_append
      rw [stated, if_pos hzero, hchars, afterMinus_append_zero,
        Numeral.isFloatLiteral_append_zero hpoint]
      simp [hfloat, hfraction]
    · rw [stated, if_neg hzero]
      constructor
      · exact fun h => .inr ⟨h, hfloating⟩
      · rintro (⟨hdigits, hfloat⟩ | ⟨h, -⟩)
        · exact absurd (Bool.and_eq_true_iff.mpr
            ⟨hfloat hfloating, isPlainInteger_of_isDigits hdigits⟩) hzero
        · exact h
  · have hfloat : ¬ t.isFloat = true := fun h => hfloating (isFloating_of_isFloat h)
    rw [DeclaredType.IsLiteral, if_neg hfloating, stated, if_neg (by simp [hfloat])]
    simp [hfloating]

/-! ### Defaults -/

/-- Which defaults of a number type are stated as literals of the type.  Whole numbers are,
unless a floating-point type is not spelled as its bare name, and fractions are in
floating-point types.  The spelling of a text has to be plain besides. -/
def StatesLiteral (t : DeclaredType) : Json.Value → Prop
  | .number (.integer _) => t.IsFloating → t.isFloat = true
  | .number (.real _) => t.IsFloating
  | .text s => Numeral.IsPlain (Text.stripBlanks s) ∧
      if Literal.isPlainInteger (Text.stripBlanks s) then t.IsFloating → t.isFloat = true
      else t.IsFloating
  | _ => False

theorem isLiteral_stated_of_isDigits (h : IsDigits (afterMinus n.toList)) :
    t.IsLiteral (stated t n) ↔ (t.IsFloating → t.isFloat = true) := by
  have hfraction : ¬ IsFloatLiteral (afterMinus n.toList) := fun hfraction =>
    not_isPlainInteger_of_isFloatLiteral hfraction (isPlainInteger_of_isDigits h)
  rw [isLiteral_stated_iff]
  simp [h, hfraction]

theorem isLiteral_stated_of_isFloatLiteral (h : IsFloatLiteral (afterMinus n.toList)) :
    t.IsLiteral (stated t n) ↔ t.IsFloating := by
  have hdigits : ¬ IsDigits (afterMinus n.toList) := fun hdigits =>
    not_isPlainInteger_of_isFloatLiteral h (isPlainInteger_of_isDigits hdigits)
  rw [isLiteral_stated_iff]
  simp [h, hdigits]

/-- The numeral of a text is stated as a literal if it is plain and fits the type. -/
theorem isLiteral_stated_text (h : Numeral.isFloatText n = true) :
    t.IsLiteral (stated t n) ↔ Numeral.IsPlain n ∧
      if Literal.isPlainInteger n then t.IsFloating → t.isFloat = true else t.IsFloating := by
  rw [Numeral.isPlain_iff h]
  by_cases hdigits : IsDigits (afterMinus n.toList)
  · rw [isLiteral_stated_of_isDigits hdigits, if_pos (isPlainInteger_of_isDigits hdigits)]
    simp [hdigits]
  · by_cases hfraction : IsFloatLiteral (afterMinus n.toList)
    · rw [isLiteral_stated_of_isFloatLiteral hfraction,
        if_neg (not_isPlainInteger_of_isFloatLiteral hfraction)]
      simp [hfraction]
    · rw [isLiteral_stated_iff]
      simp [hdigits, hfraction]

/-- The numbers among the defaults of a number type, and how they are spelled. -/
theorem ofDefault_eq_number (htype : t.family = .numeric)
    (h : Literal.ofDefault value t enumeration = .number n) :
    (∃ k : Int, value = .number (.integer k) ∧ n = toString k) ∨
      (∃ x : Binary64, value = .number (.real x) ∧ n = x.text) ∨
      ∃ s, value = .text s ∧ n = Text.stripBlanks s ∧ Numeral.isFloatText n = true := by
  cases value with
  | null => cases h
  | number m =>
      simp only [Literal.ofDefault, htype] at h
      cases m with
      | integer k =>
          cases h
          exact .inl ⟨k, rfl, rfl⟩
      | real x =>
          cases h
          exact .inr (.inl ⟨x, rfl, rfl⟩)
  | text s =>
      simp only [Literal.ofDefault, htype, numericLiteral] at h
      split at h
      · next hnumeral =>
        cases h
        exact .inr (.inr ⟨s, rfl, rfl, hnumeral⟩)
      · cases h
  | bool _ | list _ | object _ =>
      simp only [Literal.ofDefault, htype, numericLiteral] at h
      cases h

/-- **When the fallback of a number is a literal of its type.** -/
theorem fallback_isLiteral_iff (htype : t.family = .numeric)
    (h : Literal.ofDefault value t enumeration = .number n) :
    (∃ s, (Literal.number n).fallback t = some ("Some(" ++ s ++ ")") ∧ t.IsLiteral s) ↔
      StatesLiteral t value := by
  simp only [fallback_eq_iff, exists_eq_left]
  rcases ofDefault_eq_number htype h with ⟨k, rfl, rfl⟩ | ⟨x, rfl, rfl⟩ | ⟨s, rfl, rfl, hnumeral⟩
  · exact isLiteral_stated_of_isDigits (Numeral.isDigits_integer k)
  · exact isLiteral_stated_of_isFloatLiteral (Numeral.isFloatLiteral_text x)
  · exact isLiteral_stated_text hnumeral

/-- A floating-point type. -/
def doubleType : DeclaredType := .mk "f64" "f64" .numeric false none

theorem scaledDefault_isLiteral :
    doubleType.family = .numeric ∧
      Literal.ofDefault (.text " -2.50e3") doubleType none = .number "-2.50e3" ∧
      ∃ s, (Literal.number "-2.50e3").fallback doubleType = some ("Some(" ++ s ++ ")") ∧
        doubleType.IsLiteral s := by
  have hdefault : Literal.ofDefault (.text " -2.50e3") doubleType none = .number "-2.50e3" := by
    decide +kernel
  have hstripped : Text.stripBlanks " -2.50e3" = "-2.50e3" := by decide +kernel
  have hplain : Numeral.IsPlain "-2.50e3" := by
    have hplace : (Numeral.afterPoint (afterMinus "-2.50e3".toList)).head? = some '5' := by
      decide
    refine ⟨⟨'2', by decide, by decide⟩, fun c hc => ?_⟩
    rw [hplace] at hc
    cases hc
    rintro (h | h) <;> exact absurd h (by decide)
  refine ⟨rfl, hdefault, (fallback_isLiteral_iff rfl hdefault).mpr ?_⟩
  rw [StatesLiteral, hstripped, if_neg (by decide)]
  exact ⟨hplain, by decide⟩

/-- Infinity is a number, and is stated as something that is no literal at all. -/
theorem infiniteDefault_not_isLiteral :
    doubleType.family = .numeric ∧
      Literal.ofDefault (.text "inf") doubleType none = .number "inf" ∧
      (Literal.number "inf").fallback doubleType = some "Some(inf.0)" ∧
      ¬ ∃ s, (Literal.number "inf").fallback doubleType = some ("Some(" ++ s ++ ")") ∧
        doubleType.IsLiteral s := by
  refine ⟨rfl, by decide +kernel, by decide +kernel, ?_⟩
  simp only [fallback_eq_iff, exists_eq_left]
  rw [isLiteral_stated_iff]
  rintro (⟨hdigits, -⟩ | ⟨hfraction, -⟩)
  · exact absurd (hdigits.2 'i' (by decide)) (by decide)
  · obtain ⟨c, hc, hdigit⟩ := hfraction.head?
    have hfirst : (afterMinus "inf".toList).head? = some 'i' := by decide
    rw [hfirst] at hc
    cases hc
    exact absurd hdigit (by decide)

end Contract
end ClientSynth
