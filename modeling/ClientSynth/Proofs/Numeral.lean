import ClientSynth.Number.Numeral

/-! # Numerals and their digits

A number is written with the digits of its base, the most significant one first, and the
value of these digits is the number again. -/
namespace ClientSynth
namespace Numeral

variable {base d n : Nat} {c : Char} {cs : List Char}

/-! ### Digits -/

theorem digitValue_digitChar (h : d < 16) : digitValue d.digitChar = d := by
  have hdigits : ∀ k < 16, digitValue (Nat.digitChar k) = k := by decide
  exact hdigits d h

theorem isDigitIn_digitChar (hbase : base ≤ 16) (h : d < base) :
    isDigitIn base d.digitChar = true := by
  have hdigits : ∀ k < 16, isDigitIn (k + 1) (Nat.digitChar k) = true := by decide
  have hvalue := digitValue_digitChar (Nat.lt_of_lt_of_le h hbase)
  have hd := hdigits d (Nat.lt_of_lt_of_le h hbase)
  simp only [isDigitIn, hvalue, Bool.and_eq_true, decide_eq_true_eq] at hd ⊢
  exact ⟨hd.1, h⟩

/-- The characters of a number are digits of its base. -/
theorem exists_digit_of_mem_toDigits (hbase : 1 < base) (h : c ∈ Nat.toDigits base n) :
    ∃ d < base, c = d.digitChar := by
  induction n using Nat.strongRecOn with
  | ind n ih =>
    rw [Nat.toDigits_eq_if hbase] at h
    split at h
    · next hn => exact ⟨n, hn, List.mem_singleton.mp h⟩
    · next hn =>
      rcases List.mem_append.mp h with h | h
      · exact ih (n / base) (Nat.div_lt_self (by omega) hbase) h
      · exact ⟨n % base, Nat.mod_lt n (by omega), List.mem_singleton.mp h⟩

theorem exists_digit_of_isDigit (h : c.isDigit = true) : ∃ d < 10, c = Nat.digitChar d := by
  have hdigits : ∀ n < 58, (Char.ofNat n).isDigit = true →
      ∃ d < 10, Char.ofNat n = Nat.digitChar d := by decide
  have hbound : c.toNat < 58 := Nat.lt_succ_of_le (Char.isDigit_iff_toNat.mp h).2
  rw [← Char.ofNat_toNat c] at h ⊢
  exact hdigits c.toNat hbound h

/-! ### The value of digits -/

theorem ofDigits_concat (base : Nat) (cs : List Char) (c : Char) :
    ofDigits base (cs ++ [c]) = ofDigits base cs * base + digitValue c := by
  rw [ofDigits, List.foldl_append]
  rfl

theorem ofDigits_toDigits (hone : 1 < base) (hbase : base ≤ 16) :
    ofDigits base (Nat.toDigits base n) = n := by
  induction n using Nat.strongRecOn with
  | ind n ih =>
    rw [Nat.toDigits_eq_if hone]
    split
    · next hn =>
      have hvalue := digitValue_digitChar (Nat.lt_of_lt_of_le hn hbase)
      simpa [ofDigits] using hvalue
    · next hn =>
      have hmod : n % base < base := Nat.mod_lt n (by omega)
      rw [ofDigits_concat, ih (n / base) (Nat.div_lt_self (by omega) hone),
        digitValue_digitChar (Nat.lt_of_lt_of_le hmod hbase)]
      exact Nat.div_add_mod' n base

/-- **A number reads back from its digits.** -/
theorem natural?_toDigits (hone : 1 < base) (hbase : base ≤ 16) :
    natural? base (Nat.toDigits base n) = some n := by
  have hall : (Nat.toDigits base n).all (isDigitIn base) = true := by
    refine List.all_eq_true.mpr fun c hc => ?_
    obtain ⟨d, hd, rfl⟩ := exists_digit_of_mem_toDigits hone hc
    exact isDigitIn_digitChar hbase hd
  rw [natural?, ofDigits_toDigits hone hbase, hall]
  simp

/-! ### Whole numbers with a sign -/

theorem isDigit_of_isDigitIn (h : isDigitIn 10 c = true) : c.isDigit = true := by
  simp only [isDigitIn, Bool.and_eq_true, decide_eq_true_eq] at h
  obtain ⟨-, hvalue⟩ := h
  by_cases hdigit : c.isDigit = true
  · exact hdigit
  · -- A letter stands for ten or more.
    rw [digitValue, if_neg hdigit] at hvalue
    split at hvalue <;> omega

theorem of_natural?_eq_some (h : natural? 10 cs = some n) :
    cs ≠ [] ∧ ∀ c ∈ cs, c.isDigit = true := by
  unfold natural? at h
  split at h
  · next hdigits =>
    simp only [Bool.and_eq_true, Bool.not_eq_true', List.isEmpty_eq_false_iff,
      List.all_eq_true] at hdigits
    exact ⟨hdigits.1, fun c hc => isDigit_of_isDigitIn (hdigits.2 c hc)⟩
  · cases h

/-- What is read as a whole number has no characters but digits and signs. -/
theorem of_mem_of_signed?_eq_some {s : String} {k : Int} (h : signed? s = some k)
    (hc : c ∈ s.toList) : c.isDigit = true ∨ c = '-' ∨ c = '+' := by
  unfold signed? at h
  dsimp only at h
  obtain ⟨hread, -⟩ := Option.filter_eq_some_iff.mp h
  split at hread
  · next rest hs =>
    obtain ⟨n, hn, -⟩ := Option.map_eq_some_iff.mp hread
    rw [hs] at hc
    rcases List.mem_cons.mp hc with rfl | hc
    · exact .inr (.inl rfl)
    · exact .inl ((of_natural?_eq_some hn).2 c hc)
  · next rest hs =>
    obtain ⟨n, hn, -⟩ := Option.map_eq_some_iff.mp hread
    rw [hs] at hc
    rcases List.mem_cons.mp hc with rfl | hc
    · exact .inr (.inr rfl)
    · exact .inl ((of_natural?_eq_some hn).2 c hc)
  · obtain ⟨n, hn, -⟩ := Option.map_eq_some_iff.mp hread
    exact .inl ((of_natural?_eq_some hn).2 c hc)

theorem toList_toString (k : Int) :
    (toString k).toList = if 0 ≤ k then Nat.toDigits 10 k.toNat
      else '-' :: Nat.toDigits 10 (-k).toNat := by
  rw [Int.toString_eq_repr, Int.repr_eq_if]
  split
  · exact Nat.toList_repr
  · simp

theorem isDigit_of_mem_toDigits (h : c ∈ Nat.toDigits 10 n) : c.isDigit = true :=
  Nat.isDigit_of_mem_toDigits (by decide) (by decide) h

/-- **A whole number that fits a word reads back from its text.** -/
theorem signed?_toString {k : Int} (h : Word.fitsSigned 64 k = true) :
    signed? (toString k) = some k := by
  unfold signed?
  dsimp only
  rw [toList_toString]
  by_cases hk : 0 ≤ k
  · have hvalue : natural? 10 (Nat.toDigits 10 k.toNat) = some k.toNat :=
      natural?_toDigits (by decide) (by decide)
    -- The first character is a digit and therefore no sign.
    have hsign : ∀ c rest, Nat.toDigits 10 k.toNat = c :: rest → c ≠ '-' ∧ c ≠ '+' := by
      intro c rest hdigits
      have hdigit : c.isDigit = true :=
        isDigit_of_mem_toDigits (n := k.toNat) (by rw [hdigits]; exact List.mem_cons_self)
      constructor <;> (rintro rfl; exact absurd hdigit (by decide))
    have hof : Int.ofNat k.toNat = k := Int.toNat_of_nonneg hk
    rw [if_pos hk]
    split
    · next rest hdigits => exact absurd rfl (hsign _ rest hdigits).1
    · next rest hdigits => exact absurd rfl (hsign _ rest hdigits).2
    · rw [hvalue, Option.map_some, hof, Option.filter_some, if_pos h]
  · have hvalue : natural? 10 (Nat.toDigits 10 (-k).toNat) = some (-k).toNat :=
      natural?_toDigits (by decide) (by decide)
    have hof : -Int.ofNat (-k).toNat = k := by
      rw [Int.ofNat_eq_natCast]
      omega
    rw [if_neg hk]
    change ((natural? 10 (Nat.toDigits 10 (-k).toNat)).map (fun n => -Int.ofNat n)).filter _ = _
    rw [hvalue, Option.map_some, hof, Option.filter_some, if_pos h]

end Numeral
end ClientSynth
