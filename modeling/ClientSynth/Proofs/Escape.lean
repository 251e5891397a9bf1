import ClientSynth.Proofs.Numeral
import ClientSynth.Text.Escape

/-! # Quoted text

Whatever a text contains, its literal is written in printable ASCII, so it stays on the line
that it is written on. -/
namespace ClientSynth
namespace Text

/-- The printable characters of ASCII. -/
def IsPrintable (c : Char) : Prop := 0x20 ≤ c.toNat ∧ c.toNat ≤ 0x7E

instance : DecidablePred IsPrintable :=
  fun c => inferInstanceAs (Decidable (0x20 ≤ c.toNat ∧ c.toNat ≤ 0x7E))

variable {c d : Char} {s : String}

theorem isPrintable_digitChar {n : Nat} (h : n < 16) : IsPrintable (Nat.digitChar n) := by
  have hdigits : ∀ k < 16, IsPrintable (Nat.digitChar k) := by decide
  exact hdigits n h

theorem isPrintable_of_mem_hexDigits {n : Nat} (h : c ∈ hexDigits n) : IsPrintable c := by
  obtain ⟨d, hd, rfl⟩ := Numeral.exists_digit_of_mem_toDigits (by decide) h
  exact isPrintable_digitChar hd

theorem isPrintable_of_mem_escapeChar (h : c ∈ escapeChar d) : IsPrintable c := by
  unfold escapeChar at h
  -- The characters with a letter of their own, the quotes and the backslash.
  iterate 6
    split at h
    · simp only [List.mem_cons, List.not_mem_nil, or_false] at h
      rcases h with rfl | rfl <;> decide
  split at h
  · next hprintable =>
    rw [List.mem_singleton.mp h]
    exact hprintable
  · rcases List.mem_append.mp h with h | h
    · rcases List.mem_append.mp h with h | h
      · simp only [List.mem_cons, List.not_mem_nil, or_false] at h
        rcases h with rfl | rfl | rfl <;> decide
      · exact isPrintable_of_mem_hexDigits h
    · rw [List.mem_singleton.mp h]
      decide

/-- **A literal is printable ASCII**, whatever text it stands for. -/
theorem isPrintable_of_mem_stringLiteral (h : c ∈ (stringLiteral s).toList) :
    IsPrintable c := by
  have hquote : IsPrintable '\"' := by decide
  rw [stringLiteral, String.toList_ofList] at h
  rcases List.mem_append.mp h with h | h
  · rcases List.mem_cons.mp h with rfl | h
    · exact hquote
    · obtain ⟨d, -, hd⟩ := List.mem_flatMap.mp h
      exact isPrintable_of_mem_escapeChar hd
  · rw [List.mem_singleton.mp h]
    exact hquote

theorem isPrintable_of_mem_charLiteral (h : c ∈ (charLiteral d).toList) : IsPrintable c := by
  have hquote : IsPrintable '\'' := by decide
  rw [charLiteral, String.toList_ofList] at h
  rcases List.mem_append.mp h with h | h
  · rcases List.mem_cons.mp h with rfl | h
    · exact hquote
    · exact isPrintable_of_mem_escapeChar h
  · rw [List.mem_singleton.mp h]
    exact hquote

end Text
end ClientSynth
