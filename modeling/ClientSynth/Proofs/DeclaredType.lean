import ClientSynth.Contract.Type

/-! # What reading a declared type establishes

Reading goes through the wrappers of a type from the outside in.  Each way it
can go is stated once as an equation; what holds of every type that has been
read follows by induction on the reading. -/
namespace ClientSynth
namespace Contract

/-- No bare name makes a type a sequence: only its notation does. -/
theorem familyOf_ne_sequence (isEnumeration : String → Bool) (name : String) :
    familyOf isEnumeration name ≠ .sequence := by
  unfold familyOf
  repeat' split
  all_goals simp

namespace DeclaredType
variable {isEnumeration : String → Bool} {cs inner : List Char}

/-- `Option<T>` is `T` with the whole text kept and absence allowed. -/
theorem ofChars_option (h : genericArgument "Option" (Text.trim Text.isBlank cs) = some inner) :
    ofChars isEnumeration cs =
      mk (String.ofList (Text.trim Text.isBlank cs)) (ofChars isEnumeration inner).base
        (ofChars isEnumeration inner).family true (ofChars isEnumeration inner).element := by
  rw [ofChars]
  dsimp only
  split <;> simp_all

/-- A sequence keeps its element type. -/
theorem ofChars_sequence (hOption : genericArgument "Option" (Text.trim Text.isBlank cs) = none)
    (h : elementText (Text.trim Text.isBlank cs) = some inner) :
    ofChars isEnumeration cs =
      mk (String.ofList (Text.trim Text.isBlank cs)) (String.ofList (Text.trim Text.isBlank cs))
        .sequence false (some (ofChars isEnumeration inner)) := by
  rw [ofChars]
  dsimp only
  split
  · simp_all
  · split <;> simp_all

/-- Any other type is told by its bare name. -/
theorem ofChars_named (hOption : genericArgument "Option" (Text.trim Text.isBlank cs) = none)
    (h : elementText (Text.trim Text.isBlank cs) = none) :
    ofChars isEnumeration cs =
      mk (String.ofList (Text.trim Text.isBlank cs)) (String.ofList (Text.trim Text.isBlank cs))
        (familyOf isEnumeration (String.ofList (bareName (Text.trim Text.isBlank cs)))) false
        none := by
  rw [ofChars]
  dsimp only
  split
  · simp_all
  · split <;> simp_all

/-- The declared text is kept, without the blanks around it. -/
theorem raw_ofChars (isEnumeration : String → Bool) (cs : List Char) :
    (ofChars isEnumeration cs).raw = String.ofList (Text.trim Text.isBlank cs) := by
  cases hOption : genericArgument "Option" (Text.trim Text.isBlank cs) with
  | some inner => rw [ofChars_option hOption]; rfl
  | none =>
    cases h : elementText (Text.trim Text.isBlank cs) with
    | some inner => rw [ofChars_sequence hOption h]; rfl
    | none => rw [ofChars_named hOption h]; rfl

theorem raw_parse (isEnumeration : String → Bool) (s : String) :
    (parse isEnumeration s).raw = Text.stripBlanks s :=
  raw_ofChars isEnumeration s.toList

/-- **Sequences are exactly the types with an element type**, nullable ones
included. -/
theorem isSome_element_ofChars (isEnumeration : String → Bool) (cs : List Char) :
    (ofChars isEnumeration cs).element.isSome ↔ (ofChars isEnumeration cs).family = .sequence := by
  induction cs using ofChars.induct isEnumeration with
  | case1 cs bare inner hOption _ ih =>
    rw [ofChars_option hOption]
    exact ih
  | case2 cs bare hOption inner h _ _ =>
    rw [ofChars_sequence hOption h]
    simp [element, family]
  | case3 cs bare hOption h =>
    rw [ofChars_named hOption h]
    simp [element, family, familyOf_ne_sequence]

end DeclaredType
end Contract
end ClientSynth
