import ClientSynth.Proofs.DeclaredType
import ClientSynth.Proofs.Trim

/-! # The notation of types

What the wrappers of a type mean, whatever stands between their brackets.  A text is cut at
its first opening bracket, and only if its last character is the closing one.  These are two
different places, so there is always something to cut out, if only the empty text.  What is
cut out is read like any other type, blanks around it removed, and it is shorter than the
text that it was taken from.  `Option` is peeled off and leaves no trace but the declared
text and the mark that a value may be absent, so the text without it is the same type. -/
namespace ClientSynth
namespace Contract

variable {isEnumeration : String → Bool} {wrapper : String} {cs head body inner : List Char}

/-! ### Cutting at brackets -/

theorem genericArgument_bracketed (hhead : '<' ∉ head) :
    genericArgument wrapper (head ++ '<' :: (body ++ ['>'])) =
      if String.ofList (bareName head) = wrapper then some (Text.trim Text.isBlank body)
      else none := by
  have hbefore : Text.beforeFirst (fun c => c == '<') (head ++ '<' :: (body ++ ['>'])) = head := by
    have hnone : ∀ c ∈ head, (!(c == '<')) = true := by
      intro c hc
      have hne : c ≠ '<' := fun h => hhead (h ▸ hc)
      simpa using hne
    rw [Text.beforeFirst, List.takeWhile_append_of_pos hnone]
    simp
  rw [genericArgument, hbefore]
  simp only [List.drop_left]
  by_cases hname : String.ofList (bareName head) = wrapper
  · simp [hname]
  · simp [hname]

/-- A text with an opening bracket that ends with a closing one has something between them. -/
theorem exists_bracketed (hopen : '<' ∈ cs) (hclose : cs.getLast? = some '>') :
    ∃ head body, cs = head ++ '<' :: (body ++ ['>']) ∧ '<' ∉ head := by
  obtain ⟨head, rest, rfl, hhead⟩ := List.eq_append_cons_of_mem hopen
  cases hrest : rest using List.reverseRecOn with
  | nil =>
      -- The opening bracket is not the closing one.
      rw [hrest] at hclose
      simp at hclose
  | append_singleton body last _ =>
      rw [hrest] at hclose
      have hlast : last = '>' := by
        rw [← List.cons_append, ← List.append_assoc, List.getLast?_concat] at hclose
        exact Option.some.inj hclose
      exact ⟨head, body, by rw [hlast], hhead⟩

theorem genericArgument_of_last (hclose : cs.getLast? ≠ some '>') :
    genericArgument wrapper cs = none := by
  unfold genericArgument
  dsimp only
  split
  · rfl
  · next c rest hdrop =>
    refine if_neg fun h => hclose ?_
    have hsplit := List.take_append_drop
      (Text.beforeFirst (fun c => c == '<') cs).length cs
    rw [hdrop] at hsplit
    rw [← hsplit, List.getLast?_append]
    cases rest with
    | nil => simp at h
    | cons d rest => simpa using h.2

theorem sliceElement_bracketed (body : List Char) :
    sliceElement ('[' :: (body ++ [']'])) = some (Text.trim Text.isBlank body) := by
  have hbare : withoutReference ('[' :: (body ++ [']'])) = '[' :: (body ++ [']']) := by
    rw [withoutReference, List.dropWhile_cons_of_neg (by decide), ← List.cons_append,
      Text.trim_concat (by decide), List.dropWhile_cons_of_neg (by decide)]
  rw [sliceElement, hbare]
  simp

/-- A reference in front of a slice does not count. -/
theorem sliceElement_borrowed (cs : List Char) : sliceElement ('&' :: cs) = sliceElement cs := by
  rw [sliceElement, sliceElement, withoutReference, List.dropWhile_cons_of_pos (by decide)]
  rfl

/-! ### Reading what stands between the brackets -/

/-- A text that neither starts nor ends with a blank is not trimmed. -/
theorem trim_enclosed {first last : Char} (hfirst : ¬ Text.isBlank first = true)
    (hlast : ¬ Text.isBlank last = true) (cs : List Char) :
    Text.trim Text.isBlank (first :: (cs ++ [last])) = first :: (cs ++ [last]) := by
  rw [← List.cons_append, Text.trim_concat hlast, List.dropWhile_cons_of_neg hfirst]

namespace DeclaredType

/-- Blanks around a type do not count. -/
theorem ofChars_trim (isEnumeration : String → Bool) (cs : List Char) :
    ofChars isEnumeration (Text.trim Text.isBlank cs) = ofChars isEnumeration cs := by
  have htwice : Text.trim Text.isBlank (Text.trim Text.isBlank cs) = Text.trim Text.isBlank cs :=
    Text.trim_trim cs
  cases hOption : genericArgument "Option" (Text.trim Text.isBlank cs) with
  | some inner =>
      have hOption' := hOption
      rw [← htwice] at hOption'
      rw [ofChars_option hOption, ofChars_option hOption', htwice]
  | none =>
      have hOption' := hOption
      rw [← htwice] at hOption'
      cases hElement : elementText (Text.trim Text.isBlank cs) with
      | some inner =>
          have hElement' := hElement
          rw [← htwice] at hElement'
          rw [ofChars_sequence hOption hElement, ofChars_sequence hOption' hElement', htwice]
      | none =>
          have hElement' := hElement
          rw [← htwice] at hElement'
          rw [ofChars_named hOption hElement, ofChars_named hOption' hElement', htwice]

/-- The type without its `Option`: a value is always there, and the declared text is the one
without the wrapper. -/
def unwrapped (t : DeclaredType) : DeclaredType := mk t.base t.base t.family false t.element

/-- What is left of a type without its `Option` is the same type. -/
theorem ofChars_base (isEnumeration : String → Bool) (cs : List Char) :
    ofChars isEnumeration (ofChars isEnumeration cs).base.toList =
      (ofChars isEnumeration cs).unwrapped := by
  induction cs using ofChars.induct isEnumeration with
  | case1 cs bare inner hOption _ ih =>
    rw [ofChars_option hOption]
    exact ih
  | case2 cs bare hOption inner hElement _ _ =>
    rw [ofChars_sequence hOption hElement]
    simp only [unwrapped, base, family, element, String.toList_ofList]
    rw [ofChars_trim, ofChars_sequence hOption hElement]
  | case3 cs bare hOption hElement =>
    rw [ofChars_named hOption hElement]
    simp only [unwrapped, base, family, element, String.toList_ofList]
    rw [ofChars_trim, ofChars_named hOption hElement]

/-! ### The wrappers -/

variable (isEnumeration : String → Bool) (t : String)

/-- A nullable type. -/
theorem parse_option :
    parse isEnumeration ("Option<" ++ t ++ ">") =
      mk ("Option<" ++ t ++ ">") (parse isEnumeration t).base (parse isEnumeration t).family true
        (parse isEnumeration t).element := by
  have hchars : ("Option<" ++ t ++ ">").toList = "Option".toList ++ '<' :: (t.toList ++ ['>']) := by
    simp
  have htrim : Text.trim Text.isBlank ("Option<" ++ t ++ ">").toList =
      ("Option<" ++ t ++ ">").toList := by
    rw [hchars]
    exact trim_enclosed (by decide) (by decide) ("ption<".toList ++ t.toList)
  have hOption : genericArgument "Option"
      (Text.trim Text.isBlank ("Option<" ++ t ++ ">").toList) =
        some (Text.trim Text.isBlank t.toList) := by
    rw [htrim, hchars, genericArgument_bracketed (by decide), if_pos (by decide)]
  rw [parse, ofChars_option hOption, ofChars_trim, htrim, String.ofList_toList]
  rfl

variable {t} in
/-- A text without blanks around it that has an element is a sequence type. -/
theorem parse_sequence {s : String} (htrim : Text.trim Text.isBlank s.toList = s.toList)
    (hOption : genericArgument "Option" s.toList = none)
    (hElement : elementText s.toList = some (Text.trim Text.isBlank t.toList)) :
    parse isEnumeration s = mk s s .sequence false (some (parse isEnumeration t)) := by
  rw [parse, ofChars_sequence (by rw [htrim]; exact hOption) (by rw [htrim]; exact hElement),
    ofChars_trim, htrim, String.ofList_toList]
  rfl

theorem parse_vec : parse isEnumeration ("Vec<" ++ t ++ ">") =
    mk ("Vec<" ++ t ++ ">") ("Vec<" ++ t ++ ">") .sequence false
      (some (parse isEnumeration t)) := by
  have hchars : ("Vec<" ++ t ++ ">").toList = "Vec".toList ++ '<' :: (t.toList ++ ['>']) := by simp
  apply parse_sequence
  · rw [hchars]
    exact trim_enclosed (by decide) (by decide) ("ec<".toList ++ t.toList)
  · rw [hchars, genericArgument_bracketed (by decide), if_neg (by decide)]
  · rw [elementText, hchars, genericArgument_bracketed (by decide), if_pos (by decide)]

theorem parse_slice : parse isEnumeration ("[" ++ t ++ "]") =
    mk ("[" ++ t ++ "]") ("[" ++ t ++ "]") .sequence false (some (parse isEnumeration t)) := by
  have hchars : ("[" ++ t ++ "]").toList = '[' :: (t.toList ++ [']']) := by simp
  have hlast : ('[' :: (t.toList ++ [']'])).getLast? ≠ some '>' := by
    rw [← List.cons_append, List.getLast?_concat]
    decide
  apply parse_sequence
  · rw [hchars]
    exact trim_enclosed (by decide) (by decide) t.toList
  · rw [hchars, genericArgument_of_last hlast]
  · rw [elementText, hchars, genericArgument_of_last hlast, sliceElement_bracketed]

theorem parse_borrowedSlice : parse isEnumeration ("&[" ++ t ++ "]") =
    mk ("&[" ++ t ++ "]") ("&[" ++ t ++ "]") .sequence false (some (parse isEnumeration t)) := by
  have hchars : ("&[" ++ t ++ "]").toList = '&' :: '[' :: (t.toList ++ [']']) := by simp
  have hlast : ('&' :: '[' :: (t.toList ++ [']'])).getLast? ≠ some '>' := by
    rw [← List.cons_append, ← List.cons_append, List.getLast?_concat]
    decide
  apply parse_sequence
  · rw [hchars]
    exact trim_enclosed (by decide) (by decide) ('[' :: t.toList)
  · rw [hchars, genericArgument_of_last hlast]
  · rw [elementText, hchars, genericArgument_of_last hlast, sliceElement_borrowed,
      sliceElement_bracketed]

/-! ### The laws of reading -/

/-- What holds of reading types, with `t` between the brackets of a wrapper, or as the type
itself. -/
structure FollowsNotation : Prop where
  /-- An argument is cut out between the first opening bracket and a closing one at the end,
  which are two different places. -/
  cuts : '<' ∈ t.toList → t.toList.getLast? = some '>' →
    ∃ head body, t.toList = head ++ '<' :: (body ++ ['>']) ∧ '<' ∉ head ∧
      ∀ wrapper, genericArgument wrapper t.toList =
        if String.ofList (bareName head) = wrapper then some (Text.trim Text.isBlank body) else none
  /-- Reading only goes on with shorter texts. -/
  ends : ∀ inner,
    genericArgument "Option" t.toList = some inner ∨ elementText t.toList = some inner →
      inner.length < t.toList.length
  /-- `Option` makes a type nullable and keeps the whole text. -/
  nullable : parse isEnumeration ("Option<" ++ t ++ ">") =
    mk ("Option<" ++ t ++ ">") (parse isEnumeration t).base (parse isEnumeration t).family true
      (parse isEnumeration t).element
  /-- The notations of sequences. -/
  sequence : ∀ s ∈ ["Vec<" ++ t ++ ">", "[" ++ t ++ "]", "&[" ++ t ++ "]"],
    parse isEnumeration s = mk s s .sequence false (some (parse isEnumeration t))
  /-- The base of a type is the same type, without `Option`. -/
  base : parse isEnumeration (parse isEnumeration t).base = (parse isEnumeration t).unwrapped
  /-- Sequences are the types with an element type. -/
  element : (parse isEnumeration t).family = .sequence ↔ (parse isEnumeration t).element.isSome

/-- **Types are read as they are written**, whatever text stands between the brackets of
their wrappers and whatever is known of enumerations. -/
theorem parse_followsNotation : FollowsNotation isEnumeration t where
  cuts hopen hclose := by
    obtain ⟨head, body, hchars, hhead⟩ := exists_bracketed hopen hclose
    refine ⟨head, body, hchars, hhead, fun wrapper => ?_⟩
    rw [hchars, genericArgument_bracketed hhead]
  ends inner h := by
    rcases h with h | h
    · exact length_genericArgument_lt h
    · exact length_elementText_lt h
  nullable := parse_option isEnumeration t
  sequence s hs := by
    simp only [List.mem_cons, List.not_mem_nil, or_false] at hs
    rcases hs with rfl | rfl | rfl
    · exact parse_vec isEnumeration t
    · exact parse_slice isEnumeration t
    · exact parse_borrowedSlice isEnumeration t
  base := ofChars_base isEnumeration t.toList
  element := (isSome_element_ofChars isEnumeration t.toList).symm

end DeclaredType
end Contract
end ClientSynth
