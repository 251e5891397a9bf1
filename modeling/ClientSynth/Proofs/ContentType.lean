import ClientSynth.Proofs.Trim
import ClientSynth.Request.Body

/-! # The content type that a body is sent with

A parameter, its method and its interface may each declare a content type, and the one that
is declared closest to the body counts: that of the parameter as it is written, of the
others the media type only.  `IsEffective` says so without the code.  The code looks for a
declaration that is not blank first and cuts its parameters off afterwards, so a declaration
of nothing but parameters counts although there is no media type in it, and what is left of
it is the empty text.  This is the only way to come by one. -/
namespace ClientSynth
namespace Request

open Text

variable {declared parameter method interface : Option String} {s media : String}

/-! ### What counts -/

/-- A content type that is given and not blank. -/
def Declares (declared : Option String) (s : String) : Prop :=
  declared = some s ∧ isBlankText s = false

/-- `media` is what stands in front of the parameters of the content type `s`, without the
blanks around it. -/
def HasMediaType (s media : String) : Prop :=
  ∃ front rest, s.toList = front ++ rest ∧ ';' ∉ front ∧ (rest = [] ∨ rest.head? = some ';') ∧
    media = stripBlanks (String.ofList front)

/-- A content type is given, and its media type is not blank. -/
def StatesMediaType (declared : Option String) (media : String) : Prop :=
  ∃ s, declared = some s ∧ HasMediaType s media ∧ isBlankText media = false

/-- The content type that the declarations of a parameter, a method and an interface ask
for. -/
inductive IsEffective (parameter method interface : Option String) : String → Prop where
  /-- The parameter has its own. -/
  | explicit {s : String} : Declares parameter s →
      IsEffective parameter method interface (stripBlanks s)
  | ofMethod {media : String} : (∀ s, ¬ Declares parameter s) → StatesMediaType method media →
      IsEffective parameter method interface media
  | ofInterface {media : String} : (∀ s, ¬ Declares parameter s) →
      (∀ m, ¬ StatesMediaType method m) → StatesMediaType interface media →
      IsEffective parameter method interface media
  | standard : (∀ s, ¬ Declares parameter s) → (∀ m, ¬ StatesMediaType method m) →
      (∀ m, ¬ StatesMediaType interface m) →
      IsEffective parameter method interface "application/json"

/-- A text that can be sent as a content type: not blank, and without blanks around it. -/
structure IsSendable (s : String) : Prop where
  not_blank : isBlankText s = false
  trimmed : stripBlanks s = s

/-- A content type that is given, but is nothing but parameters. -/
def LacksMediaType (declared : Option String) : Prop :=
  ∃ s rest, declared = some s ∧ (stripBlanks s).toList = ';' :: rest

/-! ### Media types -/

theorem isBlank_semicolon : isBlank ';' = false := by decide

theorem ne_semicolon_of_isBlank {c : Char} (h : isBlank c = true) : c ≠ ';' := by
  rintro rfl
  rw [isBlank_semicolon] at h
  cases h

/-- Blanks around a content type are not part of its media type. -/
theorem trim_beforeFirst_trim (cs : List Char) :
    trim isBlank (beforeFirst (fun c => c == ';') (trim isBlank cs)) =
      trim isBlank (beforeFirst (fun c => c == ';') cs) := by
  have hkeep : ∀ c, isBlank c = true → (fun c => !(c == ';')) c = true := by
    intro c hc
    simpa using ne_semicolon_of_isBlank hc
  refine apply_trim (f := fun ds => trim isBlank (beforeFirst (fun c => c == ';') ds)) ?_ ?_ cs
  · intro c hc ds
    have hcut : beforeFirst (fun c => c == ';') (c :: ds) =
        c :: beforeFirst (fun c => c == ';') ds := List.takeWhile_cons_of_pos (hkeep c hc)
    rw [hcut, trim_cons_of_pos hc]
  · intro c hc ds
    rw [beforeFirst, List.takeWhile_append]
    split
    · next hwhole =>
      -- Nothing is cut off in front of the last character.
      have hds : beforeFirst (fun c => c == ';') ds = ds :=
        (List.takeWhile_prefix _).eq_of_length hwhole
      have hlast : [c].takeWhile (fun c => !(c == ';')) = [c] :=
        List.takeWhile_cons_of_pos (hkeep c hc)
      rw [hlast, trim_concat_of_pos hc, hds]
    · rfl

theorem mediaType_stripBlanks (s : String) : mediaType (stripBlanks s) = mediaType s := by
  simp only [mediaType, stripBlanks, String.toList_ofList, trim_beforeFirst_trim]

theorem hasMediaType_iff : HasMediaType s media ↔ media = mediaType s := by
  constructor
  · rintro ⟨front, rest, hs, hfront, hrest, rfl⟩
    have hkeep : ∀ c ∈ front, (!(c == ';')) = true := by
      intro c hc
      have hne : c ≠ ';' := fun heq => hfront (heq ▸ hc)
      simpa using hne
    -- What is left behind the front is nothing, or begins with the semicolon that ends it.
    have hcut : rest.takeWhile (fun c => !(c == ';')) = [] := by
      rcases hrest with rfl | hhead
      · rfl
      · obtain ⟨more, rfl⟩ := List.head?_eq_some_iff.mp hhead
        rfl
    rw [mediaType, beforeFirst, hs, List.takeWhile_append_of_pos hkeep, hcut, List.append_nil]
  · rintro rfl
    refine ⟨s.toList.takeWhile (fun c => !(c == ';')), s.toList.dropWhile (fun c => !(c == ';')),
      (List.takeWhile_append_dropWhile).symm, fun hmem => ?_, ?_, rfl⟩
    · have hne := List.mem_takeWhile_imp hmem
      cases hne
    · have hhead := List.head?_dropWhile_not (fun c => !(c == ';')) s.toList
      cases hdrop : s.toList.dropWhile (fun c => !(c == ';')) with
      | nil => exact .inl rfl
      | cons c rest =>
        rw [hdrop] at hhead
        exact .inr (by simpa using hhead)

theorem stripBlanks_mediaType (s : String) : stripBlanks (mediaType s) = mediaType s :=
  stripBlanks_stripBlanks _

theorem statesMediaType_iff :
    StatesMediaType declared media ↔
      ∃ s, declared = some s ∧ media = mediaType s ∧ isBlankText media = false := by
  simp only [StatesMediaType, hasMediaType_iff]

theorem isSendable_stripBlanks (h : isBlankText s = false) : IsSendable (stripBlanks s) where
  not_blank := by rw [← isEmpty_stripBlanks, stripBlanks_stripBlanks, isEmpty_stripBlanks, h]
  trimmed := stripBlanks_stripBlanks s

/-- Whatever counts can be sent. -/
theorem IsEffective.isSendable (h : IsEffective parameter method interface s) : IsSendable s := by
  cases h with
  | explicit hdeclares => exact isSendable_stripBlanks hdeclares.2
  | ofMethod _ hstates | ofInterface _ _ hstates =>
    obtain ⟨t, -, rfl, hblank⟩ := statesMediaType_iff.mp hstates
    exact ⟨hblank, stripBlanks_mediaType t⟩
  | standard => exact ⟨by decide, by decide⟩

/-! ### What is declared -/

theorem declaredContentType_some (s : String) :
    declaredContentType (some s) = if isBlankText s then none else some (stripBlanks s) := by
  rw [declaredContentType, Option.map_some, Option.filter_some, isEmpty_stripBlanks]
  cases isBlankText s <;> rfl

theorem declaredContentType_eq_some_iff {t : String} :
    declaredContentType declared = some t ↔ ∃ s, Declares declared s ∧ t = stripBlanks s := by
  cases declared with
  | none =>
    constructor
    · intro h
      cases h
    · rintro ⟨s, ⟨hs, -⟩, -⟩
      cases hs
  | some s =>
    rw [declaredContentType_some]
    constructor
    · intro h
      split at h
      · cases h
      · next hblank => exact ⟨s, ⟨rfl, by simpa using hblank⟩, (Option.some.inj h).symm⟩
    · rintro ⟨s', ⟨hs, hblank⟩, rfl⟩
      cases hs
      rw [hblank]
      rfl

theorem declaredContentType_eq_none_iff :
    declaredContentType declared = none ↔ ∀ s, ¬ Declares declared s := by
  constructor
  · intro h s hs
    rw [declaredContentType_eq_some_iff.mpr ⟨s, hs, rfl⟩] at h
    cases h
  · intro h
    cases hdeclared : declaredContentType declared with
    | none => rfl
    | some t =>
      obtain ⟨s, hs, -⟩ := declaredContentType_eq_some_iff.mp hdeclared
      exact absurd hs (h s)

/-- A declaration has no media type exactly if it starts with its parameters. -/
theorem lacksMediaType_iff (h : Declares declared s) :
    LacksMediaType declared ↔ mediaType s = "" := by
  obtain ⟨rfl, hblank⟩ := h
  have hsendable := isSendable_stripBlanks hblank
  rw [← mediaType_stripBlanks]
  constructor
  · rintro ⟨s', rest, hs, hstart⟩
    cases hs
    rw [mediaType, hstart, beforeFirst]
    rfl
  · intro hempty
    obtain ⟨c, rest, hchars⟩ : ∃ c rest, (stripBlanks s).toList = c :: rest := by
      refine List.exists_cons_of_ne_nil (fun hnil => ?_)
      have hnot := hsendable.not_blank
      rw [isBlankText, hnil] at hnot
      cases hnot
    refine ⟨s, rest, rfl, ?_⟩
    by_cases hc : c = ';'
    · rw [hchars, hc]
    · -- The first character is neither blank nor cut off.
      have hkept : c ∈ beforeFirst (fun c => c == ';') (c :: rest) := by
        rw [beforeFirst, List.takeWhile_cons_of_pos (by simpa using hc)]
        exact List.mem_cons_self
      have hchar : ¬ isBlank c = true := by
        have hhead : (trim isBlank s.toList).head? = some c := by
          rw [← String.toList_ofList (l := trim isBlank s.toList), ← stripBlanks, hchars]
          rfl
        rw [not_of_head?_trim hhead]
        exact Bool.false_ne_true
      have hmem := mem_trim hchar hkept
      rw [mediaType, hchars, stripBlanks, String.toList_ofList] at hempty
      rw [String.ofList_eq_empty_iff.mp hempty] at hmem
      cases hmem

theorem LacksMediaType.declares (h : LacksMediaType declared) : ∃ s, Declares declared s := by
  obtain ⟨s, rest, hs, hstart⟩ := h
  refine ⟨s, hs, ?_⟩
  rw [← isEmpty_stripBlanks, Bool.eq_false_iff]
  intro hempty
  rw [String.isEmpty_iff.mp hempty] at hstart
  cases hstart

theorem statesMediaType_of_declares (h : Declares declared s) (hlacks : ¬ LacksMediaType declared) :
    StatesMediaType declared (mediaType s) := by
  refine statesMediaType_iff.mpr ⟨s, h.1, rfl, ?_⟩
  rw [lacksMediaType_iff h] at hlacks
  rw [← isEmpty_stripBlanks, stripBlanks_mediaType, Bool.eq_false_iff]
  exact fun hempty => hlacks (String.isEmpty_iff.mp hempty)

/-- What is not declared states nothing. -/
theorem StatesMediaType.declares (h : StatesMediaType declared media) :
    ∃ s, Declares declared s := by
  obtain ⟨s, hs, rfl, hmedia⟩ := statesMediaType_iff.mp h
  refine ⟨s, hs, Bool.eq_false_iff.mpr (fun hblank => ?_)⟩
  have hempty : stripBlanks s = "" := String.isEmpty_iff.mp (by rw [isEmpty_stripBlanks, hblank])
  rw [← mediaType_stripBlanks, hempty] at hmedia
  exact absurd hmedia (by decide)

/-! ### What is sent -/

theorem resolveContentType_explicit (h : Declares parameter s)
    (method interface : Option String) :
    resolveContentType parameter method interface = stripBlanks s := by
  rw [resolveContentType, declaredContentType_eq_some_iff.mpr ⟨s, h, rfl⟩]

theorem resolveContentType_method (hparameter : ∀ t, ¬ Declares parameter t)
    (h : Declares method s) (interface : Option String) :
    resolveContentType parameter method interface = mediaType s := by
  rw [resolveContentType, declaredContentType_eq_none_iff.mpr hparameter,
    declaredContentType_eq_some_iff.mpr ⟨s, h, rfl⟩]
  exact mediaType_stripBlanks s

theorem resolveContentType_interface (hparameter : ∀ t, ¬ Declares parameter t)
    (hmethod : ∀ t, ¬ Declares method t) (h : Declares interface s) :
    resolveContentType parameter method interface = mediaType s := by
  rw [resolveContentType, declaredContentType_eq_none_iff.mpr hparameter,
    declaredContentType_eq_none_iff.mpr hmethod,
    declaredContentType_eq_some_iff.mpr ⟨s, h, rfl⟩]
  exact mediaType_stripBlanks s

theorem resolveContentType_standard (hparameter : ∀ t, ¬ Declares parameter t)
    (hmethod : ∀ t, ¬ Declares method t) (hinterface : ∀ t, ¬ Declares interface t) :
    resolveContentType parameter method interface = "application/json" := by
  rw [resolveContentType, declaredContentType_eq_none_iff.mpr hparameter,
    declaredContentType_eq_none_iff.mpr hmethod, declaredContentType_eq_none_iff.mpr hinterface]
  rfl

/-- The declaration that counts is nothing but parameters. -/
def IsCutAway (parameter method interface : Option String) : Prop :=
  (∀ s, ¬ Declares parameter s) ∧
    (LacksMediaType method ∨ (∀ s, ¬ Declares method s) ∧ LacksMediaType interface)

theorem resolveContentType_of_isCutAway (h : IsCutAway parameter method interface) :
    resolveContentType parameter method interface = "" := by
  obtain ⟨hparameter, hmethod | ⟨hmethod, hinterface⟩⟩ := h
  · obtain ⟨s, hs⟩ := hmethod.declares
    rw [resolveContentType_method hparameter hs, (lacksMediaType_iff hs).mp hmethod]
  · obtain ⟨s, hs⟩ := hinterface.declares
    rw [resolveContentType_interface hparameter hmethod hs, (lacksMediaType_iff hs).mp hinterface]

/-- Case by case: who is the first to declare a content type. -/
theorem isEffective_resolveContentType (h : ¬ IsCutAway parameter method interface) :
    IsEffective parameter method interface (resolveContentType parameter method interface) := by
  by_cases hparameter : ∃ s, Declares parameter s
  · obtain ⟨s, hs⟩ := hparameter
    rw [resolveContentType_explicit hs]
    exact .explicit hs
  have hparameter := not_exists.mp hparameter
  by_cases hmethod : ∃ s, Declares method s
  · obtain ⟨s, hs⟩ := hmethod
    -- A declaration that lacks a media type would be the one that is cut away.
    have hlacks : ¬ LacksMediaType method := fun hlacks => h ⟨hparameter, .inl hlacks⟩
    rw [resolveContentType_method hparameter hs]
    exact .ofMethod hparameter (statesMediaType_of_declares hs hlacks)
  have hsilent : ∀ m, ¬ StatesMediaType method m := fun m hstates => hmethod hstates.declares
  have hmethod := not_exists.mp hmethod
  by_cases hinterface : ∃ s, Declares interface s
  · obtain ⟨s, hs⟩ := hinterface
    have hlacks : ¬ LacksMediaType interface :=
      fun hlacks => h ⟨hparameter, .inr ⟨hmethod, hlacks⟩⟩
    rw [resolveContentType_interface hparameter hmethod hs]
    exact .ofInterface hparameter hsilent (statesMediaType_of_declares hs hlacks)
  · rw [resolveContentType_standard hparameter hmethod (not_exists.mp hinterface)]
    exact .standard hparameter hsilent (fun m hstates => hinterface hstates.declares)

/-- **The content type of a body is the one that its declarations ask for, and can be sent**,
exactly if the declaration that counts is not cut away.  Then, and only then, it is empty. -/
theorem resolveContentType_isEffective_iff (parameter method interface : Option String) :
    (IsSendable (resolveContentType parameter method interface) ∧
        IsEffective parameter method interface (resolveContentType parameter method interface) ↔
      ¬ IsCutAway parameter method interface) ∧
    (resolveContentType parameter method interface = "" ↔
      IsCutAway parameter method interface) := by
  have hempty : resolveContentType parameter method interface = "" →
      ¬ IsSendable (resolveContentType parameter method interface) := by
    intro hempty hsendable
    have hblank := hsendable.not_blank
    rw [hempty] at hblank
    exact absurd hblank (by decide)
  refine ⟨⟨fun h hcut => ?_, fun h => ?_⟩, fun h => ?_, resolveContentType_of_isCutAway⟩
  · exact hempty (resolveContentType_of_isCutAway hcut) h.1
  · have heffective := isEffective_resolveContentType h
    exact ⟨heffective.isSendable, heffective⟩
  · by_contra hcut
    exact hempty h (isEffective_resolveContentType hcut).isSendable

/-- A method that states a character set only hides the content type of its interface: what
is asked for is `text/plain`, and what is sent is empty. -/
theorem charsetOnly_hides_interface :
    IsEffective none (some "; charset=utf-8") (some "text/plain") "text/plain" ∧
      resolveContentType none (some "; charset=utf-8") (some "text/plain") = "" ∧
      ¬ IsSendable (resolveContentType none (some "; charset=utf-8") (some "text/plain")) := by
  have hempty : resolveContentType none (some "; charset=utf-8") (some "text/plain") = "" := by
    decide
  have hsilent : ∀ m, ¬ StatesMediaType (some "; charset=utf-8") m := by
    intro m hstates
    obtain ⟨s, hs, rfl, hblank⟩ := statesMediaType_iff.mp hstates
    cases hs
    exact absurd hblank (by decide)
  refine ⟨.ofInterface (fun s hs => nomatch hs.1) hsilent ?_, hempty, fun h => ?_⟩
  · exact statesMediaType_iff.mpr ⟨"text/plain", rfl, by decide, by decide⟩
  · rw [hempty] at h
    exact absurd h.not_blank (by decide)

end Request
end ClientSynth
