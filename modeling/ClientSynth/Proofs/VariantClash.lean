import ClientSynth.Proofs.Expansion
import ClientSynth.Proofs.WellFormed

/-! # Variants that are lost without a clash

A variant gives way if its name is in use when its turn comes.  The names in use are
those of the variants kept so far and, from the start, those of all client methods that
are wrapped, also of the ones that only get into the layer as variants.  The name of
such a method may belong to nothing in the layer, and still no variant can have it.
That is the only way to lose a variant without a clash. -/
namespace ClientSynth
namespace Layer

open Contract Code

variable {i : Interface} {m : Method} {w : WrapMethod} {c : Bool × WrapMethod}
  {cs : List (Bool × WrapMethod)} {taken : List String}

/-! ### What a candidate is dropped for -/

/-- A name in use was so from the start, or a candidate that is kept has it. -/
theorem kept_of_occupied {name : String} (taken : List String)
    (h : name ∈ cs.foldl occupy taken) :
    name ∈ taken ∨ ∃ v ∈ (settle i taken cs).value, Text.snakeCase v.name = name := by
  induction cs generalizing taken with
  | nil => exact Or.inl h
  | cons c cs ih =>
      rw [List.foldl_cons] at h
      by_cases hclash : Clashes taken c
      · rw [settle_clash hclash]
        rcases ih (occupy taken c) h with hused | hkept
        · -- A candidate that clashes takes no name that was not in use.
          rcases mem_occupy.mp hused with hused | ⟨-, rfl⟩
          · exact Or.inl hused
          · exact Or.inl hclash.2
        · exact Or.inr hkept
      · rw [settle_free hclash]
        rcases ih (occupy taken c) h with hused | ⟨v, hv, hsame⟩
        · rcases mem_occupy.mp hused with hused | ⟨-, hsame⟩
          · exact Or.inl hused
          · exact Or.inr ⟨c.2, List.mem_cons_self, hsame⟩
        · exact Or.inr ⟨v, List.mem_cons_of_mem _ hv, hsame⟩

/-- A candidate that is not kept is reported, and its name was in use from the start or
belongs to one that is kept. -/
theorem kept_or_clashes (taken : List String) (hc : c ∈ cs) :
    c.2 ∈ (settle i taken cs).value ∨
      c.1 = true ∧ expansionCollision i c.2 ∈ (settle i taken cs).log ∧
        (Text.snakeCase c.2.name ∈ taken ∨
          ∃ v ∈ (settle i taken cs).value, Text.snakeCase v.name = Text.snakeCase c.2.name) := by
  obtain ⟨front, back, rfl⟩ := List.append_of_mem hc
  rw [settle_append]
  by_cases hclash : Clashes (front.foldl occupy taken) c
  · rw [settle_clash hclash]
    refine Or.inr ⟨hclash.1, List.mem_append_right _ List.mem_cons_self, ?_⟩
    rcases kept_of_occupied (i := i) taken hclash.2 with hused | ⟨v, hv, hsame⟩
    · exact Or.inl hused
    · exact Or.inr ⟨v, List.mem_append_left _ hv, hsame⟩
  · rw [settle_free hclash]
    exact Or.inl (List.mem_append_right _ List.mem_cons_self)

/-- What a method expands to is in the layer, or it is reported and its name is that of a
client method or of something in the layer. -/
theorem mem_or_clashes (hm : m ∈ wrappedMethods i) (hw : w ∈ expandMethod m) :
    w ∈ (expandInterface i).value ∨
      hasBothToken m = true ∧ expansionCollision i w ∈ (expandInterface i).log ∧
        ((∃ n ∈ wrappedMethods i, Identifier.functionName n.name = w.identifier) ∨
          ∃ v ∈ (expandInterface i).value, v.identifier = w.identifier) := by
  have hcandidate : (hasBothToken m, w) ∈ (wrappedMethods i).flatMap candidates := by
    refine List.mem_flatMap.mpr ⟨m, hm, ?_⟩
    rw [candidates_eq]
    exact List.mem_map_of_mem hw
  rcases kept_or_clashes ((wrappedMethods i).map Method.functionName) hcandidate with
    hkept | ⟨hboth, hreported, hused⟩
  · exact Or.inl hkept
  · refine Or.inr ⟨hboth, hreported, ?_⟩
    rcases hused with hused | ⟨v, hv, hsame⟩
    · obtain ⟨n, hn, hsame⟩ := List.mem_map.mp hused
      exact Or.inl ⟨n, hn, Identifier.functionName_eq_iff_snakeCase.mpr hsame⟩
    · exact Or.inr ⟨v, hv, Identifier.functionName_eq_iff_snakeCase.mpr hsame⟩

theorem mem_expandInterface_of_no_bothToken (hm : m ∈ wrappedMethods i)
    (hplain : hasBothToken m = false) (hw : w ∈ expandMethod m) :
    w ∈ (expandInterface i).value := by
  rcases mem_or_clashes hm hw with hkept | ⟨hboth, -⟩
  · exact hkept
  · rw [hplain] at hboth
    cases hboth

/-! ### Names that nothing in the layer has -/

/-- A name that is in use although nothing in the layer has it: a client method with
variants is called like that, and no client method without variants. -/
structure IsVacant (i : Interface) (identifier : String) : Prop where
  used : ∃ n ∈ wrappedMethods i,
    hasBothToken n = true ∧ Identifier.functionName n.name = identifier
  free : ∀ n ∈ wrappedMethods i,
    hasBothToken n = false → Identifier.functionName n.name ≠ identifier

/-- Nothing in the layer has a vacant name. -/
theorem not_isVacant_of_mem (hw : w ∈ (expandInterface i).value) :
    ¬ IsVacant i w.identifier := by
  intro hvacant
  cases hvariant : w.isVariant with
  | true =>
      obtain ⟨n, hn, -, hsame⟩ := hvacant.used
      refine (areEntered_candidates (wrappedMethods i)).variant_not_mem hw hvariant ?_
      have hsnake : n.functionName = Text.snakeCase w.name :=
        Identifier.functionName_eq_iff_snakeCase.mp hsame
      rw [← hsnake]
      exact List.mem_map_of_mem hn
  | false =>
      obtain ⟨m, hm, hmem⟩ := exists_method hw
      refine hvacant.free m hm ?_ ?_
      · rw [← target_of_mem_expandMethod hmem]
        exact hvariant
      · rw [← target_of_mem_expandMethod hmem]
        exact identifier_target hw hvariant

/-- What is not in the layer has the name of something in it, unless the name is vacant. -/
theorem exists_clash (hm : m ∈ wrappedMethods i) (hw : w ∈ expandMethod m)
    (hlost : w ∉ (expandInterface i).value) (hvacant : ¬ IsVacant i w.identifier) :
    expansionCollision i w ∈ (expandInterface i).log ∧
      ∃ v ∈ (expandInterface i).value, v.identifier = w.identifier := by
  rcases mem_or_clashes hm hw with hkept | ⟨-, hreported, ⟨n, hn, hname⟩ | hclash⟩
  · exact absurd hkept hlost
  · refine ⟨hreported, ?_⟩
    -- The method that is called like that is in the layer, or one that is spelled alike.
    obtain ⟨p, hp, hplain, hsame⟩ : ∃ p ∈ wrappedMethods i,
        hasBothToken p = false ∧ Identifier.functionName p.name = w.identifier := by
      cases hboth : hasBothToken n with
      | false => exact ⟨n, hn, hboth, hname⟩
      | true =>
          by_contra hnone
          exact hvacant ⟨⟨n, hn, hboth, hname⟩,
            fun p hp hplain hsame => hnone ⟨p, hp, hplain, hsame⟩⟩
    have hself : variant p p.name .tenant ∈ expandMethod p := by
      rw [expandMethod_of_no_bothToken hplain .tenant]
      exact List.mem_singleton_self _
    exact ⟨_, mem_expandInterface_of_no_bothToken hp hplain hself, hsame⟩
  · exact ⟨hreported, hclash⟩

/-! ### Losses -/

/-- Whatever a layer does not have of what its methods expand to is reported, and there is
a method in the layer that is called like that. -/
def LosesOnlyToClashes (i : Interface) : Prop :=
  ∀ m ∈ wrappedMethods i, ∀ w ∈ expandMethod m, w ∉ (expandInterface i).value →
    expansionCollision i w ∈ (expandInterface i).log ∧
      ∃ v ∈ (expandInterface i).value, v.identifier = w.identifier

/-- A variant whose name is vacant is lost to nothing in the layer. -/
theorem not_losesOnlyToClashes (hm : m ∈ wrappedMethods i) (hw : w ∈ expandMethod m)
    (hvacant : IsVacant i w.identifier) : ¬ LosesOnlyToClashes i := by
  intro hloses
  have hlost : w ∉ (expandInterface i).value := fun hmem => not_isVacant_of_mem hmem hvacant
  obtain ⟨-, v, hv, hsame⟩ := hloses m hm w hw hlost
  rw [← hsame] at hvacant
  exact not_isVacant_of_mem hv hvacant

/-- **When variants are only lost to clashes**: exactly if none has a vacant name, which
is the name of a method that has variants itself. -/
theorem losesOnlyToClashes_iff (i : Interface) :
    LosesOnlyToClashes i ↔
      ∀ m ∈ wrappedMethods i, ∀ w ∈ expandMethod m, ¬ IsVacant i w.identifier := by
  constructor
  · intro hloses m hm w hw hvacant
    exact not_losesOnlyToClashes hm hw hvacant hloses
  · intro hnone m hm w hw hlost
    exact exists_clash hm hw hlost (hnone m hm w hw)

/-- The parameter of a method that takes a token of either scope. -/
def eitherToken : Declaration.Parameter :=
  ⟨"token", "String", none, [⟨"Token", [.text "Both"], []⟩]⟩

/-- A client with two methods of either scope, where the second is called like the first
for tenants. -/
def tenantApi : Declaration.Interface :=
  { name := "IUserApi"
    ancestors := []
    annotations := [.marker "HttpClientApi", .marker "WrapApi"]
    methods :=
      [⟨"GetUserAsync", some ⟨none, true⟩, [⟨"Get", [.text "/user"], []⟩], [eitherToken]⟩,
        ⟨"GetUser_Tenant_Async", some ⟨none, true⟩, [⟨"Get", [.text "/tenant"], []⟩],
          [eitherToken]⟩]
    source := "user.yaml" }

/-- The first method loses its variant for tenants to the second, which is in the layer
under two other names only. -/
theorem tenantApi_loses_without_clash :
    ∃ contract ∈ (resolveAll ⟨[], [tenantApi]⟩ (fun name => name == tenantApi.name)).value,
      ¬ LosesOnlyToClashes contract := by
  obtain ⟨contract, hcontract, hmethods⟩ := exists_contract (i := tenantApi)
    ⟨none, none, none, none, false, none⟩ (fun m => (m.name, m.ignoreWrap, hasBothToken m))
    [("GetUserAsync", false, true), ("GetUser_Tenant_Async", false, true)] rfl rfl
    (by simp) (by with_unfolding_all rfl)
  obtain ⟨m, others, hdeclared, hm, hothers⟩ := List.map_eq_cons_iff.mp hmethods
  obtain ⟨n, rfl, hn⟩ := List.map_eq_singleton_iff.mp hothers
  simp only [Prod.mk.injEq] at hm hn
  have hwrapped : wrappedMethods contract = [m, n] := by
    simp [wrappedMethods, hdeclared, hm.2.1, hn.2.1]
  have hvariant : variant m (Naming.withScope m.name "Tenant") .tenant ∈ expandMethod m := by
    rw [expandMethod_of_hasBothToken hm.2.2]
    exact List.mem_cons_self
  have hname : Identifier.functionName n.name =
      (variant m (Naming.withScope m.name "Tenant") .tenant).identifier := by
    show Identifier.functionName n.name =
      Identifier.functionName (Naming.withScope m.name "Tenant")
    rw [hm.1, hn.1]
    decide +kernel
  refine ⟨contract, hcontract,
    not_losesOnlyToClashes (hwrapped ▸ List.mem_cons_self) hvariant ⟨⟨n, ?_, hn.2.2, hname⟩, ?_⟩⟩
  · rw [hwrapped]
    exact List.mem_cons_of_mem _ List.mem_cons_self
  · intro p hp hplain
    rw [hwrapped] at hp
    simp only [List.mem_cons, List.not_mem_nil, or_false] at hp
    rcases hp with rfl | rfl
    · rw [hm.2.2] at hplain
      cases hplain
    · rw [hn.2.2] at hplain
      cases hplain

end Layer
end ClientSynth
