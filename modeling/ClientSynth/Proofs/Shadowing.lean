import ClientSynth.Proofs.Locals
import ClientSynth.Proofs.RequestStatement
import ClientSynth.Proofs.WellFormed

/-! # Parameters behind the names of a request

A `let` that is written like a parameter hides it from all that follows.  A default
does so on purpose, and the locals of a method never do, since they avoid the names
of all parameters.  The list of a parameter's joined items avoids nothing: it is
called after that parameter alone, and another parameter may have this very name.
That is the one way in which a request loses a parameter. -/
namespace ClientSynth
namespace Request

open Contract Code

/-- No `let` of the request but a parameter's default is written like a parameter. -/
def KeepsParameters (m : Method) (interfaceContentType : Option String) : Prop :=
  ∀ s ∈ Stmt.statementsAll (requestBlock m interfaceContentType (localsOf m)),
    ∀ name, s.boundName? = some name →
      (∃ p ∈ m.parameters, defaultStatement p = some s) ∨
        ∀ q ∈ m.parameters, Identifier.variableName name ≠ Identifier.variableName q.name

/-- What a request binds after its defaults is a local or a list of joined items. -/
theorem boundName_of_mem_requestSteps {m : Method} {interfaceContentType : Option String} {s : Stmt}
    (hs : s ∈ Stmt.statementsAll (requestSteps m interfaceContentType (localsOf m))) {name : String}
    (hname : s.boundName? = some name) :
    name ∈ (localsOf m).toList ∨ ∃ p ∈ m.parameters, isJoined p = true ∧ name = joinedValues p := by
  have hmem := Stmt.mem_collect.mpr ⟨s, hs, hname⟩
  rw [boundNames_requestSteps] at hmem
  -- In order: the address with the joined items, the request as sent, the text of the answer.
  rcases List.mem_append.mp hmem with hmem | htext
  · rcases List.mem_append.mp hmem with haddress | hsent
    · rw [List.mem_cons, List.mem_cons] at haddress
      rcases haddress with rfl | rfl | hjoined
      · exact Or.inl (by simp [Locals.toList])
      · exact Or.inl (by simp [Locals.toList])
      · obtain ⟨p, hp, rfl⟩ := List.mem_map.mp hjoined
        rw [List.mem_filter] at hp
        exact Or.inr ⟨p, hp.1, hp.2, rfl⟩
    · simp only [List.mem_cons, List.not_mem_nil, or_false] at hsent
      rcases hsent with rfl | rfl | rfl | rfl | rfl | rfl <;>
        exact Or.inl (by simp [Locals.toList])
  · split at htext
    · rw [List.mem_singleton.mp htext]
      exact Or.inl (by simp [Locals.toList])
    · cases htext

/-- The list of joined items is bound by the query statements. -/
theorem joinedBinding_mem {ps : List Parameter} {p : Parameter} (hp : p ∈ ps)
    (hjoined : isJoined p = true) (locals : Locals) :
    joinedBinding p ∈ Stmt.statementsAll (queryStatements ps locals) := by
  -- Looked for among the statements that are not plain, of which all are known.
  have hmem : joinedBinding p ∈
      Stmt.collect (fun s => if s.isPlain then none else some s) (queryStatements ps locals) := by
    rw [collect_queryStatements (fun s hs => if_pos hs)]
    refine List.mem_filterMap.mpr ⟨joinedBinding p, List.mem_cons_of_mem _ ?_, rfl⟩
    exact List.mem_map_of_mem (List.mem_filter.mpr ⟨hp, hjoined⟩)
  obtain ⟨s, hs, heq⟩ := Stmt.mem_collect.mp hmem
  split at heq
  · cases heq
  · cases heq
    exact hs

/-- A default leaves the type open, so the list of joined items is none. -/
theorem defaultStatement_ne_joinedBinding (p q : Parameter) :
    defaultStatement q ≠ some (joinedBinding p) := by
  intro h
  obtain ⟨fallback, hbinding⟩ := defaultStatement_eq_some h
  have htype : some "Vec<String>" = none := (Stmt.bind.inj hbinding).2.2.1
  cases htype

/-- **When parameters stay reachable**: exactly if no parameter is written like the
list of another one's joined items. -/
theorem keepsParameters_iff (m : Method) (interfaceContentType : Option String) :
    KeepsParameters m interfaceContentType ↔
      ∀ p ∈ m.parameters, isJoined p = true → ∀ q ∈ m.parameters,
        Identifier.variableName (joinedValues p) ≠ Identifier.variableName q.name := by
  constructor
  -- A list of joined items is bound inside the block, and is no default of a parameter.
  · intro hkeeps p hp hjoined
    have hmem : joinedBinding p ∈
        Stmt.statementsAll (requestBlock m interfaceContentType (localsOf m)) := by
      have haddress := joinedBinding_mem hp hjoined (localsOf m)
      rw [requestBlock_eq]
      unfold requestSteps addressStatements
      simp [haddress]
    rcases hkeeps _ hmem _ rfl with ⟨q, -, hdefault⟩ | hne
    · exact absurd hdefault (defaultStatement_ne_joinedBinding p q)
    · exact hne
  · intro hjoined s hs name hname
    rw [requestBlock_eq, Stmt.statementsAll_append, statementsAll_defaultStatements] at hs
    rcases List.mem_append.mp hs with hdefault | hstep
    · exact Or.inl (List.mem_filterMap.mp hdefault)
    · refine Or.inr (fun q hq => ?_)
      rcases boundName_of_mem_requestSteps hstep hname with hlocal | ⟨p, hp, hp', rfl⟩
      · exact variableName_beside_ne hlocal (List.mem_map_of_mem hq)
      · exact hjoined p hp hp' q hq

/-! ### A parameter that is lost -/

/-- A client with tags that are joined in the query, and with a body that is called like
the list of the joined tags. -/
def taggedApi : Declaration.Interface :=
  { name := "ITaggedApi"
    ancestors := []
    annotations := [.marker "HttpClientApi"]
    methods :=
      [⟨"FindAsync", some ⟨some "String", true⟩, [⟨"Post", [.text "/find"], []⟩],
        [⟨"tags", "Vec<String>", none, [⟨"ArrayQuery", [.text "tags", .text ","], []⟩]⟩,
          ⟨"tags_values", "Vec<String>", none, [.marker "Body"]⟩]⟩]
    source := "tagged.yaml" }

/-- The list of the joined tags takes the name of the body. -/
theorem taggedApi_not_keepsParameters :
    ∃ contract ∈ (resolveAll ⟨[], [taggedApi]⟩ (fun name => name == "ITaggedApi")).value,
      ∃ m ∈ contract.methods, ¬ KeepsParameters m contract.client.contentType := by
  have hclient : (keepInterface ⟨[], [taggedApi]⟩ taggedApi).value =
      (resolveClient ⟨[], [taggedApi]⟩ taggedApi ⟨none, none, none, none, false, none⟩).value := rfl
  have hparameters : (keepInterface ⟨[], [taggedApi]⟩ taggedApi).value.map (fun contract =>
      contract.methods.map (fun m => m.parameters.map (fun p => (p.name, isJoined p)))) =
        some [[("tags", true), ("tags_values", false)]] := by
    rw [hclient]
    simp only [resolveClient, Reported.value_bind,
      DeclarationSet.lineage_root (i := taggedApi) rfl]
    with_unfolding_all rfl
  obtain ⟨contract, hkept, hmethods⟩ := Option.map_eq_some_iff.mp hparameters
  obtain ⟨m, hm, hm'⟩ := List.map_eq_singleton_iff.mp hmethods
  obtain ⟨p, rest, hrest, hp, hrest'⟩ := List.map_eq_cons_iff.mp hm'
  obtain ⟨q, rfl, hq⟩ := List.map_eq_singleton_iff.mp hrest'
  obtain ⟨hpname, hjoined⟩ := Prod.mk.inj hp
  refine ⟨contract, mem_resolveAll List.mem_cons_self rfl hkept, m, hm ▸ List.mem_cons_self, ?_⟩
  intro hkeeps
  refine (keepsParameters_iff m _).mp hkeeps p (hrest ▸ List.mem_cons_self) hjoined q
    (hrest ▸ List.mem_cons_of_mem p List.mem_cons_self) ?_
  rw [joinedValues, hpname, (Prod.mk.inj hq).1]
  rfl

end Request
end ClientSynth
