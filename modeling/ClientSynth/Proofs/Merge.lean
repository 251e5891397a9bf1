import ClientSynth.Declaration.Set
import ClientSynth.Proofs.Occurrence

/-! # Merging keeps the first declaration of a name

Merging documents goes through all their declarations, one after another.  What is in
the set at any time is what has come first under its name so far, and what has been
reported are the other declarations, each at the document that holds it.  Adding one
declaration keeps this up, and so does adding a document, and any number of them.  In
particular the interfaces of a merged set have distinct names, so each of them is the one
found under its name. -/
namespace ClientSynth

namespace DeclarationSet

open Declaration Occurrence

/-! ### One declaration after another -/

/-- The declarations of documents, each with the location of its document. -/
def located {α : Type} (declarations : Contents → List α)
    (documents : List (String × Contents)) : List (String × α) :=
  documents.flatMap (fun d => (declarations d.2).map (fun a => (d.1, a)))

/-- The reports of the declarations that have the name of one before them. -/
def repeatReports {α : Type} (kind : String) (nameOf : α → String) (l : List (String × α)) :
    List Diagnostic :=
  (repeats (fun p => nameOf p.2) l).map (fun p => duplicate kind (nameOf p.2) p.1)

theorem repeatReports_concat {α : Type} (kind : String) (nameOf : α → String)
    (l : List (String × α)) (source : String) (a : α) :
    repeatReports kind nameOf (l ++ [(source, a)]) = repeatReports kind nameOf l ++
      if nameOf a ∈ (l.map Prod.snd).map nameOf then [duplicate kind (nameOf a) source]
      else [] := by
  rw [repeatReports, repeats_concat, List.map_append, ← repeatReports, List.map_map]
  congr 1
  simp only [Function.comp_def]
  split <;> rfl

/-- What a set holds, and what has been reported, when the given declarations have been
added, each for a document at its location. -/
structure MergedFrom (enumerations : List (String × Enumeration))
    (interfaces : List (String × Interface)) (merged : Reported DeclarationSet) : Prop where
  enumerations_eq : merged.value.enumerations =
    firsts Enumeration.name (enumerations.map Prod.snd)
  interfaces_eq : merged.value.interfaces = firsts Interface.name (interfaces.map Prod.snd)
  reports : merged.log.Perm (repeatReports "enum" Enumeration.name enumerations ++
    repeatReports "interface" Interface.name interfaces)

variable {enumerations : List (String × Enumeration)} {interfaces : List (String × Interface)}
  {merged : Reported DeclarationSet}

theorem MergedFrom.enumeration? (h : MergedFrom enumerations interfaces merged) (name : String) :
    merged.value.enumeration? name =
      (enumerations.map Prod.snd).find? (fun e => e.name == name) := by
  rw [DeclarationSet.enumeration?, h.enumerations_eq, find?_firsts]

theorem MergedFrom.interface? (h : MergedFrom enumerations interfaces merged) (name : String) :
    merged.value.interface? name =
      (interfaces.map Prod.snd).find? (fun i => i.name == name) := by
  rw [DeclarationSet.interface?, h.interfaces_eq, find?_firsts]

theorem MergedFrom.enumeration_added (h : MergedFrom enumerations interfaces merged)
    (source : String) (e : Enumeration) :
    MergedFrom (enumerations ++ [(source, e)]) interfaces
      (merged >>= fun set => set.addEnumeration source e) := by
  have hfound : (merged.value.enumeration? e.name).isSome = true ↔
      e.name ∈ (enumerations.map Prod.snd).map Enumeration.name := by
    rw [h.enumeration?, isSome_find?_iff]
  by_cases hmem : e.name ∈ (enumerations.map Prod.snd).map Enumeration.name
  · have hadd : merged.value.addEnumeration source e =
        ⟨merged.value, [duplicate "enum" e.name source]⟩ := if_pos (hfound.mpr hmem)
    refine ⟨?_, ?_, ?_⟩
    · rw [Reported.value_bind, hadd, List.map_append, List.map_singleton, firsts_concat,
        if_pos hmem, List.append_nil]
      exact h.enumerations_eq
    · rw [Reported.value_bind, hadd]
      exact h.interfaces_eq
    · rw [Reported.log_bind, hadd, repeatReports_concat, if_pos hmem]
      refine (h.reports.append_right _).trans ?_
      rw [List.append_assoc, List.append_assoc]
      exact List.perm_append_comm.append_left _
  · have hadd : merged.value.addEnumeration source e =
        .silent { merged.value with enumerations := merged.value.enumerations ++ [e] } :=
      if_neg (fun hsome => hmem (hfound.mp hsome))
    refine ⟨?_, ?_, ?_⟩
    · rw [Reported.value_bind, hadd, List.map_append, List.map_singleton, firsts_concat,
        if_neg hmem, ← h.enumerations_eq]
      rfl
    · rw [Reported.value_bind, hadd]
      exact h.interfaces_eq
    · rw [Reported.log_bind, hadd, repeatReports_concat, if_neg hmem, List.append_nil]
      exact (List.append_nil _).symm ▸ h.reports

theorem MergedFrom.interface_added (h : MergedFrom enumerations interfaces merged) (source : String)
    (i : Interface) :
    MergedFrom enumerations (interfaces ++ [(source, i)])
      (merged >>= fun set => set.addInterface source i) := by
  have hfound : (merged.value.interface? i.name).isSome = true ↔
      i.name ∈ (interfaces.map Prod.snd).map Interface.name := by
    rw [h.interface?, isSome_find?_iff]
  by_cases hmem : i.name ∈ (interfaces.map Prod.snd).map Interface.name
  · have hadd : merged.value.addInterface source i =
        ⟨merged.value, [duplicate "interface" i.name source]⟩ := if_pos (hfound.mpr hmem)
    refine ⟨?_, ?_, ?_⟩
    · rw [Reported.value_bind, hadd]
      exact h.enumerations_eq
    · rw [Reported.value_bind, hadd, List.map_append, List.map_singleton, firsts_concat,
        if_pos hmem, List.append_nil]
      exact h.interfaces_eq
    · rw [Reported.log_bind, hadd, repeatReports_concat, if_pos hmem, ← List.append_assoc]
      exact h.reports.append_right _
  · have hadd : merged.value.addInterface source i =
        .silent { merged.value with interfaces := merged.value.interfaces ++ [i] } :=
      if_neg (fun hsome => hmem (hfound.mp hsome))
    refine ⟨?_, ?_, ?_⟩
    · rw [Reported.value_bind, hadd]
      exact h.enumerations_eq
    · rw [Reported.value_bind, hadd, List.map_append, List.map_singleton, firsts_concat,
        if_neg hmem, ← h.interfaces_eq]
      rfl
    · rw [Reported.log_bind, hadd, repeatReports_concat, if_neg hmem, List.append_nil]
      exact (List.append_nil _).symm ▸ h.reports

/-! ### Whole documents -/

/-- Adding a list of declarations to what has been merged is adding one after another. -/
theorem bind_foldlM {α : Type} (add : DeclarationSet → α → Reported DeclarationSet)
    (merged : Reported DeclarationSet) (a : α) (l : List α) :
    (merged >>= fun set => (a :: l).foldlM add set) =
      (merged >>= fun set => add set a) >>= fun set => l.foldlM add set := by
  rw [bind_assoc]
  rfl

theorem MergedFrom.enumerations_added (h : MergedFrom enumerations interfaces merged)
    (source : String) (l : List Enumeration) :
    MergedFrom (enumerations ++ l.map (fun e => (source, e))) interfaces
      (merged >>= fun set => l.foldlM (addEnumeration source) set) := by
  induction l generalizing enumerations merged with
  | nil => simpa using h
  | cons e l ih =>
      rw [bind_foldlM, List.map_cons, List.append_cons]
      exact ih (h.enumeration_added source e)

theorem MergedFrom.interfaces_added (h : MergedFrom enumerations interfaces merged)
    (source : String) (l : List Interface) :
    MergedFrom enumerations (interfaces ++ l.map (fun i => (source, i)))
      (merged >>= fun set => l.foldlM (addInterface source) set) := by
  induction l generalizing interfaces merged with
  | nil => simpa using h
  | cons i l ih =>
      rw [bind_foldlM, List.map_cons, List.append_cons]
      exact ih (h.interface_added source i)

theorem MergedFrom.document_added (h : MergedFrom enumerations interfaces merged)
    (source : String) (contents : Contents) :
    MergedFrom (enumerations ++ contents.enumerations.map (fun e => (source, e)))
      (interfaces ++ contents.interfaces.map (fun i => (source, i)))
      (merged >>= fun set => set.add source contents) := by
  have hadded := (h.enumerations_added source contents.enumerations).interfaces_added source
    contents.interfaces
  rw [bind_assoc] at hadded
  exact hadded

theorem MergedFrom.documents_added (h : MergedFrom enumerations interfaces merged)
    (documents : List (String × Contents)) :
    MergedFrom (enumerations ++ located Contents.enumerations documents)
      (interfaces ++ located Contents.interfaces documents)
      (merged >>= fun set => documents.foldlM (fun set d => set.add d.1 d.2) set) := by
  induction documents generalizing enumerations interfaces merged with
  | nil => simpa [located] using h
  | cons d documents ih =>
      have hrest := ih (h.document_added d.1 d.2)
      rw [bind_foldlM]
      simpa only [located, List.flatMap_cons, List.append_assoc] using hrest

theorem merge_mergedFrom (documents : List (String × Contents)) :
    MergedFrom (located Contents.enumerations documents) (located Contents.interfaces documents)
      (merge documents) := by
  have hempty : MergedFrom [] [] (pure empty) := ⟨rfl, rfl, List.Perm.nil⟩
  exact hempty.documents_added documents

/-! ### Merged sets -/

/-- The interfaces of a set have distinct names. -/
def HasDistinctNames (set : DeclarationSet) : Prop := (set.interfaces.map Interface.name).Nodup

theorem merge_hasDistinctNames (documents : List (String × Contents)) :
    (merge documents).value.HasDistinctNames := by
  rw [HasDistinctNames, (merge_mergedFrom documents).interfaces_eq]
  exact nodup_firsts _

/-- With distinct names an interface is the one found under its name. -/
theorem HasDistinctNames.interface?_eq {set : DeclarationSet} {i : Interface}
    (h : set.HasDistinctNames) (hi : i ∈ set.interfaces) :
    set.interface? i.name = some i := by
  obtain ⟨before, after, hsplit⟩ := List.append_of_mem hi
  rw [HasDistinctNames, hsplit, List.map_append, List.map_cons] at h
  refine List.find?_eq_some_iff_append.mpr ⟨beq_self_eq_true _, before, after, hsplit, ?_⟩
  intro j hj
  have hne : j.name ≠ i.name := fun hsame =>
    List.disjoint_of_nodup_append h (List.mem_map_of_mem hj) (hsame ▸ List.mem_cons_self)
  simpa using hne

/-- What merging documents comes to. -/
structure KeepsFirst (documents : List (String × Contents)) (merged : Reported DeclarationSet) :
    Prop where
  /-- The interfaces stand in the order of the documents, without each whose name occurred
  before. -/
  interfaces : merged.value.interfaces =
    firsts Interface.name (documents.flatMap (fun d => d.2.interfaces))
  /-- Under a name stands the first interface that was declared so, if there is one. -/
  interface? : ∀ name, merged.value.interface? name =
    (documents.flatMap (fun d => d.2.interfaces)).find? (fun i => i.name == name)
  /-- Under a name stands the first enumeration that was declared so, if there is one. -/
  enumeration? : ∀ name, merged.value.enumeration? name =
    (documents.flatMap (fun d => d.2.enumerations)).find? (fun e => e.name == name)
  /-- Every declaration that was left out is reported once, at the document it is from, and
  nothing else is. -/
  reports : merged.log.Perm
    (repeatReports "enum" Enumeration.name (located Contents.enumerations documents) ++
      repeatReports "interface" Interface.name (located Contents.interfaces documents))

theorem map_snd_located {α : Type} (declarations : Contents → List α)
    (documents : List (String × Contents)) :
    (located declarations documents).map Prod.snd =
      documents.flatMap (fun d => declarations d.2) := by
  simp only [located, List.map_flatMap, List.map_map, Function.comp_def, List.map_id']

/-- **Merging keeps the first declaration of every name**, whatever the documents declare,
and reports all others. -/
theorem merge_keepsFirst (documents : List (String × Contents)) :
    KeepsFirst documents (merge documents) := by
  have hmerged := merge_mergedFrom documents
  constructor
  case interfaces => rw [hmerged.interfaces_eq, map_snd_located]
  case interface? => exact fun name => by rw [hmerged.interface?, map_snd_located]
  case enumeration? => exact fun name => by rw [hmerged.enumeration?, map_snd_located]
  case reports => exact hmerged.reports

end DeclarationSet
end ClientSynth
