import ClientSynth.Declaration.InheritedMethod

/-! # Inherited methods are told apart by their names

Collecting walks over the candidates with the names it has already met.  What
carries every statement about the walk is that a kept method has none of those
names. -/
namespace ClientSynth
namespace Declaration
namespace InheritedMethod

theorem lookup_cons_eq_none {seen : List (String × String)} {name kept key : String} :
    ((name, kept) :: seen).lookup key = none ↔ key ≠ name ∧ seen.lookup key = none := by
  simp [List.lookup_eq_none_iff]

/-- A kept method has a name that was not met before. -/
theorem lookup_of_mem_distinct {seen : List (String × String)} {candidates : List InheritedMethod}
    {m : InheritedMethod} (h : m ∈ (distinct seen candidates).value) :
    seen.lookup m.method.name = none := by
  induction candidates generalizing seen with
  | nil => cases h
  | cons first rest ih =>
    unfold distinct at h
    split at h
    · rename_i hnew
      rcases List.mem_cons.mp h with rfl | h
      · exact hnew
      · exact (lookup_cons_eq_none.mp (ih h)).2
    · dsimp only at h
      split at h <;> exact ih h

theorem distinct_nodup (seen : List (String × String)) (candidates : List InheritedMethod) :
    ((distinct seen candidates).value.map (fun m => m.method.name)).Nodup := by
  induction candidates generalizing seen with
  | nil => exact List.nodup_nil
  | cons first rest ih =>
    unfold distinct
    split
    · refine List.nodup_cons.mpr ⟨?_, ih _⟩
      intro hmem
      obtain ⟨m, hm, hname⟩ := List.mem_map.mp hmem
      exact (lookup_cons_eq_none.mp (lookup_of_mem_distinct hm)).1 hname
    · dsimp only
      split <;> exact ih _

/-- **Collected methods have distinct names**, whatever the interfaces declare. -/
theorem collect_nodup (interfaces : List Interface) :
    ((collect interfaces).value.map (fun m => m.method.name)).Nodup :=
  distinct_nodup [] _

end InheritedMethod
end Declaration
end ClientSynth
