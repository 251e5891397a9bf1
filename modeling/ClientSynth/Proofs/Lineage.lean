import ClientSynth.Declaration.Lineage

/-! # Steps of the lineage

An ancestor that waits is undeclared, already listed, or new.  Each of the three
has its equation. -/
namespace ClientSynth
namespace DeclarationSet

open Declaration Diagnostic

variable {set : DeclarationSet} {visited : List String} {owner parent : Interface} {name : String}
  {rest : List (Interface × String)}

@[simp] theorem follow_nil (set : DeclarationSet) (visited : List String) :
    follow set visited [] = .silent [] := by
  rw [follow]

theorem follow_undeclared (h : set.interface? name = none) :
    follow set visited ((owner, name) :: rest) =
      ⟨(follow set visited rest).value,
        unknownAncestor owner name :: (follow set visited rest).log⟩ := by
  rw [follow]
  split <;> simp_all

theorem follow_listed (h : set.interface? name = some parent)
    (hlisted : visited.contains parent.name = true) :
    follow set visited ((owner, name) :: rest) = follow set visited rest := by
  rw [follow]
  split <;> simp_all

theorem follow_new (h : set.interface? name = some parent)
    (hnew : visited.contains parent.name = false) :
    follow set visited ((owner, name) :: rest) =
      ⟨parent :: (follow set (parent.name :: visited)
          (parent.ancestors.map (fun a => (parent, a)) ++ rest)).value,
        (follow set (parent.name :: visited)
          (parent.ancestors.map (fun a => (parent, a)) ++ rest)).log⟩ := by
  rw [follow]
  split <;> simp_all

theorem lineage_root {i : Interface} (h : i.ancestors = []) : set.lineage i = ⟨[i], []⟩ := by
  rw [lineage, h, List.map_nil, follow_nil]
  rfl

end DeclarationSet
end ClientSynth
