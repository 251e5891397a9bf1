import ClientSynth.Declaration.Set

/-! # Lineage

The interfaces that an interface brings together: itself and everything it
extends, depth first and without repetition. -/
namespace ClientSynth
namespace DeclarationSet

open Declaration Diagnostic

/-- The report that `name`, which `owner` extends, is not declared. -/
def unknownAncestor (owner : Interface) (name : String) : Diagnostic :=
  .warning .unknownAncestor ("ancestor '" ++ name ++ "' of '" ++ owner.name ++ "' is not declared")
    ⟨owner.source, owner.name⟩

/-- The declared interfaces that have not been visited. -/
def unvisited (set : DeclarationSet) (visited : List String) : List Interface :=
  set.interfaces.filter (fun i => !visited.contains i.name)

theorem length_unvisited_lt {set : DeclarationSet} {visited : List String} {name : String}
    {parent : Interface} (h : set.interface? name = some parent)
    (hnew : visited.contains parent.name = false) :
    (unvisited set (parent.name :: visited)).length < (unvisited set visited).length := by
  have hmem : parent ∈ set.interfaces := List.mem_of_find?_eq_some h
  have hsub : unvisited set (parent.name :: visited) =
      (unvisited set visited).filter (fun i => !(i.name == parent.name)) := by
    simp only [unvisited, List.filter_filter, List.contains_cons, Bool.not_or]
  rw [hsub]
  apply List.length_filter_lt_length_iff_exists.mpr
  refine ⟨parent, ?_, by simp⟩
  simp only [unvisited, List.mem_filter]
  exact ⟨hmem, by rw [hnew]; rfl⟩

/-- The interfaces still to come when those named in `visited` have been listed
and the ancestors in `pending` wait, each with the interface that extends it. -/
def follow (set : DeclarationSet) (visited : List String) (pending : List (Interface × String)) :
    Reported (List Interface) :=
  match pending with
  | [] => .silent []
  | (owner, name) :: rest =>
    match h : set.interface? name with
    | none =>
      let tail := follow set visited rest
      ⟨tail.value, unknownAncestor owner name :: tail.log⟩
    | some parent =>
      if hnew : visited.contains parent.name = true then follow set visited rest
      else
        have : (unvisited set (parent.name :: visited)).length < (unvisited set visited).length :=
          length_unvisited_lt h (by simpa using hnew)
        let tail := follow set (parent.name :: visited)
          (parent.ancestors.map (fun a => (parent, a)) ++ rest)
        ⟨parent :: tail.value, tail.log⟩
  termination_by ((unvisited set visited).length, pending.length)

/-- The interface `root` and everything it extends, directly or not: each
interface once, an interface before its ancestors, and the ancestors of one
before the next.  An ancestor that is not declared is reported each time. -/
def lineage (set : DeclarationSet) (root : Interface) : Reported (List Interface) :=
  let tail := follow set [root.name] (root.ancestors.map (fun a => (root, a)))
  ⟨root :: tail.value, tail.log⟩

end DeclarationSet
end ClientSynth
