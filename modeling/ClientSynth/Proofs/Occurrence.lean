import Mathlib.Data.List.Induction
import Mathlib.Data.List.Nodup

/-! # First occurrences

Where of several items with one name the first counts, a list falls into the items that
come first under their names and those that repeat one.  Both are told by their places: an
item is a repetition if one before it has its name.  So going on with a list changes
nothing about what it holds already. -/
namespace ClientSynth
namespace Occurrence

variable {α : Type} (nameOf : α → String)

/-- Whether the item `p.1`, which stands at `p.2` in a list, has the name of one before it. -/
def isRepeat (l : List α) (p : α × Nat) : Bool :=
  ((l.take p.2).map nameOf).contains (nameOf p.1)

/-- The items of a list without each that has the name of one before it. -/
def firsts (l : List α) : List α :=
  (l.zipIdx.filter (fun p => !isRepeat nameOf l p)).map Prod.fst

/-- The items of a list that have the name of one before them. -/
def repeats (l : List α) : List α := (l.zipIdx.filter (isRepeat nameOf l)).map Prod.fst

variable {nameOf}

/-- What comes later does not make an item a repetition. -/
theorem isRepeat_append {l : List α} (more : List α) {p : α × Nat} (hp : p ∈ l.zipIdx) :
    isRepeat nameOf (l ++ more) p = isRepeat nameOf l p := by
  have hplace : p.2 ≤ l.length := Nat.le_of_lt (List.snd_lt_of_mem_zipIdx hp)
  rw [isRepeat, List.take_append_of_le_length hplace, isRepeat]

theorem isRepeat_last (l : List α) (a : α) :
    isRepeat nameOf (l ++ [a]) (a, l.length) = (l.map nameOf).contains (nameOf a) := by
  rw [isRepeat, List.take_left']
  rfl

/-- Of a longer list the same items are chosen, and the last one by the names before it. -/
theorem chosen_concat (choose : Bool → Bool) (l : List α) (a : α) :
    ((l ++ [a]).zipIdx.filter (fun p => choose (isRepeat nameOf (l ++ [a]) p))).map Prod.fst =
      (l.zipIdx.filter (fun p => choose (isRepeat nameOf l p))).map Prod.fst ++
        if choose ((l.map nameOf).contains (nameOf a)) then [a] else [] := by
  have hbefore : l.zipIdx.filter (fun p => choose (isRepeat nameOf (l ++ [a]) p)) =
      l.zipIdx.filter (fun p => choose (isRepeat nameOf l p)) :=
    List.filter_congr (fun p hp => by rw [isRepeat_append [a] hp])
  rw [List.zipIdx_append, List.filter_append, List.map_append, hbefore, Nat.zero_add,
    List.zipIdx_singleton, List.filter_cons, List.filter_nil, isRepeat_last]
  split <;> rfl

theorem firsts_concat (l : List α) (a : α) :
    firsts nameOf (l ++ [a]) =
      firsts nameOf l ++ if nameOf a ∈ l.map nameOf then [] else [a] := by
  rw [firsts, chosen_concat (fun repeated => !repeated), ← firsts]
  by_cases h : nameOf a ∈ l.map nameOf <;> simp [h, List.contains_eq_mem]

theorem repeats_concat (l : List α) (a : α) :
    repeats nameOf (l ++ [a]) =
      repeats nameOf l ++ if nameOf a ∈ l.map nameOf then [a] else [] := by
  rw [repeats, chosen_concat (fun repeated => repeated), ← repeats]
  simp only [List.contains_iff_mem]

/-- Under every name the first item is the one that is left. -/
theorem find?_firsts (l : List α) (name : String) :
    (firsts nameOf l).find? (fun a => nameOf a == name) = l.find? (fun a => nameOf a == name) := by
  induction l using List.reverseRecOn with
  | nil => rfl
  | append_singleton l a ih =>
      rw [firsts_concat, List.find?_append, List.find?_append, ih]
      cases hfound : l.find? (fun b => nameOf b == name) with
      | some b => rfl
      | none =>
          -- Nothing before the last item has the name, so if it has, it is not left out.
          have hnew : ∀ b ∈ l, nameOf b ≠ name := by simpa using hfound
          split
          · next hmem =>
            obtain ⟨b, hb, hname⟩ := List.mem_map.mp hmem
            have hother : nameOf a ≠ name := hname ▸ hnew b hb
            simp [hother]
          · rfl

theorem isSome_find?_iff (l : List α) (name : String) :
    (l.find? (fun a => nameOf a == name)).isSome = true ↔ name ∈ l.map nameOf := by
  simp

theorem firsts_sublist (l : List α) : (firsts nameOf l).Sublist l := by
  have hsub : ((l.zipIdx.filter (fun p => !isRepeat nameOf l p)).map Prod.fst).Sublist
      (l.zipIdx.map Prod.fst) := List.filter_sublist.map Prod.fst
  rwa [List.zipIdx_map_fst] at hsub

theorem nodup_firsts (l : List α) : ((firsts nameOf l).map nameOf).Nodup := by
  induction l using List.reverseRecOn with
  | nil => exact List.nodup_nil
  | append_singleton l a ih =>
      rw [firsts_concat]
      split
      · rwa [List.append_nil]
      · next hnew =>
        rw [List.map_append]
        refine ih.append (List.nodup_singleton _) ?_
        rw [List.map_singleton, List.disjoint_singleton]
        exact fun hmem => hnew (((firsts_sublist l).map nameOf).mem hmem)

/-- The items that are left are those that come first under their names. -/
theorem mem_firsts_iff {l : List α} {a : α} :
    a ∈ firsts nameOf l ↔ l.find? (fun b => nameOf b == nameOf a) = some a := by
  rw [← find?_firsts]
  constructor
  · intro ha
    have hfound : ((firsts nameOf l).find? (fun b => nameOf b == nameOf a)).isSome = true :=
      (isSome_find?_iff _ _).mpr (List.mem_map_of_mem ha)
    obtain ⟨b, hb⟩ := Option.isSome_iff_exists.mp hfound
    have hname : nameOf b = nameOf a := by simpa using List.find?_some hb
    rw [hb, List.inj_on_of_nodup_map (nodup_firsts l) (List.mem_of_find?_eq_some hb) ha hname]
  · exact List.mem_of_find?_eq_some

end Occurrence
end ClientSynth
