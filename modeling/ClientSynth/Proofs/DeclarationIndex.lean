import ClientSynth.Proofs.Merge

/-! # Declaration sets with an index

A `DeclarationSet` searches its lists for a name.  An `IndexedSet` does not: beside its
interfaces it keeps the position of every name, and enumerations, whose order is of no matter,
it keeps under their names alone.  That the positions are right is part of the type, so every
addition keeps it up, and a position that is found always lies within the list.  Documents
merged into either set leave the same declarations under every name, and the same reports. -/
namespace ClientSynth

open Declaration

/-- The declarations of a run, each found under its name without a search. -/
structure IndexedSet where
  /-- The interfaces in the order they were added. -/
  interfaces : Array Interface
  /-- Where the interface of a name stands. -/
  positions : Std.HashMap String Nat
  enumerations : Std.HashMap String Enumeration
  /-- A name has a position exactly if the interface that stands there has the name. -/
  positions_iff : ∀ {name : String} {k : Nat},
    positions[name]? = some k ↔ interfaces[k]?.map Interface.name = some name

namespace IndexedSet

variable {indexed : IndexedSet} {set : DeclarationSet} {name : String} {k : Nat}

/-! ### Positions -/

theorem exists_of_position (h : indexed.positions[name]? = some k) :
    ∃ i, indexed.interfaces[k]? = some i ∧ i.name = name :=
  Option.map_eq_some_iff.mp (indexed.positions_iff.mp h)

theorem position_lt (h : indexed.positions[name]? = some k) : k < indexed.interfaces.size := by
  obtain ⟨i, hi, -⟩ := exists_of_position h
  exact (Array.getElem?_eq_some_iff.mp hi).1

/-- A name that is new gets the position behind all others. -/
theorem positions_push_iff (indexed : IndexedSet) {i : Interface}
    (hnew : indexed.positions[i.name]? = none) :
    (indexed.positions.insert i.name indexed.interfaces.size)[name]? = some k ↔
      (indexed.interfaces.push i)[k]?.map Interface.name = some name := by
  rw [Std.HashMap.getElem?_insert, Array.getElem?_push]
  by_cases hk : k = indexed.interfaces.size
  · subst hk
    have hnone : indexed.positions[name]? ≠ some indexed.interfaces.size :=
      fun h => Nat.lt_irrefl _ (position_lt h)
    by_cases hname : i.name = name <;> simp [hname, hnone]
  · rw [if_neg hk, ← indexed.positions_iff]
    by_cases hname : i.name = name
    · subst hname
      simp [hnew, Ne.symm hk]
    · simp [hname]

/-! ### The operations -/

/-- No declarations. -/
def empty : IndexedSet := ⟨#[], ∅, ∅, by simp⟩

/-- The interface with the given name, which is the one at its position. -/
def interface? (set : IndexedSet) (name : String) : Option Interface :=
  match h : set.positions[name]? with
  | some k =>
    have : k < set.interfaces.size := position_lt h
    some set.interfaces[k]
  | none => none

/-- The enumeration with the given name. -/
def enumeration? (set : IndexedSet) (name : String) : Option Enumeration :=
  set.enumerations[name]?

/-- Add one enumeration of the document at `source`. -/
def addEnumeration (source : String) (set : IndexedSet) (e : Enumeration) : Reported IndexedSet :=
  if (set.enumeration? e.name).isSome then
    ⟨set, [DeclarationSet.duplicate "enum" e.name source]⟩
  else .silent { set with enumerations := set.enumerations.insert e.name e }

/-- Add one interface of the document at `source`. -/
def addInterface (source : String) (set : IndexedSet) (i : Interface) : Reported IndexedSet :=
  match h : set.positions[i.name]? with
  | some _ => ⟨set, [DeclarationSet.duplicate "interface" i.name source]⟩
  | none =>
    .silent
      { set with
        interfaces := set.interfaces.push i
        positions := set.positions.insert i.name set.interfaces.size
        positions_iff := set.positions_push_iff h }

/-- Add a contract document. -/
def add (set : IndexedSet) (source : String) (contents : Contents) : Reported IndexedSet := do
  let set ← contents.enumerations.foldlM (addEnumeration source) set
  contents.interfaces.foldlM (addInterface source) set

/-- The declarations of documents, each with its location, merged in order. -/
def merge (documents : List (String × Contents)) : Reported IndexedSet :=
  documents.foldlM (fun set d => set.add d.1 d.2) empty

/-! ### What is found -/

/-- No two interfaces have one name, or it would have two positions. -/
theorem nodup_names (indexed : IndexedSet) :
    (indexed.interfaces.toList.map Interface.name).Nodup := by
  refine List.nodup_iff_getElem?_ne_getElem?.mpr fun j k hjk hk hsame => ?_
  obtain ⟨name, hname⟩ : ∃ name, (indexed.interfaces.toList.map Interface.name)[k]? = some name :=
    ⟨_, List.getElem?_eq_getElem hk⟩
  have position_of : ∀ {n}, (indexed.interfaces.toList.map Interface.name)[n]? = some name →
      indexed.positions[name]? = some n := by
    intro n hn
    rw [List.getElem?_map, Array.getElem?_toList] at hn
    exact indexed.positions_iff.mpr hn
  have hpositions := (position_of (hsame.trans hname)).symm.trans (position_of hname)
  exact Nat.ne_of_lt hjk (Option.some.inj hpositions)

/-- Looking at the position of a name takes no proof that there is one. -/
theorem interface?_eq_bind (indexed : IndexedSet) (name : String) :
    indexed.interface? name =
      indexed.positions[name]?.bind (fun k => indexed.interfaces[k]?) := by
  rw [interface?]
  split
  · next k hk =>
    have hbind := Option.bind_eq_some_iff.mpr ⟨k, hk, Array.getElem?_eq_getElem (position_lt hk)⟩
    exact hbind.symm
  · next hnone => rw [hnone, Option.bind_none]

theorem interface?_eq_some_iff {i : Interface} :
    indexed.interface? name = some i ↔ i ∈ indexed.interfaces ∧ i.name = name := by
  rw [interface?_eq_bind, Option.bind_eq_some_iff]
  constructor
  · rintro ⟨k, hk, hi⟩
    obtain ⟨j, hj, rfl⟩ := exists_of_position hk
    cases hi.symm.trans hj
    exact ⟨Array.mem_of_getElem? hi, rfl⟩
  · rintro ⟨hmem, rfl⟩
    obtain ⟨k, hk⟩ := Array.getElem?_of_mem hmem
    exact ⟨k, indexed.positions_iff.mpr (by simp [hk]), hk⟩

/-- Only a name with an interface has a position. -/
theorem position_eq_none_iff : indexed.positions[name]? = none ↔ indexed.interface? name = none := by
  rw [interface?]
  split <;> simp_all

/-! ### Sets that hold the same -/

/-- The two sets hold the same declarations. -/
structure Agrees (indexed : IndexedSet) (set : DeclarationSet) : Prop where
  interfaces : indexed.interfaces.toList = set.interfaces
  enumeration? : ∀ name, indexed.enumeration? name = set.enumeration? name

theorem Agrees.hasDistinctNames (h : Agrees indexed set) : set.HasDistinctNames := by
  rw [DeclarationSet.HasDistinctNames, ← h.interfaces]
  exact indexed.nodup_names

/-- At the position of a name stands the interface that a search finds. -/
theorem Agrees.interface? (h : Agrees indexed set) (name : String) :
    indexed.interface? name = set.interface? name := by
  ext i
  rw [interface?_eq_some_iff, ← Array.mem_toList_iff, h.interfaces]
  constructor
  · rintro ⟨hmem, rfl⟩
    exact h.hasDistinctNames.interface?_eq hmem
  · intro hfound
    have hname := List.find?_some (p := fun j : Interface => j.name == name) hfound
    exact ⟨List.mem_of_find?_eq_some hfound, beq_iff_eq.mp hname⟩

/-- The two sets hold the same declarations, and the same has been reported. -/
structure Alike (indexed : Reported IndexedSet) (set : Reported DeclarationSet) : Prop where
  agrees : Agrees indexed.value set.value
  log : indexed.log = set.log

/-- What goes on alike from sets that agree goes on alike along any list. -/
theorem Agrees.foldlM {α : Type} {f : IndexedSet → α → Reported IndexedSet}
    {g : DeclarationSet → α → Reported DeclarationSet}
    (hstep : ∀ indexed set a, Agrees indexed set → Alike (f indexed a) (g set a))
    (h : Agrees indexed set) (l : List α) : Alike (l.foldlM f indexed) (l.foldlM g set) := by
  induction l generalizing indexed set with
  | nil => exact ⟨h, rfl⟩
  | cons a l ih =>
      have hfirst := hstep indexed set a h
      have hrest := ih hfirst.agrees
      exact ⟨hrest.agrees, congrArg₂ (· ++ ·) hfirst.log hrest.log⟩

theorem Agrees.addEnumeration (source : String) (e : Enumeration) (h : Agrees indexed set) :
    Alike (indexed.addEnumeration source e) (set.addEnumeration source e) := by
  rw [IndexedSet.addEnumeration, DeclarationSet.addEnumeration, h.enumeration?]
  split
  · exact ⟨h, rfl⟩
  · next hnew =>
    have hnone : set.enumeration? e.name = none := Option.not_isSome_iff_eq_none.mp hnew
    refine ⟨⟨h.interfaces, fun name => ?_⟩, rfl⟩
    have hfound := h.enumeration? name
    rw [IndexedSet.enumeration?, DeclarationSet.enumeration?] at hfound
    rw [DeclarationSet.enumeration?] at hnone
    simp only [IndexedSet.enumeration?, DeclarationSet.enumeration?, Reported.silent,
      Std.HashMap.getElem?_insert, List.find?_append]
    by_cases hname : e.name = name
    · subst hname
      simp [hnone]
    · simp [hname, hfound]

theorem Agrees.addInterface (source : String) (i : Interface) (h : Agrees indexed set) :
    Alike (indexed.addInterface source i) (set.addInterface source i) := by
  rw [IndexedSet.addInterface, DeclarationSet.addInterface, ← h.interface?]
  split
  · next k hk =>
    have hsome : (indexed.interface? i.name).isSome = true := by
      rw [Option.isSome_iff_ne_none, Ne, ← position_eq_none_iff, hk]
      simp
    rw [if_pos hsome]
    exact ⟨h, rfl⟩
  · next hnone =>
    rw [position_eq_none_iff.mp hnone]
    exact ⟨⟨by simp [Reported.silent, h.interfaces], h.enumeration?⟩, rfl⟩

theorem Agrees.add (source : String) (contents : Contents) (h : Agrees indexed set) :
    Alike (indexed.add source contents) (set.add source contents) := by
  have henumerations := h.foldlM (fun _ _ e hset => hset.addEnumeration source e)
    contents.enumerations
  have hinterfaces := henumerations.agrees.foldlM (fun _ _ i hset => hset.addInterface source i)
    contents.interfaces
  exact ⟨hinterfaces.agrees, congrArg₂ (· ++ ·) henumerations.log hinterfaces.log⟩

theorem empty_agrees : Agrees empty DeclarationSet.empty :=
  ⟨rfl, fun _ => by simp [enumeration?, DeclarationSet.enumeration?, empty, DeclarationSet.empty]⟩

/-- **An index makes no difference**: whatever the documents declare, merging them leaves the
same declarations under every name, and reports the same, with it and without. -/
theorem merge_alike (documents : List (String × Contents)) :
    Alike (merge documents) (DeclarationSet.merge documents) :=
  empty_agrees.foldlM (fun _ _ d hset => hset.add d.1 d.2) documents

end IndexedSet
end ClientSynth
