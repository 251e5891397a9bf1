import Mathlib.Logic.Relation
import ClientSynth.Proofs.Lineage
import ClientSynth.Proofs.Merge

/-! # The lineage is a depth-first preorder

A listing of interfaces goes on with the first ancestor that is declared and not
listed yet, of the interface listed last that still has one (`next?`).  The
lineage is the listing that starts at the root and goes on like this until nothing
is left.  That it repeats no name and holds what can be reached from the root, and
nothing else, follows from this alone. -/
namespace ClientSynth
namespace DeclarationSet

open Declaration Diagnostic

variable {set : DeclarationSet} {root i parent : Interface} {name : String}
  {listed rest taken : List Interface} {visited : List String} {pending : List (Interface × String)}

/-! ### How a listing goes on -/

/-- `parent` is declared, and `i` extends it. -/
def Extends (set : DeclarationSet) (i parent : Interface) : Prop :=
  ∃ name ∈ i.ancestors, set.interface? name = some parent

/-- `i` is `root` or something it extends, directly or not. -/
def Reaches (set : DeclarationSet) (root i : Interface) : Prop :=
  Relation.ReflTransGen set.Extends root i

/-- The interface of the given name, if it is declared and not among those listed. -/
def unlisted? (set : DeclarationSet) (listed : List Interface) (name : String) : Option Interface :=
  (set.interface? name).filter (fun i => !(listed.map Interface.name).contains i.name)

/-- What a listing goes on with. -/
def next? (set : DeclarationSet) (listed : List Interface) : Option Interface :=
  listed.reverse.findSome? (fun i => i.ancestors.findSome? (set.unlisted? listed))

/-- The reports of an interface: one for each of its ancestors that is not declared. -/
def unknownAncestors (set : DeclarationSet) (i : Interface) : List Diagnostic :=
  (i.ancestors.filter (fun name => (set.interface? name).isNone)).map (unknownAncestor i)

/-- `rest` is what follows when `listed` goes on until nothing is left. -/
def GoesOn (set : DeclarationSet) (listed : List Interface) : List Interface → Prop
  | [] => set.next? listed = none
  | i :: rest => set.next? listed = some i ∧ GoesOn set (listed ++ [i]) rest

theorem name_of_interface? (h : set.interface? name = some i) : i.name = name :=
  eq_of_beq (List.find?_eq_some_iff_append.mp h).1

theorem unlisted?_eq_some : set.unlisted? listed name = some i ↔
    set.interface? name = some i ∧ i.name ∉ listed.map Interface.name := by
  simp [unlisted?, Option.filter_eq_some_iff]

theorem unlisted?_eq_none : set.unlisted? listed name = none ↔
    ∀ i, set.interface? name = some i → i.name ∈ listed.map Interface.name := by
  simp [unlisted?, Option.filter_eq_none_iff]

/-- What comes next is an ancestor of something listed. -/
theorem next?_eq_some (h : set.next? listed = some i) :
    (∃ j ∈ listed, set.Extends j i) ∧ set.interface? i.name = some i ∧
      i.name ∉ listed.map Interface.name := by
  obtain ⟨j, hj, hfirst⟩ := List.exists_of_findSome?_eq_some h
  obtain ⟨name, hname, hunlisted⟩ := List.exists_of_findSome?_eq_some hfirst
  obtain ⟨hdeclared, hnew⟩ := unlisted?_eq_some.mp hunlisted
  refine ⟨⟨j, List.mem_reverse.mp hj, name, hname, hdeclared⟩, ?_, hnew⟩
  rw [name_of_interface? hdeclared]
  exact hdeclared

/-- When nothing comes next, everything that a listed interface extends is listed. -/
theorem next?_eq_none (h : set.next? listed = none) (hi : i ∈ listed)
    (hparent : set.Extends i parent) : parent.name ∈ listed.map Interface.name := by
  obtain ⟨name, hname, hdeclared⟩ := hparent
  have hnone := List.findSome?_eq_none_iff.mp h i (List.mem_reverse.mpr hi)
  exact unlisted?_eq_none.mp (List.findSome?_eq_none_iff.mp hnone name hname) parent hdeclared

/-! ### Following ancestors is going on -/

/-- Of the waiting ancestors those that matter are the ones that listed interfaces
have left: whatever more gets listed, the first unlisted one is the same. -/
def Waits (set : DeclarationSet) (listed : List Interface) (pending : List (Interface × String)) :
    Prop :=
  ∀ taken, listed ⊆ taken →
    listed.reverse.findSome? (fun i => i.ancestors.findSome? (set.unlisted? taken)) =
      pending.findSome? (fun p => set.unlisted? taken p.2)

theorem Waits.next? (h : set.Waits listed pending) :
    set.next? listed = pending.findSome? (fun p => set.unlisted? listed p.2) :=
  h listed (List.Subset.refl _)

theorem findSome?_ancestors (i : Interface) (f : String → Option Interface) :
    (i.ancestors.map (fun a => (i, a))).findSome? (fun p => f p.2) = i.ancestors.findSome? f :=
  List.findSome?_map

/-- An ancestor that is undeclared or listed need not wait. -/
theorem Waits.tail {owner : Interface} (h : set.Waits listed ((owner, name) :: pending))
    (hdone : set.unlisted? listed name = none) : set.Waits listed pending := by
  intro taken htaken
  have hstill : set.unlisted? taken name = none := unlisted?_eq_none.mpr (fun i hi =>
    List.map_subset _ htaken (unlisted?_eq_none.mp hdone i hi))
  rw [h taken htaken, List.findSome?_cons_of_isNone]
  rw [hstill]
  rfl

/-- The ancestors of an interface that gets listed wait in front of all others. -/
theorem Waits.new {owner : Interface} (h : set.Waits listed ((owner, name) :: pending))
    (hparent : set.interface? name = some parent) :
    set.Waits (listed ++ [parent]) (parent.ancestors.map (fun a => (parent, a)) ++ pending) := by
  intro taken htaken
  have hlisted : listed ⊆ taken := fun j hj => htaken (List.mem_append_left _ hj)
  have hdone : set.unlisted? taken name = none := unlisted?_eq_none.mpr (fun i hi => by
    rw [Option.some.inj (hi.symm.trans hparent)]
    exact List.mem_map_of_mem (htaken (List.mem_append_right _ List.mem_cons_self)))
  have hbefore := h taken hlisted
  rw [List.findSome?_cons, hdone] at hbefore
  rw [List.reverse_append, List.reverse_singleton, List.singleton_append, List.findSome?_cons,
    List.findSome?_append, findSome?_ancestors, hbefore]
  cases parent.ancestors.findSome? (set.unlisted? taken) <;> rfl

/-- **Following the waiting ancestors is going on with the listing.** -/
theorem follow_goesOn (hvisited : ∀ n, n ∈ visited ↔ n ∈ listed.map Interface.name)
    (hwaits : set.Waits listed pending) : set.GoesOn listed (follow set visited pending).value := by
  -- Along the walk: the visited names stay those of the listing, and `Waits` is kept.
  induction visited, pending using follow.induct set generalizing listed with
  | case1 visited =>
      rw [follow_nil]
      exact hwaits.next?
  | case2 visited owner name rest h ih =>
      rw [follow_undeclared h]
      exact ih hvisited (hwaits.tail (unlisted?_eq_none.mpr (by simp [h])))
  | case3 visited owner name rest parent h hlisted ih =>
      rw [follow_listed h hlisted]
      refine ih hvisited (hwaits.tail (unlisted?_eq_none.mpr (fun i hi => ?_)))
      rw [Option.some.inj (hi.symm.trans h)]
      exact (hvisited _).mp (List.contains_iff_mem.mp hlisted)
  | case4 visited owner name rest parent h hnew _ ih =>
      rw [follow_new h (Bool.eq_false_iff.mpr hnew)]
      have hunlisted : set.unlisted? listed name = some parent :=
        unlisted?_eq_some.mpr ⟨h, fun hmem =>
          hnew (List.contains_iff_mem.mpr ((hvisited _).mpr hmem))⟩
      refine ⟨?_, ih (fun n => ?_) (hwaits.new h)⟩
      · rw [hwaits.next?, List.findSome?_cons, hunlisted]
      · rw [List.mem_cons, hvisited, List.map_append, List.mem_append, or_comm]
        simp

theorem lineage_goesOn (set : DeclarationSet) (root : Interface) :
    ∃ rest, (set.lineage root).value = root :: rest ∧ set.GoesOn [root] rest := by
  refine ⟨_, rfl, follow_goesOn (by simp) (fun taken _ => ?_)⟩
  rw [List.reverse_singleton, findSome?_ancestors, List.findSome?_singleton]

/-! ### What a listing holds -/

/-- Each entry is what comes next behind those before it. -/
theorem GoesOn.next?_take (h : set.GoesOn listed rest) {k : Nat} (hk : k < rest.length) :
    set.next? (listed ++ rest.take k) = some rest[k] := by
  induction rest generalizing listed k with
  | nil => cases hk
  | cons i rest ih =>
      cases k with
      | zero => simpa using h.1
      | succ k => simpa using ih h.2 (Nat.lt_of_succ_lt_succ hk)

theorem GoesOn.next?_append (h : set.GoesOn listed rest) : set.next? (listed ++ rest) = none := by
  induction rest generalizing listed with
  | nil => exact (congrArg set.next? (List.append_nil _)).trans h
  | cons i rest ih => simpa using ih h.2

theorem GoesOn.nodup (h : set.GoesOn listed rest) (hlisted : (listed.map Interface.name).Nodup) :
    ((listed ++ rest).map Interface.name).Nodup := by
  induction rest generalizing listed with
  | nil => simpa using hlisted
  | cons i rest ih =>
      obtain ⟨-, -, hnew⟩ := next?_eq_some h.1
      have hlonger : ((listed ++ [i]).map Interface.name).Nodup := by
        rw [List.map_append]
        exact hlisted.append (List.nodup_singleton _) (by simpa using hnew)
      simpa using ih h.2 hlonger

/-- What holds of the listed interfaces and is handed on to what they extend holds of
everything that follows. -/
theorem GoesOn.forall_mem {P : Interface → Prop} (h : set.GoesOn listed rest)
    (hlisted : ∀ i ∈ listed, P i)
    (hstep : ∀ i parent, P i → set.Extends i parent → set.interface? parent.name = some parent →
      P parent) :
    ∀ i ∈ listed ++ rest, P i := by
  induction rest generalizing listed with
  | nil => simpa using hlisted
  | cons i rest ih =>
      obtain ⟨⟨j, hj, hextends⟩, hdeclared, -⟩ := next?_eq_some h.1
      have hlonger : ∀ k ∈ listed ++ [i], P k := by
        intro k hk
        rcases List.mem_append.mp hk with hk | hk
        · exact hlisted k hk
        · rw [List.mem_singleton.mp hk]
          exact hstep j i (hlisted j hj) hextends hdeclared
      simpa using ih h.2 hlonger

/-- A listing that has nothing to go on with holds everything that can be reached. -/
theorem mem_of_reaches (hdeclared : ∀ i ∈ listed, set.interface? i.name = some i)
    (hdone : set.next? listed = none) (hroot : root ∈ listed) (h : set.Reaches root i) :
    i ∈ listed := by
  induction h with
  | refl => exact hroot
  | @tail j parent _ hextends ih =>
      obtain ⟨k, hk, hname⟩ := List.mem_map.mp (next?_eq_none hdone ih hextends)
      obtain ⟨name, -, hparent⟩ := hextends
      -- Both stand under the same name, so they are the same interface.
      have hsame := hdeclared k hk
      rw [hname, name_of_interface? hparent, hparent] at hsame
      rw [Option.some.inj hsame]
      exact hk

/-! ### What is reported -/

/-- The reports of the waiting ancestors. -/
def waitingReports (set : DeclarationSet) (pending : List (Interface × String)) : List Diagnostic :=
  (pending.filter (fun p => (set.interface? p.2).isNone)).map (fun p => unknownAncestor p.1 p.2)

theorem waitingReports_ancestors (i : Interface) :
    set.waitingReports (i.ancestors.map (fun a => (i, a))) = set.unknownAncestors i := by
  rw [waitingReports, List.filter_map, List.map_map]
  rfl

theorem waitingReports_append (pending more : List (Interface × String)) :
    set.waitingReports (pending ++ more) =
      set.waitingReports pending ++ set.waitingReports more := by
  simp only [waitingReports, List.filter_append, List.map_append]

/-- Reports are made for the waiting ancestors and for those of what gets listed. -/
theorem log_follow_perm (set : DeclarationSet) (visited : List String)
    (pending : List (Interface × String)) :
    (follow set visited pending).log.Perm
      (set.waitingReports pending ++
        (follow set visited pending).value.flatMap set.unknownAncestors) := by
  fun_induction follow set visited pending with
  | case1 visited => exact .nil
  | case2 visited owner name rest h tail ih =>
      have hreport : set.waitingReports ((owner, name) :: rest) =
          unknownAncestor owner name :: set.waitingReports rest := by simp [waitingReports, h]
      rw [hreport]
      exact ih.cons _
  | case3 visited owner name rest parent h hlisted ih =>
      have hsilent : set.waitingReports ((owner, name) :: rest) = set.waitingReports rest := by
        simp [waitingReports, h]
      rw [hsilent]
      exact ih
  | case4 visited owner name rest parent h hnew _ tail ih =>
      -- The walk reports for the new ancestors first, the list of reports behind the rest.
      have hsilent : set.waitingReports ((owner, name) :: rest) = set.waitingReports rest := by
        simp [waitingReports, h]
      rw [hsilent, List.flatMap_cons, ← List.append_assoc]
      rw [waitingReports_append, waitingReports_ancestors] at ih
      exact ih.trans (List.perm_append_comm.append_right _)

/-! ### The lineage -/

/-- Whether `lineage` is the depth-first preorder of what `root` extends. -/
structure IsPreorder (set : DeclarationSet) (root : Interface)
    (lineage : Reported (List Interface)) : Prop where
  head : lineage.value.head? = some root
  nodup : (lineage.value.map Interface.name).Nodup
  mem_iff : ∀ i, i ∈ lineage.value ↔ set.Reaches root i
  /-- Each entry behind the first is the first ancestor, declared and not listed yet, of
  the interface listed last that still has one. -/
  next : ∀ k, 0 < k → ∀ hk : k < lineage.value.length,
    set.next? (lineage.value.take k) = some lineage.value[k]
  /-- Each occurrence of an undeclared name among the ancestors of a listed interface is
  reported once, and nothing else is. -/
  reports : lineage.log.Perm (lineage.value.flatMap set.unknownAncestors)

/-- **The lineage of an interface is a depth-first preorder.**  The interface may be any
that stands in the set under its name, which in a merged set all do
(`merge_hasDistinctNames`); what it extends may be undeclared, named twice or lead back
to it. -/
theorem lineage_isPreorder (set : DeclarationSet) (root : Interface)
    (hroot : set.interface? root.name = some root) : set.IsPreorder root (set.lineage root) := by
  obtain ⟨rest, hvalue, hgoes⟩ := set.lineage_goesOn root
  have hdeclared : ∀ i ∈ [root] ++ rest, set.interface? i.name = some i :=
    hgoes.forall_mem (by simpa using hroot) (fun _ _ _ _ h => h)
  have hreached : ∀ i ∈ [root] ++ rest, set.Reaches root i :=
    hgoes.forall_mem (fun i hi => List.mem_singleton.mp hi ▸ .refl) (fun _ _ hi h _ => hi.tail h)
  have hlog := log_follow_perm set [root.name] (root.ancestors.map (fun a => (root, a)))
  rw [waitingReports_ancestors] at hlog
  constructor
  case head => rfl
  case nodup =>
    rw [hvalue]
    exact hgoes.nodup (List.nodup_singleton _)
  case mem_iff =>
    intro i
    rw [hvalue]
    exact ⟨hreached i, mem_of_reaches hdeclared hgoes.next?_append List.mem_cons_self⟩
  case next =>
    intro k hpos hk
    obtain ⟨k, rfl⟩ := Nat.exists_eq_succ_of_ne_zero (Nat.ne_of_gt hpos)
    simp only [hvalue] at hk ⊢
    simpa using hgoes.next?_take (Nat.lt_of_succ_lt_succ hk)
  case reports => exact hlog

/-- An interface that extends itself, a diamond that leads back to it, and names that
nothing declares. -/
def sharedApi : Interface :=
  ⟨"IShared", ["IBase", "IMissing", "ILeft", "IShared"], [], [], "api.yaml"⟩

/-- The interfaces around it. -/
def sharedContents : Contents :=
  ⟨[], [⟨"IBase", ["IShared"], [], [], "api.yaml"⟩,
    ⟨"ILeft", ["IRight", "IBase"], [], [], "api.yaml"⟩, sharedApi,
    ⟨"IRight", ["IMissing", "IBase", "IMissing"], [], [], "api.yaml"⟩,
    ⟨"IOther", ["IShared"], [], [], "api.yaml"⟩]⟩

/-- The set of them. -/
def sharedSet : DeclarationSet := (merge [("api.yaml", sharedContents)]).value

theorem sharedApi_isPreorder :
    sharedSet.interface? "IShared" = some sharedApi ∧
      (sharedSet.lineage sharedApi).value.map Interface.name =
        ["IShared", "IBase", "ILeft", "IRight"] ∧
      (sharedSet.lineage sharedApi).log.length = 3 ∧
      sharedSet.IsPreorder sharedApi (sharedSet.lineage sharedApi) := by
  have hset : sharedSet = ⟨[], sharedContents.interfaces⟩ := rfl
  have hmem : sharedApi ∈ sharedSet.interfaces := .tail _ (.tail _ (.head _))
  have hroot := (merge_hasDistinctNames _).interface?_eq hmem
  refine ⟨hroot, ?_, ?_, lineage_isPreorder sharedSet sharedApi hroot⟩ <;> rw [hset]
  · cbv
  · cbv

end DeclarationSet
end ClientSynth
