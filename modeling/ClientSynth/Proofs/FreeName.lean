import ClientSynth.Proofs.Locals

/-! # The search for a free name

A local is called by its first free name: as long as a parameter has the name, it gets another
underscore.  Nothing bounds this search but the parameters, of which there are finitely many, so
it comes to an end, and it ends with the name that has the fewest underscores.  What it compares
are snake identifiers, and what a body holds are written names, where keywords and digits are
escaped; a local still is written as it stands, and no parameter is written like it. -/
namespace ClientSynth
namespace Request

open Code

/-! ### The search -/

/-- The search that has come to a candidate ends with the name: a free candidate is the name,
and behind one that is taken stands another underscore. -/
inductive SearchEnds (taken : List String) : String → String → Prop
  | free {candidate : String} (hfree : candidate ∉ taken) : SearchEnds taken candidate candidate
  | again {candidate name : String} (htaken : candidate ∈ taken)
      (hrest : SearchEnds taken (candidate.push '_') name) : SearchEnds taken candidate name

variable {taken : List String} {base name other : String}

/-- There is only one way to go on. -/
theorem SearchEnds.unique (h : SearchEnds taken base name) (h' : SearchEnds taken base other) :
    name = other := by
  induction h with
  | free hfree =>
    cases h' with
    | free _ => rfl
    | again htaken _ => exact absurd htaken hfree
  | again htaken _ ih =>
    cases h' with
    | free hfree => exact absurd htaken hfree
    | again _ hrest => exact ih hrest

theorem suffixed_succ (base : String) (count : Nat) :
    suffixed base (count + 1) = (suffixed base count).push '_' := by
  apply String.toList_inj.mp
  rw [String.toList_push, toList_suffixed, toList_suffixed, List.replicate_succ',
    List.append_assoc]

/-- From any candidate before the first free name the search comes to it. -/
theorem searchEnds_suffixed {count : Nat} (hfree : suffixed base count ∉ taken)
    (htaken : ∀ fewer < count, suffixed base fewer ∈ taken) (left : Nat) (hleft : left ≤ count) :
    SearchEnds taken (suffixed base (count - left)) (suffixed base count) := by
  -- Backwards from the free name: `left` is how many underscores are still missing.
  induction left with
  | zero => exact .free hfree
  | succ left ih =>
    have hnext : suffixed base (count - left) = (suffixed base (count - (left + 1))).push '_' := by
      rw [← suffixed_succ]
      congr 1
      omega
    apply SearchEnds.again
    · exact htaken _ (by omega)
    · rw [← hnext]
      exact ih (by omega)

/-- **The search for a name ends**, and it ends with the first free one. -/
theorem searchEnds_iff : SearchEnds taken base name ↔ name = freeName taken base := by
  obtain ⟨count, hname, hfree, htaken⟩ := freeName_isFirstFree taken base
  have hends : SearchEnds taken base (freeName taken base) := by
    have hsearch := searchEnds_suffixed (hname ▸ hfree) htaken count (Nat.le_refl count)
    rwa [Nat.sub_self, suffixed_zero, ← hname] at hsearch
  constructor
  · intro h
    exact h.unique hends
  · rintro rfl
    exact hends

/-! ### Locals and parameters -/

/-- What the locals of a body are called beside parameters of the given names. -/
structure StandBeside (params : List String) (locals : Locals) : Prop where
  /-- The search for each name ends, with this name only. -/
  found : List.Forall₂ (fun base name =>
    ∀ result, SearchEnds (params.map Text.snakeIdent) base result ↔ result = name)
    baseNames locals.toList
  /-- A name has the fewest underscores with which it is no parameter's. -/
  firstFree : List.Forall₂ (IsFirstFree (params.map Text.snakeIdent)) baseNames locals.toList
  distinct : locals.toList.Nodup
  written : ∀ name ∈ locals.toList, Identifier.variableName name = name
  apart : ∀ name ∈ locals.toList, ∀ param ∈ params, name ≠ Identifier.variableName param

/-- What holds of every base name and its first free one holds of the locals. -/
theorem forall₂_beside {params : List String} {R : String → String → Prop}
    (h : ∀ base, R base (freeName (params.map Text.snakeIdent) base)) :
    List.Forall₂ R baseNames (Locals.beside params).toList := by
  rw [toList_beside, List.forall₂_map_right_iff, List.forall₂_same]
  intro base _
  exact h base

theorem nodup_beside (params : List String) : (Locals.beside params).toList.Nodup := by
  have hbase : baseNames.Nodup := by decide
  rw [toList_beside]
  apply hbase.map_on
  intro word hword other hother hsame
  have hplain := isPlainWord_of_mem_baseNames word hword
  exact hplain.eq_of_suffixed (isPlainWord_of_mem_baseNames other hother) hsame

theorem variableName_of_mem_beside {params : List String} {name : String}
    (h : name ∈ (Locals.beside params).toList) : Identifier.variableName name = name := by
  rw [toList_beside] at h
  obtain ⟨word, hword, rfl⟩ := List.mem_map.mp h
  exact (isPlainWord_of_mem_baseNames word hword).variableName_suffixed _

/-- **Whatever the parameters are called, every local finds a name**, with as few underscores as
can be, and is written like no other local and like no parameter. -/
theorem standBeside_beside (params : List String) : StandBeside params (Locals.beside params) where
  found := forall₂_beside (fun _ _ => searchEnds_iff)
  firstFree := forall₂_beside (freeName_isFirstFree _)
  distinct := nodup_beside params
  written _ hname := variableName_of_mem_beside hname
  apart name hname param hparam := by
    have hne := variableName_beside_ne hname hparam
    rwa [variableName_of_mem_beside hname] at hne

/-- Two parameters have names of the query, and the local takes the third. -/
example : (Locals.beside ["id", "Query", "query_"]).query = "query__" := by decide

end Request
end ClientSynth
