import ClientSynth.Proofs.Acceptance
import ClientSynth.Proofs.Occurrence

/-! # Runs of emissions

An output takes one file after another, and one that it refuses stops nothing: it stays as it
is, and the next file is emitted.  After any run it holds the first file of each name, in the
order of the names.  A file is refused by its name alone, and only names that were accepted
count, so two emissions in a row of different names may change places: each of them, and every
emission after them, answers what it answered before. -/
namespace ClientSynth
namespace Output

open Occurrence

variable {o : Output} {u v : GeneratedUnit} {files more : List GeneratedUnit} {fileName : String}

/-- The output once a file has been emitted, and why it was refused if it was. -/
def offer (o : Output) (u : GeneratedUnit) : Emitted :=
  match o.emit u with
  | .ok next => ⟨next, none⟩
  | .error f => ⟨o, some f⟩

/-- The output once one file after another has been emitted. -/
def offerAll (o : Output) (files : List GeneratedUnit) : Output :=
  files.foldl (fun o u => (o.offer u).output) o

/-- What the emission of each file has answered. -/
def answers (o : Output) : List GeneratedUnit → List (GeneratedUnit × Option Failure)
  | [] => []
  | u :: rest => (u, (o.offer u).failure) :: (o.offer u).output.answers rest

/-- The files whose emission has succeeded. -/
def accepted (o : Output) (files : List GeneratedUnit) : List GeneratedUnit :=
  ((o.answers files).filter (fun answer => answer.2.isNone)).map Prod.fst

/-! ### One emission -/

theorem offer_free (h : o.contains u.fileName = false) : o.offer u = ⟨o.adding u, none⟩ := by
  rw [offer, emit_free h]

theorem offer_taken (h : o.contains u.fileName = true) : o.offer u = ⟨o, some (refusal u)⟩ := by
  rw [offer, emit_taken h]

theorem offer_of_error {f : Failure} (h : o.emit u = .error f) : o.offer u = ⟨o, some f⟩ := by
  rw [offer, h]

theorem emit_succeeds_iff : (∃ next, o.emit u = .ok next) ↔ o.contains u.fileName = false := by
  constructor
  · rintro ⟨next, hnext⟩
    by_contra htaken
    rw [emit_taken (by simpa using htaken)] at hnext
    cases hnext
  · intro hfree
    exact ⟨o.adding u, emit_free hfree⟩

theorem contains_offer : (o.offer u).output.contains fileName = true ↔
    fileName = u.fileName ∨ o.contains fileName = true := by
  cases hu : o.contains u.fileName with
  | false => rw [offer_free hu, contains_adding]
  | true =>
    rw [offer_taken hu, or_iff_right_of_imp]
    rintro rfl
    exact hu

/-- The emission of a file does not matter for another name. -/
theorem failure_offer_offer (h : u.fileName ≠ v.fileName) :
    ((o.offer u).output.offer v).failure = (o.offer v).failure := by
  have hsame : (o.offer u).output.contains v.fileName = o.contains v.fileName := by
    rw [Bool.eq_iff_iff, contains_offer, or_iff_right h.symm]
  cases hv : o.contains v.fileName with
  | false => rw [offer_free hv, offer_free (hsame.trans hv)]
  | true => rw [offer_taken hv, offer_taken (hsame.trans hv)]

theorem output_offer_comm (h : u.fileName ≠ v.fileName) :
    ((o.offer u).output.offer v).output = ((o.offer v).output.offer u).output := by
  have hv' : (o.adding u).contains v.fileName = o.contains v.fileName := contains_adding_ne h.symm
  have hu' : (o.adding v).contains u.fileName = o.contains u.fileName := contains_adding_ne h
  -- Only if both are accepted is there anything to swap.
  cases hu : o.contains u.fileName <;> cases hv : o.contains v.fileName
  · rw [offer_free hu, offer_free hv, offer_free (hv'.trans hv), offer_free (hu'.trans hu),
      adding_comm h]
  · rw [offer_free hu, offer_taken hv, offer_taken (hv'.trans hv), offer_free hu]
  · rw [offer_taken hu, offer_free hv, offer_taken (hu'.trans hu)]
  · rw [offer_taken hu, offer_taken hv, offer_taken hu]

/-! ### Runs -/

theorem offerAll_singleton (o : Output) (u : GeneratedUnit) :
    o.offerAll [u] = (o.offer u).output := rfl

theorem offerAll_append (o : Output) (files more : List GeneratedUnit) :
    o.offerAll (files ++ more) = (o.offerAll files).offerAll more := List.foldl_append

theorem answers_append (o : Output) (files more : List GeneratedUnit) :
    o.answers (files ++ more) = o.answers files ++ (o.offerAll files).answers more := by
  induction files generalizing o with
  | nil => rfl
  | cons u rest ih =>
    rw [List.cons_append, answers, ih, answers, List.cons_append]
    rfl

theorem accepted_append (o : Output) (files more : List GeneratedUnit) :
    o.accepted (files ++ more) = o.accepted files ++ (o.offerAll files).accepted more := by
  rw [accepted, answers_append, List.filter_append, List.map_append]
  rfl

theorem accepted_singleton (o : Output) (u : GeneratedUnit) :
    o.accepted [u] = if o.contains u.fileName = true then [] else [u] := by
  cases hu : o.contains u.fileName with
  | false => simp [accepted, answers, offer_free hu]
  | true => simp [accepted, answers, offer_taken hu]

/-- **A run accepts the files whose emission succeeds**, each under a free name. -/
theorem accepts_offerAll (o : Output) (files : List GeneratedUnit) :
    o.Accepts (o.accepted files) (o.offerAll files) := by
  -- From the end: the last file meets the output that those before it have left.
  induction files using List.reverseRecOn with
  | nil => exact .nil o
  | append_singleton files u ih =>
    rw [accepted_append, accepted_singleton, offerAll_append, offerAll_singleton]
    cases hu : (o.offerAll files).contains u.fileName with
    | false =>
      rw [offer_free hu]
      exact ih.append (.single hu)
    | true =>
      rw [offer_taken hu, if_pos rfl, List.append_nil]
      exact ih

theorem contains_offerAll : (o.offerAll files).contains fileName = true ↔
    fileName ∈ files.map GeneratedUnit.fileName ∨ o.contains fileName = true := by
  induction files using List.reverseRecOn with
  | nil => simp [offerAll]
  | append_singleton files u ih =>
    rw [offerAll_append, offerAll_singleton, contains_offer, ih, List.map_append, List.mem_append,
      List.map_singleton, List.mem_singleton]
    tauto

/-- From the empty output on, the first file of each name is accepted. -/
theorem accepted_empty (files : List GeneratedUnit) :
    empty.accepted files = firsts GeneratedUnit.fileName files := by
  induction files using List.reverseRecOn with
  | nil => rfl
  | append_singleton files u ih =>
    have hnames : (empty.offerAll files).contains u.fileName = true ↔
        u.fileName ∈ files.map GeneratedUnit.fileName := by
      rw [contains_offerAll, or_iff_left]
      exact Bool.false_ne_true
    rw [accepted_append, accepted_singleton, ih, firsts_concat]
    simp only [hnames]

theorem mem_offerAll_empty : u ∈ (empty.offerAll files).units ↔ u ∈ empty.accepted files := by
  rw [(accepts_offerAll empty files).mem_iff, or_iff_left]
  exact List.not_mem_nil

/-! ### Order -/

/-- The files stand in the order of their names, and no two have the same. -/
def IsSorted (o : Output) : Prop :=
  o.units.Pairwise (fun u v => u.fileName < v.fileName)

theorem pairwise_insert {units : List GeneratedUnit}
    (hsorted : units.Pairwise (fun u v => u.fileName < v.fileName))
    (hfree : ∀ v ∈ units, v.fileName ≠ u.fileName) :
    (insert u units).Pairwise (fun u v => u.fileName < v.fileName) := by
  induction units with
  | nil => exact List.pairwise_singleton _ _
  | cons v rest ih =>
    obtain ⟨hv, hrest⟩ := List.pairwise_cons.mp hsorted
    unfold insert
    split
    · next hlt =>
      apply List.pairwise_cons.mpr
      refine ⟨?_, hsorted⟩
      intro w hw
      rcases List.mem_cons.mp hw with rfl | hw
      · exact hlt
      · exact hlt.trans (hv w hw)
    · next hge =>
      -- The names differ, so the unit goes strictly behind this one.
      have hlt : v.fileName < u.fileName :=
        lt_of_le_of_ne (not_lt.mp hge) (hfree v List.mem_cons_self)
      have hfree' : ∀ w ∈ rest, w.fileName ≠ u.fileName := by
        intro w hw
        exact hfree w (List.mem_cons_of_mem v hw)
      apply List.pairwise_cons.mpr
      refine ⟨?_, ih hrest hfree'⟩
      intro w hw
      rcases List.mem_cons.mp ((insert_perm u rest).mem_iff.mp hw) with rfl | hw
      · exact hlt
      · exact hv w hw

theorem Accepts.isSorted {final : Output} (h : o.Accepts files final) (ho : o.IsSorted) :
    final.IsSorted := by
  induction h with
  | nil => exact ho
  | cons hfree _ ih =>
    apply ih
    apply pairwise_insert ho
    intro v hv hsame
    rw [← hsame, contains_iff.mpr (List.mem_map_of_mem hv)] at hfree
    cases hfree

/-! ### What a run amounts to -/

/-- What the empty output has become once the files have been emitted, and what it does next. -/
structure CollectsFirsts (files : List GeneratedUnit) : Prop where
  /-- An emission succeeds exactly if no successful one before it had its name. -/
  succeeds_iff : ∀ u, (∃ next, (empty.offerAll files).emit u = .ok next) ↔
    ∀ v ∈ empty.accepted files, v.fileName ≠ u.fileName
  /-- One that fails leaves the files as they are. -/
  unchanged : ∀ u f, (empty.offerAll files).emit u = .error f →
    empty.offerAll (files ++ [u]) = empty.offerAll files
  isSorted : (empty.offerAll files).IsSorted
  /-- The files that are there are those that were the first with their name. -/
  mem_iff : ∀ u, u ∈ (empty.offerAll files).units ↔
    files.find? (fun v => v.fileName == u.fileName) = some u
  /-- The next two may change places if their names are different, whatever comes after. -/
  swap : ∀ u v rest, u.fileName ≠ v.fileName →
    empty.offerAll (files ++ u :: v :: rest) = empty.offerAll (files ++ v :: u :: rest) ∧
    ∃ first second others,
      empty.answers (files ++ u :: v :: rest) =
        empty.answers files ++ (u, first) :: (v, second) :: others ∧
      empty.answers (files ++ v :: u :: rest) =
        empty.answers files ++ (v, second) :: (u, first) :: others

theorem emit_offerAll_succeeds_iff :
    (∃ next, (empty.offerAll files).emit u = .ok next) ↔
      ∀ v ∈ empty.accepted files, v.fileName ≠ u.fileName := by
  rw [emit_succeeds_iff, Bool.eq_false_iff, ne_eq, contains_iff, List.mem_map, not_exists]
  simp only [mem_offerAll_empty, not_and, ne_eq]

theorem offerAll_swap (h : u.fileName ≠ v.fileName) (o : Output) (rest : List GeneratedUnit) :
    o.offerAll (u :: v :: rest) = o.offerAll (v :: u :: rest) :=
  congrArg (offerAll · rest) (output_offer_comm h)

theorem answers_swap (h : u.fileName ≠ v.fileName) (o : Output) (rest : List GeneratedUnit) :
    ∃ first second others,
      o.answers (u :: v :: rest) = (u, first) :: (v, second) :: others ∧
      o.answers (v :: u :: rest) = (v, second) :: (u, first) :: others := by
  refine ⟨(o.offer u).failure, (o.offer v).failure,
    ((o.offer u).output.offer v).output.answers rest, ?_, ?_⟩
  · rw [answers, answers, failure_offer_offer h]
  · rw [answers, answers, failure_offer_offer h.symm, output_offer_comm h]

/-- **An empty output collects the first file of each name**, whatever is emitted into it and in
which order, and emissions of different names commute. -/
theorem collectsFirsts (files : List GeneratedUnit) : CollectsFirsts files where
  succeeds_iff _ := emit_offerAll_succeeds_iff
  unchanged u f hfails := by
    rw [offerAll_append, offerAll_singleton, offer_of_error hfails]
  isSorted := (accepts_offerAll empty files).isSorted List.Pairwise.nil
  mem_iff u := by rw [mem_offerAll_empty, accepted_empty, mem_firsts_iff]
  swap u v rest hne := by
    obtain ⟨first, second, others, hanswers, hswapped⟩ :=
      answers_swap hne (empty.offerAll files) rest
    constructor
    · rw [offerAll_append, offerAll_append, offerAll_swap hne]
    · refine ⟨first, second, others, ?_, ?_⟩
      · rw [answers_append, hanswers]
      · rw [answers_append, hswapped]

end Output
end ClientSynth
