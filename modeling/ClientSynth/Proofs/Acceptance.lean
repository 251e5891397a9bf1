import ClientSynth.Proofs.FirstCome

/-! # What has been accepted stays

An output changes in one way only: it accepts a file whose name is free.  So whatever the
tasks of a run do and in which order, the files of an earlier output are among those of a
later one.  A task that has not failed has brought each of its files either into the output
or is still to do so, and this is what a whole run keeps up, step by step. -/
namespace ClientSynth

namespace Output

variable {o o' final : Output} {u : GeneratedUnit} {files more : List GeneratedUnit}

/-- The output after the files have been accepted one by one, each under a free name. -/
inductive Accepts : Output → List GeneratedUnit → Output → Prop
  | nil (o : Output) : Accepts o [] o
  | cons {o : Output} {u : GeneratedUnit} {files : List GeneratedUnit} {final : Output}
      (hfree : o.contains u.fileName = false) (hrest : Accepts (o.adding u) files final) :
      Accepts o (u :: files) final

theorem Accepts.single (h : o.contains u.fileName = false) : Accepts o [u] (o.adding u) :=
  .cons h (.nil _)

theorem Accepts.append (h : Accepts o files o') (h' : Accepts o' more final) :
    Accepts o (files ++ more) final := by
  induction h with
  | nil => exact h'
  | cons hfree _ ih => exact .cons hfree (ih h')

theorem insert_sublist (u : GeneratedUnit) (units : List GeneratedUnit) :
    units.Sublist (insert u units) := by
  induction units with
  | nil => exact List.nil_sublist _
  | cons v rest ih =>
      unfold insert
      split
      · exact List.sublist_cons_self _ _
      · exact ih.cons_cons v

/-- The files of the earlier output are files of the later one, in the same order. -/
theorem Accepts.sublist (h : Accepts o files final) : o.units.Sublist final.units := by
  induction h with
  | nil => exact List.Sublist.refl _
  | cons _ _ ih => exact (insert_sublist _ _).trans ih

/-- The later output has the accepted files besides, and no others. -/
theorem Accepts.mem_iff (h : Accepts o files final) :
    u ∈ final.units ↔ u ∈ files ∨ u ∈ o.units := by
  induction h with
  | nil => simp
  | cons _ _ ih =>
      rw [ih, (adding_perm _ _).mem_iff, List.mem_cons, List.mem_cons]
      tauto

theorem Accepts.contains (h : Accepts o files final) {fileName : String}
    (htaken : o.contains fileName = true) : final.contains fileName = true := by
  rw [contains_iff] at htaken ⊢
  exact (h.sublist.map GeneratedUnit.fileName).mem htaken

/-- No two files of the output have the same name. -/
def HasDistinctFiles (o : Output) : Prop := (o.units.map GeneratedUnit.fileName).Nodup

theorem HasDistinctFiles.adding (h : o.HasDistinctFiles) (hfree : o.contains u.fileName = false) :
    (o.adding u).HasDistinctFiles := by
  rw [HasDistinctFiles, ((adding_perm o u).map _).nodup_iff, List.map_cons, List.nodup_cons]
  refine ⟨fun hmem => ?_, h⟩
  rw [contains_iff.mpr hmem] at hfree
  cases hfree

theorem Accepts.hasDistinctFiles (h : Accepts o files final) (ho : o.HasDistinctFiles) :
    final.HasDistinctFiles := by
  induction h with
  | nil => exact ho
  | cons hfree _ ih => exact ih (ho.adding hfree)

/-- The output may become the other one. -/
def Extends (o o' : Output) : Prop := ∃ files, o.Accepts files o'

theorem extends_refl (o : Output) : o.Extends o := ⟨[], .nil o⟩

theorem Extends.trans (h : o.Extends o') (h' : o'.Extends final) : o.Extends final := by
  obtain ⟨files, hfiles⟩ := h
  obtain ⟨more, hmore⟩ := h'
  exact ⟨files ++ more, hfiles.append hmore⟩

instance : Trans Extends Extends Extends := ⟨Extends.trans⟩

theorem Extends.sublist (h : o.Extends o') : o.units.Sublist o'.units := by
  obtain ⟨files, hfiles⟩ := h
  exact hfiles.sublist

theorem Extends.hasDistinctFiles (h : o.Extends o') (ho : o.HasDistinctFiles) :
    o'.HasDistinctFiles := by
  obtain ⟨files, hfiles⟩ := h
  exact hfiles.hasDistinctFiles ho

/-- A single file is accepted, or the output stays as it is. -/
theorem accepts_emitOne (o : Output) (file : Except Failure GeneratedUnit) :
    ∃ accepted, Accepts o accepted (o.emitOne file).output ∧ ∀ u ∈ accepted, file = .ok u := by
  cases file with
  | error f => exact ⟨[], .nil o, by simp⟩
  | ok u =>
      rw [emitOne]
      cases hu : o.contains u.fileName with
      | true =>
          rw [emitAll_taken hu]
          exact ⟨[], .nil o, by simp⟩
      | false =>
          rw [emitAll_free hu, emitAll_nil]
          exact ⟨[u], .single hu, by simp⟩

end Output

namespace Task

variable {t rest : Task} {o o' : Output} {u : GeneratedUnit} {files : List GeneratedUnit}

/-- A step of a task accepts one of its files or none. -/
theorem accepts_advance (t : Task) (o : Output) :
    ∃ accepted, o.Accepts accepted (t.advance o).1 ∧ accepted ⊆ t.pending := by
  rcases hp : t.pending with - | ⟨u, rest⟩
  · rw [advance_done hp]
    exact ⟨[], .nil o, List.nil_subset _⟩
  · cases hu : o.contains u.fileName with
    | true =>
        rw [advance_taken hp hu]
        exact ⟨[], .nil o, List.nil_subset _⟩
    | false =>
        rw [advance_free hp hu]
        exact ⟨[u], .single hu, by simp⟩

/-- What is left of a task when the output is this one. -/
structure Leaves (t : Task) (o : Output) (rest : Task) : Prop where
  subset : rest.pending ⊆ t.pending
  failure : rest.failure = none → t.failure = none
  /-- If it has not failed, the files that it need not emit any more are in the output. -/
  emitted : rest.failure = none → ∀ u ∈ t.pending, u ∈ rest.pending ∨ u ∈ o.units
  /-- If it has, it did so before, or the name of one of its files was taken. -/
  refused : ∀ f, rest.failure = some f → t.failure = some f ∨
    ∃ u ∈ t.pending, f = Output.refusal u ∧ o.contains u.fileName = true

theorem leaves_self (t : Task) (o : Output) : t.Leaves o t where
  subset := List.Subset.refl _
  failure := id
  emitted _ _ hu := Or.inl hu
  refused _ hf := Or.inl hf

/-- What others bring into the output is of no matter. -/
theorem Leaves.accepts (h : t.Leaves o rest) (ho : o.Accepts files o') : t.Leaves o' rest where
  subset := h.subset
  failure := h.failure
  emitted hfailure u hu := (h.emitted hfailure u hu).imp_right (fun hmem => ho.sublist.mem hmem)
  refused := by
    intro f hf
    rcases h.refused f hf with hbefore | ⟨u, hu, hrefusal, htaken⟩
    · exact Or.inl hbefore
    · exact Or.inr ⟨u, hu, hrefusal, ho.contains htaken⟩

theorem Leaves.advance (h : t.Leaves o rest) :
    t.Leaves (rest.advance o).1 (rest.advance o).2 := by
  rcases hp : rest.pending with - | ⟨u, more⟩
  · rw [advance_done hp]
    exact h
  · have hmine : u ∈ t.pending := h.subset (hp ▸ List.mem_cons_self)
    -- A taken name ends the task.  A free one adds a unit, which is one file less to emit, and
    -- a name once taken stays so.
    cases hu : o.contains u.fileName with
    | true =>
        rw [advance_taken hp hu]
        refine ⟨List.nil_subset _, nofun, nofun, fun f hf => ?_⟩
        exact Or.inr ⟨u, hmine, (Option.some.inj hf).symm, hu⟩
    | false =>
        have hleaves : t.Leaves (o.adding u) rest := h.accepts (.single hu)
        rw [advance_free hp hu]
        refine ⟨fun v hv => h.subset (hp ▸ List.mem_cons_of_mem u hv), h.failure,
          fun hfailure v hv => ?_, hleaves.refused⟩
        have hmem : v ∈ (o.adding u).units ↔ v = u ∨ v ∈ o.units :=
          (o.adding_perm u).mem_iff.trans List.mem_cons
        rcases h.emitted hfailure v hv with hpending | hemitted
        · rw [hp] at hpending
          rcases List.mem_cons.mp hpending with hvu | hmore
          · exact Or.inr (hmem.mpr (Or.inl hvu))
          · exact Or.inl hmore
        · exact Or.inr (hmem.mpr (Or.inr hemitted))

/-- A task that comes to its end without a failure has all of its files in the output. -/
theorem Leaves.complete (h : t.Leaves o rest) (hdone : rest.pending = [])
    (hfailure : rest.failure = none) : t.failure = none ∧ ∀ u ∈ t.pending, u ∈ o.units := by
  refine ⟨h.failure hfailure, fun u hu => ?_⟩
  rcases h.emitted hfailure u hu with hpending | hemitted
  · rw [hdone] at hpending
    cases hpending
  · exact hemitted

end Task

namespace Stage

variable {s s' : Stage} {k : Nat}

/-- A step accepts files of the tasks. -/
theorem accepts_step (s : Stage) (k : Nat) :
    ∃ accepted, s.output.Accepts accepted (s.step k).output ∧
      ∀ u ∈ accepted, ∃ t ∈ s.tasks, u ∈ t.pending := by
  cases hk : s.tasks[k]? with
  | none =>
      rw [step_none hk]
      exact ⟨[], .nil _, by simp⟩
  | some t =>
      rw [step_some hk]
      obtain ⟨accepted, haccepts, hsubset⟩ := t.accepts_advance s.output
      exact ⟨accepted, haccepts, fun u hu => ⟨t, List.mem_of_getElem? hk, hsubset hu⟩⟩

/-- **A run only accepts files of its tasks**, each under a free name. -/
theorem accepts_run (s : Stage) (schedule : List Nat) :
    ∃ accepted, s.output.Accepts accepted (s.run schedule).output ∧
      ∀ u ∈ accepted, ∃ t ∈ s.tasks, u ∈ t.pending := by
  induction schedule generalizing s with
  | nil => exact ⟨[], .nil _, by simp⟩
  | cons k rest ih =>
      obtain ⟨first, hfirst, hfirstOf⟩ := s.accepts_step k
      obtain ⟨others, hothers, hothersOf⟩ := ih (s.step k)
      refine ⟨first ++ others, hfirst.append hothers, fun u hu => ?_⟩
      rcases List.mem_append.mp hu with hu | hu
      · exact hfirstOf u hu
      · obtain ⟨t, ht, hmem⟩ := hothersOf u hu
        obtain ⟨j, hj⟩ := List.mem_iff_getElem?.mp ht
        obtain ⟨before, hbefore, hsubset⟩ := pending_step hj
        exact ⟨before, List.mem_of_getElem? hbefore, hsubset hmem⟩

theorem extends_run (s : Stage) (schedule : List Nat) :
    s.output.Extends (s.run schedule).output := by
  obtain ⟨accepted, haccepts, -⟩ := s.accepts_run schedule
  exact ⟨accepted, haccepts⟩

/-- The outputs that a run goes through. -/
def history (s : Stage) : List Nat → List Output
  | [] => [s.output]
  | k :: rest => s.output :: (s.step k).history rest

/-- Every output of a run lies between the first and the last. -/
theorem extends_of_mem_history {o : Output} {schedule : List Nat} (h : o ∈ s.history schedule) :
    s.output.Extends o ∧ o.Extends (s.run schedule).output := by
  induction schedule generalizing s with
  | nil =>
      obtain rfl := List.mem_singleton.mp h
      exact ⟨Output.extends_refl _, Output.extends_refl _⟩
  | cons k rest ih =>
      rcases List.mem_cons.mp h with rfl | h
      · exact ⟨Output.extends_refl _, s.extends_run (k :: rest)⟩
      · obtain ⟨hafter, hbefore⟩ := ih h
        exact ⟨(s.extends_run [k]).trans hafter, hbefore⟩

theorem pairwise_history (s : Stage) (schedule : List Nat) :
    (s.history schedule).Pairwise Output.Extends := by
  induction schedule generalizing s with
  | nil => exact List.pairwise_singleton _ _
  | cons k rest ih =>
      refine List.pairwise_cons.mpr ⟨fun o ho => ?_, ih (s.step k)⟩
      exact (s.extends_run [k]).trans (extends_of_mem_history ho).1

/-- What is left of the tasks of a stage at a later one. -/
def Leaves (s s' : Stage) : Prop :=
  ∀ (k : Nat) (t rest : Task), s.tasks[k]? = some t → s'.tasks[k]? = some rest →
    t.Leaves s'.output rest

theorem leaves_self (s : Stage) : s.Leaves s := by
  intro k t rest ht hrest
  obtain rfl := Option.some.inj (ht.symm.trans hrest)
  exact t.leaves_self s.output

theorem Leaves.step (h : s.Leaves s') (k : Nat) : s.Leaves (s'.step k) := by
  intro j t rest ht hrest
  cases hk : s'.tasks[k]? with
  | none =>
      rw [step_none hk] at hrest ⊢
      exact h j t rest ht hrest
  | some r =>
      have hstep := step_some hk
      by_cases hjk : j = k
      · subst hjk
        have hlt : j < s'.tasks.length := (List.getElem?_eq_some_iff.mp hk).1
        rw [hstep, List.getElem?_set_self hlt] at hrest
        obtain rfl := Option.some.inj hrest
        rw [hstep]
        exact (h j t r ht hk).advance
      · rw [tasks_step_ne hjk] at hrest
        obtain ⟨accepted, haccepts, -⟩ := s'.accepts_step k
        exact (h j t rest ht hrest).accepts haccepts

theorem Leaves.run (h : s.Leaves s') (schedule : List Nat) : s.Leaves (s'.run schedule) := by
  induction schedule generalizing s' with
  | nil => exact h
  | cons k rest ih => exact ih (h.step k)

/-- **Every task of a run leaves what its steps have left**, whatever the others do. -/
theorem leaves_run (s : Stage) (schedule : List Nat) : s.Leaves (s.run schedule) :=
  s.leaves_self.run schedule

end Stage
end ClientSynth
