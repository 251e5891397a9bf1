import ClientSynth.Proofs.Emission

/-! # Emitting at the same time

The interfaces of a run may be emitted by tasks that share the output.  A task
renders the files of its interface on its own and then emits them one by one; a
schedule says whose turn it is.  Steps of tasks that have no file name in common
commute, so all schedules that bring the tasks to an end reach the same output.
A name that two tasks have in common belongs to the one that comes first. -/
namespace ClientSynth

open Contract

/-- An emission under way: the files that are left, and why it stopped if it did. -/
structure Task where
  pending : List GeneratedUnit
  failure : Option Failure

namespace Task

variable {t r : Task} {o : Output} {u v : GeneratedUnit} {rest : List GeneratedUnit}

/-- The output and the task after its next file.  A file that is refused stops it. -/
def advance (t : Task) (o : Output) : Output × Task :=
  match t.pending with
  | [] => (o, t)
  | u :: rest =>
    match o.emit u with
    | .ok next => (next, ⟨rest, t.failure⟩)
    | .error f => (o, ⟨[], some f⟩)

theorem advance_done (h : t.pending = []) : t.advance o = (o, t) := by
  rw [advance, h]

theorem advance_free (h : t.pending = u :: rest) (hu : o.contains u.fileName = false) :
    t.advance o = (o.adding u, ⟨rest, t.failure⟩) := by
  rw [advance, h]
  dsimp only
  rw [Output.emit_free hu]

theorem advance_taken (h : t.pending = u :: rest) (hu : o.contains u.fileName = true) :
    t.advance o = (o, ⟨[], some (Output.refusal u)⟩) := by
  rw [advance, h]
  dsimp only
  rw [Output.emit_taken hu]

/-- A step of a task adds one of its files or none. -/
theorem output_advance (t : Task) (o : Output) :
    (t.advance o).1 = o ∨ ∃ u ∈ t.pending, (t.advance o).1 = o.adding u := by
  rcases hp : t.pending with - | ⟨u, rest⟩
  · exact Or.inl (congrArg Prod.fst (advance_done hp))
  · cases hu : o.contains u.fileName with
    | false => exact Or.inr ⟨u, List.mem_cons_self, congrArg Prod.fst (advance_free hp hu)⟩
    | true => exact Or.inl (congrArg Prod.fst (advance_taken hp hu))

theorem pending_advance_subset (t : Task) (o : Output) : (t.advance o).2.pending ⊆ t.pending := by
  rcases hp : t.pending with - | ⟨u, rest⟩
  · rw [advance_done hp, hp]
    exact List.Subset.refl _
  · cases hu : o.contains u.fileName with
    | false =>
        rw [advance_free hp hu]
        exact List.subset_cons_self u rest
    | true =>
        rw [advance_taken hp hu]
        exact List.nil_subset _

/-- A file of another name changes nothing for a task. -/
theorem advance_adding (h : ∀ u ∈ t.pending, u.fileName ≠ v.fileName) :
    t.advance (o.adding v) = ((t.advance o).1.adding v, (t.advance o).2) := by
  rcases hp : t.pending with - | ⟨u, rest⟩
  · rw [advance_done hp, advance_done hp]
  · have hne : u.fileName ≠ v.fileName := h u (hp ▸ List.mem_cons_self)
    have hsame : (o.adding v).contains u.fileName = o.contains u.fileName :=
      Output.contains_adding_ne hne
    cases hu : o.contains u.fileName with
    | false => rw [advance_free hp (hsame.trans hu), advance_free hp hu, Output.adding_comm hne]
    | true => rw [advance_taken hp (hsame.trans hu), advance_taken hp hu]

/-- The tasks have no file name in common. -/
def Apart (t r : Task) : Prop :=
  ∀ u ∈ t.pending, ∀ v ∈ r.pending, u.fileName ≠ v.fileName

theorem Apart.symm (h : t.Apart r) : r.Apart t := fun v hv u hu => (h u hu v hv).symm

theorem Apart.advance (h : t.Apart r) (o : Output) : (t.advance o).2.Apart r :=
  fun u hu => h u (pending_advance_subset t o hu)

/-- A task does not notice a step of another one. -/
theorem Apart.advance_comm (h : t.Apart r) (o : Output) :
    t.advance (r.advance o).1 = ((r.advance (t.advance o).1).1, (t.advance o).2) := by
  -- Each of the two steps adds a file or none; only if both do is there anything to swap.
  rcases output_advance t o with ht | ⟨u, hu, ht⟩
  · rcases output_advance r o with hr | ⟨v, hv, hr⟩
    · rw [hr]
      exact Prod.ext (by rw [ht, hr]) rfl
    · rw [hr, advance_adding (fun u hu => h u hu v hv)]
      exact Prod.ext (by rw [ht, hr]) rfl
  · have hru : r.advance (o.adding u) = ((r.advance o).1.adding u, (r.advance o).2) :=
      advance_adding (fun v hv => (h u hu v hv).symm)
    rcases output_advance r o with hr | ⟨v, hv, hr⟩
    · rw [hr]
      exact Prod.ext (by rw [ht, hru, hr]) rfl
    · rw [hr, advance_adding (fun u hu => h u hu v hv)]
      exact Prod.ext (by rw [ht, hru, hr, Output.adding_comm (h u hu v hv)]) rfl

end Task

/-- The output that the tasks share, and the tasks. -/
structure Stage where
  output : Output
  tasks : List Task

namespace Stage

variable {s : Stage} {j k : Nat} {t : Task}

/-- The stage after a step of the `k`th task. -/
def step (s : Stage) (k : Nat) : Stage :=
  match s.tasks[k]? with
  | none => s
  | some t => ⟨(t.advance s.output).1, s.tasks.set k (t.advance s.output).2⟩

/-- The stage after the steps of a schedule. -/
def run (s : Stage) (schedule : List Nat) : Stage := schedule.foldl step s

/-- No task has a file left. -/
def IsDone (s : Stage) : Prop := ∀ t ∈ s.tasks, t.pending = []

/-- No two tasks have a file name in common. -/
def Apart (s : Stage) : Prop :=
  ∀ (j k : Nat) (t r : Task), j ≠ k → s.tasks[j]? = some t → s.tasks[k]? = some r → t.Apart r

theorem step_none (h : s.tasks[k]? = none) : s.step k = s := by
  rw [step, h]

theorem step_some (h : s.tasks[k]? = some t) :
    s.step k = ⟨(t.advance s.output).1, s.tasks.set k (t.advance s.output).2⟩ := by
  rw [step, h]

theorem run_append (s : Stage) (p q : List Nat) : s.run (p ++ q) = (s.run p).run q :=
  List.foldl_append

theorem tasks_step_ne (hjk : j ≠ k) : (s.step k).tasks[j]? = s.tasks[j]? := by
  cases h : s.tasks[k]? with
  | none => rw [step_none h]
  | some t => rw [step_some h, List.getElem?_set_ne hjk.symm]

theorem length_step (s : Stage) (k : Nat) : (s.step k).tasks.length = s.tasks.length := by
  cases h : s.tasks[k]? with
  | none => rw [step_none h]
  | some t => rw [step_some h, List.length_set]

/-- What a task has left after a step was left before it. -/
theorem pending_step (h : (s.step k).tasks[j]? = some t) :
    ∃ before, s.tasks[j]? = some before ∧ t.pending ⊆ before.pending := by
  by_cases hjk : j = k
  · subst hjk
    cases hj : s.tasks[j]? with
    | none =>
        rw [step_none hj, hj] at h
        cases h
    | some before =>
        have hlt : j < s.tasks.length := (List.getElem?_eq_some_iff.mp hj).1
        rw [step_some hj, List.getElem?_set_self hlt] at h
        cases h
        exact ⟨before, rfl, before.pending_advance_subset s.output⟩
  · rw [tasks_step_ne hjk] at h
    exact ⟨t, h, List.Subset.refl _⟩

/-! ### Orders that do not matter -/

theorem Apart.step (h : s.Apart) (k : Nat) : (s.step k).Apart := by
  intro i j t r hij ht hr u hu v hv
  obtain ⟨t', ht', htsub⟩ := pending_step ht
  obtain ⟨r', hr', hrsub⟩ := pending_step hr
  exact h i j t' r' hij ht' hr' u (htsub hu) v (hrsub hv)

/-- **Steps of different tasks commute.** -/
theorem Apart.step_comm (h : s.Apart) (j k : Nat) : (s.step j).step k = (s.step k).step j := by
  by_cases hjk : j = k
  · rw [hjk]
  · have hj' := tasks_step_ne (s := s) hjk
    have hk' := tasks_step_ne (s := s) (Ne.symm hjk)
    cases hj : s.tasks[j]? with
    | none => rw [step_none hj, step_none (hj'.trans hj)]
    | some t =>
        cases hk : s.tasks[k]? with
        | none => rw [step_none hk, step_none (hk'.trans hk)]
        | some r =>
            have hapart := h j k t r hjk hj hk
            rw [step_some (hk'.trans hk), step_some (hj'.trans hj), step_some hj, step_some hk]
            dsimp only
            rw [hapart.advance_comm, hapart.symm.advance_comm, List.set_comm _ _ hjk]

/-- **The order of the steps does not matter.** -/
theorem Apart.run_perm {p q : List Nat} (hperm : p.Perm q) (h : s.Apart) : s.run p = s.run q := by
  induction hperm generalizing s with
  | nil => rfl
  | cons k _ ih => exact ih (h.step k)
  | swap j k rest => exact congrArg (fun next => Stage.run next rest) (h.step_comm k j)
  | trans _ _ ih₁ ih₂ => exact (ih₁ h).trans (ih₂ h)

theorem IsDone.step (h : s.IsDone) (k : Nat) : s.step k = s := by
  cases hk : s.tasks[k]? with
  | none => exact step_none hk
  | some t =>
      have hdone := Task.advance_done (o := s.output) (h t (List.mem_of_getElem? hk))
      obtain ⟨hlt, rfl⟩ := List.getElem?_eq_some_iff.mp hk
      rw [step_some hk, hdone]
      exact congrArg (Stage.mk s.output) (List.set_getElem_self hlt)

theorem IsDone.run (h : s.IsDone) (schedule : List Nat) : s.run schedule = s := by
  induction schedule with
  | nil => rfl
  | cons k rest ih => exact (congrArg (fun next => Stage.run next rest) (h.step k)).trans ih

/-- **All schedules that bring the tasks to an end reach the same stage.** -/
theorem Apart.run_eq {p q : List Nat} (h : s.Apart) (hp : (s.run p).IsDone)
    (hq : (s.run q).IsDone) : s.run p = s.run q :=
  calc s.run p = (s.run p).run q := (hp.run q).symm
    _ = s.run (p ++ q) := (s.run_append p q).symm
    _ = s.run (q ++ p) := h.run_perm List.perm_append_comm
    _ = (s.run q).run p := s.run_append q p
    _ = s.run q := hq.run p

/-- The files of a task can be emitted without a pause. -/
theorem exists_run_emitAll (s : Stage) {files : List GeneratedUnit}
    (h : s.tasks[k]? = some ⟨files, none⟩) :
    ∃ schedule, s.run schedule = ⟨(s.output.emitAll files).output,
      s.tasks.set k ⟨[], (s.output.emitAll files).failure⟩⟩ := by
  induction files generalizing s with
  | nil =>
      obtain ⟨hlt, hk⟩ := List.getElem?_eq_some_iff.mp h
      exact ⟨[], congrArg (Stage.mk s.output) (hk ▸ List.set_getElem_self hlt).symm⟩
  | cons u rest ih =>
      have hlt : k < s.tasks.length := (List.getElem?_eq_some_iff.mp h).1
      have hstep := Stage.step_some h
      cases hu : s.output.contains u.fileName with
      | false =>
          rw [Task.advance_free rfl hu] at hstep
          obtain ⟨schedule, hrun⟩ := ih (s.step k)
            (by rw [hstep, List.getElem?_set_self hlt])
          refine ⟨k :: schedule, (show _ = (s.step k).run schedule from rfl).trans ?_⟩
          rw [hrun, hstep, Output.emitAll_free hu, List.set_set]
      | true =>
          rw [Task.advance_taken rfl hu] at hstep
          exact ⟨[k], hstep.trans (by rw [Output.emitAll_taken hu])⟩

end Stage

namespace Emitter

variable {e : Emitter} {s : Settings} {contracts : List Interface}

/-- The task that emits an interface.  It has nothing to emit if a unit cannot be
rendered. -/
def task (e : Emitter) (i : Interface) : Task :=
  match e.files i with
  | .ok files => ⟨files, none⟩
  | .error f => ⟨[], some f⟩

/-- Where a run starts. -/
def start (e : Emitter) (contracts : List Interface) : Stage := ⟨.empty, contracts.map e.task⟩

/-- The schedule brings all tasks of a run to an end. -/
def Completes (e : Emitter) (contracts : List Interface) (schedule : List Nat) : Prop :=
  ((e.start contracts).run schedule).IsDone

/-- What a run with this schedule reports. -/
def report (e : Emitter) (s : Settings) (contracts : List Interface) (schedule : List Nat) :
    Reported (Output × List Interface) :=
  let final := (e.start contracts).run schedule
  e.conclude s final.output (contracts.zip (final.tasks.map Task.failure))

/-- No two interfaces have a file name in common. -/
def Apart (e : Emitter) (contracts : List Interface) : Prop :=
  contracts.Pairwise (fun i j => (e.task i).Apart (e.task j))

theorem Apart.start (h : e.Apart contracts) : (e.start contracts).Apart := by
  intro j k t r hjk ht hr
  obtain ⟨hj, rfl⟩ := List.getElem?_eq_some_iff.mp ht
  obtain ⟨hk, rfl⟩ := List.getElem?_eq_some_iff.mp hr
  have hpairwise := List.pairwise_iff_getElem.mp (List.pairwise_map.mpr h)
  rcases Nat.lt_or_gt_of_ne hjk with hlt | hgt
  · exact hpairwise j k hj hk hlt
  · exact (hpairwise k j hk hj hgt).symm

/-! ### One interface after another -/

theorem exists_run_emitInterface (stage : Stage) {k : Nat} {i : Interface}
    (h : stage.tasks[k]? = some (e.task i)) :
    ∃ schedule, stage.run schedule = ⟨(e.emitInterface stage.output i).value.output,
      stage.tasks.set k ⟨[], (e.emitInterface stage.output i).value.failure⟩⟩ := by
  rw [value_emitInterface]
  rw [task] at h
  cases hfiles : e.files i with
  | ok files =>
      rw [hfiles] at h
      exact stage.exists_run_emitAll h
  | error f =>
      rw [hfiles] at h
      obtain ⟨hlt, hk⟩ := List.getElem?_eq_some_iff.mp h
      exact ⟨[], congrArg (Stage.mk stage.output) (hk ▸ List.set_getElem_self hlt).symm⟩

/-- Emitting the interfaces one after another is a schedule. -/
theorem exists_run_emitInterfaces (e : Emitter) (o : Output) (before : List Task)
    (contracts : List Interface) :
    ∃ schedule, (Stage.mk o (before ++ contracts.map e.task)).run schedule =
      ⟨(e.emitInterfaces o contracts).value.1,
        before ++ (e.emitInterfaces o contracts).value.2.map (fun r => ⟨[], r.2⟩)⟩ := by
  -- The tasks in front are those that have come to their end already.
  induction contracts generalizing o before with
  | nil => exact ⟨[], rfl⟩
  | cons i rest ih =>
      obtain ⟨first, hfirst⟩ := exists_run_emitInterface (e := e) (i := i) (k := before.length)
        ⟨o, before ++ (i :: rest).map e.task⟩ (by simp)
      let done : Task := ⟨[], (e.emitInterface o i).value.failure⟩
      obtain ⟨others, hothers⟩ := ih (e.emitInterface o i).value.output (before ++ [done])
      refine ⟨first ++ others, ?_⟩
      have hset : (before ++ (i :: rest).map e.task).set before.length done =
          before ++ [done] ++ rest.map e.task := by simp
      rw [Stage.run_append, hfirst, hset, hothers, emitInterfaces]
      simp [done]

theorem map_fst_emitInterfaces (e : Emitter) (o : Output) (contracts : List Interface) :
    (e.emitInterfaces o contracts).value.2.map Prod.fst = contracts := by
  induction contracts generalizing o with
  | nil => rfl
  | cons i rest ih => exact congrArg (i :: ·) (ih _)

/-- Emitting one interface after another comes to an end as one of the schedules does. -/
theorem exists_report_eq_conclude (e : Emitter) (s : Settings) (contracts : List Interface) :
    ∃ schedule, e.Completes contracts schedule ∧ e.report s contracts schedule =
      e.conclude s (e.emitInterfaces .empty contracts).value.1
        (e.emitInterfaces .empty contracts).value.2 := by
  obtain ⟨schedule, hrun⟩ := exists_run_emitInterfaces e .empty [] contracts
  rw [List.nil_append, List.nil_append] at hrun
  change (e.start contracts).run schedule = _ at hrun
  refine ⟨schedule, fun t ht => ?_, ?_⟩
  · rw [hrun] at ht
    obtain ⟨r, -, rfl⟩ := List.mem_map.mp ht
    rfl
  · have hresults := List.zip_of_prod (map_fst_emitInterfaces e .empty contracts) rfl
    rw [report, hrun]
    dsimp only
    rw [List.map_map]
    exact congrArg (fun results => e.conclude s _ results) hresults.symm

/-- **A run that emits one interface after another is a run with a schedule.** -/
theorem exists_report_eq_emit (e : Emitter) (s : Settings) (contracts : List Interface) :
    ∃ schedule, e.Completes contracts schedule ∧
      (e.report s contracts schedule).value = (e.emit s contracts).value := by
  obtain ⟨schedule, hdone, hreport⟩ := exists_report_eq_conclude e s contracts
  refine ⟨schedule, hdone, ?_⟩
  rw [hreport]
  rfl

/-- Interfaces that have no file name in common may be emitted in any order. -/
theorem Apart.report_eq (h : e.Apart contracts) (s : Settings) {p q : List Nat}
    (hp : e.Completes contracts p) (hq : e.Completes contracts q) :
    e.report s contracts p = e.report s contracts q := by
  rw [report, report, h.start.run_eq hp hq]

end Emitter
end ClientSynth
