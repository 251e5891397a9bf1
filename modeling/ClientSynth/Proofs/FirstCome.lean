import Mathlib.Data.List.Nodup
import ClientSynth.Proofs.Schedule
import ClientSynth.Proofs.Success
import ClientSynth.Proofs.UnitName

/-! # Names that two interfaces have in common

A file name belongs to the interface that emits it first.  If two interfaces of a
run have one in common, either of them may come first, and then the other is not
in the output: the report depends on the schedule exactly if there are two such
interfaces. -/
namespace ClientSynth

open Contract

namespace Output

variable {o : Output} {files : List GeneratedUnit} {u : GeneratedUnit}

theorem contains_addingAll {fileName : String} : (o.addingAll files).contains fileName = true ↔
    fileName ∈ files.map GeneratedUnit.fileName ∨ o.contains fileName = true := by
  induction files generalizing o with
  | nil => simp [addingAll]
  | cons u rest ih =>
      rw [addingAll, List.foldl_cons, ← addingAll, ih, contains_adding, List.map_cons,
        List.mem_cons]
      tauto

/-- All files are accepted exactly if their names are different and free. -/
theorem emitAll_complete_iff : (o.emitAll files).failure = none ↔
    (files.map GeneratedUnit.fileName).Nodup ∧ ∀ u ∈ files, o.contains u.fileName = false := by
  induction files generalizing o with
  | nil => simp [emitAll_nil]
  | cons u rest ih =>
      cases hu : o.contains u.fileName with
      | true => simp [emitAll_taken hu, hu]
      | false =>
          rw [emitAll_free hu, ih, List.map_cons, List.nodup_cons, List.forall_mem_cons,
            and_iff_right hu]
          simp only [Bool.eq_false_iff, ne_eq, contains_adding, not_or, forall_and]
          have hmem : (∀ v ∈ rest, ¬ v.fileName = u.fileName) ↔
              u.fileName ∉ rest.map GeneratedUnit.fileName := by simp
          rw [hmem]
          tauto

theorem output_emitAll (h : (o.emitAll files).failure = none) :
    (o.emitAll files).output = o.addingAll files := by
  rcases o.emitAll_spec files with hall | ⟨accepted, refused, rest, -, -, hstop⟩
  · rw [hall]
  · rw [hstop] at h
    cases h

end Output

namespace Stage

variable {s : Stage} {j k : Nat} {t : Task}

/-- A task that has come to its end stays as it is. -/
theorem tasks_step_of_done (h : s.tasks[j]? = some t) (hdone : t.pending = []) (k : Nat) :
    (s.step k).tasks[j]? = some t := by
  by_cases hjk : j = k
  · subst hjk
    have hlt : j < s.tasks.length := (List.getElem?_eq_some_iff.mp h).1
    rw [step_some h, Task.advance_done hdone, List.getElem?_set_self hlt]
  · rw [tasks_step_ne hjk, h]

theorem tasks_run_of_done (h : s.tasks[j]? = some t) (hdone : t.pending = [])
    (schedule : List Nat) : (s.run schedule).tasks[j]? = some t := by
  induction schedule generalizing s with
  | nil => exact h
  | cons k rest ih => exact ih (tasks_step_of_done h hdone k)

theorem length_run (s : Stage) (schedule : List Nat) :
    (s.run schedule).tasks.length = s.tasks.length := by
  induction schedule generalizing s with
  | nil => rfl
  | cons k rest ih => exact (ih (s.step k)).trans (s.length_step k)

/-- The `k`th task, if there is one, has no file left. -/
def IsDoneAt (s : Stage) (k : Nat) : Prop := ∀ t, s.tasks[k]? = some t → t.pending = []

theorem IsDoneAt.run (h : s.IsDoneAt k) (schedule : List Nat) : (s.run schedule).IsDoneAt k := by
  intro t ht
  cases hk : s.tasks[k]? with
  | none =>
      rw [List.getElem?_eq_none_iff, ← s.length_run schedule, ← List.getElem?_eq_none_iff, ht] at hk
      cases hk
  | some before =>
      rw [tasks_run_of_done hk (h before hk) schedule] at ht
      cases ht
      exact h t hk

/-- Every task can be brought to its end: each of its steps leaves fewer files. -/
theorem exists_run_isDoneAt (s : Stage) (k : Nat) : ∃ schedule, (s.run schedule).IsDoneAt k := by
  cases h : s.tasks[k]? with
  | none => exact ⟨[], fun t ht => nomatch h.symm.trans ht⟩
  | some t =>
      induction hp : t.pending generalizing s t with
      | nil => exact ⟨[], fun _ ht => Option.some.inj (h.symm.trans ht) ▸ hp⟩
      | cons u rest ih =>
          have hlt : k < s.tasks.length := (List.getElem?_eq_some_iff.mp h).1
          have hstep : (s.step k).tasks[k]? = some (t.advance s.output).2 := by
            rw [step_some h, List.getElem?_set_self hlt]
          cases hu : s.output.contains u.fileName with
          | true =>
              rw [Task.advance_taken hp hu] at hstep
              exact ⟨[k], fun _ ht => Option.some.inj (hstep.symm.trans ht) ▸ rfl⟩
          | false =>
              obtain ⟨schedule, hdone⟩ :=
                ih (s.step k) _ hstep (by rw [Task.advance_free hp hu])
              exact ⟨k :: schedule, hdone⟩

theorem exists_run_isDoneBelow (s : Stage) (n : Nat) :
    ∃ schedule, ∀ k < n, (s.run schedule).IsDoneAt k := by
  induction n with
  | zero => exact ⟨[], fun k hk => absurd hk (Nat.not_lt_zero k)⟩
  | succ n ih =>
      obtain ⟨schedule, hbelow⟩ := ih
      obtain ⟨more, hmore⟩ := exists_run_isDoneAt (s.run schedule) n
      refine ⟨schedule ++ more, fun k hk => ?_⟩
      rw [run_append]
      rcases Nat.lt_succ_iff_lt_or_eq.mp hk with hlt | rfl
      · exact (hbelow k hlt).run more
      · exact hmore

/-- Every stage can be brought to an end, one task after another. -/
theorem exists_isDone (s : Stage) : ∃ schedule, (s.run schedule).IsDone := by
  obtain ⟨schedule, hbelow⟩ := s.exists_run_isDoneBelow s.tasks.length
  refine ⟨schedule, fun t ht => ?_⟩
  obtain ⟨k, hk, rfl⟩ := List.mem_iff_getElem.mp ht
  exact hbelow k (s.length_run schedule ▸ hk) _ (List.getElem?_eq_getElem hk)

/-- **The task that comes first gets the name.** -/
theorem exists_first {files more : List GeneratedUnit} {u v : GeneratedUnit} (hjk : j ≠ k)
    (hj : s.tasks[j]? = some ⟨files, none⟩) (hk : s.tasks[k]? = some ⟨more, none⟩)
    (hfiles : (s.output.emitAll files).failure = none) (hu : u ∈ files) (hv : v ∈ more)
    (hsame : u.fileName = v.fileName) :
    ∃ schedule, (s.run schedule).IsDone ∧ (s.run schedule).tasks[j]? = some ⟨[], none⟩ ∧
      ∃ f, (s.run schedule).tasks[k]? = some ⟨[], some f⟩ := by
  have hjlt : j < s.tasks.length := (List.getElem?_eq_some_iff.mp hj).1
  have hklt : k < s.tasks.length := (List.getElem?_eq_some_iff.mp hk).1
  -- All files of the one, then all of the other, then whatever is left.
  obtain ⟨first, hfirst⟩ := exists_run_emitAll s hj
  have hk' : (s.run first).tasks[k]? = some ⟨more, none⟩ := by
    rw [hfirst, List.getElem?_set_ne hjk, hk]
  obtain ⟨second, hsecond⟩ := exists_run_emitAll (s.run first) hk'
  obtain ⟨rest, hrest⟩ := exists_isDone ((s.run first).run second)
  have htaken : (s.run first).output.contains v.fileName = true := by
    rw [hfirst, Output.output_emitAll hfiles, Output.contains_addingAll]
    exact Or.inl (hsame ▸ List.mem_map_of_mem hu)
  obtain ⟨f, hf⟩ : ∃ f, ((s.run first).output.emitAll more).failure = some f := by
    refine Option.ne_none_iff_exists'.mp (fun hnone => ?_)
    rw [(Output.emitAll_complete_iff.mp hnone).2 v hv] at htaken
    cases htaken
  refine ⟨first ++ second ++ rest, ?_, ?_, f, ?_⟩
  · rwa [run_append, run_append]
  · rw [run_append, run_append]
    refine tasks_run_of_done ?_ rfl rest
    rw [hsecond, List.getElem?_set_ne hjk.symm, hfirst, List.getElem?_set_self hjlt, hfiles]
  · rw [run_append, run_append]
    refine tasks_run_of_done ?_ rfl rest
    rw [hsecond, List.getElem?_set_self (by rwa [length_run]), hf]

end Stage

namespace Emitter

variable {e : Emitter} {s : Settings} {contracts : List Interface} {i : Interface}

/-- A task that has something to emit has rendered all files of its interface. -/
theorem task_of_mem {u : GeneratedUnit} (h : u ∈ (e.task i).pending) :
    ∃ files, u ∈ files ∧ e.task i = ⟨files, none⟩ ∧ e.files i = .ok files := by
  unfold task at h ⊢
  cases hfiles : e.files i with
  | ok files =>
      rw [hfiles] at h
      exact ⟨files, h, rfl, rfl⟩
  | error f =>
      rw [hfiles] at h
      cases h

theorem fileName_file {unit : CodeUnit} {u : GeneratedUnit} (h : e.file unit = .ok u) :
    u.fileName = Code.Identifier.fileName unit.name := by
  obtain ⟨text, -, hu⟩ := Success.bind_eq_ok.mp h
  cases hu
  rfl

theorem name_file {unit : CodeUnit} {u : GeneratedUnit} (h : e.file unit = .ok u) :
    u.name = unit.name := by
  obtain ⟨text, -, hu⟩ := Success.bind_eq_ok.mp h
  cases hu
  rfl

/-- What files have from their units they have in the same order. -/
theorem map_mapM_file {α : Type} {ofFile : GeneratedUnit → α} {ofUnit : CodeUnit → α}
    (hsame : ∀ {unit u}, e.file unit = .ok u → ofFile u = ofUnit unit) {units : List CodeUnit}
    {files : List GeneratedUnit} (h : units.mapM e.file = .ok files) :
    files.map ofFile = units.map ofUnit := by
  induction units generalizing files with
  | nil =>
      cases h
      rfl
  | cons unit rest ih =>
      rw [List.mapM_cons] at h
      obtain ⟨u, hu, hrest⟩ := Success.bind_eq_ok.mp h
      obtain ⟨more, hmore, hfiles⟩ := Success.bind_eq_ok.mp hrest
      cases hfiles
      rw [List.map_cons, List.map_cons, hsame hu, ih hmore]

/-- An interface whose files can be rendered can be emitted when nothing else has been. -/
theorem emitAll_files {files : List GeneratedUnit} (h : e.files i = .ok files) :
    (Output.empty.emitAll files).failure = none := by
  refine Output.emitAll_complete_iff.mpr ⟨?_, fun u _ => rfl⟩
  rw [map_mapM_file fileName_file h]
  exact Layer.fileNames_nodup i e.options

theorem reported_conclude (e : Emitter) (s : Settings) (o : Output)
    (results : List (Interface × Option Failure)) : (e.conclude s o results).value.2 =
      results.filterMap (fun r => if r.2.isNone then some r.1 else none) := by
  unfold conclude
  cases s.emitsSupport <;> cases s.emitsIndex <;> rfl

/-- An interface is reported exactly if its task has not failed. -/
theorem mem_report {schedule : List Nat} : i ∈ (e.report s contracts schedule).value.2 ↔
    ∃ (k : Nat) (t : Task), contracts[k]? = some i ∧
      ((e.start contracts).run schedule).tasks[k]? = some t ∧ t.failure = none := by
  have hreported : (e.report s contracts schedule).value.2 =
      (contracts.zip (((e.start contracts).run schedule).tasks.map Task.failure)).filterMap
        (fun r => if r.2.isNone then some r.1 else none) := reported_conclude ..
  rw [hreported, List.mem_filterMap]
  constructor
  · rintro ⟨⟨j, failure⟩, hmem, hj⟩
    obtain ⟨k, hk⟩ := List.mem_iff_getElem?.mp hmem
    -- Contracts and tasks stand at the same places.
    rw [List.getElem?_zip_eq_some, List.getElem?_map, Option.map_eq_some_iff] at hk
    obtain ⟨hcontract, t, ht, hfailure⟩ := hk
    dsimp only at hj hcontract hfailure
    split at hj
    · next hnone =>
      cases hj
      exact ⟨k, t, hcontract, ht, hfailure.trans (Option.isNone_iff_eq_none.mp hnone)⟩
    · cases hj
  · rintro ⟨k, t, hcontract, ht, hfailure⟩
    refine ⟨(i, none), List.mem_iff_getElem?.mpr ⟨k, ?_⟩, rfl⟩
    rw [List.getElem?_zip_eq_some, List.getElem?_map, ht, Option.map_some, hfailure]
    exact ⟨hcontract, rfl⟩

/-- Of two interfaces with a file name in common, either may be the one that is reported. -/
theorem exists_report_of_shared (hnames : (contracts.map Interface.name).Nodup) {j k : Nat}
    (hjk : j ≠ k) {a b : Interface} (ha : contracts[j]? = some a) (hb : contracts[k]? = some b)
    {u v : GeneratedUnit} (hu : u ∈ (e.task a).pending) (hv : v ∈ (e.task b).pending)
    (hsame : u.fileName = v.fileName) :
    ∃ schedule, e.Completes contracts schedule ∧
      a ∈ (e.report s contracts schedule).value.2 ∧
      b ∉ (e.report s contracts schedule).value.2 := by
  obtain ⟨files, hufiles, htaska, hfiles⟩ := task_of_mem hu
  obtain ⟨more, hvmore, htaskb, -⟩ := task_of_mem hv
  have hstart : ∀ {n : Nat} {i : Interface}, contracts[n]? = some i →
      (e.start contracts).tasks[n]? = some (e.task i) := fun h => by
    rw [start, List.getElem?_map, h, Option.map_some]
  obtain ⟨schedule, hdone, hj, f, hk⟩ := Stage.exists_first hjk (htaska ▸ hstart ha)
    (htaskb ▸ hstart hb) (emitAll_files hfiles) hufiles hvmore hsame
  refine ⟨schedule, hdone, mem_report.mpr ⟨j, _, ha, hj, rfl⟩, fun hmem => ?_⟩
  obtain ⟨n, t, hn, ht, hfailure⟩ := mem_report.mp hmem
  have hlt : n < contracts.length := (List.getElem?_eq_some_iff.mp hn).1
  -- With distinct names it stands in one place only, and its task there has failed.
  obtain rfl : n = k := (List.getElem?_inj hlt (List.Nodup.of_map _ hnames)).mp (hn.trans hb.symm)
  rw [hk] at ht
  cases ht
  cases hfailure

/-- **The report does not depend on the schedule exactly if no two interfaces have a file
name in common.**  Emitting one interface after another is one of the schedules. -/
theorem report_independent_iff (e : Emitter) (s : Settings) (contracts : List Interface)
    (hnames : (contracts.map Interface.name).Nodup) :
    ((∀ p q, e.Completes contracts p → e.Completes contracts q →
        (e.report s contracts p).value = (e.report s contracts q).value) ↔ e.Apart contracts) ∧
    ∃ schedule, e.Completes contracts schedule ∧
      (e.report s contracts schedule).value = (e.emit s contracts).value := by
  refine ⟨⟨fun hall => ?_, fun h p q hp hq => congrArg Reported.value (h.report_eq s hp hq)⟩,
    exists_report_eq_emit e s contracts⟩
  refine List.pairwise_iff_getElem.mpr (fun j k hj hk hjk u hu v hv hsame => ?_)
  have ha := List.getElem?_eq_getElem hj
  have hb := List.getElem?_eq_getElem hk
  obtain ⟨p, hp, hmem, -⟩ :=
    exists_report_of_shared (s := s) hnames (Nat.ne_of_lt hjk) ha hb hu hv hsame
  obtain ⟨q, hq, -, hnot⟩ :=
    exists_report_of_shared (s := s) hnames (Nat.ne_of_gt hjk) hb ha hv hu hsame.symm
  rw [hall p q hp hq] at hmem
  exact hnot hmem

/-- A client without a wrap layer. -/
def accountApi : Interface := pingApi "IAccountApi" none

/-- Settings for one contract document. -/
def plainSettings : Settings := .ofContract "ping" "api.yaml" "out"

theorem files_accountApi : plainEmitter.files accountApi =
    .ok [plainFileOf "AccountApi" "account_api.rs"] := by
  with_unfolding_all rfl

theorem start_accountApi_userApi : plainEmitter.start [accountApi, userApi] =
    ⟨.empty, [⟨[plainFileOf "AccountApi" "account_api.rs"], none⟩,
      ⟨[plainFileOf "UserApi" "user_api.rs", plainFileOf "IUserApi.Wrap" "i_user_api_wrap.rs",
        plainFileOf "IUserApi.WrapImpl" "i_user_api_wrap_impl.rs"], none⟩]⟩ := by
  simp only [start, task, List.map_cons, List.map_nil, files_accountApi, files_userApi]

theorem accountApi_userApi_independent :
    ([accountApi, userApi].map Interface.name).Nodup ∧
    (plainEmitter.report plainSettings [accountApi, userApi] [1, 0, 1, 1]).value =
      (plainEmitter.report plainSettings [accountApi, userApi] [1, 1, 1, 0]).value := by
  have hnames : ([accountApi, userApi].map Interface.name).Nodup := by decide
  have hapart : plainEmitter.Apart [accountApi, userApi] := by
    simp [Apart, Task.Apart, task, files_accountApi, files_userApi, plainFileOf]
  refine ⟨hnames, ((report_independent_iff _ _ _ hnames).1.mpr hapart) _ _ ?_ ?_⟩ <;>
    rw [Completes, start_accountApi_userApi]
  · unfold Stage.IsDone
    decide
  · unfold Stage.IsDone
    decide

theorem start_userWrapApi_userApi : plainEmitter.start [userWrapApi, userApi] =
    ⟨.empty, [⟨[plainFileOf "IUserApiWrap" "i_user_api_wrap.rs"], none⟩,
      ⟨[plainFileOf "UserApi" "user_api.rs", plainFileOf "IUserApi.Wrap" "i_user_api_wrap.rs",
        plainFileOf "IUserApi.WrapImpl" "i_user_api_wrap_impl.rs"], none⟩]⟩ := by
  simp only [start, task, List.map_cons, List.map_nil, files_userWrapApi, files_userApi]

/-- **Which interfaces a run reports depends on the schedule.** -/
theorem report_depends_on_schedule :
    ¬ ∀ (e : Emitter) (s : Settings) (contracts : List Interface),
      (contracts.map Interface.name).Nodup →
      ∀ p q, e.Completes contracts p → e.Completes contracts q →
        (e.report s contracts p).value = (e.report s contracts q).value := by
  intro hall
  have hsame := hall plainEmitter plainSettings [userWrapApi, userApi] (by decide)
    [0, 1, 1, 1] [1, 1, 1, 0]
    (by rw [Completes, start_userWrapApi_userApi]; unfold Stage.IsDone; decide)
    (by rw [Completes, start_userWrapApi_userApi]; unfold Stage.IsDone; decide)
  have hreported := congrArg (fun r => r.2.map Interface.name) hsame
  simp only [report, reported_conclude, start_userWrapApi_userApi] at hreported
  exact absurd hreported (by decide)

end Emitter
end ClientSynth
