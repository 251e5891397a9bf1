import ClientSynth.Proofs.Acceptance
import ClientSynth.Proofs.Accounting
import ClientSynth.Proofs.Expansion
import ClientSynth.Proofs.Merge
import ClientSynth.Proofs.Registration

/-! # What a run reports

Each interface of a run is either reported, and then all of its files are in the output as
they were rendered, or it has failed, and then one report says so and no entry point
registers it.  The tasks may take turns in any order.  What they have brought into the
output stays there while the files of the whole run are added: the registration unit, the
support unit and the index.  That goes for the files of an interface that fails later, too. -/
namespace ClientSynth

open Contract
open Diagnostic (Location)

namespace Emitter

variable {e : Emitter} {s : Settings} {contracts interfaces : List Interface} {i : Interface}
  {o : Output} {u : GeneratedUnit} {d : Diagnostic} {schedule : List Nat}

/-! ### The files of the whole run -/

/-- A file that is not of one interface. -/
inductive IsRunFile (e : Emitter) (interfaces : List Interface) : GeneratedUnit → Prop
  /-- That of the registration unit of the given interfaces. -/
  | registration {unit : CodeUnit} {u : GeneratedUnit}
      (hunit : Layer.registrationUnit interfaces e.options = some unit)
      (hfile : e.file unit = .ok u) : IsRunFile e interfaces u
  | support {u : GeneratedUnit}
      (hfile : plainFile Layer.supportUnitName e.templates.renderSupport = .ok u) :
      IsRunFile e interfaces u
  /-- That of the index, which lists the modules of some output. -/
  | index {o : Output} {u : GeneratedUnit}
      (hfile : plainFile Layer.indexUnitName (e.templates.renderIndex (listedModules o)) = .ok u) :
      IsRunFile e interfaces u

/-- The report that one of these files could not be added. -/
def IsRunFailure (d : Diagnostic) : Prop :=
  ∃ name ∈ [Layer.registrationUnitName, Layer.supportUnitName, Layer.indexUnitName],
    ∃ f, d = generationFailed name f ⟨"", name⟩

/-- The step from an output to this result adds files of the whole run at most, and reports
at most that one could not be added. -/
structure AddsRunFiles (e : Emitter) (interfaces : List Interface) (o : Output)
    (result : Reported Output) : Prop where
  accepts : ∃ files, o.Accepts files result.value ∧ ∀ u ∈ files, e.IsRunFile interfaces u
  reports : ∀ d ∈ result.log, IsRunFailure d

theorem AddsRunFiles.extends {result : Reported Output}
    (h : e.AddsRunFiles interfaces o result) : o.Extends result.value := by
  obtain ⟨files, hfiles, -⟩ := h.accepts
  exact ⟨files, hfiles⟩

theorem addsRunFiles_silent (o : Output) : e.AddsRunFiles interfaces o (.silent o) :=
  ⟨⟨[], .nil o, by simp⟩, fun _ hd => absurd hd List.not_mem_nil⟩

theorem AddsRunFiles.bind {first : Reported Output} {next : Output → Reported Output}
    (hfirst : e.AddsRunFiles interfaces o first)
    (hnext : e.AddsRunFiles interfaces first.value (next first.value)) :
    e.AddsRunFiles interfaces o (first >>= next) := by
  obtain ⟨files, hfiles, hof⟩ := hfirst.accepts
  obtain ⟨more, hmore, hmoreOf⟩ := hnext.accepts
  refine ⟨⟨files ++ more, hfiles.append hmore, fun u hu => ?_⟩, fun d hd => ?_⟩
  · rcases List.mem_append.mp hu with hu | hu
    · exact hof u hu
    · exact hmoreOf u hu
  · rcases List.mem_append.mp hd with hd | hd
    · exact hfirst.reports d hd
    · exact hnext.reports d hd

theorem addsRunFiles_settle {name : String} {file : Except Failure GeneratedUnit}
    (hname : name ∈ [Layer.registrationUnitName, Layer.supportUnitName, Layer.indexUnitName])
    (hfile : ∀ u, file = .ok u → e.IsRunFile interfaces u) :
    e.AddsRunFiles interfaces o (settle name (o.emitOne file)) := by
  obtain ⟨files, hfiles, hof⟩ := o.accepts_emitOne file
  refine ⟨⟨files, hfiles, fun u hu => hfile u (hof u hu)⟩, fun d hd => ?_⟩
  obtain ⟨f, -, rfl⟩ := Option.map_eq_some_iff.mp (Option.mem_toList.mp hd)
  exact ⟨name, hname, f, rfl⟩

theorem addsRunFiles_registration (o : Output) :
    e.AddsRunFiles interfaces o (e.emitRegistration o interfaces) := by
  rw [emitRegistration]
  cases hunit : Layer.registrationUnit interfaces e.options with
  | none => exact addsRunFiles_silent o
  | some unit =>
      have hname := Layer.name_registrationUnit hunit
      exact addsRunFiles_settle (by simp [hname]) (fun u hu => .registration hunit hu)

/-- Add the support unit, if it is asked for. -/
def withSupport (e : Emitter) (s : Settings) (o : Output) : Reported Output :=
  if s.emitsSupport then e.emitSupport o else pure o

/-- Add the index, if it is asked for. -/
def withIndex (e : Emitter) (s : Settings) (o : Output) : Reported Output :=
  if s.emitsIndex then e.emitIndex o else pure o

theorem addsRunFiles_withSupport (interfaces : List Interface) (o : Output) :
    e.AddsRunFiles interfaces o (e.withSupport s o) := by
  rw [withSupport]
  split
  · exact addsRunFiles_settle (by simp) (fun u hu => .support hu)
  · exact addsRunFiles_silent o

theorem addsRunFiles_withIndex (interfaces : List Interface) (o : Output) :
    e.AddsRunFiles interfaces o (e.withIndex s o) := by
  rw [withIndex]
  split
  · exact addsRunFiles_settle (by simp) (fun u hu => .index hu)
  · exact addsRunFiles_silent o

/-- Add all files of the whole run. -/
def finish (e : Emitter) (s : Settings) (interfaces : List Interface) (o : Output) :
    Reported Output :=
  e.emitRegistration o interfaces >>= e.withSupport s >>= e.withIndex s

/-- The outputs on the way. -/
def closingOutputs (e : Emitter) (s : Settings) (interfaces : List Interface) (o : Output) :
    List Output :=
  let registered := (e.emitRegistration o interfaces).value
  let supported := (e.withSupport s registered).value
  [registered, supported, (e.withIndex s supported).value]

theorem addsRunFiles_finish (e : Emitter) (s : Settings) (interfaces : List Interface)
    (o : Output) : e.AddsRunFiles interfaces o (e.finish s interfaces o) :=
  ((addsRunFiles_registration o).bind (addsRunFiles_withSupport _ _)).bind
    (addsRunFiles_withIndex _ _)

theorem pairwise_closingOutputs (e : Emitter) (s : Settings) (interfaces : List Interface)
    (o : Output) : (o :: e.closingOutputs s interfaces o).Pairwise Output.Extends := by
  let registered := (e.emitRegistration o interfaces).value
  let supported := (e.withSupport s registered).value
  let indexed := (e.withIndex s supported).value
  have hregistered : o.Extends registered := (addsRunFiles_registration o).extends
  have hsupported : registered.Extends supported :=
    (addsRunFiles_withSupport interfaces registered).extends
  have hindexed : supported.Extends indexed :=
    (addsRunFiles_withIndex interfaces supported).extends
  have hchain : [o, registered, supported, indexed].IsChain Output.Extends := by
    simp [hregistered, hsupported, hindexed]
  exact hchain.pairwise

/-- A run ends with the reports of its failures and the files of the whole run. -/
theorem conclude_eq (e : Emitter) (s : Settings) (o : Output)
    (results : List (Interface × Option Failure)) :
    e.conclude s o results =
      let emitted := results.filterMap (fun r => if r.2.isNone then some r.1 else none)
      let finished := e.finish s emitted o
      ⟨(finished.value, emitted),
        results.filterMap (fun r => r.2.map (interfaceFailed r.1)) ++ finished.log⟩ := by
  unfold conclude finish withSupport withIndex
  -- Only the brackets around the reports differ.
  cases s.emitsSupport <;> cases s.emitsIndex <;>
    exact congrArg (Reported.mk _) (by simp)

/-! ### What the interfaces come to -/

/-- What each interface of a run comes to: a failure, or none. -/
def outcomes (e : Emitter) (contracts : List Interface) (schedule : List Nat) :
    List (Interface × Option Failure) :=
  contracts.zip (((e.start contracts).run schedule).tasks.map Task.failure)

/-- The interfaces that have failed, and why. -/
def failed (e : Emitter) (contracts : List Interface) (schedule : List Nat) :
    List (Interface × Failure) :=
  (e.outcomes contracts schedule).filterMap (fun r => r.2.map (fun f => (r.1, f)))

/-- The interfaces that have not. -/
def emitted (e : Emitter) (contracts : List Interface) (schedule : List Nat) : List Interface :=
  (e.outcomes contracts schedule).filterMap (fun r => if r.2.isNone then some r.1 else none)

theorem value_report (e : Emitter) (s : Settings) (contracts : List Interface)
    (schedule : List Nat) : (e.report s contracts schedule).value =
      ((e.finish s (e.emitted contracts schedule)
        ((e.start contracts).run schedule).output).value, e.emitted contracts schedule) := by
  rw [report, conclude_eq]
  rfl

theorem log_report (e : Emitter) (s : Settings) (contracts : List Interface)
    (schedule : List Nat) : (e.report s contracts schedule).log =
      (e.failed contracts schedule).map (fun r => interfaceFailed r.1 r.2) ++
        (e.finish s (e.emitted contracts schedule)
          ((e.start contracts).run schedule).output).log := by
  have hfailures : (e.outcomes contracts schedule).filterMap
        (fun r => r.2.map (interfaceFailed r.1)) =
      (e.failed contracts schedule).map (fun r => interfaceFailed r.1 r.2) := by
    rw [failed, List.map_filterMap]
    simp only [Option.map_map, Function.comp_def]
  rw [report, conclude_eq, ← hfailures]
  rfl

theorem map_fst_outcomes (e : Emitter) (contracts : List Interface) (schedule : List Nat) :
    (e.outcomes contracts schedule).map Prod.fst = contracts := by
  refine List.map_fst_zip (Nat.le_of_eq ?_)
  rw [List.length_map, Stage.length_run, start, List.length_map]

theorem mem_emitted : i ∈ e.emitted contracts schedule ↔
    (i, none) ∈ e.outcomes contracts schedule := by
  rw [emitted, List.mem_filterMap]
  constructor
  · rintro ⟨⟨j, failure⟩, hmem, hj⟩
    dsimp only at hj
    split at hj
    · next hnone =>
      cases hj
      exact Option.isNone_iff_eq_none.mp hnone ▸ hmem
    · cases hj
  · exact fun hmem => ⟨(i, none), hmem, rfl⟩

theorem mem_failed {f : Failure} : (i, f) ∈ e.failed contracts schedule ↔
    (i, some f) ∈ e.outcomes contracts schedule := by
  rw [failed, List.mem_filterMap]
  constructor
  · rintro ⟨⟨j, failure⟩, hmem, hj⟩
    obtain ⟨g, rfl, hg⟩ := Option.map_eq_some_iff.mp hj
    cases hg
    exact hmem
  · exact fun hmem => ⟨(i, some f), hmem, rfl⟩

/-- Every interface has failed or has not. -/
theorem mem_emitted_or_failed (hi : i ∈ contracts) :
    i ∈ e.emitted contracts schedule ∨ ∃ f, (i, f) ∈ e.failed contracts schedule := by
  rw [← map_fst_outcomes e contracts schedule] at hi
  obtain ⟨⟨j, failure⟩, hj, rfl⟩ := List.mem_map.mp hi
  cases failure with
  | none => exact Or.inl (mem_emitted.mpr hj)
  | some f => exact Or.inr ⟨f, mem_failed.mpr hj⟩

/-- Interfaces are reported in their order. -/
theorem emitted_sublist (e : Emitter) (contracts : List Interface) (schedule : List Nat) :
    (e.emitted contracts schedule).Sublist contracts := by
  have hkept : ∀ (r : Interface × Option Failure) (i : Interface),
      (if r.2.isNone then some r.1 else none) = some i → id i = r.1 := by
    intro r i h
    split at h
    · exact (Option.some.inj h).symm
    · cases h
  have hsublist := map_filterMap_sublist hkept (e.outcomes contracts schedule)
  rwa [List.map_id, map_fst_outcomes] at hsublist

section Distinct
variable (hnames : (contracts.map Interface.name).Nodup)
include hnames

theorem names_outcomes_nodup :
    ((e.outcomes contracts schedule).map (fun r => r.1.name)).Nodup := by
  have hmap := congrArg (List.map Interface.name) (map_fst_outcomes e contracts schedule)
  rw [List.map_map] at hmap
  exact hmap ▸ hnames

/-- With distinct names, an interface that has failed is none of those that have not. -/
theorem name_ne_of_mem_failed {j : Interface} {f : Failure}
    (hi : i ∈ e.emitted contracts schedule) (hj : (j, f) ∈ e.failed contracts schedule) :
    i.name ≠ j.name := by
  intro hname
  have hsame := List.inj_on_of_nodup_map (names_outcomes_nodup hnames) (mem_emitted.mp hi)
    (mem_failed.mp hj) hname
  cases hsame

theorem name_not_mem_failed (hi : i ∈ e.emitted contracts schedule) :
    i.name ∉ (e.failed contracts schedule).map (fun r => r.1.name) := by
  intro hname
  obtain ⟨⟨j, f⟩, hj, hsame⟩ := List.mem_map.mp hname
  exact name_ne_of_mem_failed hnames hi hj hsame.symm

theorem names_failed_nodup :
    ((e.failed contracts schedule).map (fun r => r.1.name)).Nodup := by
  refine nodup_filterMap (fun r q hq => ?_) (names_outcomes_nodup hnames)
  obtain ⟨f, -, rfl⟩ := Option.map_eq_some_iff.mp hq
  rfl

end Distinct

/-- What an interface comes to is what its task comes to. -/
theorem exists_task_of_mem_outcomes {failure : Option Failure}
    (h : (i, failure) ∈ e.outcomes contracts schedule) :
    ∃ t ∈ ((e.start contracts).run schedule).tasks, t.failure = failure ∧
      (e.task i).Leaves ((e.start contracts).run schedule).output t := by
  obtain ⟨k, hk⟩ := List.mem_iff_getElem?.mp h
  rw [outcomes, List.getElem?_zip_eq_some, List.getElem?_map, Option.map_eq_some_iff] at hk
  obtain ⟨hcontract, t, ht, hfailure⟩ := hk
  have hstart : (e.start contracts).tasks[k]? = some (e.task i) := by
    rw [start, List.getElem?_map, hcontract, Option.map_some]
  exact ⟨t, List.mem_of_getElem? ht, hfailure, Stage.leaves_run _ schedule k _ t hstart ht⟩

/-- All files of an interface that has not failed are in the output. -/
theorem files_of_mem_emitted (hdone : e.Completes contracts schedule)
    (hi : i ∈ e.emitted contracts schedule) :
    ∃ files, e.files i = .ok files ∧
      ∀ u ∈ files, u ∈ ((e.start contracts).run schedule).output.units := by
  obtain ⟨t, ht, hfailure, hleaves⟩ := exists_task_of_mem_outcomes (mem_emitted.mp hi)
  obtain ⟨hrendered, hemitted⟩ := hleaves.complete (hdone t ht) hfailure
  unfold task at hrendered hemitted
  cases hfiles : e.files i with
  | ok files =>
      rw [hfiles] at hemitted
      exact ⟨files, rfl, hemitted⟩
  | error f =>
      rw [hfiles] at hrendered
      cases hrendered

/-- An interface fails if one of its units cannot be rendered, or the name of one of its
files is taken. -/
theorem cause_of_mem_failed {f : Failure} (hi : (i, f) ∈ e.failed contracts schedule) :
    e.files i = .error f ∨ ∃ files, e.files i = .ok files ∧ ∃ u ∈ files, f = Output.refusal u ∧
      ((e.start contracts).run schedule).output.contains u.fileName = true := by
  obtain ⟨t, -, hfailure, hleaves⟩ := exists_task_of_mem_outcomes (mem_failed.mp hi)
  rcases hleaves.refused f hfailure with hbefore | ⟨u, hu, hrefusal, htaken⟩
  · unfold task at hbefore
    cases hfiles : e.files i with
    | ok files =>
        rw [hfiles] at hbefore
        cases hbefore
    | error g =>
        rw [hfiles] at hbefore
        exact Or.inl (congrArg Except.error (Option.some.inj hbefore))
  · obtain ⟨files, hmem, -, hfiles⟩ := task_of_mem hu
    exact Or.inr ⟨files, hfiles, u, hmem, hrefusal, htaken⟩

/-! ### What a run comes to -/

/-- The reports of a run: those of the tasks, which build the units of their interfaces, and
those of its end. -/
def reports (e : Emitter) (s : Settings) (contracts : List Interface) (schedule : List Nat) :
    List Diagnostic :=
  contracts.flatMap (fun i => (Layer.interfaceUnits i e.options).log) ++
    (e.report s contracts schedule).log

theorem log_emitInterfaces (e : Emitter) (o : Output) (contracts : List Interface) :
    (e.emitInterfaces o contracts).log =
      contracts.flatMap (fun i => (Layer.interfaceUnits i e.options).log) := by
  induction contracts generalizing o with
  | nil => rfl
  | cons i rest ih =>
      rw [List.flatMap_cons, emitInterfaces, Reported.log_bind, Reported.log_bind, ih,
        Reported.log_pure, List.append_nil, emitInterface, Reported.log_bind, Reported.log_pure,
        List.append_nil]

/-- Emitting one interface after another reports what one of the schedules does. -/
theorem exists_reports_eq_emit (e : Emitter) (s : Settings) (contracts : List Interface) :
    ∃ schedule, e.Completes contracts schedule ∧
      (e.report s contracts schedule).value = (e.emit s contracts).value ∧
      e.reports s contracts schedule = (e.emit s contracts).log := by
  obtain ⟨schedule, hdone, hreport⟩ := exists_report_eq_conclude e s contracts
  refine ⟨schedule, hdone, ?_, ?_⟩
  · rw [hreport]
    rfl
  · rw [reports, hreport, emit, Reported.log_bind, log_emitInterfaces]

/-- Whether a report says that something could not be emitted. -/
def isFailure (d : Diagnostic) : Bool := d.code == .generationFailed

/-- How often a log says that something of this location could not be emitted. -/
def failuresAt (log : List Diagnostic) (location : Location) : Nat :=
  ((log.filter isFailure).map Diagnostic.location).count location

/-- The outputs that a run goes through. -/
def history (e : Emitter) (s : Settings) (contracts : List Interface) (schedule : List Nat) :
    List Output :=
  (e.start contracts).history schedule ++
    e.closingOutputs s (e.emitted contracts schedule) ((e.start contracts).run schedule).output

/-- An interface is reported, and complete. -/
structure IsReported (e : Emitter) (s : Settings) (contracts : List Interface)
    (schedule : List Nat) (i : Interface) : Prop where
  listed : i ∈ (e.report s contracts schedule).value.2
  /-- All files of its units are in the output as they were rendered. -/
  complete : ∃ files, e.files i = .ok files ∧
    ∀ u ∈ files, u ∈ (e.report s contracts schedule).value.1.units
  /-- It has not failed. -/
  succeeded : i.name ∉ (e.failed contracts schedule).map (fun r => r.1.name)
  /-- No report says that it has.  Reports on the files of the whole run have no source. -/
  quiet : i.source ≠ "" →
    failuresAt (e.reports s contracts schedule) ⟨i.source, i.name⟩ = 0

/-- An interface has failed, and it is neither reported nor registered. -/
structure IsLost (e : Emitter) (s : Settings) (contracts : List Interface)
    (schedule : List Nat) (i : Interface) : Prop where
  /-- A unit of it cannot be rendered, or the name of one of its files is taken. -/
  failed : ∃ f, (i, f) ∈ e.failed contracts schedule ∧
    (e.files i = .error f ∨ ∃ files, e.files i = .ok files ∧ ∃ u ∈ files,
      f = Output.refusal u ∧ (e.report s contracts schedule).value.1.contains u.fileName = true)
  /-- It has failed once. -/
  once : ((e.failed contracts schedule).map (fun r => r.1.name)).count i.name = 1
  /-- Exactly one report says so. -/
  reported : i.source ≠ "" →
    failuresAt (e.reports s contracts schedule) ⟨i.source, i.name⟩ = 1
  unlisted : i.name ∉ (e.report s contracts schedule).value.2.map Interface.name
  /-- No entry point registers it. -/
  unregistered : ∀ unit,
    Layer.registrationUnit (e.report s contracts schedule).value.2 e.options = some unit →
      ¬ Layer.Registers unit i.name

/-- What a run comes to. -/
structure ReportsEach (e : Emitter) (s : Settings) (contracts : List Interface)
    (schedule : List Nat) : Prop where
  /-- Every interface is reported or lost. -/
  each : ∀ i ∈ contracts, e.IsReported s contracts schedule i ∨ e.IsLost s contracts schedule i
  /-- The reported interfaces are in the order of the run. -/
  ordered : (e.report s contracts schedule).value.2.Sublist contracts
  /-- Every failure has its report, and all others that something could not be emitted are
  about files of the whole run. -/
  failures : ∃ others, (e.reports s contracts schedule).filter isFailure =
      (e.failed contracts schedule).map (fun r => interfaceFailed r.1 r.2) ++ others ∧
    ∀ d ∈ others, IsRunFailure d
  /-- Every file is of an interface or of the whole run; if it is that of the registration
  unit, then of the unit for the reported interfaces. -/
  origin : ∀ u ∈ (e.report s contracts schedule).value.1.units,
    (∃ i ∈ contracts, ∃ files, e.files i = .ok files ∧ u ∈ files) ∨
      e.IsRunFile (e.report s contracts schedule).value.2 u
  /-- Whatever an output of the run holds is held by all later ones. -/
  kept : (e.history s contracts schedule).Pairwise (fun o o' => o.units.Sublist o'.units)
  distinct : ∀ o ∈ e.history s contracts schedule, o.HasDistinctFiles
  /-- The last of them is the one that is reported. -/
  final : (e.history s contracts schedule).getLast? = some (e.report s contracts schedule).value.1

theorem history_pairwise (e : Emitter) (s : Settings) (contracts : List Interface)
    (schedule : List Nat) : (e.history s contracts schedule).Pairwise Output.Extends := by
  have hclosing := pairwise_closingOutputs e s (e.emitted contracts schedule)
    ((e.start contracts).run schedule).output
  rw [List.pairwise_cons] at hclosing
  refine List.pairwise_append.mpr ⟨Stage.pairwise_history _ _, hclosing.2, ?_⟩
  intro o ho o' ho'
  exact (Stage.extends_of_mem_history ho).2.trans (hclosing.1 o' ho')

/-- Every output of a run has come from the empty one. -/
theorem extends_of_mem_history (h : o ∈ e.history s contracts schedule) :
    Output.empty.Extends o := by
  rcases List.mem_append.mp h with h | h
  · exact (Stage.extends_of_mem_history h).1
  · have hclosing := pairwise_closingOutputs e s (e.emitted contracts schedule)
      ((e.start contracts).run schedule).output
    exact (Stage.extends_run _ _).trans ((List.pairwise_cons.mp hclosing).1 o h)

/-- Building the units of an interface reports no failure. -/
theorem isFailure_interfaceUnits {options : Layer.Options}
    (hd : d ∈ (Layer.interfaceUnits i options).log) : isFailure d = false := by
  change d ∈ (Layer.wrapUnits i options).log at hd
  unfold Layer.wrapUnits at hd
  split at hd
  · cases hd
  · obtain rfl := List.mem_singleton.mp hd
    rfl
  · obtain ⟨w, rfl⟩ := Layer.mem_log_settle _ _ hd
    rfl

theorem isFailure_resolveClient {set : DeclarationSet} {i : Declaration.Interface}
    {client : ClientDescriptor} (hd : d ∈ (resolveClient set i client).log) :
    isFailure d = false := by
  obtain ⟨contract, -, -, hclient⟩ := exists_resolveClient set i client
  rw [hclient] at hd
  rcases List.mem_append.mp hd with hd | hd
  · rcases code_of_mem_preamble hd with hcode | hcode | hcode <;> rw [isFailure, hcode] <;> rfl
  · rcases List.mem_append.mp hd with hd | hd
    · have habout := isAboutMethod_of_mem_log hd
      simp only [isAboutMethod, isLoss, Bool.or_eq_true, beq_iff_eq] at habout
      rcases habout with ((hcode | hcode) | hcode) | hcode <;> rw [isFailure, hcode] <;> rfl
    · rw [Contract.closing] at hd
      split at hd
      · obtain rfl := List.mem_singleton.mp hd
        rfl
      · cases hd

/-- Resolving interfaces reports no failure. -/
theorem isFailure_resolveAll {set : DeclarationSet} {select : String → Bool}
    (hd : d ∈ (resolveAll set select).log) : isFailure d = false := by
  rw [resolveAll, Reported.eachSome, Reported.log_each] at hd
  obtain ⟨i, -, hd⟩ := List.mem_flatMap.mp hd
  have hresolved : ∀ d ∈ (resolveInterface set i).log, isFailure d = false := by
    intro d hd
    unfold resolveInterface at hd
    split at hd
    · cases hd
    · split at hd
      · cases hd
      · split at hd
        · cases hd
        · exact isFailure_resolveClient hd
  unfold keepInterface at hd
  dsimp only at hd
  split at hd
  · exact hresolved d hd
  · rcases List.mem_append.mp hd with hd | hd
    · exact hresolved d hd
    · obtain rfl := List.mem_singleton.mp hd
      rfl

/-- The failures of a whole run are those of its emission. -/
theorem filter_log_emit (e : Emitter) (s : Settings) (set : DeclarationSet)
    (select : String → Bool) :
    (resolveAll set select >>= e.emit s).log.filter isFailure =
      (e.emit s (resolveAll set select).value).log.filter isFailure := by
  have hresolved : (resolveAll set select).log.filter isFailure = [] := by
    refine List.filter_eq_nil_iff.mpr (fun d hd => ?_)
    rw [isFailure_resolveAll hd]
    exact Bool.false_ne_true
  rw [Reported.log_bind, List.filter_append, hresolved, List.nil_append]

/-- The contracts of a set of declarations that have distinct names have distinct names. -/
theorem names_resolveAll_nodup {set : DeclarationSet} (h : set.HasDistinctNames)
    (select : String → Bool) :
    (((resolveAll set select).value).map Interface.name).Nodup :=
  List.Nodup.sublist (names_resolveAll set select) h

/-- The failures that a run reports are reported at its end. -/
theorem filter_reports (e : Emitter) (s : Settings) (contracts : List Interface)
    (schedule : List Nat) : (e.reports s contracts schedule).filter isFailure =
      (e.report s contracts schedule).log := by
  have htasks : (contracts.flatMap (fun i => (Layer.interfaceUnits i e.options).log)).filter
      isFailure = [] := by
    refine List.filter_eq_nil_iff.mpr (fun d hd => ?_)
    obtain ⟨i, -, hd⟩ := List.mem_flatMap.mp hd
    rw [isFailure_interfaceUnits hd]
    exact Bool.false_ne_true
  have hend : (e.report s contracts schedule).log.filter isFailure =
      (e.report s contracts schedule).log := by
    refine List.filter_eq_self.mpr (fun d hd => ?_)
    rw [log_report] at hd
    rcases List.mem_append.mp hd with hd | hd
    · obtain ⟨r, -, rfl⟩ := List.mem_map.mp hd
      rfl
    · obtain ⟨name, -, f, rfl⟩ := (addsRunFiles_finish _ _ _ _).reports d hd
      rfl
  rw [reports, List.filter_append, htasks, hend, List.nil_append]

/-- The location at which a failure is reported. -/
def locationOf (r : Interface × Failure) : Location := ⟨r.1.source, r.1.name⟩

/-- The failures that are reported at the location of an interface are its own. -/
theorem failuresAt_reports (hsource : i.source ≠ "") :
    failuresAt (e.reports s contracts schedule) ⟨i.source, i.name⟩ =
      ((e.failed contracts schedule).map locationOf).count ⟨i.source, i.name⟩ := by
  have hothers : ⟨i.source, i.name⟩ ∉ (e.finish s (e.emitted contracts schedule)
      ((e.start contracts).run schedule).output).log.map Diagnostic.location := by
    intro hmem
    obtain ⟨d, hd, hlocation⟩ := List.mem_map.mp hmem
    obtain ⟨name, -, f, rfl⟩ := (addsRunFiles_finish _ _ _ _).reports d hd
    exact hsource (congrArg Location.source hlocation).symm
  rw [failuresAt, filter_reports, log_report, List.map_append, List.count_append,
    List.count_eq_zero.mpr hothers, Nat.add_zero, List.map_map]
  rfl

/-- After the tasks have come to their end only files of the whole run are accepted. -/
theorem accepts_report (e : Emitter) (s : Settings) (contracts : List Interface)
    (schedule : List Nat) : ∃ more,
      ((e.start contracts).run schedule).output.Accepts more
        (e.report s contracts schedule).value.1 ∧
      ∀ u ∈ more, e.IsRunFile (e.report s contracts schedule).value.2 u := by
  rw [value_report]
  exact (addsRunFiles_finish e s _ _).accepts

/-- Where the files of a run come from. -/
theorem origin_of_mem_report (hu : u ∈ (e.report s contracts schedule).value.1.units) :
    (∃ i ∈ contracts, ∃ files, e.files i = .ok files ∧ u ∈ files) ∨
      e.IsRunFile (e.report s contracts schedule).value.2 u := by
  obtain ⟨files, hfiles, hof⟩ := Stage.accepts_run (e.start contracts) schedule
  obtain ⟨more, hmore, hmoreOf⟩ := accepts_report e s contracts schedule
  rcases hmore.mem_iff.mp hu with hu | hu
  · exact Or.inr (hmoreOf u hu)
  · rcases hfiles.mem_iff.mp hu with hu | hu
    · obtain ⟨t, ht, hpending⟩ := hof u hu
      obtain ⟨i, hi, rfl⟩ := List.mem_map.mp ht
      obtain ⟨rendered, hmem, -, hrendered⟩ := task_of_mem hpending
      exact Or.inl ⟨i, hi, rendered, hrendered, hmem⟩
    · cases hu

/-- And there they stay until the end of the run. -/
theorem complete_of_mem_emitted (hdone : e.Completes contracts schedule)
    (hi : i ∈ e.emitted contracts schedule) : ∃ files, e.files i = .ok files ∧
      ∀ u ∈ files, u ∈ (e.report s contracts schedule).value.1.units := by
  obtain ⟨files, hfiles, hmem⟩ := files_of_mem_emitted hdone hi
  obtain ⟨more, hmore, -⟩ := accepts_report e s contracts schedule
  exact ⟨files, hfiles, fun u hu => hmore.sublist.mem (hmem u hu)⟩

/-- And names that were taken stay so. -/
theorem cause_in_report {f : Failure} (hi : (i, f) ∈ e.failed contracts schedule) :
    e.files i = .error f ∨ ∃ files, e.files i = .ok files ∧ ∃ u ∈ files, f = Output.refusal u ∧
      (e.report s contracts schedule).value.1.contains u.fileName = true := by
  obtain ⟨more, hmore, -⟩ := accepts_report e s contracts schedule
  rcases cause_of_mem_failed hi with hrender | ⟨files, hfiles, u, hu, hrefusal, htaken⟩
  · exact Or.inl hrender
  · exact Or.inr ⟨files, hfiles, u, hu, hrefusal, hmore.contains htaken⟩

theorem isReported_of_mem (hnames : (contracts.map Interface.name).Nodup)
    (hdone : e.Completes contracts schedule) (hi : i ∈ e.emitted contracts schedule) :
    e.IsReported s contracts schedule i where
  listed := by
    rw [value_report]
    exact hi
  complete := complete_of_mem_emitted hdone hi
  succeeded := name_not_mem_failed hnames hi
  quiet := by
    intro hsource
    rw [failuresAt_reports hsource, List.count_eq_zero]
    intro hmem
    obtain ⟨r, hr, hlocation⟩ := List.mem_map.mp hmem
    refine name_not_mem_failed hnames hi (List.mem_map.mpr ⟨r, hr, ?_⟩)
    exact congrArg Location.symbol hlocation

theorem isLost_of_mem (hnames : (contracts.map Interface.name).Nodup) {f : Failure}
    (hi : (i, f) ∈ e.failed contracts schedule) : e.IsLost s contracts schedule i := by
  have hunlisted : i.name ∉ (e.report s contracts schedule).value.2.map Interface.name := by
    intro hname
    obtain ⟨j, hj, hsame⟩ := List.mem_map.mp hname
    rw [value_report] at hj
    exact name_ne_of_mem_failed hnames hj hi hsame
  have hmem : i.name ∈ (e.failed contracts schedule).map (fun r => r.1.name) :=
    List.mem_map.mpr ⟨(i, f), hi, rfl⟩
  have hlocated : ⟨i.source, i.name⟩ ∈ (e.failed contracts schedule).map locationOf :=
    List.mem_map.mpr ⟨(i, f), hi, rfl⟩
  have hlocations : ((e.failed contracts schedule).map locationOf).Nodup := by
    refine List.Nodup.of_map Location.symbol ?_
    rw [List.map_map]
    exact names_failed_nodup hnames
  refine ⟨⟨f, hi, cause_in_report hi⟩, List.count_eq_one_of_mem (names_failed_nodup hnames) hmem,
    fun hsource => ?_, hunlisted,
    fun unit hunit hregisters => hunlisted ((Layer.registers_iff hunit).mp hregisters)⟩
  rw [failuresAt_reports hsource, List.count_eq_one_of_mem hlocations hlocated]

/-- **A run reports each interface, or that it has failed, and loses no file**, in whatever
order its tasks take turns. -/
theorem report_reportsEach (e : Emitter) (s : Settings) (contracts : List Interface)
    (schedule : List Nat) (hnames : (contracts.map Interface.name).Nodup)
    (hdone : e.Completes contracts schedule) : e.ReportsEach s contracts schedule where
  each := by
    intro i hi
    rcases mem_emitted_or_failed hi with hemitted | ⟨f, hfailed⟩
    · exact Or.inl (isReported_of_mem hnames hdone hemitted)
    · exact Or.inr (isLost_of_mem hnames hfailed)
  ordered := by
    rw [value_report]
    exact emitted_sublist e contracts schedule
  failures := by
    refine ⟨_, (filter_reports e s contracts schedule).trans (log_report e s contracts schedule), ?_⟩
    exact (addsRunFiles_finish _ _ _ _).reports
  origin := fun _ hu => origin_of_mem_report hu
  kept := (history_pairwise e s contracts schedule).imp (fun h => h.sublist)
  distinct := fun o ho => (extends_of_mem_history ho).hasDistinctFiles List.nodup_nil
  final := by
    rw [value_report, history, List.getLast?_append]
    rfl

/-- One of two interfaces fails after its first file: the second one is called like that
of the other, which has come in between. -/
theorem userApi_reportsEach :
    ([userWrapApi, userApi].map Interface.name).Nodup ∧
    plainEmitter.Completes [userWrapApi, userApi] [1, 0, 1] ∧
    (plainEmitter.failed [userWrapApi, userApi] [1, 0, 1]).map (fun r => r.1.name) =
      ["IUserApi"] ∧
    plainEmitter.ReportsEach plainSettings [userWrapApi, userApi] [1, 0, 1] := by
  have hnames : ([userWrapApi, userApi].map Interface.name).Nodup := by decide
  have hdone : plainEmitter.Completes [userWrapApi, userApi] [1, 0, 1] := by
    rw [Completes, start_userWrapApi_userApi]
    unfold Stage.IsDone
    decide
  refine ⟨hnames, hdone, ?_, report_reportsEach _ _ _ _ hnames hdone⟩
  rw [failed, outcomes, start_userWrapApi_userApi]
  decide

end Emitter
end ClientSynth
