import ClientSynth.Proofs.Report
import ClientSynth.Proofs.Spelling

/-! # Modules and their files

The index declares a module for every unit, and the declaration leads to the file that is
called like the module.  Both names are made of the stem of the unit, but only that of the
module is escaped.  The mark of a raw name is no part of a file's name, so keywords do no
harm.  A reserved word gets an underscore behind it, though, and a digit one in front of
it, and no stem begins or ends in an underscore: then the declaration leads nowhere. -/
namespace ClientSynth

open Contract

namespace Code.Identifier

open Text

/-- The file that the declaration of a module leads to. -/
def moduleFile (module : String) : String := String.ofList (rawless module.toList) ++ ".rs"

/-- A stem that can be the name of a module, maybe as a raw one. -/
structure IsModule (stem : String) : Prop where
  nonempty : stem ≠ ""
  not_reserved : stem ∉ reserved
  no_digit : ∀ c, stem.toList.head? = some c → c.isDigit = false

theorem isModule_iff {stem : String} : IsModule stem ↔
    stem ≠ "" ∧ stem ∉ reserved ∧ (stem.toList.head?.map Char.isDigit).getD false = false := by
  constructor
  · intro h
    refine ⟨h.nonempty, h.not_reserved, ?_⟩
    cases hhead : stem.toList.head? with
    | none => rfl
    | some c => exact h.no_digit c hhead
  · rintro ⟨hempty, hreserved, hdigit⟩
    refine ⟨hempty, hreserved, fun c hc => ?_⟩
    rwa [hc] at hdigit

instance (stem : String) : Decidable (IsModule stem) := decidable_of_iff _ isModule_iff.symm

/-- The words of the name of a unit. -/
def unitWords (unit : String) : List (List Char) :=
  words (unit.toList.map (fun c => if c = '.' then '_' else c))

theorem unitStem_eq (unit : String) : unitStem unit = String.ofList (joinWords (unitWords unit)) := by
  rw [unitStem, snakeCase, String.toList_ofList, snakeChars_eq_joinWords, unitWords]

theorem isWord_of_mem_unitWords (unit : String) : ∀ w ∈ unitWords unit, IsWord w :=
  fun _ hw => isWord_of_mem_words hw

theorem escape_unitStem (unit : String) :
    escape (unitStem unit) = (escaped (unitWords unit)).text := by
  rw [unitStem_eq, escape_joinWords (isWord_of_mem_unitWords unit)]

/-- Without the mark, the module of a unit spells the words of the unit. -/
theorem rawless_moduleName (unit : String) :
    rawless (moduleName unit).toList = (escaped (unitWords unit)).bare := by
  have hregular : (escaped (unitWords unit)).IsRegular := isRegular_escaped _
  rw [← hregular.rawless_text, ← escape_unitStem, moduleName]
  split
  -- Only this module keeps its name, and escaping would but mark it as a raw one.
  · next hmod =>
    rw [hmod]
    decide
  · rfl

/-- Escaping adds no underscore to the name of a module, and to any other one it does. -/
theorem bare_escaped_eq_iff {ws : List (List Char)} (h : ∀ w ∈ ws, IsWord w) :
    (escaped ws).bare = joinWords ws ↔ IsModule (String.ofList (joinWords ws)) := by
  by_cases hne : ws = []
  · subst hne
    exact iff_of_false (by decide) (fun hmodule => hmodule.nonempty rfl)
  · obtain ⟨c, cs, hjoin, -⟩ := joinWords_eq_cons h hne
    rw [escaped, if_neg hne]
    split
    · next hreserved =>
      refine iff_of_false (fun hsame => ?_)
        (fun hmodule => hmodule.not_reserved (List.contains_iff_mem.mp hreserved))
      simp [Spelling.bare] at hsame
    · next hreserved =>
      split
      · next hdigit =>
        rw [hjoin] at hdigit
        refine iff_of_false (fun hsame => ?_) (fun hmodule => ?_)
        · have hlength := congrArg List.length hsame
          simp [Spelling.bare] at hlength
        · exact Bool.false_ne_true ((hmodule.no_digit c (by simp [hjoin])).symm.trans hdigit)
      · next hdigit =>
        refine iff_of_true (by simp [Spelling.bare]) ⟨by simp [hjoin], by simpa using hreserved, ?_⟩
        intro d hd
        rw [String.toList_ofList] at hd
        simpa [hd] using hdigit

/-- **Which files a module leads to**: those of its stem, unless the stem cannot be the
name of a module.  Then there are none. -/
theorem moduleFile_eq_fileName_iff {unit other : String} :
    moduleFile (moduleName unit) = fileName other ↔
      unitStem unit = unitStem other ∧ IsModule (unitStem unit) := by
  have hbare : moduleFile (moduleName unit) = fileName other ↔
      (escaped (unitWords unit)).bare = joinWords (unitWords other) := by
    rw [moduleFile, fileName, rawless_moduleName, unitStem_eq other, String.append_left_inj,
      String.ofList_inj]
  have hmodule := bare_escaped_eq_iff (isWord_of_mem_unitWords unit)
  rw [hbare, unitStem_eq unit, unitStem_eq other, ← hmodule]
  constructor
  · intro h
    have hregular : (escaped (unitWords unit)).IsRegular := isRegular_escaped _
    have hwords : unitWords unit = unitWords other := by
      rw [← words_escaped (unitWords unit), ← hregular.pieces_bare, h,
        pieces_joinWords (isWord_of_mem_unitWords other)]
    exact ⟨by rw [hwords], by rw [h, hwords]⟩
  · rintro ⟨hstem, hbare⟩
    rw [hbare, String.ofList_inj.mp hstem]

-- Keywords do no harm.
example : moduleFile (moduleName "Type") = fileName "Type" := by decide +kernel

/-- A stem begins with the first letter of the unit. -/
theorem head?_unitStem (unit : String) :
    (unitStem unit).toList.head? = (stemLetters unit).head? := by
  rw [← joinedLetters_unitStem, unitStem_eq, String.toList_ofList]
  by_cases hne : unitWords unit = []
  · rw [hne]
    rfl
  · obtain ⟨c, cs, hjoin, hc⟩ := joinWords_eq_cons (isWord_of_mem_unitWords unit) hne
    have hkept : (!isUnderscore c) = true := by simpa [isUnderscore] using hc
    rw [hjoin, joinedLetters, List.filter_cons, if_pos hkept]
    rfl

/-- Behind a name that does not begin with a digit, a word in which no reserved word ends
makes it the name of a module. -/
theorem isModule_append {name ending : String}
    (hname : ∀ c, (stemLetters name).head? = some c → c.isDigit = false)
    (hending : ∃ c cs, stemLetters ending = c :: cs ∧ c.isDigit = false)
    (hreserved : ∀ word ∈ reserved, ¬ stemLetters ending <:+ joinedLetters word.toList) :
    IsModule (unitStem (name ++ ending)) := by
  obtain ⟨first, rest, hletters, hdigit⟩ := hending
  have hstem : joinedLetters (unitStem (name ++ ending)).toList =
      stemLetters name ++ stemLetters ending := by
    rw [joinedLetters_unitStem, stemLetters_append]
  refine ⟨fun hempty => ?_, fun hmem => hreserved _ hmem ⟨_, hstem.symm⟩, fun c hc => ?_⟩
  · rw [hempty, hletters] at hstem
    exact List.cons_ne_nil _ _ (List.append_eq_nil_iff.mp hstem.symm).2
  · rw [head?_unitStem, stemLetters_append, List.head?_append] at hc
    cases hhead : (stemLetters name).head? with
    | none =>
        rw [hhead, hletters] at hc
        cases hc
        exact hdigit
    | some d => exact hname c (by simpa [hhead] using hc)

/-- If the implementation is a module then the interface does not begin with a digit. -/
theorem no_digit_of_implementation {name : String}
    (h : IsModule (unitStem (Naming.implementation name))) :
    ∀ c, (stemLetters name).head? = some c → c.isDigit = false := by
  intro c hc
  cases hname : Naming.stripInterfaceMarker name with
  | none =>
      refine h.no_digit c ?_
      rw [Naming.implementation, hname, Option.getD_none, head?_unitStem, stemLetters_append,
        List.head?_append, hc]
      rfl
  | some stripped =>
      have hmarker : stemLetters "I" = ['i'] := by decide
      rw [eq_of_stripInterfaceMarker hname, stemLetters_append, hmarker] at hc
      cases hc
      rfl

end Code.Identifier

/-! ### The units of an interface -/

namespace Layer

open Code.Identifier

/-- The modules of an interface's units lead to the files of the units. -/
def ModulesLead (i : Interface) (options : Options) : Prop :=
  ∀ u ∈ (interfaceUnits i options).value, moduleFile (moduleName u.name) = fileName u.name

/-- The units of an interface are called like the client, or like the interface with an
ending. -/
theorem name_of_mem_interfaceUnits {i : Interface} {options : Options} {u : CodeUnit}
    (hu : u ∈ (interfaceUnits i options).value) :
    u.name = i.implementation ∨ u.name = i.name ++ ".Wrap" ∨ u.name = i.name ++ ".WrapImpl" := by
  rcases List.mem_cons.mp hu with rfl | hwrap
  · exact Or.inl rfl
  · refine Or.inr ?_
    unfold wrapUnits at hwrap
    split at hwrap
    · cases hwrap
    · cases hwrap
    · rcases List.mem_pair.mp hwrap with rfl | rfl
      · exact Or.inl rfl
      · exact Or.inr rfl

/-- If the client can be called like a module then so can the wrap layer. -/
theorem isModule_of_mem_interfaceUnits {i : Interface} {options : Options} {u : CodeUnit}
    (h : IsModule (unitStem i.implementation)) (hu : u ∈ (interfaceUnits i options).value) :
    IsModule (unitStem u.name) := by
  have hname := no_digit_of_implementation h
  rcases name_of_mem_interfaceUnits hu with hu | hu | hu
  · exact hu ▸ h
  · exact hu ▸ isModule_append hname ⟨'w', "rap".toList, by decide, by decide⟩ (by decide)
  · exact hu ▸ isModule_append hname ⟨'w', "rapimpl".toList, by decide, by decide⟩ (by decide)

/-- **When the modules of an interface lead to its files**: exactly if the client can be
called like a module. -/
theorem modulesLead_iff (i : Interface) (options : Options) :
    ModulesLead i options ↔ IsModule (unitStem i.implementation) := by
  constructor
  · intro h
    exact (moduleFile_eq_fileName_iff.mp (h _ List.mem_cons_self)).2
  · intro h u hu
    exact moduleFile_eq_fileName_iff.mpr ⟨rfl, isModule_of_mem_interfaceUnits h hu⟩

/-- A client that is called like a reserved word without its marker. -/
def crateApi : Declaration.Interface :=
  { name := "ICrate"
    ancestors := []
    annotations := [.marker "HttpClientApi"]
    methods := [⟨"PingAsync", some ⟨none, true⟩, [⟨"Get", [.text "/ping"], []⟩], []⟩]
    source := "api.yaml" }

/-- The index declares `crate_`, and the file is `crate.rs`. -/
theorem crateApi_module_leads_nowhere :
    ∃ contract ∈ (resolveAll ⟨[], [crateApi]⟩ (fun name => name == crateApi.name)).value,
      ∀ options, ¬ ModulesLead contract options := by
  obtain ⟨contract, hcontract, -⟩ := exists_contract (i := crateApi)
    ⟨none, none, none, none, false, none⟩ (fun m => m.name) ["PingAsync"] rfl rfl (by simp)
    (by with_unfolding_all rfl)
  refine ⟨contract, hcontract, fun options hlead => ?_⟩
  have hname : contract.name = "ICrate" := by
    have hdeclared := (names_resolveAll _ _).mem (List.mem_map_of_mem hcontract)
    exact List.mem_singleton.mp hdeclared
  refine ((modulesLead_iff contract options).mp hlead).not_reserved ?_
  rw [Interface.implementation, hname]
  decide +kernel

end Layer

/-! ### The index -/

namespace Emitter

open Code.Identifier

/-- Every module that the index lists leads to a file. -/
def IndexLeads (o : Output) : Prop :=
  ∀ module ∈ listedModules o, moduleFile module ∈ o.units.map GeneratedUnit.fileName

theorem mem_listedModules {o : Output} {module : String} : module ∈ listedModules o ↔
    ∃ u ∈ o.units, u.name ≠ Layer.indexUnitName ∧ moduleName u.name = module := by
  simp [listedModules, and_assoc]

/-- **When the index leads to files**: exactly if every unit besides the index itself can
be called like a module. -/
theorem indexLeads_iff {o : Output} (hfiles : ∀ u ∈ o.units, u.fileName = fileName u.name) :
    IndexLeads o ↔
      ∀ u ∈ o.units, u.name ≠ Layer.indexUnitName → IsModule (unitStem u.name) := by
  constructor
  · intro h u hu hindex
    obtain ⟨v, hv, hfile⟩ := List.mem_map.mp (h _ (mem_listedModules.mpr ⟨u, hu, hindex, rfl⟩))
    rw [hfiles v hv] at hfile
    exact (moduleFile_eq_fileName_iff.mp hfile.symm).2
  · intro h module hmodule
    obtain ⟨u, hu, hindex, rfl⟩ := mem_listedModules.mp hmodule
    rw [moduleFile_eq_fileName_iff.mpr ⟨rfl, h u hu hindex⟩, ← hfiles u hu]
    exact List.mem_map_of_mem hu

/-- No client is called like the index. -/
theorem implementation_ne_indexUnitName (name : String) :
    Naming.implementation name ≠ Layer.indexUnitName := by
  intro hname
  cases hstrip : Naming.stripInterfaceMarker name with
  | none =>
      rw [Naming.implementation, hstrip, Option.getD_none] at hname
      have hlength := congrArg String.length hname
      rw [String.length_append] at hlength
      have hends : "Impl".length = 4 := by decide
      have hindex : Layer.indexUnitName.length = 3 := by decide
      omega
  | some stripped =>
      rw [Naming.implementation, hstrip, Option.getD_some] at hname
      subst hname
      rw [eq_of_stripInterfaceMarker hstrip] at hstrip
      exact absurd hstrip (by decide)

variable {e : Emitter} {s : Settings} {contracts interfaces : List Interface} {i : Interface}
  {u : GeneratedUnit} {files : List GeneratedUnit} {schedule : List Nat}

/-- The files of an interface are called like its units. -/
theorem names_files (h : e.files i = .ok files) :
    files.map (fun u => (u.name, u.fileName)) =
      (Layer.interfaceUnits i e.options).value.map (fun u => (u.name, fileName u.name)) :=
  map_mapM_file (fun hfile => by rw [name_file hfile, fileName_file hfile]) h

theorem exists_unit_of_mem_files (h : e.files i = .ok files) (hu : u ∈ files) :
    ∃ unit ∈ (Layer.interfaceUnits i e.options).value,
      u.name = unit.name ∧ u.fileName = fileName u.name := by
  have hnames : (u.name, u.fileName) ∈ files.map (fun u => (u.name, u.fileName)) :=
    List.mem_map_of_mem (f := fun u : GeneratedUnit => (u.name, u.fileName)) hu
  rw [names_files h] at hnames
  obtain ⟨unit, hunit, hsame⟩ := List.mem_map.mp hnames
  obtain ⟨hname, hfile⟩ := Prod.mk.inj hsame
  exact ⟨unit, hunit, hname.symm, by rw [← hfile, hname]⟩

theorem plainFile_eq_ok {name : String} {text : Except Failure String}
    (h : plainFile name text = .ok u) : u.name = name ∧ u.fileName = fileName name := by
  obtain ⟨t, -, rfl⟩ := Success.map_eq_ok.mp h
  exact ⟨rfl, rfl⟩

/-- A file of a whole run is called like its unit, and unless it is the index, its unit can
be called like a module. -/
theorem IsRunFile.spec (h : e.IsRunFile interfaces u) : u.fileName = fileName u.name ∧
    (u.name ≠ Layer.indexUnitName → IsModule (unitStem u.name)) := by
  cases h with
  | registration hunit hfile =>
      rw [fileName_file hfile, name_file hfile, Layer.name_registrationUnit hunit]
      exact ⟨rfl, fun _ => by decide +kernel⟩
  | support hfile =>
      obtain ⟨hname, hfile⟩ := plainFile_eq_ok hfile
      rw [hfile, hname]
      exact ⟨rfl, fun _ => by decide +kernel⟩
  | index hfile =>
      obtain ⟨hname, hfile⟩ := plainFile_eq_ok hfile
      rw [hfile, hname]
      exact ⟨rfl, fun hne => absurd rfl hne⟩

theorem fileName_of_mem_report (hu : u ∈ (e.report s contracts schedule).value.1.units) :
    u.fileName = fileName u.name := by
  rcases origin_of_mem_report hu with ⟨i, -, files, hfiles, hmem⟩ | hrun
  · obtain ⟨unit, -, -, hfile⟩ := exists_unit_of_mem_files hfiles hmem
    exact hfile
  · exact hrun.spec.1

/-- **The index of a run in which nothing fails leads to files** exactly if all clients can
be called like modules. -/
theorem indexLeads_report_iff (hdone : e.Completes contracts schedule)
    (hfailed : e.failed contracts schedule = []) :
    IndexLeads (e.report s contracts schedule).value.1 ↔
      ∀ i ∈ contracts, IsModule (unitStem i.implementation) := by
  rw [indexLeads_iff (fun _ => fileName_of_mem_report)]
  constructor
  · intro h i hi
    have hemitted : i ∈ e.emitted contracts schedule := by
      refine mem_emitted_or_failed hi |>.resolve_right (fun ⟨f, hf⟩ => ?_)
      rw [hfailed] at hf
      cases hf
    obtain ⟨files, hfiles, hmem⟩ := complete_of_mem_emitted (s := s) hdone hemitted
    -- The first unit of an interface is its client, so what holds of all units holds of it.
    have hclient : i.implementation ∈ files.map GeneratedUnit.name := by
      rw [map_mapM_file name_file hfiles]
      exact List.mem_cons_self
    obtain ⟨u, hu, hname⟩ := List.mem_map.mp hclient
    have hmodule := h u (hmem u hu) (hname ▸ implementation_ne_indexUnitName i.name)
    rwa [hname] at hmodule
  · intro h u hu hindex
    rcases origin_of_mem_report hu with ⟨i, hi, files, hfiles, hmem⟩ | hrun
    · obtain ⟨unit, hunit, hname, -⟩ := exists_unit_of_mem_files hfiles hmem
      rw [hname]
      exact Layer.isModule_of_mem_interfaceUnits (h i hi) hunit
    · exact hrun.spec.2 hindex

end Emitter
end ClientSynth
