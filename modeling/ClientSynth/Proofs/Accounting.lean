import ClientSynth.Proofs.Locality

/-! # No method is lost silently

A method that an interface brings together either has a contract, or one report says why
it has none: it has no verb, it has several bodies, or something about it cannot be
resolved.  The many ways to fail come down to these outcomes (`Settles`), whatever was
reported before.  Methods are resolved one by one, so the reports of a whole interface
are those of its methods, in order, with what is reported about the interface itself
around them, and that is never about a method that is left out. -/
namespace ClientSynth

namespace DeclarationSet

open Declaration

theorem code_of_mem_lineage {set : DeclarationSet} {root : Interface} {d : Diagnostic}
    (hd : d ∈ (set.lineage root).log) : d.code = .unknownAncestor := by
  have hperm := log_follow_perm set [root.name] (root.ancestors.map (fun a => (root, a)))
  rcases List.mem_append.mp (hperm.mem_iff.mp hd) with hd | hd
  · obtain ⟨p, -, rfl⟩ := List.mem_map.mp hd
    rfl
  · obtain ⟨i, -, hd⟩ := List.mem_flatMap.mp hd
    obtain ⟨name, -, rfl⟩ := List.mem_map.mp hd
    rfl

end DeclarationSet

namespace Declaration.InheritedMethod

theorem code_of_mem_distinct {seen : List (String × String)} {candidates : List InheritedMethod}
    {d : Diagnostic} (hd : d ∈ (distinct seen candidates).log) : d.code = .duplicateMethod := by
  induction candidates generalizing seen with
  | nil => exact absurd hd List.not_mem_nil
  | cons m rest ih =>
      unfold distinct at hd
      split at hd
      · exact ih hd
      · dsimp only at hd
        split at hd
        · exact ih hd
        · rcases List.mem_cons.mp hd with rfl | hd
          · rfl
          · exact ih hd

end Declaration.InheritedMethod

namespace Contract

open Declaration (InheritedMethod)

variable {set : DeclarationSet} {m : InheritedMethod} {ms : List InheritedMethod}

/-! ### One method -/

/-- Whether a report says that a method is left out. -/
def isLoss (d : Diagnostic) : Bool :=
  d.code == .missingVerb || d.code == .multipleBodies || d.code == .unresolvedMember

/-- Whether a report is one of those that resolving a method makes. -/
def isAboutMethod (d : Diagnostic) : Bool := isLoss d || d.code == .unmatchedPlaceholder

/-- The reports about placeholders that nothing fills. -/
def AreWarnings (log : List Diagnostic) : Prop := ∀ d ∈ log, d.code = .unmatchedPlaceholder

/-- The ways in which the resolution of a method ends. -/
inductive Ends (m : InheritedMethod) : Reported (Except String (Option Method)) → Prop
  /-- Its contract. -/
  | kept {method : Method} {warnings : List Diagnostic} (hname : method.name = m.method.name)
      (howner : method.declaredIn = m.owner.name) (hwarnings : AreWarnings warnings) :
      Ends m ⟨.ok (some method), warnings⟩
  /-- No contract, with a report that says why. -/
  | dropped {d : Diagnostic} (hloss : isLoss d = true) (hlocation : d.location = m.location) :
      Ends m ⟨.ok none, [d]⟩
  /-- A failure, which is not reported yet. -/
  | failed {e : String} {warnings : List Diagnostic} (hwarnings : AreWarnings warnings) :
      Ends m ⟨.error e, warnings⟩

theorem resolveMethod_ends (set : DeclarationSet) (m : InheritedMethod) :
    Ends m (resolveMethod set m) := by
  unfold resolveMethod
  split
  · exact .dropped rfl rfl
  · split
    · exact .failed (fun _ hd => absurd hd List.not_mem_nil)
    · next o ho =>
      dsimp only
      split
      · exact .dropped rfl rfl
      · split
        · exact .failed (fun _ hd => absurd hd List.not_mem_nil)
        · have hwarnings : AreWarnings ((unmatchedPlaceholders o.urlTemplate o.parameters).map
              (unmatchedPlaceholder m o.urlTemplate)) := by
            intro d hd
            obtain ⟨name, -, rfl⟩ := List.mem_map.mp hd
            rfl
          split
          · exact .failed hwarnings
          · exact .kept rfl rfl hwarnings

/-- A method has a contract, or exactly one report that it is left out, where it is
declared. -/
inductive Settles (m : InheritedMethod) : Reported (Option Method) → Prop
  | kept {method : Method} {warnings : List Diagnostic} (hname : method.name = m.method.name)
      (howner : method.declaredIn = m.owner.name) (hwarnings : AreWarnings warnings) :
      Settles m ⟨some method, warnings⟩
  | lost {warnings : List Diagnostic} {d : Diagnostic} (hwarnings : AreWarnings warnings)
      (hloss : isLoss d = true) (hlocation : d.location = m.location) :
      Settles m ⟨none, warnings ++ [d]⟩

theorem keepMethod_settles (set : DeclarationSet) (m : InheritedMethod) :
    Settles m (keepMethod set m) := by
  have hends := resolveMethod_ends set m
  unfold keepMethod
  generalize resolveMethod set m = result at hends
  cases hends with
  | kept hname howner hwarnings => exact .kept hname howner hwarnings
  | @dropped d hloss hlocation =>
      have hlost : Settles m ⟨none, [] ++ [d]⟩ := .lost (by simp [AreWarnings]) hloss hlocation
      exact hlost
  | failed hwarnings => exact .lost hwarnings rfl rfl

theorem AreWarnings.filter_isLoss {warnings : List Diagnostic} (h : AreWarnings warnings) :
    warnings.filter isLoss = [] := by
  refine List.filter_eq_nil_iff.mpr (fun d hd => ?_)
  simp [isLoss, h d hd]

theorem Settles.location_losses {result : Reported (Option Method)} (h : Settles m result) :
    (result.log.filter isLoss).map Diagnostic.location =
      if result.value.isNone then [m.location] else [] := by
  cases h with
  | kept _ _ hwarnings =>
      rw [hwarnings.filter_isLoss]
      rfl
  | lost hwarnings hloss hlocation =>
      rw [List.filter_append, hwarnings.filter_isLoss, List.filter_cons_of_pos hloss]
      simp [hlocation]

theorem Settles.isAboutMethod {result : Reported (Option Method)} (h : Settles m result) :
    ∀ d ∈ result.log, isAboutMethod d = true := by
  have hwarning : ∀ {warnings : List Diagnostic}, AreWarnings warnings →
      ∀ d ∈ warnings, Contract.isAboutMethod d = true := by
    intro warnings hwarnings d hd
    simp [Contract.isAboutMethod, hwarnings d hd]
  cases h with
  | kept _ _ hwarnings => exact hwarning hwarnings
  | lost hwarnings hloss _ =>
      intro d hd
      rcases List.mem_append.mp hd with hd | hd
      · exact hwarning hwarnings d hd
      · rw [List.mem_singleton.mp hd, Contract.isAboutMethod, hloss, Bool.true_or]

/-! ### Many methods -/

/-- Whether a method is left out. -/
def isDropped (set : DeclarationSet) (m : InheritedMethod) : Bool := (keepMethod set m).value.isNone

/-- Methods are resolved one by one, and those that have a contract are kept. -/
def resolveMethods (set : DeclarationSet) (ms : List InheritedMethod) : Reported (List Method) :=
  Reported.eachSome (keepMethod set) ms

theorem value_resolveMethods (ms : List InheritedMethod) :
    (resolveMethods set ms).value = ms.filterMap (fun m => (keepMethod set m).value) :=
  value_eachSome _ ms

theorem log_resolveMethods (ms : List InheritedMethod) :
    (resolveMethods set ms).log = ms.flatMap (fun m => (keepMethod set m).log) :=
  Reported.log_each (keepMethod set) ms

theorem isAboutMethod_of_mem_log {d : Diagnostic} (hd : d ∈ (resolveMethods set ms).log) :
    isAboutMethod d = true := by
  rw [log_resolveMethods] at hd
  obtain ⟨m, -, hd⟩ := List.mem_flatMap.mp hd
  exact (keepMethod_settles set m).isAboutMethod d hd

/-- The contract of a method is its own: it has the name of the method and of the interface
that declares it. -/
structure IsContractOf (set : DeclarationSet) (m : InheritedMethod) (method : Method) : Prop where
  kept : (keepMethod set m).value = some method
  name : method.name = m.method.name
  owner : method.declaredIn = m.owner.name

theorem isContractOf_of_kept {method : Method} (h : (keepMethod set m).value = some method) :
    IsContractOf set m method := by
  have hsettles := keepMethod_settles set m
  cases hresult : keepMethod set m with
  | mk value log =>
      rw [hresult] at h hsettles
      cases hsettles with
      | kept hname howner _ =>
          obtain rfl := Option.some.inj h
          exact ⟨by rw [hresult], hname, howner⟩
      | lost => cases h

/-- The methods that are not left out have the contracts, in their order. -/
theorem forall₂_resolveMethods (set : DeclarationSet) (ms : List InheritedMethod) :
    List.Forall₂ (IsContractOf set) (ms.filter (fun m => !isDropped set m))
      (resolveMethods set ms).value := by
  rw [value_resolveMethods]
  induction ms with
  | nil => exact .nil
  | cons m ms ih =>
      cases hkept : (keepMethod set m).value with
      | none =>
          rw [List.filter_cons_of_neg (by simp [isDropped, hkept])]
          simpa only [List.filterMap_cons, hkept] using ih
      | some method =>
          rw [List.filter_cons_of_pos (by simp [isDropped, hkept])]
          simpa only [List.filterMap_cons, hkept] using .cons (isContractOf_of_kept hkept) ih

/-- The losses are at the methods that are left out, one for each, in their order. -/
theorem location_losses (set : DeclarationSet) (ms : List InheritedMethod) :
    ((resolveMethods set ms).log.filter isLoss).map Diagnostic.location =
      (ms.filter (isDropped set)).map InheritedMethod.location := by
  rw [log_resolveMethods]
  induction ms with
  | nil => rfl
  | cons m ms ih =>
      rw [List.flatMap_cons, List.filter_append, List.map_append, ih,
        (keepMethod_settles set m).location_losses, List.filter_cons]
      show (if isDropped set m then _ else _) ++ _ = _
      split <;> rfl

/-! ### What is reported about the interface itself -/

theorem code_of_mem_wrapOf {i : Declaration.Interface} {d : Diagnostic} (hd : d ∈ (wrapOf i).log) :
    d.code = .wrapMetadata := by
  unfold wrapOf at hd
  split at hd
  · exact absurd hd List.not_mem_nil
  · split at hd
    · exact absurd hd List.not_mem_nil
    · rw [List.mem_singleton.mp hd]
      rfl

variable {i : Declaration.Interface} {client : ClientDescriptor}

/-- The methods that an interface brings together. -/
def collected (set : DeclarationSet) (i : Declaration.Interface) : List InheritedMethod :=
  (InheritedMethod.collect (set.lineage i).value).value

/-- The methods of a contract; without one there are none. -/
def methodsOf (contract : Option Interface) : List Method :=
  (contract.map Interface.methods).getD []

/-- The reports about an interface itself that come before those of its methods. -/
def preamble (set : DeclarationSet) (i : Declaration.Interface) : List Diagnostic :=
  (wrapOf i).log ++ ((set.lineage i).log ++ (InheritedMethod.collect (set.lineage i).value).log)

/-- Codes of reports that are made before any method is resolved. -/
def IsPreliminary (code : Diagnostic.Code) : Prop :=
  code = .wrapMetadata ∨ code = .unknownAncestor ∨ code = .duplicateMethod

theorem code_of_mem_preamble {d : Diagnostic} (hd : d ∈ preamble set i) :
    IsPreliminary d.code := by
  rcases List.mem_append.mp hd with hd | hd
  · exact Or.inl (code_of_mem_wrapOf hd)
  · rcases List.mem_append.mp hd with hd | hd
    · exact Or.inr (Or.inl (DeclarationSet.code_of_mem_lineage hd))
    · exact Or.inr (Or.inr (InheritedMethod.code_of_mem_distinct hd))

/-- The report that no method is left, if there is no contract. -/
def closing (i : Declaration.Interface) (contract : Option Interface) : List Diagnostic :=
  if contract.isNone then [noHttpMethods i] else []

/-- How the resolution of a client ends when its methods are known: with its contract, or
with the report that there are none. -/
def conclusion (set : DeclarationSet) (i : Declaration.Interface) (client : ClientDescriptor)
    (methods : List Method) : Reported (Option Interface) :=
  if methods.isEmpty then ⟨none, [noHttpMethods i]⟩
  else pure (some ⟨i.name, i.source,
    ((set.lineage i).value.drop 1).map Declaration.Interface.name, methods, client,
    (wrapOf i).value⟩)

theorem resolveClient_eq (set : DeclarationSet) (i : Declaration.Interface)
    (client : ClientDescriptor) :
    resolveClient set i client =
      ⟨(conclusion set i client (resolveMethods set (collected set i)).value).value,
        preamble set i ++ ((resolveMethods set (collected set i)).log ++
          (conclusion set i client (resolveMethods set (collected set i)).value).log)⟩ := by
  rw [preamble, List.append_assoc, List.append_assoc]
  rfl

/-- The methods of a contract are the given ones, and there is one unless there are none. -/
theorem conclusion_spec (set : DeclarationSet) (i : Declaration.Interface)
    (client : ClientDescriptor) (methods : List Method) :
    methodsOf (conclusion set i client methods).value = methods ∧
      ((conclusion set i client methods).value = none ↔ methods = []) ∧
      (conclusion set i client methods).log =
        closing i (conclusion set i client methods).value := by
  cases methods with
  | nil => exact ⟨rfl, iff_of_true rfl rfl, rfl⟩
  | cons method methods =>
      exact ⟨rfl, iff_of_false (Option.some_ne_none _) (List.cons_ne_nil _ _), rfl⟩

/-- What the resolution of a client comes to. -/
theorem exists_resolveClient (set : DeclarationSet) (i : Declaration.Interface)
    (client : ClientDescriptor) :
    ∃ contract, methodsOf contract = (resolveMethods set (collected set i)).value ∧
      (contract = none ↔ (resolveMethods set (collected set i)).value = []) ∧
      resolveClient set i client = ⟨contract, preamble set i ++
        ((resolveMethods set (collected set i)).log ++ closing i contract)⟩ := by
  obtain ⟨hmethods, hnone, hlog⟩ :=
    conclusion_spec set i client (resolveMethods set (collected set i)).value
  refine ⟨_, hmethods, hnone, ?_⟩
  rw [resolveClient_eq, hlog]

/-- What is said about the methods of a client: by its contract, and by the reports. -/
structure AccountsForMethods (set : DeclarationSet) (i : Declaration.Interface)
    (contract : Option Interface) (log : List Diagnostic) : Prop where
  /-- The contract has the contracts of some of the methods, in their order. -/
  subsequence : ∃ kept, kept.Sublist (collected set i) ∧
    List.Forall₂ (IsContractOf set) kept (methodsOf contract)
  /-- Every method is kept or reported. -/
  counted : (collected set i).length =
    (methodsOf contract).length + (log.filter isLoss).length
  /-- A method that is left out is reported once, where it is declared. -/
  located : (log.filter isLoss).map Diagnostic.location =
    ((collected set i).filter (isDropped set)).map InheritedMethod.location
  /-- Without a method that is left out the others have the same contracts and reports. -/
  undisturbed : ∀ front m back, collected set i = front ++ m :: back → isDropped set m = true →
    methodsOf contract = (resolveMethods set (front ++ back)).value ∧
      ∃ before after, (resolveMethods set (front ++ back)).log = before ++ after ∧
        log.filter isAboutMethod = before ++ (keepMethod set m).log ++ after
  /-- There is no contract exactly if all methods are left out. -/
  contract_eq_none : contract = none ↔ ∀ m ∈ collected set i, isDropped set m = true
  /-- This is reported once, and only then. -/
  empty : log.filter (fun d => d.code == .noHttpMethods) = closing i contract

section
variable {contract : Option Interface}

/-- Reports of a kind that only methods make are those of the methods. -/
theorem filter_log {p : Diagnostic → Bool} (hpreamble : ∀ d, IsPreliminary d.code → p d = false)
    (hclosing : p (noHttpMethods i) = false) :
    (preamble set i ++ ((resolveMethods set ms).log ++ closing i contract)).filter p =
      (resolveMethods set ms).log.filter p := by
  have hbefore : (preamble set i).filter p = [] :=
    List.filter_eq_nil_iff.mpr (fun d hd => by simp [hpreamble d (code_of_mem_preamble hd)])
  have hbehind : (closing i contract).filter p = [] := by
    refine List.filter_eq_nil_iff.mpr (fun d hd => ?_)
    unfold closing at hd
    split at hd
    · simp [List.mem_singleton.mp hd, hclosing]
    · exact absurd hd List.not_mem_nil
  rw [List.filter_append, List.filter_append, hbefore, hbehind, List.append_nil, List.nil_append]

theorem filter_isLoss_log :
    (preamble set i ++ ((resolveMethods set ms).log ++ closing i contract)).filter isLoss =
      (resolveMethods set ms).log.filter isLoss :=
  filter_log (by rintro d (h | h | h) <;> simp [isLoss, h]) rfl

theorem filter_isAboutMethod_log :
    (preamble set i ++ ((resolveMethods set ms).log ++ closing i contract)).filter isAboutMethod =
      (resolveMethods set ms).log := by
  rw [filter_log (by rintro d (h | h | h) <;> simp [isAboutMethod, isLoss, h]) rfl]
  exact List.filter_eq_self.mpr (fun d hd => isAboutMethod_of_mem_log hd)

theorem filter_noHttpMethods_log :
    (preamble set i ++ ((resolveMethods set ms).log ++ closing i contract)).filter
      (fun d => d.code == .noHttpMethods) = closing i contract := by
  have hbefore : (preamble set i).filter (fun d => d.code == .noHttpMethods) = [] := by
    refine List.filter_eq_nil_iff.mpr (fun d hd => ?_)
    rcases code_of_mem_preamble hd with h | h | h <;> simp [h]
  have hmethods : (resolveMethods set ms).log.filter (fun d => d.code == .noHttpMethods) = [] := by
    refine List.filter_eq_nil_iff.mpr (fun d hd hcode => ?_)
    have habout := isAboutMethod_of_mem_log hd
    simp [isAboutMethod, isLoss, eq_of_beq hcode] at habout
  have hbehind : (closing i contract).filter (fun d => d.code == .noHttpMethods) =
      closing i contract := by
    unfold closing
    split <;> rfl
  rw [List.filter_append, List.filter_append, hbefore, hmethods, hbehind, List.nil_append,
    List.nil_append]

theorem length_collected (ms : List InheritedMethod) :
    ms.length = (resolveMethods set ms).value.length +
      ((resolveMethods set ms).log.filter isLoss).length := by
  have hkept := (forall₂_resolveMethods set ms).length_eq
  have hlost := congrArg List.length (location_losses set ms)
  rw [List.length_map, List.length_map] at hlost
  rw [← hkept, hlost, Nat.add_comm]
  exact List.length_eq_length_filter_add _

theorem resolveMethods_eq_nil_iff :
    (resolveMethods set ms).value = [] ↔ ∀ m ∈ ms, isDropped set m = true := by
  simp [value_resolveMethods, isDropped]

/-- A method that is left out adds its reports and changes nothing else. -/
theorem resolveMethods_dropped (front back : List InheritedMethod) (h : isDropped set m = true) :
    (resolveMethods set (front ++ m :: back)).value = (resolveMethods set (front ++ back)).value ∧
      ∃ before after, (resolveMethods set (front ++ back)).log = before ++ after ∧
        (resolveMethods set (front ++ m :: back)).log =
          before ++ (keepMethod set m).log ++ after := by
  have hnone : (keepMethod set m).value = none := Option.isNone_iff_eq_none.mp h
  constructor
  · simp [value_resolveMethods, hnone]
  · refine ⟨(resolveMethods set front).log, (resolveMethods set back).log, ?_, ?_⟩
    · simp [log_resolveMethods]
    · simp [log_resolveMethods]

end

/-- **Resolution loses no method silently.** -/
theorem resolveInterface_accountsForMethods {a : Annotation}
    (hannotated : i.annotated? clientAnnotations = some a)
    (hclient : clientDescriptor a = .ok client) (hconcrete : client.isAbstract = false) :
    ∃ contract log, resolveInterface set i = ⟨.ok contract, log⟩ ∧
      AccountsForMethods set i contract log := by
  obtain ⟨contract, hmethods, hnone, hresolve⟩ := exists_resolveClient set i client
  -- None of the three checks before the client is resolved stops here.
  have hresult : resolveInterface set i = ⟨.ok (resolveClient set i client).value,
      (resolveClient set i client).log⟩ := by
    simp only [resolveInterface, hannotated, hclient, hconcrete, Bool.false_eq_true, if_false]
  rw [hresolve] at hresult
  refine ⟨_, _, hresult, ?_⟩
  constructor
  case subsequence =>
    refine ⟨(collected set i).filter (fun m => !isDropped set m), List.filter_sublist, ?_⟩
    rw [hmethods]
    exact forall₂_resolveMethods set _
  case counted =>
    rw [hmethods, filter_isLoss_log]
    exact length_collected _
  case located => rw [filter_isLoss_log, location_losses]
  case undisturbed =>
    intro front m back hcollected hdropped
    rw [hmethods, filter_isAboutMethod_log, hcollected]
    exact resolveMethods_dropped front back hdropped
  case contract_eq_none => rw [hnone, resolveMethods_eq_nil_iff]
  case empty => exact filter_noHttpMethods_log

/-- A client with methods that can be resolved, one without a verb, one with two bodies, and
one whose content type cannot be read. -/
def storeApi : Declaration.Interface :=
  { name := "IStoreApi"
    ancestors := []
    annotations := [.marker "HttpClientApi"]
    methods :=
      [⟨"Find", some ⟨some "Item", true⟩, [⟨"Get", [.text "/items/{id}"], []⟩], []⟩,
        ⟨"Note", none, [], []⟩,
        ⟨"Move", none, [.marker "Put"],
          [⟨"source", "Item", none, [.marker "Body"]⟩,
            ⟨"target", "Item", none, [.marker "Body"]⟩]⟩,
        ⟨"Send", none, [⟨"Post", [.text "/items/{id}"], []⟩, ⟨"ContentType", [.list []], []⟩], []⟩,
        ⟨"Ping", none, [.marker "Head"], []⟩]
    source := "store.yaml" }

theorem storeApi_accountsForMethods :
    (collected ⟨[], [storeApi]⟩ storeApi).map (isDropped ⟨[], [storeApi]⟩) =
        [false, true, true, true, false] ∧
      ∃ contract log, resolveInterface ⟨[], [storeApi]⟩ storeApi = ⟨.ok contract, log⟩ ∧
        AccountsForMethods ⟨[], [storeApi]⟩ storeApi contract log := by
  have hannotated : storeApi.annotated? clientAnnotations = some (.marker "HttpClientApi") := rfl
  have hclient : clientDescriptor (.marker "HttpClientApi") =
      .ok ⟨none, none, none, none, false, none⟩ := rfl
  refine ⟨?_, resolveInterface_accountsForMethods hannotated hclient rfl⟩
  rw [collected, DeclarationSet.lineage_root rfl]
  with_unfolding_all rfl

end Contract
end ClientSynth
