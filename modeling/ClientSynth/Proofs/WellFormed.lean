import ClientSynth.Contract.Resolution
import ClientSynth.Proofs.DeclaredType
import ClientSynth.Proofs.InheritedMethod
import ClientSynth.Proofs.Lineage
import ClientSynth.Proofs.Role
import ClientSynth.Proofs.Trim

/-! # Well-formed contracts

What code generation takes for granted about a contract: parameters whose roles
fit their types, methods that can be called, interfaces with something to
generate.  No single stage establishes all of it.  A role is chosen with its
type in view, a name that comes twice stops a method or is dropped by the
collection of methods, several bodies or tokens of either scope stop a method
after its parameters have been resolved, and an abstract client never gets that
far.  Each stage has one statement here about what a success of it means; the
last one collects them for whatever `Contract.resolveAll` returns. -/
namespace ClientSynth
namespace Contract

open Declaration (InheritedMethod)
open Success

/-! ## The conditions -/

/-- The conditions on a parameter. -/
structure Parameter.WellFormed (p : Parameter) : Prop where
  /-- Cancelling is told by the type, and by nothing else. -/
  cancellation : p.role = .cancellation ↔ p.type.family = .cancellation
  /-- A query of items has items. -/
  items : ∀ key separator, p.role = .arrayQuery key separator →
    p.type.family = .sequence ∧ p.type.element.isSome
  /-- A query of one value has no items. -/
  single : ∀ b, p.role = .query b → p.type.family ≠ .sequence
  textShape : ∀ b, p.role = .query b → (b.shape = .text ↔ p.type.family = .text)
  objectShape : ∀ b, p.role = .query b → (b.shape = .object ↔ p.type.family = .object)
  valueShape : ∀ b, p.role = .query b →
    (b.shape = .value ↔ p.type.family ≠ .text ∧ p.type.family ≠ .object)

/-- The conditions on a method. -/
structure Method.WellFormed (m : Method) : Prop where
  parameters : ∀ p ∈ m.parameters, p.WellFormed
  names : (m.parameters.map Parameter.name).Nodup
  oneBody : (m.parameters.filter (fun p => p.role.isBody)).length ≤ 1
  oneBothToken : (m.parameters.filter (fun p => p.role.isBothToken)).length ≤ 1
  /-- A result type that is declared says something. -/
  result : ∀ t, m.returns.value? = some t → Text.isBlankText t.raw = false ∧ t.raw ≠ "()"

/-- The conditions on an interface. -/
structure Interface.WellFormed (i : Interface) : Prop where
  concrete : i.client.isAbstract = false
  methods : ∀ m ∈ i.methods, m.WellFormed
  nonempty : i.methods ≠ []
  names : (i.methods.map Method.name).Nodup

/-! ## Parameters -/

section Parameters
variable {set : DeclarationSet}

theorem parameterOf_eq_ok {d : Declaration.Parameter} {p : Parameter}
    (h : parameterOf set d = .ok p) :
    p.name = d.name ∧ p.type = .parse set.isEnumeration d.type ∧
      Role.classify d p.type = .ok p.role := by
  obtain ⟨role, hrole, rfl⟩ := map_eq_ok.mp h
  exact ⟨rfl, rfl, hrole⟩

/-- A resolved parameter is well formed. -/
theorem parameterOf_wellFormed {d : Declaration.Parameter} {p : Parameter}
    (h : parameterOf set d = .ok p) : p.WellFormed := by
  obtain ⟨-, htype, hrole⟩ := parameterOf_eq_ok h
  have hfits := classify_fits hrole
  have helement : p.type.element.isSome ↔ p.type.family = .sequence := by
    rw [htype]
    exact DeclaredType.isSome_element_ofChars _ _
  refine ⟨⟨?_, ?_⟩, ?_, ?_, ?_, ?_, ?_⟩
  · intro hr
    rwa [hr] at hfits
  · intro hfamily
    rw [Role.classify, if_pos hfamily] at hrole
    exact (Except.ok.inj hrole).symm
  · intro key separator hr
    rw [hr] at hfits
    exact ⟨hfits, helement.mpr hfits⟩
  all_goals
    intro b hr
    rw [hr] at hfits
    obtain ⟨hc, hs, hshape⟩ := hfits
  · exact hs
  all_goals
    rw [hshape]
    cases hf : p.type.family <;> simp_all [shapeOf]

/-- Parameters resolve one by one, in order. -/
theorem parametersOf_eq_ok {seen : List String} {ds : List Declaration.Parameter}
    {ps : List Parameter} (h : parametersOf set seen ds = .ok ps) :
    (∀ d ∈ ds, d.name ∉ seen) ∧ (ds.map Declaration.Parameter.name).Nodup ∧
      ds.map (parameterOf set) = ps.map Except.ok := by
  -- `seen` grows along the list, so a later name differs from all before it.
  induction ds generalizing seen ps with
  | nil =>
    cases h
    exact ⟨by simp, List.nodup_nil, rfl⟩
  | cons d rest ih =>
    unfold parametersOf at h
    split at h
    · cases h
    · rename_i hnew
      obtain ⟨p, hp, h⟩ := bind_eq_ok.mp h
      obtain ⟨others, hothers, h⟩ := bind_eq_ok.mp h
      cases pure_eq_ok.mp h
      obtain ⟨hseen, hnodup, hmap⟩ := ih hothers
      refine ⟨?_, ?_, ?_⟩
      · intro d' hd'
        rcases List.mem_cons.mp hd' with rfl | hd'
        · simpa using hnew
        · exact fun hin => hseen d' hd' (List.mem_cons_of_mem _ hin)
      · refine List.nodup_cons.mpr ⟨?_, hnodup⟩
        intro hin
        obtain ⟨d', hd', hname⟩ := List.mem_map.mp hin
        exact hseen d' hd' (hname ▸ List.mem_cons_self)
      · rw [List.map_cons, List.map_cons, reworded_eq_ok.mp hp, hmap]

/-- What each contract takes over from its declaration, the contracts take over in order. -/
theorem map_of_resolved {α : Type} {view : Parameter → α} {viewOf : Declaration.Parameter → α}
    (hview : ∀ d p, parameterOf set d = .ok p → view p = viewOf d)
    {ds : List Declaration.Parameter} {ps : List Parameter}
    (h : ds.map (parameterOf set) = ps.map Except.ok) : ps.map view = ds.map viewOf := by
  induction ds generalizing ps with
  | nil =>
    rw [List.map_nil, eq_comm, List.map_eq_nil_iff] at h
    rw [h]
    rfl
  | cons d rest ih =>
    cases ps with
    | nil => cases h
    | cons p ps =>
      obtain ⟨hp, hrest⟩ := List.cons.inj h
      rw [List.map_cons, List.map_cons, ih hrest, hview d p hp]

/-- A list that resolves keeps its names. -/
theorem names_of_resolved {ds : List Declaration.Parameter} {ps : List Parameter}
    (h : ds.map (parameterOf set) = ps.map Except.ok) :
    ps.map Parameter.name = ds.map Declaration.Parameter.name :=
  map_of_resolved (fun _ _ hp => (parameterOf_eq_ok hp).1) h

theorem wellFormed_of_resolved {ds : List Declaration.Parameter} {ps : List Parameter}
    (h : ds.map (parameterOf set) = ps.map Except.ok) : ∀ p ∈ ps, p.WellFormed := by
  intro p hp
  have hmem : Except.ok p ∈ ds.map (parameterOf set) := h ▸ List.mem_map.mpr ⟨p, hp, rfl⟩
  obtain ⟨d, -, hd⟩ := List.mem_map.mp hmem
  exact parameterOf_wellFormed hd

end Parameters

/-! ## Methods -/

section Methods
variable {set : DeclarationSet} {m : InheritedMethod}

/-- A result type is what was declared, without the blanks around it. -/
theorem returnsOf_value {r : Option Declaration.Result} {returns : Returns} {t : DeclaredType}
    (h : returnsOf set r = .ok returns) (ht : returns.value? = some t) :
    ∃ d s, r = some d ∧ declaredResult? d = some s ∧ t = .parse set.isEnumeration s := by
  cases r with
  | none =>
    cases h
    cases ht
  | some d =>
    simp only [returnsOf] at h
    split at h
    · rename_i s _ hs
      cases h
      exact ⟨d, s, rfl, hs, (Option.some.inj ht).symm⟩
    · cases h
      cases ht
    · rename_i s _ hs
      cases h
      exact ⟨d, s, rfl, hs, (Option.some.inj ht).symm⟩
    · cases h

theorem declaredResult?_eq_some {d : Declaration.Result} {s : String}
    (h : declaredResult? d = some s) : Text.stripBlanks s = s ∧ s ≠ "" ∧ s ≠ "()" := by
  obtain ⟨hs, hkeep⟩ := Option.filter_eq_some_iff.mp h
  obtain ⟨written, -, rfl⟩ := Option.map_eq_some_iff.mp hs
  refine ⟨Text.stripBlanks_stripBlanks written, ?_⟩
  simpa [String.isEmpty_iff] using hkeep

theorem returnsOf_says_something {r : Option Declaration.Result} {returns : Returns}
    {t : DeclaredType} (h : returnsOf set r = .ok returns) (ht : returns.value? = some t) :
    Text.isBlankText t.raw = false ∧ t.raw ≠ "()" := by
  obtain ⟨d, s, -, hs, rfl⟩ := returnsOf_value h ht
  obtain ⟨htrimmed, hnonempty, hunit⟩ := declaredResult?_eq_some hs
  rw [DeclaredType.raw_parse, htrimmed]
  refine ⟨?_, hunit⟩
  cases hblank : Text.isBlankText s with
  | false => rfl
  | true => exact absurd (Text.eq_empty_of_isBlankText htrimmed hblank) hnonempty

theorem outline_eq_ok {d : Declaration.Method} {a : Annotation} {o : Outline}
    (h : outline set d a = .ok o) :
    returnsOf set d.returns = .ok o.returns ∧
      parametersOf set [] d.parameters = .ok o.parameters := by
  simp only [outline, bind_eq_ok] at h
  obtain ⟨url, -, returns, hreturns, parameters, hparameters, h⟩ := h
  cases pure_eq_ok.mp h
  exact ⟨hreturns, hparameters⟩

/-- What it takes for a method to have a contract, and what the contract is. -/
theorem resolveMethod_eq_some {method : Method}
    (h : (resolveMethod set m).value = .ok (some method)) :
    ∃ verb a o contentType, verb? m.method = some (verb, a) ∧ outline set m.method a = .ok o ∧
      (o.parameters.filter (fun p => p.role.isBody)).length ≤ 1 ∧
      (o.parameters.filter (fun p => p.role.isBothToken)).length ≤ 1 ∧
      contentTypeOf m.method = .ok contentType ∧
      method =
        { name := m.method.name
          verb := verb
          urlTemplate := o.urlTemplate
          returns := o.returns
          parameters := o.parameters
          contentType := contentType
          ignoreImplementation := m.method.isAnnotated "IgnoreImplementation"
          ignoreWrap := m.method.isAnnotated "IgnoreWrap"
          declaredIn := m.owner.name } := by
  unfold resolveMethod at h
  -- Each check that fails ends without a method.
  split at h
  · cases h
  · rename_i verb a hverb
    split at h
    · cases h
    · rename_i o ho
      dsimp only at h
      split at h
      · cases h
      · rename_i hbodies
        split at h
        · cases h
        · rename_i hboth
          split at h
          · cases h
          · rename_i contentType hcontentType
            exact ⟨verb, a, o, contentType, hverb, ho, Nat.le_of_not_lt hbodies,
              Nat.le_of_not_lt hboth, hcontentType, (Option.some.inj (Except.ok.inj h)).symm⟩

theorem resolveMethod_wellFormed {method : Method}
    (h : (resolveMethod set m).value = .ok (some method)) : method.WellFormed := by
  obtain ⟨verb, a, o, contentType, -, ho, hbodies, hboth, -, rfl⟩ := resolveMethod_eq_some h
  obtain ⟨hreturns, hparameters⟩ := outline_eq_ok ho
  obtain ⟨-, hnodup, hresolved⟩ := parametersOf_eq_ok hparameters
  exact
    { parameters := wellFormed_of_resolved hresolved
      names := names_of_resolved hresolved ▸ hnodup
      oneBody := hbodies
      oneBothToken := hboth
      result := fun _ ht => returnsOf_says_something hreturns ht }

theorem resolveMethod_of_keepMethod {method : Method}
    (h : (keepMethod set m).value = some method) :
    (resolveMethod set m).value = .ok (some method) := by
  unfold keepMethod at h
  dsimp only at h
  split at h
  · rename_i kept hkept
    rw [hkept, show kept = some method from h]
  · cases h

theorem name_of_keepMethod {method : Method} (h : (keepMethod set m).value = some method) :
    method.name = m.method.name := by
  obtain ⟨_, _, _, _, -, -, -, -, -, rfl⟩ := resolveMethod_eq_some (resolveMethod_of_keepMethod h)
  rfl

end Methods

/-! ## Interfaces -/

section Interfaces
variable {set : DeclarationSet}

/-- Keeping some items and naming them alike keeps the order of the names. -/
theorem map_filterMap_sublist {α β γ : Type} {f : α → Option β} {nameOf : α → γ}
    {name : β → γ} (hname : ∀ a b, f a = some b → name b = nameOf a) (l : List α) :
    ((l.filterMap f).map name).Sublist (l.map nameOf) := by
  induction l with
  | nil => exact List.Sublist.slnil
  | cons a rest ih =>
    cases hf : f a with
    | none =>
      rw [List.filterMap_cons_none hf]
      exact ih.cons _
    | some b =>
      rw [List.filterMap_cons_some hf, List.map_cons, List.map_cons, hname a b hf]
      exact ih.cons_cons _

/-- And it keeps them distinct. -/
theorem nodup_filterMap {α β : Type} {f : α → Option β} {nameOf : α → String}
    {name : β → String} (hname : ∀ a b, f a = some b → name b = nameOf a) {l : List α}
    (h : (l.map nameOf).Nodup) : ((l.filterMap f).map name).Nodup :=
  h.sublist (map_filterMap_sublist hname l)

theorem value_eachSome {α β : Type} (f : α → Reported (Option β)) (l : List α) :
    (Reported.eachSome f l).value = l.filterMap (fun a => (f a).value) := by
  rw [Reported.eachSome, Reported.value_each, List.filterMap_map]
  rfl

/-- What it takes for a client to have a contract, and what the contract is. -/
theorem resolveClient_eq_some {i : Declaration.Interface} {client : ClientDescriptor}
    {contract : Interface} (h : (resolveClient set i client).value = some contract) :
    contract.methods ≠ [] ∧ contract.client = client ∧
      contract.methods =
        (InheritedMethod.collect (set.lineage i).value).value.filterMap
          (fun m => (keepMethod set m).value) := by
  simp only [resolveClient, Reported.value_bind, value_eachSome] at h
  split at h
  · cases h
  · rename_i hne
    cases h
    refine ⟨?_, rfl, rfl⟩
    simpa using hne

theorem resolveClient_wellFormed {i : Declaration.Interface} {client : ClientDescriptor}
    {contract : Interface} (hclient : client.isAbstract = false)
    (h : (resolveClient set i client).value = some contract) : contract.WellFormed := by
  obtain ⟨hne, hdescriptor, hmethods⟩ := resolveClient_eq_some h
  refine ⟨?_, ?_, hne, ?_⟩
  · rw [hdescriptor]
    exact hclient
  · intro method hmethod
    rw [hmethods] at hmethod
    obtain ⟨m, -, hkept⟩ := List.mem_filterMap.mp hmethod
    exact resolveMethod_wellFormed (resolveMethod_of_keepMethod hkept)
  · rw [hmethods]
    exact nodup_filterMap (fun _ _ hkept => name_of_keepMethod hkept)
      (InheritedMethod.collect_nodup _)

/-- What is kept of an interface is the contract of a client that is not abstract. -/
theorem resolveClient_of_keepInterface {i : Declaration.Interface} {contract : Interface}
    (h : (keepInterface set i).value = some contract) :
    ∃ client : ClientDescriptor, client.isAbstract = false ∧
      (resolveClient set i client).value = some contract := by
  unfold keepInterface at h
  dsimp only at h
  split at h
  · rename_i kept hkept
    cases h
    unfold resolveInterface at hkept
    split at hkept
    · cases hkept
    · split at hkept
      · cases hkept
      · split at hkept
        · cases hkept
        · rename_i client _ hclient
          exact ⟨client, Bool.eq_false_iff.mpr hclient, Except.ok.inj hkept⟩
  · cases h

theorem keepInterface_wellFormed {i : Declaration.Interface} {contract : Interface}
    (h : (keepInterface set i).value = some contract) : contract.WellFormed := by
  obtain ⟨client, hclient, hresolved⟩ := resolveClient_of_keepInterface h
  exact resolveClient_wellFormed hclient hresolved

/-- A contract is called like the interface that it is of. -/
theorem name_of_keepInterface {i : Declaration.Interface} {contract : Interface}
    (h : (keepInterface set i).value = some contract) : contract.name = i.name := by
  obtain ⟨client, -, hresolved⟩ := resolveClient_of_keepInterface h
  simp only [resolveClient, Reported.value_bind] at hresolved
  split at hresolved
  · cases hresolved
  · cases hresolved
    rfl

end Interfaces

/-- **Every contract is well formed.**  Whatever is declared and whichever
interfaces are asked for, each contract that comes out meets the conditions. -/
theorem resolveAll_wellFormed (set : DeclarationSet) (select : String → Bool) :
    ∀ contract ∈ (resolveAll set select).value, contract.WellFormed := by
  intro contract h
  rw [resolveAll, value_eachSome] at h
  obtain ⟨i, -, hkept⟩ := List.mem_filterMap.mp h
  exact keepInterface_wellFormed hkept

/-- **Contracts come in the order of the declarations**, at most one for each. -/
theorem names_resolveAll (set : DeclarationSet) (select : String → Bool) :
    (((resolveAll set select).value).map Interface.name).Sublist
      (set.interfaces.map Declaration.Interface.name) := by
  rw [resolveAll, value_eachSome]
  exact (map_filterMap_sublist (fun _ _ hkept => name_of_keepInterface hkept) _).trans
    (List.filter_sublist.map _)

/-- What is kept of a declared interface that is asked for is among all contracts. -/
theorem mem_resolveAll {set : DeclarationSet} {select : String → Bool} {i : Declaration.Interface}
    {contract : Interface} (hdeclared : i ∈ set.interfaces) (hselect : select i.name = true)
    (hkept : (keepInterface set i).value = some contract) :
    contract ∈ (resolveAll set select).value := by
  rw [resolveAll, value_eachSome]
  exact List.mem_filterMap.mpr ⟨i, List.mem_filter.mpr ⟨hdeclared, hselect⟩, hkept⟩

/-- A client that is declared alone and extends nothing has a contract with the methods
that can be resolved, unless there are none. -/
theorem exists_contract {i : Declaration.Interface} (client : ClientDescriptor)
    {α : Type} (view : Method → α) (views : List α) (hancestors : i.ancestors = [])
    (hclient : (keepInterface ⟨[], [i]⟩ i).value = (resolveClient ⟨[], [i]⟩ i client).value)
    (hne : views ≠ [])
    (hviews : ((InheritedMethod.collect [i]).value.filterMap
      (fun m => (keepMethod ⟨[], [i]⟩ m).value)).map view = views) :
    ∃ contract ∈ (resolveAll ⟨[], [i]⟩ (fun name => name == i.name)).value,
      contract.methods.map view = views := by
  have hmethods : ((InheritedMethod.collect [i]).value.filterMap
      (fun m => (keepMethod ⟨[], [i]⟩ m).value)).isEmpty = false := by
    rw [List.isEmpty_eq_false_iff]
    intro hnil
    rw [hnil] at hviews
    exact hne hviews.symm
  simp only [resolveClient, Reported.value_bind, DeclarationSet.lineage_root hancestors,
    value_eachSome, hmethods, Bool.false_eq_true, if_false] at hclient
  refine ⟨_, mem_resolveAll List.mem_cons_self (beq_self_eq_true i.name) hclient, ?_⟩
  exact hviews

/-- An interface that extends the client which extends it, and declares one of
its methods again. -/
def baseApi : Declaration.Interface :=
  { name := "IBaseApi"
    ancestors := ["IOrderApi"]
    annotations := []
    methods := [⟨"Ping", none, [.marker "Head"], []⟩, ⟨"FindOrders", none, [.marker "Get"], []⟩]
    source := "base.yaml" }

/-- A client with parameters of several roles. -/
def orderApi : Declaration.Interface :=
  { name := "IOrderApi"
    ancestors := ["IBaseApi"]
    annotations := [.marker "HttpClientApi"]
    methods :=
      [⟨"FindOrders", some ⟨some " Vec<Order> ", true⟩, [⟨"Get", [.text "/orders/{id}"], []⟩],
        [⟨"id", "i64", none, [.marker "Path"]⟩,
          ⟨"tags", "Option<Vec<String>>", none, [.marker "Query"]⟩,
          ⟨"filter", "OrderFilter", none, [.marker "Query"]⟩,
          ⟨"cancel", "&CancellationToken", none, [.marker "Body"]⟩]⟩]
    source := "orders.yaml" }

/-- The two interfaces together. -/
def orderDeclarations : DeclarationSet := ⟨[], [orderApi, baseApi]⟩

theorem lineage_orderApi : orderDeclarations.lineage orderApi = ⟨[orderApi, baseApi], []⟩ := by
  have hbase : orderDeclarations.interface? "IBaseApi" = some baseApi := rfl
  have horder : orderDeclarations.interface? "IOrderApi" = some orderApi := rfl
  show Reported.mk _ _ = _
  rw [show orderApi.ancestors.map (fun a => (orderApi, a)) = [(orderApi, "IBaseApi")] from rfl,
    DeclarationSet.follow_new hbase rfl,
    show baseApi.ancestors.map (fun a => (baseApi, a)) ++ [] = [(baseApi, "IOrderApi")] from rfl,
    DeclarationSet.follow_listed horder rfl, DeclarationSet.follow_nil]
  rfl

theorem orderApi_wellFormed :
    ∃ contract ∈ (resolveAll orderDeclarations (fun name => name == "IOrderApi")).value,
      contract.methods.map Method.name = ["FindOrders", "Ping"] ∧ contract.WellFormed := by
  have hclient : (keepInterface orderDeclarations orderApi).value =
      (resolveClient orderDeclarations orderApi ⟨none, none, none, none, false, none⟩).value := rfl
  have hnames : (keepInterface orderDeclarations orderApi).value.map
      (fun contract => contract.methods.map Method.name) = some ["FindOrders", "Ping"] := by
    rw [hclient]
    simp only [resolveClient, Reported.value_bind, lineage_orderApi]
    with_unfolding_all rfl
  obtain ⟨contract, hkept, hnames⟩ := Option.map_eq_some_iff.mp hnames
  have hmem : contract ∈
      (resolveAll orderDeclarations (fun name => name == "IOrderApi")).value := by
    rw [resolveAll, value_eachSome]
    exact List.mem_filterMap.mpr ⟨orderApi, List.mem_cons_self, hkept⟩
  exact ⟨contract, hmem, hnames, resolveAll_wellFormed _ _ contract hmem⟩

end Contract
end ClientSynth
