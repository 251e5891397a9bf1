import ClientSynth.Proofs.Preorder
import ClientSynth.Proofs.WellFormed

/-! # Resolution is local

Resolving an interface looks up enumerations, for the types in its methods, and the names
that the interfaces it brings together extend.  Two sets that answer these look-ups alike
are walked in step, so they give the same lineage with the same reports; from there on
nothing is asked of the set but enumerations.  The sets may differ in anything else. -/
namespace ClientSynth

open Declaration

namespace DeclarationSet

variable {set other : DeclarationSet} {root : Interface}

/-- `name` stands among the ancestors of `root` or of something that `root` extends,
directly or not. -/
def Mentions (set : DeclarationSet) (root : Interface) (name : String) : Prop :=
  ∃ i, set.Reaches root i ∧ name ∈ i.ancestors

/-- What two sets must have in common for an interface to mean the same in both. -/
structure AgreesFor (set other : DeclarationSet) (root : Interface) : Prop where
  enumerations : ∀ name, set.enumeration? name = other.enumeration? name
  /-- The same declaration, or none in either. -/
  interfaces : ∀ name, set.Mentions root name → set.interface? name = other.interface? name

theorem Mentions.reaches {name : String} {parent : Interface} (h : set.Mentions root name)
    (hparent : set.interface? name = some parent) : set.Reaches root parent := by
  obtain ⟨i, hi, hname⟩ := h
  exact hi.tail ⟨name, hname, hparent⟩

/-- As long as only mentioned names wait, both sets are walked in step. -/
theorem AgreesFor.follow_eq (h : set.AgreesFor other root) {visited : List String}
    {pending : List (Interface × String)} (hpending : ∀ p ∈ pending, set.Mentions root p.2) :
    follow set visited pending = follow other visited pending := by
  induction visited, pending using follow.induct set with
  | case1 visited => rw [follow_nil, follow_nil]
  | case2 visited owner name rest hname ih =>
      obtain ⟨hmentioned, hrest⟩ := List.forall_mem_cons.mp hpending
      have hother := (h.interfaces name hmentioned).symm.trans hname
      rw [follow_undeclared hname, follow_undeclared hother, ih hrest]
  | case3 visited owner name rest parent hname hlisted ih =>
      obtain ⟨hmentioned, hrest⟩ := List.forall_mem_cons.mp hpending
      have hother := (h.interfaces name hmentioned).symm.trans hname
      rw [follow_listed hname hlisted, follow_listed hother hlisted, ih hrest]
  | case4 visited owner name rest parent hname hnew _ ih =>
      obtain ⟨hmentioned, hrest⟩ := List.forall_mem_cons.mp hpending
      have hother := (h.interfaces name hmentioned).symm.trans hname
      have hnew : visited.contains parent.name = false := Bool.eq_false_iff.mpr hnew
      -- What an interface that is reached extends is mentioned in turn.
      have hlater : ∀ p ∈ parent.ancestors.map (fun a => (parent, a)) ++ rest,
          set.Mentions root p.2 := by
        intro p hp
        rcases List.mem_append.mp hp with hp | hp
        · obtain ⟨a, ha, rfl⟩ := List.mem_map.mp hp
          exact ⟨parent, hmentioned.reaches hname, ha⟩
        · exact hrest p hp
      rw [follow_new hname hnew, follow_new hother hnew, ih hlater]

theorem AgreesFor.lineage_eq (h : set.AgreesFor other root) :
    set.lineage root = other.lineage root := by
  have hpending : ∀ p ∈ root.ancestors.map (fun a => (root, a)), set.Mentions root p.2 := by
    intro p hp
    obtain ⟨a, ha, rfl⟩ := List.mem_map.mp hp
    exact ⟨root, .refl, ha⟩
  rw [lineage, lineage, h.follow_eq hpending]

end DeclarationSet

namespace Contract

variable {set other : DeclarationSet}

/-! ### Methods ask for enumerations only -/

section
variable (h : ∀ name, set.enumeration? name = other.enumeration? name)
include h

theorem isEnumeration_congr : set.isEnumeration = other.isEnumeration :=
  funext (fun name => congrArg Option.isSome (h name))

theorem parameterOf_congr (d : Declaration.Parameter) :
    parameterOf set d = parameterOf other d := by
  unfold parameterOf
  simp only [isEnumeration_congr h, h]

theorem parametersOf_congr (seen : List String) (ds : List Declaration.Parameter) :
    parametersOf set seen ds = parametersOf other seen ds := by
  induction ds generalizing seen with
  | nil => rfl
  | cons d ds ih => rw [parametersOf, parametersOf, parameterOf_congr h, ih]

theorem outline_congr (d : Declaration.Method) (a : Annotation) :
    outline set d a = outline other d a := by
  unfold outline returnsOf
  simp only [isEnumeration_congr h, parametersOf_congr h]

/-- The contract of a method and its reports are the same in sets with the same
enumerations. -/
theorem keepMethod_congr (m : InheritedMethod) : keepMethod set m = keepMethod other m := by
  unfold keepMethod resolveMethod
  simp only [outline_congr h]

end

/-! ### The whole resolution -/

/-- **Resolution depends only on what can be reached.** -/
theorem resolveInterface_eq_of_agreesFor {root : Declaration.Interface}
    (h : set.AgreesFor other root) : resolveInterface set root = resolveInterface other root := by
  have hmethods : keepMethod set = keepMethod other :=
    funext (keepMethod_congr h.enumerations)
  unfold resolveInterface resolveClient
  rw [h.lineage_eq, hmethods]

/-- The states of a bill. -/
def billState : Enumeration := ⟨"BillState", [⟨"Open", none⟩, ⟨"Paid", none⟩]⟩

/-- A client that extends something undeclared and something that leads back to it. -/
def billApi : Declaration.Interface :=
  { name := "IBillApi"
    ancestors := ["IAuditApi", "IMissing"]
    annotations := [.marker "HttpClientApi"]
    methods :=
      [⟨"Find", some ⟨some "Bill", true⟩, [⟨"Get", [.text "/bills"], []⟩],
        [⟨"state", "BillState", some (.text "Paid"), [.marker "Query"]⟩]⟩]
    source := "bill.yaml" }

/-- What it extends. -/
def auditApi : Declaration.Interface :=
  { name := "IAuditApi"
    ancestors := ["IBillApi"]
    annotations := []
    methods := [⟨"Ping", none, [.marker "Head"], []⟩]
    source := "audit.yaml" }

/-- An interface that a bill has nothing to do with. -/
def stockApi : Declaration.Interface :=
  { name := "IStockApi"
    ancestors := ["IBillApi", "INowhere"]
    annotations := [.marker "HttpClientApi"]
    methods := [⟨"Find", none, [], []⟩]
    source := "stock.yaml" }

/-- A set in which a bill can be resolved, and another one. -/
def billSet : DeclarationSet := ⟨[billState], [billApi, auditApi]⟩

/-- The same declarations in another order, and one more that extends a bill. -/
def stockSet : DeclarationSet := ⟨[billState], [stockApi, auditApi, billApi]⟩

theorem reaches_billApi {i : Declaration.Interface} (h : billSet.Reaches billApi i) :
    i = billApi ∨ i = auditApi := by
  induction h with
  | refl => exact Or.inl rfl
  | tail _ hextends ih =>
      obtain ⟨name, hname, hdeclared⟩ := hextends
      rcases ih with rfl | rfl
      · rcases List.mem_cons.mp hname with rfl | hname
        · exact Or.inr (Option.some.inj hdeclared).symm
        · rw [List.mem_singleton.mp hname] at hdeclared
          cases hdeclared
      · rw [List.mem_singleton.mp hname] at hdeclared
        exact Or.inl (Option.some.inj hdeclared).symm

theorem agreesFor_billApi : billSet.AgreesFor stockSet billApi := by
  refine ⟨fun _ => rfl, ?_⟩
  rintro name ⟨i, hi, hname⟩
  rcases reaches_billApi hi with rfl | rfl
  · rcases List.mem_cons.mp hname with rfl | hname
    · rfl
    · rw [List.mem_singleton.mp hname]
      rfl
  · rw [List.mem_singleton.mp hname]
    rfl

theorem billApi_local :
    (billSet.lineage billApi).value.map Declaration.Interface.name = ["IBillApi", "IAuditApi"] ∧
      (billSet.lineage billApi).log = [DeclarationSet.unknownAncestor billApi "IMissing"] ∧
      billSet.AgreesFor stockSet billApi ∧
      resolveInterface billSet billApi = resolveInterface stockSet billApi := by
  refine ⟨?_, ?_, agreesFor_billApi, resolveInterface_eq_of_agreesFor agreesFor_billApi⟩
  · cbv
  · cbv

end Contract
end ClientSynth
