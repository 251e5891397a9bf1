import ClientSynth.Layer.Client
import ClientSynth.Proofs.Spelling
import ClientSynth.Proofs.WellFormed

/-! # Names in signatures

Methods and parameters are told apart by their declared names, and declared under
identifiers.  Different names need not have different identifiers: methods clash if they
have the same words, and parameters if they are spelled alike.  Nothing keeps either of
them from being declared side by side. -/
namespace ClientSynth

open Contract Code

/-- Two ways to name things that tell the same things apart. -/
theorem nodup_map_iff {α β γ : Type} {f : α → β} {g : α → γ}
    (h : ∀ a b, f a = f b ↔ g a = g b) (l : List α) : (l.map f).Nodup ↔ (l.map g).Nodup := by
  rw [List.Nodup, List.pairwise_map, List.Nodup, List.pairwise_map]
  refine ⟨fun hf => hf.imp ?_, fun hg => hg.imp ?_⟩
  · intro a b hne heq
    exact hne ((h a b).mpr heq)
  · intro a b hne heq
    exact hne ((h a b).mp heq)

theorem Request.name_methodDeclaration (m : Method) :
    (Request.methodDeclaration m).name = m.name := rfl

theorem Request.params_methodDeclaration (m : Method) :
    (Request.methodDeclaration m).params = m.parameters.map (fun p => (p.name, p.type.raw)) := rfl

namespace Layer

/-! ### The methods of an interface -/

/-- The identifiers under which the trait of an interface declares its methods. -/
def methodIdentifiers (i : Interface) : List String :=
  (interfaceTrait i).methods.map (fun f => Identifier.functionName f.name)

/-- **When a trait declares every function once**: exactly if no two methods of the
interface have the same words. -/
theorem methodIdentifiers_nodup_iff (i : Interface) :
    (methodIdentifiers i).Nodup ↔ (i.methods.map (fun m => Text.words m.name.toList)).Nodup := by
  have hnames : methodIdentifiers i = i.methods.map (fun m => Identifier.functionName m.name) := by
    simp only [methodIdentifiers, interfaceTrait, List.map_map, Function.comp_def,
      Request.name_methodDeclaration]
  rw [hnames]
  exact nodup_map_iff (fun m n => Identifier.functionName_eq_iff) i.methods

/-- A client that names two methods alike, each in its own case. -/
def userApi : Declaration.Interface :=
  { name := "IUserApi"
    ancestors := []
    annotations := [.marker "HttpClientApi"]
    methods :=
      [⟨"GetUser", some ⟨none, true⟩, [⟨"Get", [.text "/user"], []⟩], []⟩,
        ⟨"get_user", some ⟨none, true⟩, [⟨"Get", [.text "/user"], []⟩], []⟩]
    source := "user.yaml" }

/-- Both methods are kept, and the trait declares `get_user` twice. -/
theorem userApi_declares_twice :
    ∃ contract ∈ (resolveAll ⟨[], [userApi]⟩ (fun name => name == userApi.name)).value,
      ¬ (methodIdentifiers contract).Nodup := by
  obtain ⟨contract, hcontract, hwords⟩ := exists_contract (i := userApi)
    ⟨none, none, none, none, false, none⟩ (fun m => Text.words m.name.toList)
    (["GetUser", "get_user"].map (fun name => Text.words name.toList)) rfl rfl
    (by simp) (by with_unfolding_all rfl)
  refine ⟨contract, hcontract, fun hnodup => ?_⟩
  have hdistinct := (methodIdentifiers_nodup_iff contract).mp hnodup
  rw [hwords] at hdistinct
  revert hdistinct
  decide +kernel

end Layer

namespace Request

/-! ### The parameters of a method -/

/-- The identifiers under which the signature of a method declares its parameters. -/
def parameterIdentifiers (m : Method) : List String :=
  (methodDeclaration m).params.map (fun p => Identifier.variableName p.1)

/-- **When a signature declares every parameter once**: exactly if no two parameters of
the method are spelled alike. -/
theorem parameterIdentifiers_nodup_iff (m : Method) :
    (parameterIdentifiers m).Nodup ↔
      (m.parameters.map (fun p => Identifier.variableSpelling p.name)).Nodup := by
  have hnames : parameterIdentifiers m =
      m.parameters.map (fun p => Identifier.variableName p.name) := by
    simp only [parameterIdentifiers, params_methodDeclaration, List.map_map, Function.comp_def]
  rw [hnames]
  exact nodup_map_iff (fun p q => Identifier.variableName_eq_iff) m.parameters

-- Besides the case of letters, escaping can make two names alike.
example : Identifier.variableSpelling "Self" = Identifier.variableSpelling "self_" := by
  decide +kernel

/-- A client with a method whose parameters have one name, each in its own case. -/
def searchApi : Declaration.Interface :=
  { name := "IApi"
    ancestors := []
    annotations := [.marker "HttpClientApi"]
    methods :=
      [⟨"FindAsync", some ⟨none, true⟩, [⟨"Get", [.text "/find"], []⟩],
        [⟨"userId", "i64", none, [.marker "Query"]⟩, ⟨"user_id", "i64", none, [.marker "Query"]⟩]⟩]
    source := "in" }

/-- Both parameters are kept, and the signature declares `user_id` twice. -/
theorem searchApi_declares_twice :
    ∃ contract ∈ (resolveAll ⟨[], [searchApi]⟩ (fun name => name == searchApi.name)).value,
      ∃ m ∈ contract.methods, ¬ (parameterIdentifiers m).Nodup := by
  obtain ⟨contract, hcontract, hspellings⟩ := exists_contract (i := searchApi)
    ⟨none, none, none, none, false, none⟩
    (fun m => m.parameters.map (fun p => Identifier.variableSpelling p.name))
    [["userId", "user_id"].map Identifier.variableSpelling] rfl rfl
    (by simp) (by with_unfolding_all rfl)
  obtain ⟨m, hm, hparameters⟩ := List.map_eq_singleton_iff.mp hspellings
  refine ⟨contract, hcontract, m, hm ▸ List.mem_cons_self, fun hnodup => ?_⟩
  have hdistinct := (parameterIdentifiers_nodup_iff m).mp hnodup
  rw [hparameters] at hdistinct
  revert hdistinct
  decide +kernel

end Request
end ClientSynth
