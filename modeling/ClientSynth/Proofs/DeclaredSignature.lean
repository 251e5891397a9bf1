import ClientSynth.Proofs.Overload
import ClientSynth.Proofs.WellFormed

/-! # Declared signatures and those of contracts

Methods of one name are told apart by their signatures as they are declared, before any of
them has a contract.  The contract has a signature, too, and both spell the parameter types
alike.  The result is another matter: its contract takes the blanks around it away and
gives no type, a blank one and the unit type one spelling, while the declared signature
keeps what is written.  So the two signatures of a method are the same text exactly if its
result is spelled plainly, and one that is not differs from its plain copy in its declared
signature only. -/
namespace ClientSynth

namespace Declaration

/-- A result type that is written as it is understood: there is none, or it is not empty and
has no blanks around it. -/
def Result.IsPlain (r : Result) : Prop := ∀ t ∈ r.type, t ≠ "" ∧ Text.stripBlanks t = t

instance (r : Result) : Decidable r.IsPlain :=
  inferInstanceAs (Decidable (∀ t ∈ r.type, t ≠ "" ∧ Text.stripBlanks t = t))

/-- A method with no result or a plain one. -/
def Method.HasPlainResult (m : Method) : Prop := ∀ r ∈ m.returns, r.IsPlain

instance (m : Method) : Decidable m.HasPlainResult :=
  inferInstanceAs (Decidable (∀ r ∈ m.returns, r.IsPlain))

end Declaration

namespace Contract

open Declaration (InheritedMethod Result)

variable {set : DeclarationSet} {m n : InheritedMethod} {method other : Method} {r : Result}

/-! ### What a contract makes of a signature -/

/-- The result of a method as its contract spells it. -/
def understoodText : Option Result → String
  | none => "async ()"
  | some r => (if r.isAsync then "async " else "") ++ (declaredResult? r).getD "()"

theorem text_returnsOf {returns : Returns} {r : Option Result}
    (h : returnsOf set r = .ok returns) :
    (if returns.isAsync then "async " else "") ++ returns.valueType = understoodText r := by
  cases r with
  | none =>
      cases h
      rfl
  | some r =>
      have hspelled : ∀ s, declaredResult? r = some s →
          (DeclaredType.parse set.isEnumeration s).raw = s := by
        intro s hs
        rw [DeclaredType.raw_parse, (declaredResult?_eq_some hs).1]
      simp only [returnsOf] at h
      split at h
      · next s hasync hs =>
        cases h
        simp [understoodText, hasync, hs, Returns.isAsync, Returns.valueType, Returns.value?,
          hspelled s hs]
      · next hasync hs =>
        cases h
        simp [understoodText, hasync, hs, Returns.isAsync, Returns.valueType, Returns.value?]
      · next s hasync hs =>
        cases h
        simp [understoodText, hasync, hs, Returns.isAsync, Returns.valueType, Returns.value?,
          hspelled s hs]
      · cases h

/-- The signature of a contract is the declared one with the result as it is understood. -/
theorem signature_of_resolved (h : (resolveMethod set m).value = .ok (some method)) :
    method.signature =
      m.method.name ++ "(" ++
        Text.joined ", " (m.method.parameters.map (fun p => Text.stripBlanks p.type)) ++ ") -> " ++
          understoodText m.method.returns := by
  obtain ⟨verb, a, o, contentType, -, ho, -, -, -, rfl⟩ := resolveMethod_eq_some h
  obtain ⟨hreturns, hparameters⟩ := outline_eq_ok ho
  obtain ⟨-, -, hresolved⟩ := parametersOf_eq_ok hparameters
  have htypes : o.parameters.map (fun p => p.type.raw) =
      m.method.parameters.map (fun p => Text.stripBlanks p.type) :=
    map_of_resolved (fun d p hp => by rw [(parameterOf_eq_ok hp).2.1, DeclaredType.raw_parse])
      hresolved
  rw [← text_returnsOf hreturns, ← htypes, ← String.append_assoc]
  rfl

/-! ### Plain results -/

/-- A type is written as it is understood exactly if it is plain. -/
theorem getD_declaredResult?_iff :
    r.type.getD "()" = (declaredResult? r).getD "()" ↔ r.IsPlain := by
  cases htype : r.type with
  | none => simp [Result.IsPlain, declaredResult?, htype]
  | some t =>
      have hplain : r.IsPlain ↔ t ≠ "" ∧ Text.stripBlanks t = t := by simp [Result.IsPlain, htype]
      rw [hplain, Option.getD_some]
      cases hresult : declaredResult? r with
      | none =>
          -- Of the types that are understood as none only the unit type is spelled like it.
          have hnone : Text.stripBlanks t = "" ∨ Text.stripBlanks t = "()" := by
            simpa [declaredResult?, htype, Option.filter, or_iff_not_imp_left] using hresult
          constructor
          · intro ht
            rw [Option.getD_none] at ht
            subst ht
            decide
          · rintro ⟨hne, hstrip⟩
            rw [hstrip] at hnone
            exact hnone.resolve_left hne
      | some s =>
          obtain ⟨hstrip, hne, -⟩ := declaredResult?_eq_some hresult
          have hs : s = Text.stripBlanks t := by
            obtain ⟨hmap, -⟩ := Option.filter_eq_some_iff.mp hresult
            simpa [htype] using hmap.symm
          rw [Option.getD_some]
          constructor
          · rintro rfl
            exact ⟨hne, hstrip⟩
          · rintro ⟨-, ht⟩
            rw [hs, ht]

theorem resultText_eq_iff {returns : Option Result} :
    Declaration.resultText returns = understoodText returns ↔ ∀ r ∈ returns, r.IsPlain := by
  cases returns with
  | none => simp [Declaration.resultText, understoodText]
  | some r =>
      rw [Declaration.resultText, understoodText, String.append_right_inj,
        getD_declaredResult?_iff]
      simp

/-- **The two signatures of a method are one text** exactly if its result is plain. -/
theorem signature_eq_declared_iff (h : (resolveMethod set m).value = .ok (some method)) :
    m.method.signature = method.signature ↔ m.method.HasPlainResult := by
  rw [signature_of_resolved h, Declaration.Method.signature, String.append_right_inj,
    resultText_eq_iff, Declaration.Method.HasPlainResult]

/-! ### The plain copy of a method -/

/-- A result as it is understood. -/
def plainResult (r : Result) : Result := { r with type := declaredResult? r }

/-- A method with its result as it is understood. -/
def plainCopy (m : InheritedMethod) : InheritedMethod :=
  { m with method := { m.method with returns := m.method.returns.map plainResult } }

theorem isPlain_plainResult (r : Result) : (plainResult r).IsPlain := by
  intro t ht
  obtain ⟨hstrip, hne, -⟩ := declaredResult?_eq_some ht
  exact ⟨hne, hstrip⟩

theorem hasPlainResult_plainCopy (m : InheritedMethod) : (plainCopy m).method.HasPlainResult := by
  intro r hr
  obtain ⟨d, -, rfl⟩ := Option.map_eq_some_iff.mp hr
  exact isPlain_plainResult d

/-- Understanding a result once is enough. -/
theorem declaredResult?_plainResult (r : Result) :
    declaredResult? (plainResult r) = declaredResult? r := by
  rw [declaredResult?, show (plainResult r).type = declaredResult? r from rfl]
  cases h : declaredResult? r with
  | none => rfl
  | some s =>
      obtain ⟨hstrip, hne, hunit⟩ := declaredResult?_eq_some h
      simp [hstrip, hne, hunit, Option.filter]

theorem returnsOf_plainResult (returns : Option Result) :
    returnsOf set (returns.map plainResult) = returnsOf set returns := by
  cases returns with
  | none => rfl
  | some r =>
      rw [Option.map_some, returnsOf, returnsOf, declaredResult?_plainResult]
      rfl

/-- The plain copy of a method has the same contract. -/
theorem resolveMethod_plainCopy (m : InheritedMethod) :
    resolveMethod set (plainCopy m) = resolveMethod set m := by
  have houtline : ∀ a, outline set (plainCopy m).method a = outline set m.method a := by
    intro a
    unfold outline
    rw [show (plainCopy m).method.returns = m.method.returns.map plainResult from rfl,
      returnsOf_plainResult]
    rfl
  unfold resolveMethod
  simp only [houtline]
  rfl

/-! ### Telling methods apart -/

/-- Two methods with contracts are told apart by what is declared exactly if they are by
their contracts. -/
def SignaturesAgree (set : DeclarationSet) (m n : InheritedMethod) : Prop :=
  ∀ method other, (resolveMethod set m).value = .ok (some method) →
    (resolveMethod set n).value = .ok (some other) →
      (m.method.signature = n.method.signature ↔ method.signature = other.signature)

theorem signaturesAgree_of_plain (hm : m.method.HasPlainResult) (hn : n.method.HasPlainResult) :
    SignaturesAgree set m n := by
  intro method other hmethod hother
  rw [(signature_eq_declared_iff hmethod).mpr hm, (signature_eq_declared_iff hother).mpr hn]

/-- The plain copy of a method has the signature of its contract. -/
theorem signature_plainCopy (h : (resolveMethod set m).value = .ok (some method)) :
    (plainCopy m).method.signature = method.signature := by
  have hcopy : (resolveMethod set (plainCopy m)).value = .ok (some method) := by
    rw [resolveMethod_plainCopy, h]
  exact (signature_eq_declared_iff hcopy).mpr (hasPlainResult_plainCopy m)

/-- **When two methods are told apart rightly**, whatever they declare: exactly if their plain
copies are told apart like them. -/
theorem signaturesAgree_iff_plainCopies (hm : (resolveMethod set m).value = .ok (some method))
    (hn : (resolveMethod set n).value = .ok (some other)) :
    SignaturesAgree set m n ↔
      (m.method.signature = n.method.signature ↔
        (plainCopy m).method.signature = (plainCopy n).method.signature) := by
  rw [signature_plainCopy hm, signature_plainCopy hn]
  constructor
  · exact fun hagree => hagree method other hm hn
  · intro hsame method' other' hmethod hother
    rw [hm] at hmethod
    rw [hn] at hother
    cases hmethod
    cases hother
    exact hsame

/-- Methods with one name and one list of parameter types are told apart rightly exactly if
their results are spelled alike where they are understood alike, and nowhere else. -/
theorem signaturesAgree_iff_results (hm : (resolveMethod set m).value = .ok (some method))
    (hn : (resolveMethod set n).value = .ok (some other)) (hname : m.method.name = n.method.name)
    (htypes : m.method.parameters.map (fun p => Text.stripBlanks p.type) =
      n.method.parameters.map (fun p => Text.stripBlanks p.type)) :
    SignaturesAgree set m n ↔
      (Declaration.resultText m.method.returns = Declaration.resultText n.method.returns ↔
        understoodText m.method.returns = understoodText n.method.returns) := by
  rw [signaturesAgree_iff_plainCopies hm hn, signature_plainCopy hm, signature_plainCopy hn,
    signature_of_resolved hm, signature_of_resolved hn, Declaration.Method.signature,
    Declaration.Method.signature, hname, htypes, String.append_right_inj, String.append_right_inj]

/-- **When a method is told apart rightly**: from all methods of its name with plain results,
exactly if its own result is plain. -/
theorem signaturesAgree_iff (h : (resolveMethod set m).value = .ok (some method)) :
    (∀ n : InheritedMethod, n.method.name = m.method.name → n.method.HasPlainResult →
      SignaturesAgree set m n) ↔ m.method.HasPlainResult := by
  constructor
  · intro hagree
    have hcopy : (resolveMethod set (plainCopy m)).value = .ok (some method) := by
      rw [resolveMethod_plainCopy, h]
    have hsame := hagree (plainCopy m) rfl (hasPlainResult_plainCopy m) method method h hcopy
    rw [← signature_eq_declared_iff h, hsame.mpr rfl, signature_plainCopy h]
  · exact fun hm n _ hn => signaturesAgree_of_plain hm hn

/-- A method without a value, its result type written as given. -/
def pingMethod (type : Option String) : InheritedMethod where
  owner := ⟨"IPingApi", [], [.marker "HttpClientApi"], [], "ping.yaml"⟩
  method := ⟨"PingAsync", some ⟨type, true⟩, [⟨"Get", [.text "/ping"], []⟩], []⟩

/-- The contract of such a method. -/
def pingContract : Method :=
  ⟨"PingAsync", .get, "/ping", .asyncVoid, [], none, false, false, "IPingApi"⟩

theorem resolveMethod_pingMethod :
    (resolveMethod ⟨[], []⟩ (pingMethod none)).value = .ok (some pingContract) := by
  with_unfolding_all rfl

theorem pingMethod_signaturesAgree :
    (pingMethod none).method.HasPlainResult ∧
      ∀ n : InheritedMethod, n.method.name = "PingAsync" → n.method.HasPlainResult →
        SignaturesAgree ⟨[], []⟩ (pingMethod none) n := by
  have hplain : (pingMethod none).method.HasPlainResult := by decide
  exact ⟨hplain, (signaturesAgree_iff resolveMethod_pingMethod).mpr hplain⟩

/-- A result type that is left blank makes an overload of a method with the same contract. -/
theorem blankPing_not_signaturesAgree :
    (pingMethod (some "")).method.name = (pingMethod none).method.name ∧
      ¬ SignaturesAgree ⟨[], []⟩ (pingMethod (some "")) (pingMethod none) ∧
      (InheritedMethod.overloadIn [pingMethod none] (pingMethod (some ""))).map Diagnostic.code =
        [.duplicateMethod] := by
  refine ⟨rfl, fun hagree => ?_, by decide +kernel⟩
  have hblank :
      (resolveMethod ⟨[], []⟩ (pingMethod (some ""))).value = .ok (some pingContract) := by
    rw [← resolveMethod_pingMethod]
    exact congrArg Reported.value (resolveMethod_plainCopy (pingMethod (some ""))).symm
  have hsame := (hagree _ _ hblank resolveMethod_pingMethod).mpr rfl
  revert hsame
  decide +kernel

end Contract
end ClientSynth
