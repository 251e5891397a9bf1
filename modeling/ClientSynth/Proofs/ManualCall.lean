import ClientSynth.Layer.Client
import ClientSynth.Proofs.Spelling
import ClientSynth.Proofs.WellFormed

/-! # Calls of methods written by hand

A method that is implemented by hand is declared in a trait of its own, and the client
forwards to it by its path.  The declaration escapes the name of the method and the path
does not: it is made of the name in snake case as it is.  So the path leads to the
declaration exactly if that name is an identifier as it stands, and otherwise to nothing
that the trait declares. -/
namespace ClientSynth

open Contract Code

namespace Code

/-- The path of the function whose result is the value of an expression. -/
def Expr.calledPath? : Expr → Option String
  | .call callee _ => some callee
  | .await operand => operand.calledPath?
  | _ => none

/-- The path of the function that a function forwards to, if it does nothing else. -/
def Function.calledPath? (f : Function) : Option String :=
  match f.body with
  | some [.tail value] => value.calledPath?
  | _ => none

/-- The path at which a trait declares a function. -/
def Trait.path (t : Trait) (f : Function) : String :=
  Identifier.typeName t.name ++ "::" ++ Identifier.functionName f.name

namespace Identifier

/-- A name that is an identifier as it stands. -/
structure IsPlain (name : String) : Prop where
  nonempty : name ≠ ""
  not_reserved : name ∉ reserved
  not_keyword : name ∉ keywords
  no_digit : ∀ c, name.toList.head? = some c → c.isDigit = false

/-- Names that are identifiers as they stand are the ones that escaping leaves alone. -/
theorem escape_eq_self_iff {name : String} : escape name = name ↔ IsPlain name := by
  constructor
  · intro h
    -- Each rule that applies makes the name longer.
    unfold escape at h
    split at h
    · next hempty =>
      rw [String.isEmpty_iff.mp hempty] at h
      exact absurd h (by decide)
    · next hempty =>
      split at h
      · exact absurd h (by simp)
      · next hreserved =>
        split at h
        · exact absurd h (by simp)
        · next hkeyword =>
          split at h
          · exact absurd h (by simp)
          · next hdigit =>
            refine ⟨fun hname => hempty (String.isEmpty_iff.mpr hname), by simpa using hreserved,
              by simpa using hkeyword, ?_⟩
            intro c hc
            simpa [hc] using hdigit
  · intro h
    have hempty : ¬ name.isEmpty = true := fun hempty => h.nonempty (String.isEmpty_iff.mp hempty)
    have hdigit : ¬ (name.toList.head?.map Char.isDigit).getD false = true := by
      cases hhead : name.toList.head? with
      | none => simp
      | some c => simp [h.no_digit c hhead]
    rw [escape, if_neg hempty, if_neg (by simpa using h.not_reserved),
      if_neg (by simpa using h.not_keyword), if_neg hdigit]

/-- The words of a name can be read off its function name. -/
theorem pieces_functionName (name : String) :
    Text.pieces (rawless (functionName name).toList) = Text.words name.toList := by
  have hregular := isRegular_escaped name.toList
  rw [functionName_eq, hregular.rawless_text, hregular.pieces_bare, words_escaped]

/-- And off its snake case. -/
theorem pieces_snakeCase (name : String) :
    Text.pieces (rawless (Text.snakeCase name).toList) = Text.words name.toList := by
  have hhash : '#' ∉ Text.joinWords (Text.words name.toList) := by
    intro hmem
    rcases mem_joinWords hmem with hc | ⟨w, hw, hc⟩
    · exact absurd hc (by decide)
    · exact hash_not_mem_words hw hc
  rw [Text.snakeCase, String.toList_ofList, Text.snakeChars_eq_joinWords, rawless_of_no_hash hhash,
    Text.pieces_joinWords (fun w hw => Text.isWord_of_mem_words hw)]

/-- A name in snake case is the identifier of no function unless it is plain. -/
theorem isPlain_of_snakeCase_eq {name other : String}
    (h : Text.snakeCase name = functionName other) : IsPlain (Text.snakeCase name) := by
  have hwords : Text.words name.toList = Text.words other.toList := by
    rw [← pieces_snakeCase, h, pieces_functionName]
  have hsame : functionName name = functionName other := functionName_eq_iff.mpr hwords
  exact escape_eq_self_iff.mp (hsame.trans h.symm)

end Identifier
end Code

namespace Layer

/-- The methods of an interface that are implemented by hand. -/
def handwrittenMethods (i : Interface) : List Method :=
  i.methods.filter (fun m => m.ignoreImplementation)

/-- Every method implemented by hand is called at the path at which it is declared. -/
def ManualCallsAgree (i : Interface) : Prop :=
  ∀ m ∈ handwrittenMethods i,
    (clientMethod i m).calledPath? = some ((manualTrait i).path (Request.methodDeclaration m))

theorem methods_manualTrait (i : Interface) :
    (manualTrait i).methods = (handwrittenMethods i).map Request.methodDeclaration := rfl

/-- The path of a call is made of the name in snake case. -/
theorem calledPath_clientMethod {i : Interface} {m : Method} (h : m ∈ handwrittenMethods i) :
    (clientMethod i m).calledPath? = some (i.manualTrait ++ "::" ++ m.functionName) := by
  have hmanual : m.ignoreImplementation = true := (List.mem_filter.mp h).2
  have hbody : (clientMethod i m).body = some (Request.manualBody m i.manualTrait) := by
    simp [clientMethod, Function.withBody, hmanual]
  rw [Function.calledPath?, hbody]
  cases hasync : m.returns.isAsync <;> simp [Request.manualBody, hasync, Expr.calledPath?]

theorem path_manualTrait (i : Interface) (m : Method) :
    (manualTrait i).path (Request.methodDeclaration m) =
      i.manualTrait ++ "::" ++ Identifier.functionName m.name := rfl

/-- The call of a method whose name must be escaped leads to nothing in the trait. -/
theorem calledPath_ne_path {i : Interface} {m : Method} (hm : m ∈ handwrittenMethods i)
    (hplain : ¬ Identifier.IsPlain m.functionName) :
    ∀ f ∈ (manualTrait i).methods,
      (clientMethod i m).calledPath? ≠ some ((manualTrait i).path f) := by
  intro f hf hcall
  rw [methods_manualTrait] at hf
  obtain ⟨n, -, rfl⟩ := List.mem_map.mp hf
  rw [calledPath_clientMethod hm, path_manualTrait] at hcall
  have hname := (String.append_right_inj _).mp (Option.some.inj hcall)
  exact hplain (Identifier.isPlain_of_snakeCase_eq hname)

/-- **When calls of methods written by hand find them**: exactly if the names of these
methods are identifiers as they stand. -/
theorem manualCallsAgree_iff (i : Interface) :
    ManualCallsAgree i ↔ ∀ m ∈ handwrittenMethods i, Identifier.IsPlain m.functionName := by
  constructor
  · intro h m hm
    by_contra hplain
    refine calledPath_ne_path hm hplain (Request.methodDeclaration m) ?_ (h m hm)
    rw [methods_manualTrait]
    exact List.mem_map_of_mem hm
  · intro h m hm
    have hname : Identifier.functionName m.name = m.functionName :=
      Identifier.escape_eq_self_iff.mpr (h m hm)
    rw [calledPath_clientMethod hm, path_manualTrait, hname]

/-- A client with a method that is implemented by hand and called like a keyword. -/
def typeApi : Declaration.Interface :=
  { name := "IApi"
    ancestors := []
    annotations := [.marker "HttpClientApi"]
    methods :=
      [⟨"Type", some ⟨none, true⟩, [⟨"Get", [.text "/type"], []⟩, .marker "IgnoreImplementation"],
        []⟩]
    source := "in" }

/-- The trait declares `r#type`, and the client calls `type`. -/
theorem typeApi_not_manualCallsAgree :
    ∃ contract ∈ (resolveAll ⟨[], [typeApi]⟩ (fun name => name == typeApi.name)).value,
      ¬ ManualCallsAgree contract := by
  obtain ⟨contract, hcontract, hmethods⟩ := exists_contract (i := typeApi)
    ⟨none, none, none, none, false, none⟩ (fun m => (m.name, m.ignoreImplementation))
    [("Type", true)] rfl rfl (by simp) (by with_unfolding_all rfl)
  obtain ⟨m, hm, hview⟩ := List.map_eq_singleton_iff.mp hmethods
  obtain ⟨hname, hmanual⟩ := Prod.mk.inj hview
  refine ⟨contract, hcontract, fun hagree => ?_⟩
  have hmem : m ∈ handwrittenMethods contract :=
    List.mem_filter.mpr ⟨hm ▸ List.mem_cons_self, hmanual⟩
  have hplain := (manualCallsAgree_iff contract).mp hagree m hmem
  refine hplain.not_keyword ?_
  rw [Method.functionName, hname]
  decide +kernel

end Layer
end ClientSynth
