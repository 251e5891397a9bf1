import Mathlib.Data.List.Nodup
import ClientSynth.Code.Identifier
import ClientSynth.Layer.Client
import ClientSynth.Proofs.RequestStatement
import ClientSynth.Proofs.SnakeCase
import ClientSynth.Proofs.WellFormed

/-! # Names of hooks

The hooks of a client are called in the bodies of its methods and declared in a trait, and
calls and declarations find each other by how they are written.  The names of a method's
hooks are made of its function name, which is in snake case, and are put into snake case
once more when they are written.  So there are two ways in which hooks of different names
are written alike: a method called `request` has the fail and error hooks of all requests,
and two function names may differ although their snake cases do not.  There is no third
way, and without these two every call finds the one hook that takes its arguments. -/
namespace ClientSynth

open Contract Code Request

namespace Code

/-- The functions of an item. -/
def Item.functions : Item → List Function
  | .trait decl => decl.methods
  | .struct _ => []
  | .implementation block => block.methods
  | .function decl => [decl]

/-- The hooks that the body of a function calls, with their numbers of arguments. -/
def Function.hookCalls (f : Function) : List (String × Nat) :=
  (f.body.map (Stmt.collect Stmt.hookCall?)).getD []

/-- The hooks that are called in the bodies of an item. -/
def Item.hookCalls (item : Item) : List (String × Nat) := item.functions.flatMap Function.hookCalls

end Code

/-- The hooks that are called in the bodies of a unit. -/
def CodeUnit.hookCalls (u : CodeUnit) : List (String × Nat) := u.items.flatMap Item.hookCalls

namespace Layer

/-- The methods of an interface that are not implemented by hand. -/
def generatedMethods (i : Interface) : List Method :=
  i.methods.filter (fun m => !m.ignoreImplementation)

/-- The hooks of a client fit together. -/
structure HooksAgree (i : Interface) (options : Options) : Prop where
  /-- No two hooks are written alike. -/
  distinct : (((hooksTrait i).methods.map Function.name).map Identifier.functionName).Nodup
  /-- Every call is written like one hook, which takes as many arguments. -/
  calls : ∀ name count, (name, count) ∈ (clientUnit i options).hookCalls →
    ∃ hook, (hooksTrait i).methods.filter
        (fun f => Identifier.functionName f.name = Identifier.functionName name) = [hook] ∧
      hook.params.length = count

/-! ### How hooks are written -/

/-- What the hooks of a method are for. -/
def moments : List String := ["before", "after", "fail", "error"]

/-- The identifier of a method's hook; `stem` is the snake case of the function name. -/
def hookIdentifier (stem moment : String) : String :=
  "on_" ++ (if stem = "" then "" else stem ++ "_") ++ moment

/-- Nothing that starts like a hook is changed to become an identifier. -/
theorem escape_hook (s : String) : Identifier.escape ("on_" ++ s) = "on_" ++ s := by
  have hstart : ("on_" ++ s).toList.take 3 = ['o', 'n', '_'] := by
    rw [String.toList_append]
    rfl
  have hwords : ∀ word ∈ Identifier.reserved ++ Identifier.keywords,
      word.toList.take 3 ≠ ['o', 'n', '_'] := by decide
  have hreserved : ("on_" ++ s) ∉ Identifier.reserved :=
    fun hmem => hwords _ (List.mem_append_left _ hmem) hstart
  have hkeywords : ("on_" ++ s) ∉ Identifier.keywords :=
    fun hmem => hwords _ (List.mem_append_right _ hmem) hstart
  have hempty : ("on_" ++ s).isEmpty = false := by simp
  simp [Identifier.escape, hempty, hreserved, hkeywords]

theorem areLower_moments :
    ∀ moment ∈ moments, Text.AreLower moment.toList ∧ moment.toList ≠ [] := by
  decide

theorem functionName_hook (name : String) {moment : String} (hmoment : moment ∈ moments) :
    Identifier.functionName ("on_" ++ name ++ "_" ++ moment) =
      hookIdentifier (Text.snakeCase name) moment := by
  obtain ⟨hlower, hne⟩ := areLower_moments moment hmoment
  have hon : Text.AreLower "on".toList := by decide
  have hchars : ("on_" ++ name ++ "_" ++ moment).toList =
      "on".toList ++ '_' :: (name.toList ++ '_' :: moment.toList) := by
    simp only [String.toList_append, List.append_assoc]
    rfl
  have hsnake : Text.snakeCase ("on_" ++ name ++ "_" ++ moment) =
      hookIdentifier (Text.snakeCase name) moment := by
    rw [Text.snakeCase, hchars, Text.snakeChars_between hon hlower (by decide) hne]
    apply String.toList_inj.mp
    have hstem : Text.snakeCase name = "" ↔ Text.snakeChars name.toList = [] := by
      rw [← String.toList_inj, Text.snakeCase, String.toList_ofList]
      rfl
    rw [hookIdentifier, String.toList_ofList, Text.linked]
    -- A name without words leaves nothing between the prefix and the moment.
    by_cases hnil : Text.snakeChars name.toList = []
    · rw [if_pos hnil, if_pos (hstem.mpr hnil)]
      simp
    · rw [if_neg hnil, if_neg (fun h => hnil (hstem.mp h))]
      simp [Text.snakeCase]
  rw [Identifier.functionName, hsnake, hookIdentifier, String.append_assoc, escape_hook]

/-! ### Which hooks are written alike -/

/-- The last two characters, which tell apart what hooks are for. -/
def ending (cs : List Char) : List Char := cs.reverse.take 2

theorem ending_append {front back : List Char} (h : 2 ≤ back.length) :
    ending (front ++ back) = ending back := by
  rw [ending, List.reverse_append, List.take_append_of_le_length (by simpa using h), ending]

theorem ending_hookIdentifier (stem : String) {moment : String} (hmoment : moment ∈ moments) :
    ending (hookIdentifier stem moment).toList = ending moment.toList := by
  have hlength : ∀ word ∈ moments, 2 ≤ word.toList.length := by decide
  rw [hookIdentifier, String.toList_append]
  exact ending_append (hlength moment hmoment)

theorem linkedText_inj {stem other : String}
    (h : (if stem = "" then "" else stem ++ "_") = if other = "" then "" else other ++ "_") :
    stem = other := by
  have hunderscore : ∀ s : String, s ++ "_" ≠ "" := by
    intro s hs
    have hchars := congrArg String.toList hs
    simp at hchars
  split at h
  · next hstem =>
    split at h
    · next hother => rw [hstem, hother]
    · exact absurd h.symm (hunderscore other)
  · split at h
    · exact absurd h (hunderscore stem)
    · have hchars := congrArg String.toList h
      rw [String.toList_append, String.toList_append] at hchars
      exact String.toList_inj.mp (List.append_cancel_right hchars)

theorem hookIdentifier_inj {stem other moment later : String} (hmoment : moment ∈ moments)
    (hlater : later ∈ moments) (h : hookIdentifier stem moment = hookIdentifier other later) :
    stem = other ∧ moment = later := by
  have hendings : ∀ word ∈ moments, ∀ word' ∈ moments,
      ending word.toList = ending word'.toList → word = word' := by decide
  have hsame : moment = later := by
    refine hendings moment hmoment later hlater ?_
    rw [← ending_hookIdentifier stem hmoment, h, ending_hookIdentifier other hlater]
  subst hsame
  refine ⟨?_, rfl⟩
  have hchars := congrArg String.toList h
  simp only [hookIdentifier, String.toList_append, List.append_cancel_right_eq,
    List.append_cancel_left_eq] at hchars
  exact linkedText_inj (String.toList_inj.mp hchars)

/-- How the hooks around all requests are written. -/
def sharedIdentifiers : List String :=
  ["on_before_request", "on_after_response", "on_request_fail", "on_request_error"]

theorem identifiers_sharedHooks :
    (sharedHooks.map Function.name).map Identifier.functionName = sharedIdentifiers := by
  decide +kernel

/-- A method's hook is written like a shared one if the method is called `request`, and
then two of them are. -/
theorem hookIdentifier_mem_shared {stem moment : String} (hmoment : moment ∈ moments) :
    hookIdentifier stem moment ∈ sharedIdentifiers ↔
      stem = "request" ∧ moment ∈ ["fail", "error"] := by
  constructor
  · intro hmem
    -- Two of the shared hooks end as no method's hook does; the other two are hooks of `request`.
    have hendings : ∀ word ∈ moments, ∀ name ∈ ["on_before_request", "on_after_response"],
        ending word.toList ≠ ending name.toList := by decide
    have hlate : hookIdentifier stem moment ∈
        [hookIdentifier "request" "fail", hookIdentifier "request" "error"] := by
      rcases List.mem_append.mp (show hookIdentifier stem moment ∈
          ["on_before_request", "on_after_response"] ++
            [hookIdentifier "request" "fail", hookIdentifier "request" "error"] from hmem)
        with hearly | hlate
      · exact absurd (ending_hookIdentifier stem hmoment).symm
          (hendings moment hmoment _ hearly)
      · exact hlate
    rcases List.mem_cons.mp hlate with hfail | herror
    · obtain ⟨hstem, hsame⟩ := hookIdentifier_inj hmoment (by decide) hfail
      exact ⟨hstem, by simp [hsame]⟩
    · obtain ⟨hstem, hsame⟩ :=
        hookIdentifier_inj hmoment (by decide) (List.mem_singleton.mp herror)
      exact ⟨hstem, by simp [hsame]⟩
  · rintro ⟨rfl, hlate⟩
    have hall : ∀ word ∈ ["fail", "error"], hookIdentifier "request" word ∈ sharedIdentifiers := by
      decide
    exact hall moment hlate

/-- The identifiers of all hooks are distinct exactly if no stem comes twice and none is
that of the shared hooks. -/
theorem nodup_identifiers_iff (stems : List String) :
    (sharedIdentifiers ++ stems.flatMap (fun stem => moments.map (hookIdentifier stem))).Nodup ↔
      "request" ∉ stems ∧ stems.Nodup := by
  have hfirst : "before" ∈ moments := by decide
  rw [List.nodup_append, List.nodup_flatMap]
  constructor
  · rintro ⟨-, ⟨-, hdisjoint⟩, hshared⟩
    constructor
    · intro hrequest
      -- With that stem, the shared hook of a failure would be one of a method.
      have hmem : hookIdentifier "request" "fail" ∈
          stems.flatMap (fun stem => moments.map (hookIdentifier stem)) :=
        List.mem_flatMap.mpr ⟨"request", hrequest, List.mem_map_of_mem (by decide)⟩
      exact hshared _ ((hookIdentifier_mem_shared (by decide)).mpr ⟨rfl, by decide⟩) _ hmem rfl
    · refine hdisjoint.imp (fun hpair heq => ?_)
      subst heq
      exact hpair (List.mem_map_of_mem hfirst) (List.mem_map_of_mem hfirst)
  · rintro ⟨hrequest, hnodup⟩
    refine ⟨by decide, ⟨fun stem _ => ?_, hnodup.imp (fun hne name hname hname' => ?_)⟩, ?_⟩
    · refine List.Nodup.map_on (fun moment hmoment later hlater heq => ?_) (by decide)
      exact (hookIdentifier_inj hmoment hlater heq).2
    · obtain ⟨moment, hmoment, rfl⟩ := List.mem_map.mp hname
      obtain ⟨later, hlater, heq⟩ := List.mem_map.mp hname'
      exact hne (hookIdentifier_inj hlater hmoment heq).1.symm
    · rintro name hname other hother rfl
      obtain ⟨stem, hstem, hmap⟩ := List.mem_flatMap.mp hother
      obtain ⟨moment, hmoment, rfl⟩ := List.mem_map.mp hmap
      exact hrequest (((hookIdentifier_mem_shared hmoment).mp hname).1 ▸ hstem)

/-! ### The hooks of a trait -/

section Distinct
variable {seen : List String} {m : Method} {methods : List Method}

theorem mem_of_mem_distinctFunctions (h : m ∈ distinctFunctions seen methods) :
    m ∈ methods ∧ m.functionName ∉ seen := by
  induction methods generalizing seen with
  | nil => cases h
  | cons n rest ih =>
      unfold distinctFunctions at h
      split at h
      · obtain ⟨hmem, hnew⟩ := ih h
        exact ⟨List.mem_cons_of_mem n hmem, hnew⟩
      · next hn =>
        rcases List.mem_cons.mp h with rfl | h
        · exact ⟨List.mem_cons_self, by simpa using hn⟩
        · obtain ⟨hmem, hnew⟩ := ih h
          exact ⟨List.mem_cons_of_mem n hmem, fun hseen => hnew (List.mem_cons_of_mem _ hseen)⟩

/-- Every function name is kept once, by the first method that has it. -/
theorem exists_distinctFunctions (h : m ∈ methods) (hnew : m.functionName ∉ seen) :
    ∃ n ∈ distinctFunctions seen methods, n.functionName = m.functionName := by
  induction methods generalizing seen with
  | nil => cases h
  | cons n rest ih =>
      unfold distinctFunctions
      split
      · next hn =>
        rcases List.mem_cons.mp h with rfl | h
        · exact absurd (by simpa using hn) hnew
        · exact ih h hnew
      · by_cases hsame : n.functionName = m.functionName
        · exact ⟨n, List.mem_cons_self, hsame⟩
        · rcases List.mem_cons.mp h with rfl | h
          · exact absurd rfl hsame
          · have hnew' : m.functionName ∉ n.functionName :: seen := by
              rw [List.mem_cons, not_or]
              exact ⟨fun heq => hsame heq.symm, hnew⟩
            obtain ⟨k, hk, hname⟩ := ih h hnew'
            exact ⟨k, List.mem_cons_of_mem n hk, hname⟩

theorem nodup_distinctFunctions :
    ((distinctFunctions seen methods).map Method.functionName).Nodup := by
  induction methods generalizing seen with
  | nil => exact List.nodup_nil
  | cons n rest ih =>
      unfold distinctFunctions
      split
      · exact ih
      · refine List.nodup_cons.mpr ⟨fun hmem => ?_, ih⟩
        obtain ⟨k, hk, hname⟩ := List.mem_map.mp hmem
        refine (mem_of_mem_distinctFunctions hk).2 ?_
        rw [hname]
        exact List.mem_cons_self

end Distinct

/-- The methods whose hooks are declared: one for each function name. -/
def hookMethods (i : Interface) : List Method := distinctFunctions [] (generatedMethods i)

/-- What is left of a method's name in the identifiers of its hooks. -/
def hookStem (m : Method) : String := Text.snakeCase m.functionName

theorem map_name_methodHooks (written : String → String) (m : Method) :
    ((methodHooks m).map Function.name).map written =
      moments.map (fun moment => written ("on_" ++ m.functionName ++ "_" ++ moment)) := by
  simp only [methodHooks, MethodHooks.of, hook, Function.borrowing, Function.named, moments,
    List.map_cons, List.map_nil]

theorem identifiers_methodHooks (m : Method) :
    ((methodHooks m).map Function.name).map Identifier.functionName =
      moments.map (hookIdentifier (hookStem m)) := by
  rw [map_name_methodHooks]
  exact List.map_congr_left (fun moment hmoment => functionName_hook m.functionName hmoment)

theorem identifiers_hooksTrait (i : Interface) :
    ((hooksTrait i).methods.map Function.name).map Identifier.functionName =
      sharedIdentifiers ++
        ((hookMethods i).map hookStem).flatMap (fun stem => moments.map (hookIdentifier stem)) := by
  have hmethods : (hooksTrait i).methods = sharedHooks ++ (hookMethods i).flatMap methodHooks := rfl
  rw [hmethods, List.map_append, List.map_append, identifiers_sharedHooks, List.map_flatMap,
    List.map_flatMap, List.flatMap_map]
  simp only [identifiers_methodHooks]

/-- No stem comes twice exactly if function names that differ have stems that differ. -/
theorem nodup_hookStems_iff (i : Interface) :
    ((hookMethods i).map hookStem).Nodup ↔
      ∀ m ∈ generatedMethods i, ∀ n ∈ generatedMethods i,
        hookStem m = hookStem n → m.functionName = n.functionName := by
  have hnames : ((hookMethods i).map Method.functionName).Nodup := nodup_distinctFunctions
  have hstem : ∀ {m n : Method}, m.functionName = n.functionName → hookStem m = hookStem n :=
    fun h => congrArg Text.snakeCase h
  constructor
  · intro hnodup m hm n hn heq
    obtain ⟨m', hm', hmname⟩ := exists_distinctFunctions hm List.not_mem_nil
    obtain ⟨n', hn', hnname⟩ := exists_distinctFunctions hn List.not_mem_nil
    have hsame : m' = n' :=
      List.inj_on_of_nodup_map hnodup hm' hn' ((hstem hmname).trans (heq.trans (hstem hnname).symm))
    rw [← hmname, hsame, hnname]
  · intro h
    refine List.Nodup.map_on (fun m hm n hn heq => ?_) (List.Nodup.of_map _ hnames)
    exact List.inj_on_of_nodup_map hnames hm hn
      (h m (mem_of_mem_distinctFunctions hm).1 n (mem_of_mem_distinctFunctions hn).1 heq)

theorem request_mem_hookStems_iff (i : Interface) :
    "request" ∈ (hookMethods i).map hookStem ↔
      ∃ m ∈ generatedMethods i, hookStem m = "request" := by
  constructor
  · intro h
    obtain ⟨m, hm, hstem⟩ := List.mem_map.mp h
    exact ⟨m, (mem_of_mem_distinctFunctions hm).1, hstem⟩
  · rintro ⟨m, hm, hstem⟩
    obtain ⟨n, hn, hname⟩ := exists_distinctFunctions hm List.not_mem_nil
    exact List.mem_map.mpr ⟨n, hn, (congrArg Text.snakeCase hname).trans hstem⟩

/-! ### The hooks that a unit calls -/

/-- The calls in the body of a generated method. -/
def methodCalls (m : Method) : List (String × Nat) :=
  [("on_before_request", 2), ((MethodHooks.of m).before, 1),
    ("on_request_fail", 3), ((MethodHooks.of m).fail, 2),
    ("on_after_response", 2), ((MethodHooks.of m).after, 1),
    ("on_request_error", 2), ((MethodHooks.of m).error, 1)]

/-- Functions without a body call nothing. -/
theorem hookCalls_of_no_body {functions : List Function} (h : ∀ f ∈ functions, f.body = none) :
    functions.flatMap Function.hookCalls = [] :=
  List.flatMap_eq_nil_iff.mpr (fun f hf => by rw [Function.hookCalls, h f hf]; rfl)

theorem hookCalls_clientMethod (i : Interface) (m : Method) :
    (clientMethod i m).hookCalls = if m.ignoreImplementation then [] else methodCalls m := by
  have hbody : (clientMethod i m).hookCalls = Stmt.collect Stmt.hookCall?
      (if m.ignoreImplementation then manualBody m i.manualTrait
        else executionBody m i.client.contentType) := rfl
  rw [hbody]
  split
  · have harguments : Expr.statementsAll (m.parameters.map (fun p => .ident p.name)) = [] :=
      Expr.statementsAll_eq_nil (List.forall_mem_map.mpr (fun p _ => rfl))
    unfold manualBody
    dsimp only
    split <;> simp [Stmt.collect, harguments]
  · exact hookCalls_executionBody m i.client.contentType

/-- Hooks do nothing, so they call nothing. -/
theorem hookCalls_of_mem_hooksTrait {i : Interface} {f : Function}
    (hf : f ∈ (hooksTrait i).methods) : f.hookCalls = [] := by
  have hbody : f.body = some [] := by
    rcases List.mem_append.mp hf with hshared | hmethod
    · simp only [sharedHooks, List.mem_cons, List.not_mem_nil, or_false] at hshared
      rcases hshared with rfl | rfl | rfl | rfl <;> rfl
    · obtain ⟨m, -, hm⟩ := List.mem_flatMap.mp hmethod
      simp only [methodHooks, List.mem_cons, List.not_mem_nil, or_false] at hm
      rcases hm with rfl | rfl | rfl | rfl <;> rfl
  rw [Function.hookCalls, hbody]
  rfl

theorem hookCalls_clientMethods (i : Interface) (methods : List Method) :
    (methods.map (clientMethod i)).flatMap Function.hookCalls =
      (methods.filter (fun m => !m.ignoreImplementation)).flatMap methodCalls := by
  induction methods with
  | nil => rfl
  | cons m rest ih =>
      rw [List.map_cons, List.flatMap_cons, ih, hookCalls_clientMethod]
      cases hm : m.ignoreImplementation with
      | true => rw [List.filter_cons_of_neg (by simp [hm])]; rfl
      | false => rw [List.filter_cons_of_pos (by simp [hm]), List.flatMap_cons]; rfl

/-- The bodies of a client unit call the hooks of its generated methods, and no others. -/
theorem hookCalls_clientUnit (i : Interface) (options : Options) :
    (clientUnit i options).hookCalls = (generatedMethods i).flatMap methodCalls := by
  have hinterface : (interfaceTrait i).methods.flatMap Function.hookCalls = [] :=
    hookCalls_of_no_body (List.forall_mem_map.mpr (fun m _ => rfl))
  have hhooks : (hooksTrait i).methods.flatMap Function.hookCalls = [] :=
    List.flatMap_eq_nil_iff.mpr (fun f hf => hookCalls_of_mem_hooksTrait hf)
  have hmanual : (manualTrait i).methods.flatMap Function.hookCalls = [] :=
    hookCalls_of_no_body (List.forall_mem_map.mpr (fun m _ => rfl))
  have hinherent : (clientFunctions i).flatMap Function.hookCalls = [] := by
    simp [clientFunctions, Function.hookCalls, Function.withBody, Stmt.collect, Expr.method0]
  unfold CodeUnit.hookCalls clientUnit
  rw [generatedMethods, ← hookCalls_clientMethods i i.methods]
  split <;> simp [hinterface, hhooks, hmanual, hinherent, Item.hookCalls, Item.functions]

/-- What a method calls is declared, shared or its own. -/
theorem methodCalls_subset (m : Method) : methodCalls m ⊆
    (sharedHooks ++ methodHooks m).map (fun f => (f.name, f.params.length)) := by
  simp [methodCalls, sharedHooks, methodHooks, hook, Function.withDoc, Function.borrowing,
    Function.named]

theorem exists_hook {i : Interface} {m : Method} (hm : m ∈ generatedMethods i) {name : String}
    {count : Nat} (hcall : (name, count) ∈ methodCalls m) :
    ∃ f ∈ (hooksTrait i).methods, f.name = name ∧ f.params.length = count := by
  obtain ⟨f, hf, heq⟩ := List.mem_map.mp (methodCalls_subset m hcall)
  refine ⟨f, ?_, congrArg Prod.fst heq, congrArg Prod.snd heq⟩
  rcases List.mem_append.mp hf with hshared | hown
  · exact List.mem_append_left _ hshared
  · -- The hooks are declared for the first method of the same function name.
    obtain ⟨n, hn, hname⟩ := exists_distinctFunctions hm List.not_mem_nil
    have hsame : methodHooks n = methodHooks m := by
      rw [methodHooks, MethodHooks.of, hname, methodHooks, MethodHooks.of]
    rw [← hsame] at hown
    exact List.mem_append_right _ (List.mem_flatMap.mpr ⟨n, hn, hown⟩)

/-- Among things that are all written differently, one is found by how it is written. -/
theorem filter_eq_singleton {α : Type} {name : α → String} {written : String → String}
    {items : List α} (h : ((items.map name).map written).Nodup) {item : α} (hitem : item ∈ items) :
    items.filter (fun other => written (name other) = written (name item)) = [item] := by
  induction items with
  | nil => cases hitem
  | cons other rest ih =>
      rw [List.map_cons, List.map_cons, List.nodup_cons] at h
      have hmem : ∀ a ∈ rest, written (name a) ∈ (rest.map name).map written :=
        fun a ha => List.mem_map_of_mem (List.mem_map_of_mem ha)
      rcases List.mem_cons.mp hitem with rfl | hrest
      · rw [List.filter_cons_of_pos (by simp), List.filter_eq_nil_iff.mpr]
        intro a ha heq
        exact h.1 (of_decide_eq_true heq ▸ hmem a ha)
      · rw [List.filter_cons_of_neg, ih h.2 hrest]
        intro heq
        exact h.1 (of_decide_eq_true heq ▸ hmem item hrest)

/-- **When hooks fit together**: exactly if no method is called `request` and function
names that differ still differ in snake case. -/
theorem hooksAgree_iff (i : Interface) (options : Options) :
    HooksAgree i options ↔
      (∀ m ∈ generatedMethods i, Text.snakeCase m.functionName ≠ "request") ∧
        ∀ m ∈ generatedMethods i, ∀ n ∈ generatedMethods i,
          Text.snakeCase m.functionName = Text.snakeCase n.functionName →
            m.functionName = n.functionName := by
  have hdistinct : (((hooksTrait i).methods.map Function.name).map
      Identifier.functionName).Nodup ↔
        (∀ m ∈ generatedMethods i, hookStem m ≠ "request") ∧
          ∀ m ∈ generatedMethods i, ∀ n ∈ generatedMethods i,
            hookStem m = hookStem n → m.functionName = n.functionName := by
    rw [identifiers_hooksTrait, nodup_identifiers_iff, nodup_hookStems_iff,
      request_mem_hookStems_iff]
    simp only [not_exists, not_and, ne_eq]
  constructor
  · exact fun h => hdistinct.mp h.distinct
  · -- Where no two hooks are written alike, a call finds the hook that was declared for it.
    intro h
    have hnodup := hdistinct.mpr h
    refine ⟨hnodup, fun name count hcall => ?_⟩
    rw [hookCalls_clientUnit] at hcall
    obtain ⟨m, hm, hcall⟩ := List.mem_flatMap.mp hcall
    obtain ⟨f, hf, rfl, hcount⟩ := exists_hook hm hcall
    exact ⟨f, filter_eq_singleton hnodup hf, hcount⟩

/-! ### Hooks that are written alike -/

/-- A client whose method is called like what all hooks are about. -/
def pingApi : Declaration.Interface :=
  { name := "IPingApi"
    ancestors := []
    annotations := [.marker "HttpClientApi"]
    methods := [⟨"Request", some ⟨none, true⟩, [⟨"Get", [.text "/ping"], []⟩], []⟩]
    source := "ping.yaml" }

/-- The fail and error hooks of the method are those of all requests once more. -/
theorem pingApi_not_hooksAgree :
    ∃ contract ∈ (resolveAll ⟨[], [pingApi]⟩ (fun name => name == "IPingApi")).value,
      ∀ options, ¬ HooksAgree contract options := by
  have hclient : (keepInterface ⟨[], [pingApi]⟩ pingApi).value =
      (resolveClient ⟨[], [pingApi]⟩ pingApi ⟨none, none, none, none, false, none⟩).value := rfl
  have hmethods : (keepInterface ⟨[], [pingApi]⟩ pingApi).value.map (fun contract =>
      contract.methods.map (fun m => (m.name, m.ignoreImplementation))) =
        some [("Request", false)] := by
    rw [hclient]
    simp only [resolveClient, Reported.value_bind,
      DeclarationSet.lineage_root (i := pingApi) rfl]
    with_unfolding_all rfl
  obtain ⟨contract, hkept, hmethods⟩ := Option.map_eq_some_iff.mp hmethods
  obtain ⟨m, hm, hm'⟩ := List.map_eq_singleton_iff.mp hmethods
  obtain ⟨hname, hgenerated⟩ := Prod.mk.inj hm'
  refine ⟨contract, mem_resolveAll List.mem_cons_self rfl hkept, fun options hagree => ?_⟩
  have hmem : m ∈ generatedMethods contract :=
    List.mem_filter.mpr ⟨hm ▸ List.mem_cons_self, by simp [hgenerated]⟩
  refine ((hooksAgree_iff contract options).mp hagree).1 m hmem ?_
  rw [Method.functionName, hname]
  decide +kernel

end Layer
end ClientSynth
