import ClientSynth.Layer.Wrap
import ClientSynth.Proofs.Spelling
import ClientSynth.Proofs.WrapMethod

/-! # The methods of a wrap layer

The names of a wrap layer are settled in one pass.  The names of the client methods are in
use from the start; a variant takes its name when its turn comes, and is dropped with a
report if the name is in use by then.  Nothing else is ever dropped.  So a variant that is
kept shares its name with no other method of the layer, and a variant is only lost to a
method other than its own: the scope adds letters to the name of the method, and not as
many for users as for tenants. -/
namespace ClientSynth

open Contract Code

namespace Naming

/-! ### Letters of names -/

/-- How many letters of a name are left in snake case. -/
def letterCount (name : String) : Nat := (Text.joinedLetters (Text.letters name.toList)).length

theorem letterCount_append (name other : String) :
    letterCount (name ++ other) = letterCount name + letterCount other := by
  rw [letterCount, String.toList_append, Text.letters_append, Text.joinedLetters_append,
    List.length_append, letterCount, letterCount]

theorem letterCount_withScope (name scope : String) :
    letterCount (withScope name scope) = letterCount name + letterCount scope := by
  have hunderscore : letterCount "_" = 0 := rfl
  unfold withScope
  split
  · next base hbase =>
    have hname : letterCount name = letterCount base + letterCount asyncSuffix := by
      rw [Text.dropSuffix?_eq_some hbase, letterCount_append]
    split
    · rw [letterCount_append, letterCount_append]
      omega
    · simp only [letterCount_append]
      omega
  · rw [letterCount_append, letterCount_append]
    omega

/-- Names that differ in how many letters they have are different functions. -/
theorem functionName_ne {name other : String} (h : letterCount name ≠ letterCount other) :
    Identifier.functionName name ≠ Identifier.functionName other := by
  intro hsame
  have hsnake : Text.snakeChars name.toList = Text.snakeChars other.toList :=
    String.ofList_inj.mp (Identifier.functionName_eq_iff_snakeCase.mp hsame)
  refine h ?_
  rw [letterCount, ← Text.joinedLetters_snakeChars, hsnake, Text.joinedLetters_snakeChars,
    letterCount]

/-- A name and its two forms with a scope are three different functions. -/
theorem functionName_withScope_nodup (name : String) :
    [Identifier.functionName name, Identifier.functionName (withScope name "Tenant"),
      Identifier.functionName (withScope name "User")].Nodup := by
  have htenant : letterCount "Tenant" = 6 := by decide +kernel
  have huser : letterCount "User" = 4 := by decide +kernel
  have hown : ∀ scope, 0 < letterCount scope →
      Identifier.functionName name ≠ Identifier.functionName (withScope name scope) := by
    intro scope hscope
    refine functionName_ne ?_
    rw [letterCount_withScope]
    omega
  have hscopes : Identifier.functionName (withScope name "Tenant") ≠
      Identifier.functionName (withScope name "User") := by
    refine functionName_ne ?_
    rw [letterCount_withScope, letterCount_withScope]
    omega
  have htenantOwn := hown "Tenant" (by omega)
  have huserOwn := hown "User" (by omega)
  simp [htenantOwn, huserOwn, hscopes]

end Naming

namespace Layer

/-- The identifier under which the wrap trait declares a method. -/
def WrapMethod.identifier (w : WrapMethod) : String :=
  Identifier.functionName (wrapDeclaration w).name

/-- Whether a wrap method stands for one scope of a method that takes either. -/
def WrapMethod.isVariant (w : WrapMethod) : Bool := hasBothToken w.target

/-! ### One candidate after the other -/

/-- A candidate that comes too late. -/
def Clashes (taken : List String) (c : Bool × WrapMethod) : Prop :=
  c.1 = true ∧ Text.snakeCase c.2.name ∈ taken

/-- The names in use after a candidate. -/
def occupy (taken : List String) (c : Bool × WrapMethod) : List String :=
  if c.1 then taken.insert (Text.snakeCase c.2.name) else taken

variable {i : Interface} {taken : List String} {c : Bool × WrapMethod}
  {cs : List (Bool × WrapMethod)}

theorem settle_clash (h : Clashes taken c) :
    settle i taken (c :: cs) =
      ⟨(settle i (occupy taken c) cs).value,
        expansionCollision i c.2 :: (settle i (occupy taken c) cs).log⟩ := by
  obtain ⟨isExpanded, w⟩ := c
  obtain ⟨hexpanded, hmem⟩ := h
  obtain rfl : isExpanded = true := hexpanded
  simp [settle, occupy, hmem]

theorem settle_free (h : ¬ Clashes taken c) :
    settle i taken (c :: cs) =
      ⟨c.2 :: (settle i (occupy taken c) cs).value, (settle i (occupy taken c) cs).log⟩ := by
  obtain ⟨isExpanded, w⟩ := c
  cases isExpanded with
  | false => rfl
  | true =>
      have hmem : Text.snakeCase w.name ∉ taken := fun hmem => h ⟨rfl, hmem⟩
      simp [settle, occupy, hmem]

/-- What comes later is settled under the names in use by then. -/
theorem settle_append (taken : List String) (cs ds : List (Bool × WrapMethod)) :
    settle i taken (cs ++ ds) =
      ⟨(settle i taken cs).value ++ (settle i (cs.foldl occupy taken) ds).value,
        (settle i taken cs).log ++ (settle i (cs.foldl occupy taken) ds).log⟩ := by
  induction cs generalizing taken with
  | nil => rfl
  | cons c cs ih =>
      rw [List.cons_append, List.foldl_cons]
      by_cases hclash : Clashes taken c
      · rw [settle_clash hclash, settle_clash hclash, ih]
        rfl
      · rw [settle_free hclash, settle_free hclash, ih]
        rfl

/-- The reports name the interface but do not look at its methods. -/
theorem settle_methods (methods : List Method) (taken : List String)
    (cs : List (Bool × WrapMethod)) : settle { i with methods } taken cs = settle i taken cs := by
  induction cs generalizing taken with
  | nil => rfl
  | cons c cs ih =>
      by_cases hclash : Clashes taken c
      · rw [settle_clash hclash, settle_clash hclash, ih]
        rfl
      · rw [settle_free hclash, settle_free hclash, ih]

theorem mem_occupy {name : String} :
    name ∈ occupy taken c ↔ name ∈ taken ∨ c.1 = true ∧ Text.snakeCase c.2.name = name := by
  unfold occupy
  split
  · next hexpanded =>
    rw [List.mem_insert_iff]
    constructor
    · rintro (rfl | hmem)
      · exact Or.inr ⟨hexpanded, rfl⟩
      · exact Or.inl hmem
    · rintro (hmem | ⟨-, rfl⟩)
      · exact Or.inr hmem
      · exact Or.inl rfl
  · next hplain => simp [hplain]

/-- Only candidates for variants take names. -/
theorem mem_occupied {name : String} (taken : List String) (cs : List (Bool × WrapMethod)) :
    name ∈ cs.foldl occupy taken ↔
      name ∈ taken ∨ ∃ c ∈ cs, c.1 = true ∧ Text.snakeCase c.2.name = name := by
  induction cs generalizing taken with
  | nil => simp
  | cons c cs ih =>
      rw [List.foldl_cons, ih, mem_occupy, or_assoc]
      simp only [List.mem_cons, or_and_right, exists_or, exists_eq_left]

/-- Candidates stay in their order. -/
theorem value_settle_sublist (taken : List String) (cs : List (Bool × WrapMethod)) :
    (settle i taken cs).value.Sublist (cs.map Prod.snd) := by
  induction cs generalizing taken with
  | nil => exact List.Sublist.slnil
  | cons c cs ih =>
      by_cases hclash : Clashes taken c
      · rw [settle_clash hclash]
        exact (ih _).cons c.2
      · rw [settle_free hclash]
        exact (ih _).cons_cons c.2

/-- Every candidate is kept or reported. -/
theorem length_settle (taken : List String) (cs : List (Bool × WrapMethod)) :
    (settle i taken cs).value.length + (settle i taken cs).log.length = cs.length := by
  induction cs generalizing taken with
  | nil => rfl
  | cons c cs ih =>
      have hrest := ih (occupy taken c)
      by_cases hclash : Clashes taken c
      · rw [settle_clash hclash]
        simp only [List.length_cons]
        omega
      · rw [settle_free hclash]
        simp only [List.length_cons]
        omega

theorem mem_log_settle {d : Diagnostic} (taken : List String) (cs : List (Bool × WrapMethod))
    (hd : d ∈ (settle i taken cs).log) : ∃ w, d = expansionCollision i w := by
  induction cs generalizing taken with
  | nil => exact absurd hd List.not_mem_nil
  | cons c cs ih =>
      by_cases hclash : Clashes taken c
      · rw [settle_clash hclash] at hd
        rcases List.mem_cons.mp hd with rfl | hd
        · exact ⟨c.2, rfl⟩
        · exact ih _ hd
      · rw [settle_free hclash] at hd
        exact ih _ hd

/-- Candidates with names of their own that are free are all kept. -/
theorem settle_of_free {taken : List String} {cs : List (Bool × WrapMethod)}
    (hnodup : (cs.map (fun c => Text.snakeCase c.2.name)).Nodup)
    (hfree : ∀ c ∈ cs, Text.snakeCase c.2.name ∉ taken) :
    (settle i taken cs).value = cs.map Prod.snd := by
  induction cs generalizing taken with
  | nil => rfl
  | cons c cs ih =>
      rw [List.map_cons, List.nodup_cons] at hnodup
      have hclash : ¬ Clashes taken c := fun hclash => hfree c List.mem_cons_self hclash.2
      have hrest : ∀ d ∈ cs, Text.snakeCase d.2.name ∉ occupy taken c := by
        intro d hd hmem
        rcases mem_occupy.mp hmem with hmem | ⟨-, hsame⟩
        · exact hfree d (List.mem_cons_of_mem c hd) hmem
        · rw [hsame] at hnodup
          exact hnodup.1 (List.mem_map_of_mem hd)
      rw [settle_free hclash, ih hnodup.2 hrest, List.map_cons]

/-! ### Names that are kept -/

/-- Candidates that say whether they are variants, where the names of all others are in
use already. -/
structure AreEntered (taken : List String) (cs : List (Bool × WrapMethod)) : Prop where
  flag : ∀ c ∈ cs, c.1 = c.2.isVariant
  own : ∀ c ∈ cs, c.1 = false → Text.snakeCase c.2.name ∈ taken

theorem AreEntered.tail (h : AreEntered taken (c :: cs)) : AreEntered (occupy taken c) cs where
  flag d hd := h.flag d (List.mem_cons_of_mem c hd)
  own d hd hplain := mem_occupy.mpr (Or.inl (h.own d (List.mem_cons_of_mem c hd) hplain))

theorem AreEntered.own_mem (h : AreEntered taken cs) {w : WrapMethod}
    (hw : w ∈ cs.map Prod.snd) (hplain : w.isVariant = false) : Text.snakeCase w.name ∈ taken := by
  obtain ⟨c, hc, rfl⟩ := List.mem_map.mp hw
  exact h.own c hc ((h.flag c hc).trans hplain)

/-- A variant is kept only under a name that was not in use. -/
theorem AreEntered.variant_not_mem {taken : List String} {cs : List (Bool × WrapMethod)}
    (h : AreEntered taken cs) {w : WrapMethod} (hw : w ∈ (settle i taken cs).value)
    (hvariant : w.isVariant = true) : Text.snakeCase w.name ∉ taken := by
  induction cs generalizing taken with
  | nil => exact absurd hw List.not_mem_nil
  | cons c cs ih =>
      have hrest : w ∈ (settle i (occupy taken c) cs).value → Text.snakeCase w.name ∉ taken := by
        intro hw hmem
        exact ih h.tail hw (mem_occupy.mpr (Or.inl hmem))
      by_cases hclash : Clashes taken c
      · rw [settle_clash hclash] at hw
        exact hrest hw
      · rw [settle_free hclash] at hw
        rcases List.mem_cons.mp hw with rfl | hw
        · exact fun hmem => hclash ⟨(h.flag c List.mem_cons_self).trans hvariant, hmem⟩
        · exact hrest hw

/-- Of two methods with one name neither is a variant. -/
theorem AreEntered.pairwise {taken : List String} {cs : List (Bool × WrapMethod)}
    (h : AreEntered taken cs) :
    (settle i taken cs).value.Pairwise (fun v w => Text.snakeCase v.name = Text.snakeCase w.name →
      v.isVariant = false ∧ w.isVariant = false) := by
  induction cs generalizing taken with
  | nil => exact List.Pairwise.nil
  | cons c cs ih =>
      by_cases hclash : Clashes taken c
      · rw [settle_clash hclash]
        exact ih h.tail
      · rw [settle_free hclash]
        refine List.pairwise_cons.mpr ⟨fun w hw hsame => ?_, ih h.tail⟩
        have hcandidate : w ∈ cs.map Prod.snd := (value_settle_sublist _ cs).mem hw
        cases hvariant : w.isVariant with
        | false =>
            -- The name was in use from the start, so a variant would not have been kept.
            have hown : Text.snakeCase w.name ∈ taken :=
              h.own_mem (List.mem_cons_of_mem c.2 hcandidate) hvariant
            rw [← hsame] at hown
            refine ⟨?_, rfl⟩
            rw [← h.flag c List.mem_cons_self]
            by_contra hexpanded
            exact hclash ⟨by simpa using hexpanded, hown⟩
        | true =>
            -- A later variant has a name that is not in use, and so not the one just taken.
            refine absurd (mem_occupy.mpr ?_) (h.tail.variant_not_mem hw hvariant)
            cases hexpanded : c.1 with
            | true => exact Or.inr ⟨rfl, hsame⟩
            | false =>
                refine Or.inl ?_
                rw [← hsame]
                exact h.own c List.mem_cons_self hexpanded

/-! ### The candidates of an interface -/

variable {m : Method} {w : WrapMethod}

theorem candidates_eq (m : Method) :
    candidates m = (expandMethod m).map (fun w => (hasBothToken m, w)) := by
  unfold candidates
  cases h : hasBothToken m with
  | true => rw [expandMethod_of_hasBothToken h]; rfl
  | false => rw [expandMethod_of_no_bothToken h .tenant]; rfl

theorem target_of_mem_expandMethod (hw : w ∈ expandMethod m) : w.target = m := by
  obtain ⟨name, chosen, rfl⟩ := exists_variant hw
  rfl

theorem name_of_mem_expandMethod (h : hasBothToken m = false) (hw : w ∈ expandMethod m) :
    w.name = m.name := by
  rw [expandMethod_of_no_bothToken h .tenant] at hw
  rw [List.mem_singleton.mp hw]
  rfl

theorem mem_candidates {methods : List Method} (hc : c ∈ methods.flatMap candidates) :
    ∃ m ∈ methods, c.1 = hasBothToken m ∧ c.2 ∈ expandMethod m := by
  obtain ⟨m, hm, hc⟩ := List.mem_flatMap.mp hc
  rw [candidates_eq] at hc
  obtain ⟨w, hw, rfl⟩ := List.mem_map.mp hc
  exact ⟨m, hm, rfl, hw⟩

theorem areEntered_candidates (methods : List Method) :
    AreEntered (methods.map Method.functionName) (methods.flatMap candidates) where
  flag c hc := by
    obtain ⟨m, -, hflag, hw⟩ := mem_candidates hc
    rw [hflag, WrapMethod.isVariant, target_of_mem_expandMethod hw]
  own c hc hplain := by
    obtain ⟨m, hm, hflag, hw⟩ := mem_candidates hc
    rw [name_of_mem_expandMethod (hflag.symm.trans hplain) hw]
    exact List.mem_map_of_mem hm

theorem length_candidates (methods : List Method) :
    (methods.flatMap candidates).length =
      (methods.filter (fun m => !hasBothToken m)).length +
        2 * (methods.filter hasBothToken).length := by
  induction methods with
  | nil => rfl
  | cons m methods ih =>
      rw [List.flatMap_cons, List.length_append, ih, candidates_eq, List.length_map]
      cases h : hasBothToken m with
      | true =>
          rw [expandMethod_of_hasBothToken h]
          simp [h]
          omega
      | false =>
          rw [expandMethod_of_no_bothToken h .tenant]
          simp [h]
          omega

theorem exists_method (hw : w ∈ (expandInterface i).value) :
    ∃ m ∈ wrappedMethods i, w ∈ expandMethod m := by
  obtain ⟨c, hc, rfl⟩ := List.mem_map.mp ((value_settle_sublist _ _).mem hw)
  obtain ⟨m, hm, -, hw⟩ := mem_candidates hc
  exact ⟨m, hm, hw⟩

/-- The functions of a method of either scope and of its variants are three. -/
theorem identifiers_nodup (h : hasBothToken m = true) :
    (Identifier.functionName m.name :: (expandMethod m).map WrapMethod.identifier).Nodup := by
  rw [expandMethod_of_hasBothToken h]
  exact Naming.functionName_withScope_nodup m.name

/-- A wrap method with an identifier that no other method has, nor any of its wrap methods. -/
def IsFree (w : WrapMethod) (others : List Method) : Prop :=
  ∀ n ∈ others, w.identifier ≠ Identifier.functionName n.name ∧
    ∀ v ∈ expandMethod n, w.identifier ≠ v.identifier

/-- When the turn of a method comes, a free name of a variant is not in use yet. -/
theorem IsFree.not_occupied {front back : List Method} (hboth : hasBothToken m = true)
    (hw : w ∈ expandMethod m) (hfree : IsFree w (front ++ back)) :
    Text.snakeCase w.name ∉
      (front.flatMap candidates).foldl occupy ((front ++ m :: back).map Method.functionName) := by
  intro hmem
  rcases (mem_occupied _ _).mp hmem with hmem | ⟨c, hc, -, hsame⟩
  · -- The name of a client method: of this one, or of another.
    obtain ⟨n, hn, hsame⟩ := List.mem_map.mp hmem
    have hidentifier : Identifier.functionName n.name = w.identifier :=
      Identifier.functionName_eq_iff_snakeCase.mpr hsame
    by_cases hnm : n = m
    · subst hnm
      refine (List.nodup_cons.mp (identifiers_nodup hboth)).1 ?_
      rw [hidentifier]
      exact List.mem_map_of_mem hw
    · have hother : n ∈ front ++ back := by
        simpa [hnm] using hn
      exact (hfree n hother).1 hidentifier.symm
  · -- The name of a variant that came before.
    obtain ⟨n, hn, -, hv⟩ := mem_candidates hc
    exact (hfree n (List.mem_append_left back hn)).2 c.2 hv
      (Identifier.functionName_eq_iff_snakeCase.mpr hsame.symm)

/-- A method keeps its variants if nothing but the method itself has their names. -/
theorem expandMethod_infix {front back : List Method}
    (hwrapped : wrappedMethods i = front ++ m :: back) (hboth : hasBothToken m = true)
    (hfree : ∀ w ∈ expandMethod m, IsFree w (front ++ back)) :
    expandMethod m <:+: (expandInterface i).value := by
  have hnodup : ((candidates m).map (fun c => Text.snakeCase c.2.name)).Nodup := by
    have hidentifiers := (List.nodup_cons.mp (identifiers_nodup hboth)).2
    rw [candidates_eq, List.map_map, List.Nodup, List.pairwise_map]
    refine (List.pairwise_map.mp hidentifiers).imp (fun hne hsame => ?_)
    exact hne (Identifier.functionName_eq_iff_snakeCase.mpr hsame)
  have hnew : ∀ c ∈ candidates m, Text.snakeCase c.2.name ∉
      (front.flatMap candidates).foldl occupy ((front ++ m :: back).map Method.functionName) := by
    intro c hc
    rw [candidates_eq] at hc
    obtain ⟨w, hw, rfl⟩ := List.mem_map.mp hc
    exact (hfree w hw).not_occupied hboth hw
  -- With free and distinct names nothing of the method is dropped, whatever came before.
  have hkept : (settle i ((front.flatMap candidates).foldl occupy
      ((front ++ m :: back).map Method.functionName)) (candidates m)).value = expandMethod m := by
    rw [settle_of_free hnodup hnew, candidates_eq, List.map_map]
    exact List.map_id _
  rw [expandInterface, hwrapped, List.flatMap_append, List.flatMap_cons, settle_append,
    settle_append, hkept]
  exact List.infix_append' _ _ _

/-- A method that is no variant has the identifier of its client method. -/
theorem identifier_target (hw : w ∈ (expandInterface i).value) (hplain : w.isVariant = false) :
    Identifier.functionName w.target.name = w.identifier := by
  obtain ⟨m, -, hmem⟩ := exists_method hw
  rw [WrapMethod.isVariant, target_of_mem_expandMethod hmem] at hplain
  rw [target_of_mem_expandMethod hmem, ← name_of_mem_expandMethod hplain hmem]
  rfl

/-- The reports of variants that are dropped. -/
def collisions (log : List Diagnostic) : List Diagnostic :=
  log.filter (fun d => d.severity == .warning && d.code == .expansionCollision)

/-- What a wrap layer makes of the methods of an interface. -/
structure ExpandsFairly (i : Interface) : Prop where
  /-- Two methods share an identifier only if neither is a variant, and then their client
  methods share it. -/
  distinct : (expandInterface i).value.Pairwise (fun v w => v.identifier = w.identifier →
    (v.isVariant = false ∧ w.isVariant = false) ∧
      Identifier.functionName v.target.name = v.identifier ∧
        Identifier.functionName w.target.name = w.identifier)
  /-- Every variant is kept or reported, and so is every method without variants. -/
  counted : (expandInterface i).value.length + (collisions (expandInterface i).log).length =
    ((i.methods.filter (fun m => !m.ignoreWrap)).filter (fun m => !hasBothToken m)).length +
      2 * ((i.methods.filter (fun m => !m.ignoreWrap)).filter hasBothToken).length
  /-- Without the methods that are not wrapped the layer is the same. -/
  ignores : expandInterface i =
    expandInterface { i with methods := i.methods.filter (fun m => !m.ignoreWrap) }
  /-- Every method of the layer comes from a method that is wrapped. -/
  covers : ∀ w ∈ (expandInterface i).value,
    ∃ m ∈ i.methods, m.ignoreWrap = false ∧ w.target = m ∧ w ∈ expandMethod m
  /-- A method of either scope has two variants, and these and the method differ. -/
  apart : ∀ m ∈ i.methods, m.ignoreWrap = false → hasBothToken m = true →
    (expandMethod m).length = 2 ∧
      (Identifier.functionName m.name :: (expandMethod m).map WrapMethod.identifier).Nodup
  /-- Variants are kept unless they clash with another method or with one of its variants. -/
  keeps : ∀ front m back, i.methods.filter (fun m => !m.ignoreWrap) = front ++ m :: back →
    hasBothToken m = true → (∀ w ∈ expandMethod m, IsFree w (front ++ back)) →
      expandMethod m <:+: (expandInterface i).value

theorem collisions_expandInterface (i : Interface) :
    collisions (expandInterface i).log = (expandInterface i).log := by
  refine List.filter_eq_self.mpr (fun d hd => ?_)
  obtain ⟨w, rfl⟩ := mem_log_settle _ _ hd
  rfl

theorem wrappedMethods_idem (i : Interface) :
    wrappedMethods { i with methods := wrappedMethods i } = wrappedMethods i := by
  simp [wrappedMethods]

/-- **A wrap layer loses no method without a report, and no variant without a clash.** -/
theorem expandInterface_expandsFairly (i : Interface) : ExpandsFairly i where
  distinct := by
    refine (List.Pairwise.imp_of_mem ?_) (areEntered_candidates (wrappedMethods i)).pairwise
    intro v w hv hw hplain hsame
    obtain ⟨hvplain, hwplain⟩ := hplain (Identifier.functionName_eq_iff_snakeCase.mp hsame)
    exact ⟨⟨hvplain, hwplain⟩, identifier_target hv hvplain, identifier_target hw hwplain⟩
  counted := by
    rw [collisions_expandInterface, expandInterface, length_settle, length_candidates,
      wrappedMethods]
  ignores := by
    rw [← wrappedMethods, expandInterface, expandInterface, wrappedMethods_idem]
    exact (settle_methods _ _ _).symm
  covers := by
    intro w hw
    obtain ⟨m, hm, hmem⟩ := exists_method hw
    obtain ⟨hdeclared, hwrapped⟩ := List.mem_filter.mp hm
    exact ⟨m, hdeclared, by simpa using hwrapped, target_of_mem_expandMethod hmem, hmem⟩
  apart := by
    intro m _ _ hboth
    refine ⟨?_, identifiers_nodup hboth⟩
    rw [expandMethod_of_hasBothToken hboth]
    rfl
  keeps _ _ _ hwrapped hboth hfree := expandMethod_infix hwrapped hboth hfree

end Layer
end ClientSynth
