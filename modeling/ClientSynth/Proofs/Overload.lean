import ClientSynth.Proofs.InheritedMethod
import ClientSynth.Proofs.Occurrence

/-! # Overloads

The methods of several interfaces are gone through one after another.  The first one of a
name is kept and goes on standing for that name: every later one is measured against its
signature, and never against an overload that has been reported in between.  So what is
said about a method depends on the first one of its name alone, and a list can be read from
its end: one more method adds itself, a report, or nothing. -/
namespace ClientSynth
namespace Declaration
namespace InheritedMethod

open Occurrence

/-- The name that a method is collected under. -/
def name (m : InheritedMethod) : String := m.method.name

/-- All methods that interfaces declare, each with its interface. -/
def declared (interfaces : List Interface) : List InheritedMethod :=
  interfaces.flatMap (fun i => i.methods.map (fun m => ⟨i, m⟩))

/-- The first method of a list that is called `name`. -/
def first? (l : List InheritedMethod) (name : String) : Option InheritedMethod :=
  l.find? (fun m => m.name == name)

/-- The report of a method whose signature is not the one that is kept under its name. -/
def overload (m : InheritedMethod) (kept : String) : List Diagnostic :=
  if m.method.signature = kept then [] else [duplicate m kept]

/-- What is reported about a method of `l` that is not the first one of its name. -/
def overloadIn (l : List InheritedMethod) (m : InheritedMethod) : List Diagnostic :=
  match first? l m.name with
  | none => []
  | some first => overload m first.method.signature

/-! ### One method more -/

/-- The signature that stands for a name when the methods of `l` have been gone through and
`seen` has been met before them. -/
def standing (seen : List (String × String)) (l : List InheritedMethod) (name : String) :
    Option String :=
  (seen.lookup name).or ((first? l name).map (fun m => m.method.signature))

variable {seen : List (String × String)} {l : List InheritedMethod} {m : InheritedMethod}
  {kept : String}

/-- A new name stands for the method that brings it. -/
theorem standing_cons_new (hnew : seen.lookup m.name = none) (name : String) :
    standing seen (m :: l) name = standing ((m.name, m.method.signature) :: seen) l name := by
  by_cases hname : name = m.name
  · subst hname
    simp [standing, hnew, first?]
  · have hlater : (name == m.name) = false := by simpa using hname
    have hother : (m.name == name) = false := by simpa using Ne.symm hname
    simp [standing, first?, List.lookup_cons, hlater, hother]

/-- A name that has been met stands for what it did. -/
theorem standing_cons_old (hold : seen.lookup m.name = some kept) (name : String) :
    standing seen (m :: l) name = standing seen l name := by
  by_cases hname : name = m.name
  · subst hname
    simp [standing, hold]
  · have hother : (m.name == name) = false := by simpa using Ne.symm hname
    simp [standing, first?, hother]

theorem distinct_cons_new (hnew : seen.lookup m.name = none) (rest : List InheritedMethod) :
    distinct seen (m :: rest) =
      ⟨m :: (distinct ((m.name, m.method.signature) :: seen) rest).value,
        (distinct ((m.name, m.method.signature) :: seen) rest).log⟩ := by
  rw [distinct]
  split
  · rfl
  · next kept hkept => exact absurd (hnew.symm.trans hkept) (by simp)

theorem distinct_cons_old (hold : seen.lookup m.name = some kept) (rest : List InheritedMethod) :
    distinct seen (m :: rest) =
      ⟨(distinct seen rest).value, overload m kept ++ (distinct seen rest).log⟩ := by
  rw [distinct]
  split
  · next hnew => exact absurd (hold.symm.trans hnew) (by simp)
  · next other hother =>
    obtain rfl : other = kept := Option.some.inj (hother.symm.trans hold)
    dsimp only [overload]
    split <;> rfl

/-- A last method whose name is new is kept. -/
theorem distinct_concat_new (h : standing seen l m.name = none) :
    distinct seen (l ++ [m]) = ⟨(distinct seen l).value ++ [m], (distinct seen l).log⟩ := by
  induction l generalizing seen with
  | nil =>
      have hnew : seen.lookup m.name = none := by simpa [standing, first?] using h
      rw [List.nil_append, distinct_cons_new hnew]
      rfl
  | cons n l ih =>
      rw [List.cons_append]
      cases hn : seen.lookup n.name with
      | none =>
          rw [standing_cons_new hn] at h
          rw [distinct_cons_new hn, distinct_cons_new hn, ih h]
          rfl
      | some signature =>
          rw [standing_cons_old hn] at h
          rw [distinct_cons_old hn, distinct_cons_old hn, ih h]

/-- A last method whose name has been met is dropped, and reported if it is an overload. -/
theorem distinct_concat_old (h : standing seen l m.name = some kept) :
    distinct seen (l ++ [m]) =
      ⟨(distinct seen l).value, (distinct seen l).log ++ overload m kept⟩ := by
  induction l generalizing seen with
  | nil =>
      have hold : seen.lookup m.name = some kept := by simpa [standing, first?] using h
      rw [List.nil_append, distinct_cons_old hold]
      exact congrArg (Reported.mk _) (List.append_nil _)
  | cons n l ih =>
      rw [List.cons_append]
      cases hn : seen.lookup n.name with
      | none =>
          rw [standing_cons_new hn] at h
          rw [distinct_cons_new hn, distinct_cons_new hn, ih h]
      | some signature =>
          rw [standing_cons_old hn] at h
          rw [distinct_cons_old hn, distinct_cons_old hn, ih h, List.append_assoc]

/-! ### All methods -/

theorem first?_eq_none : first? l m.name = none ↔ m.name ∉ l.map name := by
  rw [← isSome_find?_iff, first?]
  simp

/-- What is reported about a method that is not the first of its name does not depend on
what follows. -/
theorem overloadIn_append (hm : m.name ∈ l.map name) (more : List InheritedMethod) :
    overloadIn (l ++ more) m = overloadIn l m := by
  obtain ⟨first, hfirst⟩ := Option.isSome_iff_exists.mp ((isSome_find?_iff l m.name).mpr hm)
  have hlonger : first? (l ++ more) m.name = some first := by
    rw [first?, List.find?_append, hfirst]
    rfl
  rw [overloadIn, overloadIn, hlonger, first?, hfirst]

theorem mem_of_mem_repeats (h : m ∈ repeats name l) : m ∈ l := by
  obtain ⟨p, hp, rfl⟩ := List.mem_map.mp h
  exact List.fst_mem_of_mem_zipIdx (List.mem_filter.mp hp).1

/-- What the names of a list have come to: the methods that come first under their names,
and the reports of those that do not. -/
theorem distinct_eq (l : List InheritedMethod) :
    distinct [] l = ⟨firsts name l, (repeats name l).flatMap (overloadIn l)⟩ := by
  induction l using List.reverseRecOn with
  | nil => rfl
  | append_singleton l m ih =>
      -- One more method at the end changes no report about the earlier ones.
      have hbefore : (repeats name l).flatMap (overloadIn (l ++ [m])) =
          (repeats name l).flatMap (overloadIn l) :=
        List.flatMap_congr (fun n hn =>
          overloadIn_append (List.mem_map_of_mem (mem_of_mem_repeats hn)) [m])
      rw [firsts_concat, repeats_concat, List.flatMap_append, hbefore]
      cases hfirst : first? l m.name with
      | none =>
          have hstanding : standing [] l m.name = none := by simp [standing, hfirst]
          have hnew : m.name ∉ l.map name := first?_eq_none.mp hfirst
          rw [distinct_concat_new hstanding, ih, if_neg hnew, if_neg hnew, List.flatMap_nil,
            List.append_nil]
      | some first =>
          have hstanding : standing [] l m.name = some first.method.signature := by
            simp [standing, hfirst]
          have hold : m.name ∈ l.map name := by
            by_contra hnew
            rw [first?_eq_none.mpr hnew] at hfirst
            cases hfirst
          have hreport : overloadIn (l ++ [m]) m = overload m first.method.signature := by
            rw [overloadIn_append hold, overloadIn, hfirst]
          rw [distinct_concat_old hstanding, ih, if_pos hold, if_pos hold, List.append_nil,
            List.flatMap_singleton, hreport]

/-- What collecting the methods of interfaces comes to. -/
structure KeepsFirst (interfaces : List Interface) (collected : Reported (List InheritedMethod)) :
    Prop where
  /-- The methods stand in the order of their declarations, without each whose name occurred
  before. -/
  methods : collected.value = firsts name (declared interfaces)
  /-- Under a name stands the first method that was declared so, if there is one. -/
  found : ∀ name, first? collected.value name = first? (declared interfaces) name
  /-- And no other one. -/
  names : (collected.value.map name).Nodup
  /-- Each method that was left out is reported once if its signature differs from that of
  the first one of its name, and otherwise not at all. -/
  reports : collected.log = (repeats name (declared interfaces)).flatMap
    (overloadIn (declared interfaces))
  /-- The reports are warnings about a second method of a name. -/
  code : ∀ d ∈ collected.log, d.code = .duplicateMethod ∧ d.severity = .warning

/-- **Collecting keeps the first method of every name**, whatever the interfaces declare, and
reports exactly the overloads among the others. -/
theorem collect_keepsFirst (interfaces : List Interface) :
    KeepsFirst interfaces (collect interfaces) := by
  have hcollect : collect interfaces = ⟨firsts name (declared interfaces),
      (repeats name (declared interfaces)).flatMap (overloadIn (declared interfaces))⟩ :=
    distinct_eq (declared interfaces)
  constructor
  case methods => rw [hcollect]
  case found => exact fun name => by rw [hcollect, first?, find?_firsts, first?]
  case names => exact hcollect ▸ nodup_firsts _
  case reports => rw [hcollect]
  case code =>
    intro d hd
    rw [hcollect] at hd
    obtain ⟨m, -, hd⟩ := List.mem_flatMap.mp hd
    unfold overloadIn overload at hd
    split at hd
    · cases hd
    · split at hd
      · cases hd
      · rw [List.mem_singleton.mp hd]
        exact ⟨rfl, rfl⟩

-- An overload that comes twice is reported twice: it never takes the place of the first method.
example : (collect [⟨"IApi", [], [], [[], ["i64"], ["i64"], []].map (fun types =>
      ⟨"Find", none, [], types.map (fun type => ⟨"id", type, none, []⟩)⟩), "in"⟩]).log.map
        Diagnostic.message =
    List.replicate 2
      "method 'Find(i64) -> async ()' conflicts with 'Find() -> async ()' and is skipped" := by
  decide +kernel

end InheritedMethod
end Declaration
end ClientSynth
