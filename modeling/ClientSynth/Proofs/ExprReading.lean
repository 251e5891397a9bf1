import ClientSynth.Proofs.CodeSeam
import Mathlib.Logic.Function.Iterate

/-! # Which expressions are read back

An expression is read back from its trees exactly if it keeps its shape, provided that this
is so for what it is made of.  One lemma for each form of an expression. -/
namespace ClientSynth
namespace Code
namespace Reader

/-! ### Levels of brackets -/

section Depth
variable {b : Bracket} {ts us : List Tree} {tss : List (List Tree)} {n : Nat}

theorem depth_cons (t : Tree) (ts : List Tree) :
    depth (t :: ts) = max (treeDepth t) (depth ts) := by
  rw [depth]

theorem depth_group (b : Bracket) (ts : List Tree) : treeDepth (.group b ts) = depth ts + 1 := by
  rw [treeDepth]

theorem depth_le_left (h : depth (ts ++ us) ≤ n) : depth ts ≤ n := by
  rw [depth_append] at h
  exact Nat.le_trans (Nat.le_max_left _ _) h

theorem depth_le_right (h : depth (ts ++ us) ≤ n) : depth us ≤ n := by
  rw [depth_append] at h
  exact Nat.le_trans (Nat.le_max_right _ _) h

theorem depth_tail_le {t : Tree} (h : depth (t :: ts) ≤ n) : depth ts ≤ n := by
  rw [depth_cons] at h
  exact Nat.le_trans (Nat.le_max_right _ _) h

/-- Brackets take one level. -/
theorem exists_level (h : depth (.group b ts :: us) ≤ n) : ∃ m, n = m + 1 ∧ depth ts ≤ m := by
  rw [depth_cons, depth_group] at h
  exact ⟨n - 1, by omega, by omega⟩

theorem depth_commaTrees_le_iff : depth (commaTrees tss) ≤ n ↔ ∀ ts ∈ tss, depth ts ≤ n := by
  induction tss with
  | nil => simp [commaTrees, depth]
  | cons ts tss ih =>
    cases tss with
    | nil => simp [commaTrees]
    | cons us tss =>
      rw [commaTrees_cons_cons, depth_append, depth_cons, treeDepth]
      simp only [List.mem_cons, forall_eq_or_imp] at ih ⊢
      rw [← ih]
      omega

end Depth

/-! ### Parts between commas -/

section Parts
variable {α β : Type} {read : List Tree → Reading β} {trees : α → List Tree} {value : α → β}
  {keeps : α → Bool}

theorem series_ne_nil (n : Nat) (ts : List Tree) : series read n ts ≠ some [] := by
  cases n with
  | zero => nofun
  | succ n =>
    rw [series]
    split
    · nofun
    · intro h
      obtain ⟨as, -, heq⟩ := Option.map_eq_some_iff.mp h
      cases heq
    · nofun

/-- The first of several parts ends the text, or a comma stands behind it. -/
theorem series_succ_iff {n : Nat} {ts : List Tree} {b : β} {bs : List β} :
    series read (n + 1) ts = some (b :: bs) ↔
      ∃ r, read ts = some (b, r) ∧
        (r = [] ∧ bs = [] ∨ ∃ rest, r = .mark ',' :: rest ∧ series read n rest = some bs) := by
  rw [series]
  split
  · next c heq =>
    rw [heq]
    constructor
    · intro h
      cases h
      exact ⟨[], rfl, .inl ⟨rfl, rfl⟩⟩
    · rintro ⟨r, h, ⟨-, rfl⟩ | ⟨rest, rfl, -⟩⟩
      · cases h
        rfl
      · cases h
  · next c more heq =>
    rw [heq]
    constructor
    · intro h
      obtain ⟨as, has, heq⟩ := Option.map_eq_some_iff.mp h
      cases heq
      exact ⟨_, rfl, .inr ⟨more, rfl, has⟩⟩
    · rintro ⟨r, h, ⟨rfl, -⟩ | ⟨rest, rfl, hrest⟩⟩
      · cases h
      · cases h
        rw [hrest]
        rfl
  -- Anything else behind the first part fails.
  · next hnil hcomma =>
    constructor
    · nofun
    · rintro ⟨r, h, ⟨rfl, -⟩ | ⟨rest, rfl, -⟩⟩
      · exact absurd h (hnil b)
      · exact absurd h (hcomma b rest)

/-- Reading gets the value of a part, and the trees behind it, exactly if the part keeps its
shape. -/
def ReadsPart (read : List Tree → Reading β) (trees : α → List Tree) (value : α → β)
    (keeps : α → Bool) (a : α) : Prop :=
  trees a ≠ [] ∧ ∀ rest r, ends true rest = true →
    (read (trees a ++ rest) = some (value a, r) ↔ keeps a = true ∧ r = rest)

theorem series_iff {l : List α} (h : ∀ a ∈ l, ReadsPart read trees value keeps a) (hne : l ≠ [])
    {n : Nat} (hn : l.length ≤ n) :
    series read n (commaTrees (l.map trees)) = some (l.map value) ↔ l.all keeps = true := by
  induction l generalizing n with
  | nil => exact absurd rfl hne
  | cons a l ih =>
    obtain ⟨n, rfl⟩ : ∃ m, n = m + 1 := ⟨n - 1, by rw [List.length_cons] at hn; omega⟩
    have ha := (h a List.mem_cons_self).2
    rw [List.map_cons (f := value), series_succ_iff, List.all_cons, Bool.and_eq_true]
    -- The last part ends the text, and every other one is followed by a comma.
    cases l with
    | nil =>
      have hread := ha [] [] rfl
      rw [List.append_nil] at hread
      rw [List.map_singleton, commaTrees, List.intercalate_singleton]
      constructor
      · rintro ⟨r, hr, ⟨rfl, -⟩ | ⟨rest, -, hrest⟩⟩
        · exact ⟨(hread.mp hr).1, rfl⟩
        · exact absurd hrest (series_ne_nil n rest)
      · rintro ⟨hkeeps, -⟩
        exact ⟨[], hread.mpr ⟨hkeeps, rfl⟩, .inl ⟨rfl, rfl⟩⟩
    | cons b l =>
      have hrest := ih (fun c hc => h c (List.mem_cons_of_mem a hc)) (List.cons_ne_nil b l)
        (Nat.le_of_succ_le_succ hn)
      have hread := fun r => ha (.mark ',' :: commaTrees ((b :: l).map trees)) r rfl
      rw [← hrest]
      constructor
      · rintro ⟨r, hr, ⟨-, hnil⟩ | ⟨rest, rfl, hmore⟩⟩
        · cases hnil
        · obtain ⟨hkeeps, heq⟩ := (hread _).mp hr
          cases heq
          exact ⟨hkeeps, hmore⟩
      · rintro ⟨hkeeps, hmore⟩
        exact ⟨_, (hread _).mpr ⟨hkeeps, rfl⟩, .inr ⟨_, rfl, hmore⟩⟩

theorem length_commaTrees_ge {l : List α} (h : ∀ a ∈ l, trees a ≠ []) :
    l.length ≤ (commaTrees (l.map trees)).length := by
  induction l with
  | nil => exact Nat.zero_le _
  | cons a l ih =>
    have ha := List.length_pos_iff.mpr (h a List.mem_cons_self)
    have hl := ih fun b hb => h b (List.mem_cons_of_mem a hb)
    cases l with
    | nil => simpa [commaTrees] using Nat.succ_le_of_lt ha
    | cons b l =>
      rw [List.map_cons] at hl
      rw [List.map_cons, List.map_cons, commaTrees_cons_cons]
      simp only [List.length_append, List.length_cons] at hl ⊢
      omega

/-- **Parts between commas are read back exactly if each of them keeps its shape.** -/
theorem parts_iff {l : List α} (h : ∀ a ∈ l, ReadsPart read trees value keeps a) :
    parts read (commaTrees (l.map trees)) = some (l.map value) ↔ l.all keeps = true := by
  have hlength := length_commaTrees_ge fun a ha => (h a ha).1
  by_cases hne : l = []
  · subst hne
    simp [parts, commaTrees]
  · have hpos := List.length_pos_iff.mpr hne
    have hempty : (commaTrees (l.map trees)).isEmpty = false := by
      rw [List.isEmpty_eq_false_iff, ← List.length_pos_iff]
      omega
    rw [parts, hempty, if_neg Bool.false_ne_true]
    exact series_iff h hne hlength

end Parts

/-! ### One form of expression after the other -/

/-- The expression is read back from its trees, whatever may stand behind it, exactly if it
keeps its shape and exposes no struct literal where none is read. -/
def ReadsExactly (e : Expr) : Prop :=
  ∀ n records rest r, depth e.trees ≤ n → ends records rest = true →
    (expr (insideAt n) records (e.trees ++ rest) = some (e.spelled, r) ↔
      e.keepsShape = true ∧ (records = true ∨ e.exposesRecord = false) ∧ r = rest)

/-- What is asked of the parts of an expression. -/
structure IsReadable (e : Expr) : Prop where
  hasPlainCode : e.HasPlainCode
  readsExactly : ReadsExactly e

section Forms

attribute [local simp] Expr.spelled Expr.keepsShape Expr.exposesRecord

variable {e : Expr} {es : List Expr} {w : Option Expr} {x : Expr} {rest r ts us : List Tree}
  {n : Nat} {records : Bool}

theorem map_pair_eq_some_iff :
    (w.map fun e => (e, rest)) = some (x, r) ↔ w = some x ∧ r = rest := by
  cases w with
  | none => exact ⟨nofun, nofun⟩
  | some y =>
    simp only [Option.map_some, Option.some.injEq, Prod.mk.injEq]
    exact and_congr_right fun _ => eq_comm

theorem IsReadable.readsPart (h : IsReadable e) (hn : depth e.trees ≤ n) :
    ReadsPart (expr (insideAt n) true) Expr.trees Expr.spelled Expr.keepsShape e := by
  refine ⟨?_, fun rest r hrest => ?_⟩
  · obtain ⟨t, ts, heq, -⟩ := e.exists_trees h.hasPlainCode
    rw [heq]
    exact List.cons_ne_nil t ts
  · rw [h.readsExactly n true rest r hn hrest]
    simp

theorem items_iff (h : ∀ e ∈ es, IsReadable e)
    (hn : depth (.group .round (commaTrees (Expr.treesEach es)) :: us) ≤ n) :
    (insideAt n).items (commaTrees (Expr.treesEach es)) = some (Expr.spelledEach es) ↔
      Expr.keepShape es = true := by
  obtain ⟨m, rfl, hm⟩ := exists_level hn
  rw [Expr.treesEach_eq_map] at hm ⊢
  rw [Expr.spelledEach_eq_map, Expr.keepShape_eq_all]
  rw [depth_commaTrees_le_iff] at hm
  exact parts_iff fun e he => (h e he).readsPart (hm _ (List.mem_map_of_mem he))

/-- An expression with operators and struct literals in brackets only. -/
theorem readsExactly_of_takes (hexposes : e.exposesRecord = false)
    (h : ∀ n records, depth e.trees ≤ n →
      ∃ w, Takes (insideAt n) records (expr (insideAt n) records) e.trees w ∧
        (w = some e.spelled ↔ e.keepsShape = true)) : ReadsExactly e := by
  intro n records rest r hn hrest
  obtain ⟨w, hw, hiff⟩ := h n records hn
  rw [hw.ends hrest, map_pair_eq_some_iff, hiff, hexposes]
  simp

theorem readsExactly_raw {code : String} (h : IsPath code) : ReadsExactly (.raw code) := by
  refine readsExactly_of_takes rfl fun n records _ => ⟨some (.raw code), ?_, ?_⟩
  · rw [Expr.trees]
    exact takes_fragment h
  · simp [Expr.spelled, Expr.keepsShape]

theorem readsExactly_ident (name : String) : ReadsExactly (.ident name) := by
  refine readsExactly_of_takes rfl fun n records _ =>
    ⟨some (.raw (Identifier.variableName name)), ?_, ?_⟩
  · rw [Expr.trees]
    exact takes_name name
  · simp [Expr.spelled, Expr.keepsShape]

theorem readsExactly_str (value : String) : ReadsExactly (.str value) := by
  refine readsExactly_of_takes rfl fun n records _ => ⟨some (.str value), ?_, ?_⟩
  · rw [Expr.trees]
    exact takes_quoted value
  · simp [Expr.spelled, Expr.keepsShape]

theorem readsExactly_call {callee : String} (h : IsPath callee) (hes : ∀ e ∈ es, IsReadable e) :
    ReadsExactly (.call callee es) := by
  refine readsExactly_of_takes rfl fun n records hn =>
    ⟨((insideAt n).items (commaTrees (Expr.treesEach es))).map (.call callee), ?_, ?_⟩
  · rw [Expr.trees]
    exact takes_call h
  · rw [Expr.trees] at hn
    rw [Expr.keepsShape, Expr.spelled, ← items_iff hes (depth_le_right hn)]
    simp

/-- A text literal in front of other expressions. -/
theorem isReadable_str_cons (text : String) (hes : ∀ e ∈ es, IsReadable e) :
    ∀ e ∈ Expr.str text :: es, IsReadable e := by
  intro e he
  rcases List.mem_cons.mp he with rfl | he
  · exact ⟨by rw [Expr.HasPlainCode]; trivial, readsExactly_str text⟩
  · exact hes e he

theorem macroCall_format_eq_iff {template : String} {fs : List Expr} :
    macroCall "format" fs = .format template es ↔ fs = .str template :: es := by
  unfold macroCall
  split
  · simp
  · next hne =>
    constructor
    · nofun
    · rintro rfl
      exact (hne template es rfl rfl).elim

theorem readsExactly_format (template : String) (hes : ∀ e ∈ es, IsReadable e) :
    ReadsExactly (.format template es) := by
  have htrees : [.quoted template] :: Expr.treesEach es =
      Expr.treesEach (.str template :: es) := by rw [Expr.treesEach, Expr.trees]
  refine readsExactly_of_takes rfl fun n records hn =>
    ⟨((insideAt n).items (commaTrees (Expr.treesEach (.str template :: es)))).map
      (macroCall "format"), ?_, ?_⟩
  · rw [Expr.trees, htrees]
    exact takes_format
  · rw [Expr.trees, htrees] at hn
    have hitems := items_iff (isReadable_str_cons template hes)
      (depth_tail_le (depth_tail_le hn))
    rw [Expr.spelledEach, Expr.spelled, Expr.keepShape, Expr.keepsShape, Bool.true_and] at hitems
    rw [Expr.keepsShape, Expr.spelled, ← hitems]
    simp [macroCall_format_eq_iff]

/-! ### Operators -/

theorem readsExactly_negate (h : ReadsExactly e) : ReadsExactly (.negate e) := by
  intro n records rest r hn hrest
  rw [Expr.trees] at hn
  rw [Expr.trees, Expr.spelled, Expr.keepsShape, Expr.exposesRecord, List.cons_append,
    expr_negate, ← h n records rest r (depth_tail_le hn) hrest]
  simp [Option.map_eq_some_iff]

theorem readsExactly_borrow (h : ReadsExactly e) : ReadsExactly (.borrow e) := by
  intro n records rest r hn hrest
  rw [Expr.trees] at hn
  rw [Expr.trees, Expr.spelled, Expr.keepsShape, Expr.exposesRecord, List.cons_append,
    expr_borrow, ← h n records rest r (depth_tail_le hn) hrest]
  simp [Option.map_eq_some_iff]

theorem readsExactly_closure (params : List String) (h : IsReadable e) :
    ReadsExactly (.closure params none e) := by
  intro n records rest r hn hrest
  rw [Expr.trees] at hn
  rw [Expr.trees, Expr.spelled, Expr.keepsShape, Expr.exposesRecord, List.append_assoc,
    expr_closure params (trees_ne_minus h.hasPlainCode rest), Option.isNone_none, Bool.true_or,
    Bool.true_and, ← h.readsExactly n records rest r (depth_le_right hn) hrest]
  simp [Option.map_eq_some_iff]

theorem not_isOpen_of_isApplied (h : isApplied e = true) : e.isOpen = false := by
  cases e <;> first | rfl | cases h

theorem leadsOpen_of_isOpen (h : e.isOpen = true) : e.leadsOpen = true := by
  cases e <;> first | exact h | cases h

/-- An operator at the end is read back only if its operand does not lead open, and no more
than a name is read where a struct literal is not. -/
theorem applied_of_reads (hplain : e.HasPlainCode) (happlied : isApplied x = true)
    (hread : expr (insideAt n) records (e.trees ++ us) = some (x, r)) :
    e.leadsOpen = false ∧ (records = true ∨ e.exposesRecord = false) := by
  have hopen : e.leadsOpen = false := by
    by_contra hopen
    rw [Bool.not_eq_false] at hopen
    have hx := isOpen_of_leadsOpen e hplain hopen _ _ hread
    rw [not_isOpen_of_isApplied happlied] at hx
    cases hx
  refine ⟨hopen, ?_⟩
  by_contra hrecords
  rw [not_or, Bool.not_eq_true, Bool.not_eq_false] at hrecords
  obtain ⟨rfl, hexposes⟩ := hrecords
  obtain ⟨name, rest, hname⟩ : ∃ name rest,
      expr (insideAt n) false (e.trees ++ us) = some (.raw name, rest) :=
    exists_name_of_exposesRecord e hplain hexposes hopen us
  rw [hname] at hread
  cases hread
  cases happlied

/-- What is read of an operand that takes operators is its value exactly if it keeps its
shape. -/
theorem IsReadable.takes_iff (h : IsReadable e) (hn : depth e.trees ≤ n)
    (hrecords : records = true ∨ e.exposesRecord = false)
    (hw : Takes (insideAt n) records (expr (insideAt n) records) e.trees w) :
    w = some e.spelled ↔ e.keepsShape = true := by
  have hiff := h.readsExactly n records [] [] hn (by cases records <;> rfl)
  rw [hw.ends (by cases records <;> rfl), map_pair_eq_some_iff] at hiff
  simpa [hrecords] using hiff

theorem leadsOpen_iff_of_keepsShape (hkeeps : e.keepsShape = true) :
    e.leadsOpen = false ↔ e.isOpen = false := by
  constructor
  · intro hopen
    exact Bool.eq_false_iff.mpr fun h => Bool.eq_false_iff.mp hopen (leadsOpen_of_isOpen h)
  · intro hopen
    exact Bool.eq_false_iff.mpr fun h => Bool.eq_false_iff.mp hopen (e.isOpen_of_leadsOpen hkeeps h)

/-- **An expression with an operator at its end** is read back exactly if the operand is, does
not begin with an operator of its own and exposes no struct literal where none is read.  What
reading asks besides is left to `onward`. -/
theorem IsReadable.applied_iff {onward : Prop} (h : IsReadable e) (hn : depth e.trees ≤ n)
    (happlied : isApplied x = true)
    (hread : ∀ {w : Option Expr}, Takes (insideAt n) records (expr (insideAt n) records) e.trees w →
      (expr (insideAt n) records (e.trees ++ us) = some (x, r) ↔ w = some e.spelled ∧ onward)) :
    expr (insideAt n) records (e.trees ++ us) = some (x, r) ↔
      (e.isOpen = false ∧ e.keepsShape = true) ∧
        (records = true ∨ e.exposesRecord = false) ∧ onward := by
  constructor
  · intro hsome
    obtain ⟨hopen, hrecords⟩ := applied_of_reads h.hasPlainCode happlied hsome
    obtain ⟨w, hw, -⟩ := exists_takes (insideAt n) records e h.hasPlainCode hopen hrecords
    obtain ⟨hvalue, honward⟩ := (hread hw).mp hsome
    have hshape := (h.takes_iff hn hrecords hw).mp hvalue
    exact ⟨⟨(leadsOpen_iff_of_keepsShape hshape).mp hopen, hshape⟩, hrecords, honward⟩
  · rintro ⟨⟨hopen, hshape⟩, hrecords, honward⟩
    have hopen := (leadsOpen_iff_of_keepsShape hshape).mpr hopen
    obtain ⟨w, hw, -⟩ := exists_takes (insideAt n) records e h.hasPlainCode hopen hrecords
    exact (hread hw).mpr ⟨(h.takes_iff hn hrecords hw).mpr hshape, honward⟩

/-- The operators without arguments, `make` with `suffix` for its trees. -/
theorem readsExactly_applied {make : Expr → Expr} {suffix : List Tree} (h : IsReadable e)
    (hmake : ∀ x y, make x = make y → x = y) (happlied : ∀ x, isApplied (make x) = true)
    (htakes : ∀ {inside : Inside} {records : Bool} {ts : List Tree} {w : Option Expr},
      Takes inside records (expr inside records) ts w →
        Takes inside records (expr inside records) (ts ++ suffix) (w.map make))
    (htrees : (make e).trees = e.trees ++ suffix) (hspelled : (make e).spelled = make e.spelled)
    (hkeeps : (make e).keepsShape = (!e.isOpen && e.keepsShape))
    (hexposes : (make e).exposesRecord = e.exposesRecord) : ReadsExactly (make e) := by
  intro n records rest r hn hrest
  rw [htrees] at hn ⊢
  rw [hspelled, hkeeps, hexposes, Bool.and_eq_true, Bool.not_eq_true', List.append_assoc]
  refine h.applied_iff (depth_le_left hn) (happlied _) fun hw => ?_
  rw [← List.append_assoc, (htakes hw).ends hrest, map_pair_eq_some_iff, Option.map_eq_some_iff]
  refine and_congr_left fun _ => ⟨?_, fun hvalue => ⟨_, hvalue, rfl⟩⟩
  rintro ⟨x, rfl, heq⟩
  rw [hmake _ _ heq]

theorem readsExactly_await (h : IsReadable e) : ReadsExactly (.await e) :=
  readsExactly_applied h (fun _ _ heq => Expr.await.inj heq) (fun _ => rfl) Takes.await
    (by rw [Expr.trees]) (by rw [Expr.spelled]) (by rw [Expr.keepsShape])
    (by rw [Expr.exposesRecord])

theorem readsExactly_attempt (h : IsReadable e) : ReadsExactly (.attempt e) :=
  readsExactly_applied h (fun _ _ heq => Expr.attempt.inj heq) (fun _ => rfl) Takes.attempt
    (by rw [Expr.trees]) (by rw [Expr.spelled]) (by rw [Expr.keepsShape])
    (by rw [Expr.exposesRecord])

theorem single_eq_iff (h : isTuple x = false) : single es = x ↔ es = [x] := by
  unfold single
  split
  · next e => simp
  · next es hne =>
    constructor
    · rintro rfl
      cases h
    · exact fun heq => absurd heq (hne x)

/-- Items are a tuple, or the only one of them is. -/
theorem single_eq_tuple_iff {fs : List Expr} :
    single es = .tuple fs ↔ es = [.tuple fs] ∨ es = fs ∧ es.length ≠ 1 := by
  match es with
  | [] | [e] | e :: f :: es => simp [single]

theorem not_isTuple_of_leadsOpen (h : e.leadsOpen = true) : isTuple e = false := by
  cases e <;> first | rfl | cases h

theorem isTuple_spelled (e : Expr) : isTuple e.spelled = isTuple e := by
  cases e <;> simp only [Expr.spelled, isTuple]

/-- Parentheses hold one expression, if no comma can follow what is read of it. -/
theorem parts_of_takes {inside : Inside} (hw : Takes inside true (expr inside true) ts w)
    (hne : ts ≠ []) : parts (expr inside true) ts = w.map fun e => [e] := by
  obtain ⟨t, ts, rfl⟩ := List.exists_cons_of_ne_nil hne
  have hread : expr inside true (t :: ts ++ []) = _ := hw.ends rfl
  rw [List.append_nil] at hread
  rw [parts, List.isEmpty_cons, if_neg Bool.false_ne_true, List.length_cons, series, hread]
  cases w <;> rfl

/-- What stands in parentheses is read back exactly if it keeps its shape. -/
theorem single_items_iff (h : IsReadable e) (hn : depth (.group .round e.trees :: us) ≤ n) :
    ((insideAt n).items e.trees).map single = some e.spelled ↔ e.keepsShape = true := by
  -- An expression that leads open is read as the only one of a list; of any other one the
  -- reading is known, whatever stands behind it.
  by_cases hopen : e.leadsOpen = true
  · have htrees : commaTrees (Expr.treesEach [e]) = e.trees := by
      rw [Expr.treesEach, Expr.treesEach, commaTrees, List.intercalate_singleton]
    have hes : ∀ f ∈ [e], IsReadable f := fun f hf => List.mem_singleton.mp hf ▸ h
    rw [← htrees] at hn
    have hitems := items_iff hes hn
    have htuple : isTuple e.spelled = false := by
      rw [isTuple_spelled, not_isTuple_of_leadsOpen hopen]
    rw [htrees, Expr.spelledEach, Expr.spelledEach, Expr.keepShape, Expr.keepShape,
      Bool.and_true] at hitems
    rw [← hitems, Option.map_eq_some_iff]
    simp only [single_eq_iff htuple, exists_eq_right]
  · rw [Bool.not_eq_true] at hopen
    obtain ⟨m, rfl, hm⟩ := exists_level hn
    obtain ⟨w, hw, -⟩ := exists_takes (insideAt m) true e h.hasPlainCode hopen (.inl rfl)
    obtain ⟨t, ts, htrees, -⟩ := e.exists_trees h.hasPlainCode
    show (parts (expr (insideAt m) true) e.trees).map single = some e.spelled ↔ _
    rw [parts_of_takes hw (by rw [htrees]; exact List.cons_ne_nil t ts), Option.map_map,
      ← h.takes_iff hm (.inl rfl) hw]
    cases w <;> rfl

theorem readsExactly_method (h : IsReadable e) (name : String) (hes : ∀ e ∈ es, IsReadable e) :
    ReadsExactly (.method e name es) := by
  intro n records rest r hn hrest
  rw [Expr.trees] at hn ⊢
  rw [Expr.spelled, Expr.keepsShape, Expr.exposesRecord, Bool.and_eq_true, List.append_assoc]
  have hitems := items_iff hes (depth_tail_le (depth_tail_le (depth_le_right hn)))
  -- What is read of the receiver, with or without parentheses, decides.
  have hmethod : ∀ {ts : List Tree} {w : Option Expr},
      Takes (insideAt n) records (expr (insideAt n) records) ts w →
      (expr (insideAt n) records (ts ++ ([.mark '.', .word (Identifier.functionName name),
          .group .round (commaTrees (Expr.treesEach es))] ++ rest)) =
        some (.method e.spelled (Identifier.functionName name) (Expr.spelledEach es), r) ↔
        w = some e.spelled ∧ Expr.keepShape es = true ∧ r = rest) := by
    intro ts w hw
    rw [← List.append_assoc, (hw.method _).ends hrest, map_pair_eq_some_iff, ← hitems, ← and_assoc]
    refine and_congr_left fun _ => ?_
    simp only [Option.bind_eq_some_iff, Option.map_eq_some_iff, Expr.method.injEq]
    constructor
    · rintro ⟨x, rfl, fs, hfs, rfl, -, rfl⟩
      exact ⟨rfl, hfs⟩
    · rintro ⟨rfl, hfs⟩
      exact ⟨_, rfl, _, hfs, rfl, trivial, rfl⟩
  by_cases hneeds : e.needsParens = true
  · rw [if_pos hneeds] at hn ⊢
    rw [hmethod takes_parens, single_items_iff h (depth_le_left hn), hneeds]
    simp [and_assoc]
  · have hopen : e.isOpen = false := Bool.eq_false_iff.mpr fun hopen =>
      hneeds (Expr.needsParens_of_isOpen hopen)
    rw [if_neg hneeds] at hn ⊢
    rw [h.applied_iff (depth_le_left hn) rfl hmethod]
    simp [hneeds, hopen, and_left_comm, and_assoc]

/-! ### Blocks and struct literals -/

/-- The statements of a block are read back exactly if they keep their shape. -/
def BodyReads (body : List Stmt) : Prop :=
  ∀ n us, depth (.group .curly (Stmt.treesAll body) :: us) ≤ n →
    ((insideAt n).body (Stmt.treesAll body) = some (Stmt.spelledAll body) ↔
      Stmt.keepShape body = true)

theorem readsExactly_block (isAsync : Bool) {body : List Stmt} (h : BodyReads body) :
    ReadsExactly (.block isAsync body) := by
  refine readsExactly_of_takes rfl fun n records hn =>
    ⟨((insideAt n).body (Stmt.treesAll body)).map (.block isAsync), ?_, ?_⟩
  · rw [Expr.trees]
    exact takes_block isAsync
  · rw [Expr.trees] at hn
    rw [Expr.keepsShape, Expr.spelled, ← h n [] (depth_le_right hn)]
    simp

/-- A closure that states its result is read back only if a block is all that it computes. -/
theorem readsExactly_closure_result {type : String} (params : List String) (htype : IsPath type)
    (h : IsReadable e) : ReadsExactly (.closure params (some type) e) := by
  refine readsExactly_of_takes rfl fun n records hn => ?_
  rw [Expr.trees] at hn ⊢
  rw [Expr.spelled, Expr.keepsShape, Option.isNone_some, Bool.false_or, Bool.and_eq_true]
  by_cases hblock : e.isBlock = true
  · obtain ⟨body, rfl⟩ := eq_block_of_isBlock hblock
    have htakes : Takes (insideAt n) records (expr (insideAt n) records)
        (Expr.block false body).trees (((insideAt n).body (Stmt.treesAll body)).map
          (.block false)) := by
      rw [Expr.trees]
      exact takes_block false
    refine ⟨_, takes_closure htype h.hasPlainCode (by rw [Expr.trees]; exact takes_behindBlock), ?_⟩
    rw [← h.takes_iff (depth_le_right hn) (.inr rfl) htakes, Expr.spelled]
    simp [Expr.isBlock]
  · obtain ⟨w, hw, happlied⟩ := exists_takes_behindBlock _ e h.hasPlainCode
    refine ⟨w, takes_closure htype h.hasPlainCode hw, fun hread => ?_, fun hkeeps => ?_⟩
    · cases happlied (Bool.eq_false_iff.mpr hblock) _ hread
    · exact absurd hkeeps.1 hblock

theorem field_iff (name : String) (h : IsReadable e) (hn : depth e.trees ≤ n)
    (hrest : ends true rest = true) :
    field (insideAt n) (fieldTrees name e e.trees ++ rest) = some ((name, e.spelled), r) ↔
      e.keepsShape = true ∧ r = rest := by
  have hread := h.readsExactly n true rest r hn hrest
  unfold fieldTrees
  split
  · next hnamed =>
    have hname : e.spelled = .raw name ∧ e.keepsShape = true := by
      cases e with
      | raw code => rw [Expr.spelled, eq_of_beq hnamed, Expr.keepsShape]; exact ⟨rfl, rfl⟩
      | ident other => rw [Expr.spelled, eq_of_beq hnamed, Expr.keepsShape]; exact ⟨rfl, rfl⟩
      | _ => cases hnamed
    -- Without a colon behind it the name stands for its value.
    have hfield : field (insideAt n) (.word name :: rest) = some ((name, .raw name), rest) := by
      unfold field
      split
      · next heq =>
        cases heq
        cases hrest
      · next heq =>
        cases heq
        rfl
      · next hne => exact absurd rfl (hne name rest)
    rw [List.singleton_append, hfield, hname.1, hname.2]
    simp [eq_comm]
  · rw [List.cons_append, List.cons_append, field]
    simp only [true_or, true_and] at hread
    rw [← hread]
    simp [Option.map_eq_some_iff]

theorem treesOfFields_eq_map (fields : List (String × Expr)) :
    Expr.treesOfFields fields =
      fields.map fun f => fieldTrees (Identifier.variableName f.1) f.2 f.2.trees := by
  induction fields with
  | nil => rw [Expr.treesOfFields, List.map_nil]
  | cons f fields ih => rw [Expr.treesOfFields, ih, List.map_cons]

theorem spelledFields_eq_map (fields : List (String × Expr)) :
    Expr.spelledFields fields =
      fields.map fun f => (Identifier.variableName f.1, f.2.spelled) := by
  induction fields with
  | nil => rw [Expr.spelledFields, List.map_nil]
  | cons f fields ih => rw [Expr.spelledFields, ih, List.map_cons]

theorem fieldsKeepShape_eq_all (fields : List (String × Expr)) :
    Expr.fieldsKeepShape fields = fields.all fun f => f.2.keepsShape := by
  induction fields with
  | nil => rw [Expr.fieldsKeepShape, List.all_nil]
  | cons f fields ih => rw [Expr.fieldsKeepShape, ih, List.all_cons]

theorem fieldTrees_ne_nil (name : String) (e : Expr) (ts : List Tree) :
    fieldTrees name e ts ≠ [] := by
  unfold fieldTrees
  split <;> exact List.cons_ne_nil _ _

/-- A name that is written once has no brackets. -/
theorem depth_le_fieldTrees (name : String) (h : e.HasPlainCode) :
    depth e.trees ≤ depth (fieldTrees name e e.trees) := by
  unfold fieldTrees
  split
  · next hnamed =>
    have hzero : depth e.trees = 0 := by
      cases e with
      | raw code =>
        rw [Expr.HasPlainCode] at h
        obtain ⟨first, more, hform⟩ := h.exists_form
        rw [Expr.trees, hform.spells.fragmentTrees_eq, depth_cons, hform.depth_eq]
        rfl
      | ident other => rw [Expr.trees]; rfl
      | _ => cases hnamed
    omega
  · rw [depth_cons, depth_cons]
    omega

theorem fields_iff {fields : List (String × Expr)} (h : ∀ f ∈ fields, IsReadable f.2)
    (hn : depth (.group .curly (commaTrees (Expr.treesOfFields fields)) :: us) ≤ n) :
    (insideAt n).fields (commaTrees (Expr.treesOfFields fields)) =
        some (Expr.spelledFields fields) ↔
      Expr.fieldsKeepShape fields = true := by
  obtain ⟨m, rfl, hm⟩ := exists_level hn
  rw [treesOfFields_eq_map] at hm ⊢
  rw [spelledFields_eq_map, fieldsKeepShape_eq_all]
  rw [depth_commaTrees_le_iff] at hm
  refine parts_iff fun f hf => ⟨fieldTrees_ne_nil _ _ _, fun rest r hrest => ?_⟩
  have hdepth := hm _ (List.mem_map_of_mem hf)
  exact field_iff _ (h f hf)
    (Nat.le_trans (depth_le_fieldTrees _ (h f hf).hasPlainCode) hdepth) hrest

theorem readsExactly_record {name : String} {fields : List (String × Expr)} (hname : IsPath name)
    (h : ∀ f ∈ fields, IsReadable f.2) : ReadsExactly (.record name fields) := by
  intro n records rest r hn hrest
  rw [Expr.trees] at hn ⊢
  rw [Expr.spelled, Expr.keepsShape, Expr.exposesRecord]
  cases records with
  | true =>
    rw [(takes_record hname).ends hrest, map_pair_eq_some_iff,
      ← fields_iff h (depth_le_right hn)]
    simp
  | false =>
    rw [List.append_assoc, List.singleton_append, expr_name hname]
    simp

/-! ### Parentheses -/

theorem readsExactly_invoke (h : IsReadable e) : ReadsExactly (.invoke e) := by
  refine readsExactly_of_takes rfl fun n records hn =>
    ⟨((insideAt n).items e.trees).map fun es => .invoke (single es), ?_, ?_⟩
  · rw [Expr.trees]
    exact takes_invoke
  · rw [Expr.trees] at hn
    rw [Expr.spelled, Expr.keepsShape, ← single_items_iff h hn]
    simp

/-! ### Tuples -/

theorem parts_eq_singleton {inside : Inside} (h : parts (expr inside true) ts = some [x]) :
    ∃ r, expr inside true ts = some (x, r) ∧ r = [] := by
  cases ts with
  | nil => cases h
  | cons t ts =>
    rw [parts, List.isEmpty_cons, if_neg Bool.false_ne_true, List.length_cons,
      series_succ_iff] at h
    obtain ⟨r, hr, ⟨rfl, -⟩ | ⟨rest, -, hrest⟩⟩ := h
    · exact ⟨[], hr, rfl⟩
    · exact absurd hrest (series_ne_nil _ _)

/-- What stands between commas is read as a single expression only if that one begins with an
operator. -/
theorem isOpen_of_parts {inside : Inside} (hplain : ∀ e ∈ es, e.HasPlainCode)
    (hlength : es.length ≠ 1)
    (h : parts (expr inside true) (commaTrees (Expr.treesEach es)) = some [x]) :
    x.isOpen = true := by
  obtain ⟨r, hread, rfl⟩ := parts_eq_singleton h
  match es with
  | [] => cases h
  | [e] => exact absurd rfl hlength
  | e :: f :: es =>
    have he := hplain e List.mem_cons_self
    rw [Expr.treesEach, Expr.treesEach, commaTrees_cons_cons] at hread
    by_cases hopen : e.leadsOpen = true
    · exact isOpen_of_leadsOpen e he hopen _ _ hread
    · obtain ⟨w, hw, -⟩ := exists_takes inside true e he (Bool.eq_false_iff.mpr hopen) (.inl rfl)
      rw [hw.ends rfl, map_pair_eq_some_iff] at hread
      cases hread.2

/-- A tuple that is all there is between commas was read of the only expression there. -/
theorem exists_item_of_parts {inside : Inside} (hplain : ∀ e ∈ es, e.HasPlainCode)
    (h : parts (expr inside true) (commaTrees (Expr.treesEach es)) = some [x])
    (htuple : isTuple x = true) : ∃ e, es = [e] ∧ expr inside true e.trees = some (x, []) := by
  have hone : es.length = 1 := by
    by_contra hlength
    have hx := not_isTuple_of_isOpen (isOpen_of_parts hplain hlength h)
    rw [htuple] at hx
    cases hx
  obtain ⟨e, rfl⟩ := List.length_eq_one_iff.mp hone
  rw [Expr.treesEach, Expr.treesEach, commaTrees, List.intercalate_singleton] at h
  obtain ⟨r, hread, rfl⟩ := parts_eq_singleton h
  exact ⟨e, rfl, hread⟩

/-- A tuple with a single item. -/
def boxed (e : Expr) : Expr := .tuple [e]

theorem iterate_boxed_eq (k : Nat) (e : Expr) : boxed^[k + 1] e = .tuple [boxed^[k] e] := by
  rw [Function.iterate_succ_apply']
  rfl

theorem havePlainCode_iff : Expr.HavePlainCode es ↔ ∀ e ∈ es, e.HasPlainCode := by
  induction es with
  | nil => simp [Expr.HavePlainCode]
  | cons e es ih => rw [Expr.HavePlainCode, ih, List.forall_mem_cons]

/-- No expression is read as a tuple of itself: parentheses do not become more. -/
theorem not_reads_boxed (n : Nat) {e : Expr} (h : e.HasPlainCode) (k : Nat) :
    expr (insideAt n) true e.trees ≠ some (boxed^[k + 1] e.spelled, []) := by
  induction n using Nat.strong_induction_on generalizing e k with
  | _ n ih =>
    intro hread
    have htuple : isTuple (boxed^[k + 1] e.spelled) = true := by rw [iterate_boxed_eq]; rfl
    rw [← List.append_nil e.trees] at hread
    have hopen : e.leadsOpen = false := Bool.eq_false_iff.mpr fun hopen => by
      have hx := not_isTuple_of_isOpen (isOpen_of_leadsOpen e h hopen _ _ hread)
      rw [htuple] at hx
      cases hx
    cases e with
    | tuple items =>
      rw [Expr.HasPlainCode, havePlainCode_iff] at h
      rw [Expr.trees, takes_parens.ends rfl, map_pair_eq_some_iff, Option.map_eq_some_iff] at hread
      obtain ⟨⟨es, hes, hsingle⟩, -⟩ := hread
      obtain ⟨m, rfl⟩ : ∃ m, n = m + 1 := by
        cases n with
        | zero => cases hes
        | succ m => exact ⟨m, rfl⟩
      rw [iterate_boxed_eq] at hsingle htuple
      rcases single_eq_tuple_iff.mp hsingle with rfl | ⟨rfl, hlength⟩
      · -- The only item would be read as itself boxed once more.
        obtain ⟨item, rfl, hitem⟩ := exists_item_of_parts h hes htuple
        rw [Expr.spelled, Expr.spelledEach, Expr.spelledEach, ← iterate_boxed_eq] at hitem
        exact ih m (Nat.lt_succ_self m) (h item List.mem_cons_self) (k + 1) hitem
      · exact hlength rfl
    | _ =>
      obtain ⟨w, hw, hnot⟩ := exists_takes (insideAt n) true _ h hopen (.inl rfl)
      rw [hw.ends rfl, map_pair_eq_some_iff] at hread
      have hx := hnot rfl _ hread.1
      rw [htuple] at hx
      cases hx

theorem readsExactly_tuple (h : ∀ e ∈ es, IsReadable e) : ReadsExactly (.tuple es) := by
  refine readsExactly_of_takes rfl fun n records hn =>
    ⟨((insideAt n).items (commaTrees (Expr.treesEach es))).map single, ?_, ?_⟩
  · rw [Expr.trees]
    exact takes_parens
  rw [Expr.trees] at hn
  obtain ⟨m, rfl, -⟩ := exists_level hn
  have hplain := fun e he => (h e he).hasPlainCode
  have hlength : (Expr.spelledEach es).length = es.length := by
    rw [Expr.spelledEach_eq_map, List.length_map]
  rw [Expr.spelled, Expr.keepsShape, Bool.and_eq_true, bne_iff_ne, ← items_iff h hn,
    Option.map_eq_some_iff]
  constructor
  · rintro ⟨fs, hfs, hsingle⟩
    rcases single_eq_tuple_iff.mp hsingle with rfl | ⟨rfl, hne⟩
    · obtain ⟨e, rfl, hread⟩ := exists_item_of_parts hplain hfs rfl
      exact absurd hread (not_reads_boxed m (hplain e List.mem_cons_self) 0)
    · exact ⟨hlength ▸ hne, hfs⟩
  · rintro ⟨hne, hitems⟩
    exact ⟨_, hitems, single_eq_tuple_iff.mpr (.inr ⟨rfl, hlength.symm ▸ hne⟩)⟩

end Forms

end Reader
end Code
end ClientSynth
