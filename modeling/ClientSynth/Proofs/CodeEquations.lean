import ClientSynth.Proofs.CodeTree

/-! # How the trees of code are read

One equation for each form of an expression: what its first trees are read as, with what
stands between brackets and what follows left open. -/
namespace ClientSynth
namespace Code
namespace Reader

section Equations

-- The equations of the reader, which most lemmas below rewrite with, are generated here once.
attribute [local simp] operators atom expr

variable {inside : Inside} {records : Bool} {e : Expr} {rest ts : List Tree}

/-! ### What follows -/

/-- What may stand behind a name that stands alone: nothing that makes it the name of a call,
a path, a macro or, where one is read, a struct literal. -/
def follows (records : Bool) : List Tree → Bool
  | .group .round _ :: _ => false
  | .group .curly _ :: _ => !records
  | .mark c :: _ => c != ':' && c != '!'
  | _ => true

/-- Whether an operator comes next. -/
def startsOperator : List Tree → Bool
  | .mark c :: _ => c == '.' || c == '?'
  | _ => false

/-- What may stand behind a whole expression. -/
def ends (records : Bool) (ts : List Tree) : Bool := follows records ts && !startsOperator ts

theorem follows_of_ends (h : ends records rest = true) : follows records rest = true :=
  (Bool.and_eq_true _ _ ▸ h).1

theorem operators_of_ends (h : ends records rest = true) (e : Expr) :
    operators inside e rest = some (e, rest) := by
  unfold operators
  split
  · cases records <;> cases h
  · cases records <;> cases h
  · cases records <;> cases h
  · rfl

theorem operators_attempt :
    operators inside e (.mark '?' :: rest) = operators inside (.attempt e) rest := by
  rw [operators]

theorem operators_await (h : follows records rest = true) :
    operators inside e (.mark '.' :: .word "await" :: rest) =
      operators inside (.await e) rest := by
  conv => lhs; unfold operators
  split
  · next heq => cases heq
  · next heq =>
    cases heq
    cases records <;> cases h
  · next heq =>
    cases heq
    exact if_pos rfl
  · next hnone => exact absurd rfl (hnone "await" rest)

theorem operators_method (w : String) :
    operators inside e (.mark '.' :: .word w :: .group .round ts :: rest) =
      (inside.items ts).bind fun es => operators inside (.method e w es) rest := by
  rw [operators]

/-! ### Names and paths -/

/-- Whether a colon comes next. -/
def startsColon : List Tree → Bool
  | .mark c :: _ => c == ':'
  | _ => false

theorem pathFrom_of_not_colon (h : startsColon rest = false) (head : String) :
    pathFrom head rest = (head, rest) := by
  unfold pathFrom
  split
  · cases h
  · rfl

theorem path_fragment {code : String} (hcode : IsPath code) (h : startsColon rest = false) :
    path (fragmentTrees code ++ rest) = some (code, rest) := by
  obtain ⟨first, more, hform⟩ := hcode.exists_form
  rw [hform.spells.fragmentTrees_eq, List.cons_append, path, hform.not_keyword,
    if_neg Bool.false_ne_true, hform.read, pathFrom_of_not_colon h]

theorem params_commaTrees (ps : List String) (h : ts = .mark '|' :: rest) :
    params (commaTrees (ps.map fun p => [.word (Identifier.variableName p)]) ++ ts) =
      some (ps.map Identifier.variableName, rest) := by
  subst h
  induction ps with
  | nil => rfl
  | cons p ps ih =>
    cases ps with
    | nil => rfl
    | cons q ps =>
      rw [List.map_cons, List.map_cons, commaTrees_cons_cons]
      rw [List.map_cons] at ih
      rw [List.singleton_append, List.cons_append, List.cons_append, params, ih]
      rfl

/-! ### Forms of expressions -/

theorem expr_borrow : expr inside records (.mark '&' :: rest) =
    (expr inside records rest).map fun r => (.borrow r.1, r.2) := by
  rw [expr]

theorem expr_negate : expr inside records (.mark '!' :: rest) =
    (expr inside records rest).map fun r => (.negate r.1, r.2) := by
  rw [expr]

theorem expr_closure (ps : List String) (h : ∀ more, rest ≠ .mark '-' :: more) :
    expr inside records (closureTrees ps none ++ rest) =
      (expr inside records rest).map fun r =>
        (.closure (ps.map Identifier.variableName) none r.1, r.2) := by
  have hparams := params_commaTrees ps (rfl : .mark '|' :: rest = _)
  simp only [closureTrees, List.cons_append, List.append_assoc, List.nil_append]
  rw [expr]
  split
  · next hnone => rw [hparams] at hnone; cases hnone
  · next hsome => rw [hparams] at hsome; cases hsome; exact absurd rfl (h _)
  · next hsome => rw [hparams] at hsome; cases hsome; rfl

theorem expr_closure_result (ps : List String) {type : String} (htype : IsPath type)
    (h : startsColon rest = false) :
    expr inside records (closureTrees ps (some type) ++ rest) =
      (block inside rest).bind fun body => operators inside
        (.closure (ps.map Identifier.variableName) (some type) (.block false body.1)) body.2 := by
  have hparams := params_commaTrees ps
    (rfl : .mark '|' :: .mark '-' :: .mark '>' :: (fragmentTrees type ++ rest) = _)
  simp only [closureTrees, List.cons_append, List.append_assoc]
  rw [expr]
  split
  · next hnone => rw [hparams] at hnone; cases hnone
  · next hsome =>
    rw [hparams] at hsome
    cases hsome
    rw [path_fragment htype h, Option.bind_some]
  · next hne hsome =>
    rw [hparams] at hsome
    cases hsome
    exact absurd rfl (hne _)

/-- Whether a mark comes next. -/
def startsMark : List Tree → Bool
  | .mark _ :: _ => true
  | _ => false

/-- Without an operator in front, the operators behind are all that an expression has. -/
theorem expr_atom (h : startsMark ts = false) : expr inside records ts =
    (atom inside records ts).bind fun r => operators inside r.1 r.2 := by
  rw [expr]
  all_goals
    rintro more rfl
    cases h

theorem expr_quoted (value : String) : expr inside records (.quoted value :: rest) =
    operators inside (.str value) rest := by
  rw [expr_atom rfl]
  rfl

theorem expr_block : expr inside records (.group .curly ts :: rest) =
    (inside.body ts).bind fun body => operators inside (.block false body) rest := by
  rw [expr_atom rfl, atom]
  cases inside.body ts <;> rfl

theorem expr_round : expr inside records (.group .round ts :: rest) =
    (inside.items ts).bind fun es => operators inside (grouped es rest).1 (grouped es rest).2 := by
  rw [expr_atom rfl, atom]
  cases inside.items ts <;> rfl

theorem grouped_of_follows (es : List Expr) (h : follows records rest = true) :
    grouped es rest = (single es, rest) := by
  unfold grouped
  split
  · cases h
  · rfl

/-- Parentheses around what no others follow. -/
theorem expr_parens (h : follows records rest = true) :
    expr inside records (.group .round ts :: rest) =
      ((inside.items ts).map single).bind fun e => operators inside e rest := by
  rw [expr_round]
  cases inside.items ts with
  | none => rfl
  | some es => rw [Option.bind_some, grouped_of_follows es h]; rfl

theorem expr_invoke : expr inside records (.group .round ts :: .group .round [] :: rest) =
    ((inside.items ts).map fun es => .invoke (single es)).bind
      fun e => operators inside e rest := by
  rw [expr_round]
  cases inside.items ts <;> rfl

theorem expr_async : expr inside records (.word "async" :: .group .curly ts :: rest) =
    (inside.body ts).bind fun body => operators inside (.block true body) rest := by
  rw [expr_atom rfl, atom, if_pos rfl, block]
  cases inside.body ts <;> rfl

theorem expr_fragment {code : String} (hcode : IsPath code) (h : startsColon rest = false) :
    expr inside records (fragmentTrees code ++ rest) =
      (named inside records code rest).bind fun r => operators inside r.1 r.2 := by
  have hpath := path_fragment hcode h
  obtain ⟨first, more, hform⟩ := hcode.exists_form
  have hasync : first ≠ "async" := by
    rintro rfl
    exact absurd hform.not_keyword (by decide)
  rw [hform.spells.fragmentTrees_eq, List.cons_append] at hpath ⊢
  rw [expr_atom rfl, atom, if_neg hasync, hpath, Option.bind_some]

theorem expr_raw {code : String} (hcode : IsPath code) (h : follows records rest = true) :
    expr inside records (fragmentTrees code ++ rest) = operators inside (.raw code) rest := by
  have hcolon : startsColon rest = false := by
    unfold startsColon
    split
    · simp only [follows, Bool.and_eq_true, bne_iff_ne] at h
      exact beq_false_of_ne h.1
    · rfl
  rw [expr_fragment hcode hcolon]
  unfold named
  split
  · cases h
  · simp [follows] at h
  · cases records with
    | true => cases h
    | false => rfl
  · rfl

theorem expr_call {code : String} (hcode : IsPath code) :
    expr inside records (fragmentTrees code ++ .group .round ts :: rest) =
      (inside.items ts).bind fun es => operators inside (.call code es) rest := by
  rw [expr_fragment hcode rfl, named]
  cases inside.items ts <;> rfl

theorem expr_record {code : String} (hcode : IsPath code) :
    expr inside true (fragmentTrees code ++ .group .curly ts :: rest) =
      (inside.fields ts).bind fun fields => operators inside (.record code fields) rest := by
  rw [expr_fragment hcode rfl, named, if_pos rfl]
  cases inside.fields ts <;> rfl

/-- Where no struct literal is read, its name is all that is. -/
theorem expr_name {code : String} (hcode : IsPath code) :
    expr inside false (fragmentTrees code ++ .group .curly ts :: rest) =
      some (.raw code, .group .curly ts :: rest) := by
  have hends : ends false (.group .curly ts :: rest) = true := rfl
  rw [expr_raw hcode rfl]
  exact operators_of_ends hends _

theorem expr_macro {code : String} (hcode : IsPath code) :
    expr inside records (fragmentTrees code ++ .mark '!' :: .group .round ts :: rest) =
      (inside.items ts).bind fun es => operators inside (macroCall code es) rest := by
  rw [expr_fragment hcode rfl, named]
  cases inside.items ts <;> rfl

end Equations

end Reader
end Code
end ClientSynth
