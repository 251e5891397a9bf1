import Mathlib.Data.Option.Basic
import ClientSynth.Proofs.CodeShape

/-! # Operators behind an expression

An operator behind the trees of an expression applies to what is read of them, unless the
expression leads open (`exists_takes`).  If it does, the operator is read as part of the
operand, and the result begins as the expression does (`isOpen_of_leadsOpen`). -/
namespace ClientSynth
namespace Code

/-! ### How expressions begin -/

/-- Whether an expression may begin with the tree. -/
def Tree.startsExpr : Tree → Bool
  | .word w => w == "async" || !Identifier.keywords.contains w
  | .mark c => c == '&' || c == '!' || c == '|'
  | .comment _ => false
  | .quoted _ => true
  | .group _ _ => true

theorem IsPath.exists_trees {code : String} (h : IsPath code) :
    ∃ first more, fragmentTrees code = .word first :: more ∧
      (Tree.word first).startsExpr = true := by
  obtain ⟨first, more, hform⟩ := h.exists_form
  refine ⟨first, more, hform.spells.fragmentTrees_eq, ?_⟩
  rw [Tree.startsExpr, hform.not_keyword, Bool.not_false, Bool.or_true]

theorem Expr.exists_trees : (e : Expr) → e.HasPlainCode →
    ∃ t ts, e.trees = t :: ts ∧ t.startsExpr = true
  | .raw code, h => by
    rw [Expr.HasPlainCode] at h
    obtain ⟨first, more, heq, hstarts⟩ := h.exists_trees
    exact ⟨_, more, by rw [Expr.trees, heq], hstarts⟩
  | .ident name, _ => by
    have hword := not_keyword_of_isSegment (Identifier.isSegment_variableName name)
    exact ⟨_, [], by rw [Expr.trees], by rw [Tree.startsExpr, hword, Bool.not_false, Bool.or_true]⟩
  | .call callee _, h => by
    rw [Expr.HasPlainCode] at h
    obtain ⟨first, more, heq, hstarts⟩ := h.1.exists_trees
    exact ⟨_, _, by rw [Expr.trees, heq, List.cons_append], hstarts⟩
  | .record name _, h => by
    rw [Expr.HasPlainCode] at h
    obtain ⟨first, more, heq, hstarts⟩ := h.1.exists_trees
    exact ⟨_, _, by rw [Expr.trees, heq, List.cons_append], hstarts⟩
  | .method receiver _ _, h => by
    rw [Expr.HasPlainCode] at h
    by_cases hneeds : receiver.needsParens = true
    · exact ⟨_, _, by rw [Expr.trees, if_pos hneeds, List.singleton_append], rfl⟩
    · obtain ⟨t, ts, heq, hstarts⟩ := exists_trees receiver h.1
      exact ⟨t, _, by rw [Expr.trees, if_neg hneeds, heq, List.cons_append], hstarts⟩
  | .await operand, h | .attempt operand, h => by
    rw [Expr.HasPlainCode] at h
    obtain ⟨t, ts, heq, hstarts⟩ := exists_trees operand h
    exact ⟨t, _, by rw [Expr.trees, heq, List.cons_append], hstarts⟩
  | .block isAsync _, _ => by
    cases isAsync
    · exact ⟨_, _, by rw [Expr.trees]; rfl, rfl⟩
    · exact ⟨_, _, by rw [Expr.trees]; rfl, rfl⟩
  | .closure _ _ _, _ => ⟨_, _, by rw [Expr.trees]; rfl, rfl⟩
  | .str _, _ | .format _ _, _ | .negate _, _ | .borrow _, _ | .tuple _, _ | .invoke _, _ =>
    ⟨_, _, by rw [Expr.trees], rfl⟩

namespace Reader

section Seam
variable {inside : Inside} {records : Bool} {read : List Tree → Reading Expr}
  {ts us more : List Tree} {w : Option Expr} {x : Expr} {e : Expr}

theorem startsColon_trees (h : e.HasPlainCode) (more : List Tree) :
    startsColon (e.trees ++ more) = false := by
  obtain ⟨t, ts, heq, hstarts⟩ := e.exists_trees h
  rw [heq, List.cons_append]
  cases t with
  | mark c =>
    refine beq_false_of_ne ?_
    rintro rfl
    cases hstarts
  | _ => rfl

theorem trees_ne_minus (h : e.HasPlainCode) (more us : List Tree) :
    e.trees ++ more ≠ .mark '-' :: us := by
  obtain ⟨t, ts, heq, hstarts⟩ := e.exists_trees h
  rw [heq, List.cons_append]
  intro hcons
  cases hcons
  cases hstarts

/-! ### Operators that apply -/

/-- What is read of `ts` is `w`, and operators behind it apply to it. -/
def Takes (inside : Inside) (records : Bool) (read : List Tree → Reading Expr)
    (ts : List Tree) (w : Option Expr) : Prop :=
  ∀ more, follows records more = true →
    read (ts ++ more) = w.bind fun e => operators inside e more

theorem Takes.attempt (h : Takes inside records read ts w) :
    Takes inside records read (ts ++ [.mark '?']) (w.map .attempt) := by
  intro more _
  rw [List.append_assoc, List.singleton_append, h _ rfl]
  cases w with
  | none => rfl
  | some e => exact operators_attempt

theorem Takes.await (h : Takes inside records read ts w) :
    Takes inside records read (ts ++ [.mark '.', .word "await"]) (w.map .await) := by
  intro more hmore
  rw [List.append_assoc, List.cons_append, List.singleton_append, h _ rfl]
  cases w with
  | none => rfl
  | some e => exact operators_await hmore

theorem Takes.method (h : Takes inside records read ts w) (name : String) :
    Takes inside records read (ts ++ [.mark '.', .word name, .group .round us])
      (w.bind fun e => (inside.items us).map fun es => .method e name es) := by
  intro more _
  rw [List.append_assoc, List.cons_append, List.cons_append, List.singleton_append, h _ rfl]
  cases w with
  | none => rfl
  | some e =>
    rw [Option.bind_some, operators_method]
    cases inside.items us <;> rfl

/-- What is read where the expression ends. -/
theorem Takes.ends (h : Takes inside records read ts w) (hmore : ends records more = true) :
    read (ts ++ more) = w.map fun e => (e, more) := by
  rw [h more (follows_of_ends hmore)]
  cases w with
  | none => rfl
  | some e => exact operators_of_ends hmore e

/-! ### Expressions that take operators -/

theorem takes_fragment {code : String} (h : IsPath code) :
    Takes inside records (expr inside records) (fragmentTrees code) (some (.raw code)) :=
  fun _ hmore => expr_raw h hmore

theorem takes_name (name : String) :
    Takes inside records (expr inside records) [.word (Identifier.variableName name)]
      (some (.raw (Identifier.variableName name))) := by
  rw [← (spells_variableName name).fragmentTrees_eq]
  exact takes_fragment (.word (Identifier.isSegment_variableName name))

theorem takes_quoted (value : String) :
    Takes inside records (expr inside records) [.quoted value] (some (.str value)) :=
  fun _ _ => expr_quoted value

theorem takes_call {code : String} (h : IsPath code) :
    Takes inside records (expr inside records) (fragmentTrees code ++ [.group .round ts])
      ((inside.items ts).map (.call code)) := by
  intro more _
  rw [List.append_assoc, List.singleton_append, expr_call h]
  cases inside.items ts <;> rfl

theorem takes_format :
    Takes inside records (expr inside records) [.word "format", .mark '!', .group .round ts]
      ((inside.items ts).map (macroCall "format")) := by
  intro more _
  have hpath : IsPath "format" := .word (by decide)
  have htrees : fragmentTrees "format" = [.word "format"] :=
    (spells_of_isSegment (by decide)).fragmentTrees_eq
  rw [List.cons_append, List.cons_append, List.singleton_append, ← List.singleton_append,
    ← htrees, expr_macro hpath]
  cases inside.items ts <;> rfl

theorem takes_block (isAsync : Bool) :
    Takes inside records (expr inside records)
      ((if isAsync then [.word "async"] else []) ++ [.group .curly ts])
      ((inside.body ts).map (.block isAsync)) := by
  intro more _
  cases isAsync with
  | false => exact expr_block.trans (by cases inside.body ts <;> rfl)
  | true => exact expr_async.trans (by cases inside.body ts <;> rfl)

theorem takes_parens :
    Takes inside records (expr inside records) [.group .round ts]
      ((inside.items ts).map single) :=
  fun _ hmore => expr_parens hmore

theorem takes_invoke :
    Takes inside records (expr inside records) [.group .round ts, .group .round []]
      ((inside.items ts).map fun es => .invoke (single es)) :=
  fun _ _ => expr_invoke

theorem takes_record {code : String} (h : IsPath code) :
    Takes inside true (expr inside true) (fragmentTrees code ++ [.group .curly ts])
      ((inside.fields ts).map (.record code)) := by
  intro more _
  rw [List.append_assoc, List.singleton_append, expr_record h]
  cases inside.fields ts <;> rfl

/-! ### A closure that states its result -/

/-- Whether an operator stands behind everything else in the expression. -/
def isApplied : Expr → Bool
  | .method _ _ _ => true
  | .await _ => true
  | .attempt _ => true
  | _ => false

/-- Whether an expression is a tuple. -/
def isTuple : Expr → Bool
  | .tuple _ => true
  | _ => false

theorem not_isTuple_of_isApplied (h : isApplied x = true) : isTuple x = false := by
  cases x <;> first | rfl | cases h

theorem not_isTuple_of_isOpen (h : x.isOpen = true) : isTuple x = false := by
  cases x <;> first | rfl | cases h

theorem isApplied_method {w : Option Expr} {arguments : Option (List Expr)} {name : String} :
    ∀ x ∈ w.bind fun e => arguments.map fun es => .method e name es, isApplied x = true := by
  intro x hx
  obtain ⟨e, -, hx⟩ := Option.bind_eq_some_iff.mp hx
  obtain ⟨es, -, rfl⟩ := Option.map_eq_some_iff.mp hx
  rfl

theorem eq_block_of_isBlock (h : e.isBlock = true) : ∃ body, e = .block false body := by
  cases e with
  | block isAsync body =>
    cases isAsync with
    | false => exact ⟨body, rfl⟩
    | true => cases h
  | _ => cases h

/-- What is made of a block, and the operators behind it. -/
def behindBlock (inside : Inside) (make : List Stmt → Expr) (ts : List Tree) : Reading Expr :=
  (block inside ts).bind fun body => operators inside (make body.1) body.2

theorem takes_behindBlock {make : List Stmt → Expr} :
    Takes inside records (behindBlock inside make) [.group .curly ts]
      ((inside.body ts).map make) := by
  intro more _
  show ((inside.body ts).map fun body => (body, more)).bind _ = _
  cases inside.body ts <;> rfl

theorem takes_noBlock {make : List Stmt → Expr} {t : Tree}
    (h : ∀ us, t ≠ .group .curly us) : Takes inside records (behindBlock inside make) (t :: ts)
      none := by
  intro more _
  rw [List.cons_append, behindBlock, block]
  · rfl
  · intro us rest heq
    cases heq
    exact h us rfl

/-- What a closure that states its result computes begins with a block, or is not read.  If
it is more than a block, what is read ends with an operator. -/
theorem exists_takes_behindBlock (make : List Stmt → Expr) : (e : Expr) → e.HasPlainCode →
    ∃ w, Takes inside records (behindBlock inside make) e.trees w ∧
      (e.isBlock = false → ∀ x ∈ w, isApplied x = true)
  | .block false body, _ => ⟨_, by rw [Expr.trees]; exact takes_behindBlock, nofun⟩
  | .await operand, h => by
    rw [Expr.HasPlainCode] at h
    obtain ⟨w, hw, -⟩ := exists_takes_behindBlock make operand h
    exact ⟨_, by rw [Expr.trees]; exact hw.await,
      fun _ => Option.forall_mem_map.mpr fun _ _ => rfl⟩
  | .attempt operand, h => by
    rw [Expr.HasPlainCode] at h
    obtain ⟨w, hw, -⟩ := exists_takes_behindBlock make operand h
    exact ⟨_, by rw [Expr.trees]; exact hw.attempt,
      fun _ => Option.forall_mem_map.mpr fun _ _ => rfl⟩
  | .method receiver name arguments, h => by
    rw [Expr.HasPlainCode] at h
    by_cases hneeds : receiver.needsParens = true
    · refine ⟨none, ?_, nofun⟩
      rw [Expr.trees, if_pos hneeds, List.singleton_append]
      exact takes_noBlock nofun
    -- Without parentheses, what the receiver begins with begins the whole.
    · obtain ⟨w, hw, -⟩ := exists_takes_behindBlock make receiver h.1
      exact ⟨_, by rw [Expr.trees, if_neg hneeds]; exact hw.method _, fun _ => isApplied_method⟩
  | .raw code, h => by
    rw [Expr.HasPlainCode] at h
    obtain ⟨first, more, heq, -⟩ := h.exists_trees
    exact ⟨none, by rw [Expr.trees, heq]; exact takes_noBlock nofun, nofun⟩
  | .call callee _, h | .record callee _, h => by
    rw [Expr.HasPlainCode] at h
    obtain ⟨first, more, heq, -⟩ := h.1.exists_trees
    exact ⟨none, by rw [Expr.trees, heq, List.cons_append]; exact takes_noBlock nofun, nofun⟩
  | .closure _ _ _, _ | .block true _, _ | .ident _, _ | .str _, _ | .format _ _, _
  | .negate _, _ | .borrow _, _ | .tuple _, _ | .invoke _, _ =>
    ⟨none, by rw [Expr.trees]; exact takes_noBlock nofun, nofun⟩

theorem takes_closure {type : String} {params : List String} (htype : IsPath type)
    (he : e.HasPlainCode)
    (hw : Takes inside records (behindBlock inside fun body =>
      .closure (params.map Identifier.variableName) (some type) (.block false body)) e.trees w) :
    Takes inside records (expr inside records) (closureTrees params (some type) ++ e.trees) w := by
  intro more hmore
  rw [List.append_assoc, expr_closure_result params htype (startsColon_trees he more)]
  exact hw more hmore

/-! ### All expressions -/

/-- **An operator behind an expression that does not lead open applies to what is read of
it**, unless the expression exposes a struct literal where none is read.  Only a tuple is
read as one. -/
theorem exists_takes (inside : Inside) (records : Bool) : (e : Expr) → e.HasPlainCode →
    e.leadsOpen = false → records = true ∨ e.exposesRecord = false →
    ∃ w, Takes inside records (expr inside records) e.trees w ∧
      (isTuple e = false → ∀ x ∈ w, isTuple x = false)
  | .raw code, h, _, _ => by
    rw [Expr.HasPlainCode] at h
    exact ⟨_, by rw [Expr.trees]; exact takes_fragment h, fun _ x hx => by cases hx; rfl⟩
  | .ident name, _, _, _ =>
    ⟨_, by rw [Expr.trees]; exact takes_name name, fun _ x hx => by cases hx; rfl⟩
  | .str value, _, _, _ =>
    ⟨_, by rw [Expr.trees]; exact takes_quoted value, fun _ x hx => by cases hx; rfl⟩
  | .call callee arguments, h, _, _ => by
    rw [Expr.HasPlainCode] at h
    exact ⟨_, by rw [Expr.trees]; exact takes_call h.1,
      fun _ => Option.forall_mem_map.mpr fun _ _ => rfl⟩
  | .method receiver name arguments, h, hopen, hrecords => by
    rw [Expr.HasPlainCode] at h
    by_cases hneeds : receiver.needsParens = true
    · exact ⟨_, by rw [Expr.trees, if_pos hneeds]; exact takes_parens.method _,
        fun _ x hx => not_isTuple_of_isApplied (isApplied_method x hx)⟩
    -- Without parentheses, the receiver leads the whole: it must not lead open either.
    · rw [Bool.not_eq_true] at hneeds
      rw [Expr.leadsOpen, hneeds, Bool.not_false, Bool.true_and] at hopen
      rw [Expr.exposesRecord, hneeds, Bool.not_false, Bool.true_and] at hrecords
      obtain ⟨w, hw, -⟩ := exists_takes inside records receiver h.1 hopen hrecords
      exact ⟨_, by rw [Expr.trees, hneeds, if_neg Bool.false_ne_true]; exact hw.method _,
        fun _ x hx => not_isTuple_of_isApplied (isApplied_method x hx)⟩
  | .format _ _, _, _, _ => by
    refine ⟨_, by rw [Expr.trees]; exact takes_format,
      fun _ => Option.forall_mem_map.mpr fun es _ => ?_⟩
    unfold macroCall
    split <;> rfl
  | .await operand, h, hopen, hrecords => by
    rw [Expr.HasPlainCode] at h
    rw [Expr.leadsOpen] at hopen
    rw [Expr.exposesRecord] at hrecords
    obtain ⟨w, hw, -⟩ := exists_takes inside records operand h hopen hrecords
    exact ⟨_, by rw [Expr.trees]; exact hw.await,
      fun _ => Option.forall_mem_map.mpr fun _ _ => rfl⟩
  | .attempt operand, h, hopen, hrecords => by
    rw [Expr.HasPlainCode] at h
    rw [Expr.leadsOpen] at hopen
    rw [Expr.exposesRecord] at hrecords
    obtain ⟨w, hw, -⟩ := exists_takes inside records operand h hopen hrecords
    exact ⟨_, by rw [Expr.trees]; exact hw.attempt,
      fun _ => Option.forall_mem_map.mpr fun _ _ => rfl⟩
  | .block isAsync _, _, _, _ =>
    ⟨_, by rw [Expr.trees]; exact takes_block isAsync,
      fun _ => Option.forall_mem_map.mpr fun _ _ => rfl⟩
  | .tuple _, _, _, _ => ⟨_, by rw [Expr.trees]; exact takes_parens, nofun⟩
  | .closure params (some type) body, h, _, _ => by
    rw [Expr.HasPlainCode] at h
    by_cases hblock : body.isBlock = true
    · obtain ⟨statements, rfl⟩ := eq_block_of_isBlock hblock
      have hw (make : List Stmt → Expr) : Takes inside records (behindBlock inside make)
          (Expr.block false statements).trees
          ((inside.body (Stmt.treesAll statements)).map make) := by
        rw [Expr.trees]
        exact takes_behindBlock
      exact ⟨_, by rw [Expr.trees]; exact takes_closure (h.1 type rfl) h.2 (hw _),
        fun _ => Option.forall_mem_map.mpr fun _ _ => rfl⟩
    · obtain ⟨w, hw, happlied⟩ := exists_takes_behindBlock _ body h.2
      rw [Bool.not_eq_true] at hblock
      exact ⟨w, by rw [Expr.trees]; exact takes_closure (h.1 type rfl) h.2 hw,
        fun _ x hx => not_isTuple_of_isApplied (happlied hblock x hx)⟩
  | .invoke _, _, _, _ =>
    ⟨_, by rw [Expr.trees]; exact takes_invoke,
      fun _ => Option.forall_mem_map.mpr fun _ _ => rfl⟩
  | .record name fields, h, _, hrecords => by
    rw [Expr.HasPlainCode] at h
    rcases hrecords with rfl | hrecords
    · exact ⟨_, by rw [Expr.trees]; exact takes_record h.1,
        fun _ => Option.forall_mem_map.mpr fun _ _ => rfl⟩
    · cases hrecords
  | .negate _, _, hopen, _ | .borrow _, _, hopen, _ | .closure _ none _, _, hopen, _ => by
    cases hopen

/-- **What is read of an expression that leads open is an operator applied to something**, or a
closure, whatever stands behind it. -/
theorem isOpen_of_leadsOpen : (e : Expr) → e.HasPlainCode → e.leadsOpen = true → ∀ more rest,
    expr inside records (e.trees ++ more) = some (x, rest) → x.isOpen = true
  | .negate operand, _, _, more, rest, hread => by
    rw [Expr.trees, List.cons_append, expr_negate] at hread
    obtain ⟨r, -, heq⟩ := Option.map_eq_some_iff.mp hread
    cases heq
    rfl
  | .borrow operand, _, _, more, rest, hread => by
    rw [Expr.trees, List.cons_append, expr_borrow] at hread
    obtain ⟨r, -, heq⟩ := Option.map_eq_some_iff.mp hread
    cases heq
    rfl
  | .closure params none body, h, _, more, rest, hread => by
    rw [Expr.HasPlainCode] at h
    rw [Expr.trees, List.append_assoc, expr_closure params (trees_ne_minus h.2 more)] at hread
    obtain ⟨r, -, heq⟩ := Option.map_eq_some_iff.mp hread
    cases heq
    rfl
  | .method receiver _ _, h, hopen, more, rest, hread => by
    rw [Expr.HasPlainCode] at h
    rw [Expr.leadsOpen, Bool.and_eq_true, Bool.not_eq_true'] at hopen
    -- The operators behind the receiver become part of what stands behind it.
    rw [Expr.trees, hopen.1, if_neg Bool.false_ne_true, List.append_assoc] at hread
    exact isOpen_of_leadsOpen receiver h.1 hopen.2 _ rest hread
  | .await operand, h, hopen, more, rest, hread
  | .attempt operand, h, hopen, more, rest, hread => by
    rw [Expr.HasPlainCode] at h
    rw [Expr.leadsOpen] at hopen
    rw [Expr.trees, List.append_assoc] at hread
    exact isOpen_of_leadsOpen operand h hopen _ rest hread
  | .closure _ (some _) _, _, hopen, _, _, _ | .raw _, _, hopen, _, _, _
  | .ident _, _, hopen, _, _, _ | .str _, _, hopen, _, _, _ | .call _ _, _, hopen, _, _, _
  | .format _ _, _, hopen, _, _, _ | .block _ _, _, hopen, _, _, _
  | .tuple _, _, hopen, _, _, _ | .invoke _, _, hopen, _, _, _
  | .record _ _, _, hopen, _, _, _ => by cases hopen

/-- Where no struct literal is read, only the name is read of an expression that begins with
one. -/
theorem exists_name_of_exposesRecord : (e : Expr) → e.HasPlainCode → e.exposesRecord = true →
    e.leadsOpen = false → ∀ more, ∃ name rest,
      expr inside false (e.trees ++ more) = some (.raw name, rest)
  | .record name fields, h, _, _, more => by
    rw [Expr.HasPlainCode] at h
    rw [Expr.trees, List.append_assoc, List.singleton_append, expr_name h.1]
    exact ⟨_, _, rfl⟩
  | .method receiver _ _, h, hexposes, hopen, more => by
    rw [Expr.HasPlainCode] at h
    rw [Expr.exposesRecord, Bool.and_eq_true, Bool.not_eq_true'] at hexposes
    rw [Expr.leadsOpen, hexposes.1, Bool.not_false, Bool.true_and] at hopen
    rw [Expr.trees, hexposes.1, if_neg Bool.false_ne_true, List.append_assoc]
    exact exists_name_of_exposesRecord receiver h.1 hexposes.2 hopen _
  | .await operand, h, hexposes, hopen, more
  | .attempt operand, h, hexposes, hopen, more => by
    rw [Expr.HasPlainCode] at h
    rw [Expr.leadsOpen] at hopen
    rw [Expr.exposesRecord] at hexposes
    rw [Expr.trees, List.append_assoc]
    exact exists_name_of_exposesRecord operand h hexposes hopen _
  | .negate _, _, _, hopen, _ | .borrow _, _, _, hopen, _
  | .closure _ none _, _, _, hopen, _ => by cases hopen
  | .closure _ (some _) _, _, hexposes, _, _ | .raw _, _, hexposes, _, _
  | .ident _, _, hexposes, _, _ | .str _, _, hexposes, _, _ | .call _ _, _, hexposes, _, _
  | .format _ _, _, hexposes, _, _ | .block _ _, _, hexposes, _, _
  | .tuple _, _, hexposes, _, _ | .invoke _, _, hexposes, _, _ => by cases hexposes

end Seam
end Reader
end Code
end ClientSynth
