import ClientSynth.Proofs.Evaluation
import ClientSynth.Proofs.Locals
import ClientSynth.Request.Value

/-! # What statements append

The statements that bind parameters to a request all append to a list that one
local holds: the query pairs, or what is added to the request builder.  `Appends`
says so of a block, with the variables it may leave behind, and is proved here of
each kind of statement those blocks are made of. -/
namespace ClientSynth
namespace Request

open Contract Code

variable {Atom β : Type}

section Values
variable {rt : Runtime Atom} {env : Env Atom} {e : Expr} {v : Value Atom}

theorem value_textExpr (h : e.value rt env = .ok v) :
    (textExpr e).value rt env = .ok (.text (rt.textOf v)) :=
  (Expr.value_method0 h).trans Runtime.method_toString

theorem value_encoded {s : String} (h : e.value rt env = .ok v) (hv : v.peel = .text s) :
    (encoded e).value rt env = .ok (.text (rt.encode s)) :=
  (Expr.value_call (Expr.evalAll_one (Expr.value_borrow h))).trans (Runtime.call_encode hv)

theorem value_isNotEmpty_text {s : String} (h : e.value rt env = .ok v) (hv : v.peel = .text s) :
    (isNotEmpty e).value rt env = .ok (.flag !s.isEmpty) :=
  Expr.value_negate ((Expr.value_method0 h).trans (Runtime.method_isEmpty_text hv))

theorem value_isNotEmpty_list {items : List (Value Atom)} (h : e.value rt env = .ok v)
    (hv : v.peel = .list items) : (isNotEmpty e).value rt env = .ok (.flag !items.isEmpty) :=
  Expr.value_negate ((Expr.value_method0 h).trans (Runtime.method_isEmpty_list hv))

end Values

/-- `Appends rt env block ident wrap names new`: run in `env`, the block appends
`new` to the list that the mutable variable `ident` holds, or stops with the error
that `new` is.  All other variables stay as they are; it may leave behind new ones
called one of `names`. -/
def Appends (rt : Runtime Atom) (env : Env Atom) (block : Block) (ident : String)
    (wrap : List β → Value Atom) (names : List String) (new : Except String (List β)) : Prop :=
  ∀ old, env.slot? ident = some ⟨ident, true, wrap old⟩ →
    match new with
    | .ok added => ∃ left : Env Atom, (∀ s ∈ left, s.ident ∈ names) ∧
        Stmt.runAll rt env block = .ok (left ++ env.put ident (wrap (old ++ added)))
    | .error error => Stmt.runAll rt env block = .error (.raised error)

/-- Whether the parameters `ps` have the given values. -/
def Holds (values : Parameter → Value Atom) (ps : List Parameter) (env : Env Atom) : Prop :=
  ∀ p ∈ ps, env.read (Identifier.variableName p.name) = .ok (values p)

/-- A variable that is bound beside the parameters leaves them as they are. -/
theorem Holds.bound {values : Parameter → Value Atom} {ps : List Parameter} {env : Env Atom}
    {ident : String} {isMutable : Bool} {v : Value Atom} (h : Holds values ps env)
    (hne : ∀ p ∈ ps, Identifier.variableName p.name ≠ ident) :
    Holds values ps (⟨ident, isMutable, v⟩ :: env) :=
  fun p hp => (Env.read_bound_ne (hne p hp).symm).trans (h p hp)

/-- What several things append in their order; the first error stands for all. -/
def allOf {α : Type} (news : α → Except String (List β)) : List α → Except String (List β)
  | [] => .ok []
  | a :: rest => news a >>= fun added => allOf news rest >>= fun more => .ok (added ++ more)

theorem allOf_ok {α : Type} {news : α → Except String (List β)} {added : α → List β}
    {as : List α} (h : ∀ a ∈ as, news a = .ok (added a)) : allOf news as = .ok (as.flatMap added) := by
  induction as with
  | nil => rfl
  | cons a as ih =>
      rw [allOf, h a List.mem_cons_self, ih (fun b hb => h b (List.mem_cons_of_mem _ hb)),
        List.flatMap_cons]
      rfl

section Statements
variable {rt : Runtime Atom} {env : Env Atom} {block rest : Block} {ident : String}
  {wrap : List β → Value Atom} {names : List String} {new : Except String (List β)}
  {e : Expr} {v : Value Atom}

/-- Statements without an effect append nothing. -/
theorem Appends.none (h : Stmt.runAll rt env block = .ok env) :
    Appends rt env block ident wrap names (.ok []) := by
  intro old hold
  refine ⟨[], nofun, ?_⟩
  rw [h, List.append_nil, List.nil_append]
  exact congrArg Except.ok (Env.put_same hold).symm

theorem Appends.mono {names' : List String} (h : Appends rt env block ident wrap names new)
    (hnames : names ⊆ names') : Appends rt env block ident wrap names' new := by
  intro old hold
  have hblock := h old hold
  cases new with
  | error error => exact hblock
  | ok added =>
      obtain ⟨left, hleft, hrun⟩ := hblock
      exact ⟨left, fun s hs => hnames (hleft s hs), hrun⟩

theorem Appends.nil : Appends rt env [] ident wrap names (.ok []) := .none Stmt.runAll_nil

/-- A block that leaves no variables behind only changes the list. -/
theorem Appends.run_eq {old : List β} (h : Appends rt env block ident wrap [] new)
    (hold : env.slot? ident = some ⟨ident, true, wrap old⟩) :
    Stmt.runAll rt env block =
      (new.map (fun added => env.put ident (wrap (old ++ added)))).mapError .raised := by
  have hblock := h old hold
  cases new with
  | error error => exact hblock
  | ok added =>
      obtain ⟨left, hleft, hrun⟩ := hblock
      have hnone : left = [] := List.eq_nil_iff_forall_not_mem.mpr
        (fun s hs => List.not_mem_nil (hleft s hs))
      rw [hrun, hnone, List.nil_append]
      rfl

/-- No statements append nothing. -/
theorem Appends.eq_nil {old : List β} (h : Appends rt env [] ident wrap [] new)
    (hwrap : Function.Injective wrap) (hold : env.slot? ident = some ⟨ident, true, wrap old⟩) :
    new = .ok [] := by
  have hrun := h.run_eq hold
  cases new with
  | error error => cases hrun
  | ok added =>
      have hput : env = env.put ident (wrap (old ++ added)) := Except.ok.inj hrun
      have hslot := Env.slot?_put_self (v := wrap (old ++ added)) hold
      rw [← hput, hold] at hslot
      have hvalue := hwrap (congrArg Slot.value (Option.some.inj hslot))
      rw [List.self_eq_append_right.mp hvalue]

/-- What a scope appends is there after it, and nothing else of it. -/
theorem Appends.map_leave {entered : Env Atom} {added old : List β}
    (h : Appends rt (entered ++ env) block ident wrap names (.ok added))
    (hentered : ∀ s ∈ entered, s.ident ≠ ident)
    (hold : env.slot? ident = some ⟨ident, true, wrap old⟩) :
    (Stmt.runAll rt (entered ++ env) block).map env.leave =
      .ok (env.put ident (wrap (old ++ added))) := by
  obtain ⟨left, -, hrun⟩ := h old ((Env.slot?_append hentered).trans hold)
  rw [hrun, Env.put_append hentered, ← List.append_assoc]
  exact congrArg Except.ok (Env.leave_append Env.length_put)

theorem Appends.scope {entered : Env Atom} {body : Block} {names' : List String}
    (h : Appends rt (entered ++ env) body ident wrap names new)
    (hentered : ∀ s ∈ entered, s.ident ≠ ident)
    (hrun : Stmt.runAll rt env block = (Stmt.runAll rt (entered ++ env) body).map env.leave) :
    Appends rt env block ident wrap names' new := by
  intro old hold
  cases new with
  | error error =>
      have hinner : Stmt.runAll rt (entered ++ env) body = .error (.raised error) :=
        h old ((Env.slot?_append hentered).trans hold)
      exact hrun.trans (by rw [hinner]; rfl)
  | ok added => exact ⟨[], nofun, hrun.trans (h.map_leave hentered hold)⟩

/-- A condition under which nothing new comes guards statements. -/
theorem Appends.ifThen {b : Bool} {test : Expr} {body : Block}
    (htest : test.value rt env = .ok (.flag b)) (hempty : b = false → new = .ok [])
    (h : b = true → Appends rt env body ident wrap names new) :
    Appends rt env [.ifThen test body] ident wrap names new := by
  have hrun := (Stmt.runAll_one _).trans (Stmt.run_ifThen htest body)
  cases b with
  | false =>
      rw [hempty rfl]
      exact .none hrun
  | true =>
      have hbody : Appends rt ([] ++ env) body ident wrap names new := h rfl
      exact hbody.scope nofun hrun

/-- A binding is left behind, with what the statements after it leave. -/
theorem Appends.bind {name : String} {isMutable : Bool} {type : Option String}
    (hvalue : e.value rt env = .ok v) (hne : Identifier.variableName name ≠ ident)
    (h : Appends rt (⟨Identifier.variableName name, isMutable, v⟩ :: env) rest ident wrap names
      new) :
    Appends rt env (.bind name isMutable type e :: rest) ident wrap
      (Identifier.variableName name :: names) new := by
  intro old hold
  have hrest := h old ((Env.slot?_cons_ne hne).trans hold)
  have hrun : Stmt.runAll rt env (.bind name isMutable type e :: rest) =
      Stmt.runAll rt (⟨Identifier.variableName name, isMutable, v⟩ :: env) rest := by
    rw [Stmt.runAll_cons, Stmt.run_bind hvalue]
    rfl
  cases new with
  | error error => exact hrun.trans hrest
  | ok added =>
      obtain ⟨left, hleft, hafter⟩ := hrest
      refine ⟨left ++ [⟨Identifier.variableName name, isMutable, v⟩], ?_, ?_⟩
      · intro s hs
        rcases List.mem_append.mp hs with hs | hs
        · exact List.mem_cons_of_mem _ (hleft s hs)
        · rw [List.mem_singleton.mp hs]
          exact List.mem_cons_self
      · rw [hrun, hafter, Env.put_cons_ne hne, List.append_assoc, List.singleton_append]

/-- Statements in sequence append in sequence; the later ones are not run when the
earlier ones stop. -/
theorem Appends.append {more : Except String (List β)} {names' : List String}
    (hident : ident ∉ names) (h : Appends rt env block ident wrap names new)
    (hrest : ∀ env' : Env Atom,
      (∀ other, other ≠ ident → other ∉ names → env'.read other = env.read other) →
        Appends rt env' rest ident wrap names' more) :
    Appends rt env (block ++ rest) ident wrap (names' ++ names)
      (new >>= fun a => more >>= fun b => .ok (a ++ b)) := by
  intro old hold
  have hblock := h old hold
  cases new with
  | error error =>
      show Stmt.runAll rt env (block ++ rest) = .error (.raised error)
      rw [Stmt.runAll_append, show Stmt.runAll rt env block = .error (.raised error) from hblock]
      rfl
  | ok added =>
      obtain ⟨left, hleft, hrun⟩ := hblock
      have houter : ∀ s ∈ left, s.ident ≠ ident := fun s hs hsame =>
        hident (hsame ▸ hleft s hs)
      -- The later statements find the list longer, and other names as they were.
      have hread : ∀ other, other ≠ ident → other ∉ names →
          Env.read (left ++ env.put ident (wrap (old ++ added))) other = env.read other := by
        intro other hother hnot
        have hskip : ∀ s ∈ left, s.ident ≠ other := fun s hs hsame => hnot (hsame ▸ hleft s hs)
        rw [Env.read, Env.slot?_append hskip, Env.slot?_put_ne hother.symm, Env.read]
      have hafter := hrest _ hread (old ++ added)
        ((Env.slot?_append houter).trans (Env.slot?_put_self hold))
      have hsequence : Stmt.runAll rt env (block ++ rest) =
          Stmt.runAll rt (left ++ env.put ident (wrap (old ++ added))) rest := by
        rw [Stmt.runAll_append, hrun]
        rfl
      cases more with
      | error error => exact hsequence.trans hafter
      | ok more =>
          obtain ⟨left', hleft', hrun'⟩ := hafter
          refine ⟨left' ++ left, ?_, ?_⟩
          · intro s hs
            rcases List.mem_append.mp hs with hs | hs
            · exact List.mem_append_left _ (hleft' s hs)
            · exact List.mem_append_right _ (hleft s hs)
          · rw [hsequence, hrun', Env.put_append houter, Env.put_put, ← List.append_assoc,
              List.append_assoc old]

/-- A block for each of several things appends what each of these blocks does.  What
the blocks rely on, `Keeps`, must not depend on the list nor on the variables that
they leave behind. -/
theorem Appends.flatMap {α : Type} {as : List α} {emit : α → Block} {names : α → List String}
    {news : α → Except String (List β)} {Keeps : Env Atom → Prop}
    (hident : ∀ a ∈ as, ident ∉ names a)
    (hkeeps : ∀ a ∈ as, ∀ env env' : Env Atom, Keeps env →
      (∀ other, other ≠ ident → other ∉ names a → env'.read other = env.read other) → Keeps env')
    (h : ∀ a ∈ as, ∀ env, Keeps env → Appends rt env (emit a) ident wrap (names a) (news a))
    (henv : Keeps env) :
    Appends rt env (as.flatMap emit) ident wrap (as.flatMap names) (allOf news as) := by
  -- A block runs among the variables that those before it left.
  induction as generalizing env with
  | nil => exact .nil
  | cons a as ih =>
      have hfirst := h a List.mem_cons_self env henv
      have hrest : ∀ env' : Env Atom,
          (∀ other, other ≠ ident → other ∉ names a → env'.read other = env.read other) →
            Appends rt env' (as.flatMap emit) ident wrap (as.flatMap names) (allOf news as) :=
        fun env' henv' =>
          ih (fun b hb => hident b (List.mem_cons_of_mem _ hb))
            (fun b hb => hkeeps b (List.mem_cons_of_mem _ hb))
            (fun b hb => h b (List.mem_cons_of_mem _ hb))
            (hkeeps a List.mem_cons_self env env' henv henv')
      have hboth := hfirst.append (hident a List.mem_cons_self) hrest
      rw [List.flatMap_cons]
      refine hboth.mono (fun name hname => ?_)
      rw [List.flatMap_cons]
      rcases List.mem_append.mp hname with hname | hname
      · exact List.mem_append_right _ hname
      · exact List.mem_append_left _ hname

/-- A loop appends what its body does for each item. -/
theorem Appends.forEach {items : List (Value Atom)} {binding : String} {body : Block}
    {added : Value Atom → List β} (hitems : e.value rt env = .ok (.list items))
    (hne : Identifier.variableName binding ≠ ident)
    (h : ∀ env item, item ∈ items →
      Appends rt (⟨Identifier.variableName binding, false, item⟩ :: env) body ident wrap names
        (.ok (added item))) :
    Appends rt env [.forEach binding e body] ident wrap names (.ok (items.flatMap added)) := by
  intro old hold
  refine ⟨[], nofun, ?_⟩
  rw [Stmt.runAll_one, Stmt.run_forEach hitems, List.nil_append]
  -- The items were computed once and are the same whatever the variables become.
  clear hitems
  induction items generalizing env old with
  | nil =>
      rw [List.flatMap_nil, List.append_nil, Env.put_same hold]
      rfl
  | cons item items ih =>
      have hbody : Appends rt ([⟨Identifier.variableName binding, false, item⟩] ++ env) body ident
          wrap names (.ok (added item)) := h env item List.mem_cons_self
      have hstep := hbody.map_leave (by simpa using hne) hold
      rw [List.singleton_append] at hstep
      rw [List.foldlM_cons, List.flatMap_cons, hstep, ← List.append_assoc]
      exact (ih (fun env item hitem => h env item (List.mem_cons_of_mem _ hitem)) _
        (Env.slot?_put_self hold)).trans (by rw [Env.put_put])

/-- A nullable value is taken apart first, and an absent one appends nothing. -/
theorem Appends.whenPresent {p : Parameter} {emit : Expr → Block}
    {new : Value Atom → Except String (List β)}
    (hread : env.read (Identifier.variableName p.name) = .ok v) (htype : HasType p.type v)
    (hne : Identifier.variableName p.name ≠ ident) (hnew : ∀ c, new (.ref c) = new c)
    (hemit : ∀ (env : Env Atom) w, env.read (Identifier.variableName p.name) = .ok w →
      HasBase p.type w → (p.type.nullable = true → ∃ c, w = .ref c) →
        Appends rt env (emit (.ident p.name)) ident wrap names (new w)) :
    Appends rt env (whenPresent p emit) ident wrap names
      ((v.content? p.type).elim (.ok []) new) := by
  have hvalue : (Expr.ident p.name).value rt env = .ok v := (Expr.value_ident _).trans hread
  -- Absent; present in a nullable type, where the content is bound under the same name and
  -- leaves scope again; and of a type that is not nullable, where nothing is taken apart.
  rcases htype.content? with ⟨hn, rfl, hc⟩ | ⟨hn, c, rfl, hc, hbase⟩ | ⟨hn, hc, hbase⟩
  · rw [hc, Request.whenPresent, if_pos hn]
    exact .none ((Stmt.runAll_one _).trans (Stmt.run_ifSome (Expr.value_borrow hvalue) _ _))
  · rw [hc, Request.whenPresent, if_pos hn]
    have hinner : Appends rt ([⟨Identifier.variableName p.name, false, .ref c⟩] ++ env)
        (emit (.ident p.name)) ident wrap names (new (.ref c)) :=
      hemit _ _ Env.read_bound (.ref hbase) (fun _ => ⟨c, rfl⟩)
    rw [hnew] at hinner
    exact hinner.scope (by simpa using hne)
      ((Stmt.runAll_one _).trans (Stmt.run_ifSome (Expr.value_borrow hvalue) _ _))
  · rw [hc, Request.whenPresent, if_neg (by rw [hn]; exact Bool.false_ne_true)]
    exact hemit env v hread hbase (fun h => absurd (hn.symm.trans h) Bool.false_ne_true)

end Statements

end Request
end ClientSynth
