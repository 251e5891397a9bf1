import ClientSynth.Code.Render

/-! # What is written

Everything that is written is added behind what is there, and the level is the old one
afterwards.  What is added depends on the level only (`OnlyAdds`), so a text is put together
from what its parts add, each at its own level. -/
namespace ClientSynth
namespace Code

/-- What writing adds to a text when it starts at the level `level`. -/
def added (write : Writer → Writer) (level : Nat) : String := (write ⟨level, ""⟩).text

/-- Writing that comes back to its level and keeps what is there, without regard to it. -/
def OnlyAdds (write : Writer → Writer) : Prop :=
  ∀ w, write w = ⟨w.level, w.text ++ added write w.level⟩

section Parts
variable {α : Type} {first second inside : Writer → Writer} {write : Writer → α → Writer}

theorem onlyAdds_id : OnlyAdds id := by
  intro w
  rw [added, id_eq, id_eq, String.append_empty]

theorem onlyAdds_blank : OnlyAdds Writer.blank := by
  intro w
  rw [added, Writer.blank, Writer.blank, String.empty_append]

/-- A line whose text depends on the level only. -/
theorem onlyAdds_line {text : Writer → String} (h : ∀ w, text w = text ⟨w.level, ""⟩) :
    OnlyAdds (fun w => w.line (text w)) := by
  intro w
  simp only [added, Writer.line, ← h w]
  split
  · exact onlyAdds_blank w
  · rw [String.empty_append, ← String.append_assoc, ← String.append_assoc]

theorem onlyAdds_constant (text : String) : OnlyAdds (fun w => w.line text) :=
  onlyAdds_line fun _ => rfl

theorem OnlyAdds.level (h : OnlyAdds first) (w : Writer) : (first w).level = w.level := by
  rw [h w]

theorem OnlyAdds.text (h : OnlyAdds first) (w : Writer) :
    (first w).text = w.text ++ added first w.level := by
  rw [h w]

theorem added_comp (hfirst : OnlyAdds first) (hsecond : OnlyAdds second) (level : Nat) :
    added (fun w => second (first w)) level = added first level ++ added second level := by
  rw [added, hsecond.text, hfirst.level]
  rfl

theorem OnlyAdds.comp (hfirst : OnlyAdds first) (hsecond : OnlyAdds second) :
    OnlyAdds (fun w => second (first w)) := by
  intro w
  rw [added_comp hfirst hsecond, ← String.append_assoc, ← hfirst.text]
  show second (first w) = _
  rw [hsecond (first w), hfirst.level]

theorem added_blank (level : Nat) : added Writer.blank level = "\n" := rfl

theorem eq_blank_of_mem_indentation {c : Char} {level : Nat}
    (h : c ∈ (indentation level).toList) : c = ' ' := by
  rw [indentation, String.toList_ofList] at h
  exact List.eq_of_mem_replicate h

theorem break_not_mem_indentation (level : Nat) : '\n' ∉ (indentation level).toList := by
  intro h
  cases eq_blank_of_mem_indentation h

theorem added_line {text : String} (h : text ≠ "") (level : Nat) :
    added (fun w => w.line text) level = indentation level ++ text ++ "\n" := by
  rw [added, Writer.line, if_neg (by simpa using h), String.empty_append]

theorem OnlyAdds.indented (h : OnlyAdds inside) :
    OnlyAdds (fun w => (inside w.indent).dedent) := by
  intro w
  show (inside w.indent).dedent =
    ⟨w.level, w.text ++ (inside (Writer.indent ⟨w.level, ""⟩)).dedent.text⟩
  rw [h w.indent, h (Writer.indent _)]
  show Writer.mk (w.level + 1 - 1) (w.text ++ _) = ⟨w.level, w.text ++ ("" ++ _)⟩
  rw [Nat.add_sub_cancel, String.empty_append]
  rfl

theorem added_indented (h : OnlyAdds inside) (level : Nat) :
    added (fun w => (inside w.indent).dedent) level = added inside (level + 1) := by
  rw [added, h]
  exact String.empty_append

/-- Lines between an opening and a closing one. -/
theorem OnlyAdds.nested {opening : Writer → String} (h : OnlyAdds inside)
    (hopening : ∀ w, opening w = opening ⟨w.level, ""⟩) (closing : String) :
    OnlyAdds (fun w => w.nested (opening w) inside closing) :=
  ((onlyAdds_line hopening).comp h.indented).comp (onlyAdds_constant closing)

theorem OnlyAdds.between (h : OnlyAdds inside) (opening closing : String) :
    OnlyAdds (fun w => w.nested opening inside closing) :=
  h.nested (fun _ => rfl) closing

theorem OnlyAdds.ite {test : Prop} [Decidable test] (hfirst : OnlyAdds first)
    (hsecond : OnlyAdds second) : OnlyAdds (fun w => if test then first w else second w) := by
  split
  · exact hfirst
  · exact hsecond

theorem added_nested (h : OnlyAdds inside) (opening closing : String) (level : Nat) :
    added (fun w => w.nested opening inside closing) level =
      added (fun w => w.line opening) level ++ added inside (level + 1) ++
        added (fun w => w.line closing) level := by
  have hopening : OnlyAdds (fun w => w.line opening) := onlyAdds_constant opening
  rw [← added_indented h, ← added_comp hopening h.indented,
    ← added_comp (hopening.comp h.indented) (onlyAdds_constant closing)]
  rfl

/-- One part after the other. -/
theorem OnlyAdds.foldl (h : ∀ a, OnlyAdds (fun w => write w a)) (parts : List α) :
    OnlyAdds (fun w => parts.foldl write w) := by
  induction parts with
  | nil => exact onlyAdds_id
  | cons a parts ih => exact (h a).comp ih

theorem added_foldl (h : ∀ a, OnlyAdds (fun w => write w a)) (parts : List α) (level : Nat) :
    added (fun w => parts.foldl write w) level =
      String.join (parts.map (fun a => added (fun w => write w a) level)) := by
  induction parts with
  | nil => rfl
  | cons a parts ih =>
    rw [List.map_cons, String.join_cons, ← ih, ← added_comp (h a) (OnlyAdds.foldl h parts)]
    rfl

/-- Parts with an empty line between neighbours. -/
theorem OnlyAdds.separated (h : ∀ a, OnlyAdds (fun w => write w a)) (parts : List α) :
    OnlyAdds (fun w => w.separated write parts) := by
  cases parts with
  | nil => exact onlyAdds_id
  | cons a parts =>
    exact (h a).comp (OnlyAdds.foldl (fun b => onlyAdds_blank.comp (h b)) parts)

theorem added_separated (h : ∀ a, OnlyAdds (fun w => write w a)) (parts : List α)
    (level : Nat) :
    added (fun w => w.separated write parts) level =
      Text.joined "\n" (parts.map (fun a => added (fun w => write w a) level)) := by
  have hnext : ∀ b, OnlyAdds (fun w => write w.blank b) := fun b => onlyAdds_blank.comp (h b)
  cases parts with
  | nil => rfl
  | cons a parts =>
    -- The first part stands alone and each later one behind a blank line, so the induction is on
    -- the later ones, for any first part.
    have hsplit : added (fun w => w.separated write (a :: parts)) level =
        added (fun w => write w a) level ++
          String.join (parts.map (fun b => added (fun w => write w.blank b) level)) := by
      rw [← added_foldl hnext, ← added_comp (h a) (OnlyAdds.foldl hnext parts)]
      rfl
    rw [hsplit]
    clear hsplit
    induction parts generalizing a with
    | nil => exact String.append_empty
    | cons b parts ih =>
      rw [List.map_cons, String.join_cons, added_comp onlyAdds_blank (h b), added_blank,
        List.map_cons, List.map_cons, Text.joined, String.intercalate_cons_cons]
      rw [String.append_assoc, ih b, ← String.append_assoc]
      rfl

end Parts

/-! ### Statements -/

theorem onlyAdds_of_line {write : Writer → Writer} {text : Writer → String}
    (hwrite : ∀ w, write w = w.line (text w)) (h : ∀ w, text w = text ⟨w.level, ""⟩) :
    OnlyAdds write := by
  rw [funext hwrite]
  exact onlyAdds_line h

theorem OnlyAdds.of_nested {write inside : Writer → Writer} {opening : Writer → String}
    {closing : String} (hinside : OnlyAdds inside)
    (hwrite : ∀ w, write w = w.nested (opening w) inside closing)
    (h : ∀ w, opening w = opening ⟨w.level, ""⟩) : OnlyAdds write := by
  rw [funext hwrite]
  exact hinside.nested h closing

mutual

/-- Every statement only adds to what is written: a line, or lines around the statements
inside it. -/
theorem onlyAdds_write : (s : Stmt) → OnlyAdds s.write
  | .bind .. | .assign .. | .eval .. | .hook .. | .log .. | .ret .. | .tail .. | .comment .. => by
    apply onlyAdds_of_line
    · intro w
      rw [Stmt.write]
    · intro w
      rfl
  | .ifThen _ body | .ifLet _ _ _ body | .forEach _ _ body => by
    apply OnlyAdds.of_nested (onlyAdds_writeAll body)
    · intro w
      rw [Stmt.write]
    · intro w
      rfl
  | .ifElse test body alternative => by
    have hbody : OnlyAdds (fun w => w.nested ("if " ++ test.text w.level ++ " \x7b")
        (Stmt.writeAll body) "\x7d else \x7b") :=
      (onlyAdds_writeAll body).nested (fun _ => rfl) _
    have halternative : OnlyAdds
        (fun w => ((Stmt.writeAll alternative w.indent).dedent).line "\x7d") :=
      (onlyAdds_writeAll alternative).indented.comp (onlyAdds_constant _)
    intro w
    rw [added, Stmt.write, Stmt.write]
    exact hbody.comp halternative w

/-- So do statements in sequence. -/
theorem onlyAdds_writeAll : (body : List Stmt) → OnlyAdds (Stmt.writeAll body)
  | [] => by
    intro w
    rw [added, Stmt.writeAll, Stmt.writeAll]
    exact onlyAdds_id w
  | s :: rest => by
    intro w
    rw [added, Stmt.writeAll, Stmt.writeAll]
    exact ((onlyAdds_write s).comp (onlyAdds_writeAll rest)) w

end

/-! ### Items -/

theorem onlyAdds_writeDoc (doc : List String) : OnlyAdds (writeDoc doc) :=
  OnlyAdds.foldl (fun _ => onlyAdds_constant _) doc

theorem onlyAdds_writeAsyncMark (isAsync : Bool) : OnlyAdds (writeAsyncMark isAsync) := by
  cases isAsync with
  | false => exact onlyAdds_id
  | true => exact onlyAdds_constant "#[async_trait]"

theorem Function.onlyAdds_write (mayBePublic : Bool) (f : Function) :
    OnlyAdds (fun w => f.write mayBePublic w) := by
  have hdoc := onlyAdds_writeDoc f.doc
  unfold Function.write
  match f.body with
  | none => exact hdoc.comp (onlyAdds_constant _)
  | some [] => exact hdoc.comp (onlyAdds_constant _)
  | some (s :: rest) => exact hdoc.comp ((onlyAdds_writeAll (s :: rest)).between _ _)

theorem Trait.onlyAdds_write (t : Trait) : OnlyAdds (fun w => t.write w) :=
  ((onlyAdds_writeDoc t.doc).comp (onlyAdds_writeAsyncMark t.isAsync)).comp
    ((OnlyAdds.separated (Function.onlyAdds_write false) t.methods).between _ _)

theorem Struct.onlyAdds_write (s : Struct) : OnlyAdds (fun w => s.write w) := by
  have hfields : OnlyAdds (fun w => s.fields.foldl
      (fun w f => w.line (Identifier.variableName f.1 ++ ": " ++ f.2 ++ ",")) w) :=
    OnlyAdds.foldl (fun _ => onlyAdds_constant _) s.fields
  exact ((onlyAdds_writeDoc s.doc).comp (onlyAdds_id.ite (onlyAdds_constant _))).comp
    ((onlyAdds_constant _).ite (hfields.between _ _))

theorem Implementation.onlyAdds_write (i : Implementation) : OnlyAdds (fun w => i.write w) := by
  have hconstants : OnlyAdds (fun w => i.constants.foldl (Constant.write i.ofTrait.isNone) w) :=
    OnlyAdds.foldl (fun _ => onlyAdds_constant _) i.constants
  have hmethods : OnlyAdds (fun w => w.separated (Function.write i.ofTrait.isNone) i.methods) :=
    OnlyAdds.separated (Function.onlyAdds_write i.ofTrait.isNone) i.methods
  exact (onlyAdds_writeAsyncMark i.isAsync).comp ((onlyAdds_constant _).ite
    (((hconstants.comp (onlyAdds_id.ite onlyAdds_blank)).comp hmethods).between _ _))

theorem Item.onlyAdds_write (item : Item) : OnlyAdds (fun w => item.write w) := by
  cases item with
  | trait t => exact t.onlyAdds_write
  | struct s => exact s.onlyAdds_write
  | implementation i => exact i.onlyAdds_write
  | function f => exact f.onlyAdds_write true

/-- **A rendered text is the texts of its items**, each at the outermost level, with an empty
line between neighbours. -/
theorem render_eq (items : List Item) :
    render items =
      Text.joined "\n" (items.map (fun item => added (fun w => item.write w) 0)) :=
  added_separated Item.onlyAdds_write items 0

/-- Each of several texts between separators stands in the joined text. -/
theorem exists_joined_of_mem {separator s : String} {texts : List String} (h : s ∈ texts) :
    ∃ before after, Text.joined separator texts = before ++ s ++ after := by
  induction texts with
  | nil => cases h
  | cons t texts ih =>
    rcases List.mem_cons.mp h with rfl | h
    · cases texts with
      | nil => exact ⟨"", "", by simp [Text.joined]⟩
      | cons u texts =>
        refine ⟨"", separator ++ Text.joined separator (u :: texts), ?_⟩
        rw [Text.joined, String.intercalate_cons_cons, String.empty_append, String.append_assoc]
        rfl
    · obtain ⟨before, after, htexts⟩ := ih h
      refine ⟨t ++ separator ++ before, after, ?_⟩
      rw [Text.joined, String.intercalate_cons_of_ne_nil (List.ne_nil_of_mem h)]
      rw [Text.joined] at htexts
      rw [htexts]
      simp only [String.append_assoc]

/-! ### Documentation and code -/

/-- A part of a text that is written. -/
inductive Fragment where
  /-- Lines of documentation. -/
  | doc (text : String)
  | code (text : String)
  deriving Repr, DecidableEq

/-- What is written of a part. -/
def Fragment.text : Fragment → String
  | doc text => text
  | code text => text

/-- What is written of several parts. -/
def fragmentsText (fragments : List Fragment) : String := String.join (fragments.map Fragment.text)

theorem fragmentsText_cons (fragment : Fragment) (fragments : List Fragment) :
    fragmentsText (fragment :: fragments) = fragment.text ++ fragmentsText fragments :=
  String.join_cons

theorem fragmentsText_singleton (fragment : Fragment) :
    fragmentsText [fragment] = fragment.text := by
  rw [fragmentsText, List.map_singleton, String.join_cons, String.join_nil, String.append_empty]

theorem fragmentsText_append (fragments others : List Fragment) :
    fragmentsText (fragments ++ others) = fragmentsText fragments ++ fragmentsText others := by
  rw [fragmentsText, List.map_append, String.join_append, fragmentsText, fragmentsText]

/-- The documentation with the lines `doc` at a level. -/
def docFragment (doc : List String) (level : Nat) : Fragment := .doc (added (writeDoc doc) level)

/-- A function: its documentation, and the same function without any. -/
def Function.fragments (level : Nat) (f : Function) : List Fragment :=
  [docFragment f.doc level, .code (added (fun w => { f with doc := [] }.write false w) level)]

/-- The line that opens a trait. -/
def Trait.opening (t : Trait) : String :=
  "pub trait " ++ Identifier.typeName t.name ++
    (if t.supertraits.isEmpty then "" else ": " ++ Text.joined " + " t.supertraits) ++ " \x7b"

/-- A trait: its documentation, what opens it, its methods with an empty line between
neighbours, and what closes it. -/
def Trait.fragments (level : Nat) (t : Trait) : List Fragment :=
  docFragment t.doc level ::
    .code (added (fun w => (writeAsyncMark t.isAsync w).line t.opening) level) ::
      [.code "\n"].intercalate (t.methods.map (Function.fragments (level + 1))) ++
        [.code (added (fun w => w.line "\x7d") level)]

theorem fragmentsText_intercalate (separator : Fragment) (parts : List (List Fragment)) :
    fragmentsText ([separator].intercalate parts) =
      Text.joined separator.text (parts.map fragmentsText) := by
  induction parts with
  | nil => rfl
  | cons part parts ih =>
    cases parts with
    | nil => rw [List.intercalate_singleton, List.map_singleton, Text.joined,
        String.intercalate_singleton]
    | cons next parts =>
      rw [List.intercalate_cons_cons, fragmentsText_append, fragmentsText_append,
        fragmentsText_singleton, ih]
      exact String.intercalate_cons_cons.symm

theorem Function.text_fragments (f : Function) (level : Nat) :
    fragmentsText (f.fragments level) = added (fun w => f.write false w) level := by
  have hcode : OnlyAdds (fun w => { f with doc := [] }.write false w) :=
    Function.onlyAdds_write false { f with doc := [] }
  rw [fragments, fragmentsText_cons, fragmentsText_singleton]
  exact (added_comp (onlyAdds_writeDoc f.doc) hcode level).symm

/-- **What is written of a trait is its parts**, documentation and code. -/
theorem Trait.text_fragments (t : Trait) (level : Nat) :
    fragmentsText (t.fragments level) = added (fun w => t.write w) level := by
  have hmethods : OnlyAdds (fun w => w.separated (Function.write false) t.methods) :=
    OnlyAdds.separated (Function.onlyAdds_write false) t.methods
  have hmark := onlyAdds_writeAsyncMark t.isAsync
  have hopening := onlyAdds_constant t.opening
  have hbody : added (fun w => w.separated (Function.write false) t.methods) (level + 1) =
      fragmentsText
        ([.code "\n"].intercalate (t.methods.map (Function.fragments (level + 1)))) := by
    rw [added_separated (Function.onlyAdds_write false), fragmentsText_intercalate, List.map_map]
    congr 1
    exact List.map_congr_left fun f _ => (f.text_fragments (level + 1)).symm
  calc fragmentsText (t.fragments level)
      = added (writeDoc t.doc) level ++
          (added (fun w => (writeAsyncMark t.isAsync w).line t.opening) level ++
            (added (fun w => w.separated (Function.write false) t.methods) (level + 1) ++
              added (fun w => w.line "\x7d") level)) := by
        rw [fragments, hbody, List.cons_append, List.cons_append, fragmentsText_cons,
          fragmentsText_cons, fragmentsText_append, fragmentsText_singleton]
        rfl
    _ = added (writeDoc t.doc) level ++ (added (writeAsyncMark t.isAsync) level ++
          added (fun w => w.nested t.opening
            (fun w => w.separated (Function.write false) t.methods) "\x7d") level) := by
        rw [added_nested hmethods, added_comp hmark hopening]
        simp only [String.append_assoc]
    _ = added (fun w => t.write w) level := by
        rw [← added_comp hmark (hmethods.between _ _),
          ← added_comp (onlyAdds_writeDoc t.doc) (hmark.comp (hmethods.between _ _))]
        rfl

end Code
end ClientSynth
