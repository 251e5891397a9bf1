import ClientSynth.Layer
import ClientSynth.Proofs.CommentLine
import ClientSynth.Proofs.Escape
import ClientSynth.Proofs.Expansion
import ClientSynth.Proofs.WellFormed
import ClientSynth.Proofs.Writing

/-! # Declared texts in documentation

The documentation of an interface quotes what the contract declares: names, URL templates
and defaults.  Texts among the defaults are quoted as literals, which are on one line
whatever they contain.  Everything else is quoted as it is, so a line break in it begins a
line without the mark of a comment.  The documentation that is written for an interface is
nothing but comment lines exactly if none of the texts it quotes as they are leaves a
comment. -/
namespace ClientSynth

open Contract Code Layer Request Text

namespace Code

/-! ### Documentation lines -/

/-- A line of documentation behind its mark. -/
def markedLine (line : String) : String := if line.isEmpty then "///" else "/// " ++ line

theorem toList_markedLine (line : String) :
    (markedLine line).toList =
      commentMark ++ if line.isEmpty then [] else ' ' :: line.toList := by
  unfold markedLine
  split
  · rfl
  · rw [String.toList_append]
    rfl

theorem markedLine_ne_empty (line : String) : markedLine line ≠ "" := by
  intro h
  have hchars := toList_markedLine line
  rw [h] at hchars
  cases hchars

/-- One line of documentation as it is written. -/
def docLine (level : Nat) (line : String) : List Char :=
  (indentation level).toList ++ (markedLine line).toList

theorem isCommentLine_docLine (level : Nat) (line : String) :
    IsCommentLine (docLine level line) := by
  have hblanks : ∀ c ∈ (indentation level).toList, isIndent c = true := by
    intro c hc
    rw [eq_blank_of_mem_indentation hc]
    rfl
  rw [IsCommentLine, docLine, List.dropWhile_append_of_pos hblanks, toList_markedLine]
  exact List.prefix_append commentMark _

theorem staysInComment_docLine (level : Nat) (line : String) :
    StaysInComment (docLine level line) ↔ StaysInComment line.toList := by
  rw [docLine, staysInComment_append_of_no_break (break_not_mem_indentation level),
    toList_markedLine, staysInComment_append_of_no_break (by decide)]
  split
  · next hempty => rw [String.isEmpty_iff.mp hempty, String.toList_empty]
  · exact staysInComment_cons (by decide)

theorem toList_added_writeDoc (doc : List String) (level : Nat) :
    (added (writeDoc doc) level).toList =
      doc.flatMap (fun line => docLine level line ++ ['\n']) := by
  have hlines : added (writeDoc doc) level =
      String.join (doc.map (fun line => added (fun w => w.line (markedLine line)) level)) :=
    added_foldl (fun _ => onlyAdds_constant _) doc level
  rw [hlines, String.toList_join, List.flatMap_map]
  refine List.flatMap_congr fun line _ => ?_
  rw [added_line (markedLine_ne_empty line), String.toList_append, String.toList_append]
  rfl

/-- **Written documentation is nothing but comment lines** exactly if none of its lines
leaves a comment. -/
theorem isComment_writeDoc_iff (doc : List String) (level : Nat) :
    IsComment (added (writeDoc doc) level).toList ↔ ∀ l ∈ doc, StaysInComment l.toList := by
  rw [toList_added_writeDoc]
  induction doc with
  | nil => simp [isComment_nil]
  | cons line doc ih =>
    rw [List.flatMap_cons, List.append_assoc, List.singleton_append, isComment_append_break, ih,
      staysInComment_docLine, List.forall_mem_cons,
      and_iff_right (isCommentLine_docLine level line)]

/-! ### Traits -/

/-- A trait whose documentation is written as nothing but comment lines. -/
def Trait.KeepsComments (t : Trait) : Prop :=
  ∀ text, Fragment.doc text ∈ t.fragments 0 → IsComment text.toList

theorem mem_intercalate_iff {fragment separator : Fragment} (h : fragment ≠ separator)
    (parts : List (List Fragment)) :
    fragment ∈ [separator].intercalate parts ↔ ∃ part ∈ parts, fragment ∈ part := by
  induction parts with
  | nil => simp
  | cons part parts ih =>
    cases parts with
    | nil => simp
    | cons next parts =>
      rw [List.intercalate_cons_cons, List.mem_append, ih]
      simp [h]

theorem Trait.doc_mem_fragments_iff {t : Trait} {text : String} :
    Fragment.doc text ∈ t.fragments 0 ↔
      text = added (writeDoc t.doc) 0 ∨ ∃ f ∈ t.methods, text = added (writeDoc f.doc) 1 := by
  rw [fragments, List.mem_append, List.mem_cons, List.mem_cons,
    mem_intercalate_iff Fragment.noConfusion]
  simp [docFragment, Function.fragments]

theorem Trait.keepsComments_iff (t : Trait) :
    t.KeepsComments ↔
      (∀ line ∈ t.doc, StaysInComment line.toList) ∧
        ∀ f ∈ t.methods, ∀ line ∈ f.doc, StaysInComment line.toList := by
  rw [← isComment_writeDoc_iff t.doc 0]
  constructor
  · intro h
    refine ⟨h _ (doc_mem_fragments_iff.mpr (.inl rfl)), fun f hf => ?_⟩
    rw [← isComment_writeDoc_iff f.doc 1]
    exact h _ (doc_mem_fragments_iff.mpr (.inr ⟨f, hf, rfl⟩))
  · rintro ⟨hdoc, hmethods⟩ text htext
    rcases doc_mem_fragments_iff.mp htext with rfl | ⟨f, hf, rfl⟩
    · exact hdoc
    · exact (isComment_writeDoc_iff f.doc 1).mpr (hmethods f hf)

end Code

/-! ### Quoting -/

namespace Text

/-- A text that sets off what precedes it and does not break the line. -/
def Separates (between : String) : Prop :=
  between.toList ≠ [] ∧ SetsOff between.toList ∧ '\n' ∉ between.toList

instance : DecidablePred Separates := fun between =>
  inferInstanceAs
    (Decidable (between.toList ≠ [] ∧ SetsOff between.toList ∧ '\n' ∉ between.toList))

/-- Two texts with another one between them stay in a comment exactly if each of them does. -/
theorem staysInComment_between {between : String} (h : Separates between) (s t : String) :
    StaysInComment (s ++ between ++ t).toList ↔
      StaysInComment s.toList ∧ StaysInComment t.toList := by
  obtain ⟨hne, hset, hbetween⟩ := h
  rw [String.append_assoc, String.toList_append, String.toList_append,
    staysInComment_append (hset.append hne _), staysInComment_append_of_no_break hbetween]

theorem staysInComment_opened {before : String} (h : '\n' ∉ before.toList) (s : String) :
    StaysInComment (before ++ s).toList ↔ StaysInComment s.toList := by
  rw [String.toList_append, staysInComment_append_of_no_break h]

theorem staysInComment_closed {after : String} (h : Separates after) (s : String) :
    StaysInComment (s ++ after).toList ↔ StaysInComment s.toList := by
  obtain ⟨-, hset, hafter⟩ := h
  rw [String.toList_append, staysInComment_append hset,
    and_iff_left (staysInComment_of_no_break hafter)]

/-- A text that is quoted between others stays in a comment exactly if it does by itself. -/
theorem staysInComment_quoted {before after : String} (hbefore : '\n' ∉ before.toList)
    (hafter : Separates after) (s : String) :
    StaysInComment (before ++ s ++ after).toList ↔ StaysInComment s.toList := by
  rw [staysInComment_closed hafter, staysInComment_opened hbefore]

theorem staysInComment_commas (names : List String) :
    StaysInComment (Text.joined ", " (names.map (fun a => "`" ++ a ++ "`"))).toList ↔
      ∀ a ∈ names, StaysInComment a.toList := by
  have hquoted : ∀ a : String, StaysInComment ("`" ++ a ++ "`").toList ↔
      StaysInComment a.toList := staysInComment_quoted (by decide) (by decide)
  induction names with
  | nil => simp [Text.joined, staysInComment_nil]
  | cons a names ih =>
    cases names with
    | nil =>
      rw [List.map_singleton, Text.joined, String.intercalate_singleton, hquoted,
        List.forall_mem_singleton]
    | cons b names =>
      rw [List.map_cons, List.map_cons, Text.joined, String.intercalate_cons_cons,
        staysInComment_between (by decide), hquoted, List.forall_mem_cons]
      exact and_congr_right fun _ => ih

end Text

/-! ### What is quoted -/

namespace Layer

/-- The texts of a default that are quoted as they are. -/
def literalTexts : Literal → List String
  | .number n => [n]
  | .member e m => [e, m]
  | .memberNumber _ v => [v]
  | .str _ | .bool _ | .char _ | .text _ | .null => []

/-- The texts of a parameter that are quoted as they are. -/
def parameterTexts (p : Parameter) : List String :=
  p.default.elim [] (fun d => p.name :: literalTexts d)

/-- The texts of a method that are quoted as they are. -/
def methodTexts (m : Method) : List String :=
  m.urlTemplate :: m.parameters.flatMap parameterTexts

/-- The name of the token manager, if the interface has a wrap layer. -/
def managerTexts (i : Interface) (options : Options) : List String :=
  match wrapNames i options with
  | some (.ok names) => [names.tokenManager]
  | _ => []

/-- The texts that documentation of an interface quotes as they are. -/
def documentedTexts (i : Interface) (options : Options) : List String :=
  i.name :: i.ancestors ++ i.methods.flatMap methodTexts ++ managerTexts i options

theorem staysInComment_display (d : Literal) :
    StaysInComment d.display.toList ↔ ∀ s ∈ literalTexts d, StaysInComment s.toList := by
  have hquoted : ∀ e : Literal, literalTexts e = [] → StaysInComment e.display.toList →
      (StaysInComment e.display.toList ↔ ∀ s ∈ literalTexts e, StaysInComment s.toList) := by
    intro e hnone he
    rw [hnone]
    exact iff_of_true he nofun
  have hstring : ∀ s : String, StaysInComment (Text.stringLiteral s).toList := by
    intro s
    refine staysInComment_of_no_break fun hbreak => ?_
    exact absurd (isPrintable_of_mem_stringLiteral hbreak) (by decide)
  cases d with
  | str s => exact hquoted _ rfl (hstring s)
  | text s => exact hquoted _ rfl (hstring s)
  | char c =>
    refine hquoted _ rfl (staysInComment_of_no_break fun hbreak => ?_)
    exact absurd (isPrintable_of_mem_charLiteral hbreak) (by decide)
  | bool b => exact hquoted _ rfl (by cases b <;> decide)
  | null => exact hquoted _ rfl (by decide)
  | number n => simp [Literal.display, literalTexts]
  | memberNumber e v => simp [Literal.display, literalTexts]
  | member e m =>
    rw [Literal.display, staysInComment_between (by decide)]
    simp [literalTexts]

theorem staysInComment_defaultDoc (p : Parameter) :
    (∀ line ∈ defaultDoc p, StaysInComment line.toList) ↔
      ∀ s ∈ parameterTexts p, StaysInComment s.toList := by
  unfold defaultDoc parameterTexts
  cases p.default with
  | none => simp
  | some d =>
    have hline : StaysInComment
        ("`" ++ p.name ++ "` defaults to `" ++ d.display ++ "`.").toList ↔
          StaysInComment p.name.toList ∧ StaysInComment d.display.toList := by
      rw [staysInComment_closed (by decide), staysInComment_between (by decide),
        staysInComment_opened (by decide)]
    simp only [Option.map_some, Option.mem_some_iff, forall_eq', Option.elim_some,
      List.forall_mem_cons]
    rw [hline, staysInComment_display]

theorem staysInComment_methodDocs (m : Method) :
    (∀ line ∈ methodDocs m, StaysInComment line.toList) ↔
      ∀ s ∈ methodTexts m, StaysInComment s.toList := by
  have hrequest : StaysInComment ("`" ++ m.verb.token ++ " " ++ m.urlTemplate ++ "`").toList ↔
      StaysInComment m.urlTemplate.toList :=
    staysInComment_quoted (by cases m.verb <;> decide) (by decide) m.urlTemplate
  have hdefaults : (∀ line ∈ m.parameters.filterMap defaultDoc, StaysInComment line.toList) ↔
      ∀ s ∈ m.parameters.flatMap parameterTexts, StaysInComment s.toList := by
    rw [List.forall_mem_filterMap, List.forall_mem_flatMap]
    exact forall₂_congr fun p _ => staysInComment_defaultDoc p
  rw [methodDocs, methodTexts, List.forall_mem_cons, List.forall_mem_cons, hrequest, ← hdefaults]
  refine and_congr_right fun _ => ?_
  split
  · next hnone => rw [List.isEmpty_iff.mp hnone]
  · rw [List.forall_mem_cons, and_iff_right (by decide)]

theorem staysInComment_interfaceDocs (i : Interface) :
    (∀ line ∈ interfaceDocs i, StaysInComment line.toList) ↔
      StaysInComment i.name.toList ∧ ∀ a ∈ i.ancestors, StaysInComment a.toList := by
  have hname : StaysInComment ("Web API client `" ++ i.name ++ "`.").toList ↔
      StaysInComment i.name.toList :=
    staysInComment_quoted (by decide) (by decide) i.name
  rw [interfaceDocs, List.forall_mem_cons, hname]
  refine and_congr_right fun _ => ?_
  split
  · next hnone => rw [List.isEmpty_iff.mp hnone]
  · rw [List.forall_mem_cons, and_iff_right (by decide), List.forall_mem_singleton,
      staysInComment_quoted (by decide) (by decide)]
    exact staysInComment_commas i.ancestors

/-- The name of a client is the interface's but for letters at its ends. -/
theorem staysInComment_implementation (i : Interface) :
    StaysInComment i.implementation.toList ↔ StaysInComment i.name.toList := by
  unfold Interface.implementation Naming.implementation Naming.stripInterfaceMarker
  split
  · next second rest hname =>
    split
    · rw [Option.getD_some, String.toList_ofList, hname]
      exact (staysInComment_cons (by decide)).symm
    · rw [Option.getD_none, staysInComment_closed (by decide)]
  · rw [Option.getD_none, staysInComment_closed (by decide)]

/-! ### Documented traits -/

theorem keepsComments_interfaceTrait (i : Interface) :
    (interfaceTrait i).KeepsComments ↔
      (StaysInComment i.name.toList ∧ ∀ a ∈ i.ancestors, StaysInComment a.toList) ∧
        ∀ s ∈ i.methods.flatMap methodTexts, StaysInComment s.toList := by
  rw [Trait.keepsComments_iff, interfaceTrait, staysInComment_interfaceDocs, List.forall_mem_map,
    List.forall_mem_flatMap]
  refine and_congr_right fun _ => forall₂_congr fun m _ => ?_
  exact staysInComment_methodDocs m

theorem doc_of_mem_methodHooks {f : Function} {m : Method} (h : f ∈ methodHooks m) :
    f.doc = [] := by
  simp only [methodHooks, List.mem_cons, List.not_mem_nil, or_false] at h
  rcases h with rfl | rfl | rfl | rfl <;> rfl

theorem keepsComments_hooksTrait (i : Interface) :
    (hooksTrait i).KeepsComments ↔ StaysInComment i.name.toList := by
  have hshared : ∀ f ∈ sharedHooks, ∀ line ∈ f.doc, '\n' ∉ line.toList := by decide +kernel
  have hmethods : ∀ f ∈ (hooksTrait i).methods, ∀ line ∈ f.doc, StaysInComment line.toList := by
    intro f hf
    rcases List.mem_append.mp hf with hf | hf
    · exact fun line hline => staysInComment_of_no_break (hshared f hf line hline)
    · obtain ⟨m, -, hm⟩ := List.mem_flatMap.mp hf
      rw [doc_of_mem_methodHooks hm]
      exact nofun
  rw [Trait.keepsComments_iff, and_iff_left hmethods, hooksTrait, List.forall_mem_cons,
    staysInComment_quoted (by decide) (by decide), staysInComment_implementation,
    and_iff_left (by decide)]

/-- The traits among the items of a unit. -/
def traitsOf (unit : CodeUnit) : List Trait :=
  unit.items.filterMap (fun | .trait t => some t | _ => none)

/-- The traits that an interface is documented in: its own, its hooks, and those of its wrap
layer. -/
def documentedTraits (i : Interface) (options : Options) : List Trait :=
  interfaceTrait i :: hooksTrait i :: (wrapUnits i options).value.flatMap traitsOf

/-- Documented traits are items of the units that are written. -/
theorem exists_unit_of_documented {i : Interface} {options : Options} {t : Trait}
    (h : t ∈ documentedTraits i options) :
    ∃ unit ∈ (interfaceUnits i options).value, Item.trait t ∈ unit.items := by
  rcases List.mem_cons.mp h with rfl | h
  · exact ⟨clientUnit i options, List.mem_cons_self, List.mem_cons_self⟩
  rcases List.mem_cons.mp h with rfl | h
  · exact ⟨clientUnit i options, List.mem_cons_self, List.mem_cons_of_mem _ List.mem_cons_self⟩
  · obtain ⟨unit, hunit, ht⟩ := List.mem_flatMap.mp h
    refine ⟨unit, List.mem_cons_of_mem _ hunit, ?_⟩
    obtain ⟨item, hitem, heq⟩ := List.mem_filterMap.mp ht
    split at heq
    · cases heq
      exact hitem
    · cases heq

/-- The fragments of a documented trait stand in the text of a unit as they are. -/
theorem render_documented {i : Interface} {options : Options} {t : Trait}
    (h : t ∈ documentedTraits i options) :
    ∃ unit ∈ (interfaceUnits i options).value, ∃ before after,
      render unit.items = before ++ fragmentsText (t.fragments 0) ++ after := by
  obtain ⟨unit, hunit, ht⟩ := exists_unit_of_documented h
  refine ⟨unit, hunit, ?_⟩
  rw [render_eq, t.text_fragments]
  exact exists_joined_of_mem
    (List.mem_map_of_mem (f := fun item => added (fun w => Item.write w item) 0) ht)

/-- A wrap trait quotes the interface, its token manager, and what is quoted in the
documentation of the methods that are wrapped. -/
theorem keepsComments_wrapTraitUnit {i : Interface} {names : WrapNames}
    (hname : StaysInComment i.name.toList)
    (hmethods : ∀ s ∈ i.methods.flatMap methodTexts, StaysInComment s.toList) :
    (∀ t ∈ traitsOf (wrapTraitUnit i names (expandInterface i).value), t.KeepsComments) ↔
      StaysInComment names.tokenManager.toList := by
  have hwrapped : ∀ w ∈ (expandInterface i).value,
      ∀ line ∈ methodDocs w.target, StaysInComment line.toList := by
    intro w hw
    obtain ⟨m, hm, hmem⟩ := exists_method hw
    rw [target_of_mem_expandMethod hmem, staysInComment_methodDocs]
    exact List.forall_mem_flatMap.mp hmethods m (List.mem_of_mem_filter hm)
  have hdoc : StaysInComment
      ("`" ++ i.name ++ "` with tokens supplied by `" ++ names.tokenManager ++ "`.").toList ↔
        StaysInComment names.tokenManager.toList := by
    rw [staysInComment_closed (by decide), staysInComment_between (by decide),
      staysInComment_opened (by decide), and_iff_right hname]
  obtain ⟨t, htraits, ht, htmethods⟩ :
      ∃ t, traitsOf (wrapTraitUnit i names (expandInterface i).value) = [t] ∧
        t.doc = ["`" ++ i.name ++ "` with tokens supplied by `" ++ names.tokenManager ++ "`."] ∧
        t.methods = (expandInterface i).value.map
          (fun w => { wrapDeclaration w with doc := methodDocs w.target }) :=
    ⟨_, rfl, rfl, rfl⟩
  rw [htraits, List.forall_mem_singleton, Trait.keepsComments_iff, ht, htmethods,
    List.forall_mem_singleton, hdoc, List.forall_mem_map]
  exact and_iff_left hwrapped

theorem keepsComments_wrapUnits {i : Interface} {options : Options}
    (hname : StaysInComment i.name.toList)
    (hmethods : ∀ s ∈ i.methods.flatMap methodTexts, StaysInComment s.toList) :
    (∀ t ∈ (wrapUnits i options).value.flatMap traitsOf, t.KeepsComments) ↔
      ∀ s ∈ managerTexts i options, StaysInComment s.toList := by
  cases hnames : wrapNames i options with
  | none => simp [wrapUnits, managerTexts, hnames, Reported.silent]
  | some outcome =>
    cases outcome with
    | error e => simp [wrapUnits, managerTexts, hnames]
    | ok names =>
      have hunits : (wrapUnits i options).value.flatMap traitsOf =
          traitsOf (wrapTraitUnit i names (expandInterface i).value) := by
        rw [wrapUnits, hnames]
        rfl
      rw [hunits, keepsComments_wrapTraitUnit hname hmethods, managerTexts, hnames,
        List.forall_mem_singleton]

/-- **When declared texts stay in the documentation**: what is written as documentation of an
interface is nothing but comment lines exactly if none of the texts that it quotes as they are
leaves a comment. -/
theorem documentedTraits_keepComments_iff (i : Interface) (options : Options) :
    (∀ t ∈ documentedTraits i options, t.KeepsComments) ↔
      ∀ s ∈ documentedTexts i options, StaysInComment s.toList := by
  rw [documentedTraits, List.forall_mem_cons, List.forall_mem_cons, keepsComments_interfaceTrait,
    keepsComments_hooksTrait, documentedTexts, List.forall_mem_append, List.forall_mem_append,
    List.forall_mem_cons]
  constructor
  · rintro ⟨⟨hname, hmethods⟩, -, hwrap⟩
    exact ⟨⟨hname, hmethods⟩, (keepsComments_wrapUnits hname.1 hmethods).mp hwrap⟩
  · rintro ⟨⟨hname, hmethods⟩, hmanager⟩
    exact ⟨⟨hname, hmethods⟩, hname.1, (keepsComments_wrapUnits hname.1 hmethods).mpr hmanager⟩

/-- A client with a URL template that is broken into two lines. -/
def brokenApi : Declaration.Interface :=
  { name := "IUserApi"
    ancestors := []
    annotations := [.marker "HttpClientApi"]
    methods := [⟨"ListAsync", some ⟨none, true⟩, [⟨"Get", [.text "/users\nfn"], []⟩], []⟩]
    source := "user.yaml" }

/-- The documentation of its method is left after the first line, whatever the options. -/
theorem brokenApi_leaves_comment :
    ∃ contract ∈ (resolveAll ⟨[], [brokenApi]⟩ (fun name => name == brokenApi.name)).value,
      ∀ options, ¬ ∀ t ∈ documentedTraits contract options, t.KeepsComments := by
  obtain ⟨contract, hcontract, hurls⟩ := exists_contract (i := brokenApi)
    ⟨none, none, none, none, false, none⟩ Method.urlTemplate ["/users\nfn"] rfl rfl
    (by simp) (by with_unfolding_all rfl)
  refine ⟨contract, hcontract, fun options hkeeps => ?_⟩
  obtain ⟨m, hm, hurl⟩ := List.map_eq_singleton_iff.mp hurls
  have hquoted : m.urlTemplate ∈ documentedTexts contract options := by
    simp [documentedTexts, hm, methodTexts]
  have hstays := (documentedTraits_keepComments_iff contract options).mp hkeeps _ hquoted
  rw [hurl] at hstays
  revert hstays
  decide

end Layer
end ClientSynth
