import Mathlib.Data.List.Perm.Basic
import ClientSynth.Contract.Classification
import ClientSynth.Proofs.Success
import ClientSynth.Proofs.Trim

/-! # Role annotations

The role of a parameter rests on its role annotations, and on them as a collection: other
annotations and the order do not matter, for at most two role annotations are accepted and
the two are of different kinds.  So it is meant, but tokens are not counted: where a
parameter has several, all of them are accepted and the first one decides. -/
namespace ClientSynth

namespace Annotation

theorem answersTo_iff {a : Annotation} {name : String} :
    a.answersTo name ↔ a.name = name ∨ a.name = name ++ suffix := by
  simp only [answersTo, Bool.or_eq_true, beq_iff_eq]
  constructor
  · rintro (h | h)
    · exact .inl h
    · exact .inr (Text.dropSuffix?_eq_some h)
  · rintro (h | h)
    · exact .inl h
    · exact .inr (by rw [h, Text.dropSuffix?_append])

/-- No annotation is a header and a token. -/
theorem not_isToken_of_isHeader {a : Annotation} (h : a.answersTo "Header") :
    ¬ a.answersTo "Token" := by
  rw [answersTo_iff] at h ⊢
  rcases h with h | h <;> rw [h] <;> decide

end Annotation

namespace Contract

open Success

variable {p : Declaration.Parameter} {type : DeclaredType} {role : Role}
  {tags tags' : List Annotation}

/-! ### Kinds of role annotations -/

/-- The annotations that decide the role. -/
def roleAnnotations (annotations : List Annotation) : List Annotation :=
  annotations.filter isRoleAnnotation

/-- The tokens among annotations. -/
def tokens (annotations : List Annotation) : List Annotation :=
  annotations.filter (fun a => a.answersTo "Token")

/-- The headers among annotations. -/
def headers (annotations : List Annotation) : List Annotation :=
  annotations.filter (fun a => a.answersTo "Header")

/-- Those that are neither a token nor a header. -/
def besides (annotations : List Annotation) : List Annotation :=
  annotations.filter (fun a => !a.answersTo "Token" && !a.answersTo "Header")

/-- Every annotation is of one of the three kinds. -/
theorem perm_kinds (annotations : List Annotation) :
    annotations.Perm (tokens annotations ++ (headers annotations ++ besides annotations)) := by
  have hheaders : headers annotations =
      (annotations.filter (fun a => !a.answersTo "Token")).filter
        (fun a => a.answersTo "Header") := by
    rw [List.filter_filter]
    refine List.filter_congr fun a _ => ?_
    cases hheader : a.answersTo "Header" with
    | false => rfl
    | true => simpa using Annotation.not_isToken_of_isHeader hheader
  have hbesides : besides annotations =
      (annotations.filter (fun a => !a.answersTo "Token")).filter
        (fun a => !a.answersTo "Header") := by
    rw [List.filter_filter]
    exact List.filter_congr fun a _ => Bool.and_comm _ _
  rw [hheaders, hbesides]
  exact ((List.filter_append_perm _ _).append_left _ |>.trans
    (List.filter_append_perm _ _)).symm

/-! ### Which annotations give a role -/

/-- How the role annotations of a parameter that is no cancellation token give it a role. -/
inductive Decides (p : Declaration.Parameter) (type : DeclaredType) :
    List Annotation → Role → Prop
  /-- Without any the parameter is plain. -/
  | plain : Decides p type [] .plain
  /-- One that is no token decides alone. -/
  | single {a : Annotation} {role : Role} (hkind : ¬ a.answersTo "Token")
      (hrole : singleRole a p type = .ok role) : Decides p type [a] role
  /-- The first token decides if nothing but a header goes with it. -/
  | token {tags : List Annotation} {a : Annotation} {role : Role}
      (hfirst : (tokens tags).head? = some a) (hbesides : besides tags = [])
      (hheaders : (headers tags).length ≤ 1)
      (hrole : tokenRole a (headers tags).head? p = .ok role) : Decides p type tags role

theorem classify_eq_ok_iff (hfamily : type.family ≠ .cancellation) :
    Role.classify p type = .ok role ↔ Decides p type (roleAnnotations p.annotations) role := by
  rw [Role.classify, if_neg hfamily, roleAnnotations]
  dsimp only
  rw [← List.head?_filter]
  -- From here on only the annotations of a role matter.
  generalize p.annotations.filter isRoleAnnotation = tags
  constructor
  · intro h
    split at h
    · next a hfirst =>
      split at h
      · next halone =>
        simp only [Bool.and_eq_true, List.isEmpty_iff, decide_eq_true_eq] at halone
        exact .token hfirst halone.1 halone.2 h
      · cases h
    · next hnone =>
      split at h
      · cases h
        exact .plain
      · next a =>
        refine .single (fun htoken => ?_) h
        simp [htoken] at hnone
      · cases h
  · rintro (_ | ⟨hkind, hrole⟩ | ⟨hfirst, hbesides, hheaders, hrole⟩)
    · rfl
    · simpa [hkind] using hrole
    · unfold tokens at hfirst
      unfold besides at hbesides
      unfold headers at hheaders
      rw [hfirst, hbesides]
      exact (if_pos (by simpa using hheaders)).trans hrole

theorem eq_of_perm_of_length_le_one {l l' : List Annotation} (hperm : l.Perm l')
    (h : l'.length ≤ 1) : l = l' := by
  match l', h with
  | [], _ => exact hperm.eq_nil
  | [_], _ => exact List.perm_singleton.mp hperm

/-- Only the collection of the role annotations and the first token among them matter; the
other annotations of the parameter do not. -/
theorem Decides.perm (h : Decides p type tags role) (hperm : tags'.Perm tags)
    (hfirst : (tokens tags').head? = (tokens tags).head?) (annotations : List Annotation) :
    Decides { p with annotations } type tags' role := by
  cases h with
  | plain =>
    rw [hperm.eq_nil]
    exact .plain
  | single hkind hrole =>
    rw [List.perm_singleton.mp hperm]
    exact .single hkind hrole
  | token htoken hbesides hheaders hrole =>
    have hheaders' : headers tags' = headers tags :=
      eq_of_perm_of_length_le_one (hperm.filter _) hheaders
    have hbesides' : (besides tags').Perm (besides tags) := hperm.filter _
    rw [hbesides] at hbesides'
    rw [← hheaders'] at hheaders hrole
    exact .token (hfirst.trans htoken) hbesides'.eq_nil hheaders hrole

/-! ### Annotations that go together -/

/-- Role annotations that are meant to go together: at most one, or a token and a header. -/
def GoTogether (tags : List Annotation) : Prop :=
  tags.length ≤ 1 ∨
    ∃ token header : Annotation, token.answersTo "Token" ∧ header.answersTo "Header" ∧
      tags.Perm [token, header]

theorem GoTogether.length_tokens_le_one (h : GoTogether tags) : (tokens tags).length ≤ 1 := by
  rcases h with h | ⟨token, header, htoken, hheader, hperm⟩
  · exact (List.length_filter_le _ _).trans h
  · have hsame : (tokens tags).Perm (tokens [token, header]) := hperm.filter _
    have hnone : ¬ header.answersTo "Token" := Annotation.not_isToken_of_isHeader hheader
    rw [hsame.length_eq]
    simp [tokens, htoken, hnone]

/-- What gives a role goes together unless there are several tokens. -/
theorem Decides.goTogether (h : Decides p type tags role) (hone : (tokens tags).length ≤ 1) :
    GoTogether tags := by
  cases h with
  | plain => exact .inl (Nat.zero_le 1)
  | single hkind hrole => exact .inl (Nat.le_refl 1)
  | @token _ a _ hfirst hbesides hheaders hrole =>
    have htokens : tokens tags = [a] := by
      obtain ⟨rest, hrest⟩ := List.head?_eq_some_iff.mp hfirst
      rw [hrest, List.length_cons] at hone
      rw [hrest, List.length_eq_zero_iff.mp (Nat.le_zero.mp (Nat.le_of_succ_le_succ hone))]
    have hkinds := perm_kinds tags
    rw [htokens, hbesides, List.append_nil] at hkinds
    match hheader : headers tags, hheaders with
    | [], _ =>
      rw [hheader] at hkinds
      exact .inl hkinds.length_eq.le
    | [header], _ =>
      rw [hheader] at hkinds
      have htoken : a ∈ tokens tags := htokens ▸ List.mem_singleton_self a
      have hmem : header ∈ headers tags := hheader ▸ List.mem_singleton_self header
      exact .inr ⟨a, header, (List.mem_filter.mp htoken).2, (List.mem_filter.mp hmem).2, hkinds⟩

/-! ### Roles that rest on role annotations -/

/-- The role that a parameter has rests on its role annotations as it is meant to. -/
structure RestsOnRoles (p : Declaration.Parameter) (type : DeclaredType) (role : Role) :
    Prop where
  /-- They go together. -/
  goTogether : GoTogether (roleAnnotations p.annotations)
  /-- Any annotations with the same role annotations, in whatever order, give the role. -/
  independent : ∀ annotations,
    (roleAnnotations annotations).Perm (roleAnnotations p.annotations) →
      Role.classify { p with annotations } type = .ok role

/-- Parameters whose role annotations differ in their order have one role if the first token
stays the first. -/
theorem classify_of_perm (hfamily : type.family ≠ .cancellation)
    (h : Role.classify p type = .ok role) {annotations : List Annotation}
    (hperm : (roleAnnotations annotations).Perm (roleAnnotations p.annotations))
    (hfirst : (tokens (roleAnnotations annotations)).head? =
      (tokens (roleAnnotations p.annotations)).head?) :
    Role.classify { p with annotations } type = .ok role :=
  (classify_eq_ok_iff hfamily).mpr
    (((classify_eq_ok_iff hfamily).mp h).perm hperm hfirst annotations)

/-- **When a role rests on the role annotations alone**: a role that is chosen for its
annotations rests on them as it is meant to exactly if no two of them are tokens. -/
theorem restsOnRoles_iff (hfamily : type.family ≠ .cancellation)
    (h : Role.classify p type = .ok role) :
    RestsOnRoles p type role ↔ (tokens (roleAnnotations p.annotations)).length ≤ 1 := by
  constructor
  · exact fun hrests => hrests.goTogether.length_tokens_le_one
  · intro hone
    refine ⟨((classify_eq_ok_iff hfamily).mp h).goTogether hone, fun annotations hperm => ?_⟩
    refine classify_of_perm hfamily h hperm ?_
    have htokens : (tokens (roleAnnotations annotations)).Perm
        (tokens (roleAnnotations p.annotations)) := hperm.filter _
    rw [eq_of_perm_of_length_le_one htokens hone]

/-- A text parameter for a credential. -/
def credential (annotations : List Annotation) : Declaration.Parameter :=
  ⟨"token", "String", none, annotations⟩

/-- The type of a text parameter. -/
def textType : DeclaredType := DeclaredType.parse (fun _ => false) "String"

/-- A token of the given scope. -/
def tokenOf (scope : String) : Annotation := ⟨"Token", [.text scope], []⟩

/-- A token in a header of its own, with a remark that is no role annotation. -/
def namedCredential : Declaration.Parameter :=
  credential [⟨"HeaderAttribute", [.text "X-Token"], []⟩, .marker "Obsolete", tokenOf "Both"]

theorem namedCredential_restsOnRoles :
    textType.family ≠ .cancellation ∧
      Role.classify namedCredential textType = .ok (.token .both "X-Token") ∧
        RestsOnRoles namedCredential textType (.token .both "X-Token") := by
  have hfamily : textType.family ≠ .cancellation := by decide +kernel
  have hrole : Role.classify namedCredential textType = .ok (.token .both "X-Token") := by
    with_unfolding_all rfl
  exact ⟨hfamily, hrole, (restsOnRoles_iff hfamily hrole).mpr (by decide +kernel)⟩

/-- Of two tokens the first one decides, so the role depends on their order. -/
theorem twoTokens_not_restsOnRoles :
    textType.family ≠ .cancellation ∧
      Role.classify (credential [tokenOf "Tenant", tokenOf "User"]) textType =
        .ok (.token .tenant "Authorization") ∧
      Role.classify (credential [tokenOf "User", tokenOf "Tenant"]) textType =
        .ok (.token .user "Authorization") ∧
      ¬ RestsOnRoles (credential [tokenOf "Tenant", tokenOf "User"]) textType
        (.token .tenant "Authorization") := by
  refine ⟨by decide +kernel, by with_unfolding_all rfl, by with_unfolding_all rfl, ?_⟩
  intro hrests
  have htwo := hrests.goTogether.length_tokens_le_one
  revert htwo
  decide

end Contract
end ClientSynth
