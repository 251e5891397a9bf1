import ClientSynth.Proofs.ByteCut
import ClientSynth.Proofs.Path
import ClientSynth.Proofs.PlaceholderSpan

/-! # The path of a request, cut at the placeholders

`pathExpr` goes through the parts of a URL template.  The same expression is found without
them: go through the listed placeholders with a cursor on the first byte that is not yet
written, and for each one that a parameter fills write what lies between the cursor and the
placeholder, then the hole.  A placeholder that is passed over leaves the cursor where it is,
so it is written with the text up to the next one.  Cuts are made at the bytes where listed
placeholders begin and end, and none of them fails. -/
namespace ClientSynth
namespace Request

open Contract Code Text

/-- How far a URL template has been written with holes. -/
structure PathProgress where
  /-- What has been written. -/
  text : List Char
  arguments : List Expr
  /-- The first byte of the template that is not yet written. -/
  cursor : Nat

namespace PathProgress

/-- Nothing has been written. -/
def start : PathProgress := ⟨[], [], 0⟩

/-- The template up to the end of a placeholder, with a hole in place of it if a parameter
fills it. -/
def step? (parameters : List Parameter) (template : List Char) (progress : PathProgress)
    (placeholder : Placeholder) : Option PathProgress :=
  match pathParameter? placeholder.name parameters with
  | none => some progress
  | some p => do
    let between ← slice? progress.cursor placeholder.start template
    let (hole, argument) := pathArgument p
    return {
      text := progress.text ++ escapeBraces between ++ hole.toList
      arguments := progress.arguments ++ [argument]
      cursor := placeholder.stop }

/-- The whole template with holes. -/
def finish? (template : List Char) (progress : PathProgress) : Option (List Char) := do
  let rest ← sliceFrom? progress.cursor template
  return progress.text ++ escapeBraces rest

end PathProgress

/-- The expression of the request path, with the template cut at its placeholders. -/
def pathExprBySpans? (template : String) (parameters : List Parameter) : Option Expr := do
  let progress ← (Placeholder.all template).foldlM
    (PathProgress.step? parameters template.toList) .start
  if progress.arguments.isEmpty then return .str template
  let text ← progress.finish? template.toList
  return .format (String.ofList text) progress.arguments

/-! ### One part after another -/

section Run
variable {parameters : List Parameter} {template done pending rest : List Char}
  {progress : PathProgress}

theorem byteCount_partText (part : UrlPart) :
    byteCount (partText part) = Placeholder.width part := by
  cases part with
  | char c => exact Nat.add_zero _
  | placeholder name =>
    have hbraced := Placeholder.byteCount_braced name.toList
    rwa [String.ofList_toList] at hbraced

/-- A placeholder without a parameter is passed over. -/
theorem step?_kept {name : String} {start stop : Nat}
    (hfound : pathParameter? name parameters = none) :
    progress.step? parameters template ⟨name, start, stop⟩ = some progress := by
  rw [PathProgress.step?, hfound]

/-- Where a parameter fills the placeholder, all that is pending in front of it is written. -/
theorem step?_filled {name : String} {stop : Nat} {p : Parameter}
    (hfound : pathParameter? name parameters = some p)
    (htemplate : template = done ++ pending ++ rest) (hcursor : progress.cursor = byteCount done) :
    progress.step? parameters template ⟨name, byteCount (done ++ pending), stop⟩ =
      some ⟨progress.text ++ escapeBraces pending ++ (pathArgument p).1.toList,
        progress.arguments ++ [(pathArgument p).2], stop⟩ := by
  rw [PathProgress.step?, hfound, hcursor, htemplate]
  simp only [slice?_append]
  rfl

/-- The run along the remaining placeholders, when `done` is written, `pending` has been passed
over, and `parts` are those of the text behind: what they come to is added to what is written
and pending. -/
theorem run_parts (parameters : List Parameter) (progress : PathProgress)
    (done pending : List Char) (parts : List UrlPart)
    (htemplate : template = done ++ pending ++ parts.flatMap partText)
    (hcursor : progress.cursor = byteCount done) :
    ∃ final, (Placeholder.located (byteCount (done ++ pending)) parts).foldlM
        (PathProgress.step? parameters template) progress = some final ∧
      final.arguments = progress.arguments ++ (pathPieces parameters parts).2 ∧
      final.finish? template =
        some (progress.text ++ escapeBraces pending ++ (pathPieces parameters parts).1) := by
  induction parts generalizing done pending progress with
  | nil =>
    refine ⟨progress, rfl, (List.append_nil _).symm, ?_⟩
    rw [List.flatMap_nil, List.append_nil] at htemplate
    rw [PathProgress.finish?, htemplate, hcursor, sliceFrom?_append, pathPieces, List.append_nil]
    rfl
  | cons part parts ih =>
    rw [List.flatMap_cons] at htemplate
    -- What the part covers, if it is not filled, is pending for the parts behind it.
    have hkept : template = done ++ (pending ++ partText part) ++ parts.flatMap partText := by
      simpa only [List.append_assoc] using htemplate
    have hbehind : byteCount (done ++ (pending ++ partText part)) =
        byteCount (done ++ pending) + Placeholder.width part := by
      rw [← List.append_assoc, byteCount_append, byteCount_partText]
    have hpassed := ih progress done _ hkept hcursor
    rw [hbehind] at hpassed
    cases part with
    | char c =>
      obtain ⟨final, hrun, harguments, hfinish⟩ := hpassed
      refine ⟨final, hrun, ?_, ?_⟩
      · rw [harguments, pathPieces_char]
      · rw [hfinish, pathPieces_char, escapeBraces_append]
        simp only [List.append_assoc, partText]
    | placeholder name =>
      cases hfound : pathParameter? name parameters with
      | none =>
        obtain ⟨final, hrun, harguments, hfinish⟩ := hpassed
        refine ⟨final, ?_, ?_, ?_⟩
        · rw [Placeholder.located, List.foldlM_cons, step?_kept hfound]
          exact hrun
        · rw [harguments, pathPieces_kept hfound]
        · rw [hfinish, pathPieces_kept hfound, escapeBraces_append]
          simp only [List.append_assoc, partText, Placeholder.braced]
      | some p =>
        have hwritten : template =
            done ++ (pending ++ partText (.placeholder name)) ++ [] ++ parts.flatMap partText := by
          simpa only [List.append_nil] using hkept
        obtain ⟨final, hrun, harguments, hfinish⟩ :=
          ih ⟨progress.text ++ escapeBraces pending ++ (pathArgument p).1.toList,
            progress.arguments ++ [(pathArgument p).2],
            byteCount (done ++ (pending ++ partText (.placeholder name)))⟩ _ [] hwritten rfl
        rw [List.append_nil] at hrun
        refine ⟨final, ?_, ?_, ?_⟩
        · rw [Placeholder.located, List.foldlM_cons, ← hbehind,
            step?_filled hfound htemplate hcursor]
          exact hrun
        · rw [harguments, pathPieces_filled hfound, List.append_assoc, List.singleton_append]
        · rw [hfinish, pathPieces_filled hfound]
          simp only [escapeBraces, List.flatMap_nil, List.append_nil, List.append_assoc]

end Run

/-- **The path can be written with cuts at its placeholders**, and no cut fails. -/
theorem pathExprBySpans?_eq (template : String) (parameters : List Parameter) :
    pathExprBySpans? template parameters = some (pathExpr template parameters) := by
  have htemplate := partText_of_splits (Placeholder.splits_parts template.toList)
  obtain ⟨final, hrun, harguments, hfinish⟩ :=
    run_parts parameters .start [] [] (Placeholder.parts template.toList) htemplate.symm rfl
  have hall : (Placeholder.all template).foldlM
      (PathProgress.step? parameters template.toList) .start = some final := hrun
  rw [pathExprBySpans?, hall, pathExpr]
  rcases hpieces : pathPieces parameters (Placeholder.parts template.toList) with ⟨text, arguments⟩
  rw [hpieces] at harguments hfinish
  cases arguments with
  | nil => simp [harguments, PathProgress.start]
  | cons argument arguments =>
    simp [harguments, hfinish, PathProgress.start, escapeBraces]

end Request
end ClientSynth
