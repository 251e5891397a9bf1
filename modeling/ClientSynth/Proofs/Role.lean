import ClientSynth.Contract.Classification
import ClientSynth.Proofs.Success

/-! # Roles and types

The role of a parameter is chosen from its annotations, but not without regard
to its type.  `Role.Fits` says what a role promises about the type it was chosen
for; every role that `Role.classify` chooses keeps that promise. -/
namespace ClientSynth
namespace Contract

open Success

/-- What a role promises about the type of its parameter. -/
def Role.Fits (type : DeclaredType) : Role → Prop
  | .cancellation => type.family = .cancellation
  | .query b =>
    type.family ≠ .cancellation ∧ type.family ≠ .sequence ∧ b.shape = shapeOf type.family
  | .arrayQuery _ _ => type.family = .sequence
  | _ => type.family ≠ .cancellation

variable {a : Annotation} {p : Declaration.Parameter} {type : DeclaredType} {role : Role}

theorem isSequence_iff : type.isSequence = true ↔ type.family = .sequence := by
  simp [DeclaredType.isSequence]

theorem queryRole_fits (hfamily : type.family ≠ .cancellation)
    (h : queryRole a p type = .ok role) : role.Fits type := by
  simp only [queryRole, bind_eq_ok] at h
  obtain ⟨name, -, h⟩ := h
  split at h
  · rename_i hsequence
    cases pure_eq_ok.mp h
    exact isSequence_iff.mp hsequence
  · rename_i hsingle
    obtain ⟨format, -, h⟩ := bind_eq_ok.mp h
    cases pure_eq_ok.mp h
    exact ⟨hfamily, fun hs => hsingle (isSequence_iff.mpr hs), rfl⟩

theorem arrayQueryRole_fits (h : arrayQueryRole a p type = .ok role) : role.Fits type := by
  unfold arrayQueryRole at h
  split at h
  · exact absurd h throw_ne_ok
  · rename_i hsequence
    simp only [bind_eq_ok] at h
    obtain ⟨name, -, separator, -, h⟩ := h
    cases pure_eq_ok.mp h
    exact isSequence_iff.mp (by simpa using hsequence)

theorem bodyRole_fits (hfamily : type.family ≠ .cancellation) (h : bodyRole a = .ok role) :
    role.Fits type := by
  simp only [bodyRole, bind_eq_ok] at h
  obtain ⟨contentType, -, asText, -, h⟩ := h
  cases pure_eq_ok.mp h
  exact hfamily

theorem singleRole_fits (hfamily : type.family ≠ .cancellation)
    (h : singleRole a p type = .ok role) : role.Fits type := by
  unfold singleRole at h
  repeat' split at h
  · obtain ⟨format, -, rfl⟩ := map_eq_ok.mp h
    exact hfamily
  · exact queryRole_fits hfamily h
  · exact arrayQueryRole_fits h
  · obtain ⟨name, -, rfl⟩ := map_eq_ok.mp h
    exact hfamily
  · exact bodyRole_fits hfamily h
  · cases h

theorem tokenRole_fits {header : Option Annotation} (hfamily : type.family ≠ .cancellation)
    (h : tokenRole a header p = .ok role) : role.Fits type := by
  simp only [tokenRole, bind_eq_ok] at h
  obtain ⟨scope, -, h⟩ := h
  split at h
  · cases pure_eq_ok.mp h
    exact hfamily
  · obtain ⟨name, -, h⟩ := bind_eq_ok.mp h
    cases pure_eq_ok.mp h
    exact hfamily

/-- **The chosen role fits the type**, whatever the annotations are. -/
theorem classify_fits (h : Role.classify p type = .ok role) : role.Fits type := by
  unfold Role.classify at h
  split at h
  · rename_i hfamily
    cases h
    exact hfamily
  · rename_i hfamily
    dsimp only at h
    split at h
    · split at h
      · exact tokenRole_fits hfamily h
      · cases h
    · split at h
      · cases h
        exact hfamily
      · exact singleRole_fits hfamily h
      · cases h

end Contract
end ClientSynth
