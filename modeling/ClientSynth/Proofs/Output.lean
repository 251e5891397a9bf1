import Mathlib.Data.String.Basic
import ClientSynth.Output

/-! # Accepting files

A file is accepted exactly if its name is free, and then the output holds it
beside what was there.  Where it is put depends on its name alone, so the order in
which files of different names are accepted does not matter. -/
namespace ClientSynth
namespace Output

variable {o : Output} {u v : GeneratedUnit} {fileName : String}

/-- The output with one more file at its place. -/
def adding (o : Output) (u : GeneratedUnit) : Output := ⟨insert u o.units⟩

/-- Why a file is refused. -/
def refusal (u : GeneratedUnit) : Failure :=
  .generation u.name (u.fileName ++ " is already emitted")

theorem contains_iff : o.contains fileName = true ↔
    fileName ∈ o.units.map GeneratedUnit.fileName := by
  simp [contains]

theorem emit_free (h : o.contains u.fileName = false) : o.emit u = .ok (o.adding u) := by
  rw [emit, if_neg (Bool.eq_false_iff.mp h)]
  rfl

theorem emit_taken (h : o.contains u.fileName = true) : o.emit u = .error (refusal u) := by
  rw [emit, if_pos h]
  rfl

theorem insert_perm (u : GeneratedUnit) (units : List GeneratedUnit) :
    (insert u units).Perm (u :: units) := by
  induction units with
  | nil => exact .refl _
  | cons v rest ih =>
      unfold insert
      split
      · exact .refl _
      · exact (ih.cons v).trans (.swap u v rest)

theorem adding_perm (o : Output) (u : GeneratedUnit) : (o.adding u).units.Perm (u :: o.units) :=
  insert_perm u o.units

theorem contains_adding : (o.adding u).contains fileName = true ↔
    fileName = u.fileName ∨ o.contains fileName = true := by
  rw [contains_iff, contains_iff, (o.adding_perm u).map _ |>.mem_iff, List.map_cons, List.mem_cons]

/-- Another file does not change whether a name is free. -/
theorem contains_adding_ne (h : fileName ≠ u.fileName) :
    (o.adding u).contains fileName = o.contains fileName := by
  rw [Bool.eq_iff_iff, contains_adding, or_iff_right h]

theorem insert_comm (h : u.fileName < v.fileName) (units : List GeneratedUnit) :
    insert u (insert v units) = insert v (insert u units) := by
  have hvu : ¬ v.fileName < u.fileName := h.not_gt
  induction units with
  | nil => simp only [insert, if_pos h, if_neg hvu]
  | cons w rest ih =>
      by_cases hvw : v.fileName < w.fileName
      · have huw : u.fileName < w.fileName := h.trans hvw
        simp only [insert, if_pos hvw, if_pos huw, if_pos h, if_neg hvu]
      · by_cases huw : u.fileName < w.fileName
        · simp only [insert, if_neg hvw, if_pos huw, if_neg hvu]
        · simp only [insert, if_neg hvw, if_neg huw, ih]

/-- **Files of different names may be accepted in either order.** -/
theorem adding_comm (h : u.fileName ≠ v.fileName) (o : Output) :
    (o.adding u).adding v = (o.adding v).adding u := by
  rcases lt_or_gt_of_ne h with hlt | hgt
  · exact congrArg Output.mk (insert_comm hlt o.units).symm
  · exact congrArg Output.mk (insert_comm hgt o.units)

end Output
end ClientSynth
