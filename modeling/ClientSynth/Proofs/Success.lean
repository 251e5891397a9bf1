import ClientSynth.Annotation

/-! # Computations that succeed

A computation that may fail is taken apart from its result: a chain has a value
exactly if each of its links has one, and rewording a failure leaves the
successes as they are. -/
namespace ClientSynth
namespace Success

variable {Failure Other α β : Type}

/-- A chain succeeds exactly if both of its links do. -/
theorem bind_eq_ok {first : Except Failure α} {next : α → Except Failure β} {b : β} :
    (first >>= next) = .ok b ↔ ∃ a, first = .ok a ∧ next a = .ok b := by
  cases first <;> simp [bind, Except.bind]

theorem map_eq_ok {first : Except Failure α} {f : α → β} {b : β} :
    first.map f = .ok b ↔ ∃ a, first = .ok a ∧ f a = b := by
  cases first <;> simp [Except.map]

theorem reworded_eq_ok {first : Except Failure α} {wording : Failure → Other} {a : α} :
    first.mapError wording = .ok a ↔ first = .ok a := by
  cases first with
  | error failure => constructor <;> intro h <;> cases h
  | ok value =>
    constructor <;> intro h
    · exact congrArg Except.ok (Except.ok.inj h)
    · exact congrArg Except.ok (Except.ok.inj h)

theorem pure_eq_ok {a b : α} : (pure a : Except Failure α) = .ok b ↔ a = b := by
  simp [pure, Except.pure]

theorem throw_ne_ok {failure : Failure} {b : β} : (throw failure : Except Failure β) ≠ .ok b := by
  intro h
  cases h

end Success
end ClientSynth
