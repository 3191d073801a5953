import Mathlib.Data.List.Basic

/-! # Computations that can fail

    A computation in several steps succeeds only if every step does, and how a
    failure is told does not matter for that. -/

namespace Worksheet

variable {ε ε' α β : Type}

/-- A computation in two steps succeeds only if both steps do. -/
theorem exists_of_bind_eq_ok {x : Except ε α} {f : α → Except ε β} {b : β}
    (h : x >>= f = .ok b) : ∃ a, x = .ok a ∧ f a = .ok b := by
  cases x with
  | error e => exact nomatch h
  | ok a => exact ⟨a, rfl, h⟩

theorem exists_ok_of_not_error {x : Except ε α} (h : ¬ ∃ e, x = .error e) : ∃ a, x = .ok a := by
  cases x with
  | error e => exact absurd ⟨e, rfl⟩ h
  | ok a => exact ⟨a, rfl⟩

theorem mapError_eq_ok_iff {x : Except ε α} {f : ε → ε'} {a : α} :
    x.mapError f = .ok a ↔ x = .ok a := by
  cases x <;> simp [Except.mapError]

end Worksheet
