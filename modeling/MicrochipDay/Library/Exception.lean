import Mathlib.Init

/-!
Owns computations that may raise an exception.
-/

namespace MicrochipDay.Library.Exception

variable {Raised First Second : Type}

/-- A computation in two steps returns when both of them return. -/
theorem bind_eq_ok {first : Except Raised First} {next : First → Except Raised Second}
    {result : Second} :
    (first >>= next) = .ok result ↔ ∃ value, first = .ok value ∧ next value = .ok result := by
  cases first with
  | error raised =>
      constructor
      · intro returned
        contradiction
      · rintro ⟨value, returned, _⟩
        contradiction
  | ok value =>
      constructor
      · intro returned
        exact ⟨value, rfl, returned⟩
      · rintro ⟨other, same, returned⟩
        rw [Except.ok.inj same]
        exact returned

theorem map_eq_ok {first : Except Raised First} {change : First → Second} {result : Second} :
    first.map change = .ok result ↔ ∃ value, first = .ok value ∧ change value = result := by
  cases first with
  | error raised =>
      constructor
      · intro returned
        contradiction
      · rintro ⟨value, returned, _⟩
        contradiction
  | ok value =>
      constructor
      · intro returned
        exact ⟨value, rfl, Except.ok.inj returned⟩
      · rintro ⟨other, same, changed⟩
        rw [Except.ok.inj same, ← changed]
        rfl

end MicrochipDay.Library.Exception
