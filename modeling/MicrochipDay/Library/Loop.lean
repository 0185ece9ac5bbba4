import Mathlib.Order.Basic

/-!
Owns loops that are left from inside their body: what such a loop returns within
a number of rounds, and the rule for total correctness.

The rule takes an invariant that carries a weight. A loop with the invariant
returns the same result for every number of rounds above the weight.
-/

namespace MicrochipDay.Library.Loop

variable {State Result : Type*}

/-- One round leaves the loop with a result or goes on with a new state; `none`
when the rounds are used up. -/
def loop (body : State → Result ⊕ State) : Nat → State → Option Result
  | 0, _ => none
  | rounds + 1, state =>
      match body state with
      | .inl result => some result
      | .inr next => loop body rounds next

variable {body : State → Result ⊕ State}

theorem loop_of_left {state : State} {result : Result} (left : body state = .inl result)
    (rounds : Nat) : loop body (rounds + 1) state = some result := by
  rw [loop, left]

theorem loop_of_next {state next : State} (goesOn : body state = .inr next) (rounds : Nat) :
    loop body (rounds + 1) state = loop body rounds next := by
  rw [loop, goesOn]

/-- A loop that returns has the same result for more rounds. -/
theorem loop_mono {rounds more : Nat} {state : State} {result : Result}
    (returned : loop body rounds state = some result) (atMost : rounds ≤ more) :
    loop body more state = some result := by
  induction rounds generalizing state more with
  | zero => cases returned
  | succ rounds inductionHypothesis =>
      obtain ⟨more, rfl⟩ : ∃ fewer, more = fewer + 1 := ⟨more - 1, by omega⟩
      cases goesOn : body state with
      | inl left =>
          rw [loop_of_left goesOn] at returned ⊢
          exact returned
      | inr next =>
          rw [loop_of_next goesOn] at returned ⊢
          exact inductionHypothesis returned (by omega)

/-- The rule for total correctness: every round leaves the loop with a good
result, or keeps the invariant at a smaller weight. -/
theorem loop_ends (Holds : Nat → State → Prop) (Ends : Result → Prop)
    (round : ∀ weight state, Holds weight state →
      (∃ result, body state = .inl result ∧ Ends result) ∨
        ∃ next smaller, body state = .inr next ∧ smaller < weight ∧ Holds smaller next)
    {weight : Nat} {state : State} (holds : Holds weight state) :
    ∃ result, Ends result ∧ ∀ rounds, weight < rounds → loop body rounds state = some result := by
  induction weight using Nat.strongRecOn generalizing state with
  | ind weight inductionHypothesis =>
      rcases round weight state holds with
        ⟨result, left, ends⟩ | ⟨next, smaller, goesOn, less, kept⟩
      · refine ⟨result, ends, ?_⟩
        intro rounds enough
        cases rounds with
        | zero => exact absurd enough (Nat.not_lt_zero weight)
        | succ rounds => exact loop_of_left left rounds
      · obtain ⟨result, ends, returned⟩ := inductionHypothesis smaller less kept
        refine ⟨result, ends, ?_⟩
        intro rounds enough
        cases rounds with
        | zero => exact absurd enough (Nat.not_lt_zero weight)
        | succ rounds =>
            rw [loop_of_next goesOn]
            exact returned rounds (by omega)

end MicrochipDay.Library.Loop
