import Mathlib.Data.List.Basic
import Mathlib.Tactic.Common

/-!
Owns the bounded first-in first-out queue: a queue never holds more than its
capacity, a push takes the longest prefix that fits and reports how much it
refused, a pop takes from the front.

This is the specification that a ring buffer is measured against, call by call
and over whole histories of calls.
-/

namespace MicrochipDay.Library

/-- A queue of at most `capacity` items, oldest first. -/
structure BoundedFifo (Item : Type*) where
  capacity : Nat
  items : List Item
  bounded : items.length ≤ capacity

namespace BoundedFifo

variable {Item : Type*}

@[ext] theorem ext {left right : BoundedFifo Item} (capacities : left.capacity = right.capacity)
    (contents : left.items = right.items) : left = right := by
  cases left
  cases right
  simp_all

def accepted (queue : BoundedFifo Item) (data : List Item) : List Item :=
  data.take (queue.capacity - queue.items.length)

def push (queue : BoundedFifo Item) (data : List Item) : BoundedFifo Item where
  capacity := queue.capacity
  items := queue.items ++ queue.accepted data
  bounded := by
    have fits := queue.bounded
    simp only [accepted, List.length_append, List.length_take]
    omega

def refused (queue : BoundedFifo Item) (data : List Item) : Nat :=
  data.length - (queue.capacity - queue.items.length)

def front (queue : BoundedFifo Item) (count : Nat) : List Item := queue.items.take count

def pop (queue : BoundedFifo Item) (count : Nat) : BoundedFifo Item where
  capacity := queue.capacity
  items := queue.items.drop count
  bounded := by
    have fits := queue.bounded
    simp only [List.length_drop]
    omega

@[simp] theorem push_capacity (queue : BoundedFifo Item) (data : List Item) :
    (queue.push data).capacity = queue.capacity := rfl

theorem push_items (queue : BoundedFifo Item) (data : List Item) :
    (queue.push data).items = queue.items ++ data.take (queue.capacity - queue.items.length) := rfl

/-! ## Histories -/

def empty (capacity : Nat) : BoundedFifo Item where
  capacity := capacity
  items := []
  bounded := Nat.zero_le capacity

inductive Call (Item : Type*) where
  | clear
  | push (data : List Item)
  | pop (count : Nat)
deriving DecidableEq, Repr

/-- What a call returns: a push the number of items left over, a pop the items. -/
inductive Reply (Item : Type*) where
  | cleared
  | left (count : Nat)
  | popped (items : List Item)
deriving DecidableEq, Repr

def call (queue : BoundedFifo Item) : Call Item → BoundedFifo Item × Reply Item
  | .clear => (empty queue.capacity, .cleared)
  | .push data => (queue.push data, .left (queue.refused data))
  | .pop count => (queue.pop count, .popped (queue.front count))

/-- The calls of a history, made on a component with the step function `step`: its last
state and the replies. -/
def history {State : Type*} (step : State → Call Item → State × Reply Item) (state : State) :
    List (Call Item) → State × List (Reply Item)
  | [] => (state, [])
  | call :: calls =>
      let next := step state call
      let rest := history step next.1 calls
      (rest.1, next.2 :: rest.2)

@[simp] theorem call_capacity (queue : BoundedFifo Item) (call : Call Item) :
    (queue.call call).1.capacity = queue.capacity := by
  cases call <;> rfl

theorem history_capacity (queue : BoundedFifo Item) (calls : List (Call Item)) :
    (history BoundedFifo.call queue calls).1.capacity = queue.capacity := by
  induction calls generalizing queue with
  | nil => rfl
  | cons call calls inductionHypothesis =>
      rw [history]
      exact (inductionHypothesis _).trans (call_capacity queue call)

/-- A component that stands for a queue, and does so after each of its calls with the
queue's reply, cannot be told from the queue by any history. -/
theorem history_refines {State : Type*} {step : State → Call Item → State × Reply Item}
    {StandsFor : State → BoundedFifo Item → Prop}
    (simulates : ∀ {state queue}, StandsFor state queue → ∀ call : Call Item,
      StandsFor (step state call).1 (queue.call call).1 ∧
        (step state call).2 = (queue.call call).2)
    (calls : List (Call Item)) {state : State} {queue : BoundedFifo Item}
    (standsFor : StandsFor state queue) :
    StandsFor (history step state calls).1 (history BoundedFifo.call queue calls).1 ∧
      (history step state calls).2 = (history BoundedFifo.call queue calls).2 := by
  induction calls generalizing state queue with
  | nil => exact ⟨standsFor, rfl⟩
  | cons call calls inductionHypothesis =>
      have next := simulates standsFor call
      have rest := inductionHypothesis next.1
      rw [history, history]
      exact ⟨rest.1, congrArg₂ List.cons next.2 rest.2⟩

end BoundedFifo

end MicrochipDay.Library
