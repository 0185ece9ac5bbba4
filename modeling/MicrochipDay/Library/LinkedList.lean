import Mathlib.Data.Fintype.Card
import Mathlib.Data.List.Nodup
import Mathlib.Logic.Function.Basic

/-!
Owns linked lists threaded through a link function: what it means that a head
leads through certain cells to the null pointer, and what the usual writes do
to such a list (a link of a foreign cell, a cell put in front, a cell linked in
behind another one, a cell unlinked).

Nothing here knows what a cell stores. Two lists may share one link function.
-/

namespace MicrochipDay.Library.LinkedList

variable {Cell : Type*} {next : Cell → Option Cell} {head : Option Cell}

/-- From `head` the links lead through exactly these cells, in this order, to
the null pointer. -/
def Linked (next : Cell → Option Cell) : Option Cell → List Cell → Prop
  | head, [] => head = none
  | head, cell :: rest => head = some cell ∧ Linked next (next cell) rest

@[simp] theorem linked_nil : Linked next head [] ↔ head = none := Iff.rfl

@[simp] theorem linked_cons {cell : Cell} {rest : List Cell} :
    Linked next head (cell :: rest) ↔ head = some cell ∧ Linked next (next cell) rest := Iff.rfl

namespace Linked

/-! ## Reading a list -/

theorem head_eq {cells : List Cell} (linked : Linked next head cells) : head = cells.head? := by
  cases cells with
  | nil => exact linked
  | cons cell rest => exact linked.1

theorem behind {front back : List Cell} {cell : Cell}
    (linked : Linked next head (front ++ cell :: back)) : Linked next (next cell) back := by
  induction front generalizing head with
  | nil => exact linked.2
  | cons first front inductionHypothesis => exact inductionHypothesis linked.2

theorem unique {left right : List Cell} (linkedLeft : Linked next head left)
    (linkedRight : Linked next head right) : left = right := by
  induction left generalizing head right with
  | nil =>
      cases right with
      | nil => rfl
      | cons cell rest => exact absurd (linkedLeft.symm.trans linkedRight.1) (by simp)
  | cons cell rest inductionHypothesis =>
      cases right with
      | nil => exact absurd (linkedRight.symm.trans linkedLeft.1) (by simp)
      | cons other rest' =>
          have same : cell = other := Option.some.inj (linkedLeft.1.symm.trans linkedRight.1)
          subst same
          rw [inductionHypothesis linkedLeft.2 linkedRight.2]

/-- A cell that came twice would be followed by two lists of different length. -/
theorem nodup {cells : List Cell} (linked : Linked next head cells) : cells.Nodup := by
  induction cells generalizing head with
  | nil => exact List.nodup_nil
  | cons cell rest inductionHypothesis =>
      refine List.nodup_cons.mpr ⟨?_, inductionHypothesis linked.2⟩
      intro member
      obtain ⟨front, back, split⟩ := List.append_of_mem member
      have repeated : Linked next (next cell) back := by
        have rest_linked := linked.2
        rw [split] at rest_linked
        exact rest_linked.behind
      have lengths := congrArg List.length (linked.2.unique repeated)
      rw [split, List.length_append, List.length_cons] at lengths
      omega

theorem length_le [Fintype Cell] {cells : List Cell} (linked : Linked next head cells) :
    cells.length ≤ Fintype.card Cell :=
  linked.nodup.length_le_card

/-! ## Writing links -/

variable [DecidableEq Cell]

/-- The link of a cell that is not in the list may change. -/
theorem update_of_notMem {cells : List Cell} {cell : Cell} (link : Option Cell)
    (linked : Linked next head cells) (foreign : cell ∉ cells) :
    Linked (Function.update next cell link) head cells := by
  induction cells generalizing head with
  | nil => exact linked
  | cons first rest inductionHypothesis =>
      have notFirst : first ≠ cell := fun same => foreign (same ▸ List.mem_cons_self)
      refine ⟨linked.1, ?_⟩
      rw [Function.update_of_ne notFirst]
      exact inductionHypothesis linked.2 fun member => foreign (List.mem_cons_of_mem first member)

theorem push {cells : List Cell} {cell : Cell} (linked : Linked next head cells)
    (fresh : cell ∉ cells) :
    Linked (Function.update next cell head) (some cell) (cell :: cells) := by
  refine ⟨rfl, ?_⟩
  rw [Function.update_self]
  exact linked.update_of_notMem head fresh

theorem insertAfter {front back : List Cell} {point cell : Cell}
    (linked : Linked next head (front ++ point :: back)) (fresh : cell ∉ front ++ point :: back) :
    Linked (Function.update (Function.update next cell (next point)) point (some cell)) head
      (front ++ point :: cell :: back) := by
  induction front generalizing head with
  | nil =>
      have different : cell ≠ point := fun same => fresh (by simp [same])
      have pointFresh : point ∉ back := (List.nodup_cons.mp linked.nodup).1
      refine ⟨linked.1, ?_⟩
      rw [Function.update_self]
      refine ⟨rfl, ?_⟩
      rw [Function.update_of_ne different, Function.update_self]
      apply update_of_notMem _ _ pointFresh
      exact linked.2.update_of_notMem _ fun member => fresh (by simp [member])
  | cons first front inductionHypothesis =>
      have notCell : first ≠ cell := fun same => fresh (by simp [same])
      have notPoint : first ≠ point := by
        intro same
        exact (List.nodup_cons.mp linked.nodup).1 (by simp [same])
      refine ⟨linked.1, ?_⟩
      rw [Function.update_of_ne notPoint, Function.update_of_ne notCell]
      exact inductionHypothesis linked.2 fun member => fresh (List.mem_cons_of_mem first member)

/-- At the end of a list there is nothing to link to. -/
theorem append {front : List Cell} {last cell : Cell}
    (linked : Linked next head (front ++ [last])) (fresh : cell ∉ front ++ [last]) :
    Linked (Function.update (Function.update next cell none) last (some cell)) head
      (front ++ [last, cell]) := by
  have ends : next last = none := linked.behind
  have inserted := linked.insertAfter fresh
  rw [ends] at inserted
  exact inserted

theorem unlink {front back : List Cell} {point cell : Cell}
    (linked : Linked next head (front ++ point :: cell :: back)) :
    Linked (Function.update next point (next cell)) head (front ++ point :: back) := by
  induction front generalizing head with
  | nil =>
      have pointFresh : point ∉ back := by
        intro member
        exact (List.nodup_cons.mp linked.nodup).1 (List.mem_cons_of_mem cell member)
      refine ⟨linked.1, ?_⟩
      rw [Function.update_self]
      exact linked.2.2.update_of_notMem _ pointFresh
  | cons first front inductionHypothesis =>
      have notPoint : first ≠ point := by
        intro same
        exact (List.nodup_cons.mp linked.nodup).1 (by simp [same])
      refine ⟨linked.1, ?_⟩
      rw [Function.update_of_ne notPoint]
      exact inductionHypothesis linked.2

end Linked

end MicrochipDay.Library.LinkedList
