import Mathlib.Data.List.Basic
import Mathlib.Tactic.Common

/-!
Owns circular storage: the list of cells met when walking `count` cells from
an index, wrapping at the capacity, and what a write or an advance of the
start does to it.

The storage is any function from indices to values; nothing here knows how the
owner of the ring represents its indices.
-/

namespace MicrochipDay.Library.RingStorage

variable {Value : Type*}

/-- The values met when walking `count` cells from `first` around a ring of
`capacity` cells. -/
def window (cell : Nat → Value) (capacity first count : Nat) : List Value :=
  (List.range count).map fun offset => cell ((first + offset) % capacity)

@[simp] theorem window_zero (cell : Nat → Value) (capacity first : Nat) :
    window cell capacity first 0 = [] := rfl

@[simp] theorem window_length (cell : Nat → Value) (capacity first count : Nat) :
    (window cell capacity first count).length = count := by
  simp [window]

theorem window_mod_first (cell : Nat → Value) (capacity first count : Nat) :
    window cell capacity (first % capacity) count = window cell capacity first count := by
  simp [window, Nat.mod_add_mod]

theorem window_succ_back (cell : Nat → Value) (capacity first count : Nat) :
    window cell capacity first (count + 1) =
      window cell capacity first count ++ [cell ((first + count) % capacity)] := by
  simp [window, List.range_succ]

theorem window_succ_front (cell : Nat → Value) (capacity first count : Nat) :
    window cell capacity first (count + 1) =
      cell (first % capacity) :: window cell capacity (first + 1) count := by
  simp only [window, List.range_succ_eq_map, List.map_cons, List.map_map, Nat.add_zero]
  congr 1
  apply List.map_congr_left
  intro offset _
  simp only [Function.comp_apply]
  congr 2
  omega

/-- A walk of at most `capacity` cells from index zero never wraps. -/
theorem window_from_zero (cell : Nat → Value) {capacity count : Nat} (small : count ≤ capacity) :
    window cell capacity 0 count = (List.range count).map cell := by
  apply List.map_congr_left
  intro offset member
  have below : offset < count := List.mem_range.mp member
  rw [Nat.zero_add, Nat.mod_eq_of_lt (by omega)]

/-- The cell after the last of fewer than `capacity` walked cells is none of
them. -/
theorem next_cell_ne {capacity first count offset : Nat} (room : count < capacity)
    (below : offset < count) : (first + offset) % capacity ≠ (first + count) % capacity := by
  intro same
  have difference : (first + count - (first + offset)) % capacity = 0 :=
    Nat.sub_mod_eq_zero_of_mod_eq same.symm
  rw [Nat.mod_eq_of_lt (by omega)] at difference
  omega

theorem window_congr {cell other : Nat → Value} {capacity first count : Nat}
    (same : ∀ offset < count, cell ((first + offset) % capacity) =
      other ((first + offset) % capacity)) :
    window cell capacity first count = window other capacity first count := by
  apply List.map_congr_left
  intro offset member
  exact same offset (List.mem_range.mp member)

theorem window_write_next {cell written : Nat → Value} {capacity first count : Nat} (value : Value)
    (room : count < capacity) (new : written ((first + count) % capacity) = value)
    (kept : ∀ index, index ≠ (first + count) % capacity → written index = cell index) :
    window written capacity first (count + 1) = window cell capacity first count ++ [value] := by
  have unchanged : window written capacity first count = window cell capacity first count :=
    window_congr fun offset below => kept _ (next_cell_ne room below)
  rw [window_succ_back, unchanged, new]

/-! ## Cells of a list -/

theorem getD_set_self {cells : List Value} {index : Nat} (inside : index < cells.length)
    (value rest : Value) : (cells.set index value).getD index rest = value := by
  rw [List.getD_eq_getElem?_getD, List.getElem?_set_self inside, Option.getD_some]

theorem getD_set_ne {index other : Nat} (elsewhere : other ≠ index) (cells : List Value)
    (value rest : Value) : (cells.set index value).getD other rest = cells.getD other rest := by
  rw [List.getD_eq_getElem?_getD, List.getElem?_set_ne elsewhere.symm,
    List.getD_eq_getElem?_getD]

end MicrochipDay.Library.RingStorage
