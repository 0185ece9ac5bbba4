import Mathlib.Data.List.Basic

/-!
Owns arrays that are written in place.
-/

namespace MicrochipDay.Library.Memory

variable {Item : Type*}

/-- The array when the items have been written over it from `offset` on. -/
def overwrite (array : List Item) (offset : Nat) (items : List Item) : List Item :=
  array.take offset ++ items ++ array.drop (offset + items.length)

variable {array items : List Item} {offset : Nat}

/-- An array keeps its size when nothing is written behind its end. -/
theorem length_overwrite (fits : offset + items.length ≤ array.length) :
    (overwrite array offset items).length = array.length := by
  rw [overwrite, List.length_append, List.length_append, List.length_take, List.length_drop]
  omega

theorem take_overwrite (inside : offset ≤ array.length) :
    (overwrite array offset items).take (offset + items.length) = array.take offset ++ items := by
  apply List.take_left'
  rw [List.length_append, List.length_take_of_le inside]

/-- Items written behind others. -/
theorem overwrite_append (inside : offset ≤ array.length) (more : List Item) :
    overwrite (overwrite array offset items) (offset + items.length) more =
      overwrite array offset (items ++ more) := by
  have skipped : (overwrite array offset items).drop (offset + items.length + more.length) =
      array.drop (offset + (items ++ more).length) := by
    have front : (array.take offset ++ items).length = offset + items.length := by
      rw [List.length_append, List.length_take_of_le inside]
    rw [overwrite, ← List.drop_drop, List.drop_left' front, List.drop_drop, List.length_append,
      Nat.add_assoc]
  rw [overwrite, take_overwrite inside, skipped, overwrite, List.append_assoc (array.take offset)]

/-- Items written over the end of an array. -/
theorem overwrite_tail (front : List Item) {tail : List Item} (same : items.length = tail.length) :
    overwrite (front ++ tail) front.length items = front ++ items := by
  rw [overwrite, List.take_left, ← List.drop_drop, List.drop_left, same, List.drop_length,
    List.append_nil]

end MicrochipDay.Library.Memory
