import Mathlib.Data.List.Basic
import Mathlib.Data.Nat.Init

/-!
Owns data cut into blocks of a fixed size, the last one filled up: how the blocks of
joined data are found, and where the last item of the data lies.
-/

namespace MicrochipDay.Library.Blocks

variable {Item : Type*}

def filled (size : Nat) (fill : Item) (block : List Item) : List Item :=
  block ++ List.replicate (size - block.length) fill

/-- The blocks of the data, in order. -/
def blocks (size : Nat) (fill : Item) (data : List Item) : List (List Item) :=
  (List.range ((data.length + size - 1) / size)).map fun index =>
    filled size fill ((data.drop (index * size)).take size)

variable {size : Nat} (positive : 0 < size) (fill : Item)

include positive in
theorem blocks_nil : blocks size fill [] = [] := by
  have none : (0 + size - 1) / size = 0 := Nat.div_eq_of_lt (by omega)
  unfold blocks
  rw [List.length_nil, none]
  rfl

omit positive in
/-- Data that fits into one block. -/
theorem blocks_of_short {data : List Item} (nonempty : data ≠ []) (short : data.length ≤ size) :
    blocks size fill data = [filled size fill data] := by
  have some := List.length_pos_iff.mpr nonempty
  have one : (data.length + size - 1) / size = 1 :=
    Nat.div_eq_of_lt_le (by omega) (by omega)
  unfold blocks
  rw [one]
  show [filled size fill ((data.drop (0 * size)).take size)] = _
  rw [Nat.zero_mul, List.drop_zero, List.take_of_length_le short]

include positive in
/-- A whole block of data is its first block. -/
theorem blocks_append {front : List Item} (whole : front.length = size) (back : List Item) :
    blocks size fill (front ++ back) = front :: blocks size fill back := by
  have count : ((front ++ back).length + size - 1) / size =
      (back.length + size - 1) / size + 1 := by
    have sum : (front ++ back).length + size - 1 = back.length + size - 1 + size := by
      rw [List.length_append]
      omega
    rw [sum, Nat.add_div_right _ positive]
  have head : (front ++ back).take size = front := List.take_left' whole
  unfold blocks
  rw [count, List.range_succ_eq_map, List.map_cons, List.map_map]
  congr 1
  · rw [Nat.zero_mul, List.drop_zero, head, filled, whole, Nat.sub_self, List.replicate_zero,
      List.append_nil]
  · apply List.map_congr_left
    intro index _
    have skip : (front ++ back).drop ((index + 1) * size) = back.drop (index * size) := by
      rw [Nat.succ_mul, Nat.add_comm, ← List.drop_drop, List.drop_left' whole]
    show filled size fill (((front ++ back).drop ((index + 1) * size)).take size) = _
    rw [skip]

include positive in
/-- Whole blocks of data are its first blocks. -/
theorem blocks_append_whole (front : List Item) (whole : size ∣ front.length) (back : List Item) :
    blocks size fill (front ++ back) = blocks size fill front ++ blocks size fill back := by
  obtain ⟨count, length⟩ := whole
  induction count generalizing front with
  | zero =>
      have none : front = [] := List.eq_nil_of_length_eq_zero length
      rw [none, blocks_nil positive]
      rfl
  | succ count inductionHypothesis =>
      rw [Nat.mul_succ] at length
      have first : (front.take size).length = size := List.length_take_of_le (by omega)
      have shorter : (front.drop size).length = size * count := by
        rw [List.length_drop]
        omega
      have split := List.take_append_drop size front
      rw [← split, List.append_assoc, blocks_append positive fill first,
        blocks_append positive fill first, inductionHypothesis _ shorter]
      rfl

omit positive in
theorem filled_length {block : List Item} (fits : block.length ≤ size) :
    (filled size fill block).length = size := by
  rw [filled, List.length_append, List.length_replicate]
  omega

omit positive in
theorem length_of_mem_blocks {data block : List Item} (inside : block ∈ blocks size fill data) :
    block.length = size := by
  obtain ⟨index, -, rfl⟩ := List.mem_map.mp inside
  exact filled_length fill (List.length_take_le size _)

include positive in
/-- The first block of any data. -/
theorem blocks_of_ne_nil {data : List Item} (nonempty : data ≠ []) :
    blocks size fill data =
      filled size fill (data.take size) :: blocks size fill (data.drop size) := by
  by_cases short : data.length ≤ size
  · rw [blocks_of_short fill nonempty short, List.take_of_length_le short,
      List.drop_eq_nil_of_le short, blocks_nil positive]
  · have whole : (data.take size).length = size := List.length_take_of_le (by omega)
    have first : filled size fill (data.take size) = data.take size := by
      rw [filled, whole, Nat.sub_self, List.replicate_zero, List.append_nil]
    have split := blocks_append positive fill whole (data.drop size)
    rwa [List.take_append_drop, ← first] at split

include positive in
/-- The last item of the data lies in the last block, with nothing but filling behind it;
the blocks before it are whole. -/
theorem blocks_concat (data : List Item) (last : Item) :
    ∃ (front : List (List Item)) (block : List Item) (filling : Nat),
      blocks size fill (data ++ [last]) =
        front ++ [block ++ last :: List.replicate filling fill] ∧
      front.flatten ++ block = data ∧ ∀ whole ∈ front, whole.length = size := by
  induction count : data.length using Nat.strongRecOn generalizing data with
  | ind length inductionHypothesis =>
      by_cases short : data.length < size
      · have fits : (data ++ [last]).length ≤ size := by
          rw [List.length_append, List.length_singleton]
          omega
        refine ⟨[], data, size - (data ++ [last]).length, ?_, rfl,
          fun _ inside => absurd inside List.not_mem_nil⟩
        rw [blocks_of_short fill (by simp) fits, filled, List.append_assoc]
        rfl
      · have whole : (data.take size).length = size := List.length_take_of_le (by omega)
        have shorter : (data.drop size).length < length := by
          rw [List.length_drop]
          omega
        obtain ⟨front, block, filling, found, joined, sizes⟩ :=
          inductionHypothesis _ shorter (data.drop size) rfl
        refine ⟨data.take size :: front, block, filling, ?_, ?_,
          List.forall_mem_cons.mpr ⟨whole, sizes⟩⟩
        · have split : data ++ [last] = data.take size ++ (data.drop size ++ [last]) := by
            rw [← List.append_assoc, List.take_append_drop]
          rw [split, blocks_append positive fill whole, found]
          rfl
        · rw [List.flatten_cons, List.append_assoc, joined, List.take_append_drop]

end MicrochipDay.Library.Blocks
