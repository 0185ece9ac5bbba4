import MicrochipDay.Library.RingStorage
import MicrochipDay.Library.BoundedFifo

/-!
Owns `struct umqtt_circ_buffer` and its operations `umqtt_circ_init`,
`umqtt_circ_push`, `umqtt_circ_peek` and `umqtt_circ_pop` (umqtt.c), and the proof
that a well-formed buffer is a bounded first-in first-out queue.

Pointers into the storage are indices: `pointer` is `buff->pointer -
buff->start`, so `bend`, the last cell, is index `length - 1`. The bytes handed
to a push are the `len` bytes at `data`; a pop returns the bytes it stored,
whose number is the C return value, and so does a peek. A negative `len` asks
for no bytes.
-/

namespace MicrochipDay.Umqtt

open MicrochipDay.Library

/-- `struct umqtt_circ_buffer`. -/
structure UmqttCircBuffer where
  start : List UInt8
  length : Nat
  pointer : Nat
  datalen : Nat
deriving DecidableEq, Repr

def umqttCircInit (buff : UmqttCircBuffer) : UmqttCircBuffer :=
  { buff with pointer := 0, datalen := 0 }

/-- The loop of `umqtt_circ_push`; `dend` is the index of the new byte. Returns
the number of bytes left over. -/
def umqttCircPushLoop (buff : UmqttCircBuffer) (dend : Nat) :
    List UInt8 → UmqttCircBuffer × Nat
  | [] => (buff, 0)
  | byte :: rest =>
      let dend := if dend > buff.length - 1 then 0 else dend
      if buff.datalen ≠ 0 ∧ dend = buff.pointer then
        (buff, rest.length + 1)
      else
        umqttCircPushLoop
          { buff with start := buff.start.set dend byte, datalen := buff.datalen + 1 }
          (dend + 1) rest

def umqttCircPush (buff : UmqttCircBuffer) (data : List UInt8) : UmqttCircBuffer × Nat :=
  umqttCircPushLoop buff ((buff.pointer + buff.datalen) % buff.length) data

/-- The loop of `umqtt_circ_peek`, with `ptr` an index into the storage and `i` the number
of cells read. A cell that is read behind the end of the storage has no value. -/
def umqttCircPeekLoop (buff : UmqttCircBuffer) (ptr i : Nat) : Nat → List (Option UInt8)
  | 0 => []
  | len + 1 =>
      if i < buff.datalen then
        let cell := buff.start[ptr + i]?
        let ptr := if ptr > buff.length - 1 then 0 else ptr
        cell :: umqttCircPeekLoop buff ptr (i + 1) len
      else []

def umqttCircPeek (buff : UmqttCircBuffer) (len : Int) : UmqttCircBuffer × List (Option UInt8) :=
  (buff, umqttCircPeekLoop buff buff.pointer 0 len.toNat)

def umqttCircPop (buff : UmqttCircBuffer) : Nat → UmqttCircBuffer × List UInt8
  | 0 => (buff, [])
  | len + 1 =>
      if buff.datalen > 0 then
        let byte := buff.start.getD buff.pointer 0
        let pointer := buff.pointer + 1
        let pointer := if pointer > buff.length - 1 then 0 else pointer
        let rest := umqttCircPop
          { buff with pointer := pointer, datalen := buff.datalen - 1 } len
        (rest.1, byte :: rest.2)
      else
        (buff, [])

namespace UmqttCircBuffer

/-! ## Representation invariant and contents -/

/-- A buffer whose storage has the declared size and whose read position and
fill count lie inside it. -/
structure Valid (buff : UmqttCircBuffer) : Prop where
  positive : 0 < buff.length
  storage : buff.start.length = buff.length
  inside : buff.pointer < buff.length
  filled : buff.datalen ≤ buff.length

def contents (buff : UmqttCircBuffer) : List UInt8 :=
  RingStorage.window (fun index => buff.start.getD index 0) buff.length buff.pointer buff.datalen

/-- A freshly initialised buffer: empty, with its read position at `start`. -/
def Fresh (buff : UmqttCircBuffer) : Prop := buff.pointer = 0 ∧ buff.datalen = 0

instance (buff : UmqttCircBuffer) : Decidable buff.Fresh := by
  unfold Fresh
  infer_instance

@[simp] theorem contents_length (buff : UmqttCircBuffer) :
    buff.contents.length = buff.datalen := by
  simp [contents]

theorem contents_eq_nil {buff : UmqttCircBuffer} (empty : buff.datalen = 0) :
    buff.contents = [] := by
  simp [contents, empty]

theorem contents_of_pointer_zero {buff : UmqttCircBuffer} (valid : buff.Valid)
    (atStart : buff.pointer = 0) : buff.contents = buff.start.take buff.datalen := by
  have small := valid.filled
  have size := valid.storage
  rw [contents, atStart, RingStorage.window_from_zero _ small]
  apply List.ext_getElem
  · simp only [List.length_map, List.length_range, List.length_take]
    omega
  · intro index below _
    have inRange : index < buff.datalen := by simpa using below
    simp only [List.getElem_map, List.getElem_range, List.getElem_take]
    rw [List.getD_eq_getElem?_getD, List.getElem?_eq_getElem (by omega), Option.getD_some]

/-- The queue that a well-formed buffer stands for. -/
def toFifo (buff : UmqttCircBuffer) (valid : buff.Valid) : BoundedFifo UInt8 where
  capacity := buff.length
  items := buff.contents
  bounded := by
    rw [contents_length]
    exact valid.filled

end UmqttCircBuffer

open UmqttCircBuffer

/-! ## Initialisation -/

@[simp] theorem umqttCircInit_length (buff : UmqttCircBuffer) :
    (umqttCircInit buff).length = buff.length := rfl

theorem umqttCircInit_fresh (buff : UmqttCircBuffer) : (umqttCircInit buff).Fresh := ⟨rfl, rfl⟩

theorem umqttCircInit_valid {buff : UmqttCircBuffer} (positive : 0 < buff.length)
    (storage : buff.start.length = buff.length) : (umqttCircInit buff).Valid where
  positive := positive
  storage := storage
  inside := positive
  filled := Nat.zero_le _

/-! ## Push -/

private def appendByte (buff : UmqttCircBuffer) (byte : UInt8) : UmqttCircBuffer :=
  { buff with
    start := buff.start.set ((buff.pointer + buff.datalen) % buff.length) byte
    datalen := buff.datalen + 1 }

private theorem appendByte_valid {buff : UmqttCircBuffer} (valid : buff.Valid) (byte : UInt8)
    (room : buff.datalen < buff.length) : (appendByte buff byte).Valid where
  positive := valid.positive
  storage := by
    have size := valid.storage
    simpa [appendByte] using size
  inside := valid.inside
  filled := room

private theorem appendByte_contents {buff : UmqttCircBuffer} (valid : buff.Valid) (byte : UInt8)
    (room : buff.datalen < buff.length) :
    (appendByte buff byte).contents = buff.contents ++ [byte] := by
  have inStorage : (buff.pointer + buff.datalen) % buff.length < buff.start.length := by
    rw [valid.storage]
    exact Nat.mod_lt _ valid.positive
  apply RingStorage.window_write_next byte room
  · exact RingStorage.getD_set_self inStorage byte 0
  · intro index elsewhere
    exact RingStorage.getD_set_ne elsewhere buff.start byte 0

/-- The wrap test of the push loop turns `dend` into the index of the next free
cell, and the stop test holds exactly when there is none. -/
private theorem push_position {buff : UmqttCircBuffer} (valid : buff.Valid) {dend : Nat}
    (small : dend ≤ buff.length)
    (position : dend % buff.length = (buff.pointer + buff.datalen) % buff.length) :
    (if dend > buff.length - 1 then 0 else dend) = (buff.pointer + buff.datalen) % buff.length := by
  have positive := valid.positive
  rw [← position]
  split
  · have atEnd : dend = buff.length := by omega
    rw [atEnd, Nat.mod_self]
  · rw [Nat.mod_eq_of_lt (by omega)]

private theorem push_stops_iff {buff : UmqttCircBuffer} (valid : buff.Valid) :
    (buff.datalen ≠ 0 ∧ (buff.pointer + buff.datalen) % buff.length = buff.pointer) ↔
      buff.datalen = buff.length := by
  have inside := valid.inside
  have filled := valid.filled
  constructor
  · rintro ⟨nonempty, same⟩
    by_cases wraps : buff.pointer + buff.datalen < buff.length
    · rw [Nat.mod_eq_of_lt wraps] at same
      omega
    · rw [Nat.mod_eq_sub_mod (by omega), Nat.mod_eq_of_lt (by omega)] at same
      omega
  · intro full
    refine ⟨by omega, ?_⟩
    rw [full, Nat.add_mod_right, Nat.mod_eq_of_lt inside]

private theorem umqttCircPushLoop_spec (data : List UInt8) :
    ∀ {buff : UmqttCircBuffer} (_ : buff.Valid) {dend : Nat} (_ : dend ≤ buff.length)
      (_ : dend % buff.length = (buff.pointer + buff.datalen) % buff.length),
      (umqttCircPushLoop buff dend data).1.Valid ∧
      (umqttCircPushLoop buff dend data).1.length = buff.length ∧
      (umqttCircPushLoop buff dend data).1.pointer = buff.pointer ∧
      (umqttCircPushLoop buff dend data).1.contents =
        buff.contents ++ data.take (buff.length - buff.datalen) ∧
      (umqttCircPushLoop buff dend data).2 = data.length - (buff.length - buff.datalen) := by
  induction data with
  | nil =>
      intro buff valid dend _ _
      simp [umqttCircPushLoop, valid]
  | cons byte rest inductionHypothesis =>
      intro buff valid dend small position
      have filled := valid.filled
      rw [umqttCircPushLoop]
      simp only [push_position valid small position, push_stops_iff valid]
      by_cases full : buff.datalen = buff.length
      · simp [full, valid]
      · have room : buff.datalen < buff.length := by omega
        have nextSmall : (buff.pointer + buff.datalen) % buff.length + 1 ≤ buff.length :=
          Nat.mod_lt _ valid.positive
        have nextPosition : ((buff.pointer + buff.datalen) % buff.length + 1) % buff.length =
            (buff.pointer + (buff.datalen + 1)) % buff.length := by
          rw [Nat.mod_add_mod, Nat.add_assoc]
        obtain ⟨stillValid, sameLength, samePointer, contents, left⟩ :=
          inductionHypothesis (appendByte_valid valid byte room) nextSmall nextPosition
        rw [if_neg full]
        show (umqttCircPushLoop (appendByte buff byte) _ rest).1.Valid ∧ _
        refine ⟨stillValid, sameLength, samePointer, ?_, ?_⟩
        · show (umqttCircPushLoop (appendByte buff byte) _ rest).1.contents = _
          have capacityStep :
      buff.length - buff.datalen = buff.length - (buff.datalen + 1) + 1 := by
            omega
          rw [contents, appendByte_contents valid byte room, capacityStep, List.take_succ_cons]
          simp [appendByte]
        · show (umqttCircPushLoop (appendByte buff byte) _ rest).2 = _
          rw [left]
          simp only [appendByte, List.length_cons]
          omega

section Push

variable {buff : UmqttCircBuffer} (valid : buff.Valid) (data : List UInt8)
include valid

theorem umqttCircPush_spec :
    (umqttCircPush buff data).1.Valid ∧
    (umqttCircPush buff data).1.length = buff.length ∧
    (umqttCircPush buff data).1.pointer = buff.pointer ∧
    (umqttCircPush buff data).1.contents =
      buff.contents ++ data.take (buff.length - buff.datalen) ∧
    (umqttCircPush buff data).2 = data.length - (buff.length - buff.datalen) :=
  umqttCircPushLoop_spec data valid (Nat.le_of_lt (Nat.mod_lt _ valid.positive))
    (Nat.mod_mod _ _)

theorem umqttCircPush_valid : (umqttCircPush buff data).1.Valid :=
  (umqttCircPush_spec valid data).1

theorem umqttCircPush_length : (umqttCircPush buff data).1.length = buff.length :=
  (umqttCircPush_spec valid data).2.1

theorem umqttCircPush_toFifo :
    (umqttCircPush buff data).1.toFifo (umqttCircPush_valid valid data) =
      (buff.toFifo valid).push data := by
  obtain ⟨_, sameLength, _, contents, _⟩ := umqttCircPush_spec valid data
  apply BoundedFifo.ext
  · exact sameLength
  · simpa [toFifo, BoundedFifo.push_items] using contents

theorem umqttCircPush_left :
    (umqttCircPush buff data).2 = (buff.toFifo valid).refused data := by
  obtain ⟨_, _, _, _, left⟩ := umqttCircPush_spec valid data
  simpa [toFifo, BoundedFifo.refused] using left

end Push

/-! ## Pop -/

private def dropByte (buff : UmqttCircBuffer) : UmqttCircBuffer :=
  { buff with
    pointer := if buff.pointer + 1 > buff.length - 1 then 0 else buff.pointer + 1
    datalen := buff.datalen - 1 }

private theorem dropByte_pointer {buff : UmqttCircBuffer} (valid : buff.Valid) :
    (dropByte buff).pointer = (buff.pointer + 1) % buff.length := by
  have inside := valid.inside
  simp only [dropByte]
  split
  · have atEnd : buff.pointer + 1 = buff.length := by omega
    rw [atEnd, Nat.mod_self]
  · rw [Nat.mod_eq_of_lt (by omega)]

private theorem dropByte_valid {buff : UmqttCircBuffer} (valid : buff.Valid) :
    (dropByte buff).Valid where
  positive := valid.positive
  storage := valid.storage
  inside := by
    rw [dropByte_pointer valid]
    exact Nat.mod_lt _ valid.positive
  filled := Nat.le_trans (Nat.sub_le _ _) valid.filled

private theorem contents_eq_cons {buff : UmqttCircBuffer} (valid : buff.Valid)
    (nonempty : buff.datalen > 0) :
    buff.contents = buff.start.getD buff.pointer 0 :: (dropByte buff).contents := by
  obtain ⟨count, some⟩ : ∃ count, buff.datalen = count + 1 := ⟨buff.datalen - 1, by omega⟩
  have rest : (dropByte buff).contents =
      RingStorage.window (fun index => buff.start.getD index 0) buff.length
        (buff.pointer + 1) count := by
    rw [contents, dropByte_pointer valid]
    show RingStorage.window _ buff.length ((buff.pointer + 1) % buff.length) _ = _
    rw [RingStorage.window_mod_first]
    simp [dropByte, some]
  rw [contents, some, RingStorage.window_succ_front, rest, Nat.mod_eq_of_lt valid.inside]

theorem umqttCircPop_spec (len : Nat) :
    ∀ {buff : UmqttCircBuffer} (_ : buff.Valid),
      (umqttCircPop buff len).1.Valid ∧
      (umqttCircPop buff len).1.length = buff.length ∧
      (umqttCircPop buff len).1.contents = buff.contents.drop len ∧
      (umqttCircPop buff len).2 = buff.contents.take len := by
  induction len with
  | zero =>
      intro buff valid
      simp [umqttCircPop, valid]
  | succ len inductionHypothesis =>
      intro buff valid
      rw [umqttCircPop]
      by_cases nonempty : buff.datalen > 0
      · obtain ⟨restValid, sameLength, restContents, restBytes⟩ :=
          inductionHypothesis (dropByte_valid valid)
        rw [if_pos nonempty, contents_eq_cons valid nonempty]
        exact ⟨restValid, sameLength, restContents, congrArg _ restBytes⟩
      · have empty : buff.datalen = 0 := by omega
        rw [if_neg nonempty, contents_eq_nil empty]
        exact ⟨valid, rfl, List.drop_nil.symm, rfl⟩

section Pop

variable {buff : UmqttCircBuffer} (valid : buff.Valid) (len : Nat)
include valid

theorem umqttCircPop_valid : (umqttCircPop buff len).1.Valid :=
  (umqttCircPop_spec len valid).1

theorem umqttCircPop_length : (umqttCircPop buff len).1.length = buff.length :=
  (umqttCircPop_spec len valid).2.1

theorem umqttCircPop_contents : (umqttCircPop buff len).1.contents = buff.contents.drop len :=
  (umqttCircPop_spec len valid).2.2.1

theorem umqttCircPop_bytes : (umqttCircPop buff len).2 = buff.contents.take len :=
  (umqttCircPop_spec len valid).2.2.2

theorem umqttCircPop_datalen : (umqttCircPop buff len).1.datalen = buff.datalen - len := by
  rw [← contents_length, umqttCircPop_contents valid len, List.length_drop, contents_length]

theorem umqttCircPop_toFifo :
    (umqttCircPop buff len).1.toFifo (umqttCircPop_valid valid len) =
        (buff.toFifo valid).pop len ∧
      (umqttCircPop buff len).2 = (buff.toFifo valid).front len :=
  ⟨BoundedFifo.ext (umqttCircPop_length valid len) (umqttCircPop_contents valid len),
    umqttCircPop_bytes valid len⟩

end Pop

/-! ## Peek -/

/-- The pointer is never moved, so the cells lie behind one another in memory. -/
theorem umqttCircPeekLoop_eq {buff : UmqttCircBuffer} (valid : buff.Valid) (len i : Nat) :
    umqttCircPeekLoop buff buff.pointer i len =
      (List.range (min len (buff.datalen - i))).map
        fun offset => buff.start[buff.pointer + (i + offset)]? := by
  induction len generalizing i with
  | zero => simp [umqttCircPeekLoop]
  | succ len inductionHypothesis =>
      have inside := valid.inside
      have notMoved : ¬buff.pointer > buff.length - 1 := by omega
      rw [umqttCircPeekLoop]
      by_cases more : i < buff.datalen
      · have remaining : min (len + 1) (buff.datalen - i) =
            min len (buff.datalen - (i + 1)) + 1 := by
          omega
        rw [if_pos more, if_neg notMoved, remaining, List.range_succ_eq_map, List.map_cons,
          List.map_map]
        show buff.start[buff.pointer + i]? :: umqttCircPeekLoop buff buff.pointer (i + 1) len = _
        rw [inductionHypothesis]
        congr 1
        apply List.map_congr_left
        intro offset _
        show _ = buff.start[buff.pointer + (i + (offset + 1))]?
        rw [Nat.add_assoc i 1, Nat.add_comm 1]
      · have none : buff.datalen - i = 0 := by omega
        rw [if_neg more, none, Nat.min_zero]
        rfl

theorem umqttCircPeek_cells {buff : UmqttCircBuffer} (valid : buff.Valid) (len : Int) :
    (umqttCircPeek buff len).2 =
      (List.range (min len.toNat buff.datalen)).map
        fun offset => buff.start[buff.pointer + offset]? := by
  rw [umqttCircPeek, umqttCircPeekLoop_eq valid]
  simp only [Nat.sub_zero, Nat.zero_add]

/-- A pop walks around the ring. -/
theorem umqttCircPop_cells {buff : UmqttCircBuffer} (valid : buff.Valid) (len : Nat) :
    (umqttCircPop buff len).2.map some =
      (List.range (min len buff.datalen)).map
        fun offset => buff.start[(buff.pointer + offset) % buff.length]? := by
  rw [umqttCircPop_bytes valid, contents, RingStorage.window, ← List.map_take, List.take_range,
    List.map_map]
  apply List.map_congr_left
  intro offset _
  have inStorage : (buff.pointer + offset) % buff.length < buff.start.length := by
    rw [valid.storage]
    exact Nat.mod_lt _ valid.positive
  rw [Function.comp_apply, List.getD_eq_getElem?_getD, List.getElem?_eq_getElem inStorage,
    Option.getD_some]

/-- A peek meets the cells of a pop as long as these do not wrap around. -/
theorem umqttCircPeek_eq_pop_iff {buff : UmqttCircBuffer} (valid : buff.Valid) (len : Int) :
    (umqttCircPeek buff len).2 = (umqttCircPop buff len.toNat).2.map some ↔
      buff.pointer + min len.toNat buff.datalen ≤ buff.length := by
  rw [umqttCircPeek_cells valid, umqttCircPop_cells valid]
  constructor
  · intro same
    by_contra wraps
    have inside := valid.inside
    have atEnd : buff.length - buff.pointer < min len.toNat buff.datalen := by omega
    have lengthEq : buff.pointer + (buff.length - buff.pointer) = buff.length := by omega
    have cell := List.map_inj_left.mp same (buff.length - buff.pointer)
      (List.mem_range.mpr atEnd)
    -- the first cell behind the storage, where the pop is back at the start
    rw [lengthEq, Nat.mod_self, List.getElem?_eq_none (Nat.le_of_eq valid.storage),
      List.getElem?_eq_getElem (valid.storage ▸ valid.positive)] at cell
    exact Option.some_ne_none _ cell.symm
  · intro straight
    apply List.map_congr_left
    intro offset member
    have below := List.mem_range.mp member
    rw [Nat.mod_eq_of_lt (by omega)]

end MicrochipDay.Umqtt
