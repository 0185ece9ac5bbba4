import MicrochipDay.Umqtt.CircBuffer

/-!
Owns what holds of a ring buffer of umqtt.c over all its calls: no history of
`umqtt_circ_init`, `umqtt_circ_push` and `umqtt_circ_pop` tells it from a bounded queue,
and `umqtt_circ_peek` agrees with `umqtt_circ_pop` in the states in which what is asked
for does not wrap around.
-/

namespace MicrochipDay.Umqtt

open MicrochipDay.Library
open UmqttCircBuffer

/-- One call with its C return value; that of a pop is the number of the bytes. -/
def umqttCircCall (buff : UmqttCircBuffer) :
    BoundedFifo.Call UInt8 → UmqttCircBuffer × BoundedFifo.Reply UInt8
  | .clear => (umqttCircInit buff, .cleared)
  | .push data =>
      let pushed := umqttCircPush buff data
      (pushed.1, .left pushed.2)
  | .pop len =>
      let popped := umqttCircPop buff len
      (popped.1, .popped popped.2)

/-- The calls of a program on one buffer, the first of which initialises it. -/
def umqttCircHistory (buff : UmqttCircBuffer) (calls : List (BoundedFifo.Call UInt8)) :
    UmqttCircBuffer × List (BoundedFifo.Reply UInt8) :=
  BoundedFifo.history umqttCircCall (umqttCircInit buff) calls

namespace UmqttCircBuffer

/-- The buffer is well formed and holds what the queue holds. -/
def StandsFor (buff : UmqttCircBuffer) (queue : BoundedFifo UInt8) : Prop :=
  ∃ valid : buff.Valid, buff.toFifo valid = queue

variable {buff : UmqttCircBuffer}

theorem standsFor_init (positive : 0 < buff.length) (storage : buff.start.length = buff.length) :
    (umqttCircInit buff).StandsFor (BoundedFifo.empty buff.length) := by
  refine ⟨umqttCircInit_valid positive storage, ?_⟩
  apply BoundedFifo.ext
  · rfl
  · exact contents_eq_nil rfl

/-- The number that `umqtt_circ_push` divides by the length is below twice the length. -/
theorem Valid.free_lt (valid : buff.Valid) : buff.pointer + buff.datalen < 2 * buff.length := by
  have inside := valid.inside
  have filled := valid.filled
  omega

end UmqttCircBuffer

/-- Each call does to the queue, and returns, what the same call of a queue does and
returns. -/
theorem umqttCircCall_refines {buff : UmqttCircBuffer} {queue : BoundedFifo UInt8}
    (standsFor : buff.StandsFor queue) (call : BoundedFifo.Call UInt8) :
    (umqttCircCall buff call).1.StandsFor (queue.call call).1 ∧
      (umqttCircCall buff call).2 = (queue.call call).2 := by
  obtain ⟨valid, rfl⟩ := standsFor
  cases call with
  | clear => exact ⟨standsFor_init valid.positive valid.storage, rfl⟩
  | push data =>
      have next := umqttCircPush_toFifo valid data
      have left := umqttCircPush_left valid data
      exact ⟨⟨umqttCircPush_valid valid data, next⟩, congrArg BoundedFifo.Reply.left left⟩
  | pop len =>
      have next := umqttCircPop_toFifo valid len
      exact ⟨⟨umqttCircPop_valid valid len, next.1⟩, congrArg BoundedFifo.Reply.popped next.2⟩

section Histories

variable {buff : UmqttCircBuffer} (positive : 0 < buff.length)
  (storage : buff.start.length = buff.length) (calls : List (BoundedFifo.Call UInt8))
include positive storage

theorem umqttCircHistory_refines :
    (umqttCircHistory buff calls).1.StandsFor
        (BoundedFifo.history BoundedFifo.call (BoundedFifo.empty buff.length) calls).1 ∧
      (umqttCircHistory buff calls).2 =
        (BoundedFifo.history BoundedFifo.call (BoundedFifo.empty buff.length) calls).2 :=
  BoundedFifo.history_refines umqttCircCall_refines calls (standsFor_init positive storage)

theorem umqttCircHistory_valid : (umqttCircHistory buff calls).1.Valid := by
  obtain ⟨⟨valid, _⟩, _⟩ := umqttCircHistory_refines positive storage calls
  exact valid

/-! ## The buffer is a queue -/

/-- After every history the buffer is well formed, has its length and holds what a queue
of that capacity holds, and every call has returned what it returns for the queue. -/
theorem umqttCircHistory_boundedFifo :
    (umqttCircHistory buff calls).1.Valid ∧
      (umqttCircHistory buff calls).1.length = buff.length ∧
      (umqttCircHistory buff calls).1.contents =
        (BoundedFifo.history BoundedFifo.call (BoundedFifo.empty buff.length) calls).1.items ∧
      (umqttCircHistory buff calls).2 =
        (BoundedFifo.history BoundedFifo.call (BoundedFifo.empty buff.length) calls).2 := by
  have refines := umqttCircHistory_refines positive storage calls
  obtain ⟨valid, same⟩ := refines.1
  have capacity : (umqttCircHistory buff calls).1.length =
      (BoundedFifo.history BoundedFifo.call (BoundedFifo.empty buff.length) calls).1.capacity :=
    congrArg BoundedFifo.capacity same
  refine ⟨valid, ?_, congrArg BoundedFifo.items same, refines.2⟩
  rw [capacity, BoundedFifo.history_capacity]
  rfl

end Histories

/-- A buffer of three cells that fills, drains over its end, is refused bytes and is
cleared. -/
theorem umqttCircHistory_boundedFifo_three :
    (umqttCircHistory ⟨[0, 0, 0], 3, 2, 1⟩
        [.push [1, 2], .pop 1, .push [3, 4, 5], .pop 5, .clear, .pop 1]).2 =
      [.left 0, .popped [1], .left 1, .popped [2, 3, 4], .cleared, .popped []] := by
  rw [(@umqttCircHistory_boundedFifo ⟨[0, 0, 0], 3, 2, 1⟩ (by decide) rfl _).2.2.2]
  decide

/-! ## Peeking and popping -/

/-- A peek returns the bytes that a pop returns, reads them from the storage and leaves
the buffer as it is. -/
def UmqttCircBuffer.PeekAgrees (buff : UmqttCircBuffer) (len : Int) : Prop :=
  umqttCircPeek buff len = (buff, (umqttCircPop buff len.toNat).2.map some)

instance (buff : UmqttCircBuffer) (len : Int) : Decidable (buff.PeekAgrees len) := by
  unfold UmqttCircBuffer.PeekAgrees
  infer_instance

/-- The bytes that a call would return lie behind one another in the storage. -/
def UmqttCircBuffer.Straight (buff : UmqttCircBuffer) (len : Int) : Prop :=
  buff.pointer + min len.toNat buff.datalen ≤ buff.length

theorem umqttCircHistory_peekAgrees_iff {buff : UmqttCircBuffer} (positive : 0 < buff.length)
    (storage : buff.start.length = buff.length) (calls : List (BoundedFifo.Call UInt8))
    (len : Int) :
    (umqttCircHistory buff calls).1.PeekAgrees len ↔
      (umqttCircHistory buff calls).1.Straight len := by
  have valid := umqttCircHistory_valid positive storage calls
  have cells := umqttCircPeek_eq_pop_iff valid len
  constructor
  · intro agrees
    exact cells.mp (congrArg Prod.snd agrees)
  · intro straight
    exact Prod.ext rfl (cells.mpr straight)

/-- Two of the four cells are in use, the last one and the first one. -/
def wrappedCalls : List (BoundedFifo.Call UInt8) :=
  [.push [0x61, 0x62, 0x63, 0x64], .pop 3, .push [0x65]]

theorem umqttCircHistory_peekAgrees_iff_wrapped :
    (umqttCircHistory ⟨[0, 0, 0, 0], 4, 0, 0⟩ wrappedCalls).1.PeekAgrees 1 ∧
      ¬(umqttCircHistory ⟨[0, 0, 0, 0], 4, 0, 0⟩ wrappedCalls).1.PeekAgrees 2 := by
  constructor
  · apply (umqttCircHistory_peekAgrees_iff (by decide) rfl wrappedCalls 1).mpr
    show (3 : Nat) + 1 ≤ 4
    decide
  · intro agrees
    have straight := (umqttCircHistory_peekAgrees_iff (by decide) rfl wrappedCalls 2).mp agrees
    exact absurd straight (show ¬(3 : Nat) + 2 ≤ 4 by decide)

/-- The second byte of a peek is read behind the end of the storage. -/
theorem umqttCircPeek_behindStorage :
    ¬(umqttCircHistory ⟨[0, 0, 0, 0], 4, 0, 0⟩ wrappedCalls).1.PeekAgrees 2 ∧
      (umqttCircPop (umqttCircHistory ⟨[0, 0, 0, 0], 4, 0, 0⟩ wrappedCalls).1 2).2 =
        [0x64, 0x65] ∧
      (umqttCircPeek (umqttCircHistory ⟨[0, 0, 0, 0], 4, 0, 0⟩ wrappedCalls).1 2).2 =
        [some 0x64, none] := by
  decide +kernel

end MicrochipDay.Umqtt
