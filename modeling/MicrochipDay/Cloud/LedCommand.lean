import MicrochipDay.Cloud.Network

/-!
Owns which cells of its data `umqtt_received_cb` reads. The callback does not
parse: it searches for the first 'D' and looks at the byte three cells behind it.
-/

namespace MicrochipDay.Cloud

open MicrochipDay.Umqtt

/-! ## Cells that are read -/

/-- The search loop from index `i` on: the indices it reads and the value of `i`
behind it, `none` when `i` has gone through all 16-bit values. -/
def searchD (data : Nat → UInt8) (len : Nat) : Nat → Nat → List Nat × Option Nat
  | 0, _ => ([], none)
  | fuel + 1, i =>
      if i ≤ len then
        if data i = 68 then ([i], some i)
        else
          let rest := searchD data len fuel (i + 1)
          (i :: rest.1, rest.2)
      else ([], some i)

/-- The indices at which `umqtt_received_cb` reads `data`. -/
def umqttReceivedCbReads (data : Nat → UInt8) (len : Int) : List Nat :=
  let search := searchD data (len % 65536).toNat 65536 0
  match search.2 with
  | some i => search.1 ++ [(i + 3) % 65536]
  | none => search.1

/-- `index` is that of the first 'D'. -/
def FirstD (data : Nat → UInt8) (index : Nat) : Prop :=
  data index = 68 ∧ ∀ before < index, data before ≠ 68

theorem searchD_of_first {data : Nat → UInt8} {index : Nat} (first : FirstD data index)
    {len : Nat} (inside : index ≤ len) (fuel : Nat) {i : Nat} (reached : i ≤ index)
    (enough : index < i + fuel) :
    searchD data len fuel i = (List.range' i (index + 1 - i), some index) := by
  induction fuel generalizing i with
  | zero => omega
  | succ fuel inductionHypothesis =>
      unfold searchD
      rw [if_pos (by omega)]
      by_cases here : i = index
      · rw [here, if_pos first.1, Nat.add_sub_cancel_left]
        rfl
      · rw [if_neg (first.2 i (by omega)),
          inductionHypothesis (by omega : i + 1 ≤ index) (by omega)]
        have cells : index + 1 - i = (index + 1 - (i + 1)) + 1 := by omega
        rw [cells, List.range'_succ]

/-- Without a 'D' the loop reads up to the cell at `len`, the first one that is
not part of the data. -/
theorem searchD_of_none {data : Nat → UInt8} {len : Nat} (none : ∀ index ≤ len, data index ≠ 68)
    (fuel : Nat) {i : Nat} (reached : i ≤ len) (enough : len < i + fuel) :
    len ∈ (searchD data len fuel i).1 := by
  induction fuel generalizing i with
  | zero => omega
  | succ fuel inductionHypothesis =>
      unfold searchD
      rw [if_pos reached, if_neg (none i reached)]
      by_cases last : i = len
      · rw [last]
        exact List.mem_cons_self
      · exact List.mem_cons_of_mem _ (inductionHypothesis (by omega) (by omega))

theorem exists_firstD {data : Nat → UInt8} {len : Nat} (some : ∃ index ≤ len, data index = 68) :
    ∃ index ≤ len, FirstD data index := by
  obtain ⟨index, inside, found⟩ := some
  have any : ∃ index, data index = 68 := ⟨index, found⟩
  refine ⟨Nat.find any, (Nat.find_min' any found).trans inside, Nat.find_spec any, ?_⟩
  intro before smaller
  exact Nat.find_min any smaller

theorem FirstD.unique {data : Nat → UInt8} {left right : Nat} (first : FirstD data left)
    (other : FirstD data right) : left = right := by
  rcases Nat.lt_trichotomy left right with smaller | same | larger
  · exact absurd first.1 (other.2 left smaller)
  · exact same
  · exact absurd other.1 (first.2 right larger)

/-- All reads of the callback stay below `size` exactly if the cell three behind
the first 'D' does. -/
theorem umqttReceivedCbReads_below_iff (data : Nat → UInt8) {len : Int} {size : Nat}
    (sizeOf : size = (len % 65536).toNat) :
    (∀ index ∈ umqttReceivedCbReads data len, index < size) ↔
      ∃ index < size, FirstD data index ∧ (index + 3) % 65536 < size := by
  have small : size < 65536 := by omega
  unfold umqttReceivedCbReads
  rw [← sizeOf]
  by_cases found : ∃ index ≤ size, data index = 68
  · obtain ⟨index, inside, first⟩ := exists_firstD found
    rw [searchD_of_first first inside 65536 (Nat.zero_le _) (by omega)]
    constructor
    · intro below
      have here := below index (by simp [List.mem_range'_1])
      exact ⟨index, here, first, below _ (by simp)⟩
    · intro ⟨other, smaller, firstOther, third⟩ read inReads
      obtain rfl := first.unique firstOther
      rcases List.mem_append.mp inReads with inLoop | last
      · have bounds := List.mem_range'_1.mp inLoop
        omega
      · rw [List.mem_singleton.mp last]
        exact third
  · have none : ∀ index ≤ size, data index ≠ 68 := fun index inside is68 =>
      found ⟨index, inside, is68⟩
    have read := searchD_of_none none 65536 (Nat.zero_le size) (by omega)
    constructor
    · intro below
      have outside := below size (by dsimp only; split <;> simp [read])
      omega
    · intro ⟨index, smaller, first, _⟩
      exact absurd first.1 (none index (by omega))

/-- A message as `umqtt_handle_publish` hands it over: the size of its array is
what `len` is as an unsigned number. -/
theorem umqttHandlePublish_size (data : Nat → UInt8) (len : Int) :
    (umqttHandlePublish data len).1.payload.length =
      ((umqttHandlePublish data len).1.len % 65536).toNat := by
  have unsigned : ∀ value : Int, cInt 16 value % 65536 = value % 65536 := fun _ => Int.bmod_emod
  simp only [umqttHandlePublish, List.length_map, List.length_range, unsigned]
  omega

/-- The cells of the data that the callback gets: the array of the message, and
the memory behind it. -/
def dataCells (behind : Nat → UInt8) (message : Message) : Nat → UInt8 :=
  bodyCell behind message.payload

/-- The callback stays inside the array that `umqtt_handle_publish` made exactly
if the first 'D' has three more cells behind it. -/
theorem umqttReceivedCb_staysInside_iff (data : Nat → UInt8) (len : Int)
    (behind : Nat → UInt8) :
    let message := (umqttHandlePublish data len).1
    (∀ index ∈ umqttReceivedCbReads (dataCells behind message) message.len,
        index < message.payload.length) ↔
      ∃ index < message.payload.length, FirstD (dataCells behind message) index ∧
        (index + 3) % 65536 < message.payload.length :=
  umqttReceivedCbReads_below_iff _ (umqttHandlePublish_size data len)

/-- The body of a message "ON" on the topic "t". -/
private def onBody : List UInt8 := [0, 1, 116, 79, 78]

/-- A message without a 'D' is read beyond its end. -/
theorem umqttReceivedCb_readsBeyond :
    let message := (umqttHandlePublish (bodyCell (fun _ => 0) onBody) 5).1
    ¬ ∀ index ∈ umqttReceivedCbReads (dataCells (fun _ => 0) message) message.len,
      index < message.payload.length := by
  decide +kernel

end MicrochipDay.Cloud
