import MicrochipDay.Library.RingStorage
import MicrochipDay.Usart
import Mathlib.Data.Int.ModEq
import Mathlib.Data.List.Induction

/-!
Owns that the transmit ring of the debug UART loses and reorders nothing: wherever the
interrupt falls between the statements of `USART_0_write`, what goes to `TXDATAL` is what was
written.

The head of the ring moves before the count does. The invariant therefore follows the count,
which says where the next free cell is, and says at each point of the call what the head and
that cell are.
-/

namespace MicrochipDay.Usart

open MicrochipDay.Library

theorem txIndex_toNat (index : UInt8) :
    ((index + 1) &&& usart0TxBufferMask).toNat = (index.toNat + 1) % 32 :=
  @nextIndex_toNat _ 5 (by decide) (by decide) index

/-! ## The invariant -/

namespace TxRing

def cell (ring : TxRing) (index : Nat) : UInt8 := ring.txbuf.getD index 0

/-- The bytes that wait in the ring, from the one behind the tail on. -/
def queued (ring : TxRing) : List UInt8 :=
  RingStorage.window ring.cell 32 (ring.txTail.toNat + 1) ring.txElements.toNat

/-- The cell behind the last byte that is counted. -/
def free (ring : TxRing) : Nat := (ring.txTail.toNat + 1 + ring.txElements.toNat) % 32

/-- The byte of a call that is not counted yet. -/
def pending (ring : TxRing) : List UInt8 :=
  match ring.write with
  | .computeIndex data => [data]
  | .waitForSpace data _ => [data]
  | .storeData data _ => [data]
  | .storeIndex data _ => [data]
  | .countElement data => [data]
  | .idle => []
  | .enableInterrupt => []

/-- What the head, the index and the free cell are at each point of a call. -/
def AtPoint (ring : TxRing) : Prop :=
  match ring.write with
  | .idle => (ring.txHead.toNat + 1) % 32 = ring.free
  | .computeIndex _ => (ring.txHead.toNat + 1) % 32 = ring.free
  | .waitForSpace _ tmphead => tmphead.toNat = ring.free
  | .storeData _ tmphead => tmphead.toNat = ring.free ∧ ring.txElements.toNat < 32
  | .storeIndex data tmphead =>
      tmphead.toNat = ring.free ∧ ring.txElements.toNat < 32 ∧ ring.cell ring.free = data
  | .countElement data =>
      ring.txHead.toNat = ring.free ∧ ring.txElements.toNat < 32 ∧ ring.cell ring.free = data
  | .enableInterrupt => (ring.txHead.toNat + 1) % 32 = ring.free

/-- The interrupt is enabled while bytes wait, but for the end of a call that enables it. -/
def Enabled (ring : TxRing) : Prop :=
  ring.write = .enableInterrupt ∨ (ring.txElements ≠ 0 → ring.dreie = true)

end TxRing

structure TxRun.Holds (run : TxRun) : Prop where
  storage : run.ring.txbuf.length = 32
  atMost : run.ring.txElements.toNat ≤ 32
  bytes : run.ring.txdatal ++ run.ring.queued ++ run.ring.pending = run.written
  atPoint : run.ring.AtPoint
  enabled : run.ring.Enabled

namespace TxRun.Holds

variable {run : TxRun}

theorem start : TxRun.start.Holds where
  storage := rfl
  atMost := by decide
  bytes := rfl
  atPoint := rfl
  enabled := Or.inr fun occupied => absurd rfl occupied

/-! ## Statements of a call -/

theorem call (holds : run.Holds) (data : UInt8) : (run.step (.call data)).Holds := by
  rw [TxRun.step]
  by_cases free : run.ring.write = .idle
  · rw [if_pos free]
    have bytes := holds.bytes
    have atPoint := holds.atPoint
    have enabled := holds.enabled
    simp only [TxRing.pending, TxRing.AtPoint, TxRing.Enabled, free] at bytes atPoint enabled
    constructor
    case storage => exact holds.storage
    case atMost => exact holds.atMost
    case bytes =>
      rw [← bytes, List.append_nil]
      rfl
    case atPoint => exact atPoint
    case enabled => exact Or.inr (enabled.resolve_left (by simp))
  · rw [if_neg free]
    exact holds

/-- Writing the free cell leaves the bytes that wait alone. -/
theorem queued_set {ring : TxRing} {index : Nat} (atFree : index = ring.free)
    (room : ring.txElements.toNat < 32) (data : UInt8) (point : WriteAt) :
    ({ ring with txbuf := ring.txbuf.set index data, write := point } : TxRing).queued =
      ring.queued := by
  apply RingStorage.window_congr
  intro offset below
  have elsewhere : (ring.txTail.toNat + 1 + offset) % 32 ≠ index := by
    rw [atFree]
    exact RingStorage.next_cell_ne room below
  exact RingStorage.getD_set_ne elsewhere ring.txbuf data 0

theorem free_lt (ring : TxRing) : ring.free < 32 := Nat.mod_lt _ (by decide)

theorem enabled_inCall (holds : run.Holds) (notLast : run.ring.write ≠ .enableInterrupt) :
    run.ring.txElements ≠ 0 → run.ring.dreie = true :=
  holds.enabled.resolve_left notLast

theorem storeData (holds : run.Holds) {data tmphead : UInt8}
    (point : run.ring.write = .storeData data tmphead) : (run.step .statement).Holds := by
  have bytes := holds.bytes
  have atPoint := holds.atPoint
  have free := free_lt run.ring
  have storage := holds.storage
  rw [TxRing.pending, point] at bytes
  rw [TxRing.AtPoint, point] at atPoint
  obtain ⟨atFree, room⟩ := atPoint
  rw [TxRun.step, TxRing.usart0Write, point]
  constructor
  case storage => exact (List.length_set).trans storage
  case atMost => exact holds.atMost
  case bytes =>
    rw [queued_set atFree room]
    exact bytes
  case atPoint =>
    have inStorage : run.ring.free < run.ring.txbuf.length := by omega
    have stored : (run.ring.txbuf.set tmphead.toNat data).getD run.ring.free 0 = data := by
      rw [atFree]
      exact RingStorage.getD_set_self inStorage data 0
    exact ⟨atFree, room, stored⟩
  case enabled => exact Or.inr (holds.enabled_inCall (by simp [point]))

/-- Counting the byte makes it one of those that wait. -/
theorem countElement (holds : run.Holds) {data : UInt8}
    (point : run.ring.write = .countElement data) : (run.step .statement).Holds := by
  have bytes := holds.bytes
  have atPoint := holds.atPoint
  rw [TxRing.pending, point] at bytes
  rw [TxRing.AtPoint, point] at atPoint
  obtain ⟨atFree, room, stored⟩ := atPoint
  have counted := count_succ (room.trans (by decide))
  rw [TxRun.step, TxRing.usart0Write, point]
  constructor
  case storage => exact holds.storage
  case atMost =>
    show (run.ring.txElements + 1).toNat ≤ 32
    omega
  case bytes =>
    rw [← bytes]
    show run.ring.txdatal ++ RingStorage.window run.ring.cell 32 (run.ring.txTail.toNat + 1)
      (run.ring.txElements + 1).toNat ++ [] = _
    rw [counted, RingStorage.window_succ_back, List.append_nil, ← List.append_assoc]
    exact congrArg (fun byte => _ ++ [byte]) stored
  case atPoint =>
    unfold TxRing.free at atFree
    show (run.ring.txHead.toNat + 1) % 32 =
      (run.ring.txTail.toNat + 1 + (run.ring.txElements + 1).toNat) % 32
    omega
  case enabled => exact Or.inl rfl

theorem waitForSpace (holds : run.Holds) {data tmphead : UInt8}
    (point : run.ring.write = .waitForSpace data tmphead) : (run.step .statement).Holds := by
  have bytes := holds.bytes
  have atPoint := holds.atPoint
  have atMost := holds.atMost
  rw [TxRing.pending, point] at bytes
  rw [TxRing.AtPoint, point] at atPoint
  rw [TxRun.step, TxRing.usart0Write, point]
  dsimp only
  by_cases full : run.ring.txElements = usart0TxBufferSize
  · rw [if_pos full]
    exact holds
  · rw [if_neg full]
    have room : run.ring.txElements.toNat < 32 := by
      have notAll : run.ring.txElements.toNat ≠ 32 := fun same =>
        full (UInt8.toNat_inj.mp same)
      omega
    constructor
    case storage => exact holds.storage
    case atMost => exact atMost
    case bytes => exact bytes
    case atPoint => exact ⟨atPoint, room⟩
    case enabled => exact Or.inr (holds.enabled_inCall (by simp [point]))

/-- A statement that changes neither the bytes nor the count keeps what holds, if its
point of the call does. -/
theorem passes (holds : run.Holds) {txHead : UInt8} {dreie : Bool} {write : WriteAt}
    (pending : { run.ring with txHead, dreie, write }.pending = run.ring.pending)
    (atPoint : { run.ring with txHead, dreie, write }.AtPoint)
    (enabled : { run.ring with txHead, dreie, write }.Enabled) :
    TxRun.Holds { run with ring := { run.ring with txHead, dreie, write } } where
  storage := holds.storage
  atMost := holds.atMost
  bytes := by
    rw [pending]
    exact holds.bytes
  atPoint := atPoint
  enabled := enabled

theorem statement (holds : run.Holds) : (run.step .statement).Holds := by
  have atPoint := holds.atPoint
  unfold TxRing.AtPoint at atPoint
  cases point : run.ring.write with
  | idle =>
      rw [TxRun.step, TxRing.usart0Write, point]
      exact holds
  | computeIndex data =>
      rw [point] at atPoint
      rw [TxRun.step, TxRing.usart0Write, point]
      apply holds.passes
      · rw [TxRing.pending, TxRing.pending, point]
      · exact (txIndex_toNat run.ring.txHead).trans atPoint
      · exact Or.inr (holds.enabled_inCall (by simp [point]))
  | waitForSpace data tmphead => exact holds.waitForSpace point
  | storeData data tmphead => exact holds.storeData point
  | storeIndex data tmphead =>
      rw [point] at atPoint
      rw [TxRun.step, TxRing.usart0Write, point]
      apply holds.passes
      · rw [TxRing.pending, TxRing.pending, point]
      · exact atPoint
      · exact Or.inr (holds.enabled_inCall (by simp [point]))
  | countElement data => exact holds.countElement point
  | enableInterrupt =>
      rw [point] at atPoint
      rw [TxRun.step, TxRing.usart0Write, point]
      apply holds.passes
      · rw [TxRing.pending, TxRing.pending, point]
      · exact atPoint
      · exact Or.inr fun _ => rfl

/-! ## The interrupt -/

/-- The ring after the byte behind the tail went out. -/
def takeByte (ring : TxRing) : TxRing :=
  { ring with
    txTail := (ring.txTail + 1) &&& usart0TxBufferMask
    txdatal := ring.txdatal ++
      [ring.txbuf.getD ((ring.txTail + 1) &&& usart0TxBufferMask).toNat 0]
    txElements := ring.txElements - 1 }

section TakeByte

variable {ring : TxRing}

theorem takeByte_elements (occupied : ring.txElements ≠ 0) :
    (takeByte ring).txElements.toNat + 1 = ring.txElements.toNat :=
  count_pred occupied

/-- The interrupt moves the tail and the count, not the free cell. -/
theorem takeByte_free (occupied : ring.txElements ≠ 0) : (takeByte ring).free = ring.free := by
  have fewer := takeByte_elements occupied
  have tail := txIndex_toNat ring.txTail
  unfold TxRing.free
  show (((ring.txTail + 1) &&& usart0TxBufferMask).toNat + 1 + _) % 32 = _
  omega

theorem takeByte_queued (occupied : ring.txElements ≠ 0) :
    (takeByte ring).txdatal ++ (takeByte ring).queued = ring.txdatal ++ ring.queued := by
  have fewer := takeByte_elements occupied
  have tail := txIndex_toNat ring.txTail
  have rest : (takeByte ring).queued =
      RingStorage.window ring.cell 32 (ring.txTail.toNat + 1 + 1)
        (takeByte ring).txElements.toNat := by
    unfold TxRing.queued
    rw [← RingStorage.window_mod_first, ← RingStorage.window_mod_first ring.cell 32 _
      (takeByte ring).txElements.toNat]
    show RingStorage.window ring.cell 32
      ((((ring.txTail + 1) &&& usart0TxBufferMask).toNat + 1) % 32) _ = _
    rw [tail, Nat.mod_add_mod]
  have whole :
      ring.queued = ring.cell ((ring.txTail.toNat + 1) % 32) :: (takeByte ring).queued := by
    rw [rest, ← RingStorage.window_succ_front, fewer]
    rfl
  rw [whole, ← tail]
  show (ring.txdatal ++ [ring.cell _]) ++ _ = _
  rw [List.append_assoc, List.singleton_append]

theorem takeByte_atPoint (occupied : ring.txElements ≠ 0) (atPoint : ring.AtPoint) :
    (takeByte ring).AtPoint := by
  have free := takeByte_free occupied
  have fewer := takeByte_elements occupied
  unfold TxRing.AtPoint at atPoint ⊢
  rw [free]
  show (match ring.write with
    | .idle => (ring.txHead.toNat + 1) % 32 = ring.free
    | .computeIndex _ => (ring.txHead.toNat + 1) % 32 = ring.free
    | .waitForSpace _ tmphead => tmphead.toNat = ring.free
    | .storeData _ tmphead => tmphead.toNat = ring.free ∧ (takeByte ring).txElements.toNat < 32
    | .storeIndex data tmphead => tmphead.toNat = ring.free ∧
        (takeByte ring).txElements.toNat < 32 ∧ ring.cell ring.free = data
    | .countElement data => ring.txHead.toNat = ring.free ∧
        (takeByte ring).txElements.toNat < 32 ∧ ring.cell ring.free = data
    | .enableInterrupt => (ring.txHead.toNat + 1) % 32 = ring.free)
  split at atPoint <;> grind

theorem takeByte_holds {run : TxRun} (holds : run.Holds) (occupied : run.ring.txElements ≠ 0)
    (dreie : run.ring.dreie = true) : TxRun.Holds { run with ring := takeByte run.ring } where
  storage := holds.storage
  atMost := by
    have fewer := takeByte_elements occupied
    have atMost := holds.atMost
    show (takeByte run.ring).txElements.toNat ≤ 32
    omega
  bytes := by
    rw [takeByte_queued occupied]
    exact holds.bytes
  atPoint := takeByte_atPoint occupied holds.atPoint
  enabled := Or.inr fun _ => dreie

end TakeByte

/-- The interrupt disables itself on an empty ring only. -/
theorem disable (holds : run.Holds) (none : run.ring.txElements = 0) :
    TxRun.Holds { run with ring := { run.ring with dreie := false } } where
  storage := holds.storage
  atMost := holds.atMost
  bytes := holds.bytes
  atPoint := holds.atPoint
  enabled := Or.inr fun occupied => absurd none occupied

theorem interrupt (holds : run.Holds) : (run.step .interrupt).Holds := by
  rw [TxRun.step]
  by_cases dreie : run.ring.dreie = true
  · rw [if_pos dreie, TxRing.usart0DefaultUdreIsrCb]
    by_cases occupied : run.ring.txElements ≠ 0
    · rw [if_pos occupied]
      have taken := takeByte_holds holds occupied dreie
      by_cases last : (takeByte run.ring).txElements = 0
      · exact (if_pos last).symm ▸ taken.disable last
      · exact (if_neg last).symm ▸ taken
    · rw [if_neg occupied]
      have none := not_not.mp occupied
      exact (if_pos none).symm ▸ holds.disable none
  · rw [if_neg dreie]
    exact holds

/-! ## Runs -/

theorem step (holds : run.Holds) (step : TxStep) : (run.step step).Holds := by
  cases step with
  | call data => exact holds.call data
  | statement => exact holds.statement
  | interrupt => exact holds.interrupt

theorem reached (steps : List TxStep) : (txRun steps).Holds := by
  induction steps using List.reverseRecOn with
  | nil => exact start
  | append_singleton earlier last inductionHypothesis =>
      rw [txRun, List.foldl_append]
      exact inductionHypothesis.step last

/-! ## What a run sends -/

theorem txdatal_isPrefix (holds : run.Holds) : run.ring.txdatal <+: run.written := by
  rw [← holds.bytes, List.append_assoc]
  exact List.prefix_append _ _

theorem waits_enabled (holds : run.Holds) (idle : run.ring.write = .idle)
    (waiting : run.ring.txElements ≠ 0) : run.ring.dreie = true := by
  have enabled := holds.enabled
  rw [TxRing.Enabled, idle] at enabled
  exact enabled.resolve_left (by simp) waiting

theorem written_eq (holds : run.Holds) (idle : run.ring.write = .idle) :
    run.ring.txdatal ++ run.ring.queued = run.written := by
  have bytes := holds.bytes
  rw [TxRing.pending, idle, List.append_nil] at bytes
  exact bytes

theorem elements_congruent (holds : run.Holds) (idle : run.ring.write = .idle) :
    (run.ring.txElements.toNat : Int) ≡
      run.ring.txHead.toNat - run.ring.txTail.toNat [ZMOD 32] := by
  have atPoint := holds.atPoint
  rw [TxRing.AtPoint, idle] at atPoint
  dsimp only at atPoint
  unfold TxRing.free at atPoint
  unfold Int.ModEq
  omega

/-! ## Draining -/

/-- Between calls an interrupt takes one byte out of the ring, if one waits. -/
theorem interrupt_idle (holds : run.Holds) (idle : run.ring.write = .idle) :
    (run.step .interrupt).ring.write = .idle ∧ (run.step .interrupt).written = run.written ∧
      (run.step .interrupt).ring.txElements.toNat = run.ring.txElements.toNat - 1 := by
  rw [TxRun.step]
  by_cases dreie : run.ring.dreie = true
  · rw [if_pos dreie]
    refine ⟨?_, rfl, ?_⟩
    · unfold TxRing.usart0DefaultUdreIsrCb
      dsimp only
      split <;> split <;> exact idle
    · by_cases occupied : run.ring.txElements ≠ 0
      · have fewer := takeByte_elements occupied
        have same :
            run.ring.usart0DefaultUdreIsrCb.txElements = (takeByte run.ring).txElements := by
          unfold TxRing.usart0DefaultUdreIsrCb
          rw [if_pos occupied]
          dsimp only
          split <;> rfl
        rw [same]
        omega
      · unfold TxRing.usart0DefaultUdreIsrCb
        rw [if_neg occupied, if_pos (not_not.mp occupied), not_not.mp occupied]
        rfl
  · rw [if_neg dreie]
    have none : run.ring.txElements = 0 := by
      by_contra occupied
      exact dreie (holds.waits_enabled idle occupied)
    refine ⟨idle, rfl, ?_⟩
    rw [none]
    rfl

theorem interrupts_idle (holds : run.Holds) (idle : run.ring.write = .idle) (count : Nat) :
    let drained := (List.replicate count TxStep.interrupt).foldl TxRun.step run
    drained.Holds ∧ drained.ring.write = .idle ∧ drained.written = run.written ∧
      drained.ring.txElements.toNat = run.ring.txElements.toNat - count := by
  induction count generalizing run with
  | zero => exact ⟨holds, idle, rfl, rfl⟩
  | succ count inductionHypothesis =>
      obtain ⟨stays, written, fewer⟩ := holds.interrupt_idle idle
      obtain ⟨kept, rests, same, elements⟩ := inductionHypothesis holds.interrupt stays
      refine ⟨kept, rests, same.trans written, ?_⟩
      rw [List.replicate_succ, List.foldl_cons, elements, fewer, Nat.sub_sub, Nat.add_comm 1]

end TxRun.Holds

/-- After any run that is between calls, as many interrupts as the ring has cells send
everything that was written. -/
theorem txRun_drains (steps : List TxStep) (idle : (txRun steps).ring.write = .idle) :
    (txRun (steps ++ List.replicate 32 .interrupt)).ring.txdatal = (txRun steps).written := by
  have reached := TxRun.Holds.reached steps
  obtain ⟨holds, rests, written, elements⟩ := reached.interrupts_idle idle 32
  have none := elements.trans (Nat.sub_eq_zero_of_le reached.atMost)
  have sent := holds.written_eq rests
  rw [TxRing.queued, none, RingStorage.window_zero, List.append_nil, written] at sent
  rw [txRun, List.foldl_append]
  exact sent

theorem txRun_drains_two :
    let steps := .call 65 :: List.replicate 6 .statement ++
      .interrupt :: .call 66 :: List.replicate 6 .statement
    (txRun (steps ++ List.replicate 32 .interrupt)).ring.txdatal = [65, 66] := by
  intro steps
  have drained := txRun_drains steps (by decide)
  rw [drained]
  decide

end MicrochipDay.Usart
