import MicrochipDay.I2c.RegisterRead

/-!
Owns the block transfers of the simple I2C master: that they move exactly the
bytes that were asked for, and what they put on the bus.
-/

namespace MicrochipDay.I2c

/-! ## The functions -/

/-- `I2C_0_writeNBytes`; `stale` is the acknowledge bit that its start finds. -/
def Driver.writeNBytes (driver : Driver) (address : UInt8) (data len : UInt16) (stale : Bool)
    (answers : List Answer) : Transfer :=
  let driver := driver.openLoop address
  let driver := driver.setBuffer data len
  let driver := driver.setCallback .addressNack .restartWrite
  let driver := (driver.masterOperation (Answer.interrupt ⟨stale, 0⟩) false).1
  driver.closeLoop answers

/-- `I2C_0_readNBytes`. -/
def Driver.readNBytes (driver : Driver) (address : UInt8) (data len : UInt16) (stale : Bool)
    (answers : List Answer) : Transfer :=
  let driver := driver.openLoop address
  let driver := driver.setBuffer data len
  let driver := (driver.masterOperation (Answer.interrupt ⟨stale, 0⟩) true).1
  driver.closeLoop answers

/-! ## Bytes in the memory -/

theorem pred_toNat {length : UInt16} (nonempty : length ≠ 0) :
    (length - 1).toNat + 1 = length.toNat := by
  have positive : length.toNat ≠ 0 := fun zero => nonempty (UInt16.toNat_inj.mp zero)
  have one : (1 : UInt16).toNat = 1 := rfl
  rw [UInt16.toNat_sub_of_le _ _ (UInt16.le_iff_toNat_le.mpr (by omega)), one]
  omega

/-- The memory with some bytes written from `pointer` on. -/
def withBytes (memory : UInt16 → UInt8) (pointer : UInt16) (bytes : List UInt8) :
    UInt16 → UInt8 :=
  fun other => (bytes[(other - pointer).toNat]?).getD (memory other)

theorem withBytes_nil (memory : UInt16 → UInt8) (pointer : UInt16) :
    withBytes memory pointer [] = memory := by
  funext other
  unfold withBytes
  rw [List.getElem?_nil, Option.getD_none]

/-- The first byte first; the others do not reach around to it. -/
theorem withBytes_cons (memory : UInt16 → UInt8) (pointer : UInt16) (byte : UInt8)
    {bytes : List UInt8} (fits : bytes.length < 2 ^ 16) :
    withBytes (Function.update memory pointer byte) (pointer + 1) bytes =
      withBytes memory pointer (byte :: bytes) := by
  funext other
  unfold withBytes
  by_cases same : other = pointer
  · subst same
    have around : (other - (other + 1)).toNat = 65535 := by
      rw [show other - (other + 1) = 65535 by grind]
      rfl
    rw [around, List.getElem?_eq_none (by omega), UInt16.sub_self, Function.update_self]
    rfl
  · have offset : (other - pointer).toNat = (other - (pointer + 1)).toNat + 1 := by
      have different : other - pointer ≠ 0 := by grind
      have next : other - (pointer + 1) = other - pointer - 1 := by grind
      rw [next, pred_toNat different]
    rw [offset, List.getElem?_cons_succ, Function.update_of_ne same]

/-! ## Transfers that complete -/

/-- The call has returned without an error once the slave had given its answers.
The driver is free and idle; these actions, oldest first, are new on the bus. -/
structure Transfer.Completes (transfer : Transfer) (bus actions : List BusAction)
    (memory : UInt16 → UInt8) (later : List Answer) : Prop where
  error : transfer.error = some .noerr
  answers : transfer.answers = later
  bus : transfer.driver.bus = actions.reverse ++ bus
  memory : transfer.driver.memory = memory
  idle : transfer.driver.state = .idle
  notBusy : transfer.driver.busy = false
  free : transfer.driver.inUse = false

section Phases

variable {driver next : Driver} {answer : Answer} {answers later : List Answer}
  {actions : List BusAction} {memory : UInt16 → UInt8} {check : Bool} {complete : Callback}

theorem completes_stopped (silent : next.bus = actions.reverse ++ driver.bus) :
    (next.stopped.closeLoop later).Completes driver.bus (actions ++ [.stop]) next.memory later := by
  rw [closeLoop_stopped]
  refine ⟨rfl, rfl, ?_, rfl, rfl, rfl, rfl⟩
  show .stop :: next.bus = _
  rw [silent, List.reverse_append]
  rfl

/-- An answer on which the driver does some actions and goes on. -/
theorem completes_cons (busy : driver.busy = true)
    (handled : driver.masterIsr answer.interrupt = next) (first : List BusAction)
    (log : next.bus = first.reverse ++ driver.bus)
    (rest : (next.closeLoop answers).Completes next.bus actions memory later) :
    (driver.closeLoop (answer :: answers)).Completes driver.bus (first ++ actions) memory
      later := by
  rw [closeLoop_cons busy, handled]
  refine ⟨rest.error, rest.answers, ?_, rest.memory, rest.idle, rest.notBusy, rest.free⟩
  rw [rest.bus, log, List.reverse_append, List.append_assoc]

/-- An answer on which the driver does some actions and stops. -/
theorem completes_last (busy : driver.busy = true)
    (handled : driver.masterIsr answer.interrupt = next.stopped)
    (log : next.bus = actions.reverse ++ driver.bus) :
    (driver.closeLoop (answer :: later)).Completes driver.bus (actions ++ [.stop]) next.memory
      later := by
  rw [closeLoop_cons busy, handled]
  exact completes_stopped log

/-! ### Sending -/

/-- The address is sent again for every answer that refuses it. -/
theorem addressing_completes (phase : Phase driver .tx true complete) {refusals : List Answer}
    (refused : ∀ answer ∈ refusals, answer.nack = true)
    (accepted : ∀ next : Driver, Phase next .tx true complete → next.dataPtr = driver.dataPtr →
      next.dataLength = driver.dataLength → next.memory = driver.memory →
      next.address = driver.address →
      (next.closeLoop answers).Completes next.bus actions memory later) :
    (driver.closeLoop (refusals ++ answers)).Completes driver.bus
      (List.replicate refusals.length (.address (driver.address <<< 1)) ++ actions) memory
      later := by
  induction refusals generalizing driver with
  | nil => exact accepted driver phase rfl rfl rfl rfl
  | cons refusal refusals inductionHypothesis =>
      have nack := refused refusal List.mem_cons_self
      have rest := inductionHypothesis phase.restarted
        (fun answer member => refused answer (List.mem_cons_of_mem refusal member)) accepted
      exact completes_cons phase.busy (phase.addressRefused nack)
        [.address (driver.address <<< 1)] rfl rest

theorem sent_completes (phase : Phase driver .txEmpty check .returnStop)
    (ack : answer.nack = false) :
    (driver.closeLoop (answer :: later)).Completes driver.bus [.stop] driver.memory later := by
  have log : { driver with bufferFree := true }.bus = [].reverse ++ driver.bus := rfl
  exact completes_last phase.busy (phase.handles.bufferSent ack) log

theorem sending_completes (phase : Phase driver .tx check .returnStop)
    (nonempty : driver.dataLength ≠ 0) {acks : List Answer}
    (acknowledged : ∀ answer ∈ acks, answer.nack = false)
    (count : acks.length = driver.dataLength.toNat + 1) :
    (driver.closeLoop (acks ++ later)).Completes driver.bus
      ((bytesAt driver.memory driver.dataPtr driver.dataLength.toNat).map .data ++ [.stop])
      driver.memory later := by
  induction acks generalizing driver check with
  | nil => cases count
  | cons ack acks inductionHypothesis =>
      have taken := acknowledged ack List.mem_cons_self
      have others : ∀ answer ∈ acks, answer.nack = false := fun answer member =>
        acknowledged answer (List.mem_cons_of_mem ack member)
      have pred := pred_toNat nonempty
      rw [List.length_cons] at count
      rw [← pred, bytesAt_succ, List.map_cons]
      refine completes_cons phase.busy (phase.handles.byteSent taken)
        [.data (driver.memory driver.dataPtr)] rfl ?_
      by_cases last : driver.dataLength - 1 = 0
      · -- the answer to the last byte ends the transfer
        rw [last] at pred ⊢
        rw [if_neg (by simp)]
        obtain ⟨final, rfl⟩ : ∃ final, acks = [final] := by
          apply List.length_eq_one_iff.mp
          have zero : (0 : UInt16).toNat = 0 := rfl
          omega
        exact sent_completes (phase.transmitByte .txEmpty) (others final List.mem_cons_self)
      · rw [if_pos last]
        rw [← pred, Nat.succ_inj] at count
        exact inductionHypothesis (phase.transmitByte .tx) last others count

/-! ### Receiving -/

/-- What the driver does to receive so many bytes: the first ones are acknowledged,
the last one is not. -/
def receptions (count : Nat) : List BusAction :=
  (List.replicate (count - 1) [.ackAction false, .recvTrans]).flatten ++
    [.ackAction true, .ackAction true, .stop]

theorem receptions_succ {count : Nat} (more : count ≠ 0) :
    receptions (count + 1) = [.ackAction false, .recvTrans] ++ receptions count := by
  obtain ⟨fewer, rfl⟩ : ∃ fewer, count = fewer + 1 := ⟨count - 1, by omega⟩
  unfold receptions
  rw [Nat.add_sub_cancel, Nat.add_sub_cancel, List.replicate_succ, List.flatten_cons,
    List.append_assoc]

/-- The slave sends the bytes of its answers; only for the first one does the
driver look at the acknowledge bit. -/
theorem receiving_completes (handles : Handles driver .rx check .returnStop)
    (nonempty : driver.dataLength ≠ 0) {received : List Answer}
    (acknowledged : ∀ first ∈ received.head?, (check && first.nack) = false)
    (count : received.length = driver.dataLength.toNat) :
    (driver.closeLoop (received ++ later)).Completes driver.bus (receptions received.length)
      (withBytes driver.memory driver.dataPtr (received.map (·.mdata))) later := by
  induction received generalizing driver check with
  | nil => exact absurd (UInt16.toNat_inj.mp count.symm) nonempty
  | cons first others inductionHypothesis =>
      have goesOn := acknowledged first rfl
      have pred := pred_toNat nonempty
      have fits := driver.dataLength.toNat_lt
      rw [List.length_cons] at count
      rw [List.map_cons, ← withBytes_cons _ _ _ (by rw [List.length_map]; omega)]
      by_cases last : driver.dataLength - 1 = 0
      · obtain rfl : others = [] := by
          apply List.length_eq_zero_iff.mp
          have zero : (0 : UInt16).toNat = 0 := rfl
          rw [last] at pred
          omega
        have one : driver.dataLength = 1 := by grind
        have log : ({ driver.receiveByte first.interrupt with bufferFree := true }.drive
            (.ackAction true)).bus = [.ackAction true, .ackAction true].reverse ++ driver.bus := by
          show .ackAction true :: .ackAction (driver.dataLength = 1) :: driver.bus = _
          rw [one]
          rfl
        rw [List.map_nil, withBytes_nil]
        exact completes_last handles.busy (handles.lastReceived goesOn last) log
      · have notOne : ¬driver.dataLength = 1 := by grind
        have log : ((driver.receiveByte first.interrupt).drive .recvTrans).bus =
            [.ackAction false, .recvTrans].reverse ++ driver.bus := by
          show .recvTrans :: .ackAction (driver.dataLength = 1) :: driver.bus = _
          rw [decide_eq_false notOne]
          rfl
        have rest := inductionHypothesis (handles.received first.interrupt) last
          (fun _ _ => Bool.false_and _)
          (by show others.length = (driver.dataLength - 1).toNat; omega)
        have someLeft : others.length ≠ 0 := by
          intro none
          apply last
          apply UInt16.toNat_inj.mp
          show (driver.dataLength - 1).toNat = 0
          omega
        rw [List.length_cons, receptions_succ someLeft]
        exact completes_cons handles.busy (handles.byteReceived goesOn last) _ log rest

end Phases

/-! ## Calls -/

section Started

variable {driver : Driver} (free : driver.inUse = false) (address : UInt8) (data len : UInt16)
  (stale : Bool) (answers : List Answer)

include free

theorem writeNBytes_eq :
    ∃ started : Driver,
      driver.writeNBytes address data len stale answers = started.closeLoop answers ∧
      Phase started .tx true .returnStop ∧ started.dataPtr = data ∧ started.dataLength = len ∧
      started.memory = driver.memory ∧ started.address = address ∧
      started.bus = [.flush, .address (address <<< 1)].reverse ++ driver.bus := by
  unfold Driver.writeNBytes
  rw [Driver.openLoop_of_free free]
  unfold Driver.i2cOpen
  rw [if_neg (by rw [free]; decide)]
  exact ⟨_, rfl, ⟨rfl, rfl, rfl, rfl, rfl, rfl⟩, rfl, rfl, rfl, rfl, rfl⟩

theorem readNBytes_eq :
    ∃ started : Driver,
      driver.readNBytes address data len stale answers = started.closeLoop answers ∧
      Handles started .rx true .returnStop ∧ started.dataPtr = data ∧ started.dataLength = len ∧
      started.memory = driver.memory ∧
      started.bus = [.flush, .address (address <<< 1 ||| 1)].reverse ++ driver.bus := by
  unfold Driver.readNBytes
  rw [Driver.openLoop_of_free free]
  unfold Driver.i2cOpen
  rw [if_neg (by rw [free]; decide)]
  exact ⟨_, rfl, ⟨rfl, rfl, rfl, rfl⟩, rfl, rfl, rfl, rfl⟩

end Started

/-- A transfer whose first actions were the start of the call. -/
theorem Transfer.Completes.prepend {transfer : Transfer} {bus started actions : List BusAction}
    {memory : UInt16 → UInt8} {later : List Answer} (first : List BusAction)
    (log : started = first.reverse ++ bus)
    (completes : transfer.Completes started actions memory later) :
    transfer.Completes bus (first ++ actions) memory later := by
  refine ⟨completes.error, completes.answers, ?_, completes.memory, completes.idle,
    completes.notBusy, completes.free⟩
  rw [completes.bus, log, List.reverse_append, List.append_assoc]

/-- A block transfer on a driver that is free. -/
structure BlockTransfer where
  before : Driver
  free : before.inUse = false
  address : UInt8
  data : UInt16
  len : UInt16
  nonempty : len ≠ 0
  stale : Bool

/-- The answers of a slave that refuses its address some times. -/
structure Refusals where
  answers : List Answer
  refused : ∀ answer ∈ answers, answer.nack = true

/-- The answers of a slave that takes its address and so many bytes. -/
structure Acknowledgements (len : UInt16) where
  answers : List Answer
  acknowledged : ∀ answer ∈ answers, answer.nack = false
  count : answers.length = len.toNat + 1

/-- The answers of a slave that takes its address and sends so many bytes, the
first with the answer to the address. -/
structure Reception (len : UInt16) where
  answers : List Answer
  acknowledged : ∀ first ∈ answers.head?, first.nack = false
  count : answers.length = len.toNat

namespace BlockTransfer

variable (call : BlockTransfer) (later : List Answer)

theorem writeNBytes_completes (refusals : Refusals) (acks : Acknowledgements call.len) :
    (call.before.writeNBytes call.address call.data call.len call.stale
      (refusals.answers ++ (acks.answers ++ later))).Completes call.before.bus
      (.flush :: List.replicate (refusals.answers.length + 1) (.address (call.address <<< 1)) ++
        (bytesAt call.before.memory call.data call.len.toNat).map .data ++ [.stop])
      call.before.memory later := by
  obtain ⟨started, run, phase, pointer, length, memory, address, log⟩ :=
    writeNBytes_eq call.free call.address call.data call.len call.stale
      (refusals.answers ++ (acks.answers ++ later))
  have sent : (started.closeLoop (refusals.answers ++ (acks.answers ++ later))).Completes
      started.bus
      (List.replicate refusals.answers.length (.address (call.address <<< 1)) ++
        ((bytesAt call.before.memory call.data call.len.toNat).map .data ++ [.stop]))
      call.before.memory later := by
    rw [← address, ← pointer, ← memory]
    refine addressing_completes phase refusals.refused ?_
    intro next accepted nextPointer nextLength nextMemory _
    have sameLength : next.dataLength = call.len := nextLength.trans length
    have sends : (next.closeLoop (acks.answers ++ later)).Completes next.bus
        ((bytesAt next.memory next.dataPtr next.dataLength.toNat).map .data ++ [.stop])
        next.memory later := by
      refine sending_completes accepted ?_ acks.acknowledged ?_
      · rw [sameLength]
        exact call.nonempty
      · rw [sameLength]
        exact acks.count
    rw [sameLength, nextPointer, nextMemory] at sends
    exact sends
  have whole := sent.prepend _ log
  rw [run]
  simpa only [List.replicate_succ, List.cons_append, List.nil_append, List.append_assoc]
    using whole

theorem readNBytes_completes (reception : Reception call.len) :
    (call.before.readNBytes call.address call.data call.len call.stale
      (reception.answers ++ later)).Completes call.before.bus
      ([.flush, .address (call.address <<< 1 ||| 1)] ++ receptions call.len.toNat)
      (withBytes call.before.memory call.data (reception.answers.map (·.mdata))) later := by
  obtain ⟨started, run, handles, pointer, length, memory, log⟩ :=
    readNBytes_eq call.free call.address call.data call.len call.stale (reception.answers ++ later)
  have received : (started.closeLoop (reception.answers ++ later)).Completes started.bus
      (receptions call.len.toNat)
      (withBytes call.before.memory call.data (reception.answers.map (·.mdata))) later := by
    rw [← memory, ← pointer, ← reception.count]
    refine receiving_completes handles ?_ reception.acknowledged ?_
    · rw [length]
      exact call.nonempty
    · rw [length]
      exact reception.count
  rw [run]
  exact received.prepend _ log

theorem readDataBlock_completes (reg : UInt8) (regAt : UInt16) (refusals : Refusals)
    {addressed registered : Answer} (addressAck : addressed.nack = false)
    (registerAck : registered.nack = false) (reception : Reception call.len) :
    (call.before.readDataBlock call.address reg regAt call.data call.len call.stale
      (refusals.answers ++ (addressed :: registered :: (reception.answers ++ later)))).Completes
      call.before.bus
      (.flush :: List.replicate (refusals.answers.length + 1) (.address (call.address <<< 1)) ++
        [.data reg, .address (call.address <<< 1 ||| 1)] ++ receptions call.len.toNat)
      (withBytes (Function.update call.before.memory regAt reg) call.data
        (reception.answers.map (·.mdata))) later := by
  have free : (call.before.store regAt reg).inUse = false := call.free
  obtain ⟨started, run, phase, pointer, length, memory, address, log⟩ :=
    readRegister_eq free call.address regAt call.data call.len call.stale
      (refusals.answers ++ (addressed :: registered :: (reception.answers ++ later)))
  have read : (started.closeLoop (refusals.answers ++
      (addressed :: registered :: (reception.answers ++ later)))).Completes started.bus
      (List.replicate refusals.answers.length (.address (call.address <<< 1)) ++
        ([.data reg] ++ ([.address (call.address <<< 1 ||| 1)] ++ receptions call.len.toNat)))
      (withBytes (Function.update call.before.memory regAt reg) call.data
        (reception.answers.map (·.mdata))) later := by
    rw [← address]
    refine addressing_completes phase refusals.refused ?_
    intro next accepted nextPointer nextLength nextMemory nextAddress
    have sameMemory : next.memory = Function.update call.before.memory regAt reg :=
      nextMemory.trans memory
    have number : next.memory next.dataPtr = reg := by
      rw [sameMemory, nextPointer, pointer, Function.update_self]
    have empty : ¬next.dataLength - 1 ≠ 0 := by
      rw [nextLength, length]
      decide
    have sent := accepted.handles.byteSent addressAck
    rw [if_neg empty] at sent
    refine completes_cons accepted.busy sent [.data reg] ?_ ?_
    · rw [← number]
      rfl
    have emptied := accepted.transmitByte .txEmpty
    refine completes_cons emptied.busy (emptied.handles.registerSent registerAck)
      [.address (started.address <<< 1 ||| 1)] ?_ ?_
    · rw [← nextAddress]
      rfl
    rw [← sameMemory, ← reception.count]
    exact receiving_completes (emptied.reading call.data call.len).handles call.nonempty
      reception.acknowledged reception.count
  have sameLog : started.bus =
      [.flush, .address (call.address <<< 1)].reverse ++ call.before.bus := log
  have whole := read.prepend _ sameLog
  show (Driver.readRegister _ _ _ _ _ _).Completes _ _ _ _
  unfold rdBlkRegCompleteHandler
  rw [run]
  simpa only [List.replicate_succ, List.cons_append, List.nil_append, List.append_assoc]
    using whole

/-- **Block transfers move exactly the requested bytes.** A write that is taken
after any number of refused addresses sends the bytes of its buffer, in order, and
one stop; the two reads store the received bytes in order, refuse only the last
one and leave the rest of the memory alone. Each leaves the driver idle and free. -/
theorem movesExactly :
    (∀ (refusals : Refusals) (acks : Acknowledgements call.len),
      (call.before.writeNBytes call.address call.data call.len call.stale
        (refusals.answers ++ (acks.answers ++ later))).Completes call.before.bus
        (.flush ::
          List.replicate (refusals.answers.length + 1) (.address (call.address <<< 1)) ++
          (bytesAt call.before.memory call.data call.len.toNat).map .data ++ [.stop])
        call.before.memory later) ∧
    (∀ reception : Reception call.len,
      (call.before.readNBytes call.address call.data call.len call.stale
        (reception.answers ++ later)).Completes call.before.bus
        ([.flush, .address (call.address <<< 1 ||| 1)] ++ receptions call.len.toNat)
        (withBytes call.before.memory call.data (reception.answers.map (·.mdata))) later) ∧
    ∀ (reg : UInt8) (regAt : UInt16) (refusals : Refusals) (addressed registered : Answer)
      (reception : Reception call.len), addressed.nack = false → registered.nack = false →
      (call.before.readDataBlock call.address reg regAt call.data call.len call.stale
        (refusals.answers ++
          (addressed :: registered :: (reception.answers ++ later)))).Completes call.before.bus
        (.flush ::
          List.replicate (refusals.answers.length + 1) (.address (call.address <<< 1)) ++
          [.data reg, .address (call.address <<< 1 ||| 1)] ++ receptions call.len.toNat)
        (withBytes (Function.update call.before.memory regAt reg) call.data
          (reception.answers.map (·.mdata))) later := by
  refine ⟨call.writeNBytes_completes later, call.readNBytes_completes later, ?_⟩
  intro reg regAt refusals addressed registered reception addressAck registerAck
  exact call.readDataBlock_completes later reg regAt refusals addressAck registerAck reception

/-- A call for two bytes at address 10. -/
private def twoBytes : BlockTransfer :=
  ⟨.unused, Driver.unused_inUse, 0x18, 10, 2, by decide, false⟩

/-- The slave refuses its address once. -/
private def refusedOnce : Refusals := ⟨[⟨true, 0⟩], by decide⟩

private def twoReceived : Reception 2 := ⟨[⟨false, 7⟩, ⟨true, 9⟩], by decide, rfl⟩

theorem movesExactly_two :
    (Driver.unused.readDataBlock 0x18 5 0 10 2 false
      [⟨true, 0⟩, ⟨false, 0⟩, ⟨false, 0⟩, ⟨false, 7⟩, ⟨true, 9⟩]).Completes []
      [.flush, .address 0x30, .address 0x30, .data 5, .address 0x31, .ackAction false, .recvTrans,
        .ackAction true, .ackAction true, .stop]
      (withBytes (Function.update (fun _ => 0) 0 5) 10 [7, 9]) [] :=
  (movesExactly twoBytes []).2.2 5 0 refusedOnce ⟨false, 0⟩ ⟨false, 0⟩ twoReceived rfl rfl

end BlockTransfer

end MicrochipDay.I2c
