import Mathlib.Algebra.Group.Nat.Defs
import MicrochipDay.I2c.SimpleMaster

/-!
Owns the phases of a register read: what each answer of the slave does to the
driver in each of them, and which data bytes go out from there on.
-/

namespace MicrochipDay.I2c

/-! ## What a log transmits -/

def BusAction.transmitted? : BusAction → Option UInt8
  | .data mdata => some mdata
  | _ => none

/-- The data bytes that the master has transmitted, oldest first. -/
def dataBytes (bus : List BusAction) : List UInt8 := bus.reverse.filterMap BusAction.transmitted?

@[simp] theorem dataBytes_cons (action : BusAction) (bus : List BusAction) :
    dataBytes (action :: bus) = dataBytes bus ++ action.transmitted?.toList := by
  unfold dataBytes
  rw [List.reverse_cons, List.filterMap_append]
  cases action <;> rfl

/-- A consecutive part of the memory. -/
def bytesAt (memory : UInt16 → UInt8) (pointer : UInt16) (count : Nat) : List UInt8 :=
  (List.range count).map fun offset => memory (pointer + UInt16.ofNat offset)

theorem bytesAt_succ (memory : UInt16 → UInt8) (pointer : UInt16) (count : Nat) :
    bytesAt memory pointer (count + 1) = memory pointer :: bytesAt memory (pointer + 1) count := by
  have shifted (offset : Nat) :
      pointer + UInt16.ofNat (offset + 1) = pointer + 1 + UInt16.ofNat offset := by
    rw [UInt16.ofNat_add, UInt16.add_comm (UInt16.ofNat offset), ← UInt16.add_assoc]
    rfl
  unfold bytesAt
  rw [List.range_succ_eq_map, List.map_cons, List.map_map]
  simp only [Function.comp_def, Nat.succ_eq_add_one, shifted]
  rw [show UInt16.ofNat 0 = 0 from rfl, UInt16.add_zero]

/-- How many bytes a buffer of this size lasts for: its size is decremented before
it is compared to zero. -/
def bufferBytes (size : UInt16) : Nat := if size = 0 then 2 ^ 16 else size.toNat

theorem bufferBytes_one : bufferBytes 1 = 1 := rfl

theorem bufferBytes_succ {size : UInt16} (more : size ≠ 1) :
    bufferBytes size = bufferBytes (size - 1) + 1 := by
  unfold bufferBytes
  have next : size - 1 ≠ 0 := by grind
  rw [if_neg next]
  split
  · next empty =>
    rw [empty]
    rfl
  · next nonempty =>
    have positive : size.toNat ≠ 0 := fun zero => nonempty (UInt16.toNat_inj.mp zero)
    have one : (1 : UInt16).toNat = 1 := rfl
    rw [UInt16.toNat_sub_of_le _ _ (UInt16.le_iff_toNat_le.mpr (by omega)), one]
    omega

/-! ## What the slave takes -/

/-- How many bytes a slave acknowledges after it has been asked to be read: none
unless it refuses, and otherwise what it takes once it acknowledges its address
again, which is then the one for writing. -/
def takenForReading : List Answer → Nat
  | [] => 0
  | reading :: answers =>
      if reading.nack then ((answers.dropWhile (·.nack)).takeWhile (!·.nack)).length else 0

/-- The same after the register number has been sent. -/
def takenAfterRegister : List Answer → Nat
  | [] => 0
  | register :: answers => if register.nack then 0 else takenForReading answers

/-! ## What an answer does in each phase -/

/-- A busy driver in a state, with its callback for the end of the buffer. -/
structure Handles (driver : Driver) (state : FsmState) (check : Bool) (complete : Callback) :
    Prop where
  busy : driver.busy = true
  state : driver.state = state
  check : driver.addressNackCheck = check
  complete : driver.callbackTable .dataComplete = complete

/-- A busy driver in a state of a register read, with its callbacks. -/
structure Phase (driver : Driver) (state : FsmState) (check : Bool) (complete : Callback) :
    Prop where
  busy : driver.busy = true
  state : driver.state = state
  check : driver.addressNackCheck = check
  complete : driver.callbackTable .dataComplete = complete
  addressNack : driver.callbackTable .addressNack = .restartWrite
  dataNack : driver.callbackTable .dataNack = .returnStop

/-- What is left of a driver that has sent a stop. -/
def Driver.stopped (driver : Driver) : Driver :=
  { driver.drive .stop with busy := false, error := .noerr, state := .idle }

/-- What is left of a driver that has sent its address for writing after a NACK. -/
def Driver.restarted (driver : Driver) : Driver :=
  { driver.drive (.address (driver.address <<< 1)) with
    addressNackCheck := true, error := .fail, state := .tx }

/-- The driver that reads into the buffer once the register number is sent. -/
def Driver.reading (driver : Driver) (buffer size : UInt16) : Driver :=
  { driver.drive (.address (driver.address <<< 1 ||| 1)) with
    dataPtr := buffer
    dataLength := size
    bufferFree := false
    callbackTable := Function.update driver.callbackTable .dataComplete .returnStop
    addressNackCheck := true
    state := .rx }

section Transmissions

variable (driver : Driver)

@[simp] theorem dataBytes_stopped : dataBytes driver.stopped.bus = dataBytes driver.bus := by
  simp [Driver.stopped, Driver.drive, BusAction.transmitted?]

@[simp] theorem dataBytes_restarted : dataBytes driver.restarted.bus = dataBytes driver.bus := by
  simp [Driver.restarted, Driver.drive, BusAction.transmitted?]

@[simp] theorem dataBytes_reading (buffer size : UInt16) :
    dataBytes (driver.reading buffer size).bus = dataBytes driver.bus := by
  simp [Driver.reading, Driver.drive, BusAction.transmitted?]

theorem dataBytes_transmitByte :
    dataBytes driver.transmitByte.bus =
      dataBytes driver.bus ++ [driver.memory driver.dataPtr] := by
  simp [Driver.transmitByte, Driver.drive, BusAction.transmitted?]

@[simp] theorem dataBytes_receiveByte (interrupt : Interrupt) :
    dataBytes (driver.receiveByte interrupt).bus = dataBytes driver.bus := by
  simp [Driver.receiveByte, Driver.drive, BusAction.transmitted?]

@[simp] theorem dataBytes_recvTrans :
    dataBytes (driver.drive .recvTrans).bus = dataBytes driver.bus := by
  simp [Driver.drive, BusAction.transmitted?]

@[simp] theorem dataBytes_ackAction (nack : Bool) :
    dataBytes (driver.drive (.ackAction nack)).bus = dataBytes driver.bus := by
  simp [Driver.drive, BusAction.transmitted?]

end Transmissions

namespace Handles

variable {driver : Driver} {state : FsmState} {check : Bool} {complete : Callback}
  {answer : Answer}

theorem overriddenState_eq (handles : Handles driver state check complete) :
    driver.overriddenState answer.interrupt =
      if check && answer.nack then .addressNack else state := by
  unfold Driver.overriddenState
  rw [handles.state, handles.check]
  rfl

/-- The handler of the state runs unless the address is not acknowledged. -/
theorem masterIsr_eq (handles : Handles driver state check complete) {next : Driver × FsmState}
    (handled : driver.fsmStateTable answer.interrupt state = next)
    (goesOn : (check && answer.nack) = false) :
    driver.masterIsr answer.interrupt = { next.1 with state := next.2 } := by
  unfold Driver.masterIsr
  rw [handles.overriddenState_eq, goesOn, if_neg Bool.false_ne_true, handled]

theorem rxack_eq (ack : answer.nack = false) : ¬answer.interrupt.rxack = true := by
  rw [show answer.interrupt.rxack = false from ack]
  decide

theorem byteSent (handles : Handles driver .tx check complete) (ack : answer.nack = false) :
    driver.masterIsr answer.interrupt =
      { driver.transmitByte with
        state := if driver.dataLength - 1 ≠ 0 then .tx else .txEmpty } := by
  have handled : driver.doI2cTx answer.interrupt =
      (driver.transmitByte, if driver.dataLength - 1 ≠ 0 then .tx else .txEmpty) := by
    unfold Driver.doI2cTx
    rw [if_neg (rxack_eq ack)]
    rfl
  exact handles.masterIsr_eq handled (by rw [ack, Bool.and_false])

theorem bufferSent (handles : Handles driver .txEmpty check .returnStop)
    (ack : answer.nack = false) :
    driver.masterIsr answer.interrupt = { driver with bufferFree := true }.stopped := by
  have complete := handles.complete
  have handled : driver.doI2cTxEmpty answer.interrupt =
      ({ driver with bufferFree := true }.drive .stop).doI2cIdle := by
    unfold Driver.doI2cTxEmpty Driver.call
    simp only [if_neg (rxack_eq ack), complete]
    rfl
  rw [handles.masterIsr_eq handled (by rw [ack, Bool.and_false])]
  rfl

theorem registerSent {buffer size : UInt16}
    (handles : Handles driver .txEmpty check (.regComplete buffer size .restartRead))
    (ack : answer.nack = false) :
    driver.masterIsr answer.interrupt = driver.reading buffer size := by
  have complete := handles.complete
  have handled : driver.doI2cTxEmpty answer.interrupt =
      ({ driver.reading buffer size with state := driver.state }, .rx) := by
    unfold Driver.doI2cTxEmpty Driver.call
    simp only [if_neg (rxack_eq ack), complete]
    rfl
  exact handles.masterIsr_eq handled (by rw [ack, Bool.and_false])

theorem received (handles : Handles driver .rx check complete) (interrupt : Interrupt) :
    Handles { (driver.receiveByte interrupt).drive .recvTrans with state := .rx } .rx false
      complete :=
  ⟨handles.busy, rfl, rfl, handles.complete⟩

theorem byteReceived (handles : Handles driver .rx check .returnStop)
    (goesOn : (check && answer.nack) = false) (more : driver.dataLength - 1 ≠ 0) :
    driver.masterIsr answer.interrupt =
      { (driver.receiveByte answer.interrupt).drive .recvTrans with state := .rx } := by
  have left : (driver.receiveByte answer.interrupt).dataLength ≠ 0 := more
  have handled : driver.doI2cRx answer.interrupt =
      ((driver.receiveByte answer.interrupt).drive .recvTrans, .rx) := by
    unfold Driver.doI2cRx
    simp only [if_pos left]
  exact handles.masterIsr_eq handled goesOn

theorem lastReceived (handles : Handles driver .rx check .returnStop)
    (goesOn : (check && answer.nack) = false) (last : driver.dataLength - 1 = 0) :
    driver.masterIsr answer.interrupt =
      ({ driver.receiveByte answer.interrupt with bufferFree := true }.drive
        (.ackAction true)).stopped := by
  have complete : (driver.receiveByte answer.interrupt).callbackTable .dataComplete =
    .returnStop := handles.complete
  have ended : ¬(driver.receiveByte answer.interrupt).dataLength ≠ 0 := not_not.mpr last
  have handled : driver.doI2cRx answer.interrupt =
      Driver.doI2cDoNackStop { driver.receiveByte answer.interrupt with bufferFree := true } := by
    unfold Driver.doI2cRx Driver.call
    simp only [if_neg ended, complete]
    rfl
  rw [handles.masterIsr_eq handled goesOn]
  rfl

end Handles

namespace Phase

variable {driver : Driver} {state : FsmState} {check : Bool} {complete : Callback}
  {answer : Answer}

theorem handles (phase : Phase driver state check complete) :
    Handles driver state check complete :=
  ⟨phase.busy, phase.state, phase.check, phase.complete⟩

theorem addressRefused (phase : Phase driver state true complete) (nack : answer.nack = true) :
    driver.masterIsr answer.interrupt = driver.restarted := by
  have addressNack := phase.addressNack
  have handled : driver.doI2cDoAddressNack answer.interrupt =
      ({ driver.restarted with state := driver.state }, .tx) := by
    unfold Driver.doI2cDoAddressNack Driver.call
    simp only [addressNack]
    rfl
  unfold Driver.masterIsr
  rw [phase.handles.overriddenState_eq, nack]
  show { (driver.doI2cDoAddressNack answer.interrupt).1 with
    state := (driver.doI2cDoAddressNack answer.interrupt).2 } = driver.restarted
  rw [handled]
  rfl

theorem restarted (phase : Phase driver state true complete) :
    Phase driver.restarted .tx true complete :=
  ⟨phase.busy, rfl, rfl, phase.complete, phase.addressNack, phase.dataNack⟩

/-- The `switch` on a NACK of a data byte. -/
theorem nacked_eq (phase : Phase driver state check complete) :
    Driver.restartOr Driver.doI2cSendStop (driver.call answer.interrupt .dataNack) =
      (driver.drive .stop).doI2cIdle := by
  have dataNack := phase.dataNack
  unfold Driver.call
  simp only [dataNack]
  rfl

theorem txRefused (phase : Phase driver .tx false complete) (nack : answer.nack = true) :
    driver.masterIsr answer.interrupt = driver.stopped := by
  have refused : answer.interrupt.rxack = true := nack
  have handled : driver.doI2cTx answer.interrupt = (driver.drive .stop).doI2cIdle := by
    unfold Driver.doI2cTx
    rw [if_pos refused, phase.nacked_eq]
  rw [phase.handles.masterIsr_eq handled (Bool.false_and _)]
  rfl

theorem txEmptyRefused (phase : Phase driver .txEmpty false complete)
    (nack : answer.nack = true) : driver.masterIsr answer.interrupt = driver.stopped := by
  have refused : answer.interrupt.rxack = true := nack
  have handled : driver.doI2cTxEmpty answer.interrupt = (driver.drive .stop).doI2cIdle := by
    unfold Driver.doI2cTxEmpty
    rw [if_pos refused, phase.nacked_eq]
  rw [phase.handles.masterIsr_eq handled (Bool.false_and _)]
  rfl

theorem transmitByte (phase : Phase driver state check complete) (next : FsmState) :
    Phase { driver.transmitByte with state := next } next false complete :=
  ⟨phase.busy, rfl, rfl, phase.complete, phase.addressNack, phase.dataNack⟩

theorem received (phase : Phase driver .rx check complete) (interrupt : Interrupt) :
    Phase { (driver.receiveByte interrupt).drive .recvTrans with state := .rx } .rx false
      complete :=
  ⟨phase.busy, rfl, rfl, phase.complete, phase.addressNack, phase.dataNack⟩

theorem reading (phase : Phase driver state check complete) (buffer size : UInt16) :
    Phase (driver.reading buffer size) .rx true .returnStop :=
  ⟨phase.busy, rfl, rfl, rfl, phase.addressNack, phase.dataNack⟩

end Phase

/-! ## What a transfer sends -/

section Sends

variable {driver : Driver} {answers : List Answer}

/-- The transfer has sent these data bytes beyond the log, and no failure is
reported. -/
structure Transfer.Sends (transfer : Transfer) (bus : List BusAction) (bytes : List UInt8) :
    Prop where
  noFailure : transfer.error = none ∨ transfer.error = some .noerr
  bytes : dataBytes transfer.driver.bus = dataBytes bus ++ bytes

theorem closeLoop_nil (busy : driver.busy = true) : driver.closeLoop [] = ⟨driver, none, []⟩ := by
  have waits : driver.i2cClose false = (driver, .busy) := if_pos busy
  unfold Driver.closeLoop
  rw [waits]
  rfl

theorem closeLoop_cons (busy : driver.busy = true) (answer : Answer) :
    driver.closeLoop (answer :: answers) =
      (driver.masterIsr answer.interrupt).closeLoop answers := by
  have waits : driver.i2cClose false = (driver, .busy) := if_pos busy
  rw [Driver.closeLoop, waits]
  rfl

theorem closeLoop_stopped :
    driver.stopped.closeLoop answers =
      ⟨{ driver.stopped with inUse := false, address := 0xff }, some .noerr, answers⟩ := by
  cases answers <;> rfl

theorem sends_nil (busy : driver.busy = true) : (driver.closeLoop []).Sends driver.bus [] := by
  rw [closeLoop_nil busy]
  exact ⟨Or.inl rfl, (List.append_nil _).symm⟩

theorem sends_stopped : (driver.stopped.closeLoop answers).Sends driver.bus [] := by
  rw [closeLoop_stopped]
  exact ⟨Or.inr rfl, by simp⟩

variable {answer : Answer} {next : Driver} {later : List UInt8}

/-- An answer on which the driver sends no data byte. -/
theorem sends_silent (busy : driver.busy = true)
    (handled : driver.masterIsr answer.interrupt = next)
    (silent : dataBytes next.bus = dataBytes driver.bus)
    (rest : (next.closeLoop answers).Sends next.bus later) :
    (driver.closeLoop (answer :: answers)).Sends driver.bus later := by
  rw [closeLoop_cons busy, handled]
  exact ⟨rest.noFailure, by rw [rest.bytes, silent]⟩

/-- An answer on which the driver stops. -/
theorem sends_last (busy : driver.busy = true)
    (handled : driver.masterIsr answer.interrupt = next.stopped)
    (silent : dataBytes next.bus = dataBytes driver.bus) :
    (driver.closeLoop (answer :: answers)).Sends driver.bus [] := by
  have rest : (next.stopped.closeLoop answers).Sends next.bus [] := sends_stopped
  rw [closeLoop_cons busy, handled]
  exact ⟨rest.noFailure, by rw [rest.bytes, silent]⟩

/-- An answer on which the driver sends the next byte of its buffer. -/
theorem sends_byte {complete : Callback} {check : Bool} (phase : Phase driver .tx check complete)
    (ack : answer.nack = false)
    (rest : (Driver.closeLoop { driver.transmitByte with
        state := if driver.dataLength - 1 ≠ 0 then .tx else .txEmpty } answers).Sends
      driver.transmitByte.bus later) :
    (driver.closeLoop (answer :: answers)).Sends driver.bus
      (driver.memory driver.dataPtr :: later) := by
  rw [closeLoop_cons phase.busy, phase.handles.byteSent ack]
  refine ⟨rest.noFailure, ?_⟩
  rw [rest.bytes, dataBytes_transmitByte, List.append_assoc]
  rfl

/-! ### The phases of a read -/

theorem received_sends {check : Bool} (phase : Phase driver .rx check .returnStop)
    (goesOn : (check && answer.nack) = false)
    (rest : ∀ next : Driver, Phase next .rx false .returnStop →
      (next.closeLoop answers).Sends next.bus []) :
    (driver.closeLoop (answer :: answers)).Sends driver.bus [] := by
  by_cases last : driver.dataLength - 1 = 0
  · exact sends_last phase.busy (phase.handles.lastReceived goesOn last) (by simp)
  · apply sends_silent phase.busy (phase.handles.byteReceived goesOn last) (by simp)
    exact rest _ (phase.received _)

/-- Nothing is sent while the buffer is read. -/
theorem receiving_sends (phase : Phase driver .rx false .returnStop) :
    (driver.closeLoop answers).Sends driver.bus [] := by
  induction answers generalizing driver with
  | nil => exact sends_nil phase.busy
  | cons answer answers inductionHypothesis =>
      apply received_sends phase (Bool.false_and _)
      intro next receiving
      exact inductionHypothesis receiving

theorem sent_sends (phase : Phase driver .txEmpty false .returnStop) :
    (driver.closeLoop answers).Sends driver.bus [] := by
  cases answers with
  | nil => exact sends_nil phase.busy
  | cons answer answers =>
      cases nack : answer.nack with
      | true => exact sends_last phase.busy (phase.txEmptyRefused nack) rfl
      | false => exact sends_last phase.busy (phase.handles.bufferSent nack) rfl

/-- The bytes of the buffer that go out when so many are acknowledged. -/
def Driver.outgoing (driver : Driver) (acknowledged : Nat) : List UInt8 :=
  bytesAt driver.memory driver.dataPtr (min acknowledged (bufferBytes driver.dataLength))

theorem outgoing_zero : driver.outgoing 0 = [] := by
  unfold Driver.outgoing
  rw [Nat.zero_min]
  rfl

theorem accepted_sends {check : Bool} {acknowledged : Nat}
    (phase : Phase driver .tx check .returnStop) (ack : answer.nack = false)
    (rest : ∀ next : Driver, Phase next .tx false .returnStop →
      (next.closeLoop answers).Sends next.bus (next.outgoing acknowledged)) :
    (driver.closeLoop (answer :: answers)).Sends driver.bus
      (driver.outgoing (acknowledged + 1)) := by
  unfold Driver.outgoing
  by_cases last : driver.dataLength = 1
  · have empty : ¬driver.dataLength - 1 ≠ 0 := by
      rw [last]
      decide
    rw [last, bufferBytes_one, Nat.min_eq_right (Nat.le_add_left 1 acknowledged), bytesAt_succ]
    apply sends_byte phase ack
    rw [if_neg empty]
    exact sent_sends (phase.transmitByte .txEmpty)
  · have more : driver.dataLength - 1 ≠ 0 := by grind
    rw [bufferBytes_succ last, Nat.succ_min_succ, bytesAt_succ]
    apply sends_byte phase ack
    rw [if_pos more]
    exact rest _ (phase.transmitByte .tx)

theorem sending_sends (phase : Phase driver .tx false .returnStop) :
    (driver.closeLoop answers).Sends driver.bus
      (driver.outgoing (answers.takeWhile (!·.nack)).length) := by
  induction answers generalizing driver with
  | nil =>
      show (driver.closeLoop []).Sends driver.bus (driver.outgoing 0)
      rw [outgoing_zero]
      exact sends_nil phase.busy
  | cons answer answers inductionHypothesis =>
      rw [List.takeWhile_cons]
      cases nack : answer.nack with
      | true =>
          show (driver.closeLoop (answer :: answers)).Sends driver.bus (driver.outgoing 0)
          rw [outgoing_zero]
          exact sends_last phase.busy (phase.txRefused nack) rfl
      | false =>
          apply accepted_sends phase nack
          intro next sending
          exact inductionHypothesis sending

/-- The address is sent again until it is acknowledged, then the buffer. -/
theorem addressing_sends (phase : Phase driver .tx true .returnStop) :
    (driver.closeLoop answers).Sends driver.bus
      (driver.outgoing ((answers.dropWhile (·.nack)).takeWhile (!·.nack)).length) := by
  induction answers generalizing driver with
  | nil =>
      show (driver.closeLoop []).Sends driver.bus (driver.outgoing 0)
      rw [outgoing_zero]
      exact sends_nil phase.busy
  | cons answer answers inductionHypothesis =>
      rw [List.dropWhile_cons]
      cases nack : answer.nack with
      | true =>
          apply sends_silent phase.busy (phase.addressRefused nack) (dataBytes_restarted driver)
          exact inductionHypothesis phase.restarted
      | false =>
          rw [if_neg Bool.false_ne_true, List.takeWhile_cons, nack]
          apply accepted_sends phase nack
          intro next sending
          exact sending_sends sending

theorem reading_sends (phase : Phase driver .rx true .returnStop) :
    (driver.closeLoop answers).Sends driver.bus (driver.outgoing (takenForReading answers)) := by
  cases answers with
  | nil =>
      show (driver.closeLoop []).Sends driver.bus (driver.outgoing 0)
      rw [outgoing_zero]
      exact sends_nil phase.busy
  | cons answer answers =>
      rw [takenForReading]
      cases nack : answer.nack with
      | true =>
          apply sends_silent phase.busy (phase.addressRefused nack) (dataBytes_restarted driver)
          exact addressing_sends phase.restarted
      | false =>
          rw [if_neg Bool.false_ne_true, outgoing_zero]
          apply received_sends phase (by rw [nack, Bool.and_false])
          intro next receiving
          exact receiving_sends receiving

variable {buffer size : UInt16}

theorem registerSent_sends
    (phase : Phase driver .txEmpty false (.regComplete buffer size .restartRead)) :
    (driver.closeLoop answers).Sends driver.bus
      ((driver.reading buffer size).outgoing (takenAfterRegister answers)) := by
  cases answers with
  | nil =>
      show (driver.closeLoop []).Sends driver.bus ((driver.reading buffer size).outgoing 0)
      rw [outgoing_zero]
      exact sends_nil phase.busy
  | cons answer answers =>
      rw [takenAfterRegister]
      cases nack : answer.nack with
      | true =>
          rw [if_pos rfl, outgoing_zero]
          exact sends_last phase.busy (phase.txEmptyRefused nack) rfl
      | false =>
          apply sends_silent phase.busy (phase.handles.registerSent nack)
            (dataBytes_reading driver buffer size)
          exact reading_sends (phase.reading buffer size)

/-- What the whole read transmits: the register number once the slave acknowledges
its address, then what goes out of the buffer. -/
def readBytes (memory : UInt16 → UInt8) (reg buffer size : UInt16) (answers : List Answer) :
    List UInt8 :=
  match answers.dropWhile (·.nack) with
  | [] => []
  | _ :: answers =>
      memory reg :: bytesAt memory buffer (min (takenAfterRegister answers) (bufferBytes size))

theorem register_sends (phase : Phase driver .tx true (.regComplete buffer size .restartRead))
    (length : driver.dataLength = 1) :
    (driver.closeLoop answers).Sends driver.bus
      (readBytes driver.memory driver.dataPtr buffer size answers) := by
  induction answers generalizing driver with
  | nil => exact sends_nil phase.busy
  | cons answer answers inductionHypothesis =>
      unfold readBytes
      rw [List.dropWhile_cons]
      cases nack : answer.nack with
      | true =>
          apply sends_silent phase.busy (phase.addressRefused nack) (dataBytes_restarted driver)
          exact inductionHypothesis phase.restarted length
      | false =>
          have empty : ¬driver.dataLength - 1 ≠ 0 := by
            rw [length]
            decide
          rw [if_neg Bool.false_ne_true]
          apply sends_byte phase nack
          rw [if_neg empty]
          exact registerSent_sends (phase.transmitByte .txEmpty)

end Sends

end MicrochipDay.I2c
