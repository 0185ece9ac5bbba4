import MicrochipDay.I2c.Errors

/-!
Owns the register reads of the simple I2C master (i2c_simple_master.c) against a
slave that acknowledges or not as it likes, on a bus without collisions and bus
errors.

A call holds the processor in its last loop until the driver is not busy; when
the answers of the slave run out before that, the call is still in the loop.
-/

namespace MicrochipDay.I2c

/-- What the slave answers: whether it acknowledges, and the byte that it sends. -/
structure Answer where
  nack : Bool
  mdata : UInt8
deriving DecidableEq, Repr

def Answer.interrupt (answer : Answer) : Interrupt :=
  ⟨answer.nack, false, false, answer.mdata, fun _ => ⟨none, [], .stop⟩⟩

namespace Driver

def store (driver : Driver) (pointer : UInt16) (byte : UInt8) : Driver :=
  { driver with memory := Function.update driver.memory pointer byte }

theorem i2cOpen_noerr {driver : Driver} {address : UInt8}
    (opened : (driver.i2cOpen address).2 = .noerr) :
    driver.inUse = false ∧ (driver.i2cOpen address).1.inUse = true := by
  unfold i2cOpen at opened ⊢
  cases used : driver.inUse with
  | true =>
      rw [if_pos used] at opened
      exact I2cError.noConfusion opened
  | false => exact ⟨rfl, rfl⟩

/-- `while (!I2C_0_open(address));`: `I2C_NOERR` is zero, so the loop goes on
after the call that opens the bus, and the next one leaves it. -/
def openLoop (driver : Driver) (address : UInt8) : Driver :=
  if (driver.i2cOpen address).2 = .noerr then openLoop (driver.i2cOpen address).1 address
  else (driver.i2cOpen address).1
termination_by if driver.inUse then 0 else 1
decreasing_by
  rename_i opened
  obtain ⟨free, used⟩ := i2cOpen_noerr opened
  simp [free, used]

theorem openLoop_of_inUse {driver : Driver} (used : driver.inUse = true) (address : UInt8) :
    driver.openLoop address = driver := by
  have refused : driver.i2cOpen address = (driver, .busy) := if_pos used
  rw [openLoop, refused]
  rfl

theorem openLoop_of_free {driver : Driver} (free : driver.inUse = false) (address : UInt8) :
    driver.openLoop address = (driver.i2cOpen address).1 := by
  have opened : driver.i2cOpen address = ((driver.i2cOpen address).1, .noerr) := by
    unfold i2cOpen
    rw [if_neg (by rw [free]; decide)]
  have used : (driver.i2cOpen address).1.inUse = true :=
    (i2cOpen_noerr (congrArg Prod.snd opened)).2
  rw [openLoop, if_pos (congrArg Prod.snd opened)]
  exact openLoop_of_inUse used address

end Driver

/-- How a transfer goes: the driver, what `I2C_0_close` returned unless the call
is still waiting for that, and the answers that are left. -/
structure Transfer where
  driver : Driver
  error : Option I2cError
  answers : List Answer

/-- `while (I2C_BUSY == I2C_0_close());`, with the interrupts that arrive in the
loop. -/
def Driver.closeLoop (driver : Driver) : List Answer → Transfer
  | [] =>
      let (closed, error) := driver.i2cClose false
      ⟨closed, if error = .busy then none else some error, []⟩
  | answer :: answers =>
      let (closed, error) := driver.i2cClose false
      if error = .busy then (closed.masterIsr answer.interrupt).closeLoop answers
      else ⟨closed, some error, answer :: answers⟩

theorem Driver.i2cClose_free {driver : Driver} {buserr : Bool}
    (closed : (driver.i2cClose buserr).2 ≠ .busy) :
    (driver.i2cClose buserr).1.inUse = false := by
  unfold Driver.i2cClose at closed ⊢
  generalize (if buserr then { driver with busy := false, error := .fail } else driver) = found
    at closed ⊢
  by_cases busy : found.busy
  · rw [if_pos busy] at closed
    exact absurd rfl closed
  · rw [if_neg busy]

/-- The bus is free again when a call returns. -/
theorem closeLoop_free {driver : Driver} {answers : List Answer}
    (returned : (driver.closeLoop answers).error ≠ none) :
    (driver.closeLoop answers).driver.inUse = false := by
  induction answers generalizing driver with
  | nil =>
      unfold Driver.closeLoop at returned ⊢
      apply Driver.i2cClose_free
      intro busy
      exact returned (if_pos busy)
  | cons answer answers inductionHypothesis =>
      rw [Driver.closeLoop] at returned ⊢
      by_cases busy : (driver.i2cClose false).2 = .busy
      · simp only [if_pos busy] at returned ⊢
        exact inductionHypothesis returned
      · simp only [if_neg busy]
        exact Driver.i2cClose_free busy

/-! ## Reading registers -/

/-- `I2C_0_rd1RegCompleteHandler`. -/
def rd1RegCompleteHandler (p : UInt16) : Callback := .regComplete p 1 .restartRead

/-- `I2C_0_rd2RegCompleteHandler`. -/
def rd2RegCompleteHandler (p : UInt16) : Callback := .regComplete p 2 .restartRead

/-- `I2C_0_rdBlkRegCompleteHandler` on an `I2C_0_buf_t`. -/
def rdBlkRegCompleteHandler (data len : UInt16) : Callback := .regComplete data len .restartRead

/-- What the three functions have in common, with the register number stored at
`reg`; `stale` is the acknowledge bit that the start of the write finds. -/
def Driver.readRegister (driver : Driver) (address : UInt8) (reg : UInt16) (handler : Callback)
    (stale : Bool) (answers : List Answer) : Transfer :=
  let driver := driver.openLoop address
  let driver := driver.setCallback .dataComplete handler
  let driver := driver.setBuffer reg 1
  let driver := driver.setCallback .addressNack .restartWrite
  let driver := (driver.masterOperation (Answer.interrupt ⟨stale, 0⟩) false).1
  driver.closeLoop answers

/-- The loop of `I2C_0_read1ByteRegister` over its attempts, after an earlier one. -/
def Transfer.read1Attempts (address : UInt8) (reg d2 : UInt16) (stale : Bool)
    (transfer : Transfer) : Nat → Transfer
  | 0 => transfer
  | attempts + 1 =>
      let attempt := transfer.driver.readRegister address reg (rd1RegCompleteHandler d2) stale
        transfer.answers
      match attempt.error with
      | none | some .noerr => attempt
      | some _ => attempt.read1Attempts address reg d2 stale attempts

/-- `I2C_0_read1ByteRegister` with its parameter at `&reg` and its local at `&d2`,
and what it returns. -/
def Driver.read1ByteRegister (driver : Driver) (address reg : UInt8) (regAt d2 : UInt16)
    (stale : Bool) (answers : List Answer) : Transfer × UInt8 :=
  let driver := (driver.store regAt reg).store d2 42
  let transfer := Transfer.read1Attempts address regAt d2 stale ⟨driver, none, answers⟩ 2
  (transfer, transfer.driver.memory d2)

/-- `I2C_0_read2ByteRegister` with its parameter at `&reg` and its local at
`&result`, and what it returns: the bytes of the local swapped. -/
def Driver.read2ByteRegister (driver : Driver) (address reg : UInt8) (regAt resultAt : UInt16)
    (stale : Bool) (answers : List Answer) : Transfer × UInt16 :=
  let driver := driver.store regAt reg
  let transfer := driver.readRegister address regAt (rd2RegCompleteHandler resultAt) stale answers
  let result := (transfer.driver.memory resultAt).toUInt16 |||
    (transfer.driver.memory (resultAt + 1)).toUInt16 <<< 8
  (transfer, result <<< 8 ||| result >>> 8)

/-- `I2C_0_readDataBlock` with its parameter at `&reg`. -/
def Driver.readDataBlock (driver : Driver) (address reg : UInt8) (regAt data len : UInt16)
    (stale : Bool) (answers : List Answer) : Transfer :=
  let driver := driver.store regAt reg
  driver.readRegister address regAt (rdBlkRegCompleteHandler data len) stale answers

end MicrochipDay.I2c
