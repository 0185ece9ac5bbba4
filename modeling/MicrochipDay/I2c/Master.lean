import Mathlib.Logic.Function.Basic

/-!
Owns the interrupt-driven I2C master (i2c_master.c): its status, the handlers of
its state machine, and the calls that open, start and close a transaction.

The status bits of the TWI and the byte in its data register are inputs of each
interrupt. What the driver writes to the TWI is logged, newest first; the log
has the writes that reach the bus, not the flags that the driver clears. The
timeout fields are left out: nothing reads them.
-/

namespace MicrochipDay.I2c

/-! ## Enumerations -/

/-- `i2c_fsm_states_t`. -/
inductive FsmState where
  | idle
  | sendAdrRead
  | sendAdrWrite
  | tx
  | rx
  | txEmpty
  | sendRestartRead
  | sendRestartWrite
  | sendRestart
  | sendStop
  | rxDoAck
  | txDoAck
  | rxDoNackStop
  | rxDoNackRestart
  | reset
  | addressNack
  | busCollision
  | busError
deriving DecidableEq, Repr

/-- `i2c_callback_index`. -/
inductive CallbackIndex where
  | dataComplete
  | writeCollision
  | addressNack
  | dataNack
  | timeOut
  | null
deriving DecidableEq, Repr

/-- `i2c_error_t`. -/
inductive I2cError where
  | noerr
  | busy
  | fail
deriving DecidableEq, Repr

/-- `i2c_operations_t`. -/
inductive I2cOperation where
  | stop
  | restartRead
  | restartWrite
  | continueOn
  | resetLink
deriving DecidableEq, Repr

/-! ## Callbacks -/

/-- A callback with its payload: the ones of the driver and of i2c_types.c, the
completion handlers of i2c_simple_master.c, which hand over a buffer, and any
other that an application may set. -/
inductive Callback where
  | returnStop
  | returnReset
  | restartRead
  | restartWrite
  | regComplete (buffer size : UInt16) (operation : I2cOperation)
  | application (id : Nat)
deriving DecidableEq, Repr

/-- What a callback does: it may call `I2C_0_set_buffer`, may set callbacks, and
returns an operation. -/
structure CallbackResult where
  buffer : Option (UInt16 × UInt16)
  callbacks : List (CallbackIndex × Callback)
  operation : I2cOperation
deriving Repr

/-- What an interrupt finds: the bits of `MSTATUS`, the byte in `MDATA` and what
the callbacks of the application do this time. -/
structure Interrupt where
  rxack : Bool
  arblost : Bool
  buserr : Bool
  mdata : UInt8
  application : Nat → CallbackResult

def Callback.result (interrupt : Interrupt) : Callback → CallbackResult
  | .returnStop => ⟨none, [], .stop⟩
  | .returnReset => ⟨none, [], .resetLink⟩
  | .restartRead => ⟨none, [], .restartRead⟩
  | .restartWrite => ⟨none, [], .restartWrite⟩
  | .regComplete buffer size operation =>
      ⟨some (buffer, size), [(.dataComplete, .returnStop)], operation⟩
  | .application id => interrupt.application id

/-! ## The driver -/

/-- A write to the TWI: an address to `MADDR`, a byte to `MDATA`, or a command to
`MCTRLB`. -/
inductive BusAction where
  | address (maddr : UInt8)
  | data (mdata : UInt8)
  | ackAction (nack : Bool)
  | recvTrans
  | stop
  | flush
deriving DecidableEq, Repr

/-- `i2c_status_t`, with the memory that the data pointer points into and the
writes to the TWI. -/
structure Driver where
  busy : Bool
  inUse : Bool
  bufferFree : Bool
  addressNackCheck : Bool
  address : UInt8
  dataPtr : UInt16
  dataLength : UInt16
  state : FsmState
  error : I2cError
  callbackTable : CallbackIndex → Callback
  memory : UInt16 → UInt8
  bus : List BusAction

namespace Driver

def drive (driver : Driver) (action : BusAction) : Driver :=
  { driver with bus := action :: driver.bus }

def setCallback (driver : Driver) (index : CallbackIndex) (callback : Callback) : Driver :=
  { driver with callbackTable := Function.update driver.callbackTable index callback }

def setCallbacks (driver : Driver) (callbacks : List (CallbackIndex × Callback)) : Driver :=
  callbacks.foldl (fun driver pair => driver.setCallback pair.1 pair.2) driver

/-- `I2C_0_set_buffer`. -/
def setBuffer (driver : Driver) (buffer bufferSize : UInt16) : Driver :=
  if driver.bufferFree then
    { driver with dataPtr := buffer, dataLength := bufferSize, bufferFree := false }
  else driver

/-- The callback in the table is called. -/
def call (driver : Driver) (interrupt : Interrupt) (index : CallbackIndex) :
    Driver × I2cOperation :=
  let result := (driver.callbackTable index).result interrupt
  let driver :=
    match result.buffer with
    | some (buffer, size) => driver.setBuffer buffer size
    | none => driver
  (driver.setCallbacks result.callbacks, result.operation)

/-! ## Handlers of the state machine -/

def doI2cReset (driver : Driver) : Driver × FsmState :=
  ({ driver.drive .flush with busy := false, error := .noerr }, .reset)

def doI2cIdle (driver : Driver) : Driver × FsmState :=
  ({ driver with busy := false, error := .noerr }, .idle)

def doI2cSendAdrRead (driver : Driver) : Driver × FsmState :=
  ({ driver.drive (.address (driver.address <<< 1 ||| 1)) with addressNackCheck := true }, .rx)

def doI2cSendAdrWrite (driver : Driver) : Driver × FsmState :=
  ({ driver.drive (.address (driver.address <<< 1)) with addressNackCheck := true }, .tx)

def doI2cSendRestartRead (driver : Driver) : Driver × FsmState := driver.doI2cSendAdrRead

def doI2cSendRestartWrite (driver : Driver) : Driver × FsmState := driver.doI2cSendAdrWrite

def doI2cSendRestart (driver : Driver) : Driver × FsmState := driver.doI2cSendAdrRead

def doI2cSendStop (driver : Driver) : Driver × FsmState := (driver.drive .stop).doI2cIdle

/-- The `switch` that four handlers make on the result of a callback: a restart,
or what the handler does by default. -/
def restartOr (default : Driver → Driver × FsmState) (called : Driver × I2cOperation) :
    Driver × FsmState :=
  match called.2 with
  | .restartRead => called.1.doI2cSendRestartRead
  | .restartWrite => called.1.doI2cSendRestartWrite
  | _ => default called.1

def doI2cDoAddressNack (driver : Driver) (interrupt : Interrupt) : Driver × FsmState :=
  let driver := { driver with addressNackCheck := false, error := .fail }
  restartOr doI2cSendStop (driver.call interrupt .addressNack)

def doI2cRxDoAck (driver : Driver) : Driver × FsmState := (driver.drive (.ackAction false), .rx)

def doI2cTxDoAck (driver : Driver) : Driver × FsmState := (driver.drive (.ackAction false), .tx)

def doI2cDoNackStop (driver : Driver) : Driver × FsmState :=
  ((driver.drive (.ackAction true)).drive .stop).doI2cIdle

def doI2cDoNackRestart (driver : Driver) : Driver × FsmState :=
  (driver.drive (.ackAction true), .sendRestart)

/-- The next byte of the buffer goes to `MDATA`. -/
def transmitByte (driver : Driver) : Driver :=
  { driver.drive (.data (driver.memory driver.dataPtr)) with
    addressNackCheck := false
    dataPtr := driver.dataPtr + 1
    dataLength := driver.dataLength - 1 }

def doI2cTx (driver : Driver) (interrupt : Interrupt) : Driver × FsmState :=
  if interrupt.rxack then restartOr doI2cSendStop (driver.call interrupt .dataNack)
  else
    let driver := driver.transmitByte
    (driver, if driver.dataLength ≠ 0 then .tx else .txEmpty)

/-- The byte in `MDATA` goes into the buffer; the last one is to be answered with a
NACK. -/
def receiveByte (driver : Driver) (interrupt : Interrupt) : Driver :=
  { driver.drive (.ackAction (driver.dataLength = 1)) with
    addressNackCheck := false
    dataLength := driver.dataLength - 1
    memory := Function.update driver.memory driver.dataPtr interrupt.mdata
    dataPtr := driver.dataPtr + 1 }

def doI2cRx (driver : Driver) (interrupt : Interrupt) : Driver × FsmState :=
  let driver := driver.receiveByte interrupt
  if driver.dataLength ≠ 0 then (driver.drive .recvTrans, .rx)
  else
    let called := { driver with bufferFree := true }.call interrupt .dataComplete
    match called.2 with
    | .restartWrite | .restartRead => called.1.doI2cDoNackRestart
    | _ => called.1.doI2cDoNackStop

def doI2cTxEmpty (driver : Driver) (interrupt : Interrupt) : Driver × FsmState :=
  if interrupt.rxack then restartOr doI2cSendStop (driver.call interrupt .dataNack)
  else
    let called := { driver with bufferFree := true }.call interrupt .dataComplete
    match called.2 with
    | .restartRead => called.1.doI2cSendRestartRead
    | .restartWrite => called.1.doI2cSendRestartWrite
    | .continueOn => called.1.doI2cTx interrupt
    | _ => called.1.doI2cSendStop

def doI2cBusCollision (driver : Driver) (interrupt : Interrupt) : Driver × FsmState :=
  let driver := { driver with error := .fail }
  restartOr doI2cReset (driver.call interrupt .writeCollision)

def doI2cBusError (driver : Driver) : Driver × FsmState :=
  ({ driver.drive .flush with busy := false, error := .fail }, .reset)

/-- `I2C_0_fsmStateTable`. -/
def fsmStateTable (driver : Driver) (interrupt : Interrupt) : FsmState → Driver × FsmState
  | .idle => driver.doI2cIdle
  | .sendAdrRead => driver.doI2cSendAdrRead
  | .sendAdrWrite => driver.doI2cSendAdrWrite
  | .tx => driver.doI2cTx interrupt
  | .rx => driver.doI2cRx interrupt
  | .txEmpty => driver.doI2cTxEmpty interrupt
  | .sendRestartRead => driver.doI2cSendRestartRead
  | .sendRestartWrite => driver.doI2cSendRestartWrite
  | .sendRestart => driver.doI2cSendRestart
  | .sendStop => driver.doI2cSendStop
  | .rxDoAck => driver.doI2cRxDoAck
  | .txDoAck => driver.doI2cTxDoAck
  | .rxDoNackStop => driver.doI2cDoNackStop
  | .rxDoNackRestart => driver.doI2cDoNackRestart
  | .reset => driver.doI2cReset
  | .addressNack => driver.doI2cDoAddressNack interrupt
  | .busCollision => driver.doI2cBusCollision interrupt
  | .busError => driver.doI2cBusError

/-- The state whose handler runs, after the overrides of `I2C_0_master_isr`. -/
def overriddenState (driver : Driver) (interrupt : Interrupt) : FsmState :=
  if interrupt.buserr then .busError
  else if interrupt.arblost then .busCollision
  else if driver.addressNackCheck && interrupt.rxack then .addressNack
  else driver.state

/-- `I2C_0_master_isr`. -/
def masterIsr (driver : Driver) (interrupt : Interrupt) : Driver :=
  let handled := driver.fsmStateTable interrupt (driver.overriddenState interrupt)
  { handled.1 with state := handled.2 }

/-! ## Transactions -/

/-- `I2C_0_open`. -/
def i2cOpen (driver : Driver) (address : UInt8) : Driver × I2cError :=
  if driver.inUse then (driver, .busy)
  else
    ({ driver.drive .flush with
      address := address
      busy := false
      inUse := true
      addressNackCheck := false
      state := .reset
      bufferFree := true
      callbackTable := fun
        | .timeOut => .returnReset
        | .null => driver.callbackTable .null
        | _ => .returnStop }, .noerr)

/-- The driver when `I2C_0_master_operation` runs the state machine by calling
the interrupt handler itself. -/
def starting (driver : Driver) (read : Bool) : Driver :=
  { driver with busy := true, state := if read then .sendAdrRead else .sendAdrWrite }

/-- `I2C_0_master_operation`. -/
def masterOperation (driver : Driver) (interrupt : Interrupt) (read : Bool) : Driver × I2cError :=
  if driver.busy then (driver, .busy)
  else ((driver.starting read).masterIsr interrupt, .noerr)

/-- `I2C_0_close`, which reads `MSTATUS` on its own. -/
def i2cClose (driver : Driver) (buserr : Bool) : Driver × I2cError :=
  let driver := if buserr then { driver with busy := false, error := .fail } else driver
  if driver.busy then (driver, .busy)
  else ({ driver with inUse := false, address := 0xff }, driver.error)

/-- A driver that nobody has used; `I2C_0_open` sets the callbacks. -/
def unused : Driver :=
  ⟨false, false, false, false, 0, 0, 0, .idle, .noerr, fun _ => .returnStop, fun _ => 0, []⟩

theorem unused_inUse : unused.inUse = false := rfl

/-- The interrupts of a transaction. -/
def interrupts (driver : Driver) (interrupts : List Interrupt) : Driver :=
  interrupts.foldl masterIsr driver

end Driver

end MicrochipDay.I2c
