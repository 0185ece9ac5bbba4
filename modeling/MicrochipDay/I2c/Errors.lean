import MicrochipDay.I2c.Master

/-!
Owns which failures of a transaction `I2C_0_close` reports. The handlers of a
NACK and of a collision record the failure, or should, but they end in a handler
that parks the state machine and clears the error again; only the failure of a
bus error, or one that a callback answered with a restart, stays.
-/

namespace MicrochipDay.I2c

/-! ## Transactions and how they end -/

/-- A transaction on a driver that is free: the calls that set it up, the status
bits that `I2C_0_master_operation` and the interrupts find, and the one that
`I2C_0_close` reads. -/
structure Transaction where
  before : Driver
  free : before.inUse = false
  address : UInt8
  callbacks : List (CallbackIndex × Callback)
  buffer : UInt16
  size : UInt16
  read : Bool
  start : Interrupt
  interrupts : List Interrupt
  buserrAtClose : Bool

namespace Transaction

variable (transaction : Transaction)

/-- The driver when everything is set up. -/
def ready : Driver :=
  ((transaction.before.i2cOpen transaction.address).1.setCallbacks transaction.callbacks).setBuffer
    transaction.buffer transaction.size

/-- The driver when `I2C_0_close` is called. -/
def final : Driver :=
  (transaction.ready.masterOperation transaction.start transaction.read).1.interrupts
    transaction.interrupts

def closed : I2cError := (transaction.final.i2cClose transaction.buserrAtClose).2

end Transaction

/-- Why an interrupt ends a transfer: what it finds on the bus, or that the last
byte of the buffer is acknowledged or received. -/
inductive Ending where
  | addressNack
  | dataNack
  | arbitrationLost
  | busError
  | everyByte
  | unfinished
deriving DecidableEq, Repr

def Ending.isFailure : Ending → Bool
  | .addressNack | .dataNack | .arbitrationLost | .busError => true
  | .everyByte | .unfinished => false

def Driver.ending (driver : Driver) (interrupt : Interrupt) : Ending :=
  match driver.overriddenState interrupt with
  | .busError => .busError
  | .busCollision => .arbitrationLost
  | .addressNack => .addressNack
  | .tx => if interrupt.rxack then .dataNack else .unfinished
  | .txEmpty => if interrupt.rxack then .dataNack else .everyByte
  | .rx => if driver.dataLength = 1 then .everyByte else .unfinished
  | _ => .unfinished

/-- The ending found by the first interrupt that leaves the driver not busy. -/
def endedBy (driver : Driver) : List Interrupt → Option Ending
  | [] => none
  | interrupt :: rest =>
      if (driver.masterIsr interrupt).busy then endedBy (driver.masterIsr interrupt) rest
      else some (driver.ending interrupt)

theorem endedBy_cons (driver : Driver) (interrupt : Interrupt) (rest : List Interrupt) :
    endedBy driver (interrupt :: rest) =
      if (driver.masterIsr interrupt).busy then endedBy (driver.masterIsr interrupt) rest
      else some (driver.ending interrupt) := rfl

/-- The interrupt finds that the data byte on the bus has not arrived. -/
def Driver.loses (driver : Driver) (interrupt : Interrupt) : Bool :=
  match driver.overriddenState interrupt with
  | .busError | .busCollision =>
      !driver.addressNackCheck && driver.state ∈ [FsmState.tx, .txEmpty, .rx]
  | .tx | .txEmpty => interrupt.rxack
  | _ => false

/-- No byte is lost until the driver is not busy. -/
def lossless (driver : Driver) : List Interrupt → Bool
  | [] => true
  | interrupt :: rest =>
      !driver.loses interrupt &&
        (!(driver.masterIsr interrupt).busy || lossless (driver.masterIsr interrupt) rest)

namespace Transaction

variable (transaction : Transaction)

/-- How the transaction has ended when `I2C_0_close` is called; a bus error that
only the call itself finds ends it too. -/
def ending : Option Ending :=
  (endedBy (transaction.ready.starting transaction.read)
    (transaction.start :: transaction.interrupts)).or
    (if transaction.buserrAtClose then some .busError else none)

def everyByteTransferred : Prop :=
  transaction.ending = some .everyByte ∧
    lossless (transaction.ready.starting transaction.read)
      (transaction.start :: transaction.interrupts) = true

/-- The first close that does not return `I2C_BUSY` returns `I2C_FAIL` after a
failure, and `I2C_NOERR` only when every byte was transferred. -/
structure Reported : Prop where
  failures : transaction.closed ≠ .busy → ∀ ending, transaction.ending = some ending →
    ending.isFailure = true → transaction.closed = .fail
  success : transaction.closed = .noerr → transaction.everyByteTransferred

end Transaction

/-! ## What the handlers record -/

/-- What the handling of an interrupt does to the recorded error. -/
inductive Report where
  | fails
  | clears
  | silent
deriving DecidableEq, Repr

def I2cOperation.restarts : I2cOperation → Bool
  | .restartRead | .restartWrite => true
  | _ => false

/-- What the callback that the interrupt calls answers. -/
def Driver.answer (driver : Driver) (interrupt : Interrupt) (index : CallbackIndex) :
    I2cOperation :=
  ((driver.callbackTable index).result interrupt).operation

/-- A failure stays recorded only where no handler parks the state machine
afterwards. -/
def Driver.report (driver : Driver) (interrupt : Interrupt) : Report :=
  match driver.overriddenState interrupt with
  | .busError => .fails
  | .busCollision =>
      if (driver.answer interrupt .writeCollision).restarts then .fails else .clears
  | .addressNack => if (driver.answer interrupt .addressNack).restarts then .fails else .clears
  | .tx =>
      if interrupt.rxack then
        if (driver.answer interrupt .dataNack).restarts then .silent else .clears
      else .silent
  | .txEmpty =>
      if interrupt.rxack then
        if (driver.answer interrupt .dataNack).restarts then .silent else .clears
      else if (driver.answer interrupt .dataComplete).restarts ∨
          driver.answer interrupt .dataComplete = .continueOn then .silent
      else .clears
  | .rx =>
      if driver.dataLength = 1 then
        if (driver.answer interrupt .dataComplete).restarts then .silent else .clears
      else .silent
  | .idle | .reset | .sendStop | .rxDoNackStop => .clears
  | _ => .silent

/-- The latest report of an interrupt that was not silent. -/
def latestReport (driver : Driver) : List Interrupt → Report
  | [] => .silent
  | interrupt :: rest =>
      match latestReport (driver.masterIsr interrupt) rest with
      | .silent => driver.report interrupt
      | report => report

theorem latestReport_cons (driver : Driver) (interrupt : Interrupt) (rest : List Interrupt) :
    latestReport driver (interrupt :: rest) =
      match latestReport (driver.masterIsr interrupt) rest with
      | .silent => driver.report interrupt
      | report => report := rfl

theorem latestReport_cons_ne_silent {driver : Driver} {interrupt : Interrupt}
    {rest : List Interrupt}
    (reports : latestReport (driver.masterIsr interrupt) rest ≠ .silent ∨
      driver.report interrupt ≠ .silent) :
    latestReport driver (interrupt :: rest) ≠ .silent := by
  rw [latestReport_cons]
  cases later : latestReport (driver.masterIsr interrupt) rest with
  | silent => exact reports.resolve_left fun notSilent => notSilent later
  | fails => exact Report.noConfusion
  | clears => exact Report.noConfusion

def Transaction.latestReport (transaction : Transaction) : Report :=
  I2c.latestReport (transaction.ready.starting transaction.read)
    (transaction.start :: transaction.interrupts)

/-! ## Callbacks leave the transfer alone -/

namespace Driver

variable (driver : Driver)

theorem setBuffer_frame (buffer size : UInt16) :
    (driver.setBuffer buffer size).busy = driver.busy ∧
      (driver.setBuffer buffer size).error = driver.error := by
  unfold setBuffer
  split <;> exact ⟨rfl, rfl⟩

theorem setCallbacks_frame (callbacks : List (CallbackIndex × Callback)) :
    (driver.setCallbacks callbacks).busy = driver.busy ∧
      (driver.setCallbacks callbacks).error = driver.error := by
  induction callbacks generalizing driver with
  | nil => exact ⟨rfl, rfl⟩
  | cons pair callbacks inductionHypothesis =>
      exact inductionHypothesis (driver.setCallback pair.1 pair.2)

theorem call_frame (interrupt : Interrupt) (index : CallbackIndex) :
    (driver.call interrupt index).1.busy = driver.busy ∧
      (driver.call interrupt index).1.error = driver.error := by
  unfold call
  dsimp only
  split
  · rw [(setCallbacks_frame _ _).1, (setCallbacks_frame _ _).2]
    exact setBuffer_frame driver _ _
  · exact setCallbacks_frame _ _

@[simp] theorem call_busy (interrupt : Interrupt) (index : CallbackIndex) :
    (driver.call interrupt index).1.busy = driver.busy :=
  (call_frame driver interrupt index).1

@[simp] theorem call_error (interrupt : Interrupt) (index : CallbackIndex) :
    (driver.call interrupt index).1.error = driver.error :=
  (call_frame driver interrupt index).2

/-! ## What one interrupt records -/

/-- The recorded error behind a report. -/
def reported (error : I2cError) : Report → I2cError
  | .fails => .fail
  | .clears => .noerr
  | .silent => error

/-- What a handler makes of the recorded error and of the busy flag. -/
structure Records (driver : Driver) (report : Report) (after : Driver × FsmState) : Prop where
  error : after.1.error = reported driver.error report
  busy : after.1.busy = (decide (report ≠ .clears) && driver.busy)

/-- A callback's answer is a restart, which records nothing more, or leads to the
handler that parks the state machine. -/
theorem restartOr_records (report : Report) {default : Driver → Driver × FsmState}
    {called : Driver × I2cOperation} (goesOn : report ≠ .clears)
    (error : called.1.error = reported driver.error report) (busy : called.1.busy = driver.busy)
    (parks : Records driver .clears (default called.1)) :
    Records driver (if called.2.restarts then report else .clears) (restartOr default called) := by
  have stays : called.1.busy = (decide (report ≠ .clears) && driver.busy) := by
    rw [decide_eq_true goesOn]
    exact busy
  obtain ⟨called, operation⟩ := called
  cases operation with
  | restartRead => exact ⟨error, stays⟩
  | restartWrite => exact ⟨error, stays⟩
  | stop => exact parks
  | continueOn => exact parks
  | resetLink => exact parks

variable (interrupt : Interrupt)

theorem nacked_records :
    Records driver (if (driver.answer interrupt .dataNack).restarts then .silent else .clears)
      (restartOr doI2cSendStop (driver.call interrupt .dataNack)) :=
  restartOr_records driver .silent (by decide) (call_error driver interrupt .dataNack)
    (call_busy driver interrupt .dataNack) ⟨rfl, rfl⟩

theorem doI2cTx_records (there : driver.overriddenState interrupt = .tx) :
    Records driver (driver.report interrupt) (driver.doI2cTx interrupt) := by
  unfold report doI2cTx
  rw [there]
  dsimp only
  by_cases nack : interrupt.rxack
  · rw [if_pos nack, if_pos nack]
    exact nacked_records driver interrupt
  · rw [if_neg nack, if_neg nack]
    exact ⟨rfl, rfl⟩

theorem doI2cTxEmpty_records (there : driver.overriddenState interrupt = .txEmpty) :
    Records driver (driver.report interrupt) (driver.doI2cTxEmpty interrupt) := by
  unfold report doI2cTxEmpty
  rw [there]
  dsimp only
  by_cases nack : interrupt.rxack
  · rw [if_pos nack, if_pos nack]
    exact nacked_records driver interrupt
  · rw [if_neg nack, if_neg nack]
    have error := call_error { driver with bufferFree := true } interrupt .dataComplete
    have busy := call_busy { driver with bufferFree := true } interrupt .dataComplete
    have answer : (Driver.call { driver with bufferFree := true } interrupt .dataComplete).2 =
      driver.answer interrupt .dataComplete := rfl
    rw [answer]
    cases driver.answer interrupt .dataComplete with
    | restartRead => exact ⟨error, busy⟩
    | restartWrite => exact ⟨error, busy⟩
    | continueOn =>
        show Records driver .silent _
        dsimp only
        unfold doI2cTx
        rw [if_neg nack]
        exact ⟨error, busy⟩
    | stop => exact ⟨rfl, rfl⟩
    | resetLink => exact ⟨rfl, rfl⟩

theorem doI2cRx_records (there : driver.overriddenState interrupt = .rx) :
    Records driver (driver.report interrupt) (driver.doI2cRx interrupt) := by
  have length : (driver.receiveByte interrupt).dataLength = driver.dataLength - 1 := rfl
  unfold report doI2cRx
  rw [there]
  dsimp only
  by_cases last : driver.dataLength = 1
  · have empty : ¬(driver.receiveByte interrupt).dataLength ≠ 0 := by
      rw [length, last]
      decide
    have error := call_error { driver.receiveByte interrupt with bufferFree := true } interrupt
      .dataComplete
    have busy := call_busy { driver.receiveByte interrupt with bufferFree := true } interrupt
      .dataComplete
    have answer : (Driver.call { driver.receiveByte interrupt with bufferFree := true } interrupt
      .dataComplete).2 = driver.answer interrupt .dataComplete := rfl
    rw [if_pos last, if_neg empty, answer]
    cases driver.answer interrupt .dataComplete with
    | restartRead => exact ⟨error, busy⟩
    | restartWrite => exact ⟨error, busy⟩
    | continueOn => exact ⟨rfl, rfl⟩
    | stop => exact ⟨rfl, rfl⟩
    | resetLink => exact ⟨rfl, rfl⟩
  · have more : (driver.receiveByte interrupt).dataLength ≠ 0 := by
      rw [length]
      grind
    rw [if_neg last, if_pos more]
    exact ⟨rfl, rfl⟩

theorem fsmStateTable_records (other : driver.overriddenState interrupt ≠ .busError) :
    Records driver (driver.report interrupt)
      (driver.fsmStateTable interrupt (driver.overriddenState interrupt)) := by
  cases there : driver.overriddenState interrupt with
  | tx => exact doI2cTx_records driver interrupt there
  | rx => exact doI2cRx_records driver interrupt there
  | txEmpty => exact doI2cTxEmpty_records driver interrupt there
  | addressNack =>
      unfold report
      rw [there]
      exact restartOr_records driver .fails (by decide)
        (call_error { driver with addressNackCheck := false, error := .fail } interrupt _)
        (call_busy { driver with addressNackCheck := false, error := .fail } interrupt _) ⟨rfl, rfl⟩
  | busCollision =>
      unfold report
      rw [there]
      exact restartOr_records driver .fails (by decide)
        (call_error { driver with error := .fail } interrupt _)
        (call_busy { driver with error := .fail } interrupt _) ⟨rfl, rfl⟩
  | busError => exact absurd there other
  | _ =>
      unfold report
      rw [there]
      exact ⟨rfl, rfl⟩

/-- The error field follows the reports. -/
theorem masterIsr_error :
    (driver.masterIsr interrupt).error = reported driver.error (driver.report interrupt) := by
  by_cases bus : driver.overriddenState interrupt = .busError
  · have fails : driver.report interrupt = .fails := by
      unfold report
      rw [bus]
    unfold masterIsr
    rw [fails, bus]
    rfl
  · exact (fsmStateTable_records driver interrupt bus).error

/-- An interrupt that ends the transfer reports something, and none makes an
idle driver busy. -/
theorem masterIsr_busy :
    (driver.busy = false → (driver.masterIsr interrupt).busy = false) ∧
      (driver.busy = true → (driver.masterIsr interrupt).busy = false →
        driver.report interrupt ≠ .silent) := by
  by_cases bus : driver.overriddenState interrupt = .busError
  · have fails : driver.report interrupt = .fails := by
      unfold report
      rw [bus]
    have stopped : (driver.masterIsr interrupt).busy = false := by
      unfold masterIsr
      rw [bus]
      rfl
    refine ⟨fun _ => stopped, fun _ _ => ?_⟩
    rw [fails]
    decide
  · have busy : (driver.masterIsr interrupt).busy =
        (decide (driver.report interrupt ≠ .clears) && driver.busy) :=
      (fsmStateTable_records driver interrupt bus).busy
    rw [busy]
    constructor
    · intro idle
      rw [idle, Bool.and_false]
    · intro wasBusy ended silent
      rw [wasBusy, silent] at ended
      exact Bool.noConfusion ended

end Driver

/-! ## What a run of interrupts records -/

section Runs

variable (driver : Driver) (interrupts : List Interrupt)

theorem interrupts_error :
    (driver.interrupts interrupts).error =
      Driver.reported driver.error (latestReport driver interrupts) := by
  induction interrupts generalizing driver with
  | nil => rfl
  | cons interrupt rest inductionHypothesis =>
      show ((driver.masterIsr interrupt).interrupts rest).error = _
      rw [inductionHypothesis, Driver.masterIsr_error, latestReport_cons]
      cases latestReport (driver.masterIsr interrupt) rest with
      | silent => rfl
      | fails => rfl
      | clears => rfl

theorem interrupts_idle (idle : driver.busy = false) :
    (driver.interrupts interrupts).busy = false := by
  induction interrupts generalizing driver with
  | nil => exact idle
  | cons interrupt rest inductionHypothesis =>
      exact inductionHypothesis _ ((driver.masterIsr_busy interrupt).1 idle)

variable {driver}

/-- The transfer has ended exactly if an interrupt has left the driver not busy,
and then something has been reported. -/
theorem endedBy_spec (busy : driver.busy = true) :
    (endedBy driver interrupts = none ↔ (driver.interrupts interrupts).busy = true) ∧
      ((driver.interrupts interrupts).busy = false →
        latestReport driver interrupts ≠ .silent) := by
  induction interrupts generalizing driver with
  | nil => exact ⟨iff_of_true rfl busy, fun idle => absurd (busy.symm.trans idle) (by decide)⟩
  | cons interrupt rest inductionHypothesis =>
      show (endedBy driver (interrupt :: rest) = none ↔
          ((driver.masterIsr interrupt).interrupts rest).busy = true) ∧
        (((driver.masterIsr interrupt).interrupts rest).busy = false → _)
      rw [endedBy_cons]
      cases stays : (driver.masterIsr interrupt).busy with
      | true =>
          obtain ⟨ended, reports⟩ := inductionHypothesis stays
          rw [if_pos rfl]
          refine ⟨ended, fun idle => ?_⟩
          apply latestReport_cons_ne_silent
          exact Or.inl (reports idle)
      | false =>
          have idle := interrupts_idle (driver.masterIsr interrupt) rest stays
          rw [if_neg (by decide), idle]
          refine ⟨by simp, fun _ => ?_⟩
          apply latestReport_cons_ne_silent
          exact Or.inr ((driver.masterIsr_busy interrupt).2 busy stays)

end Runs

namespace Transaction

variable (transaction : Transaction)

theorem ready_busy : transaction.ready.busy = false := by
  unfold ready Driver.i2cOpen
  rw [if_neg (by rw [transaction.free]; decide), (Driver.setBuffer_frame _ _ _).1,
    (Driver.setCallbacks_frame _ _).1]

theorem final_eq :
    transaction.final =
      (transaction.ready.starting transaction.read).interrupts
        (transaction.start :: transaction.interrupts) := by
  unfold final Driver.masterOperation
  rw [if_neg (by rw [transaction.ready_busy]; decide)]
  rfl

/-- What the first close returns: busy before the end, and after it the failure
that the close itself finds or that was reported last. -/
theorem closed_eq :
    transaction.closed =
      if transaction.buserrAtClose then .fail
      else if transaction.ending = none then .busy
      else if transaction.latestReport = .fails then .fail
      else .noerr := by
  obtain ⟨ended, reports⟩ := endedBy_spec (transaction.start :: transaction.interrupts)
    (show (transaction.ready.starting transaction.read).busy = true from rfl)
  have error := interrupts_error (transaction.ready.starting transaction.read)
    (transaction.start :: transaction.interrupts)
  rw [← transaction.final_eq] at ended reports error
  unfold closed Driver.i2cClose
  cases onClose : transaction.buserrAtClose with
  | true => rfl
  | false =>
      have ending : transaction.ending = none ↔ transaction.final.busy = true := by
        unfold Transaction.ending
        rw [onClose, if_neg (by decide), Option.or_none]
        exact ended
      cases busy : transaction.final.busy with
      | true => simp [ending, busy]
      | false =>
          have notSilent : transaction.latestReport ≠ .silent := reports busy
          have reported : transaction.final.error =
            Driver.reported transaction.ready.error transaction.latestReport := error
          simp only [ending, busy, reported, if_false, Bool.false_eq_true]
          cases latest : transaction.latestReport with
          | silent => exact absurd latest notSilent
          | fails => rfl
          | clears => rfl

/-- **When a failure is reported.** The close that follows a transaction reports
its failure, and nothing but a full transfer as a success, exactly if there is
no failure to report, the close finds a bus error itself, or the last report of
an interrupt is a failure: a bus error, or a NACK of the address or a collision
that a callback answers with a restart. -/
theorem closed_reported_iff (transaction : Transaction) :
    transaction.Reported ↔
      (transaction.ending ≠ none →
        transaction.everyByteTransferred ∨ transaction.buserrAtClose = true ∨
          transaction.latestReport = .fails) := by
  have closed := transaction.closed_eq
  constructor
  · intro reported ended
    by_cases onClose : transaction.buserrAtClose = true
    · exact Or.inr (Or.inl onClose)
    · by_cases latest : transaction.latestReport = .fails
      · exact Or.inr (Or.inr latest)
      · rw [if_neg onClose, if_neg ended, if_neg latest] at closed
        exact Or.inl (reported.success closed)
  · intro condition
    constructor
    · intro returned ending ends failure
      have ended : transaction.ending ≠ none := by
        rw [ends]
        exact Option.some_ne_none ending
      rcases condition ended with ⟨everyByte, _⟩ | onClose | latest
      · obtain rfl := Option.some.inj (ends.symm.trans everyByte)
        exact Bool.noConfusion failure
      · rw [closed, if_pos onClose]
      · rw [closed, if_neg ended, if_pos latest, ite_self]
    · intro success
      rw [closed] at success
      split at success
      · exact I2cError.noConfusion success
      · rename_i onClose
        split at success
        · exact I2cError.noConfusion success
        · rename_i ended
          split at success
          · exact I2cError.noConfusion success
          · rename_i latest
            exact (condition ended).resolve_right fun other => other.elim onClose latest

/-- A write of one byte on a driver that nobody has used, with the callbacks that
`I2C_0_open` sets; the slave does not acknowledge its address. -/
private def unanswered : Transaction where
  before := .unused
  free := Driver.unused_inUse
  address := 0x58
  callbacks := []
  buffer := 0
  size := 1
  read := false
  start := ⟨false, false, false, 0, fun _ => ⟨none, [], .stop⟩⟩
  interrupts := [⟨true, false, false, 0, fun _ => ⟨none, [], .stop⟩⟩]
  buserrAtClose := false

/-- The NACK of the address is recorded, then forgotten by the handler of the
stop: the close reports a success. -/
theorem closed_forgetsAddressNack : ¬unanswered.Reported := by
  intro reported
  have failed : unanswered.closed = .fail :=
    reported.failures (by decide) .addressNack (by decide) rfl
  have succeeded : unanswered.closed = .noerr := by decide
  exact I2cError.noConfusion (succeeded.symm.trans failed)

end Transaction

end MicrochipDay.I2c
