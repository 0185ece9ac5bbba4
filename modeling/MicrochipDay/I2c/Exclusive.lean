import MicrochipDay.I2c.BlockTransfer
import MicrochipDay.Library.EventLog

/-!
Owns two contexts that use the simple I2C master at once, call by call of the
driver, in any order and with interrupts in between: when opening the bus keeps
the one out while the other has it.

The open loops wait for a result that is not zero, which is what `I2C_0_open`
returns while the bus is in use.
-/

namespace MicrochipDay.I2c

open MicrochipDay.Library.EventLog

/-! ## Operations -/

/-- A call that an operation makes between its open loop and its start. -/
inductive SetUp where
  | dataCompleteCallback (callback : Callback)
  | addressNackCallback (callback : Callback)
  | buffer (pointer size : UInt16)
deriving DecidableEq, Repr

def Driver.setUp (driver : Driver) : SetUp → Driver
  | .dataCompleteCallback callback => driver.setCallback .dataComplete callback
  | .addressNackCallback callback => driver.setCallback .addressNack callback
  | .buffer pointer size => driver.setBuffer pointer size

/-- What a function of i2c_simple_master.c does between its open loop and its
close loop. -/
structure Operation where
  address : UInt8
  setUps : List SetUp
  read : Bool
deriving DecidableEq, Repr

namespace Operation

/-- The four functions that send a register number first. -/
def withRegister (address : UInt8) (reg : UInt16) (handler : Callback) : Operation :=
  ⟨address, [.dataCompleteCallback handler, .buffer reg 1, .addressNackCallback .restartWrite],
    false⟩

/-- `I2C_0_write1ByteRegister`; a transfer that failed is not repeated. -/
def write1ByteRegister (address : UInt8) (reg data : UInt16) : Operation :=
  withRegister address reg (.regComplete data 1 .continueOn)

/-- `I2C_0_write2ByteRegister`. -/
def write2ByteRegister (address : UInt8) (reg data : UInt16) : Operation :=
  withRegister address reg (.regComplete data 2 .continueOn)

/-- One attempt of `I2C_0_read1ByteRegister`. -/
def read1ByteRegister (address : UInt8) (reg d2 : UInt16) : Operation :=
  withRegister address reg (rd1RegCompleteHandler d2)

/-- `I2C_0_read2ByteRegister`. -/
def read2ByteRegister (address : UInt8) (reg result : UInt16) : Operation :=
  withRegister address reg (rd2RegCompleteHandler result)

/-- `I2C_0_readDataBlock`. -/
def readDataBlock (address : UInt8) (reg data len : UInt16) : Operation :=
  withRegister address reg (rdBlkRegCompleteHandler data len)

/-- `I2C_0_writeNBytes`. -/
def writeNBytes (address : UInt8) (data len : UInt16) : Operation :=
  ⟨address, [.buffer data len, .addressNackCallback .restartWrite], false⟩

/-- `I2C_0_readNBytes`. -/
def readNBytes (address : UInt8) (data len : UInt16) : Operation :=
  ⟨address, [.buffer data len], true⟩

/-- The operation up to its close loop when nothing else runs. -/
def start (operation : Operation) (driver : Driver) (found : Interrupt) : Driver :=
  ((operation.setUps.foldl Driver.setUp (driver.openLoop operation.address)).masterOperation found
    operation.read).1

variable (driver : Driver) (address : UInt8) (stale : Bool) (answers : List Answer)

theorem readRegister_eq_start (reg : UInt16) (handler : Callback) :
    driver.readRegister address reg handler stale answers =
      ((withRegister address reg handler).start driver
        (Answer.interrupt ⟨stale, 0⟩)).closeLoop answers := rfl

theorem writeNBytes_eq_start (data len : UInt16) :
    driver.writeNBytes address data len stale answers =
      ((writeNBytes address data len).start driver
        (Answer.interrupt ⟨stale, 0⟩)).closeLoop answers := rfl

theorem readNBytes_eq_start (data len : UInt16) :
    driver.readNBytes address data len stale answers =
      ((readNBytes address data len).start driver
        (Answer.interrupt ⟨stale, 0⟩)).closeLoop answers := rfl

end Operation

/-! ## Two contexts -/

inductive Context where
  | first
  | second
deriving DecidableEq, Repr

/-- The context that is not this one. -/
def Context.peer : Context → Context
  | .first => .second
  | .second => .first

/-- Where a context is: between two operations, in the open loop after a call that
opened the bus, with some set-ups left before the start, or in the close loop. -/
inductive Progress where
  | idle
  | opening (operation : Operation)
  | settingUp (operation : Operation) (left : List SetUp)
  | closing
deriving DecidableEq, Repr

/-- A call of the driver and, for an open and a close, what it returned. -/
inductive DriverCall where
  | opened
  | openRefused
  | setUp
  | started
  | closed
  | closeRefused
deriving DecidableEq, Repr

/-- The driver, the contexts and the calls that they made, newest first. -/
structure System where
  driver : Driver
  progress : Context → Progress
  trace : List (Context × DriverCall)

namespace System

def initial (memory : UInt16 → UInt8) : System :=
  ⟨{ Driver.unused with memory := memory }, fun _ => .idle, []⟩

def enter (system : System) (context : Context) (progress : Progress) (call : DriverCall)
    (driver : Driver) : System :=
  ⟨driver, Function.update system.progress context progress, (context, call) :: system.trace⟩

/-- A call in `while (!I2C_0_open(address));`: `I2C_NOERR` is zero. -/
def openCall (system : System) (context : Context) (operation : Operation) : System :=
  let opened := system.driver.i2cOpen operation.address
  if opened.2 = .noerr then system.enter context (.opening operation) .opened opened.1
  else system.enter context (.settingUp operation operation.setUps) .openRefused opened.1

/-- The next call of a context, which runs `operation` next if it is idle; `found`
is what a call that reads the status of the TWI finds. -/
def call (system : System) (context : Context) (operation : Operation) (found : Interrupt) :
    System :=
  match system.progress context with
  | .idle => system.openCall context operation
  | .opening operation => system.openCall context operation
  | .settingUp operation (setUp :: left) =>
      system.enter context (.settingUp operation left) .setUp (system.driver.setUp setUp)
  | .settingUp operation [] =>
      system.enter context .closing .started (system.driver.masterOperation found operation.read).1
  | .closing =>
      let closed := system.driver.i2cClose found.buserr
      if closed.2 = .busy then system.enter context .closing .closeRefused closed.1
      else system.enter context .idle .closed closed.1

inductive Step where
  | call (context : Context) (operation : Operation) (found : Interrupt)
  | interrupt (interrupt : Interrupt)

def step (system : System) : Step → System
  | .call context operation found => system.call context operation found
  | .interrupt interrupt => { system with driver := system.driver.masterIsr interrupt }

def run (system : System) (steps : List Step) : System := steps.foldl step system

end System

/-! ## Exclusion -/

/-- The last open of the context that succeeded is newer than its last close that
did. -/
def holds (context : Context) : List (Context × DriverCall) → Bool
  | [] => false
  | (caller, call) :: past =>
      if caller = context then
        match call with
        | .opened => true
        | .closed => false
        | _ => holds context past
      else holds context past

/-- A context leaves its open loop only when it holds the bus, and sets up and
starts only when it alone does. -/
def CallAllowed (entry : Context × DriverCall) (past : List (Context × DriverCall)) : Prop :=
  match entry.2 with
  | .openRefused => holds entry.1 past = true
  | .setUp | .started => holds entry.1 past = true ∧ holds entry.1.peer past = false
  | _ => True

def Exclusive (trace : List (Context × DriverCall)) : Prop := EveryEntry CallAllowed trace

/-- The bus is not in use when a context begins an operation. -/
def System.Step.StartsFree (system : System) : System.Step → Prop
  | .call context _ _ => system.progress context = .idle → system.driver.inUse = false
  | .interrupt _ => True

/-- Every operation of the run begins when the bus is not in use. -/
def System.StartsFree (system : System) : List System.Step → Prop
  | [] => True
  | step :: rest => step.StartsFree system ∧ (system.step step).StartsFree rest

/-! ## The flag of the bus -/

namespace Driver

variable (driver : Driver) (interrupt : Interrupt)

theorem setBuffer_inUse (buffer size : UInt16) :
    (driver.setBuffer buffer size).inUse = driver.inUse := by
  unfold setBuffer
  split <;> rfl

theorem setCallbacks_inUse (callbacks : List (CallbackIndex × Callback)) :
    (driver.setCallbacks callbacks).inUse = driver.inUse := by
  induction callbacks generalizing driver with
  | nil => rfl
  | cons pair callbacks inductionHypothesis =>
      exact inductionHypothesis (driver.setCallback pair.1 pair.2)

@[simp] theorem call_inUse (index : CallbackIndex) :
    (driver.call interrupt index).1.inUse = driver.inUse := by
  unfold call
  dsimp only
  rw [setCallbacks_inUse]
  split
  · exact setBuffer_inUse driver _ _
  · rfl

theorem restartOr_inUse {default : Driver → Driver × FsmState}
    (parks : ∀ parked : Driver, (default parked).1.inUse = parked.inUse)
    (called : Driver × I2cOperation) :
    (restartOr default called).1.inUse = called.1.inUse := by
  unfold restartOr
  split
  · rfl
  · rfl
  · exact parks called.1

theorem doI2cTx_inUse : (driver.doI2cTx interrupt).1.inUse = driver.inUse := by
  unfold doI2cTx
  split
  · exact (restartOr_inUse (fun _ => rfl) _).trans (call_inUse driver interrupt .dataNack)
  · rfl

theorem doI2cRx_inUse : (driver.doI2cRx interrupt).1.inUse = driver.inUse := by
  unfold doI2cRx
  dsimp only
  split
  · rfl
  · split
    · exact call_inUse _ interrupt .dataComplete
    · exact call_inUse _ interrupt .dataComplete
    · exact call_inUse _ interrupt .dataComplete

theorem doI2cTxEmpty_inUse : (driver.doI2cTxEmpty interrupt).1.inUse = driver.inUse := by
  unfold doI2cTxEmpty
  split
  · exact (restartOr_inUse (fun _ => rfl) _).trans (call_inUse driver interrupt .dataNack)
  · dsimp only
    split
    · exact call_inUse _ interrupt .dataComplete
    · exact call_inUse _ interrupt .dataComplete
    · exact (doI2cTx_inUse _ interrupt).trans (call_inUse _ interrupt .dataComplete)
    · exact call_inUse _ interrupt .dataComplete

/-- Only an open and a close write the flag. -/
theorem masterIsr_inUse : (driver.masterIsr interrupt).inUse = driver.inUse := by
  show (driver.fsmStateTable interrupt (driver.overriddenState interrupt)).1.inUse = driver.inUse
  cases driver.overriddenState interrupt with
  | tx => exact doI2cTx_inUse driver interrupt
  | rx => exact doI2cRx_inUse driver interrupt
  | txEmpty => exact doI2cTxEmpty_inUse driver interrupt
  | addressNack =>
      exact (restartOr_inUse (fun _ => rfl) _).trans (call_inUse _ interrupt .addressNack)
  | busCollision =>
      exact (restartOr_inUse (fun _ => rfl) _).trans (call_inUse _ interrupt .writeCollision)
  | _ => rfl

/-- The recorded error is never `I2C_BUSY`, which a close would take for a refusal. -/
theorem masterIsr_error_ne_busy (notBusy : driver.error ≠ .busy) :
    (driver.masterIsr interrupt).error ≠ .busy := by
  rw [masterIsr_error]
  cases driver.report interrupt with
  | silent => exact notBusy
  | fails => exact I2cError.noConfusion
  | clears => exact I2cError.noConfusion

/-- What a call other than an open and a close leaves as it was. -/
structure SameUse (before after : Driver) : Prop where
  inUse : after.inUse = before.inUse
  error : before.error ≠ .busy → after.error ≠ .busy

theorem masterIsr_sameUse : SameUse driver (driver.masterIsr interrupt) :=
  ⟨masterIsr_inUse driver interrupt, masterIsr_error_ne_busy driver interrupt⟩

theorem setUp_sameUse (setUp : SetUp) : SameUse driver (driver.setUp setUp) := by
  cases setUp with
  | dataCompleteCallback callback => exact ⟨rfl, id⟩
  | addressNackCallback callback => exact ⟨rfl, id⟩
  | buffer pointer size =>
      refine ⟨setBuffer_inUse driver pointer size, ?_⟩
      intro notBusy
      show (driver.setBuffer pointer size).error ≠ .busy
      rw [(setBuffer_frame driver pointer size).2]
      exact notBusy

theorem masterOperation_sameUse (read : Bool) :
    SameUse driver (driver.masterOperation interrupt read).1 := by
  unfold masterOperation
  split
  · exact ⟨rfl, id⟩
  · have started := masterIsr_sameUse (driver.starting read) interrupt
    exact ⟨started.inUse, started.error⟩

variable {driver}

theorem i2cOpen_of_inUse (used : driver.inUse = true) (address : UInt8) :
    driver.i2cOpen address = (driver, .busy) := if_pos used

/-- A close that is not refused gives the bus back. -/
theorem i2cClose_cases (notBusy : driver.error ≠ .busy) (buserr : Bool) :
    ((driver.i2cClose buserr).2 = .busy ∧ SameUse driver (driver.i2cClose buserr).1) ∨
      (driver.i2cClose buserr).2 ≠ .busy ∧ (driver.i2cClose buserr).1.inUse = false ∧
        (driver.i2cClose buserr).1.error ≠ .busy := by
  unfold i2cClose
  cases buserr with
  | true => exact Or.inr ⟨I2cError.noConfusion, rfl, I2cError.noConfusion⟩
  | false =>
      cases busy : driver.busy with
      | true => exact Or.inl (by simp [busy, SameUse.mk rfl id])
      | false => exact Or.inr (by simp [busy, notBusy])

end Driver

/-! ## What a call does -/

theorem Context.peer_ne (context : Context) : context.peer ≠ context := by
  cases context <;> decide

theorem Context.eq_peer {context other : Context} (different : other ≠ context) :
    other = context.peer := by
  cases context <;> cases other <;> first | rfl | exact absurd rfl different

section Holds

variable (context : Context) (past : List (Context × DriverCall))

theorem holds_opened : holds context ((context, .opened) :: past) = true := by
  simp [holds]

theorem holds_closed : holds context ((context, .closed) :: past) = false := by
  simp [holds]

theorem holds_kept {call : DriverCall} (notOpened : call ≠ .opened) (notClosed : call ≠ .closed) :
    holds context ((context, call) :: past) = holds context past := by
  cases call <;> simp [holds] at notOpened notClosed ⊢

theorem holds_peer {other : Context} (call : DriverCall) (different : other ≠ context) :
    holds other ((context, call) :: past) = holds other past := if_neg (Ne.symm different)

end Holds

namespace System

variable {system : System} {context : Context}

/-- The calls that a context may make where it is, and what becomes of the driver. -/
inductive Called (system : System) (context : Context) :
    Progress → DriverCall → Driver → Prop where
  | opened (operation : Operation) (notIn : system.driver.inUse = false) :
      Called system context (.opening operation) .opened
        (system.driver.i2cOpen operation.address).1
  | openRefused (operation : Operation) (used : system.driver.inUse = true) :
      Called system context (.settingUp operation operation.setUps) .openRefused system.driver
  | setUp {operation : Operation} {setUp : SetUp} {left : List SetUp}
      (there : system.progress context = .settingUp operation (setUp :: left)) :
      Called system context (.settingUp operation left) .setUp (system.driver.setUp setUp)
  | started {operation : Operation} (found : Interrupt)
      (there : system.progress context = .settingUp operation []) :
      Called system context .closing .started
        (system.driver.masterOperation found operation.read).1
  | closeRefused {driver : Driver} (there : system.progress context = .closing)
      (same : Driver.SameUse system.driver driver) :
      Called system context .closing .closeRefused driver
  | closed {driver : Driver} (there : system.progress context = .closing)
      (free : driver.inUse = false) (notBusy : driver.error ≠ .busy) :
      Called system context .idle .closed driver

theorem openCall_called (operation : Operation) :
    ∃ progress call driver, Called system context progress call driver ∧
      system.openCall context operation = system.enter context progress call driver := by
  unfold openCall
  cases used : system.driver.inUse with
  | true =>
      refine ⟨_, _, _, .openRefused operation used, ?_⟩
      rw [Driver.i2cOpen_of_inUse used]
      rfl
  | false =>
      have opened : (system.driver.i2cOpen operation.address).2 = .noerr := by
        unfold Driver.i2cOpen
        rw [if_neg (by rw [used]; decide)]
      exact ⟨_, _, _, .opened operation used, if_pos opened⟩

theorem call_called (notBusy : system.driver.error ≠ .busy) (context : Context)
    (operation : Operation) (found : Interrupt) :
    ∃ progress call driver, Called system context progress call driver ∧
      system.call context operation found = system.enter context progress call driver := by
  unfold System.call
  cases there : system.progress context with
  | idle => exact openCall_called operation
  | opening operation => exact openCall_called operation
  | settingUp operation left =>
      cases left with
      | nil => exact ⟨_, _, _, .started found there, rfl⟩
      | cons setUp left => exact ⟨_, _, _, .setUp there, rfl⟩
  | closing =>
      rcases Driver.i2cClose_cases notBusy found.buserr with ⟨refused, same⟩ | ⟨closed, free, error⟩
      · exact ⟨_, _, _, .closeRefused there same, if_pos refused⟩
      · exact ⟨_, _, _, .closed there free error, if_neg closed⟩

theorem enter_progress (system : System) (context : Context) (progress : Progress)
    (call : DriverCall) (driver : Driver) :
    (system.enter context progress call driver).progress context = progress := by
  show Function.update system.progress context progress context = progress
  rw [Function.update_self]

theorem enter_progress_of_ne {other : Context} (different : other ≠ context)
    (progress : Progress) (call : DriverCall) (driver : Driver) :
    (system.enter context progress call driver).progress other = system.progress other := by
  show Function.update system.progress context progress other = system.progress other
  rw [Function.update_of_ne different]

/-- Beyond its open loop a context is in an operation. -/
theorem Called.inside {progress : Progress} {call : DriverCall} {driver : Driver}
    (called : Called system context progress call driver) (begun : call ≠ .opened)
    (waited : call ≠ .openRefused) : system.progress context ≠ .idle := by
  cases called with
  | opened operation notIn => exact absurd rfl begun
  | openRefused operation used => exact absurd rfl waited
  | setUp there =>
      rw [there]
      exact Progress.noConfusion
  | started found there =>
      rw [there]
      exact Progress.noConfusion
  | closeRefused there same =>
      rw [there]
      exact Progress.noConfusion
  | closed there free notBusy =>
      rw [there]
      exact Progress.noConfusion

/-- No call leaves the value `I2C_BUSY` in the error field. -/
theorem Called.error {progress : Progress} {call : DriverCall} {driver : Driver}
    (called : Called system context progress call driver)
    (notBusy : system.driver.error ≠ .busy) : driver.error ≠ .busy := by
  cases called with
  | opened operation notIn =>
      unfold Driver.i2cOpen
      rw [if_neg (by rw [notIn]; decide)]
      exact notBusy
  | openRefused operation used => exact notBusy
  | setUp there => exact (Driver.setUp_sameUse system.driver _).error notBusy
  | started found there =>
      exact (Driver.masterOperation_sameUse system.driver found _).error notBusy
  | closeRefused there same => exact same.error notBusy
  | closed there free error => exact error

/-! ## Runs -/

/-- What holds in every run: a context between two operations does not hold the
bus. -/
structure Reached (system : System) : Prop where
  error : system.driver.error ≠ .busy
  idle : ∀ context, system.progress context = .idle → holds context system.trace = false

theorem reached_initial (memory : UInt16 → UInt8) : (initial memory).Reached :=
  ⟨I2cError.noConfusion, fun _ _ => rfl⟩

theorem Reached.step (reached : system.Reached) (step : Step) : (system.step step).Reached := by
  cases step with
  | interrupt interrupt =>
      exact ⟨Driver.masterIsr_error_ne_busy system.driver interrupt reached.error, reached.idle⟩
  | call context operation found =>
      obtain ⟨progress, call, driver, called, entered⟩ :=
        call_called reached.error context operation found
      show (system.call context operation found).Reached
      rw [entered]
      refine ⟨called.error reached.error, ?_⟩
      intro other idle
      show holds other ((context, call) :: system.trace) = false
      by_cases same : other = context
      · subst same
        rw [enter_progress] at idle
        cases called with
        | closed there free error => exact holds_closed other system.trace
        | opened _ _ => cases idle
        | openRefused _ _ => cases idle
        | setUp _ => cases idle
        | started _ _ => cases idle
        | closeRefused _ _ => cases idle
      · rw [enter_progress_of_ne same] at idle
        rw [holds_peer context system.trace call same]
        exact reached.idle other idle

theorem trace_step (system : System) (step : Step) :
    ∃ newer, (system.step step).trace = newer ++ system.trace := by
  cases step with
  | interrupt interrupt => exact ⟨[], rfl⟩
  | call context operation found =>
      show ∃ newer, (system.call context operation found).trace = newer ++ system.trace
      unfold System.call System.openCall
      split
      · dsimp only
        split <;> exact ⟨[_], rfl⟩
      · dsimp only
        split <;> exact ⟨[_], rfl⟩
      · exact ⟨[_], rfl⟩
      · exact ⟨[_], rfl⟩
      · dsimp only
        split <;> exact ⟨[_], rfl⟩

theorem trace_run (system : System) (steps : List Step) :
    ∃ newer, (system.run steps).trace = newer ++ system.trace := by
  induction steps generalizing system with
  | nil => exact ⟨[], rfl⟩
  | cons step rest inductionHypothesis =>
      obtain ⟨later, run⟩ := inductionHypothesis (system.step step)
      obtain ⟨newer, first⟩ := system.trace_step step
      refine ⟨later ++ newer, ?_⟩
      rw [List.append_assoc, ← first]
      exact run

/-- An open that finds the bus in use lets a context through that does not hold
it. -/
theorem Reached.startsFree {steps : List Step} (reached : system.Reached)
    (exclusive : Exclusive (system.run steps).trace) : system.StartsFree steps := by
  induction steps generalizing system with
  | nil => trivial
  | cons step rest inductionHypothesis =>
      refine ⟨?_, inductionHypothesis (reached.step step) exclusive⟩
      cases step with
      | interrupt interrupt => trivial
      | call context operation found =>
          intro idle
          by_contra inUse
          have used := Bool.of_not_eq_false inUse
          have refused : (system.step (.call context operation found)).trace =
              (context, .openRefused) :: system.trace := by
            show (system.call context operation found).trace = _
            unfold System.call System.openCall
            rw [idle]
            dsimp only
            rw [Driver.i2cOpen_of_inUse used]
            rfl
          obtain ⟨newer, run⟩ := (system.step (.call context operation found)).trace_run rest
          have whole : Exclusive ((system.step (.call context operation found)).run rest).trace :=
            exclusive
          rw [run, refused] at whole
          have allowed : holds context system.trace = true := EveryEntry.at whole
          rw [reached.idle context idle] at allowed
          exact Bool.noConfusion allowed

/-- What holds as long as every operation begins when the bus is not in use. -/
structure Excluded (system : System) : Prop where
  error : system.driver.error ≠ .busy
  holds : ∀ context, holds context system.trace = true ↔ system.progress context ≠ .idle
  inUse : system.driver.inUse = true ↔ ∃ context, system.progress context ≠ .idle
  alone : ∀ context, system.progress context ≠ .idle → system.progress context.peer = .idle
  trace : Exclusive system.trace

namespace Excluded

theorem initial (memory : UInt16 → UInt8) : (initial memory).Excluded where
  error := I2cError.noConfusion
  holds := by
    intro context
    simp [I2c.holds, System.initial]
  inUse := by simp [System.initial, Driver.unused]
  alone := fun _ _ => rfl
  trace := trivial

/-- A context makes a call while the other one is idle, and the flag is set exactly
if the call leaves the context in an operation. -/
theorem enter (excluded : system.Excluded) {progress : Progress} {call : DriverCall}
    {driver : Driver} (peerIdle : system.progress context.peer = .idle)
    (error : driver.error ≠ .busy)
    (holder : I2c.holds context ((context, call) :: system.trace) = true ↔ progress ≠ .idle)
    (flag : driver.inUse = true ↔ progress ≠ .idle)
    (allowed : CallAllowed (context, call) system.trace) :
    (system.enter context progress call driver).Excluded where
  error := error
  trace := ⟨allowed, excluded.trace⟩
  holds := by
    intro other
    show I2c.holds other ((context, call) :: system.trace) = true ↔ _
    by_cases same : other = context
    · subst same
      rw [enter_progress]
      exact holder
    · rw [enter_progress_of_ne same, holds_peer context system.trace call same]
      exact excluded.holds other
  inUse := by
    show driver.inUse = true ↔ _
    rw [flag]
    constructor
    · intro busy
      refine ⟨context, ?_⟩
      rw [enter_progress]
      exact busy
    · rintro ⟨other, busy⟩
      by_cases same : other = context
      · subst same
        rw [enter_progress] at busy
        exact busy
      · rw [enter_progress_of_ne same, Context.eq_peer same] at busy
        exact absurd peerIdle busy
  alone := by
    intro other busy
    by_cases same : other = context
    · subst same
      rw [enter_progress_of_ne other.peer_ne]
      exact peerIdle
    · rw [enter_progress_of_ne same, Context.eq_peer same] at busy
      exact absurd peerIdle busy

/-- A call of a context that is in an operation, other than its close. -/
theorem goesOn (excluded : system.Excluded) {progress : Progress} {call : DriverCall}
    {driver : Driver} (inside : system.progress context ≠ .idle) (stays : progress ≠ .idle)
    (same : Driver.SameUse system.driver driver) (notOpened : call ≠ .opened)
    (notClosed : call ≠ .closed) : (system.enter context progress call driver).Excluded := by
  have holder := (excluded.holds context).mpr inside
  have peerIdle := excluded.alone context inside
  have peerOut : I2c.holds context.peer system.trace = false := by
    rw [Bool.eq_false_iff]
    intro peerHolds
    exact (excluded.holds context.peer).mp peerHolds peerIdle
  refine excluded.enter peerIdle (same.error excluded.error) ?_ ?_ ?_
  · rw [holds_kept context system.trace notOpened notClosed]
    exact ⟨fun _ => stays, fun _ => holder⟩
  · rw [same.inUse]
    exact ⟨fun _ => stays, fun _ => excluded.inUse.mpr ⟨context, inside⟩⟩
  · cases call with
    | setUp => exact ⟨holder, peerOut⟩
    | started => exact ⟨holder, peerOut⟩
    | openRefused => exact holder
    | _ => trivial

theorem interrupt (excluded : system.Excluded) (interrupt : Interrupt) :
    (system.step (.interrupt interrupt)).Excluded := by
  have same := Driver.masterIsr_sameUse system.driver interrupt
  exact
    { error := same.error excluded.error
      holds := excluded.holds
      inUse := by
        show (system.driver.masterIsr interrupt).inUse = true ↔ _
        rw [same.inUse]
        exact excluded.inUse
      alone := excluded.alone
      trace := excluded.trace }

/-- A context opens the bus, which neither of the two is using. -/
theorem opens (excluded : system.Excluded) (context : Context) (operation : Operation)
    (notIn : system.driver.inUse = false) :
    (system.enter context (.opening operation) .opened
      (system.driver.i2cOpen operation.address).1).Excluded := by
  have error := (show Called system context _ _ _ from .opened operation notIn).error excluded.error
  have allIdle : ∀ other, system.progress other = .idle := by
    intro other
    by_contra busy
    rw [excluded.inUse.mpr ⟨other, busy⟩] at notIn
    exact Bool.noConfusion notIn
  have used : (system.driver.i2cOpen operation.address).1.inUse = true := by
    unfold Driver.i2cOpen
    rw [if_neg (by rw [notIn]; decide)]
  refine excluded.enter (allIdle context.peer) error ?_ ?_ trivial
  · rw [holds_opened]
    exact ⟨fun _ => Progress.noConfusion, fun _ => rfl⟩
  · rw [used]
    exact ⟨fun _ => Progress.noConfusion, fun _ => rfl⟩

theorem step (excluded : system.Excluded) {step : Step} (free : step.StartsFree system) :
    (system.step step).Excluded := by
  cases step with
  | interrupt interrupt => exact excluded.interrupt interrupt
  | call context operation found =>
      obtain ⟨progress, call, driver, called, entered⟩ :=
        call_called excluded.error context operation found
      have inside := called.inside
      show (system.call context operation found).Excluded
      rw [entered]
      cases called with
      | opened operation notIn => exact excluded.opens context operation notIn
      | openRefused operation used =>
          have inside : system.progress context ≠ .idle := by
            intro idle
            rw [free idle] at used
            exact Bool.noConfusion used
          exact excluded.goesOn inside Progress.noConfusion ⟨rfl, id⟩ DriverCall.noConfusion
            DriverCall.noConfusion
      | setUp there =>
          exact excluded.goesOn (inside DriverCall.noConfusion DriverCall.noConfusion)
            Progress.noConfusion (Driver.setUp_sameUse _ _) DriverCall.noConfusion
            DriverCall.noConfusion
      | started found there =>
          exact excluded.goesOn (inside DriverCall.noConfusion DriverCall.noConfusion)
            Progress.noConfusion (Driver.masterOperation_sameUse _ _ _) DriverCall.noConfusion
            DriverCall.noConfusion
      | closeRefused there same =>
          exact excluded.goesOn (inside DriverCall.noConfusion DriverCall.noConfusion)
            Progress.noConfusion same DriverCall.noConfusion DriverCall.noConfusion
      | closed there released notBusy =>
          have peerIdle := excluded.alone context
            (inside DriverCall.noConfusion DriverCall.noConfusion)
          refine excluded.enter peerIdle notBusy ?_ ?_ trivial
          · rw [holds_closed]
            exact ⟨Bool.noConfusion, fun stays => absurd rfl stays⟩
          · rw [released]
            exact ⟨Bool.noConfusion, fun stays => absurd rfl stays⟩

theorem run (excluded : system.Excluded) {steps : List Step} (free : system.StartsFree steps) :
    (system.run steps).Excluded := by
  induction steps generalizing system with
  | nil => exact excluded
  | cons step rest inductionHypothesis => exact inductionHypothesis (excluded.step free.1) free.2

end Excluded

/-- **When opening the bus is exclusive.** In a run of two contexts, every context
that leaves its open loop has opened the bus itself, and only the one that holds it
sets up and starts operations, exactly if every operation begins when the bus is
not in use. -/
theorem exclusive_iff (memory : UInt16 → UInt8) (steps : List Step) :
    Exclusive ((initial memory).run steps).trace ↔ (initial memory).StartsFree steps :=
  ⟨(reached_initial memory).startsFree, fun free => ((Excluded.initial memory).run free).trace⟩

/-- Nothing special in the registers of the TWI. -/
private def quiet : Interrupt := ⟨false, false, false, 0, fun _ => ⟨none, [], .stop⟩⟩

private def sensorRead : Operation := .readDataBlock 0x18 0 10 2

private def secondWrite : Operation := .write1ByteRegister 0x20 30 31

/-- The first context opens the bus and leaves its loop; the second one is refused,
leaves its loop as well and replaces the callback of the first. -/
theorem open_notExclusive :
    ¬Exclusive ((initial fun _ => 0).run
      [.call .first sensorRead quiet, .call .first sensorRead quiet,
        .call .second secondWrite quiet, .call .second secondWrite quiet]).trace := by
  intro exclusive
  have leaves : holds .second [(.first, .openRefused), (.first, .opened)] = true := exclusive.2.1
  exact absurd leaves (by decide)

end System

end MicrochipDay.I2c
