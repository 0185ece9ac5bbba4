import MicrochipDay.Cloud.Network
import Mathlib.Data.List.TakeWhile

/-!
Owns the timer callbacks `publishADC` (main.c) and `LED_toggle` (led.c), the
observer `LED_userHandler`, the state handlers, `CLOUD_startApp` and
`CLOUD_runTask` (cloud.c), and whole runs of the program.

`main` installs `publishADC` and `LED_userHandler` before it starts the
application, so the two function pointers are constants here.
-/

namespace MicrochipDay.Cloud

open MicrochipDay.Umqtt
open MicrochipDay.MqttClient
open MicrochipDay.Scheduler

/-! ## Text -/

def ascii (literal : String) : List UInt8 := literal.toList.map fun char => UInt8.ofNat char.toNat

/-- `%d` for a value that is not negative. -/
def decimal (value : Nat) : List UInt8 :=
  (Nat.toDigits 10 value).map fun char => UInt8.ofNat char.toNat

/-- The string at the start of some memory: up to the first zero byte. -/
def CString.ofMemory (memory : List UInt8) : CString where
  bytes := memory.takeWhile (· ≠ 0)
  noNul := fun member => by simpa using List.mem_takeWhile_imp member

theorem CString.ofMemory_bytes {memory : List UInt8} (noNul : ∀ byte ∈ memory, byte ≠ 0) :
    (CString.ofMemory memory).bytes = memory := by
  unfold CString.ofMemory
  dsimp only
  rw [List.takeWhile_eq_self_iff]
  intro byte inside
  simpa using noNul byte inside

/-! ## Timer callbacks -/

/-- `MQTT_CLIENT_subscribe` on the program's connection. -/
def subscribe (world : World) (board : Board) : Board :=
  let subscribed := mqttClientSubscribe board.mqttTopicSub board.umqttConn
  { board with umqttConn := subscribed.1 }.sendAll world subscribed.2

/-- `CLOUD_publish` on the program's connection. -/
def publish (world : World) (board : Board) (msg : CString) : Board :=
  let published := cloudPublish board.mqttTopic board.umqttConn msg
  { board with umqttConn := published.1 }.sendAll world published.2

def publishInterval : UInt32 := 10000

def json (counter : UInt8) (rawTemperature : UInt16) (ioStatus : UInt8) : CString :=
  CString.ofMemory
    (ascii "\x7b\"state\":\x7b\"reported\":\x7b\"L\":" ++ decimal counter.toNat ++
      ascii ",\"T\":" ++ decimal (rawTemperature / 100).toNat ++
      ascii ",\"D\":" ++ decimal ioStatus.toNat ++ ascii "\x7d\x7d\x7d")

/-- `publishADC`: the board and the time to the next call. -/
def publishADC (world : World) (board : Board) : Board × UInt32 :=
  let board := { board with counter := board.counter + 1 }
  let rawTemperature := UInt16.ofInt (world.temperature board.log)
  let board := publish world board (json board.counter rawTemperature board.ioStatus)
  let board :=
    if board.subInit = 0 then { subscribe world board with subInit := 1 } else board
  (board.write .publishReturned, publishInterval)

def toggleDelay : UInt32 := 1000

/-- `LED_toggle`; `RSTCTRL_reset` does not return. -/
def ledToggle (board : Board) : Board × UInt32 :=
  if board.wdtConnect ≥ 100 then ({ board with inReset := true }.write .reset, 0)
  else ({ board with wdtConnect := board.wdtConnect + 1 }, toggleDelay)

def timerCallback (world : World) (board : Board) : Timer TimerId → Board × UInt32
  | .schedulerDummy => (board, 0)
  | .user .sendTask => publishADC world board
  | .user .toggleLed => ledToggle board

namespace Board

def setScheduler (board : Board) (scheduler : SchedulerState TimerId) : Board :=
  { board with scheduler := scheduler }

/-- The next expired timer's callback, if there is one. -/
def callNextCallback (world : World) (board : Board) : Board :=
  SchedulerState.schedulerTimeoutCallNextCallback Board.scheduler setScheduler
    (timerCallback world) board

def rtcStep (board : Board) (step : SchedulerState.RtcStep) : Board :=
  board.setScheduler (board.scheduler.rtcStep step)

end Board

/-- `LED_userHandler`, apart from the LEDs. -/
def ledUserHandler (board : Board) (state : CloudState) (ev : CloudEvent) : Board :=
  match ev, state with
  | .fail, .waitForInternet =>
      if board.isInternetConnection then
        { board with
          isInternetConnection := false
          scheduler := (board.scheduler.schedulerTimeoutDelete (.user .toggleLed))
            |>.schedulerTimeoutCreate (.user .toggleLed) 0 }
      else board
  | .success, .waitForInternet => { board with isInternetConnection := true }
  | _, _ => board

theorem ledUserHandler_frame (board : Board) (state : CloudState) (ev : CloudEvent) :
    ∃ connection scheduler, ledUserHandler board state ev =
      { board with isInternetConnection := connection, scheduler := scheduler } := by
  unfold ledUserHandler
  split
  · split <;> exact ⟨_, _, rfl⟩
  · exact ⟨_, _, rfl⟩
  · exact ⟨_, _, rfl⟩

/-! ## State handlers -/

section Handlers

variable (world : World) (board : Board)

def wifiConnect : Board × CloudState :=
  let (board, _) := board.callDriver world .socketInit
  let (board, rc) := board.callDriver world .m2mWifiConnect
  (if rc ≠ m2mSuccess then cloudReceiveEvent (.handler .wifiConnect) .fail board else board,
    .wifiConnect)

/-- The result of `m2m_ping_req` is not looked at. -/
def waitForInternet : Board × CloudState :=
  ((board.callDriver world .m2mPingReq).1, .waitForInternet)

def requestDns : Board × CloudState :=
  let board := { board with endpointIp := 0 }
  let (board, rc) := board.callDriver world .gethostbyname
  (if rc ≠ m2mSuccess then cloudReceiveEvent (.handler .requestDns) .fail board else board,
    .dnsRequest)

/-- `connect` is called even when there is no socket. -/
def tlsConnect : Board × CloudState :=
  let (board, sock) := board.callDriver world .socket
  let board := { board with tcpClientSocket := sock }
  let board := if sock < 0 then cloudReceiveEvent (.handler .tlsConnect) .fail board else board
  let (board, rc) := board.callDriver world (.connect board.tcpClientSocket board.endpointIp)
  (if rc ≠ m2mSuccess then cloudReceiveEvent (.handler .tlsConnect) .fail board else board,
    .tlsConnect)

def initUmqtt : Board := { board with socketPointerSet := true }

def mqttConnect : Board × CloudState :=
  let board := initUmqtt board
  let connected := mqttClientConnect board.umqttConn
  ({ board with umqttConn := connected.1 }.sendAll world connected.2, .mqtt)

def startSending : Board × CloudState :=
  let scheduler := (board.scheduler.schedulerTimeoutDelete (.user .sendTask))
    |>.schedulerTimeoutCreate (.user .sendTask) 0
  (ledUserHandler { board with scheduler := scheduler } .sending .success, .sending)

def handler : CloudState → Handler
  | .init => .wifiConnect
  | .wifiConnect => .waitForInternet
  | .waitForInternet => .requestDns
  | .dnsRequest => .tlsConnect
  | .tlsConnect => .mqttConnect
  | .mqtt => .startSending
  | .sending => .startSending

def Handler.run (handler : Handler) : Board × CloudState :=
  let board := board.write (.started handler board.umqttConn.state board.subInit)
  match handler with
  | .wifiConnect => Cloud.wifiConnect world board
  | .waitForInternet => Cloud.waitForInternet world board
  | .requestDns => Cloud.requestDns world board
  | .tlsConnect => Cloud.tlsConnect world board
  | .mqttConnect => Cloud.mqttConnect world board
  | .startSending => Cloud.startSending board

end Handlers

def errorState : CloudState → CloudState
  | .init | .wifiConnect => .init
  | .waitForInternet => .wifiConnect
  | .dnsRequest => .waitForInternet
  | .tlsConnect | .mqtt => .dnsRequest
  | .sending => .init

def errorHandler (board : Board) : Board × CloudState :=
  let board := board.write (.errorHandler board.currentState)
  let board :=
    if board.currentState = .sending then
      { board with scheduler := board.scheduler.schedulerTimeoutDelete (.user .sendTask) }
    else board
  (board, errorState board.currentState)

/-- Apart from the timers, the error handler only enters its state. -/
theorem errorHandler_frame (board : Board) :
    ∃ scheduler, { (errorHandler board).1 with currentState := (errorHandler board).2 } =
      { board.write (.errorHandler board.currentState) with
        scheduler := scheduler, currentState := errorState board.currentState } := by
  unfold errorHandler
  dsimp only
  split
  · exact ⟨_, rfl⟩
  · exact ⟨_, rfl⟩

/-! ## The event loop -/

/-- `current_state = handler[current_state]()`. -/
def enterNextState (world : World) (board : Board) : Board :=
  let (board, state) := (handler board.currentState).run world board
  { board with currentState := state }.write (.entered state)

def consumeEvent (world : World) (board : Board) : Board :=
  let ev := board.occuredEvent
  let board := { board with occuredEvent := .noEvent }.write (.consume board.currentState ev)
  let board := ledUserHandler board board.currentState ev
  let board :=
    if ev = .fail then
      let (board, state) := errorHandler board
      { board with currentState := state }
    else board
  enterNextState world board

/-- What happens while `m2m_wifi_handle_events` runs. -/
inductive PollStep where
  | message (message : WincMessage)
  | rtc (step : SchedulerState.RtcStep)
deriving DecidableEq, Repr

def pollStep (world : World) (board : Board) : PollStep → Board
  | .message message => deliver world board message
  | .rtc step => board.rtcStep step

/-- One turn of the loop: what happens while it polls the driver, and what the
counter does between the timer callback and the test of `occured_event`. -/
structure Turn where
  poll : List PollStep
  afterTimers : List SchedulerState.RtcStep
deriving DecidableEq, Repr

/-- A turn in which some messages arrive and the counter stands still. -/
def Turn.ofMessages (messages : List WincMessage) : Turn := ⟨messages.map .message, []⟩

/-- `CLOUD_runTask`; it ends early when a timer callback resets the board. -/
def cloudRunTask (world : World) (board : Board) (turn : Turn) : Board :=
  let board := turn.poll.foldl (pollStep world) board
  let board := board.callNextCallback world
  if board.inReset then board
  else
    let board := turn.afterTimers.foldl Board.rtcStep board
    if board.occuredEvent ≠ .noEvent then consumeEvent world board else board

/-! ### The boards within a turn -/

section Within

variable (world : World) (board : Board)

/-- The board when `CLOUD_runTask` has polled the driver. -/
def Board.polled (turn : Turn) : Board := turn.poll.foldl (pollStep world) board

/-- The board when `CLOUD_runTask` tests `occured_event`. -/
def Board.tested (turn : Turn) : Board :=
  turn.afterTimers.foldl Board.rtcStep ((board.polled world turn).callNextCallback world)

/-- The board when an event has been taken out and observed. -/
def Board.observed : Board :=
  ledUserHandler
    ({ board with occuredEvent := .noEvent }.write (.consume board.currentState board.occuredEvent))
    board.currentState board.occuredEvent

theorem observed_frame :
    ∃ connection scheduler, board.observed =
      { board with
        occuredEvent := .noEvent
        log := .consume board.currentState board.occuredEvent :: board.log
        isInternetConnection := connection
        scheduler := scheduler } := by
  obtain ⟨connection, scheduler, same⟩ := ledUserHandler_frame
    ({ board with occuredEvent := .noEvent }.write
      (.consume board.currentState board.occuredEvent)) board.currentState board.occuredEvent
  exact ⟨connection, scheduler, same⟩

theorem consumeEvent_eq :
    consumeEvent world board =
      if board.occuredEvent = .fail then
        enterNextState world
          { (errorHandler board.observed).1 with currentState := (errorHandler board.observed).2 }
      else enterNextState world board.observed := by
  unfold consumeEvent
  dsimp only
  split <;> rfl

theorem cloudRunTask_eq (turn : Turn) :
    cloudRunTask world board turn =
      if ((board.polled world turn).callNextCallback world).inReset then
        (board.polled world turn).callNextCallback world
      else if (board.tested world turn).occuredEvent ≠ .noEvent then
        consumeEvent world (board.tested world turn)
      else board.tested world turn := rfl

end Within

/-! ## Start-up -/

def numToAscii (c : UInt8) : UInt8 := if c < 10 then c + 0x30 else c + 87

def mqttTopicInit (world : World) (board : Board) : Board :=
  let keyIdAscii : List UInt8 := world.keyId.flatMap fun byte : UInt8 =>
    [numToAscii ((byte &&& 0xf0) >>> 4), numToAscii (byte &&& 0xf)]
  let mqttClientId := CString.ofMemory keyIdAscii
  { board with
    umqttConn := { board.umqttConn with clientid := mqttClientId }
    mqttTopicSub := CString.ofMemory
      (ascii "$aws/things/" ++ mqttClientId.bytes ++ ascii "/shadow/update/delta")
    mqttTopic := CString.ofMemory
      (ascii "$aws/things/" ++ mqttClientId.bytes ++ ascii "/shadow/update") }

section StartUp

variable (world : World) (board : Board)

/-- The checks of `wifiInit` and `tlsInit`: two driver calls, with an event for
the first one that fails. -/
def initSteps (caller : Caller) (first second : DriverCall) : Board × CloudEvent :=
  let (board, rc) := board.callDriver world first
  if rc ≠ m2mSuccess then (cloudReceiveEvent caller .fail board, .fail)
  else
    let (board, rc) := board.callDriver world second
    if rc ≠ m2mSuccess then (cloudReceiveEvent caller .fail board, .fail)
    else (board, .success)

def wifiInit : Board × CloudEvent := initSteps world board .wifiInit .nmBspInit .m2mWifiInit

def tlsInit : Board × CloudEvent :=
  initSteps world board .tlsInit .m2mSslInit .m2mSslSetActiveCiphersuites

def cloudStartApp : Board :=
  let (board, ev) := wifiInit world board
  if ev ≠ .success then cloudReceiveEvent .startApp .fail board
  else
    let board := mqttTopicInit world board
    let (board, ev) := tlsInit world board
    if ev ≠ .success then cloudReceiveEvent .startApp .fail board
    else cloudReceiveEvent .startApp .success board

end StartUp

/-! ## Runs -/

/-- A turn of the loop in `main`, unless the board is in reset. -/
def takeTurn (world : World) (board : Board) (turn : Turn) : Board :=
  if board.inReset then board else cloudRunTask world board turn

def run (world : World) (turns : List Turn) : Board :=
  turns.foldl (takeTurn world) (cloudStartApp world Board.initial)

/-! ## Invariants -/

section Invariants

variable (world : World) (board : Board) (turn : Turn) (Holds : Board → Prop)

/-- How a turn ends: with a reset, with an event, or without one. -/
theorem takeTurn_cases
    (alreadyReset : board.inReset = true → Holds board)
    (resets : ((board.polled world turn).callNextCallback world).inReset = true →
      Holds ((board.polled world turn).callNextCallback world))
    (event : ((board.polled world turn).callNextCallback world).inReset = false →
      (board.tested world turn).occuredEvent ≠ .noEvent →
        Holds (consumeEvent world (board.tested world turn)))
    (noEvent : ((board.polled world turn).callNextCallback world).inReset = false →
      (board.tested world turn).occuredEvent = .noEvent → Holds (board.tested world turn)) :
    Holds (takeTurn world board turn) := by
  unfold takeTurn
  split
  · rename_i reset
    exact alreadyReset reset
  · rw [cloudRunTask_eq]
    split
    · rename_i reset
      exact resets reset
    · rename_i running
      rw [Bool.not_eq_true] at running
      split
      · rename_i pending
        exact event running pending
      · rename_i empty
        exact noEvent running (Decidable.not_not.mp empty)

variable {board}

theorem polled_keeps
    (polls : ∀ board step, Holds board → Holds (pollStep world board step))
    (before : Holds board) : Holds (board.polled world turn) :=
  List.foldlRecOn turn.poll (pollStep world) before fun board kept step _ => polls board step kept

/-- Behind the timer callback, only the counter goes on until the test. -/
theorem tested_keeps (counts : ∀ board step, Holds board → Holds (board.rtcStep step))
    (called : Holds ((board.polled world turn).callNextCallback world)) :
    Holds (board.tested world turn) :=
  List.foldlRecOn turn.afterTimers Board.rtcStep called fun board kept step _ =>
    counts board step kept

theorem consumeEvent_keeps (observed : Holds board.observed)
    (handles : ∀ board, Holds board →
      Holds { (errorHandler board).1 with currentState := (errorHandler board).2 })
    (enters : ∀ board, Holds board → Holds (enterNextState world board)) :
    Holds (consumeEvent world board) := by
  rw [consumeEvent_eq]
  split
  · exact enters _ (handles _ observed)
  · exact enters _ observed

/-- The parts of a turn keep what holds. -/
structure KeptByParts : Prop where
  polls : ∀ board step, Holds board → Holds (pollStep world board step)
  calls : ∀ board, Holds board → Holds (board.callNextCallback world)
  observes : ∀ board, Holds board → Holds board.observed
  handles : ∀ board, Holds board →
    Holds { (errorHandler board).1 with currentState := (errorHandler board).2 }
  enters : ∀ board, Holds board → Holds (enterNextState world board)

variable {world Holds}

theorem KeptByParts.takeTurn (kept : KeptByParts world Holds) (before : Holds board) :
    Holds (takeTurn world board turn) := by
  have called := kept.calls _ (polled_keeps world turn Holds kept.polls before)
  have tested := tested_keeps world turn Holds (fun board step => kept.polls board (.rtc step))
    called
  apply takeTurn_cases world board turn Holds
  · exact fun _ => before
  · exact fun _ => called
  · exact fun _ _ =>
      consumeEvent_keeps world Holds (kept.observes _ tested) kept.handles kept.enters
  · exact fun _ _ => tested

/-- What the start-up establishes and the parts of a turn keep holds in every run. -/
theorem KeptByParts.run (kept : KeptByParts world Holds)
    (started : Holds (cloudStartApp world Board.initial)) (turns : List Turn) :
    Holds (run world turns) :=
  List.foldlRecOn turns (Cloud.takeTurn world) started fun _ before turn _ =>
    kept.takeTurn turn before

end Invariants

end MicrochipDay.Cloud
