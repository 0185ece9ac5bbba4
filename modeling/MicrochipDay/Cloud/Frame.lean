import MicrochipDay.Cloud.EventLoop

/-!
Owns what most of the program leaves alone: the state machine, the timers, the
offline detection, the socket handle and the texts of `mqttTopicInit`. The
driver's callbacks, the MQTT operations and most state handlers touch none of
these, and between a driver's message and the next they log nothing about
sockets. The start-up leaves all but the texts alone.
-/

namespace MicrochipDay.Cloud

open MicrochipDay.Umqtt
open MicrochipDay.MqttClient
open MicrochipDay.Scheduler

/-- The variables of the state machine, of the timers and of the offline
detection, and the socket handle. -/
structure CoreVariables where
  currentState : CloudState
  scheduler : SchedulerState TimerId
  isInternetConnection : Bool
  wdtConnect : UInt32
  inReset : Bool
  tcpClientSocket : Int

/-- The variables of the offline detection. -/
def CoreVariables.detection (core : CoreVariables) : Bool × UInt32 × Bool :=
  (core.isInternetConnection, core.wdtConnect, core.inReset)

def Board.core (board : Board) : CoreVariables where
  currentState := board.currentState
  scheduler := board.scheduler
  isInternetConnection := board.isInternetConnection
  wdtConnect := board.wdtConnect
  inReset := board.inReset
  tcpClientSocket := board.tcpClientSocket

theorem Board.setScheduler_core (board : Board) (scheduler : SchedulerState TimerId) :
    (board.setScheduler scheduler).core = { board.core with scheduler := scheduler } := rfl

/-- None of the other variables matters to the core. -/
theorem Board.core_others (board : Board) (ev : CloudEvent) (conn : UmqttConnection)
    (pointerSet : Bool) (ip : UInt32) (subInit ioStatus counter : UInt8) (log : List Action) :
    Board.core
      { board with
        occuredEvent := ev
        umqttConn := conn
        socketPointerSet := pointerSet
        endpointIp := ip
        subInit := subInit
        ioStatus := ioStatus
        counter := counter
        log := log } = board.core := rfl

/-- The texts that `mqttTopicInit` writes. -/
def Board.names (board : Board) : CString × CString × CString :=
  (board.umqttConn.clientid, board.mqttTopicSub, board.mqttTopic)

/-- The calls of `wifiInit` and `tlsInit`, in their order. -/
def startUpCalls : List DriverCall :=
  [.nmBspInit, .m2mWifiInit, .m2mSslInit, .m2mSslSetActiveCiphersuites]

def Action.startsUp : Action → Bool
  | .call request _ => request ∈ startUpCalls
  | _ => false

/-- An entry that is neither a driver's message nor about a socket's life. -/
def Action.isQuiet : Action → Bool
  | .callback _ => false
  | .call .socket _ => false
  | .call (.close _) _ => false
  | _ => true

/-- Only the other variables have changed, and only quiet entries were written. -/
structure Quiet (before after : Board) : Prop where
  core : after.core = before.core
  log : ∃ entries, after.log = entries ++ before.log ∧ ∀ entry ∈ entries, entry.isQuiet = true

/-- An entry of a program that is up. -/
def Action.serves (entry : Action) : Bool := entry.isQuiet && !entry.startsUp

/-- Neither the core nor the names have changed, and a pending event is still
pending. -/
structure Serves (before after : Board) : Prop where
  core : after.core = before.core
  names : after.names = before.names
  log : ∃ entries, after.log = entries ++ before.log ∧ ∀ entry ∈ entries, entry.serves = true
  pending : before.occuredEvent ≠ .noEvent → after.occuredEvent ≠ .noEvent

namespace Serves

variable {before board other : Board}

theorem refl (board : Board) : Serves board board := ⟨rfl, rfl, ⟨[], rfl, by simp⟩, id⟩

theorem quiet (serves : Serves before board) : Quiet before board := by
  obtain ⟨entries, logged, allServe⟩ := serves.log
  refine ⟨serves.core, entries, logged, fun entry member => ?_⟩
  exact (Bool.and_eq_true_iff.mp (allServe entry member)).1

theorem of_same (serves : Serves before board) (core : other.core = board.core)
    (names : other.names = board.names) (log : other.log = board.log)
    (event : other.occuredEvent = board.occuredEvent) : Serves before other where
  core := core.trans serves.core
  names := names.trans serves.names
  log := by rw [log]; exact serves.log
  pending := by rw [event]; exact serves.pending

theorem of_conn (serves : Serves before board) {conn : UmqttConnection}
    (clientid : conn.clientid = board.umqttConn.clientid) :
    Serves before { board with umqttConn := conn } := by
  refine serves.of_same (Board.core_others ..) ?_ rfl rfl
  show (conn.clientid, board.mqttTopicSub, board.mqttTopic) = board.names
  rw [clientid]
  rfl

theorem write (serves : Serves before board) (entry : Action) (entryServes : entry.serves = true) :
    Serves before (board.write entry) where
  core := serves.core
  names := serves.names
  log := by
    obtain ⟨entries, logged, allServe⟩ := serves.log
    refine ⟨entry :: entries, ?_, List.forall_mem_cons.mpr ⟨entryServes, allServe⟩⟩
    rw [Board.write, logged]
    rfl
  pending := serves.pending

theorem receiveEvent (serves : Serves before board) (caller : Caller) {ev : CloudEvent}
    (event : ev ≠ .noEvent) : Serves before (cloudReceiveEvent caller ev board) where
  core := serves.core
  names := serves.names
  log := (serves.write (.receiveEvent caller ev) rfl).log
  pending := fun _ => event

theorem callDriver (world : World) (serves : Serves before board) (call : DriverCall)
    (entryServes : (Action.call call (world.reply board.log call)).serves = true) :
    Serves before (board.callDriver world call).1 :=
  serves.write _ entryServes

end Serves

/-! ## Driver calls and MQTT operations -/

section Operations

variable (world : World) {before board : Board}

theorem sendAll_serves (serves : Serves before board) (packets : List (List UInt8)) :
    Serves before (board.sendAll world packets) := by
  unfold Board.sendAll
  refine List.foldlRecOn packets _ serves fun board serves packet _ => ?_
  exact serves.callDriver world (.send _ packet) rfl

theorem subscribe_serves (serves : Serves before board) :
    Serves before (subscribe world board) := by
  unfold subscribe
  apply sendAll_serves
  apply serves.of_conn
  obtain ⟨parts, pushed⟩ := umqttSubscribe_parts board.umqttConn board.mqttTopicSub
  rw [mqttClientSubscribe, pushed]
  rfl

theorem publish_serves (serves : Serves before board) (msg : CString) :
    Serves before (publish world board msg) := by
  unfold publish
  apply sendAll_serves
  apply serves.of_conn
  obtain ⟨parts, pushed⟩ := umqttPublish_parts board.umqttConn board.mqttTopic msg.bytes
    (UInt8.ofNat (strlen msg)).toNat
  rw [cloudPublish, mqttClientPublish, pushed]
  rfl

theorem publishADC_serves (serves : Serves before board) :
    Serves before (publishADC world board).1 := by
  have counted : Serves before { board with counter := board.counter + 1 } :=
    serves.of_same (Board.core_others ..) rfl rfl rfl
  have published := publish_serves world counted
    (json (board.counter + 1) (UInt16.ofInt (world.temperature board.log)) board.ioStatus)
  have subscribed := subscribe_serves world published
  unfold publishADC
  dsimp only
  apply Serves.write _ _ rfl
  split
  · exact subscribed.of_same (Board.core_others ..) rfl rfl rfl
  · exact published

theorem packetArrived_serves (serves : Serves before board) (arrival : Arrival) :
    Serves before (packetArrived world board arrival) := by
  have logged : Serves before (board.write (.arrived arrival)) := serves.write _ rfl
  unfold packetArrived
  dsimp only
  split
  · exact logged.receiveEvent _ (by decide)
  · unfold umqttReceivedCb
    dsimp only
    apply Serves.receiveEvent _ _ (by decide)
    exact logged.of_same (Board.core_others ..) rfl rfl rfl
  · exact logged

theorem mqttClientReceive_clientid (scratch : Scratch) (conn : UmqttConnection)
    (data : List UInt8) (len : UInt8) :
    (mqttClientReceive scratch conn data len).conn.clientid = conn.clientid := by
  rw [mqttClientReceive, umqttProcess_updated]
  unfold updateAll
  refine List.foldlRecOn _ Arrival.update
    (motive := fun next : UmqttConnection => next.clientid = conn.clientid) rfl ?_
  intro next same arrival _
  rw [← same]
  cases arrival <;> rfl

theorem receive_serves (serves : Serves before board) (data : List UInt8) (len : UInt8) :
    Serves before (receive world board data len) := by
  have updated : Serves before { board with
      umqttConn := (mqttClientReceive (world.scratch board.log) board.umqttConn data len).conn } :=
    serves.of_conn (mqttClientReceive_clientid _ _ _ _)
  have stored := updated.write
    (.processed (mqttClientReceive (world.scratch board.log) board.umqttConn data len).popped) rfl
  exact List.foldlRecOn _ _ stored fun _ serves arrival _ =>
    packetArrived_serves world serves arrival

/-! ## Messages -/

/-- The socket that the callback for a message closes. -/
def WincMessage.closes (tcpClientSocket : Int) : WincMessage → Option Int
  | .wifi (.conStateChanged currState) =>
      if currState = m2mWifiDisconnected then some tcpClientSocket else none
  | .socket sock (.connect (some s8Error)) => if s8Error ≥ 0 then none else some sock
  | .socket sock (.connect none) => some sock
  | .socket sock (.recv (some pstrRecv)) => if pstrRecv.s16BufferSize > 0 then none else some sock
  | .socket sock (.recv none) => some sock
  | _ => none

/-- The callback for a message has been entered and has closed a socket, if it
does. -/
def Board.entered (board : Board) (message : WincMessage) : Board :=
  match message.closes board.tcpClientSocket with
  | some sock => ((board.write (.callback message)).callDriver world (.close sock)).1
  | none => board.write (.callback message)

theorem networkWifiCallback_serves (msg : WifiMsg) :
    Serves (board.entered world (.wifi msg)) (deliver world board (.wifi msg)) := by
  unfold Board.entered deliver networkWifiCallback
  cases msg with
  | dhcpConf => exact (Serves.refl _).receiveEvent _ (by decide)
  | conStateChanged currState =>
      by_cases disconnected : currState = m2mWifiDisconnected
      · simp only [WincMessage.closes, disconnected, if_true]
        exact (Serves.refl _).receiveEvent _ (by decide)
      · simp only [WincMessage.closes, disconnected, if_false]
        exact Serves.refl _
  | other => exact Serves.refl _

theorem networkWifiSocketHandler_serves (sock : Int) (msg : SocketMsg) :
    Serves (board.entered world (.socket sock msg)) (deliver world board (.socket sock msg)) := by
  unfold Board.entered deliver networkWifiSocketHandler
  cases msg with
  | connect s8Error =>
      cases s8Error with
      | none => exact (Serves.refl _).receiveEvent _ (by decide)
      | some s8Error =>
          by_cases connected : s8Error ≥ 0
          · simp only [WincMessage.closes, connected, if_true]
            exact (Serves.refl _).receiveEvent _ (by decide)
          · simp only [WincMessage.closes, connected, if_false]
            exact (Serves.refl _).receiveEvent _ (by decide)
  | send => exact (Serves.refl _).callDriver world _ rfl
  | recv pstrRecv =>
      cases pstrRecv with
      | none => exact (Serves.refl _).receiveEvent _ (by decide)
      | some pstrRecv =>
          by_cases received : pstrRecv.s16BufferSize > 0
          · simp only [WincMessage.closes, received, if_true]
            exact receive_serves world (Serves.refl _) _ _
          · simp only [WincMessage.closes, received, if_false]
            exact (Serves.refl _).receiveEvent _ (by decide)
  | other => exact Serves.refl _

theorem networkDnsCallback_serves (serverIP : UInt32) :
    Serves (board.entered world (.dns serverIP)) (deliver world board (.dns serverIP)) := by
  show Serves (board.write (.callback (.dns serverIP))) _
  unfold deliver networkDnsCallback
  dsimp only
  split
  · exact ((Serves.refl _).of_same (Board.core_others ..) rfl rfl rfl).receiveEvent _ (by decide)
  · exact (Serves.refl _).receiveEvent _ (by decide)

theorem networkPingCallback_serves (u8ErrorCode : UInt8) :
    Serves (board.entered world (.ping u8ErrorCode)) (deliver world board (.ping u8ErrorCode)) := by
  show Serves (board.write (.callback (.ping u8ErrorCode))) _
  unfold deliver networkPingCallback
  dsimp only
  split
  · exact (Serves.refl _).receiveEvent _ (by decide)
  · split
    · exact (Serves.refl _).receiveEvent _ (by decide)
    · split
      · exact (Serves.refl _).receiveEvent _ (by decide)
      · exact Serves.refl _

theorem deliver_serves (message : WincMessage) :
    Serves (board.entered world message) (deliver world board message) := by
  cases message with
  | wifi msg => exact networkWifiCallback_serves world msg
  | socket sock msg => exact networkWifiSocketHandler_serves world sock msg
  | dns serverIP => exact networkDnsCallback_serves world serverIP
  | ping u8ErrorCode => exact networkPingCallback_serves world u8ErrorCode

theorem deliver_core (message : WincMessage) :
    (deliver world board message).core = board.core := by
  rw [(deliver_serves world message).core]
  unfold Board.entered
  split
  · rfl
  · rfl

/-! ## Timer callbacks -/

theorem callNextCallback_of_none (none : board.scheduler.takeExpired = none) :
    board.callNextCallback world = board := by
  unfold Board.callNextCallback SchedulerState.schedulerTimeoutCallNextCallback
  rw [none]

section Taken

variable {remaining : SchedulerState TimerId}

/-- `publishADC` leaves the core alone and asks to be called again. -/
theorem callNextCallback_sendTask
    (taken : board.scheduler.takeExpired = some (.user .sendTask, remaining)) :
    (board.callNextCallback world).core =
      { board.core with
        scheduler := remaining.schedulerTimeoutCreate (.user .sendTask) publishInterval } := by
  have core := (publishADC_serves world (Serves.refl (board.setScheduler remaining))).core
  have again : (timerCallback world (board.setScheduler remaining) (.user .sendTask)).2 ≠ 0 := by
    show publishInterval ≠ 0
    decide
  have scheduler : (publishADC world (board.setScheduler remaining)).1.scheduler = remaining :=
    congrArg CoreVariables.scheduler core
  unfold Board.callNextCallback SchedulerState.schedulerTimeoutCallNextCallback
  rw [taken]
  dsimp only
  rw [if_pos again]
  dsimp only [timerCallback]
  rw [Board.setScheduler_core, core, scheduler]
  rfl

theorem callNextCallback_toggleLed
    (taken : board.scheduler.takeExpired = some (.user .toggleLed, remaining))
    (counting : board.wdtConnect < 100) :
    (board.callNextCallback world).core =
      { board.core with
        scheduler := remaining.schedulerTimeoutCreate (.user .toggleLed) toggleDelay
        wdtConnect := board.wdtConnect + 1 } := by
  have early : ¬(board.setScheduler remaining).wdtConnect ≥ 100 := UInt32.not_le.mpr counting
  have again : toggleDelay ≠ 0 := by decide
  unfold Board.callNextCallback SchedulerState.schedulerTimeoutCallNextCallback
  rw [taken]
  dsimp only [timerCallback, ledToggle]
  rw [if_neg early]
  dsimp only
  rw [if_pos again]
  rfl

/-- `LED_toggle` resets the board when it has been called often enough. -/
theorem callNextCallback_reset
    (taken : board.scheduler.takeExpired = some (.user .toggleLed, remaining))
    (due : board.wdtConnect ≥ 100) :
    (board.callNextCallback world).core =
      { board.core with scheduler := remaining, inReset := true } := by
  have dueAfter : (board.setScheduler remaining).wdtConnect ≥ 100 := due
  unfold Board.callNextCallback SchedulerState.schedulerTimeoutCallNextCallback
  rw [taken]
  dsimp only [timerCallback, ledToggle]
  rw [if_pos dueAfter]
  rfl

end Taken

/-! ## State handlers -/

/-- A handler requests its operation and reports its failure. -/
theorem request_serves (serves : Serves before board) (handler : Handler) (call : DriverCall)
    (entryServes : (Action.call call (world.reply board.log call)).serves = true) :
    Serves before
      (if (board.callDriver world call).2 ≠ m2mSuccess then
        cloudReceiveEvent (.handler handler) .fail (board.callDriver world call).1
      else (board.callDriver world call).1) := by
  have requested := serves.callDriver world call entryServes
  split
  · exact requested.receiveEvent _ (by decide)
  · exact requested

theorem wifiConnect_serves (serves : Serves before board) :
    Serves before (wifiConnect world board).1 :=
  request_serves world (serves.callDriver world .socketInit rfl) .wifiConnect .m2mWifiConnect rfl

theorem waitForInternet_serves (serves : Serves before board) :
    Serves before (waitForInternet world board).1 :=
  serves.callDriver world .m2mPingReq rfl

theorem requestDns_serves (serves : Serves before board) :
    Serves before (requestDns world board).1 := by
  have cleared : Serves before { board with endpointIp := 0 } :=
    serves.of_same (Board.core_others ..) rfl rfl rfl
  exact request_serves world cleared .requestDns .gethostbyname rfl

/-- `socket()` has been called and its result stored. -/
def Board.socketCalled (board : Board) : Board :=
  { (board.callDriver world .socket).1 with tcpClientSocket := world.reply board.log .socket }

theorem tlsConnect_serves : Serves (board.socketCalled world) (tlsConnect world board).1 := by
  have reported : Serves (board.socketCalled world)
      (if world.reply board.log .socket < 0 then
        cloudReceiveEvent (.handler .tlsConnect) .fail (board.socketCalled world)
      else board.socketCalled world) := by
    split
    · exact (Serves.refl _).receiveEvent _ (by decide)
    · exact Serves.refl _
  exact request_serves world reported .tlsConnect (.connect _ _) rfl

theorem mqttConnect_serves (serves : Serves before board) :
    Serves before (mqttConnect world board).1 := by
  have pointing : Serves before (initUmqtt board) :=
    serves.of_same (Board.core_others ..) rfl rfl rfl
  unfold mqttConnect
  apply sendAll_serves
  apply pointing.of_conn
  obtain ⟨parts, pushed⟩ := umqttConnect_parts
    { board.umqttConn with
      txbuff := umqttCircInit board.umqttConn.txbuff
      rxbuff := umqttCircInit board.umqttConn.rxbuff }
  show (mqttClientConnect board.umqttConn).1.clientid = board.umqttConn.clientid
  rw [mqttClientConnect, pushed]
  rfl

/-- The log entry with which a handler starts. -/
def Board.start (board : Board) (handler : Handler) : Board :=
  board.write (.started handler board.umqttConn.state board.subInit)

theorem Handler.run_serves (handler : Handler) (noSocket : handler ≠ .tlsConnect)
    (noTimer : handler ≠ .startSending) :
    Serves (board.start handler) (handler.run world board).1 := by
  cases handler with
  | wifiConnect => exact wifiConnect_serves world (Serves.refl _)
  | waitForInternet => exact waitForInternet_serves world (Serves.refl _)
  | requestDns => exact requestDns_serves world (Serves.refl _)
  | tlsConnect => exact absurd rfl noSocket
  | mqttConnect => exact mqttConnect_serves world (Serves.refl _)
  | startSending => exact absurd rfl noTimer

theorem Handler.run_state (handler : Handler) :
    (handler.run world board).2 = handler.result := by
  cases handler <;> rfl

/-- No handler touches the offline detection. -/
theorem Handler.run_detection (handler : Handler) :
    (handler.run world board).1.core.detection = board.core.detection := by
  by_cases socket : handler = .tlsConnect
  · subst socket
    have serves : Serves ((board.start .tlsConnect).socketCalled world)
      (Handler.tlsConnect.run world board).1 := tlsConnect_serves world
    have kept := congrArg CoreVariables.detection serves.core
    exact kept
  · by_cases timer : handler = .startSending
    · subst timer
      rfl
    · exact congrArg CoreVariables.detection (handler.run_serves world socket timer).core

/-- Only `startSending` touches the timers. -/
theorem Handler.run_scheduler (handler : Handler) (noTimer : handler ≠ .startSending) :
    (handler.run world board).1.scheduler = board.scheduler := by
  by_cases socket : handler = .tlsConnect
  · subst socket
    have serves : Serves ((board.start .tlsConnect).socketCalled world)
      (Handler.tlsConnect.run world board).1 := tlsConnect_serves world
    exact congrArg CoreVariables.scheduler serves.core
  · exact congrArg CoreVariables.scheduler (handler.run_serves world socket noTimer).core

/-! ## Start-up -/

theorem Quiet.refl (board : Board) : Quiet board board := ⟨rfl, [], rfl, by simp⟩

theorem Quiet.write (quiet : Quiet before board) (entry : Action)
    (entryQuiet : entry.isQuiet = true) : Quiet before (board.write entry) := by
  obtain ⟨sameCore, entries, logged, allQuiet⟩ := quiet
  refine ⟨sameCore, entry :: entries, ?_, List.forall_mem_cons.mpr ⟨entryQuiet, allQuiet⟩⟩
  rw [Board.write, logged]
  rfl

theorem callDriver_quiet (quiet : Quiet before board) (call : DriverCall)
    (entryQuiet : (Action.call call (world.reply board.log call)).isQuiet = true) :
    Quiet before (board.callDriver world call).1 :=
  quiet.write _ entryQuiet

theorem cloudReceiveEvent_quiet (quiet : Quiet before board) (caller : Caller) (ev : CloudEvent) :
    Quiet before (cloudReceiveEvent caller ev board) := by
  obtain ⟨core, log⟩ := quiet.write (.receiveEvent caller ev) rfl
  exact ⟨core, log⟩

theorem initSteps_quiet (quiet : Quiet before board) (caller : Caller) (first second : DriverCall)
    (quietCalls : ∀ call rc, call = first ∨ call = second →
      (Action.call call rc).isQuiet = true) :
    Quiet before (initSteps world board caller first second).1 := by
  have firstCalled := callDriver_quiet world quiet first (quietCalls first _ (Or.inl rfl))
  have secondCalled := callDriver_quiet world firstCalled second (quietCalls second _ (Or.inr rfl))
  unfold initSteps
  dsimp only
  split
  · exact cloudReceiveEvent_quiet firstCalled _ _
  · split
    · exact cloudReceiveEvent_quiet secondCalled _ _
    · exact secondCalled

theorem wifiInit_quiet (quiet : Quiet before board) : Quiet before (wifiInit world board).1 := by
  apply initSteps_quiet world quiet
  rintro call rc (rfl | rfl) <;> rfl

theorem tlsInit_quiet (quiet : Quiet before board) : Quiet before (tlsInit world board).1 := by
  apply initSteps_quiet world quiet
  rintro call rc (rfl | rfl) <;> rfl

theorem cloudStartApp_quiet (quiet : Quiet before board) :
    Quiet before (cloudStartApp world board) := by
  have wifi := wifiInit_quiet world quiet
  have named : Quiet before (mqttTopicInit world (wifiInit world board).1) := by
    obtain ⟨core, log⟩ := wifi
    exact ⟨core, log⟩
  have tls := tlsInit_quiet world named
  unfold cloudStartApp
  dsimp only
  split
  · exact cloudReceiveEvent_quiet wifi _ _
  · split
    · exact cloudReceiveEvent_quiet tls _ _
    · exact cloudReceiveEvent_quiet tls _ _

end Operations

theorem cloudStartApp_core (world : World) (board : Board) :
    (cloudStartApp world board).core = board.core :=
  (cloudStartApp_quiet world (Quiet.refl board)).core

end MicrochipDay.Cloud
