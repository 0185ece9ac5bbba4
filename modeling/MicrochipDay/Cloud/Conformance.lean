import MicrochipDay.Cloud.EventLoop
import MicrochipDay.MqttClient.Outgoing

/-!
Owns the proof that the program keeps to the protocol of the event loop: every
function appends allowed entries to the log, and the machine's view agrees with
the program's variables at every turn.
-/

namespace MicrochipDay.Cloud

open MicrochipDay.Umqtt
open MicrochipDay.MqttClient
open MicrochipDay.Scheduler
open MicrochipDay.Library.EventLog
open MicrochipDay.Library.Mqtt

/-! ## The relation between boards and views -/

structure Follows (topic : List UInt8) (view : View) (log : List Action) : Prop where
  accepted : (eventLoop topic).Accepts log
  reached : (eventLoop topic).state log = view

theorem Follows.write {topic : List UInt8} {view : View} {log : List Action}
    (follows : Follows topic view log) (action : Action) (allowed : view.Allows topic action) :
    Follows topic (view.next action) (action :: log) where
  accepted := LogMachine.accepts_cons.mpr ⟨follows.reached.symm ▸ allowed, follows.accepted⟩
  reached := congrArg (View.next · action) follows.reached

/-- The view of a board that is at some point of the loop. -/
def Board.view (board : Board) (control : Control) : View where
  control := control
  currentState := board.currentState
  occuredEvent := board.occuredEvent
  endpointIp := board.endpointIp
  mqttState := board.umqttConn.state
  subscribed := board.subInit ≠ 0

/-- The board has followed the protocol so far and can go on: its transmit ring
is ready and it subscribes to `topic`. -/
structure Conforms (topic : CString) (control : Control) (board : Board) : Prop where
  follows : Follows topic.bytes (board.view control) board.log
  ready : TxReady board.umqttConn
  topicSub : board.mqttTopicSub = topic

abbrev Control.poll (handler : Option Handler) (operation : Option Int) : Control :=
  ⟨.polling, none, handler, operation⟩

abbrev Control.request (handler : Handler) : Control := ⟨.handling, none, some handler, none⟩

section Steps

variable {topic : CString} {control : Control} {board : Board}

theorem Conforms.of_same {other : Board} (conforms : Conforms topic control board)
    (log : other.log = board.log) (view : other.view control = board.view control)
    (conn : other.umqttConn = board.umqttConn)
    (topicSub : other.mqttTopicSub = board.mqttTopicSub) : Conforms topic control other where
  follows := by rw [log, view]; exact conforms.follows
  ready := by rw [conn]; exact conforms.ready
  topicSub := topicSub.trans conforms.topicSub

theorem Conforms.write {other : Board} {after : Control} (action : Action)
    (conforms : Conforms topic control board)
    (allowed : (board.view control).Allows topic.bytes action)
    (log : other.log = action :: board.log)
    (view : (board.view control).next action = other.view after)
    (ready : TxReady other.umqttConn) (topicSub : other.mqttTopicSub = board.mqttTopicSub) :
    Conforms topic after other where
  follows := by rw [log, ← view]; exact conforms.follows.write action allowed
  ready := ready
  topicSub := topicSub.trans conforms.topicSub

theorem cloudReceiveEvent_conforms {phase : Phase} {caller : Caller} {ev : CloudEvent}
    {handler : Option Handler} {operation : Option Int}
    (conforms : Conforms topic ⟨phase, some (caller, ev), handler, operation⟩ board) :
    Conforms topic ⟨phase, none, handler, operation⟩ (cloudReceiveEvent caller ev board) :=
  conforms.write (.receiveEvent caller ev) (Or.inl rfl) rfl rfl conforms.ready rfl

theorem callDriver_conforms (world : World) (call : DriverCall)
    (free : ∀ view : View, view.AllowsCall topic.bytes call ↔
      view.control.phase = .polling ∨ view.control.phase = .handling)
    (silent : ∀ (view : View) rc, view.nextCall call rc = view)
    (running : control.phase = .polling ∨ control.phase = .handling)
    (conforms : Conforms topic control board) :
    Conforms topic control (board.callDriver world call).1 :=
  conforms.write (.call call (world.reply board.log call)) ((free _).mpr running) rfl
    (silent _ _) conforms.ready rfl

end Steps

/-! ## Callbacks -/

section Callbacks

variable {topic : CString} {board : Board} {handler : Option Handler} {operation : Option Int}
  (world : World)

private theorem closeAndFail_conforms {caller : Caller} {sock : Int}
    (conforms : Conforms topic ⟨.polling, some (caller, .fail), handler, operation⟩ board) :
    Conforms topic (.poll handler operation)
      (cloudReceiveEvent caller .fail (board.callDriver world (.close sock)).1) :=
  cloudReceiveEvent_conforms
    (callDriver_conforms world _ (fun _ => Iff.rfl) (fun _ _ => rfl) (Or.inl rfl) conforms)

/-- A packet, by its effect on the MQTT state of the view alone: the
connection already holds what all packets of the call made of it. -/
private theorem packetArrived_follows {state : UmqttState} (arrival : Arrival)
    (follows : Follows topic.bytes { board.view (.poll handler operation) with mqttState := state }
      board.log) :
    let after := packetArrived world board arrival
    Follows topic.bytes
      { after.view (.poll handler operation) with mqttState := stateAfter state arrival }
      after.log := by
  have written := follows.write (.arrived arrival) ⟨rfl, rfl⟩
  cases arrival with
  | connack code =>
      by_cases accepted : code = 0
      · subst accepted
        exact written.write (.receiveEvent .umqttConnected .success) (Or.inl rfl)
      · simp only [View.next, arrivalOwed, if_neg accepted] at written
        simp only [packetArrived, Arrival.callback, if_neg accepted]
        exact written
  | suback => exact written
  | pingresp => exact written
  | publish message =>
      exact written.write (.receiveEvent .umqttReceived .success) (Or.inl rfl)
  | unknown => exact written

private theorem packetsArrived_follows (arrivals : List Arrival) {state : UmqttState}
    (follows : Follows topic.bytes { board.view (.poll handler operation) with mqttState := state }
      board.log) :
    let after := arrivals.foldl (packetArrived world) board
    Follows topic.bytes
      { after.view (.poll handler operation) with mqttState := arrivals.foldl stateAfter state }
      after.log := by
  induction arrivals generalizing board state with
  | nil => exact follows
  | cons arrival arrivals inductionHypothesis =>
      exact inductionHypothesis (packetArrived_follows world arrival follows)

theorem stateAfter_eq (conn : UmqttConnection) (arrivals : List Arrival) :
    arrivals.foldl stateAfter conn.state = (updateAll conn arrivals).state := by
  induction arrivals generalizing conn with
  | nil => rfl
  | cons arrival arrivals inductionHypothesis =>
      have first : stateAfter conn.state arrival = (arrival.update conn).state := by
        cases arrival <;> rfl
      rw [List.foldl_cons, first]
      exact inductionHypothesis _

private theorem receive_conforms (conforms : Conforms topic (.poll handler operation) board)
    (data : List UInt8) (len : UInt8) :
    Conforms topic (.poll handler operation) (receive world board data len) := by
  let result := mqttClientReceive (world.scratch board.log) board.umqttConn data len
  have stored : Follows topic.bytes
      { (board.storeResult result).view (.poll handler operation) with
        mqttState := board.umqttConn.state } (board.storeResult result).log :=
    conforms.follows.write (.processed result.popped) ⟨rfl, rfl⟩
  have follows := packetsArrived_follows world result.arrivals stored
  obtain ⟨sameConn, sameTopic⟩ :=
    packetsArrived_frame world (board.storeResult result) result.arrivals
  have state : result.arrivals.foldl stateAfter board.umqttConn.state = result.conn.state := by
    rw [stateAfter_eq]
    exact (mqttClientReceive_state _ _ _ _).symm
  refine ⟨?_, ?_, sameTopic.trans conforms.topicSub⟩
  · have view : (receive world board data len).view (.poll handler operation) =
        { (receive world board data len).view (.poll handler operation) with
          mqttState := result.arrivals.foldl stateAfter board.umqttConn.state } := by
      rw [state]
      exact congrArg (fun conn : UmqttConnection =>
        { (receive world board data len).view (.poll handler operation) with
          mqttState := conn.state }) sameConn
    rw [view]
    exact follows
  · apply conforms.ready.of_txbuff
    exact (congrArg UmqttConnection.txbuff sameConn).trans (mqttClientReceive_txbuff _ _ _ _)

private theorem delivered_conforms (conforms : Conforms topic (.poll handler operation) board)
    (message : WincMessage) :
    Conforms topic ⟨.polling, message.owed, handler, operation⟩
      { board.write (.callback message) with
        endpointIp :=
          ((board.view (.poll handler operation)).next (.callback message)).endpointIp } :=
  conforms.write (.callback message) ⟨rfl, rfl⟩ rfl rfl conforms.ready rfl

private theorem networkWifiCallback_conforms
    (conforms : Conforms topic (.poll handler operation) board) (msg : WifiMsg) :
    Conforms topic (.poll handler operation) (deliver world board (.wifi msg)) := by
  have delivered := delivered_conforms conforms (.wifi msg)
  cases msg with
  | dhcpConf => exact cloudReceiveEvent_conforms delivered
  | conStateChanged currState =>
      by_cases disconnected : currState = m2mWifiDisconnected
      · simp only [WincMessage.owed, WincMessage.event, if_pos disconnected] at delivered
        simp only [deliver, networkWifiCallback, if_pos disconnected]
        exact closeAndFail_conforms world delivered
      · simp only [WincMessage.owed, WincMessage.event, if_neg disconnected] at delivered
        simp only [deliver, networkWifiCallback, if_neg disconnected]
        exact delivered
  | other => exact delivered

private theorem networkWifiSocketHandler_conforms
    (conforms : Conforms topic (.poll handler operation) board) (sock : Int) (msg : SocketMsg) :
    Conforms topic (.poll handler operation) (deliver world board (.socket sock msg)) := by
  have delivered := delivered_conforms conforms (.socket sock msg)
  cases msg with
  | connect s8Error =>
      cases s8Error with
      | none => exact closeAndFail_conforms world delivered
      | some s8Error =>
          by_cases connected : s8Error ≥ 0
          · simp only [WincMessage.owed, WincMessage.event, if_pos connected] at delivered
            simp only [deliver, networkWifiSocketHandler, if_pos connected]
            exact cloudReceiveEvent_conforms delivered
          · simp only [WincMessage.owed, WincMessage.event, if_neg connected] at delivered
            simp only [deliver, networkWifiSocketHandler, if_neg connected]
            exact closeAndFail_conforms world delivered
  | send =>
      exact callDriver_conforms world _ (fun _ => Iff.rfl) (fun _ _ => rfl) (Or.inl rfl) delivered
  | recv pstrRecv =>
      cases pstrRecv with
      | none => exact closeAndFail_conforms world delivered
      | some pstrRecv =>
          by_cases received : pstrRecv.s16BufferSize > 0
          · simp only [WincMessage.owed, WincMessage.event, if_pos received] at delivered
            simp only [deliver, networkWifiSocketHandler, if_pos received]
            exact receive_conforms world delivered _ _
          · simp only [WincMessage.owed, WincMessage.event, if_neg received] at delivered
            simp only [deliver, networkWifiSocketHandler, if_neg received]
            exact closeAndFail_conforms world delivered
  | other => exact delivered

private theorem networkDnsCallback_conforms
    (conforms : Conforms topic (.poll handler operation) board) (serverIP : UInt32) :
    Conforms topic (.poll handler operation) (deliver world board (.dns serverIP)) := by
  have delivered := delivered_conforms conforms (.dns serverIP)
  by_cases resolved : serverIP ≠ 0
  · simp only [WincMessage.owed, WincMessage.event, View.next, if_pos resolved] at delivered
    simp only [deliver, networkDnsCallback, if_pos resolved]
    exact cloudReceiveEvent_conforms delivered
  · simp only [WincMessage.owed, WincMessage.event, View.next, if_neg resolved] at delivered
    simp only [deliver, networkDnsCallback, if_neg resolved]
    exact cloudReceiveEvent_conforms delivered

private theorem networkPingCallback_conforms
    (conforms : Conforms topic (.poll handler operation) board) (u8ErrorCode : UInt8) :
    Conforms topic (.poll handler operation) (deliver world board (.ping u8ErrorCode)) := by
  have delivered := delivered_conforms conforms (.ping u8ErrorCode)
  by_cases success : u8ErrorCode = pingErrSuccess
  · subst success
    exact cloudReceiveEvent_conforms delivered
  by_cases unreachable : u8ErrorCode = pingErrDestUnreach
  · subst unreachable
    exact cloudReceiveEvent_conforms delivered
  by_cases timeout : u8ErrorCode = pingErrTimeout
  · subst timeout
    exact cloudReceiveEvent_conforms delivered
  -- any other code posts nothing, and nothing is owed for it
  simp only [WincMessage.owed, WincMessage.event, if_neg success, if_neg unreachable,
    if_neg timeout] at delivered
  simp only [deliver, networkPingCallback, if_neg success, if_neg unreachable, if_neg timeout]
  exact delivered

/-- Delivering a message makes the post it owes, and nothing else that the
protocol forbids. -/
theorem deliver_conforms (conforms : Conforms topic (.poll handler operation) board)
    (message : WincMessage) :
    Conforms topic (.poll handler operation) (deliver world board message) := by
  cases message with
  | wifi msg => exact networkWifiCallback_conforms world conforms msg
  | socket sock msg => exact networkWifiSocketHandler_conforms world conforms sock msg
  | dns serverIP => exact networkDnsCallback_conforms world conforms serverIP
  | ping u8ErrorCode => exact networkPingCallback_conforms world conforms u8ErrorCode

end Callbacks

/-! ## Timers -/

section Timers

variable {topic : CString} {board : Board} {handler : Option Handler} {operation : Option Int}
  (world : World)

/-- One packet handed to `send()` by an operation that leaves the board as
`other`. -/
private theorem sendAll_conforms {control : Control} (after : Int → Control) (other : Board)
    (bytes : List UInt8) (conforms : Conforms topic control board)
    (allowed : ∀ sock, (board.view control).AllowsCall topic.bytes (.send sock bytes))
    (log : other.log = board.log)
    (view : ∀ sock rc, (board.view control).nextCall (.send sock bytes) rc = other.view (after rc))
    (ready : TxReady other.umqttConn) (topicSub : other.mqttTopicSub = board.mqttTopicSub) :
    ∃ rc, Conforms topic (after rc) (other.sendAll world [bytes]) :=
  ⟨_, conforms.write (.call (.send _ bytes) _) (allowed _) (congrArg _ log) (view _ _) ready
    topicSub⟩

theorem publish_conforms (conforms : Conforms topic (.poll handler operation) board)
    (msg : CString) : Conforms topic (.poll handler operation) (publish world board msg) := by
  obtain ⟨parts, pushed⟩ := umqttPublish_parts board.umqttConn board.mqttTopic msg.bytes
    (UInt8.ofNat (strlen msg)).toNat
  obtain ⟨more, sends⟩ :=
    sendParts_first conforms.ready (umqttBuildHeader umqttPublishType 0 0 0) parts
  rw [publish, cloudPublish, mqttClientPublish, pushed, sends]
  have notSubscribe : packetType (umqttBuildHeader umqttPublishType 0 0 0 :: more) ≠
      some umqttSubscribeType := by
    show some umqttPublishType ≠ some umqttSubscribeType
    decide
  obtain ⟨_, sent⟩ := sendAll_conforms world
    (fun _ => .poll handler operation)
    { board with umqttConn := (sendParts board.umqttConn
      ([umqttBuildHeader umqttPublishType 0 0 0] :: parts)).1 }
    (umqttBuildHeader umqttPublishType 0 0 0 :: more)
    conforms (fun _ => ⟨⟨rfl, rfl⟩, fun subscribes => absurd subscribes notSubscribe⟩) rfl
    (fun _ _ => rfl) (sendParts_ready conforms.ready _) rfl
  exact sent

private theorem umqttSubscribe_sends {conn : UmqttConnection} (ready : TxReady conn)
    {topic : CString} (short : strlen topic ≤ 242) :
    ∃ more, (umqttSubscribe conn topic).2 = [umqttBuildHeader umqttSubscribeType 0 1 0 :: more] ∧
      SubscribesTo topic.bytes (umqttBuildHeader umqttSubscribeType 0 1 0 :: more) := by
  obtain ⟨parts, pushed⟩ := umqttSubscribe_parts conn topic
  have readyToPush : TxReady
      { conn with
        messageId := cInt 16 (conn.messageId + 1)
        nackSubscribe := cInt 16 (conn.nackSubscribe + 1) } := ready.of_txbuff rfl
  obtain ⟨more, sends⟩ :=
    sendParts_first readyToPush (umqttBuildHeader umqttSubscribeType 0 1 0) parts
  rw [← pushed] at sends
  have fits : (ClientOp.subscribe topic).packetLength conn ≤ txBuffSize := by
    simp only [ClientOp.packetLength, wireLength, txBuffSize]
    by_cases small : 5 + strlen topic < 128
    · rw [encodeRemainingLength_length_of_small small]
      omega
    · rw [encodeRemainingLength_length_of_medium (by omega) (by omega)]
      omega
  have decoded := ClientOp.run_sends ready (.subscribe topic) fits
  rw [ClientOp.run, sends] at decoded
  exact ⟨more, sends, _, List.singleton_inj.mp decoded⟩

theorem subscribe_conforms (short : strlen topic ≤ 242)
    (conforms : Conforms topic (.poll handler operation) board) (first : board.subInit = 0) :
    Conforms topic (.poll handler operation) { subscribe world board with subInit := 1 } := by
  have sameTopic := conforms.topicSub
  obtain ⟨more, sends, subscribes⟩ := umqttSubscribe_sends conforms.ready short
  have stillReady := (ClientOp.subscribe topic).run_ready conforms.ready
  have unsubscribed : (board.view (.poll handler operation)).subscribed = false := by
    simp [Board.view, first]
  have sent : { subscribe world board with subInit := 1 } =
      { board with
        umqttConn := (umqttSubscribe board.umqttConn topic).1, subInit := 1 }.sendAll world
          [umqttBuildHeader umqttSubscribeType 0 1 0 :: more] := by
    rw [subscribe, mqttClientSubscribe, sameTopic, sends]
    rfl
  obtain ⟨_, conformsAfter⟩ := sendAll_conforms world
    (fun _ => .poll handler operation)
    { board with umqttConn := (umqttSubscribe board.umqttConn topic).1, subInit := 1 }
    (umqttBuildHeader umqttSubscribeType 0 1 0 :: more)
    conforms (fun _ => ⟨⟨rfl, rfl⟩, fun _ => ⟨unsubscribed, subscribes⟩⟩) rfl
    (fun _ _ => rfl) stillReady rfl
  rw [sent]
  exact conformsAfter

theorem publishADC_conforms (short : strlen topic ≤ 242)
    (conforms : Conforms topic (.poll handler operation) board) :
    Conforms topic (.poll handler operation) (publishADC world board).1 := by
  have counted : Conforms topic (.poll handler operation)
      { board with counter := board.counter + 1 } := conforms.of_same rfl rfl rfl rfl
  have published := publish_conforms world counted
  have returned : ∀ {other : Board}, Conforms topic (.poll handler operation) other →
      other.subInit ≠ 0 → Conforms topic (.poll handler operation) (other.write .publishReturned) :=
    fun other subscribed =>
      other.write .publishReturned ⟨⟨rfl, rfl⟩, decide_eq_true subscribed⟩ rfl rfl other.ready rfl
  simp only [publishADC]
  split
  · rename_i first
    have marked : (1 : UInt8) ≠ 0 := by decide
    exact returned (subscribe_conforms world short (published _) first) marked
  · rename_i subscribed
    exact returned (published _) subscribed

theorem ledToggle_conforms (conforms : Conforms topic (.poll handler operation) board) :
    Conforms topic (.poll handler operation) (ledToggle board).1 := by
  rw [ledToggle]
  split
  · exact conforms.write .reset ⟨rfl, rfl⟩ rfl rfl conforms.ready rfl
  · exact conforms.of_same rfl rfl rfl rfl

theorem callNextCallback_conforms (short : strlen topic ≤ 242)
    (conforms : Conforms topic (.poll handler operation) board) :
    Conforms topic (.poll handler operation) (board.callNextCallback world) := by
  rw [Board.callNextCallback, SchedulerState.schedulerTimeoutCallNextCallback]
  split
  · exact conforms
  · rename_i callbackTimer remaining _
    have popped : Conforms topic (.poll handler operation) (board.setScheduler remaining) :=
      conforms.of_same rfl rfl rfl rfl
    have called : Conforms topic (.poll handler operation)
        (timerCallback world (board.setScheduler remaining) callbackTimer).1 := by
      rcases callbackTimer with - | - | -
      · exact popped
      · exact publishADC_conforms world short popped
      · exact ledToggle_conforms popped
    dsimp only
    split
    · exact called.of_same rfl rfl rfl rfl
    · exact called

end Timers

section Observer

variable {topic : CString} {control : Control} {board : Board}

theorem rtcStep_conforms (conforms : Conforms topic control board)
    (step : SchedulerState.RtcStep) : Conforms topic control (board.rtcStep step) :=
  conforms.of_same rfl rfl rfl rfl

theorem ledUserHandler_conforms (conforms : Conforms topic control board) (state : CloudState)
    (ev : CloudEvent) : Conforms topic control (ledUserHandler board state ev) := by
  obtain ⟨connection, scheduler, observed⟩ := ledUserHandler_frame board state ev
  rw [observed]
  exact conforms.of_same rfl rfl rfl rfl

end Observer

/-! ## Handlers -/

section Handlers

variable {topic : CString} {board : Board} (world : World)

private theorem Handler.owed_of_silent {handler : Handler} (silent : handler.reports = false)
    (rc : Int) : handler.owed rc = none := by
  simp [Handler.owed, silent]

private theorem request_conforms {handler : Handler} (call : DriverCall)
    (requests : call.operationOf = some handler) (notMqtt : handler ≠ .mqttConnect)
    (ip : ∀ sock ip, call = .connect sock ip → ip = board.endpointIp)
    (conforms : Conforms topic (.request handler) board) :
    let requested := board.callDriver world call
    Conforms topic
      ⟨.handling, handler.owed requested.2, some handler, some requested.2⟩ requested.1 := by
  refine conforms.write (.call call (world.reply board.log call)) ?_ rfl ?_ conforms.ready rfl
  · simp only [View.Allows, View.AllowsCall, requests]
    exact ⟨rfl, ip⟩
  · simp only [View.next, View.nextCall, requests, if_neg notMqtt]
    rfl

private theorem report_conforms {handler : Handler} (reports : handler.reports = true) {rc : Int}
    (conforms : Conforms topic ⟨.handling, handler.owed rc, some handler, some rc⟩ board) :
    Conforms topic ⟨.handling, none, some handler, some rc⟩
      (if rc ≠ m2mSuccess then cloudReceiveEvent (.handler handler) .fail board else board) := by
  rw [Handler.owed] at conforms
  by_cases refused : rc ≠ m2mSuccess
  · rw [if_pos ⟨refused, reports⟩] at conforms
    rw [if_pos refused]
    exact cloudReceiveEvent_conforms conforms
  · rw [if_neg fun both => refused both.1] at conforms
    rw [if_neg refused]
    exact conforms

/-- A handler leaves the board ready to enter its state: it has requested its
operation, if it has one, and has made every post it owes. -/
structure Handled (topic : CString) (handler : Handler) (after : Board × CloudState) : Prop where
  state : after.2 = handler.result
  conforms : ∃ operation, (handler = .startSending ∨ operation ≠ none) ∧
    Conforms topic ⟨.handling, none, some handler, operation⟩ after.1

theorem wifiConnect_handled (conforms : Conforms topic (.request .wifiConnect) board) :
    Handled topic .wifiConnect (wifiConnect world board) where
  state := rfl
  conforms :=
    have initialised := callDriver_conforms world .socketInit (fun _ => Iff.rfl)
      (fun _ _ => rfl) (Or.inr rfl) conforms
    ⟨_, Or.inr (Option.some_ne_none _), report_conforms rfl
      (request_conforms world .m2mWifiConnect rfl (by decide) (by simp) initialised)⟩

theorem waitForInternet_handled (conforms : Conforms topic (.request .waitForInternet) board) :
    Handled topic .waitForInternet (waitForInternet world board) where
  state := rfl
  conforms := by
    have requested := request_conforms world .m2mPingReq rfl (by decide) (by simp)
      conforms
    dsimp only at requested
    rw [Handler.owed_of_silent rfl] at requested
    exact ⟨_, Or.inr (Option.some_ne_none _), requested⟩

theorem requestDns_handled
    (conforms : Conforms topic (.request .requestDns) { board with endpointIp := 0 }) :
    Handled topic .requestDns (requestDns world board) where
  state := rfl
  conforms :=
    ⟨_, Or.inr (Option.some_ne_none _), report_conforms rfl
      (request_conforms world .gethostbyname rfl (by decide) (by simp) conforms)⟩

theorem tlsConnect_handled (conforms : Conforms topic (.request .tlsConnect) board) :
    Handled topic .tlsConnect (tlsConnect world board) where
  state := rfl
  conforms := by
    let sock := world.reply board.log .socket
    let opened : Board :=
      { (board.callDriver world .socket).1 with tcpClientSocket := sock }
    have asked : Conforms topic
        ⟨.handling, if sock < 0 then some (.handler .tlsConnect, .fail) else none,
          some .tlsConnect, none⟩ opened :=
      conforms.write (.call .socket sock) rfl rfl rfl conforms.ready rfl
    have checked : Conforms topic (.request .tlsConnect)
        (if sock < 0 then cloudReceiveEvent (.handler .tlsConnect) .fail opened else opened) := by
      by_cases refused : sock < 0
      · rw [if_pos refused] at asked ⊢
        exact cloudReceiveEvent_conforms asked
      · rw [if_neg refused] at asked ⊢
        exact asked
    refine ⟨_, Or.inr (Option.some_ne_none _), report_conforms rfl
      (request_conforms world (.connect _ _) rfl (by decide) ?_ checked)⟩
    intro socket ip same
    exact ((DriverCall.connect.inj same).2).symm

theorem mqttConnect_handled (conforms : Conforms topic (.request .mqttConnect) board) :
    Handled topic .mqttConnect (mqttConnect world board) where
  state := rfl
  conforms := by
    obtain ⟨parts, pushed⟩ := umqttConnect_parts
      { board.umqttConn with
        txbuff := umqttCircInit board.umqttConn.txbuff
        rxbuff := umqttCircInit board.umqttConn.rxbuff }
    have storage := conforms.ready.idle.valid.storage
    have capacity := conforms.ready.capacity
    obtain ⟨more, sends⟩ := sendParts_first (resetForConnect_ready storage capacity)
      (umqttBuildHeader umqttConnectType 0 0 0) parts
    rw [← pushed] at sends
    obtain ⟨rc, connected⟩ := sendAll_conforms world
      (fun rc => ⟨.handling, Handler.owed .mqttConnect rc, some .mqttConnect, some rc⟩)
      { initUmqtt board with umqttConn := (mqttClientConnect board.umqttConn).1 }
      (umqttBuildHeader umqttConnectType 0 0 0 :: more) conforms
      (fun _ => ⟨rfl, fun _ _ different => DriverCall.noConfusion different⟩) rfl
      (fun _ _ => rfl) (mqttClientConnect_ready storage capacity) rfl
    rw [Handler.owed_of_silent rfl] at connected
    refine ⟨_, Or.inr (Option.some_ne_none rc), ?_⟩
    rw [mqttConnect, initUmqtt, mqttClientConnect, sends]
    exact connected

theorem startSending_handled (conforms : Conforms topic (.request .startSending) board) :
    Handled topic .startSending (startSending board) where
  state := rfl
  conforms := by
    have rescheduled : Conforms topic (.request .startSending)
        { board with
          scheduler := (board.scheduler.schedulerTimeoutDelete (.user .sendTask))
            |>.schedulerTimeoutCreate (.user .sendTask) 0 } := conforms.of_same rfl rfl rfl rfl
    exact ⟨none, Or.inl rfl, ledUserHandler_conforms rescheduled .sending .success⟩

/-- Whichever handler the table gives for the current state, it starts and is
handled. -/
theorem Handler.run_handled {phase : Phase} {last : Option Handler} {operation : Option Int}
    (conforms : Conforms topic ⟨phase, none, last, operation⟩ board)
    (due : phase = .consumed .success ∨ phase = .dispatching) :
    Handled topic (handler board.currentState)
      ((handler board.currentState).run world board) := by
  have started : ∀ next, next = handler board.currentState →
      Conforms topic (.request next)
        { board.write (.started next board.umqttConn.state board.subInit) with
          endpointIp := if next = .requestDns then 0 else board.endpointIp } :=
    fun next same => conforms.write (.started next board.umqttConn.state board.subInit)
      ⟨due, same, rfl, rfl⟩ rfl rfl conforms.ready rfl
  generalize handler board.currentState = next at started
  have startedNext := started next rfl
  cases next with
  | wifiConnect => exact wifiConnect_handled world startedNext
  | waitForInternet => exact waitForInternet_handled world startedNext
  | requestDns => exact requestDns_handled world startedNext
  | tlsConnect => exact tlsConnect_handled world startedNext
  | mqttConnect => exact mqttConnect_handled world startedNext
  | startSending => exact startSending_handled startedNext

end Handlers

/-! ## Turns -/

def Between (topic : CString) (board : Board) : Prop :=
  ∃ handler operation, Conforms topic (.poll handler operation) board

section Turns

variable {topic : CString} {board : Board} (world : World)

theorem enterNextState_between {phase : Phase} {last : Option Handler} {operation : Option Int}
    (conforms : Conforms topic ⟨phase, none, last, operation⟩ board)
    (due : phase = .consumed .success ∨ phase = .dispatching) :
    Between topic (enterNextState world board) := by
  obtain ⟨state, operation, complete, handled⟩ := Handler.run_handled world conforms due
  have entered : Conforms topic (.poll (some (handler board.currentState)) operation)
      ({ ((handler board.currentState).run world board).1 with
        currentState := (handler board.currentState).result }.write
          (.entered (handler board.currentState).result)) :=
    handled.write (.entered (handler board.currentState).result) ⟨rfl, rfl, _, rfl, rfl, complete⟩
      rfl rfl handled.ready rfl
  rw [← state] at entered
  exact ⟨_, _, entered⟩

theorem errorHandler_conforms {last : Option Handler} {operation : Option Int}
    (conforms : Conforms topic ⟨.consumed .fail, none, last, operation⟩ board) :
    Conforms topic ⟨.dispatching, none, last, operation⟩
      { (errorHandler board).1 with currentState := (errorHandler board).2 } := by
  have failed : Conforms topic ⟨.dispatching, none, last, operation⟩
      { board.write (.errorHandler board.currentState) with
        currentState := errorState board.currentState } :=
    conforms.write (.errorHandler board.currentState) ⟨rfl, rfl⟩ rfl rfl conforms.ready rfl
  obtain ⟨scheduler, handled⟩ := errorHandler_frame board
  rw [handled]
  exact failed.of_same rfl rfl rfl rfl

theorem consumeEvent_between {last : Option Handler} {operation : Option Int}
    (conforms : Conforms topic (.poll last operation) board)
    (pending : board.occuredEvent ≠ .noEvent) : Between topic (consumeEvent world board) := by
  have consumed : Conforms topic ⟨.consumed board.occuredEvent, none, last, operation⟩
      ({ board with occuredEvent := .noEvent }.write
        (.consume board.currentState board.occuredEvent)) :=
    conforms.write (.consume board.currentState board.occuredEvent)
      ⟨⟨rfl, rfl⟩, rfl, rfl, pending⟩ rfl rfl conforms.ready rfl
  have observed := ledUserHandler_conforms consumed board.currentState board.occuredEvent
  rcases event : board.occuredEvent with - | - | -
  · simp only [event] at observed
    simp only [consumeEvent, event, reduceCtorEq, if_false]
    exact enterNextState_between world observed (Or.inl rfl)
  · simp only [event] at observed
    simp only [consumeEvent, event, if_true]
    exact enterNextState_between world (errorHandler_conforms observed) (Or.inr rfl)
  · exact absurd event pending

theorem takeTurn_between (short : strlen topic ≤ 242) (between : Between topic board)
    (turn : Turn) : Between topic (takeTurn world board turn) := by
  rcases between with ⟨last, operation, conforms⟩
  have polled : Conforms topic (.poll last operation) (board.polled world turn) := by
    apply polled_keeps world turn (Conforms topic (.poll last operation)) _ conforms
    intro next step kept
    cases step with
    | message message => exact deliver_conforms world kept message
    | rtc step => exact rtcStep_conforms kept step
  have called := callNextCallback_conforms world short polled
  have tested := tested_keeps world turn (Conforms topic (.poll last operation))
    (fun _ step kept => rtcStep_conforms kept step) called
  apply takeTurn_cases world board turn
  · exact fun _ => ⟨last, operation, conforms⟩
  · exact fun _ => ⟨last, operation, called⟩
  · exact fun _ pending => consumeEvent_between world tested pending
  · exact fun _ _ => ⟨last, operation, tested⟩

end Turns

/-! ## Start-up -/

section StartUp

variable (world : World)

private structure Starting (topic : List UInt8) (board : Board) : Prop where
  follows : Follows topic (board.view .startUp) board.log
  ready : TxReady board.umqttConn
  short : strlen board.mqttTopicSub ≤ 242

private theorem initial_starting (topic : List UInt8) : Starting topic Board.initial where
  follows := ⟨trivial, rfl⟩
  ready :=
    { idle :=
        { valid :=
            { positive := by decide
              storage := List.length_replicate
              inside := by decide
              filled := Nat.zero_le _ }
          fresh := ⟨rfl, rfl⟩ }
      capacity := rfl }
  short := Nat.zero_le _

variable {topic : List UInt8} {board : Board}

private theorem callDriver_starting (starting : Starting topic board) {call : DriverCall}
    (free : ∀ view : View, view.AllowsCall topic call ↔
      view.control.phase = .polling ∨ view.control.phase = .handling)
    (silent : ∀ (view : View) rc, view.nextCall call rc = view) :
    Starting topic (board.callDriver world call).1 where
  follows := by
    have written := starting.follows.write (.call call (world.reply board.log call))
      ((free _).mpr (Or.inl rfl))
    rw [View.next, silent] at written
    exact written
  ready := starting.ready
  short := starting.short

private theorem cloudReceiveEvent_starting (starting : Starting topic board) {caller : Caller}
    (startsUp : caller.startsUp = true) {ev : CloudEvent} (event : ev ≠ .noEvent) :
    Starting topic (cloudReceiveEvent caller ev board) where
  follows := starting.follows.write (.receiveEvent caller ev)
    (Or.inr ⟨rfl, startsUp, event⟩)
  ready := starting.ready
  short := starting.short

private theorem initSteps_starting (starting : Starting topic board) {caller : Caller}
    (startsUp : caller.startsUp = true) {first second : DriverCall}
    (free : ∀ call, call = first ∨ call = second → ∀ view : View, view.AllowsCall topic call ↔
      view.control.phase = .polling ∨ view.control.phase = .handling)
    (silent : ∀ call, call = first ∨ call = second → ∀ (view : View) rc,
      view.nextCall call rc = view) :
    Starting topic (initSteps world board caller first second).1 := by
  have failEvent : CloudEvent.fail ≠ .noEvent := by decide
  have one :=
    callDriver_starting world starting (free first (Or.inl rfl)) (silent first (Or.inl rfl))
  have two := callDriver_starting world one (free second (Or.inr rfl)) (silent second (Or.inr rfl))
  simp only [initSteps]
  split
  · exact cloudReceiveEvent_starting one startsUp failEvent
  · split
    · exact cloudReceiveEvent_starting two startsUp failEvent
    · exact two

theorem strlen_ofMemory_le (memory : List UInt8) :
    strlen (CString.ofMemory memory) ≤ memory.length :=
  (List.takeWhile_prefix _).length_le

private theorem mqttTopicInit_starting (starting : Starting topic board) :
    Starting topic (mqttTopicInit world board) where
  follows := starting.follows
  ready := starting.ready.of_txbuff rfl
  short := by
    have keyIdAscii : (world.keyId.flatMap fun byte : UInt8 =>
        [numToAscii ((byte &&& 0xf0) >>> 4), numToAscii (byte &&& 0xf)]).length = 40 := by
      simp [List.length_flatMap, world.keyIdSize]
    have clientId := strlen_ofMemory_le (world.keyId.flatMap fun byte : UInt8 =>
        [numToAscii ((byte &&& 0xf0) >>> 4), numToAscii (byte &&& 0xf)])
    have before : (ascii "$aws/things/").length = 12 := rfl
    have behind : (ascii "/shadow/update/delta").length = 20 := rfl
    apply (strlen_ofMemory_le _).trans
    rw [List.length_append, List.length_append, before, behind]
    rw [keyIdAscii, strlen] at clientId
    omega

private theorem cloudStartApp_starting (starting : Starting topic board) :
    Starting topic (cloudStartApp world board) := by
  have failEvent : CloudEvent.fail ≠ .noEvent := by decide
  have successEvent : CloudEvent.success ≠ .noEvent := by decide
  have wifi : Starting topic (wifiInit world board).1 :=
    initSteps_starting world starting rfl
      (by rintro call (rfl | rfl) view <;> exact Iff.rfl)
      (by rintro call (rfl | rfl) view rc <;> rfl)
  have tls : Starting topic (tlsInit world (mqttTopicInit world (wifiInit world board).1)).1 :=
    initSteps_starting world (mqttTopicInit_starting world wifi) rfl
      (by rintro call (rfl | rfl) view <;> exact Iff.rfl)
      (by rintro call (rfl | rfl) view rc <;> rfl)
  simp only [cloudStartApp]
  split
  · exact cloudReceiveEvent_starting wifi rfl failEvent
  · split
    · exact cloudReceiveEvent_starting tls rfl failEvent
    · exact cloudReceiveEvent_starting tls rfl successEvent

def subscriptionTopic : CString := (cloudStartApp world Board.initial).mqttTopicSub

end StartUp

/-! ## Runs -/

/-- **Every run keeps to the protocol of the event loop.** -/
theorem run_between (world : World) (turns : List Turn) :
    Between (subscriptionTopic world) (run world turns) := by
  have starting := cloudStartApp_starting world (initial_starting (subscriptionTopic world).bytes)
  have started : Between (subscriptionTopic world) (cloudStartApp world Board.initial) :=
    ⟨none, none, starting.follows, starting.ready, rfl⟩
  exact List.foldlRecOn turns (takeTurn world) (motive := Between (subscriptionTopic world)) started
    fun _ between turn _ => takeTurn_between world starting.short between turn

theorem run_accepted (world : World) (turns : List Turn) :
    (eventLoop (subscriptionTopic world).bytes).Accepts (run world turns).log := by
  obtain ⟨_, _, conforms⟩ := run_between world turns
  exact conforms.follows.accepted

theorem run_polling (world : World) (turns : List Turn) :
    ((eventLoop (subscriptionTopic world).bytes).state (run world turns).log).control.phase =
      .polling := by
  obtain ⟨_, _, conforms⟩ := run_between world turns
  rw [conforms.follows.reached]
  rfl

end MicrochipDay.Cloud
