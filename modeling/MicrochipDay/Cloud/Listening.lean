import MicrochipDay.Cloud.RefusedSend
import MicrochipDay.Cloud.Reset
import MicrochipDay.Cloud.Sockets
import MicrochipDay.Umqtt.Framing

/-!
Owns when the client listens to its connection, and which messages take that
away and give it back. A receive is requested only when a send completes, so
behind every segment the program hears nothing more until it sends again.
-/

namespace MicrochipDay.Cloud

open MicrochipDay.Umqtt
open MicrochipDay.MqttClient
open MicrochipDay.Scheduler

/-! ## The connection, as the log tells it -/

/-- The handle of the connection, whether a `SOCKET_MSG_SEND` has been delivered
on it since it was opened and it is not closed, whether a receive is pending,
and how many accepted sends have not been completed. -/
structure Listening where
  socket : Int
  heard : Bool
  recvPending : Bool
  outstanding : Nat
deriving DecidableEq, Repr

/-- The driver clears the pending receive when it delivers a message, and
completes one send with each `SOCKET_MSG_SEND`. -/
def Listening.next (view : Listening) : Action → Listening
  | .call .socket rc =>
      { view with socket := rc, heard := false, recvPending := false, outstanding := 0 }
  | .call (.close sock) _ =>
      if sock = view.socket then
        { view with heard := false, recvPending := false, outstanding := 0 }
      else view
  | .call (.send _ _) rc =>
      if rc = m2mSuccess then { view with outstanding := view.outstanding + 1 } else view
  | .call (.recv sock) rc =>
      if sock = view.socket ∧ rc = m2mSuccess then { view with recvPending := true } else view
  | .callback (.socket sock .send) =>
      if sock = view.socket then
        { view with heard := true, outstanding := view.outstanding - 1 }
      else view
  | .callback (.socket sock (.recv _)) =>
      if sock = view.socket then { view with recvPending := false } else view
  | _ => view

def listening : List Action → Listening
  | [] => ⟨-1, false, false, 0⟩
  | entry :: past => (listening past).next entry

/-! ## What is asked of a run -/

/-- Handling the event in this state sends: `mqttConnect` at once, `startSending`
by asking for `publishADC`. -/
def EventSends (state : CloudState) (ev : CloudEvent) : Prop :=
  ev ≠ .noEvent ∧
    handler (if ev = .fail then errorState state else state) ∈
      [Handler.mqttConnect, Handler.startSending]

instance (state : CloudState) (ev : CloudEvent) : Decidable (EventSends state ev) :=
  inferInstanceAs (Decidable (_ ∧ _))

/-- A receive is pending, a send outstanding, or an event pending whose handling
sends. -/
def Board.Hears (board : Board) : Prop :=
  (listening board.log).heard = true →
    (listening board.log).recvPending = true ∨ 0 < (listening board.log).outstanding ∨
      EventSends board.currentState board.occuredEvent

instance (board : Board) : Decidable board.Hears :=
  inferInstanceAs (Decidable (_ → _))

def PollStep.isSocketMessage : PollStep → Bool
  | .message (.socket _ _) => true
  | _ => false

section Turns

variable (world : World)

/-- The client listens after every return of `NETWORK_wifiSocketHandler`. -/
def PollHears : Board → List PollStep → Prop
  | _, [] => True
  | board, step :: rest =>
      (step.isSocketMessage = true → (pollStep world board step).Hears) ∧
        PollHears (pollStep world board step) rest

/-- So it does when `CLOUD_runTask` returns. -/
def TurnHears (board : Board) (turn : Turn) : Prop :=
  board.inReset = false →
    PollHears world board turn.poll ∧
      ((takeTurn world board turn).inReset = false → (takeTurn world board turn).Hears)

/-! ## What the messages do to it -/

/-- The driver takes the request for the next message that follows a completed send. -/
def RecvAccepted (board : Board) (sock : Int) : Prop :=
  world.reply (.callback (.socket sock .send) :: board.log) (.recv board.tcpClientSocket) =
    m2mSuccess

/-- The message takes the last thing away that the client listens for: data arrives
while no send is outstanding, or the last send completes and no receive is pending
or accepted. -/
def Deafens (board : Board) : PollStep → Prop
  | .message (.socket sock (.recv (some pstrRecv))) =>
      sock = board.tcpClientSocket ∧ pstrRecv.s16BufferSize > 0 ∧
        (listening board.log).heard = true ∧ (listening board.log).outstanding = 0
  | .message (.socket sock .send) =>
      sock = board.tcpClientSocket ∧ (listening board.log).recvPending = false ∧
        (listening board.log).outstanding ≤ 1 ∧ ¬RecvAccepted world board sock
  | _ => False

/-- The message brings a receive, or the connection is closed. -/
def Restores (board : Board) : PollStep → Prop
  | .message (.socket sock .send) => RecvAccepted world board sock
  | .message message => message.closes board.tcpClientSocket = some board.tcpClientSocket
  | .rtc _ => False

/-- The packets that a segment completes, with what it finds in the ring. -/
def segmentFrames (board : Board) (sock : Int) (pstrRecv : SocketRecvMsg) : List Frame :=
  let scratch := world.scratch (.callback (.socket sock (.recv (some pstrRecv))) :: board.log)
  let data := pstrRecv.pu8Buffer.take (UInt8.ofInt pstrRecv.s16BufferSize).toNat
  let bytes := board.umqttConn.rxbuff.contents ++
    data.take (rxBuffSize - board.umqttConn.rxbuff.datalen)
  frames scratch bytes.length 0 scratch.buf bytes

/-- What the message posts: data posts a success with a PUBLISH or an accepted
CONNACK. -/
def posted (board : Board) : PollStep → CloudEvent
  | .message (.socket sock (.recv (some pstrRecv))) =>
      if pstrRecv.s16BufferSize > 0 then
        if ∃ frame ∈ segmentFrames world board sock pstrRecv, frame.CallsBack then .success
        else .noEvent
      else .fail
  | .message message => message.event
  | .rtc _ => .noEvent

/-- The message leaves a success pending in a state whose handler sends. -/
def LeavesSend (board : Board) (step : PollStep) : Prop :=
  board.currentState ∈ [CloudState.tlsConnect, .mqtt, .sending] ∧
    (posted world board step = .success ∨
      posted world board step = .noEvent ∧ board.occuredEvent = .success)

/-! ## What the rest of a turn does to it -/

/-- `send()` accepts one of the packets, each given the log that it finds. -/
def SendAccepted (sock : Option Int) (log : List Action) : List (List UInt8) → Prop
  | [] => False
  | bytes :: packets =>
      let rc := world.reply log (.send sock bytes)
      rc = m2mSuccess ∨ SendAccepted sock (.call (.send sock bytes) rc :: log) packets

/-- The timer that is due is that of `publishADC`, which has a packet accepted, or
that of `LED_toggle`, which resets the board. -/
def CallbackRestores (board : Board) : Prop :=
  match board.scheduler.takeExpired.map Prod.fst with
  | some (.user .sendTask) =>
      SendAccepted world (PacketOp.publishADC.socket board) board.log
        (PacketOp.publishADC.packets world board)
  | some (.user .toggleLed) => board.wdtConnect ≥ 100
  | _ => False

/-- The event leads to a handler that opens a new connection, or to `mqttConnect`,
which has its CONNECT accepted. -/
def HandlerRestores (board : Board) : Prop :=
  match board.occuredEvent, board.currentState with
  | .success, .dnsRequest => True
  | .fail, .tlsConnect => True
  | .fail, .mqtt => True
  | .success, .tlsConnect =>
      SendAccepted world (some board.tcpClientSocket)
        (.started .mqttConnect board.umqttConn.state board.subInit ::
          .consume .tlsConnect .success :: board.log)
        (mqttClientConnect board.umqttConn).2
  | _, _ => False

/-- What is left of a turn that finds the client deaf: until a message brings a
receive or closes the connection, every socket message leaves an event that sends,
and if no message does, the timer or the event itself brings a send. -/
def HearsAgain : Board → List PollStep → Prop
  | board, [] => CallbackRestores world board ∨ HandlerRestores world (board.callNextCallback world)
  | board, step :: rest =>
      Restores world board step ∨
        (step.isSocketMessage = true → LeavesSend world board step) ∧
          HearsAgain (pollStep world board step) rest

/-- Every message that deafens the client leaves an event that sends, and the
client hears again before the turn is over. -/
def PollKeeps : Board → List PollStep → Prop
  | _, [] => True
  | board, step :: rest =>
      (Deafens world board step →
        LeavesSend world board step ∧ HearsAgain world (pollStep world board step) rest) ∧
      PollKeeps (pollStep world board step) rest

def TurnKeeps (board : Board) (turn : Turn) : Prop :=
  board.inReset = false → PollKeeps world board turn.poll

end Turns

/-! ## Deafness -/

/-- The connection is open, and neither a receive nor a send will bring anything. -/
def Listening.Deaf (view : Listening) : Prop :=
  view.heard = true ∧ view.recvPending = false ∧ view.outstanding = 0

theorem Board.hears_iff (board : Board) :
    board.Hears ↔
      ((listening board.log).Deaf → EventSends board.currentState board.occuredEvent) := by
  unfold Board.Hears Listening.Deaf
  cases (listening board.log).recvPending <;> simp [Nat.pos_iff_ne_zero, or_iff_not_imp_left]

theorem eventSends_iff (state : CloudState) (ev : CloudEvent) :
    EventSends state ev ↔
      ev = .success ∧ (state = .tlsConnect ∨ state = .mqtt ∨ state = .sending) := by
  cases state <;> cases ev <;> decide

/-! ## The receive ring -/

section Ready

variable (world : World) {board : Board}

theorem receive_rxReady (ready : RxReady board.umqttConn) (data : List UInt8) (len : UInt8) :
    RxReady (receive world board data len).umqttConn := by
  let result := mqttClientReceive (world.scratch board.log) board.umqttConn data len
  have same : (receive world board data len).umqttConn = result.conn :=
    (packetsArrived_frame world (board.storeResult result) result.arrivals).1
  rw [same]
  exact ClientOp.run_rxReady ready (.receive (world.scratch board.log) data len)

theorem networkWifiCallback_rxReady (ready : RxReady board.umqttConn) (msg : WifiMsg) :
    RxReady (networkWifiCallback world board msg).umqttConn := by
  unfold networkWifiCallback
  dsimp only
  split
  · exact ready
  · split
    · exact ready
    · exact ready
  · exact ready

theorem networkWifiSocketHandler_rxReady (ready : RxReady board.umqttConn) (sock : Int)
    (msg : SocketMsg) : RxReady (networkWifiSocketHandler world board sock msg).umqttConn := by
  unfold networkWifiSocketHandler
  dsimp only
  split
  · split
    · exact ready
    · exact ready
  · exact ready
  · exact ready
  · split
    · exact receive_rxReady world ready _ _
    · exact ready
  · exact ready
  · exact ready

theorem networkDnsCallback_rxReady (ready : RxReady board.umqttConn) (serverIP : UInt32) :
    RxReady (networkDnsCallback board serverIP).umqttConn := by
  unfold networkDnsCallback
  dsimp only
  split
  · exact ready
  · exact ready

theorem networkPingCallback_rxReady (ready : RxReady board.umqttConn) (u8ErrorCode : UInt8) :
    RxReady (networkPingCallback board u8ErrorCode).umqttConn := by
  unfold networkPingCallback
  dsimp only
  repeat' split
  all_goals exact ready

theorem pollStep_rxReady (ready : RxReady board.umqttConn) (step : PollStep) :
    RxReady (pollStep world board step).umqttConn := by
  cases step with
  | message message =>
      have entered : RxReady (board.write (.callback message)).umqttConn := ready
      cases message with
      | wifi msg => exact networkWifiCallback_rxReady world entered msg
      | socket sock msg => exact networkWifiSocketHandler_rxReady world entered sock msg
      | dns serverIP => exact networkDnsCallback_rxReady entered serverIP
      | ping u8ErrorCode => exact networkPingCallback_rxReady entered u8ErrorCode
  | rtc step => exact ready

theorem publish_rxReady (ready : RxReady board.umqttConn) (msg : CString) :
    RxReady (publish world board msg).umqttConn := by
  obtain ⟨parts, pushed⟩ := umqttPublish_parts board.umqttConn board.mqttTopic msg.bytes
    (UInt8.ofNat (strlen msg)).toNat
  unfold publish
  dsimp only
  rw [sendAll_eq, cloudPublish, mqttClientPublish, pushed]
  exact ready.of_rxbuff rfl

theorem subscribe_rxReady (ready : RxReady board.umqttConn) :
    RxReady (subscribe world board).umqttConn := by
  obtain ⟨parts, pushed⟩ := umqttSubscribe_parts board.umqttConn board.mqttTopicSub
  unfold subscribe
  dsimp only
  rw [sendAll_eq, mqttClientSubscribe, pushed]
  exact ready.of_rxbuff rfl

theorem publishADC_rxReady (ready : RxReady board.umqttConn) :
    RxReady (publishADC world board).1.umqttConn := by
  have counted : RxReady ({ board with counter := board.counter + 1 } : Board).umqttConn := ready
  have published := publish_rxReady world counted
    (json (board.counter + 1) (UInt16.ofInt (world.temperature board.log)) board.ioStatus)
  have subscribed := subscribe_rxReady world published
  unfold publishADC
  dsimp only
  split
  · exact subscribed
  · exact published

theorem callNextCallback_rxReady (ready : RxReady board.umqttConn) :
    RxReady (board.callNextCallback world).umqttConn := by
  cases taken : board.scheduler.takeExpired with
  | none =>
      rw [callNextCallback_of_none world taken]
      exact ready
  | some pair =>
      obtain ⟨timer, remaining⟩ := pair
      have started : RxReady (board.setScheduler remaining).umqttConn := ready
      have called :
          RxReady (timerCallback world (board.setScheduler remaining) timer).1.umqttConn := by
        cases timer with
        | schedulerDummy => exact started
        | user id =>
            cases id with
            | sendTask => exact publishADC_rxReady world started
            | toggleLed =>
                show RxReady (ledToggle (board.setScheduler remaining)).1.umqttConn
                unfold ledToggle
                split
                · exact ready
                · exact ready
      unfold Board.callNextCallback SchedulerState.schedulerTimeoutCallNextCallback
      rw [taken]
      dsimp only
      split
      · exact called
      · exact called

theorem Handler.run_rxReady (handler : Handler) (ready : RxReady board.umqttConn) :
    RxReady (handler.run world board).1.umqttConn := by
  cases handler with
  | wifiConnect =>
      show RxReady (Cloud.wifiConnect world _).1.umqttConn
      unfold Cloud.wifiConnect
      dsimp only
      split
      · exact ready
      · exact ready
  | waitForInternet => exact ready
  | requestDns =>
      show RxReady (Cloud.requestDns world _).1.umqttConn
      unfold Cloud.requestDns
      dsimp only
      split
      · exact ready
      · exact ready
  | tlsConnect =>
      show RxReady (Cloud.tlsConnect world _).1.umqttConn
      unfold Cloud.tlsConnect
      dsimp only
      split <;> split <;> exact ready
  | mqttConnect =>
      show RxReady (Cloud.mqttConnect world _).1.umqttConn
      unfold Cloud.mqttConnect
      dsimp only
      rw [sendAll_eq]
      exact ClientOp.run_rxReady ready .connect
  | startSending =>
      show RxReady (Cloud.startSending _).1.umqttConn
      unfold Cloud.startSending
      dsimp only
      obtain ⟨connection, scheduler, observed⟩ := ledUserHandler_frame _ .sending .success
      rw [observed]
      exact ready

/-- The receive ring is in good order along a run. -/
theorem rxReady_kept : KeptByParts world fun board => RxReady board.umqttConn where
  polls := fun _ step ready => pollStep_rxReady world ready step
  calls := fun _ ready => callNextCallback_rxReady world ready
  observes := by
    intro board ready
    obtain ⟨connection, scheduler, observed⟩ := observed_frame board
    rw [observed]
    exact ready
  handles := by
    intro board ready
    obtain ⟨scheduler, handled⟩ := errorHandler_frame board
    rw [handled]
    exact ready
  enters := fun board ready => Handler.run_rxReady world (handler board.currentState) ready

end Ready

/-! ## The handle -/

/-- The log knows the handle of the board. -/
def Board.HandleKnown (board : Board) : Prop :=
  (listening board.log).socket = board.tcpClientSocket

theorem listening_socket (log : List Action) : (listening log).socket = storedSocket log := by
  induction log with
  | nil => rfl
  | cons entry past inductionHypothesis =>
      have kept (other : ∀ rc, entry ≠ .call .socket rc) :
          ((listening past).next entry).socket = (listening past).socket := by
        unfold Listening.next
        split
        · exact absurd rfl (other _)
        all_goals first | rfl | (split <;> rfl)
      cases entry with
      | call call rc =>
          cases call with
          | socket => rfl
          | _ => exact (kept (by simp)).trans inductionHypothesis
      | _ => exact (kept (by simp)).trans inductionHypothesis

theorem LogsSockets.handleKnown {board : Board} (logs : LogsSockets board) :
    board.HandleKnown := by
  unfold Board.HandleKnown
  rw [listening_socket, ← socketLog_tcpClientSocket, logs.reached]

/-! ## Messages -/

section Messages

variable (world : World) {board : Board}

theorem packetsArrived_view (board : Board) (arrivals : List Arrival) :
    let after := arrivals.foldl (packetArrived world) board
    listening after.log = listening board.log ∧
      after.occuredEvent =
        if ∃ arrival ∈ arrivals, arrival.callback ≠ none then .success
        else board.occuredEvent := by
  induction arrivals generalizing board with
  | nil => simp
  | cons arrival arrivals inductionHypothesis =>
      have first : listening (packetArrived world board arrival).log = listening board.log ∧
          (packetArrived world board arrival).occuredEvent =
            if arrival.callback = none then board.occuredEvent else .success := by
        unfold packetArrived
        dsimp only
        cases arrival.callback with
        | none => exact ⟨rfl, rfl⟩
        | some callback => cases callback <;> exact ⟨rfl, rfl⟩
      obtain ⟨views, events⟩ := inductionHypothesis (packetArrived world board arrival)
      refine ⟨views.trans first.1, events.trans ?_⟩
      rw [first.2]
      by_cases later : ∃ arrival ∈ arrivals, arrival.callback ≠ none
      · simp [later]
      · by_cases silent : arrival.callback = none
        · simp [later, silent]
        · simp [later, silent]

/-- A segment changes nothing that the log tells about the connection behind its
delivery, and posts a success if one of its packets calls back. -/
theorem receive_view (ready : RxReady board.umqttConn) (sock : Int) (pstrRecv : SocketRecvMsg) :
    let delivered := board.write (.callback (.socket sock (.recv (some pstrRecv))))
    let after := receive world delivered pstrRecv.pu8Buffer (UInt8.ofInt pstrRecv.s16BufferSize)
    listening after.log = listening delivered.log ∧
      after.occuredEvent =
        if ∃ frame ∈ segmentFrames world board sock pstrRecv, frame.CallsBack then .success
        else board.occuredEvent := by
  let delivered := board.write (.callback (.socket sock (.recv (some pstrRecv))))
  let data := pstrRecv.pu8Buffer.take (UInt8.ofInt pstrRecv.s16BufferSize).toNat
  let result := mqttClientReceive (world.scratch delivered.log) board.umqttConn
    pstrRecv.pu8Buffer (UInt8.ofInt pstrRecv.s16BufferSize)
  obtain ⟨view, event⟩ := packetsArrived_view world (delivered.storeResult result) result.arrivals
  refine ⟨view, event.trans ?_⟩
  obtain ⟨pushValid, _, _, pushed, _⟩ := umqttCircPush_spec ready.valid data
  rw [ready.capacity] at pushed
  have stored : UmqttCircBuffer.Valid { board.umqttConn with
      rxbuff := (umqttCircPush board.umqttConn.rxbuff data).1 }.rxbuff := pushValid
  have calls := umqttProcess_callback_iff (world.scratch delivered.log) stored
  dsimp only at calls
  rw [pushed] at calls
  exact if_congr calls rfl rfl

/-- The connection when a socket may have been closed. -/
def Listening.closing (view : Listening) : Option Int → Listening
  | some sock =>
      if sock = view.socket then
        { view with heard := false, recvPending := false, outstanding := 0 }
      else view
  | none => view

theorem closing_deaf_iff (view : Listening) (closes : Option Int) :
    (view.closing closes).Deaf ↔ view.Deaf ∧ closes ≠ some view.socket := by
  cases closes with
  | none => simp [Listening.closing]
  | some sock =>
      unfold Listening.closing Listening.Deaf
      dsimp only
      split
      · next same => simp [same]
      · next other => simp [other]

theorem networkWifiCallback_view (board : Board) (msg : WifiMsg) :
    listening (networkWifiCallback world board msg).log =
      (listening board.log).closing ((WincMessage.wifi msg).closes board.tcpClientSocket) := by
  cases msg with
  | dhcpConf => rfl
  | conStateChanged currState =>
      unfold networkWifiCallback WincMessage.closes
      dsimp only
      split
      · rfl
      · rfl
  | other => rfl

theorem networkDnsCallback_view (board : Board) (serverIP : UInt32) :
    listening (networkDnsCallback board serverIP).log = listening board.log := by
  unfold networkDnsCallback
  dsimp only
  split <;> rfl

theorem networkPingCallback_view (board : Board) (u8ErrorCode : UInt8) :
    listening (networkPingCallback board u8ErrorCode).log = listening board.log := by
  unfold networkPingCallback
  dsimp only
  repeat' split
  all_goals rfl

theorem connect_view (board : Board) (sock : Int) (s8Error : Option Int) :
    listening (networkWifiSocketHandler world board sock (.connect s8Error)).log =
      (listening board.log).closing
        ((WincMessage.socket sock (.connect s8Error)).closes board.tcpClientSocket) := by
  cases s8Error with
  | none => rfl
  | some s8Error =>
      unfold networkWifiSocketHandler WincMessage.closes
      dsimp only
      split
      · rfl
      · rfl

/-- A message without data closes its socket. -/
theorem ended_view (board : Board) (sock : Int) (pstrRecv : Option SocketRecvMsg)
    (ended : ∀ filled ∈ pstrRecv, ¬filled.s16BufferSize > 0) :
    listening (deliver world board (.socket sock (.recv pstrRecv))).log =
      (listening board.log).closing (some sock) := by
  have handled : deliver world board (.socket sock (.recv pstrRecv)) =
      cloudReceiveEvent (.callback (.socket sock (.recv pstrRecv))) .fail
        ((board.write (.callback (.socket sock (.recv pstrRecv)))).callDriver world
          (.close sock)).1 := by
    cases pstrRecv with
    | none => rfl
    | some filled => exact if_neg (ended filled rfl)
  rw [handled]
  show ((listening board.log).next (.callback (.socket sock (.recv pstrRecv)))).closing
    (some sock) = _
  unfold Listening.next Listening.closing
  dsimp only
  by_cases same : sock = (listening board.log).socket
  · simp [same]
  · simp [same]

theorem Listening.sent_deaf_iff (view : Listening) (sock rc : Int) :
    ((view.next (.callback (.socket sock .send))).next (.call (.recv view.socket) rc)).Deaf ↔
      view.Deaf ∧ rc ≠ m2mSuccess ∨
        sock = view.socket ∧ view.recvPending = false ∧ view.outstanding ≤ 1 ∧
          rc ≠ m2mSuccess := by
  unfold Listening.Deaf Listening.next
  dsimp only
  by_cases mine : sock = view.socket
  · by_cases accepted : rc = m2mSuccess
    · simp [mine, accepted]
    · simp only [mine, if_true, accepted, and_false, if_false]
      grind
  · by_cases accepted : rc = m2mSuccess
    · simp [mine, accepted]
    · simp [mine, accepted]

theorem Listening.received_deaf_iff (view : Listening) (sock : Int)
    (pstrRecv : Option SocketRecvMsg) :
    (view.next (.callback (.socket sock (.recv pstrRecv)))).Deaf ↔
      view.Deaf ∨ sock = view.socket ∧ view.heard = true ∧ view.outstanding = 0 := by
  unfold Listening.Deaf Listening.next
  dsimp only
  by_cases mine : sock = view.socket
  · simp only [mine, if_true]
    grind
  · simp [mine]

/-- A message that only may close a socket. -/
theorem closing_message_deaf_iff (known : board.HandleKnown) (message : WincMessage)
    (silent : ¬Deafens world board (.message message))
    (restores : Restores world board (.message message) ↔
      message.closes board.tcpClientSocket = some board.tcpClientSocket)
    (view : listening (deliver world board message).log =
      (listening board.log).closing (message.closes board.tcpClientSocket)) :
    (listening (pollStep world board (.message message)).log).Deaf ↔
      (listening board.log).Deaf ∧ ¬Restores world board (.message message) ∨
        Deafens world board (.message message) := by
  show (listening (deliver world board message).log).Deaf ↔ _
  rw [view, closing_deaf_iff, known, restores, or_iff_left silent]

/-- A segment takes the pending receive away. -/
theorem received_deaf_iff (known : board.HandleKnown) (ready : RxReady board.umqttConn)
    (sock : Int) (pstrRecv : SocketRecvMsg) (filled : pstrRecv.s16BufferSize > 0) :
    let step : PollStep := .message (.socket sock (.recv (some pstrRecv)))
    (listening (pollStep world board step).log).Deaf ↔
      (listening board.log).Deaf ∧ ¬Restores world board step ∨ Deafens world board step := by
  have handled : pollStep world board (.message (.socket sock (.recv (some pstrRecv)))) =
      receive world (board.write (.callback (.socket sock (.recv (some pstrRecv)))))
        pstrRecv.pu8Buffer (UInt8.ofInt pstrRecv.s16BufferSize) := if_pos filled
  have stays : (WincMessage.socket sock (.recv (some pstrRecv))).closes board.tcpClientSocket =
      none := if_pos filled
  have received := (listening board.log).received_deaf_iff sock (some pstrRecv)
  rw [known] at received
  dsimp only
  rw [handled, (receive_view world ready sock pstrRecv).1]
  refine received.trans ?_
  simp [Restores, Deafens, stays, filled]

/-- Whether the client is deaf behind a message, from how it was before. -/
theorem pollStep_deaf_iff (known : board.HandleKnown) (ready : RxReady board.umqttConn)
    (step : PollStep) :
    (listening (pollStep world board step).log).Deaf ↔
      (listening board.log).Deaf ∧ ¬Restores world board step ∨ Deafens world board step := by
  cases step with
  | rtc step => simp [Restores, Deafens, pollStep, Board.rtcStep, Board.setScheduler]
  | message message =>
      cases message with
      | wifi msg =>
          exact closing_message_deaf_iff world known _ id Iff.rfl
            (networkWifiCallback_view world (board.write _) msg)
      | dns serverIP =>
          exact closing_message_deaf_iff world known _ id Iff.rfl
            (networkDnsCallback_view (board.write _) serverIP)
      | ping u8ErrorCode =>
          exact closing_message_deaf_iff world known _ id Iff.rfl
            (networkPingCallback_view (board.write _) u8ErrorCode)
      | socket sock msg =>
          cases msg with
          | connect s8Error =>
              exact closing_message_deaf_iff world known _ id Iff.rfl
                (connect_view world (board.write _) sock s8Error)
          | send =>
              have sent := (listening board.log).sent_deaf_iff sock
                (world.reply (.callback (.socket sock .send) :: board.log)
                  (.recv board.tcpClientSocket))
              rw [known] at sent
              exact sent
          | recv pstrRecv =>
              cases pstrRecv with
              | none =>
                  exact closing_message_deaf_iff world known _ id Iff.rfl
                    (ended_view world board sock none (by simp))
              | some pstrRecv =>
                  by_cases filled : pstrRecv.s16BufferSize > 0
                  · exact received_deaf_iff world known ready sock pstrRecv filled
                  · have closes : (WincMessage.socket sock (.recv (some pstrRecv))).closes
                        board.tcpClientSocket = some sock := if_neg filled
                    apply closing_message_deaf_iff world known _ _ Iff.rfl
                    · rw [closes]
                      exact ended_view world board sock (some pstrRecv) (by simpa using filled)
                    · exact fun deafens => filled deafens.2.1
          | other => exact closing_message_deaf_iff world known _ id Iff.rfl rfl

theorem received_event (ready : RxReady board.umqttConn) (sock : Int)
    (pstrRecv : SocketRecvMsg) :
    let step : PollStep := .message (.socket sock (.recv (some pstrRecv)))
    (pollStep world board step).occuredEvent =
      if posted world board step = .noEvent then board.occuredEvent
      else posted world board step := by
  by_cases filled : pstrRecv.s16BufferSize > 0
  · have handled : pollStep world board (.message (.socket sock (.recv (some pstrRecv)))) =
        receive world (board.write (.callback (.socket sock (.recv (some pstrRecv)))))
          pstrRecv.pu8Buffer (UInt8.ofInt pstrRecv.s16BufferSize) := if_pos filled
    dsimp only
    rw [handled, (receive_view world ready sock pstrRecv).2, posted, if_pos filled]
    by_cases calls : ∃ frame ∈ segmentFrames world board sock pstrRecv, frame.CallsBack
    · rw [if_pos calls, if_pos calls]
      rfl
    · rw [if_neg calls, if_neg calls, if_pos rfl]
  · have handled : (pollStep world board
        (.message (.socket sock (.recv (some pstrRecv))))).occuredEvent = .fail :=
      congrArg Board.occuredEvent (if_neg filled)
    dsimp only
    rw [handled, posted, if_neg filled]
    rfl

/-- What is in `occured_event` behind a message. -/
theorem pollStep_event (ready : RxReady board.umqttConn) (step : PollStep) :
    (pollStep world board step).occuredEvent =
      if posted world board step = .noEvent then board.occuredEvent
      else posted world board step := by
  cases step with
  | rtc step => rfl
  | message message =>
      cases message with
      | wifi msg =>
          cases msg with
          | dhcpConf => rfl
          | conStateChanged currState =>
              show (networkWifiCallback world (board.write _) _).occuredEvent = _
              unfold networkWifiCallback posted WincMessage.event
              dsimp only
              split <;> rfl
          | other => rfl
      | dns serverIP =>
          show (networkDnsCallback (board.write _) _).occuredEvent = _
          unfold networkDnsCallback posted WincMessage.event
          dsimp only
          split <;> rfl
      | ping u8ErrorCode =>
          show (networkPingCallback (board.write _) _).occuredEvent = _
          unfold networkPingCallback posted WincMessage.event
          dsimp only
          repeat' split
          all_goals first | rfl | contradiction
      | socket sock msg =>
          cases msg with
          | connect s8Error =>
              cases s8Error with
              | none => rfl
              | some s8Error =>
                  show (networkWifiSocketHandler world (board.write _) _ _).occuredEvent = _
                  unfold networkWifiSocketHandler posted WincMessage.event
                  dsimp only
                  split <;> rfl
          | send => rfl
          | recv pstrRecv =>
              cases pstrRecv with
              | none => rfl
              | some pstrRecv => exact received_event world ready sock pstrRecv
          | other => rfl

/-- A message leaves the state, the handle and what the log knows of it. -/
theorem pollStep_state (step : PollStep) :
    (pollStep world board step).currentState = board.currentState ∧
      (pollStep world board step).inReset = board.inReset := by
  cases step with
  | message message =>
      have core := @deliver_core world board message
      exact ⟨congrArg CoreVariables.currentState core, congrArg CoreVariables.inReset core⟩
  | rtc step => exact ⟨rfl, rfl⟩

theorem leavesSend_iff (ready : RxReady board.umqttConn) (step : PollStep) :
    LeavesSend world board step ↔
      EventSends (pollStep world board step).currentState
        (pollStep world board step).occuredEvent := by
  rw [eventSends_iff, pollStep_event world ready, (pollStep_state world step).1]
  unfold LeavesSend
  cases posted world board step <;> simp [and_comm]

end Messages

end MicrochipDay.Cloud
