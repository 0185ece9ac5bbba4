import MicrochipDay.Cloud.Board

/-!
Owns the callbacks: `umqtt_received_cb` (main.c), `umqtt_connected_cb`
(mqtt_client.c) and the `NETWORK_*` callbacks (network.c) through which the
driver's messages reach the program.
-/

namespace MicrochipDay.Cloud

open MicrochipDay.Umqtt
open MicrochipDay.MqttClient

/-! ## MQTT callbacks -/

def umqttConnectedCb (board : Board) : Board := cloudReceiveEvent .umqttConnected .success board

/-- The search loop of `umqtt_received_cb`: the index of the first 'D' up to
and including `len`, or the one behind. For `len` 65535 the loop of the source
never ends unless it finds a 'D'; no array of the program is that long. -/
def findD (data : Nat → UInt8) (len : Nat) : Nat :=
  ((List.range (len + 1)).find? fun index => data index = 68).getD (len + 1)

def umqttReceivedCb (world : World) (board : Board) (message : Message) : Board :=
  let data := bodyCell (world.behindPayload board.log) message.payload
  -- `i <= len` and `i + 3` are evaluated in 16-bit unsigned arithmetic
  let i := findD data (message.len % 65536).toNat
  let selector := data ((i + 3) % 65536)
  let ioStatus : UInt8 := if selector = 48 then 0 else if selector = 49 then 1 else board.ioStatus
  cloudReceiveEvent .umqttReceived .success { board with ioStatus := ioStatus }

def packetArrived (world : World) (board : Board) (arrival : Arrival) : Board :=
  let board := board.write (.arrived arrival)
  match arrival.callback with
  | some .connected => umqttConnectedCb board
  | some (.message message) => umqttReceivedCb world board message
  | none => board

theorem packetArrived_frame (world : World) (board : Board) (arrival : Arrival) :
    (packetArrived world board arrival).umqttConn = board.umqttConn ∧
      (packetArrived world board arrival).mqttTopicSub = board.mqttTopicSub := by
  simp only [packetArrived]
  split <;> exact ⟨rfl, rfl⟩

theorem packetsArrived_frame (world : World) (board : Board) (arrivals : List Arrival) :
    (arrivals.foldl (packetArrived world) board).umqttConn = board.umqttConn ∧
      (arrivals.foldl (packetArrived world) board).mqttTopicSub = board.mqttTopicSub := by
  refine List.foldlRecOn arrivals _
    (motive := fun next : Board => next.umqttConn = board.umqttConn ∧
      next.mqttTopicSub = board.mqttTopicSub) ⟨rfl, rfl⟩ ?_
  intro next kept arrival _
  obtain ⟨sameConn, sameTopic⟩ := packetArrived_frame world next arrival
  exact ⟨sameConn.trans kept.1, sameTopic.trans kept.2⟩

/-- The board when `umqtt_process` is done, before its callbacks. -/
def Board.storeResult (board : Board) (result : ProcessResult) : Board :=
  { board with umqttConn := result.conn }.write (.processed result.popped)

/-- `MQTT_CLIENT_receive` with its callbacks. They leave the connection alone,
so they can run after `umqtt_process`, in the order of the packets. -/
def receive (world : World) (board : Board) (data : List UInt8) (len : UInt8) : Board :=
  let result := mqttClientReceive (world.scratch board.log) board.umqttConn data len
  result.arrivals.foldl (packetArrived world) (board.storeResult result)

/-! ## `NETWORK_*` callbacks -/

def networkWifiSocketHandler (world : World) (board : Board) (sock : Int) (msg : SocketMsg) :
    Board :=
  let caller : Caller := .callback (.socket sock msg)
  let closeAndFail := cloudReceiveEvent caller .fail (board.callDriver world (.close sock)).1
  match msg with
  | .connect (some s8Error) =>
      if s8Error ≥ 0 then cloudReceiveEvent caller .success board else closeAndFail
  | .connect none => closeAndFail
  | .send => (board.callDriver world (.recv board.tcpClientSocket)).1
  | .recv (some pstrRecv) =>
      if pstrRecv.s16BufferSize > 0 then
        -- the size narrows to the eight bits of the parameter `len`
        receive world board pstrRecv.pu8Buffer (UInt8.ofInt pstrRecv.s16BufferSize)
      else closeAndFail
  | .recv none => closeAndFail
  | .other => board

def networkWifiCallback (world : World) (board : Board) (msg : WifiMsg) : Board :=
  let caller : Caller := .callback (.wifi msg)
  match msg with
  | .dhcpConf => cloudReceiveEvent caller .success board
  | .conStateChanged currState =>
      if currState = m2mWifiDisconnected then
        cloudReceiveEvent caller .fail (board.callDriver world (.close board.tcpClientSocket)).1
      else board
  | .other => board

def networkDnsCallback (board : Board) (serverIP : UInt32) : Board :=
  let caller : Caller := .callback (.dns serverIP)
  if serverIP ≠ 0 then cloudReceiveEvent caller .success { board with endpointIp := serverIP }
  else cloudReceiveEvent caller .fail board

/-- `PING_ERR_SUCCESS`, `PING_ERR_DEST_UNREACH` and `PING_ERR_TIMEOUT`. -/
def pingErrSuccess : UInt8 := 0
def pingErrDestUnreach : UInt8 := 1
def pingErrTimeout : UInt8 := 2

def networkPingCallback (board : Board) (u8ErrorCode : UInt8) : Board :=
  let caller : Caller := .callback (.ping u8ErrorCode)
  if u8ErrorCode = pingErrSuccess then cloudReceiveEvent caller .success board
  else if u8ErrorCode = pingErrDestUnreach then cloudReceiveEvent caller .fail board
  else if u8ErrorCode = pingErrTimeout then cloudReceiveEvent caller .fail board
  else board

/-- `m2m_wifi_handle_events` delivers one message. -/
def deliver (world : World) (board : Board) (message : WincMessage) : Board :=
  let board := board.write (.callback message)
  match message with
  | .wifi msg => networkWifiCallback world board msg
  | .socket sock msg => networkWifiSocketHandler world board sock msg
  | .dns serverIP => networkDnsCallback board serverIP
  | .ping u8ErrorCode => networkPingCallback board u8ErrorCode

end MicrochipDay.Cloud
