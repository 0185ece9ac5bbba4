import MicrochipDay.Cloud.Publish
import MicrochipDay.Scheduler

/-!
Owns the state of the running program (the variables of cloud.c, network.c,
main.c and led.c, with the connection and the timers), the calls it makes to
the Wi-Fi driver, the messages the driver delivers, and the log of what the
program did.

The log is newest first. It is bookkeeping: the program never reads it. What
the program gets from outside (return codes, uninitialised memory, the sensor)
is a `World` and may depend on everything that happened before.

Does not own LED levels and the TLS callback, on which no other variable here
depends.
-/

namespace MicrochipDay.Cloud

open MicrochipDay.Umqtt
open MicrochipDay.MqttClient
open MicrochipDay.Scheduler

/-! ## Enumerations -/

/-- `cloudState_t`. -/
inductive CloudState where
  | init
  | wifiConnect
  | waitForInternet
  | dnsRequest
  | tlsConnect
  | mqtt
  | sending
deriving DecidableEq, Repr

/-- `cloudEvent_t`. -/
inductive CloudEvent where
  | success
  | fail
  | noEvent
deriving DecidableEq, Repr

/-- The functions in the table `handler`. -/
inductive Handler where
  | wifiConnect
  | waitForInternet
  | requestDns
  | tlsConnect
  | mqttConnect
  | startSending
deriving DecidableEq, Repr

inductive TimerId where
  | sendTask
  | toggleLed
deriving DecidableEq, Repr

instance : Fintype TimerId where
  elems := {.sendTask, .toggleLed}
  complete := fun id => by cases id <;> decide

/-! ## The Wi-Fi driver -/

/-- `M2M_SUCCESS` and `SOCK_ERR_NO_ERROR`. -/
def m2mSuccess : Int := 0

/-- The calls to the driver whose result or order matters. A `send` through the
null socket pointer has no socket. -/
inductive DriverCall where
  | nmBspInit
  | m2mWifiInit
  | m2mSslInit
  | m2mSslSetActiveCiphersuites
  | socketInit
  | m2mWifiConnect
  | m2mPingReq
  | gethostbyname
  | socket
  | connect (sock : Int) (ip : UInt32)
  | send (sock : Option Int) (data : List UInt8)
  | recv (sock : Int)
  | close (sock : Int)
deriving DecidableEq, Repr

def m2mWifiDisconnected : UInt8 := 0

inductive WifiMsg where
  | dhcpConf
  | conStateChanged (currState : UInt8)
  | other
deriving DecidableEq, Repr

/-- `tstrSocketRecvMsg`; the driver has stored what it announces. -/
structure SocketRecvMsg where
  pu8Buffer : List UInt8
  s16BufferSize : Int
  stored : s16BufferSize ≤ pu8Buffer.length
deriving DecidableEq, Repr

/-- What `NETWORK_wifiSocketHandler` is called with; `none` where the pointer
to the message is null. -/
inductive SocketMsg where
  | connect (s8Error : Option Int)
  | send
  | recv (pstrRecv : Option SocketRecvMsg)
  | other
deriving DecidableEq, Repr

/-- A message that `m2m_wifi_handle_events` delivers to one of the installed
callbacks. -/
inductive WincMessage where
  | wifi (msg : WifiMsg)
  | socket (sock : Int) (msg : SocketMsg)
  | dns (serverIP : UInt32)
  | ping (u8ErrorCode : UInt8)
deriving DecidableEq, Repr

/-! ## The log -/

/-- The functions that call `CLOUD_receiveEvent`; a `NETWORK_*` callback with
the message it handles. -/
inductive Caller where
  | wifiInit
  | tlsInit
  | startApp
  | handler (handler : Handler)
  | callback (message : WincMessage)
  | umqttConnected
  | umqttReceived
deriving DecidableEq, Repr

inductive Action where
  | receiveEvent (caller : Caller) (ev : CloudEvent)
  /-- `CLOUD_runTask` takes the event out of `occured_event`. -/
  | consume (state : CloudState) (ev : CloudEvent)
  | errorHandler (state : CloudState)
  /-- A function of the table `handler` starts, with the MQTT state and `sub_init`
  at that moment. -/
  | started (handler : Handler) (mqttState : UmqttState) (subInit : UInt8)
  /-- A function of the table returns, and `current_state` becomes its result. -/
  | entered (state : CloudState)
  | callback (message : WincMessage)
  /-- `umqtt_process` has taken these bytes off the receive ring. -/
  | processed (bytes : List UInt8)
  | arrived (arrival : Arrival)
  | call (call : DriverCall) (rc : Int)
  | publishReturned
  | reset
deriving DecidableEq, Repr

/-! ## The program and its environment -/

/-- What the program finds outside itself, given all that happened before. -/
structure World where
  reply : List Action → DriverCall → Int
  /-- Memory that a run of `umqtt_process` has not written. -/
  scratch : List Action → Scratch
  /-- Memory behind the payload array of a received message. -/
  behindPayload : List Action → Nat → UInt8
  temperature : List Action → Int
  /-- `key_id_d`, read from the secure element at start-up. -/
  keyId : List UInt8
  keyIdSize : keyId.length = 20

/-- A world in which a driver call always has the same result, unwritten memory
is zero and the sensor reads 0 degrees. -/
def World.steady (reply : DriverCall → Int) : World where
  reply := fun _ call => reply call
  scratch := fun _ => Scratch.zeros
  behindPayload := fun _ _ => 0
  temperature := fun _ => 0
  keyId := List.replicate 20 0
  keyIdSize := List.length_replicate

def World.accepting : World := World.steady fun call => if call = .socket then 1 else m2mSuccess

structure Board where
  currentState : CloudState
  occuredEvent : CloudEvent
  scheduler : SchedulerState TimerId
  umqttConn : UmqttConnection
  /-- Whether `tcp_client_socket` points to `tcpClientSocket` yet. -/
  socketPointerSet : Bool
  mqttTopic : CString
  mqttTopicSub : CString
  tcpClientSocket : Int
  endpointIp : UInt32
  subInit : UInt8
  ioStatus : UInt8
  counter : UInt8
  isInternetConnection : Bool
  wdtConnect : UInt32
  inReset : Bool
  log : List Action

/-- Zero-filled memory holds the empty string. -/
def CString.empty : CString := ⟨[], List.not_mem_nil⟩

/-- The variables before `main` calls `CLOUD_startApp`. -/
def Board.initial : Board where
  currentState := .init
  occuredEvent := .noEvent
  scheduler := schedulerTimeoutInit TimerId
  umqttConn := MqttClient.umqttConn CString.empty
  socketPointerSet := false
  mqttTopic := CString.empty
  mqttTopicSub := CString.empty
  tcpClientSocket := -1
  endpointIp := 0
  subInit := 0
  ioStatus := 0
  counter := 0
  isInternetConnection := true
  wdtConnect := 0
  inReset := false
  log := []

namespace Board

def write (board : Board) (action : Action) : Board := { board with log := action :: board.log }

def callDriver (world : World) (board : Board) (call : DriverCall) : Board × Int :=
  let rc := world.reply board.log call
  (board.write (.call call rc), rc)

/-- `send()` on the socket that `tcp_client_socket` points to, once for each
packet that an MQTT operation hands over. The results are ignored. -/
def sendAll (world : World) (board : Board) (packets : List (List UInt8)) : Board :=
  packets.foldl
    (fun board bytes =>
      (board.callDriver world
        (.send (if board.socketPointerSet then some board.tcpClientSocket else none) bytes)).1)
    board

end Board

def cloudReceiveEvent (caller : Caller) (ev : CloudEvent) (board : Board) : Board :=
  { board with occuredEvent := ev, log := .receiveEvent caller ev :: board.log }

end MicrochipDay.Cloud
