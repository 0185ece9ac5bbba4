import MicrochipDay.Umqtt.Process

/-!
Owns mqtt_client.c: the one connection of the program, the `MQTT_CLIENT_*`
operations, and runs of client operations.

`initUmqtt` stores a pointer that only `umqtt_send_packet` reads; its caller
keeps the socket it points to.
-/

namespace MicrochipDay.MqttClient

open MicrochipDay.Umqtt

def txBuffSize : Nat := 250
def rxBuffSize : Nat := 250
def mqttKeepAliveTime : UInt16 := 900

/-- `umqtt_conn` before the first operation. Its ring pointers are still null, and
stand here at the start of the buffers, where `MQTT_CLIENT_connect` sets them. It
does so before anything is sent or received: the driver delivers data only after a
`recv()`, which is called when a send has completed, and the first send is that of
the CONNECT. -/
def umqttConn (mqttClientId : CString) : UmqttConnection where
  txbuff := ⟨List.replicate txBuffSize 0, txBuffSize, 0, 0⟩
  rxbuff := ⟨List.replicate rxBuffSize 0, rxBuffSize, 0, 0⟩
  kalive := mqttKeepAliveTime
  clientid := mqttClientId
  nackPublish := 0
  nackSubscribe := 0
  nackPing := 0
  messageId := 0
  state := .init

def mqttClientPublish (mqttTopic : CString) (conn : UmqttConnection) (data : List UInt8)
    (datalen : UInt8) : UmqttConnection × List (List UInt8) :=
  umqttPublish conn mqttTopic data datalen.toNat

/-- `MQTT_CLIENT_receive`; the count of bytes the push refused is ignored. -/
def mqttClientReceive (scratch : Scratch) (conn : UmqttConnection) (data : List UInt8)
    (len : UInt8) : ProcessResult :=
  umqttProcess scratch
    { conn with rxbuff := (umqttCircPush conn.rxbuff (data.take len.toNat)).1 }

def mqttClientConnect (conn : UmqttConnection) : UmqttConnection × List (List UInt8) :=
  umqttConnect
    { conn with txbuff := umqttCircInit conn.txbuff, rxbuff := umqttCircInit conn.rxbuff }

def mqttClientSubscribe (mqttTopicSub : CString) (conn : UmqttConnection) :
    UmqttConnection × List (List UInt8) :=
  umqttSubscribe conn mqttTopicSub

/-! ## Runs of client operations -/

/-- An operation on the connection with its arguments. -/
inductive ClientOp where
  | connect
  | publish (topic : CString) (data : List UInt8)
  | subscribe (topic : CString)
  | ping
  | receive (scratch : Scratch) (data : List UInt8) (len : UInt8)

/-- The connection after an operation, and what it handed to `send()`. -/
def ClientOp.run (conn : UmqttConnection) : ClientOp → UmqttConnection × List (List UInt8)
  | .connect => mqttClientConnect conn
  | .publish topic data => umqttPublish conn topic data data.length
  | .subscribe topic => umqttSubscribe conn topic
  | .ping => umqttPing conn
  | .receive scratch data len => ((mqttClientReceive scratch conn data len).conn, [])

def runOps (conn : UmqttConnection) (ops : List ClientOp) : UmqttConnection :=
  ops.foldl (fun conn op => (op.run conn).1) conn

theorem runOps_cons (conn : UmqttConnection) (op : ClientOp) (ops : List ClientOp) :
    runOps conn (op :: ops) = runOps (op.run conn).1 ops := rfl

/-- Storage of the two rings is in place: what the static initialiser sets up
and every operation keeps. -/
structure HasStorage (conn : UmqttConnection) : Prop where
  txLength : conn.txbuff.length = txBuffSize
  txStorage : conn.txbuff.start.length = conn.txbuff.length
  rxLength : conn.rxbuff.length = rxBuffSize
  rxStorage : conn.rxbuff.start.length = conn.rxbuff.length

theorem umqttConn_hasStorage (mqttClientId : CString) : HasStorage (umqttConn mqttClientId) where
  txLength := rfl
  txStorage := by simp [umqttConn]
  rxLength := rfl
  rxStorage := by simp [umqttConn]

end MicrochipDay.MqttClient
