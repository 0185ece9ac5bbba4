import MicrochipDay.MqttClient
import MicrochipDay.Umqtt.Encoding
import MicrochipDay.Umqtt.Receive

/-!
Owns the invariants of the two rings over runs of client operations: from
`MQTT_CLIENT_connect` on, the transmit ring is idle between operations and the
receive ring is in good order.
-/

namespace MicrochipDay.MqttClient

open MicrochipDay.Umqtt

/-! ## The transmit ring -/

/-- The invariant between operations: the transmit ring has its capacity and
is idle. -/
structure TxReady (conn : UmqttConnection) : Prop where
  idle : TxIdle conn
  capacity : conn.txbuff.length = txBuffSize

theorem TxReady.of_txbuff {conn other : UmqttConnection} (ready : TxReady conn)
    (same : other.txbuff = conn.txbuff) : TxReady other where
  idle :=
    { valid := by rw [same]; exact ready.idle.valid
      fresh := by rw [same]; exact ready.idle.fresh }
  capacity := by rw [same]; exact ready.capacity

theorem sendParts_ready {conn : UmqttConnection} (ready : TxReady conn)
    (parts : List (List UInt8)) : TxReady (sendParts conn parts).1 where
  idle := sendParts_idle ready.idle parts
  capacity := (sendParts_length ready.idle parts).trans ready.capacity

theorem sendParts_first {conn : UmqttConnection} (ready : TxReady conn) (header : UInt8)
    (parts : List (List UInt8)) :
    ∃ more, (sendParts conn ([header] :: parts)).2 = [header :: more] := by
  refine ⟨parts.flatten.take 249, ?_⟩
  rw [sendParts_sends ready.idle, ready.capacity]
  rfl

/-- Resetting both rings makes any connection with its storage ready. -/
theorem resetForConnect_ready {conn : UmqttConnection}
    (storage : conn.txbuff.start.length = conn.txbuff.length)
    (capacity : conn.txbuff.length = txBuffSize) :
    TxReady (resetForConnect
      { conn with txbuff := umqttCircInit conn.txbuff, rxbuff := umqttCircInit conn.rxbuff }) where
  idle :=
    { valid := umqttCircInit_valid (by rw [umqttCircInit_length, capacity]; decide) storage
      fresh := umqttCircInit_fresh _ }
  capacity := capacity

theorem mqttClientConnect_ready {conn : UmqttConnection}
    (storage : conn.txbuff.start.length = conn.txbuff.length)
    (capacity : conn.txbuff.length = txBuffSize) : TxReady (mqttClientConnect conn).1 := by
  obtain ⟨parts, pushed⟩ := umqttConnect_parts
    { conn with txbuff := umqttCircInit conn.txbuff, rxbuff := umqttCircInit conn.rxbuff }
  rw [mqttClientConnect, pushed]
  exact sendParts_ready (resetForConnect_ready storage capacity) _

theorem mqttClientReceive_txbuff (scratch : Scratch) (conn : UmqttConnection)
    (data : List UInt8) (len : UInt8) :
    (mqttClientReceive scratch conn data len).conn.txbuff = conn.txbuff := by
  rw [mqttClientReceive, umqttProcess_updated, updateAll_txbuff]

theorem mqttClientReceive_state (scratch : Scratch) (conn : UmqttConnection)
    (data : List UInt8) (len : UInt8) :
    (mqttClientReceive scratch conn data len).conn.state =
      (updateAll conn (mqttClientReceive scratch conn data len).arrivals).state := by
  refine (umqttProcess_state scratch _).trans (updateAll_state_congr ?_ _)
  rfl

theorem ClientOp.run_ready {conn : UmqttConnection} (ready : TxReady conn) (op : ClientOp) :
    TxReady (op.run conn).1 := by
  cases op with
  | connect => exact mqttClientConnect_ready ready.idle.valid.storage ready.capacity
  | publish topic data =>
      obtain ⟨parts, pushed⟩ := umqttPublish_parts conn topic data data.length
      rw [ClientOp.run, pushed]
      exact sendParts_ready ready _
  | subscribe topic =>
      obtain ⟨parts, pushed⟩ := umqttSubscribe_parts conn topic
      rw [ClientOp.run, pushed]
      refine sendParts_ready ?_ _
      exact ready.of_txbuff rfl
  | ping =>
      rw [ClientOp.run, umqttPing_eq]
      refine sendParts_ready ?_ _
      exact ready.of_txbuff rfl
  | receive scratch data len =>
      exact ready.of_txbuff (mqttClientReceive_txbuff scratch conn data len)

theorem runOps_ready {conn : UmqttConnection} (ready : TxReady conn) (ops : List ClientOp) :
    TxReady (runOps conn ops) :=
  List.foldlRecOn ops _ (motive := TxReady) ready fun _ kept op _ => op.run_ready kept

theorem runOps_connect_ready {initial : UmqttConnection} (storage : HasStorage initial)
    (ops : List ClientOp) : TxReady (runOps initial (ClientOp.connect :: ops)) := by
  have ready : TxReady (ClientOp.connect.run initial).1 :=
    mqttClientConnect_ready storage.txStorage storage.txLength
  rw [runOps_cons]
  exact runOps_ready ready ops

/-! ## The receive ring -/

/-- The receive ring between operations: in good order and at its capacity. -/
structure RxReady (conn : UmqttConnection) : Prop where
  valid : conn.rxbuff.Valid
  capacity : conn.rxbuff.length = rxBuffSize

theorem mqttClientConnect_rxReady {conn : UmqttConnection} (storage : HasStorage conn) :
    RxReady (mqttClientConnect conn).1 ∧ (mqttClientConnect conn).1.rxbuff.datalen = 0 := by
  have positive : 0 < conn.rxbuff.length := by
    rw [storage.rxLength]
    decide
  exact ⟨⟨umqttCircInit_valid positive storage.rxStorage, storage.rxLength⟩, rfl⟩

theorem RxReady.of_rxbuff {conn other : UmqttConnection} (ready : RxReady conn)
    (same : other.rxbuff = conn.rxbuff) : RxReady other where
  valid := by rw [same]; exact ready.valid
  capacity := by rw [same]; exact ready.capacity

theorem ClientOp.run_rxReady {conn : UmqttConnection} (ready : RxReady conn) (op : ClientOp) :
    RxReady (op.run conn).1 := by
  cases op with
  | connect =>
      exact ⟨umqttCircInit_valid ready.valid.positive ready.valid.storage, ready.capacity⟩
  | publish topic data =>
      obtain ⟨parts, pushed⟩ := umqttPublish_parts conn topic data data.length
      rw [ClientOp.run, pushed]
      exact ready.of_rxbuff rfl
  | subscribe topic =>
      obtain ⟨parts, pushed⟩ := umqttSubscribe_parts conn topic
      rw [ClientOp.run, pushed]
      exact ready.of_rxbuff rfl
  | ping =>
      rw [ClientOp.run, umqttPing_eq]
      exact ready.of_rxbuff rfl
  | receive scratch data len =>
      have spec := umqttProcess_spec scratch
        ({ conn with rxbuff := (umqttCircPush conn.rxbuff (data.take len.toNat)).1 })
        (umqttCircPush_valid ready.valid _)
      exact ⟨spec.valid,
        (spec.length.trans (umqttCircPush_length ready.valid _)).trans ready.capacity⟩

theorem runOps_connect_rxReady {initial : UmqttConnection} (storage : HasStorage initial)
    (ops : List ClientOp) : RxReady (runOps initial (ClientOp.connect :: ops)) := by
  rw [runOps_cons]
  exact List.foldlRecOn ops _ (motive := RxReady) (mqttClientConnect_rxReady storage).1
    fun _ kept op _ => op.run_rxReady kept

end MicrochipDay.MqttClient
