import MicrochipDay.MqttClient.Ready

/-!
Owns the packets a client sends over a run of operations that starts with
`MQTT_CLIENT_connect`: every operation that builds a packet that fits the ring
hands `send()` one decodable MQTT packet.
-/

namespace MicrochipDay.MqttClient

open MicrochipDay.Umqtt
open MicrochipDay.Library.Mqtt

/-! ## What an operation should send -/

/-- Length on the wire of a packet with a body of `length` bytes. -/
def wireLength (length : Nat) : Nat := 1 + (encodeRemainingLength length).length + length

/-- Length on the wire of the packet an operation builds. -/
def ClientOp.packetLength (conn : UmqttConnection) : ClientOp → Nat
  | .connect => wireLength (12 + strlen conn.clientid)
  | .publish topic data => wireLength (2 + strlen topic + data.length)
  | .subscribe topic => wireLength (5 + strlen topic)
  | .ping => wireLength 0
  | .receive .. => 0

/-- The packet an operation builds, as the standard reads it. -/
def ClientOp.packet (conn : UmqttConnection) : ClientOp → Option ControlPacket
  | .connect =>
      some (.connect
        { protocolName := protocolName, protocolLevel := 4, cleanSession := true
          keepAlive := conn.kalive.toNat, clientId := conn.clientid.bytes
          will := none, userName := none, password := none })
  | .publish topic data =>
      some (.publish
        { duplicate := false, qos := 0, retain := false
          topic := topic.bytes, packetId := none, payload := data })
  | .subscribe topic =>
      some (.subscribe
        { packetId := (conn.messageId % 65536).toNat, filters := [(topic.bytes, 0)] })
  | .ping => some .pingreq
  | .receive .. => none

/-! ## What an operation sends -/

private theorem frame_small {body : List UInt8} {length : Nat} (same : body.length = length)
    (fits : wireLength length ≤ txBuffSize) :
    body.length < 128 ^ 4 ∧ ∀ header, (frame header body).length ≤ txBuffSize := by
  subst same
  have bounded : body.length ≤ 250 := by
    simp only [wireLength, txBuffSize] at fits
    omega
  refine ⟨by omega, fun header => ?_⟩
  rw [frame_length]
  exact fits

private theorem sendParts_decode {conn : UmqttConnection} (ready : TxReady conn)
    {parts : List (List UInt8)} (header : UInt8) (body : List UInt8) {length : Nat}
    (framed : parts.flatten = frame header body) (same : body.length = length)
    (fits : wireLength length ≤ txBuffSize) {packet : ControlPacket}
    (decoded : decodeBody (header.toNat / 16) (header.toNat % 16) body = some packet) :
    (sendParts conn parts).2.map decode = [some (packet, [])] := by
  obtain ⟨bounded, frameFits⟩ := frame_small same fits
  rw [sendParts_sends ready.idle, framed, ready.capacity,
    List.take_of_length_le (frameFits header), List.map_singleton, decode_frame bounded decoded]

private theorem wireLength_bound {length : Nat} (fits : wireLength length ≤ txBuffSize) :
    length < 250 := by
  simp only [wireLength, txBuffSize] at fits
  omega

private theorem mqttClientConnect_sends {conn : UmqttConnection}
    (storage : conn.txbuff.start.length = conn.txbuff.length)
    (capacity : conn.txbuff.length = txBuffSize)
    (fits : ClientOp.connect.packetLength conn ≤ txBuffSize) :
    (mqttClientConnect conn).2.map decode =
      (ClientOp.connect.packet conn).toList.map fun packet => some (packet, []) := by
  have bound : 12 + strlen conn.clientid < 250 := wireLength_bound fits
  have ready := resetForConnect_ready storage capacity
  rw [mqttClientConnect, umqttConnect_eq (by change 12 + strlen conn.clientid < 32768; omega)]
  refine sendParts_decode ready 0x10 (connectBody conn.kalive.toNat conn.clientid.bytes) ?_
    (connectBody_length _ _) fits ?_
  · rw [frame, connectBody_length]
    simp [connectBody, strlen, protocolName]
  · exact decodeBody_connect (decodeConnect_cleanSession (by decide) 4 conn.kalive.toNat_lt
      (by change strlen conn.clientid < 65536; omega))

/-- From a ready connection an operation whose packet fits sends that packet
and nothing else. -/
theorem ClientOp.run_sends {conn : UmqttConnection} (ready : TxReady conn) (op : ClientOp)
    (fits : op.packetLength conn ≤ txBuffSize) :
    (op.run conn).2.map decode = (op.packet conn).toList.map fun packet => some (packet, []) := by
  cases op with
  | connect => exact mqttClientConnect_sends ready.idle.valid.storage ready.capacity fits
  | publish topic data =>
      have bound : 2 + strlen topic + data.length < 250 := wireLength_bound fits
      rw [ClientOp.run, umqttPublish_eq data (by omega)]
      refine sendParts_decode ready 0x30 (publishBody topic.bytes data) ?_
        (publishBody_length _ _) fits ?_
      · rw [frame, publishBody_length]
        simp [publishBody, strlen]
      · exact decodeBody_publish (decodePublish_qosZero
          (by change strlen topic < 65536; omega) data)
  | subscribe topic =>
      have bound : 5 + strlen topic < 250 := wireLength_bound fits
      rw [ClientOp.run, umqttSubscribe_eq (by omega)]
      refine sendParts_decode (ready.of_txbuff rfl) 0x82
        (subscribeBody (conn.messageId % 65536).toNat topic.bytes) ?_
        (subscribeBody_length _ _) fits ?_
      · rw [frame, subscribeBody_length]
        simp [subscribeBody, strlen]
      · exact decodeBody_subscribe (decodeSubscribe_single (by omega)
          (by change strlen topic < 65536; omega) (by decide))
  | ping =>
      rw [ClientOp.run, umqttPing_eq]
      exact sendParts_decode (ready.of_txbuff rfl) 0xC0 [] (List.append_nil _) rfl fits rfl
  | receive scratch data len => rfl

/-! ## Runs -/

/-- The connection before each operation of a run, with the operation. -/
def runSteps (conn : UmqttConnection) : List ClientOp → List (UmqttConnection × ClientOp)
  | [] => []
  | op :: ops => (conn, op) :: runSteps (op.run conn).1 ops

/-- An operation of a run sends exactly its packet when that fits, and leaves
the transmit ring empty with its read position at the start. -/
def StepEncodes (step : UmqttConnection × ClientOp) : Prop :=
  (step.2.packetLength step.1 ≤ txBuffSize →
    (step.2.run step.1).2.map decode =
      (step.2.packet step.1).toList.map fun packet => some (packet, [])) ∧
  (step.2.run step.1).1.txbuff.Fresh

private theorem runSteps_encode {conn : UmqttConnection} (ready : TxReady conn)
    (ops : List ClientOp) : ∀ step ∈ runSteps conn ops, StepEncodes step := by
  induction ops generalizing conn with
  | nil => simp [runSteps]
  | cons op ops inductionHypothesis =>
      have next := op.run_ready ready
      have first : StepEncodes (conn, op) := ⟨op.run_sends ready, next.idle.fresh⟩
      have later := inductionHypothesis next
      simpa [runSteps, first] using later

/-- **Outgoing packets decode.** In every run that starts with
`MQTT_CLIENT_connect`, every operation whose packet fits the transmit ring makes
one send, and the reference decoder reads the operation's arguments off all of
its bytes; after every operation the transmit ring is empty and read from its
start. -/
theorem outgoing_packets_decode {initial : UmqttConnection} (storage : HasStorage initial)
    (ops : List ClientOp) :
    ∀ step ∈ runSteps initial (ClientOp.connect :: ops), StepEncodes step := by
  have ready := mqttClientConnect_ready storage.txStorage storage.txLength
  have connects : StepEncodes (initial, ClientOp.connect) :=
    ⟨mqttClientConnect_sends storage.txStorage storage.txLength, ready.idle.fresh⟩
  have later := runSteps_encode ready ops
  intro step member
  rcases List.mem_cons.mp member with first | rest
  · rw [first]
    exact connects
  · exact later step rest

/-- The publish after a connect, decoded. -/
theorem outgoing_packets_decode_publish :
    ((ClientOp.publish ⟨[116], by decide⟩ [104, 105]).run
        (ClientOp.connect.run (umqttConn ⟨[99, 49], by decide⟩)).1).2.map decode =
      [some (.publish
        { duplicate := false, qos := 0, retain := false
          topic := [116], packetId := none, payload := [104, 105] }, [])] := by
  have encodes := outgoing_packets_decode (umqttConn_hasStorage ⟨[99, 49], by decide⟩)
    [.publish ⟨[116], by decide⟩ [104, 105]] _ (List.mem_cons_of_mem _ List.mem_cons_self)
  exact encodes.1 (by decide)

end MicrochipDay.MqttClient
