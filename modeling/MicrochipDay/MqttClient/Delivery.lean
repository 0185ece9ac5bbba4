import MicrochipDay.MqttClient.Segmentation

/-!
Owns what a received message is handed to the application as. Topic and data
arrive with a terminator behind them, and the length counts the terminator of
the data: `umqtt_handle_publish` passes the size of the array that it made one
byte longer.
-/

namespace MicrochipDay.MqttClient

open MicrochipDay.Umqtt
open MicrochipDay.Library.Mqtt

/-- One callback, with the terminated topic, the data at the front of its array
and the length of the data. -/
def DeliversUnchanged (callbacks : List Callback) (topic payload : List UInt8) : Prop :=
  ∃ message, callbacks = [.message message] ∧ message.topic = topic ++ [0] ∧
    payload <+: message.payload ∧ message.len = payload.length

/-- The callbacks of one call of `MQTT_CLIENT_receive` on a chunk. -/
def callbacksOf (scratch : Scratch) (conn : UmqttConnection) (chunk : List UInt8) :
    List Callback :=
  (mqttClientReceive scratch conn chunk (UInt8.ofNat chunk.length)).arrivals.filterMap
    Arrival.callback

/-- A packet that is received whole behind an empty ring makes the callback of
that packet and no other. -/
theorem callbacksOf_packet {conn : UmqttConnection} (ready : RxReady conn)
    (empty : conn.rxbuff.datalen = 0) (scratch : Scratch) {packet : ServerPacket}
    (fits : packet.encode.length ≤ rxBuffSize) :
    callbacksOf scratch conn packet.encode = (arrivalOfPacket packet).callback.toList := by
  have contents : conn.rxbuff.contents = [] := by
    rw [← List.length_eq_zero_iff, UmqttCircBuffer.contents_length]
    exact empty
  have inRing : conn.rxbuff.contents.length + packet.encode.length ≤ rxBuffSize := by
    rw [contents, List.length_nil, Nat.zero_add]
    exact fits
  have small : ∀ other ∈ [packet], other.encode.length ≤ 250 := by
    intro other inside
    obtain rfl := List.mem_singleton.mp inside
    exact fits
  have cut : conn.rxbuff.contents ++ packet.encode = ServerPacket.encodeAll [packet] ++ [] := by
    rw [contents, ServerPacket.encodeAll_cons, ServerPacket.encodeAll_nil, List.nil_append,
      List.append_nil, List.append_nil]
  obtain ⟨-, arrivals, -⟩ :=
    mqttClientReceive_whole scratch inRing ready small cut (Nat.zero_le _)
  unfold callbacksOf
  rw [arrivals]
  cases (arrivalOfPacket packet).callback.eq_none_or_eq_some with
  | inl none => simp [none]
  | inr some =>
      obtain ⟨callback, same⟩ := some
      simp [same]

/-- Every message that fits is handed over once, terminated, and with a length
that is one more than that of the data. -/
theorem receive_publish_lengthOneMore {initial : UmqttConnection} (storage : HasStorage initial)
    (ops : List ClientOp)
    (empty : (runOps initial (ClientOp.connect :: ops)).rxbuff.datalen = 0) (scratch : Scratch)
    (retain : Bool) (topic payload : List UInt8)
    (fits : (ServerPacket.publish retain topic payload).encode.length ≤ rxBuffSize) :
    let callbacks := callbacksOf scratch (runOps initial (ClientOp.connect :: ops))
      (ServerPacket.publish retain topic payload).encode
    callbacks = [.message
      { topic := topic ++ [0], payload := payload ++ [0], len := payload.length + 1 }] ∧
      ¬ DeliversUnchanged callbacks topic payload := by
  have called := callbacksOf_packet (runOps_connect_rxReady storage ops) empty scratch fits
  refine ⟨called, ?_⟩
  intro ⟨message, same, _, _, len⟩
  obtain rfl := Callback.message.inj (List.singleton_inj.mp (called.symm.trans same))
  exact absurd len (by simp)

theorem receive_publish_lengthOneMore_twoBytes :
    let callbacks := callbacksOf Scratch.zeros
      (runOps (umqttConn ⟨[99, 49], by decide⟩) [.connect])
      (ServerPacket.publish false [116] [79, 78]).encode
    callbacks = [.message
      { topic := [116] ++ [0], payload := [79, 78] ++ [0], len := 2 + 1 }] ∧
      ¬ DeliversUnchanged callbacks [116] [79, 78] :=
  receive_publish_lengthOneMore (umqttConn_hasStorage _) [] rfl Scratch.zeros false [116] [79, 78]
    (by decide)

/-- The empty message arrives with length 1. -/
theorem receive_publish_emptyMessage :
    ¬ DeliversUnchanged
      (callbacksOf Scratch.zeros (runOps (umqttConn ⟨[99, 49], by decide⟩) [.connect])
        (ServerPacket.publish false [] []).encode) [] [] := by
  have called : callbacksOf Scratch.zeros (runOps (umqttConn ⟨[99, 49], by decide⟩) [.connect])
      (ServerPacket.publish false [] []).encode =
        [.message { topic := [0], payload := [0], len := 1 }] := by
    decide +kernel
  intro ⟨message, same, _, _, len⟩
  obtain rfl := Callback.message.inj (List.singleton_inj.mp (called.symm.trans same))
  exact absurd len (by decide)

end MicrochipDay.MqttClient
