import MicrochipDay.MqttClient.Outgoing

/-!
Owns `CLOUD_publish` (cloud.c) and the exact sizes for which it publishes all
of a message: the length parameter of `MQTT_CLIENT_publish` has eight bits and
the transmit ring 250 cells, and neither limit is checked.
-/

namespace MicrochipDay.Cloud

open MicrochipDay.Umqtt
open MicrochipDay.MqttClient
open MicrochipDay.Library.Mqtt

def topicSize : Nat := 100

def cloudPublish (mqttTopic : CString) (conn : UmqttConnection) (msg : CString) :
    UmqttConnection × List (List UInt8) :=
  mqttClientPublish mqttTopic conn msg.bytes (UInt8.ofNat (strlen msg))

/-- Nothing was sent, or one complete PUBLISH packet with this topic and the
whole message. -/
def AllOrNothing (topic msg : CString) (sends : List (List UInt8)) : Prop :=
  sends = [] ∨
    ∃ bytes packet, sends = [bytes] ∧ decode bytes = some (.publish packet, []) ∧
      packet.topic = topic.bytes ∧ packet.payload = msg.bytes

section Sends

variable {conn : UmqttConnection} (ready : TxReady conn) {topic : CString}
  (topicFits : strlen topic < topicSize) (data : List UInt8) {datalen : Nat}
include ready topicFits

private theorem publish_sends (byte : datalen < 256) :
    (umqttPublish conn topic data datalen).2 =
      [(0x30 :: (encodeRemainingLength (2 + strlen topic + datalen) ++
        publishBody topic.bytes (data.take datalen))).take txBuffSize] := by
  have small : 2 + strlen topic + datalen < 32768 := by
    simp only [topicSize] at topicFits
    omega
  rw [umqttPublish_eq data small, sendParts_sends ready.idle, ready.capacity]
  simp [publishBody, strlen]

private theorem publish_decodes (fits : strlen topic + datalen ≤ 245)
    (covered : datalen ≤ data.length) :
    ∃ bytes, (umqttPublish conn topic data datalen).2 = [bytes] ∧
      decode bytes = some (.publish
        { duplicate := false, qos := 0, retain := false
          topic := topic.bytes, packetId := none, payload := data.take datalen }, []) := by
  have taken : (data.take datalen).length = datalen := List.length_take_of_le covered
  have bodyLength : (publishBody topic.bytes (data.take datalen)).length =
      2 + strlen topic + datalen := by
    rw [publishBody_length, taken, strlen]
  have whole : (frame 0x30 (publishBody topic.bytes (data.take datalen))).length ≤ txBuffSize := by
    rw [frame_length, bodyLength, txBuffSize]
    by_cases small : 2 + strlen topic + datalen < 128
    · rw [encodeRemainingLength_length_of_small small]
      omega
    · rw [encodeRemainingLength_length_of_medium (by omega) (by omega)]
      omega
  refine ⟨frame 0x30 (publishBody topic.bytes (data.take datalen)), ?_, ?_⟩
  · rw [publish_sends ready topicFits data (by omega), ← bodyLength]
    exact congrArg (fun bytes => [bytes]) (List.take_of_length_le whole)
  · exact decode_frame (by rw [bodyLength]; omega)
      (decodeBody_publish (decodePublish_qosZero
        (by simp only [topicSize] at topicFits; change strlen topic < 65536; omega) _))

private theorem publish_cut (long : 245 < strlen topic + datalen) (byte : datalen < 256)
    (covered : datalen ≤ data.length) :
    ∃ bytes, (umqttPublish conn topic data datalen).2 = [bytes] ∧ decode bytes = none := by
  have taken : (data.take datalen).length = datalen := List.length_take_of_le covered
  have bodyLength : (publishBody topic.bytes (data.take datalen)).length =
      2 + strlen topic + datalen := by
    rw [publishBody_length, taken, strlen]
  have bounded : 2 + strlen topic + datalen < 16384 := by
    simp only [topicSize] at topicFits
    omega
  have lengthBytes := encodeRemainingLength_length_of_medium
    (by omega : 128 ≤ 2 + strlen topic + datalen) bounded
  refine ⟨_, publish_sends ready topicFits data byte, ?_⟩
  rw [txBuffSize, List.take_succ_cons, List.take_append, lengthBytes,
    List.take_of_length_le (by rw [lengthBytes]; decide)]
  apply decode_cut_frame (by omega)
  rw [List.length_take, bodyLength]
  omega

private theorem allOrNothing_iff (msg : CString) :
    AllOrNothing topic msg (cloudPublish topic conn msg).2 ↔ strlen topic + strlen msg ≤ 245 := by
  have datalen : (UInt8.ofNat (strlen msg)).toNat = strlen msg % 256 := UInt8.toNat_ofNat'
  have byte : strlen msg % 256 < 256 := Nat.mod_lt _ (by decide)
  have covered : strlen msg % 256 ≤ msg.bytes.length := Nat.mod_le _ _
  rw [cloudPublish, mqttClientPublish, datalen]
  constructor
  · rintro (nothing | ⟨bytes, packet, sends, decoded, _, payload⟩)
    · rw [publish_sends ready topicFits _ byte] at nothing
      exact absurd nothing (List.cons_ne_nil _ _)
    · by_cases fits : strlen topic + strlen msg % 256 ≤ 245
      · obtain ⟨whole, sendsWhole, decodedWhole⟩ :=
          publish_decodes ready topicFits msg.bytes fits covered
        obtain rfl : bytes = whole := by
          simpa using sends.symm.trans sendsWhole
        rw [decoded] at decodedWhole
        simp only [Option.some.injEq, Prod.mk.injEq, ControlPacket.publish.injEq, and_true]
          at decodedWhole
        -- the payload is the message only if the length parameter kept its length
        have same : msg.bytes = msg.bytes.take (strlen msg % 256) :=
          payload.symm.trans (congrArg Publish.payload decodedWhole)
        have kept : strlen msg = strlen msg % 256 := by
          have lengths := congrArg List.length same
          rwa [List.length_take_of_le covered] at lengths
        omega
      · obtain ⟨cut, sendsCut, undecoded⟩ :=
          publish_cut ready topicFits msg.bytes (by omega) byte covered
        obtain rfl : bytes = cut := by
          simpa using sends.symm.trans sendsCut
        rw [decoded] at undecoded
        exact absurd undecoded (by simp)
  · intro fits
    have kept : strlen msg % 256 = strlen msg := Nat.mod_eq_of_lt (by omega)
    rw [kept]
    obtain ⟨bytes, sends, decoded⟩ :=
      publish_decodes ready topicFits msg.bytes fits (Nat.le_refl _)
    exact Or.inr ⟨bytes, _, sends, decoded, rfl, List.take_length⟩

end Sends

/-- **When publishing is all or nothing.** After `MQTT_CLIENT_connect` and any
further operations, `CLOUD_publish` sends one complete PUBLISH packet with the
whole message exactly when topic and message together have at most 245 bytes. -/
theorem cloudPublish_allOrNothing_iff {initial : UmqttConnection} (storage : HasStorage initial)
    (ops : List ClientOp) {topic : CString} (topicFits : strlen topic < topicSize)
    (msg : CString) :
    AllOrNothing topic msg
        (cloudPublish topic (runOps initial (ClientOp.connect :: ops)) msg).2 ↔
      strlen topic + strlen msg ≤ 245 :=
  allOrNothing_iff (runOps_connect_ready storage ops) topicFits msg

def repeated (count : Nat) (byte : UInt8) (notNul : byte ≠ 0) : CString where
  bytes := List.replicate count byte
  noNul := fun member => notNul (List.eq_of_mem_replicate member).symm

@[simp] theorem strlen_repeated (count : Nat) {byte : UInt8} (notNul : byte ≠ 0) :
    strlen (repeated count byte notNul) = count :=
  List.length_replicate

/-- A short message on a topic of 66 bytes, the length of this program's topics. -/
theorem cloudPublish_allOrNothing_iff_short :
    strlen (repeated 66 116 (by decide)) < topicSize ∧
    (AllOrNothing (repeated 66 116 (by decide)) (repeated 40 97 (by decide))
        (cloudPublish (repeated 66 116 (by decide))
          (runOps (umqttConn (repeated 40 99 (by decide))) [.connect])
          (repeated 40 97 (by decide))).2 ↔
      strlen (repeated 66 116 (by decide)) + strlen (repeated 40 97 (by decide)) ≤ 245) :=
  have topicFits : strlen (repeated 66 116 (by decide)) < topicSize := by
    rw [strlen_repeated]
    decide
  ⟨topicFits, cloudPublish_allOrNothing_iff (umqttConn_hasStorage _) [] topicFits _⟩

/-- A message of 180 bytes on that topic is sent cut. -/
theorem cloudPublish_cuts_long_message :
    ¬ AllOrNothing (repeated 66 116 (by decide)) (repeated 180 97 (by decide))
      (cloudPublish (repeated 66 116 (by decide))
        (runOps (umqttConn (repeated 40 99 (by decide))) [.connect])
        (repeated 180 97 (by decide))).2 := by
  have topicFits : strlen (repeated 66 116 (by decide)) < topicSize := by
    rw [strlen_repeated]
    decide
  rw [allOrNothing_iff (runOps_connect_ready (umqttConn_hasStorage _) []) topicFits]
  simp

end MicrochipDay.Cloud
