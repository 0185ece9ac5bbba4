import MicrochipDay.Umqtt.Connection
import MicrochipDay.Library.Mqtt.Packet

/-!
Owns the specification of the transmit path: from an idle transmit ring every
operation hands `send()` the MQTT frame of its packet, cut at the capacity of
the ring, and leaves the ring idle.

The cut is stated and not excluded: whoever needs whole packets adds that the
frame fits.
-/

namespace MicrochipDay.Umqtt

open MicrochipDay.Library.Mqtt

/-! ## Bytes of the fields -/

private theorem swapped_toNat (value : UInt16) :
    (htons value).toNat = value.toNat % 256 * 256 + value.toNat / 256 := by
  have range := value.toNat_lt
  have high : value.toNat / 256 < 2 ^ 8 := by omega
  have mask : value.toNat &&& 255 = value.toNat % 256 :=
    Nat.and_two_pow_sub_one_eq_mod value.toNat 8
  have kept : value.toNat % 256 * 256 % 65536 = value.toNat % 256 * 256 := by omega
  have join := Nat.shiftLeft_add_eq_or_of_lt high (value.toNat % 256)
  rw [Nat.shiftLeft_eq] at join
  simp only [htons, UInt16.toNat_or, UInt16.toNat_shiftLeft, UInt16.toNat_shiftRight,
    UInt16.toNat_and, Nat.shiftLeft_eq, Nat.shiftRight_eq_div_pow]
  simp only [UInt16.reduceToNat, Nat.reduceMod, Nat.reducePow, mask, kept]
  simp only [Nat.reducePow] at join
  exact join.symm

theorem memoryBytes_htons (value : UInt16) : memoryBytes (htons value) = wordBytes value.toNat := by
  have range := value.toNat_lt
  have small : value.toNat / 256 < 256 := by omega
  have swapped := swapped_toNat value
  have quotient : (value.toNat % 256 * 256 + value.toNat / 256) / 256 = value.toNat % 256 := by
    rw [Nat.mul_comm, Nat.mul_add_div (by decide), Nat.div_eq_of_lt small, Nat.add_zero]
  have low : (htons value).toUInt8 = UInt8.ofNat (value.toNat / 256) := by
    rw [← UInt8.toNat_inj, UInt16.toNat_toUInt8, swapped, UInt8.toNat_ofNat']
    exact Nat.mul_add_mod_self_right _ _ _
  have high : (htons value >>> 8).toUInt8 = UInt8.ofNat value.toNat := by
    rw [← UInt8.toNat_inj, UInt16.toNat_toUInt8, UInt16.toNat_shiftRight, swapped,
      Nat.shiftRight_eq_div_pow, UInt8.toNat_ofNat']
    simp only [UInt16.reduceToNat, Nat.reduceMod, Nat.reducePow, quotient, Nat.mod_mod]
  rw [memoryBytes, wordBytes, low, high]

theorem kalive_bytes (value : UInt16) :
    [(value >>> 8).toUInt8, (value &&& 0xff).toUInt8] = wordBytes value.toNat := by
  have mask : value.toNat &&& 255 = value.toNat % 256 :=
    Nat.and_two_pow_sub_one_eq_mod value.toNat 8
  have high : (value >>> 8).toUInt8 = UInt8.ofNat (value.toNat / 256) := by
    rw [← UInt8.toNat_inj, UInt16.toNat_toUInt8, UInt16.toNat_shiftRight,
      Nat.shiftRight_eq_div_pow, UInt8.toNat_ofNat']
    rfl
  have low : (value &&& 0xff).toUInt8 = UInt8.ofNat value.toNat := by
    rw [← UInt8.toNat_inj, UInt16.toNat_toUInt8, UInt16.toNat_and, UInt8.toNat_ofNat']
    simp only [UInt16.reduceToNat, mask, Nat.reducePow]
    omega
  rw [wordBytes, high, low]

theorem int_bytes (value : Int) :
    [UInt8.ofInt (value / 256), UInt8.ofInt value] = wordBytes (value % 65536).toNat := by
  have high : UInt8.ofInt (value / 256) = UInt8.ofNat ((value % 65536).toNat / 256) := by
    rw [UInt8.ofInt, ← UInt8.toNat_inj, UInt8.toNat_ofNat', UInt8.toNat_ofNat']
    omega
  have low : UInt8.ofInt value = UInt8.ofNat (value % 65536).toNat := by
    rw [UInt8.ofInt, ← UInt8.toNat_inj, UInt8.toNat_ofNat', UInt8.toNat_ofNat']
    omega
  rw [wordBytes, high, low]

private theorem ofInt_natCast (value : Nat) : UInt8.ofInt (value : Int) = UInt8.ofNat value := by
  rw [UInt8.ofInt, ← UInt8.toNat_inj, UInt8.toNat_ofNat', UInt8.toNat_ofNat']
  omega

private theorem ofNat_or_128 {digit : Nat} (small : digit < 128) :
    UInt8.ofNat digit ||| 0x80 = UInt8.ofNat (digit + 128) := by
  have join := Nat.two_pow_add_eq_or_of_lt (i := 7) small 1
  rw [← UInt8.toNat_inj, UInt8.toNat_or, UInt8.toNat_ofNat', UInt8.toNat_ofNat',
    Nat.mod_eq_of_lt (by omega), Nat.mod_eq_of_lt (by omega), Nat.or_comm]
  simp only [Nat.reducePow, Nat.mul_one] at join
  rw [Nat.add_comm]
  exact join.symm

private theorem umqttEncodeLengthLoop_eq {extra fuel value : Nat}
    (bounded : value < 128 ^ (extra + 1)) (enough : value < fuel) :
    umqttEncodeLengthLoop fuel value = encodeDigits extra value := by
  induction extra generalizing fuel value with
  | zero =>
      obtain ⟨fuel, rfl⟩ : ∃ rest, fuel = rest + 1 := ⟨fuel - 1, by omega⟩
      have small : value < 128 := by simpa using bounded
      have quotient : Int.tdiv value 128 = 0 := Int.tdiv_eq_zero_of_lt (by omega) (by omega)
      have digit : Int.tmod value 128 = value := Int.tmod_eq_of_lt (by omega) (by omega)
      rw [umqttEncodeLengthLoop, encodeDigits, quotient, digit, ofInt_natCast]
      rfl
  | succ extra inductionHypothesis =>
      obtain ⟨fuel, rfl⟩ : ∃ rest, fuel = rest + 1 := ⟨fuel - 1, by omega⟩
      have quotient : Int.tdiv value 128 = (value / 128 : Nat) := rfl
      have digit : Int.tmod value 128 = (value % 128 : Nat) := rfl
      rw [umqttEncodeLengthLoop, encodeDigits, quotient, digit, ofInt_natCast]
      by_cases small : value < 128
      · have none : value / 128 = 0 := by omega
        have all : value % 128 = value := by omega
        rw [if_pos small, none, all]
        rfl
      · have some : 0 < value / 128 := by omega
        have below : value / 128 < 128 ^ (extra + 1) := by
          rw [Nat.div_lt_iff_lt_mul (by decide)]
          rw [Nat.pow_succ] at bounded
          exact bounded
        have continues := ofNat_or_128 (Nat.mod_lt value (by decide : 128 > 0))
        have rest := inductionHypothesis below (by omega : value / 128 < fuel)
        simp only [if_neg small, continues, rest, Int.natCast_pos, gt_iff_lt, some, if_true, ne_eq,
          Int.natCast_eq_zero, Nat.pos_iff_ne_zero.mp some, not_false_eq_true]

theorem umqttEncodeLength_eq {value : Nat} (bounded : value < 128 ^ 4) :
    umqttEncodeLength value = encodeRemainingLength value := by
  rw [umqttEncodeLength, encodeRemainingLength]
  exact umqttEncodeLengthLoop_eq bounded (by simp)

/-! ## Pushing the parts of a packet -/

theorem pushAll_spec {buff : UmqttCircBuffer} (valid : buff.Valid) (parts : List (List UInt8)) :
    (pushAll buff parts).Valid ∧
    (pushAll buff parts).length = buff.length ∧
    (pushAll buff parts).pointer = buff.pointer ∧
    (pushAll buff parts).contents =
      buff.contents ++ parts.flatten.take (buff.length - buff.datalen) := by
  induction parts generalizing buff with
  | nil => simp [pushAll, valid]
  | cons part parts inductionHypothesis =>
      obtain ⟨nextValid, nextLength, nextPointer, nextContents, _⟩ := umqttCircPush_spec valid part
      obtain ⟨stillValid, sameLength, samePointer, contents⟩ := inductionHypothesis nextValid
      have filled : (umqttCircPush buff part).1.datalen =
          buff.datalen + min (buff.length - buff.datalen) part.length := by
        rw [← UmqttCircBuffer.contents_length, nextContents]
        simp
      refine ⟨stillValid, sameLength.trans nextLength, samePointer.trans nextPointer, ?_⟩
      show (pushAll (umqttCircPush buff part).1 parts).contents = _
      rw [contents, nextContents, nextLength, filled, List.flatten_cons, List.take_append,
        List.append_assoc]
      congr 3
      omega

/-! ## Idle connections -/

/-- The transmit ring is empty and is read from the start of its storage. -/
structure TxIdle (conn : UmqttConnection) : Prop where
  valid : conn.txbuff.Valid
  fresh : conn.txbuff.Fresh

/-- What an operation that builds the packet `parts` does. -/
def sendParts (conn : UmqttConnection) (parts : List (List UInt8)) :
    UmqttConnection × List (List UInt8) :=
  umqttSendPacket { conn with txbuff := pushAll conn.txbuff parts }

section SendParts

variable {conn : UmqttConnection} (idle : TxIdle conn) (parts : List (List UInt8))
include idle

theorem sendParts_sends :
    (sendParts conn parts).2 = [parts.flatten.take conn.txbuff.length] := by
  obtain ⟨stillValid, _, samePointer, contents⟩ := pushAll_spec idle.valid parts
  rcases idle.fresh with ⟨atStart, empty⟩
  rw [UmqttCircBuffer.contents_eq_nil empty, empty, Nat.sub_zero, List.nil_append] at contents
  rw [sendParts, umqttSendPacket, ← contents,
    UmqttCircBuffer.contents_of_pointer_zero stillValid (samePointer.trans atStart)]

theorem sendParts_idle : TxIdle (sendParts conn parts).1 where
  valid :=
    have spec := pushAll_spec idle.valid parts
    umqttCircInit_valid spec.1.positive spec.1.storage
  fresh := umqttCircInit_fresh _

theorem sendParts_length : (sendParts conn parts).1.txbuff.length = conn.txbuff.length :=
  (pushAll_spec idle.valid parts).2.1

end SendParts

/-! ## Packet bodies -/

def protocolName : List UInt8 := [77, 81, 84, 84]

def connectBody (keepAlive : Nat) (clientId : List UInt8) : List UInt8 :=
  wordBytes protocolName.length ++ (protocolName ++
    (4 :: 2 :: (wordBytes keepAlive ++ (wordBytes clientId.length ++ clientId))))

def subscribeBody (packetId : Nat) (topic : List UInt8) : List UInt8 :=
  wordBytes packetId ++ (wordBytes topic.length ++ (topic ++ [0]))

def publishBody (topic payload : List UInt8) : List UInt8 :=
  wordBytes topic.length ++ (topic ++ payload)

@[simp] theorem connectBody_length (keepAlive : Nat) (clientId : List UInt8) :
    (connectBody keepAlive clientId).length = 12 + clientId.length := by
  simp only [connectBody, protocolName, List.length_append, List.length_cons, List.length_nil,
    wordBytes_length]
  omega

@[simp] theorem subscribeBody_length (packetId : Nat) (topic : List UInt8) :
    (subscribeBody packetId topic).length = 5 + topic.length := by
  simp only [subscribeBody, List.length_append, List.length_cons, List.length_nil,
    wordBytes_length]
  omega

@[simp] theorem publishBody_length (topic payload : List UInt8) :
    (publishBody topic payload).length = 2 + topic.length + payload.length := by
  simp only [publishBody, List.length_append, wordBytes_length]
  omega

/-! ## Specifications of the operations -/

private theorem umqttEncodeLength_of_int {value : Nat} (bounded : value < 32768) {len : Int}
    (same : len = value) : umqttEncodeLength (cInt 16 len) = encodeRemainingLength value := by
  rw [cInt_of_range (by omega) (by omega), same]
  exact umqttEncodeLength_eq (by omega)

private theorem ofNat_toNat_of_small {value : Nat} (bounded : value < 32768) :
    (UInt16.ofNat value).toNat = value := by
  rw [UInt16.toNat_ofNat']
  omega

/-- The fields that `umqtt_connect` resets before it builds its packet. -/
def resetForConnect (conn : UmqttConnection) : UmqttConnection :=
  { conn with
    rxbuff := umqttCircInit conn.rxbuff
    txbuff := umqttCircInit conn.txbuff
    state := .connecting
    nackPing := 0
    nackPublish := 0
    nackSubscribe := 0
    messageId := 1 }

/-- Whatever the sizes, an operation pushes its fixed header and some more
parts, and sends. -/
theorem umqttConnect_parts (conn : UmqttConnection) :
    ∃ parts, umqttConnect conn =
      sendParts (resetForConnect conn) ([umqttBuildHeader umqttConnectType 0 0 0] :: parts) :=
  ⟨_, rfl⟩

theorem umqttSubscribe_parts (conn : UmqttConnection) (topic : CString) :
    ∃ parts, umqttSubscribe conn topic =
      sendParts
        { conn with
          messageId := cInt 16 (conn.messageId + 1)
          nackSubscribe := cInt 16 (conn.nackSubscribe + 1) }
        ([umqttBuildHeader umqttSubscribeType 0 1 0] :: parts) :=
  ⟨_, rfl⟩

theorem umqttPublish_parts (conn : UmqttConnection) (topic : CString) (data : List UInt8)
    (datalen : Int) :
    ∃ parts, umqttPublish conn topic data datalen =
      sendParts conn ([umqttBuildHeader umqttPublishType 0 0 0] :: parts) :=
  ⟨_, rfl⟩

theorem umqttConnect_eq {conn : UmqttConnection} (small : 12 + strlen conn.clientid < 32768) :
    umqttConnect conn =
      sendParts (resetForConnect conn)
        [[0x10], encodeRemainingLength (12 + strlen conn.clientid),
          wordBytes 4 ++ (protocolName ++ (4 :: 2 :: wordBytes conn.kalive.toNat)),
          wordBytes (strlen conn.clientid), conn.clientid.bytes] := by
  have cidlen : cInt 16 (strlen conn.clientid) = strlen conn.clientid :=
    cInt_of_range (by omega) (by omega)
  have remaining : umqttEncodeLength (cInt 16 (10 + 2 + (strlen conn.clientid : Int))) =
      encodeRemainingLength (12 + strlen conn.clientid) :=
    umqttEncodeLength_of_int small (by omega)
  have paylen : memoryBytes (htons (UInt16.ofInt (strlen conn.clientid : Int))) =
      wordBytes (strlen conn.clientid) := by
    have value :
      UInt16.ofInt (strlen conn.clientid : Int) = UInt16.ofNat (strlen conn.clientid) := by
      rw [UInt16.ofInt, ← UInt16.toNat_inj, UInt16.toNat_ofNat', UInt16.toNat_ofNat']
      omega
    rw [memoryBytes_htons, value, ofNat_toNat_of_small (by omega)]
  have whole : conn.clientid.bytes.take (strlen conn.clientid : Int).toNat = conn.clientid.bytes :=
    List.take_of_length_le (Nat.le_refl _)
  rw [← kalive_bytes, ← paylen, ← remaining]
  simp only [umqttConnect, cidlen, whole]
  rfl

theorem umqttSubscribe_eq {conn : UmqttConnection} {topic : CString}
    (small : 5 + strlen topic < 32768) :
    umqttSubscribe conn topic =
      sendParts
        { conn with
          messageId := cInt 16 (conn.messageId + 1)
          nackSubscribe := cInt 16 (conn.nackSubscribe + 1) }
        [[0x82], encodeRemainingLength (5 + strlen topic),
          wordBytes (conn.messageId % 65536).toNat, wordBytes (strlen topic), topic.bytes,
          [0]] := by
  have topiclen : (UInt16.ofNat (strlen topic)).toNat = strlen topic :=
    ofNat_toNat_of_small (by omega)
  have remaining : umqttEncodeLength (cInt 16 (2 + 2 + (strlen topic : Int) + 1)) =
      encodeRemainingLength (5 + strlen topic) :=
    umqttEncodeLength_of_int small (by omega)
  have paylen : memoryBytes (htons (UInt16.ofNat (strlen topic))) = wordBytes (strlen topic) := by
    rw [memoryBytes_htons, topiclen]
  have whole : topic.bytes.take (cInt 16 (strlen topic : Int)).toNat = topic.bytes := by
    rw [cInt_of_range (by omega) (by omega)]
    exact List.take_of_length_le (Nat.le_refl _)
  rw [← int_bytes, ← paylen, ← remaining]
  simp only [umqttSubscribe, umqttInsertMessageid, topiclen, whole]
  rfl

theorem umqttPublish_eq {conn : UmqttConnection} {topic : CString} (data : List UInt8)
    {datalen : Nat} (small : 2 + strlen topic + datalen < 32768) :
    umqttPublish conn topic data datalen =
      sendParts conn
        [[0x30], encodeRemainingLength (2 + strlen topic + datalen), wordBytes (strlen topic),
          topic.bytes, data.take datalen] := by
  have toplen : cInt 16 (strlen topic) = strlen topic := cInt_of_range (by omega) (by omega)
  have remaining : umqttEncodeLength (cInt 16 (2 + (strlen topic : Int) + datalen)) =
      encodeRemainingLength (2 + strlen topic + datalen) :=
    umqttEncodeLength_of_int small (by omega)
  have len : [UInt8.ofInt ((strlen topic : Int) / 256), UInt8.ofInt (strlen topic : Int)] =
      wordBytes (strlen topic) := by
    have value : ((strlen topic : Int) % 65536).toNat = strlen topic := by omega
    rw [int_bytes, value]
  have whole : topic.bytes.take (strlen topic) = topic.bytes := List.take_length
  simp only [umqttPublish, toplen, remaining, len, Int.toNat_natCast, whole]
  rfl

theorem umqttPing_eq (conn : UmqttConnection) :
    umqttPing conn =
      sendParts { conn with nackPing := cInt 16 (conn.nackPing + 1) } [frame 0xC0 []] := rfl

end MicrochipDay.Umqtt
