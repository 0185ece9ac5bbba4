import Mathlib.Algebra.Group.Nat.Defs
import MicrochipDay.Umqtt.CircBuffer

/-!
Owns `struct umqtt_connection` and the operations that build and send packets:
`umqtt_connect`, `umqtt_subscribe`, `umqtt_publish` and `umqtt_ping` (umqtt.c),
with `umqtt_send_packet` (mqtt_client.c), the `new_packet_callback` that every
connection of this program has.

An operation returns the connection and the byte strings it handed to
`send()`, one for each call. Does not own the receive path.
-/

namespace MicrochipDay.Umqtt

/-! ## C integers and strings -/

/-- A value stored in a C `int` of `bits` bits. -/
def cInt (bits : Nat) (value : Int) : Int := Int.bmod value (2 ^ bits)

theorem cInt_of_range {value : Int} (lower : -32768 ≤ value) (upper : value < 32768) :
    cInt 16 value = value := by
  rw [cInt, Int.bmod_def]
  split <;> omega

/-- A NUL-terminated string, without its terminator. -/
structure CString where
  bytes : List UInt8
  noNul : 0 ∉ bytes
deriving DecidableEq, Repr

def strlen (text : CString) : Nat := text.bytes.length

/-- `htons` on a little-endian machine. -/
def htons (value : UInt16) : UInt16 := ((value &&& 0xff) <<< 8) ||| (value >>> 8)

def memoryBytes (value : UInt16) : List UInt8 := [value.toUInt8, (value >>> 8).toUInt8]

/-! ## The connection -/

/-- `enum umqtt_client_state`. -/
inductive UmqttState where
  | init
  | connecting
  | connected
  | failed
deriving DecidableEq, Repr

/-- `struct umqtt_connection`, less its callbacks and the fields nothing reads. -/
structure UmqttConnection where
  txbuff : UmqttCircBuffer
  rxbuff : UmqttCircBuffer
  kalive : UInt16
  clientid : CString
  nackPublish : Int
  nackSubscribe : Int
  nackPing : Int
  messageId : Int
  state : UmqttState
deriving DecidableEq, Repr

/-- The packet types of `enum umqtt_packet_type` that the code builds or
recognises. -/
def umqttConnectType : UInt8 := 1
def umqttConnackType : UInt8 := 2
def umqttPublishType : UInt8 := 3
def umqttSubscribeType : UInt8 := 8
def umqttSubackType : UInt8 := 9
def umqttPingreqType : UInt8 := 12
def umqttPingrespType : UInt8 := 13

def umqttBuildHeader (type dup qos retain : UInt8) : UInt8 :=
  (type <<< 4) ||| (dup <<< 3) ||| (qos <<< 1) ||| retain

def umqttHeaderType (header : UInt8) : UInt8 := header >>> 4

/-- `umqtt_insert_messageid`: the two bytes and the incremented counter. -/
def umqttInsertMessageid (conn : UmqttConnection) : UmqttConnection × List UInt8 :=
  ({ conn with messageId := cInt 16 (conn.messageId + 1) },
    [UInt8.ofInt (conn.messageId / 256), UInt8.ofInt conn.messageId])

def umqttEncodeLengthLoop : Nat → Int → List UInt8
  | 0, _ => []
  | fuel + 1, len =>
      let digit := UInt8.ofInt (Int.tmod len 128)
      let len := Int.tdiv len 128
      (if len > 0 then digit ||| 0x80 else digit) ::
        if len ≠ 0 then umqttEncodeLengthLoop fuel len else []

/-- `umqtt_encode_length`. Every iteration divides `len`, so the fuel never
runs out. -/
def umqttEncodeLength (len : Int) : List UInt8 := umqttEncodeLengthLoop (len.natAbs + 1) len

/-! ## Building and sending packets -/

/-- The pushes that build one packet, in order; the count each of them returns
is ignored. -/
def pushAll (buff : UmqttCircBuffer) (parts : List (List UInt8)) : UmqttCircBuffer :=
  parts.foldl (fun buff part => (umqttCircPush buff part).1) buff

/-- `umqtt_send_packet`: the first `datalen` bytes of the storage go to
`send()`, whatever the read position is. -/
def umqttSendPacket (conn : UmqttConnection) : UmqttConnection × List (List UInt8) :=
  ({ conn with txbuff := umqttCircInit conn.txbuff },
    [conn.txbuff.start.take conn.txbuff.datalen])

def umqttConnect (conn : UmqttConnection) : UmqttConnection × List (List UInt8) :=
  let cidlen := cInt 16 (strlen conn.clientid)
  let conn : UmqttConnection :=
    { conn with
      rxbuff := umqttCircInit conn.rxbuff
      txbuff := umqttCircInit conn.txbuff
      state := .init
      nackPing := 0
      nackPublish := 0
      nackSubscribe := 0
      messageId := 1 }
  let fixed := umqttBuildHeader umqttConnectType 0 0 0
  -- protocol name "MQTT", protocol level, clean-session flag, keep-alive
  let variableHeader : List UInt8 :=
    [0, 4, 77, 81, 84, 84, 4, 0b00000010,
      (conn.kalive >>> 8).toUInt8, (conn.kalive &&& 0xff).toUInt8]
  let paylen := htons (UInt16.ofInt cidlen)
  let txbuff := pushAll conn.txbuff
    [[fixed],
      umqttEncodeLength (cInt 16 (10 + 2 + cidlen)),
      variableHeader,
      memoryBytes paylen,
      conn.clientid.bytes.take cidlen.toNat]
  umqttSendPacket { conn with txbuff := txbuff, state := .connecting }

def umqttSubscribe (conn : UmqttConnection) (topic : CString) :
    UmqttConnection × List (List UInt8) :=
  let topiclen := UInt16.ofNat (strlen topic)
  let qos : UInt8 := 0
  let fixed := umqttBuildHeader umqttSubscribeType 0 1 0
  let (conn, messageid) := umqttInsertMessageid conn
  let paylen := htons topiclen
  let txbuff := pushAll conn.txbuff
    [[fixed],
      umqttEncodeLength (cInt 16 (2 + 2 + topiclen.toNat + 1)),
      messageid,
      memoryBytes paylen,
      topic.bytes.take (cInt 16 topiclen.toNat).toNat,
      [qos]]
  umqttSendPacket
    { conn with txbuff := txbuff, nackSubscribe := cInt 16 (conn.nackSubscribe + 1) }

/-- `umqtt_publish`; `data` are the bytes at the data pointer. -/
def umqttPublish (conn : UmqttConnection) (topic : CString) (data : List UInt8)
    (datalen : Int) : UmqttConnection × List (List UInt8) :=
  let toplen := cInt 16 (strlen topic)
  let fixed := umqttBuildHeader umqttPublishType 0 0 0
  let len := [UInt8.ofInt (toplen / 256), UInt8.ofInt toplen]
  let txbuff := pushAll conn.txbuff
    [[fixed],
      umqttEncodeLength (cInt 16 (2 + toplen + datalen)),
      len,
      topic.bytes.take toplen.toNat,
      data.take datalen.toNat]
  umqttSendPacket { conn with txbuff := txbuff }

def umqttPing (conn : UmqttConnection) : UmqttConnection × List (List UInt8) :=
  let packet := [umqttBuildHeader umqttPingreqType 0 0 0, 0]
  let txbuff := pushAll conn.txbuff [packet]
  umqttSendPacket { conn with txbuff := txbuff, nackPing := cInt 16 (conn.nackPing + 1) }

end MicrochipDay.Umqtt
