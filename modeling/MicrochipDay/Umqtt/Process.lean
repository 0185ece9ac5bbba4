import MicrochipDay.Umqtt.Connection

/-!
Owns the receive path of umqtt.c: `umqtt_decode_length`,
`umqtt_handle_publish`, `umqtt_packet_arrived` and `umqtt_process`.

The C code reads cells it has not written and, on some inputs, cells outside
its arrays. Every value such a read can find is a parameter (`Scratch`), and
every array access, variable-length declaration and body length is logged as a
`MemoryEvent`, so that safety is a property of the log.
-/

namespace MicrochipDay.Umqtt

/-! ## Memory -/

inductive ArrayName where
  | buf
  | data
  | topic
  | payload
deriving DecidableEq, Repr

/-- What a run of the receive path does with memory. -/
inductive MemoryEvent where
  /-- `count` cells from index `first` of an array of `size` cells are read or written. -/
  | access (array : ArrayName) (size first count : Nat)
  /-- A variable-length array of `size` cells is declared. -/
  | declare (array : ArrayName) (size : Int)
  /-- `umqtt_packet_arrived` is called for a body of `len` bytes while the ring holds `left`. -/
  | body (len : Int) (left : Nat)
deriving DecidableEq, Repr

/-- The event stays inside its array, declares at least one cell, or asks for
no more bytes than there are. -/
def MemoryEvent.Safe : MemoryEvent → Prop
  | .access _ size first count => count = 0 ∨ first + count ≤ size
  | .declare _ size => 0 < size
  | .body len left => len ≤ left

instance (event : MemoryEvent) : Decidable event.Safe := by
  cases event <;> unfold MemoryEvent.Safe <;> infer_instance

/-- The contents of memory that the receive path has not written: `buf` on
entry, the cells behind it, and the cells at and behind `data` in each call of
`umqtt_packet_arrived`. -/
structure Scratch where
  buf : List UInt8
  bufSize : buf.length = 5
  afterBuf : List UInt8
  data : Nat → Nat → UInt8

/-- Memory that holds zeros wherever it has not been written. -/
def Scratch.zeros : Scratch := ⟨List.replicate 5 0, rfl, [], fun _ _ => 0⟩

/-- Overwrite the cells of an array from `index` on. -/
def writeAt (array : List UInt8) (index : Nat) (bytes : List UInt8) : List UInt8 :=
  array.take index ++ bytes ++ array.drop (index + bytes.length)

/-! ## Remaining length -/

/-- The loop of `umqtt_decode_length` over the cells at `data`, in an `int` of
`bits` bits: the value and the number of cells read. Reading on behind the last
known cell counts as one more read. -/
def umqttDecodeLengthLoop (bits : Nat) (mul val : Int) : List UInt8 → Int × Nat
  | [] => (val, 1)
  | byte :: rest =>
      let val := cInt bits (val + cInt bits ((byte &&& 0x7f).toNat * mul))
      let mul := cInt bits (mul * 128)
      if byte &&& 0x80 ≠ 0 then
        let result := umqttDecodeLengthLoop bits mul val rest
        (result.1, result.2 + 1)
      else (val, 1)

def umqttDecodeLength (bits : Nat) (data : List UInt8) : Int × Nat :=
  umqttDecodeLengthLoop bits 1 0 data

/-! ## Packet bodies -/

/-- The arguments of `message_callback`: the two arrays and `sizeof(payload)`. -/
structure Message where
  topic : List UInt8
  payload : List UInt8
  len : Int
deriving DecidableEq, Repr

/-- `umqtt_handle_publish`; `data` is the memory at the data pointer. A write outside
one of the arrays is an event here, but what it overwrites there is not modelled. -/
def umqttHandlePublish (data : Nat → UInt8) (len : Int) : Message × List MemoryEvent :=
  let toplen := (data 0).toNat * 256 + (data 1).toNat
  -- both sizes are computed in 16-bit unsigned arithmetic
  let topicSize := (toplen + 1) % 65536
  let payloadSize := ((len - 2 - toplen + 1) % 65536).toNat
  let topic := (List.range topicSize).map fun index =>
    if index = topicSize - 1 then 0 else data (2 + index)
  let payload := (List.range payloadSize).map fun index =>
    if index = payloadSize - 1 then 0 else data (2 + toplen + index)
  ({ topic := topic, payload := payload, len := cInt 16 payloadSize },
    [.access .data len.toNat 0 2,
      .declare .topic topicSize,
      .declare .payload payloadSize,
      .access .data len.toNat 2 topicSize,
      .access .topic topicSize 0 topicSize,
      .access .topic topicSize ((topicSize + 65535) % 65536) 1,
      .access .data len.toNat (2 + toplen) payloadSize,
      .access .payload payloadSize 0 payloadSize,
      .access .payload payloadSize ((payloadSize + 65535) % 65536) 1])

inductive Arrival where
  | connack (code : UInt8)
  | suback
  | pingresp
  | publish (message : Message)
  | unknown
deriving DecidableEq, Repr

/-- The callbacks a connection makes while it processes its input. -/
inductive Callback where
  | connected
  | message (message : Message)
deriving DecidableEq, Repr

/-- The callback that `umqtt_packet_arrived` makes for a packet, if any. -/
def Arrival.callback : Arrival → Option Callback
  | .connack code => if code = 0 then some .connected else none
  | .publish message => some (.message message)
  | _ => none

/-- Cell `index` of `data` after `body` was popped into it. -/
def bodyCell (junk : Nat → UInt8) (body : List UInt8) (index : Nat) : UInt8 :=
  if index < body.length then body.getD index 0 else junk index

theorem bodyCell_of_getElem? (junk : Nat → UInt8) {body : List UInt8} {index : Nat}
    {byte : UInt8} (stored : body[index]? = some byte) : bodyCell junk body index = byte := by
  obtain ⟨below, value⟩ := List.getElem?_eq_some_iff.mp stored
  simp [bodyCell, below, List.getD_eq_getElem?_getD, value]

structure PacketResult where
  conn : UmqttConnection
  popped : List UInt8
  arrival : Arrival
  events : List MemoryEvent

/-- `umqtt_packet_arrived`; `junk` is the memory at `data` before the pop. -/
def umqttPacketArrived (junk : Nat → UInt8) (conn : UmqttConnection) (header : UInt8)
    (len : Int) : PacketResult :=
  let left := conn.rxbuff.datalen
  let (rxbuff, bytes) := umqttCircPop conn.rxbuff len.toNat
  let conn := { conn with rxbuff := rxbuff }
  let data := bodyCell junk bytes
  let events : List MemoryEvent :=
    [.body len left, .declare .data len, .access .data len.toNat 0 bytes.length]
  let type := umqttHeaderType header
  if type = umqttConnackType then
    let events := events ++ [.access .data len.toNat 1 1]
    if data 1 = 0x00 then
      ⟨{ conn with state := .connected }, bytes, .connack (data 1), events⟩
    else
      ⟨{ conn with state := .failed }, bytes, .connack (data 1), events⟩
  else if type = umqttSubackType then
    ⟨{ conn with nackSubscribe := cInt 16 (conn.nackSubscribe - 1) }, bytes, .suback, events⟩
  else if type = umqttPingrespType then
    ⟨{ conn with nackPing := cInt 16 (conn.nackPing - 1) }, bytes, .pingresp, events⟩
  else if type = umqttPublishType then
    let (message, publishEvents) := umqttHandlePublish data len
    ⟨conn, bytes, .publish message, events ++ publishEvents⟩
  else
    ⟨conn, bytes, .unknown, events⟩

/-! ## The receive loop -/

structure HeaderResult where
  rxbuff : UmqttCircBuffer
  buf : List UInt8
  popped : List UInt8
  events : List MemoryEvent

/-- The inner loop of `umqtt_process` from index `i` on; the fuel is `5 - i`. -/
def umqttProcessHeaderLoop : Nat → Nat → UmqttCircBuffer → List UInt8 → HeaderResult
  | 0, i, rxbuff, buf => ⟨rxbuff, buf, [], [.access .buf 5 (i - 1) 1]⟩
  | fuel + 1, i, rxbuff, buf =>
      if buf.getD (i - 1) 0 &&& 0x80 ≠ 0 then
        let (rxbuff, bytes) := umqttCircPop rxbuff 1
        let rest := umqttProcessHeaderLoop fuel (i + 1) rxbuff (writeAt buf i bytes)
        { rest with
          popped := bytes ++ rest.popped
          events := .access .buf 5 (i - 1) 1 :: .access .buf 5 i bytes.length :: rest.events }
      else ⟨rxbuff, buf, [], [.access .buf 5 (i - 1) 1]⟩

structure ProcessResult where
  conn : UmqttConnection
  popped : List UInt8
  arrivals : List Arrival
  events : List MemoryEvent

/-- The outer loop of `umqtt_process`; `call` counts its iterations. -/
def umqttProcessLoop (scratch : Scratch) :
    Nat → Nat → UmqttConnection → List UInt8 → ProcessResult
  | 0, _, conn, _ => ⟨conn, [], [], []⟩
  | fuel + 1, call, conn, buf =>
      if conn.rxbuff.datalen ≥ 2 then
        let (rxbuff, bytes) := umqttCircPop conn.rxbuff 2
        let header := umqttProcessHeaderLoop 3 2 rxbuff (writeAt buf 0 bytes)
        let length := umqttDecodeLength 16 (header.buf.drop 1 ++ scratch.afterBuf)
        let packet := umqttPacketArrived (scratch.data call) { conn with rxbuff := header.rxbuff }
          (header.buf.getD 0 0) length.1
        let rest := umqttProcessLoop scratch fuel (call + 1) packet.conn header.buf
        { conn := rest.conn
          popped := bytes ++ header.popped ++ packet.popped ++ rest.popped
          arrivals := packet.arrival :: rest.arrivals
          events := .access .buf 5 0 bytes.length :: header.events ++
            .access .buf 5 1 length.2 :: packet.events ++ rest.events }
      else ⟨conn, [], [], []⟩

/-- `umqtt_process`. Every iteration pops two bytes, so the fuel never runs
out. -/
def umqttProcess (scratch : Scratch) (conn : UmqttConnection) : ProcessResult :=
  umqttProcessLoop scratch conn.rxbuff.datalen 0 conn scratch.buf

end MicrochipDay.Umqtt
