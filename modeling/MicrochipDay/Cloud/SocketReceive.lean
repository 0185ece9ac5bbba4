import MicrochipDay.Cloud.Network
import MicrochipDay.MqttClient.Ready

/-!
Owns the way of the received bytes from the socket callback to
`umqtt_process`: the size field has 16 bits, the parameter of
`MQTT_CLIENT_receive` eight, and the ring takes 250 bytes, so that exactly the
chunks of up to 250 bytes get through whole.
-/

namespace MicrochipDay.Cloud

open MicrochipDay.Umqtt
open MicrochipDay.MqttClient

/-- `MAIN_WIFI_M2M_BUFFER_SIZE`: the size of the buffer registered with
`recv()`. -/
def mainWifiM2mBufferSize : Nat := 500

/-! ## The consumed stream -/

/-- Everything that `umqtt_process` has taken off the receive ring, in order. -/
def processedBytes : List Action → List UInt8
  | [] => []
  | .processed bytes :: past => processedBytes past ++ bytes
  | _ :: past => processedBytes past

section PacketArrived

variable (world : World) (board : Board)

private theorem packetArrived_processedBytes (arrival : Arrival) :
    processedBytes (packetArrived world board arrival).log = processedBytes board.log := by
  simp only [packetArrived]
  split <;> rfl

private theorem packetsArrived_processedBytes (arrivals : List Arrival) :
    processedBytes (arrivals.foldl (packetArrived world) board).log = processedBytes board.log :=
  List.foldlRecOn arrivals _
    (motive := fun next : Board => processedBytes next.log = processedBytes board.log) rfl
    fun next kept arrival _ => (packetArrived_processedBytes world next arrival).trans kept

theorem receive_eq (data : List UInt8) (len : UInt8) :
    let result := mqttClientReceive (world.scratch board.log) board.umqttConn data len
    (receive world board data len).umqttConn = result.conn ∧
      processedBytes (receive world board data len).log =
        processedBytes board.log ++ result.popped := by
  intro result
  exact ⟨(packetsArrived_frame world _ result.arrivals).1,
    packetsArrived_processedBytes world _ result.arrivals⟩

/-- From an empty ring, the bytes that pass the narrowing and the push go to
the parser or stay in the ring, and at most one of them stays. -/
theorem receive_conserves {board : Board} (ready : RxReady board.umqttConn)
    (empty : board.umqttConn.rxbuff.datalen = 0) (data : List UInt8) (len : UInt8) :
    let after := receive world board data len
    processedBytes after.log ++ after.umqttConn.rxbuff.contents =
        processedBytes board.log ++ (data.take len.toNat).take rxBuffSize ∧
      after.umqttConn.rxbuff.datalen < 2 := by
  intro after
  obtain ⟨sameConn, sameBytes⟩ := receive_eq world board data len
  obtain ⟨pushValid, _, _, pushed, _⟩ := umqttCircPush_spec ready.valid (data.take len.toNat)
  rw [UmqttCircBuffer.contents_eq_nil empty, empty, ready.capacity, Nat.sub_zero,
    List.nil_append] at pushed
  have spec := umqttProcess_spec (world.scratch board.log)
    ({ board.umqttConn with
      rxbuff := (umqttCircPush board.umqttConn.rxbuff (data.take len.toNat)).1 }) pushValid
  constructor
  · rw [sameBytes, sameConn, List.append_assoc, ← pushed]
    exact congrArg _ spec.conserved
  · rw [sameConn]
    exact spec.few

end PacketArrived

/-! ## Chunks from the socket -/

def SocketRecvMsg.bytes (msg : SocketRecvMsg) : List UInt8 :=
  msg.pu8Buffer.take msg.s16BufferSize.toNat

/-- Handling a chunk adds exactly its bytes to the consumed stream. -/
def Consumed (before after : Board) (bytes : List UInt8) : Prop :=
  processedBytes after.log = processedBytes before.log ++ bytes

/-- Handling a chunk drops none of its bytes: those that are not consumed yet
are the front of the ring, and there is at most one of them. -/
def NothingDropped (before after : Board) (bytes : List UInt8) : Prop :=
  processedBytes after.log ++ after.umqttConn.rxbuff.contents =
      processedBytes before.log ++ bytes ∧
    after.umqttConn.rxbuff.datalen < 2

section Chunk

variable (world : World) {board : Board} (sock : Int) (msg : SocketRecvMsg)

/-- What passes the narrowing and the push is no longer than the chunk, and is
the chunk only up to 250 bytes. -/
private theorem kept_length_le (positive : 0 < msg.s16BufferSize) :
    ((msg.pu8Buffer.take (UInt8.ofInt msg.s16BufferSize).toNat).take rxBuffSize).length ≤
      msg.bytes.length := by
  have stored := msg.stored
  have narrowed : (UInt8.ofInt msg.s16BufferSize).toNat = msg.s16BufferSize.toNat % 256 := by
    rw [UInt8.ofInt, UInt8.toNat_ofNat']
    omega
  simp only [SocketRecvMsg.bytes, List.length_take, narrowed]
  omega

private theorem kept_eq_iff (positive : 0 < msg.s16BufferSize)
    (registered : msg.s16BufferSize ≤ mainWifiM2mBufferSize) :
    (msg.pu8Buffer.take (UInt8.ofInt msg.s16BufferSize).toNat).take rxBuffSize = msg.bytes ↔
      msg.s16BufferSize ≤ 250 := by
  have stored := msg.stored
  have narrowed : (UInt8.ofInt msg.s16BufferSize).toNat = msg.s16BufferSize.toNat % 256 := by
    rw [UInt8.ofInt, UInt8.toNat_ofNat']
    omega
  rw [narrowed, List.take_take, SocketRecvMsg.bytes]
  simp only [rxBuffSize, mainWifiM2mBufferSize] at registered ⊢
  constructor
  · intro same
    have lengths := congrArg List.length same
    simp only [List.length_take] at lengths
    omega
  · intro small
    congr 1
    omega

private theorem chunk_iff (ready : RxReady board.umqttConn)
    (empty : board.umqttConn.rxbuff.datalen = 0) (positive : 0 < msg.s16BufferSize)
    (registered : msg.s16BufferSize ≤ mainWifiM2mBufferSize) :
    let after := networkWifiSocketHandler world board sock (.recv (some msg))
    (NothingDropped board after msg.bytes ↔ msg.s16BufferSize ≤ 250) ∧
      (Consumed board after msg.bytes ↔
        msg.s16BufferSize ≤ 250 ∧ after.umqttConn.rxbuff.datalen = 0) := by
  intro after
  have handled : after =
      receive world board msg.pu8Buffer (UInt8.ofInt msg.s16BufferSize) := by
    simp only [after, networkWifiSocketHandler, if_pos positive]
  obtain ⟨stream, few⟩ := receive_conserves world ready empty msg.pu8Buffer
    (UInt8.ofInt msg.s16BufferSize)
  rw [← handled] at stream few
  have whole := kept_eq_iff msg positive registered
  have dropsNothing : NothingDropped board after msg.bytes ↔ msg.s16BufferSize ≤ 250 := by
    rw [NothingDropped, stream, List.append_cancel_left_eq, whole]
    exact and_iff_left few
  refine ⟨dropsNothing, ?_, ?_⟩
  · intro consumed
    rw [Consumed] at consumed
    rw [consumed, List.append_assoc, List.append_cancel_left_eq] at stream
    -- nothing can be left over: the kept bytes are no more than the chunk
    have lengths := congrArg List.length stream
    have shorter := kept_length_le msg positive
    rw [List.length_append, UmqttCircBuffer.contents_length] at lengths
    have drained : after.umqttConn.rxbuff.datalen = 0 := by omega
    rw [UmqttCircBuffer.contents_eq_nil drained, List.append_nil] at stream
    exact ⟨whole.mp stream.symm, drained⟩
  · rintro ⟨small, drained⟩
    have nothing := (dropsNothing.mpr small).1
    rwa [UmqttCircBuffer.contents_eq_nil drained, List.append_nil] at nothing

/-- **Which chunks reach the parser.** With an empty receive ring, a chunk of 1
to 500 bytes reaches `umqtt_process` without a loss exactly when it has at most
250 bytes; then all of it is consumed, but for a last byte that the next chunk
completes. -/
theorem networkWifiSocketHandler_dropsNothing_iff (ready : RxReady board.umqttConn)
    (empty : board.umqttConn.rxbuff.datalen = 0) (positive : 0 < msg.s16BufferSize)
    (registered : msg.s16BufferSize ≤ mainWifiM2mBufferSize) :
    let after := networkWifiSocketHandler world board sock (.recv (some msg))
    (NothingDropped board after msg.bytes ↔ msg.s16BufferSize ≤ 250) ∧
      (Consumed board after msg.bytes ↔
        msg.s16BufferSize ≤ 250 ∧ after.umqttConn.rxbuff.datalen = 0) :=
  chunk_iff world sock msg ready empty positive registered

end Chunk

private def connectedBoard : Board :=
  { Board.initial with umqttConn := (mqttClientConnect Board.initial.umqttConn).1 }

private theorem connectedBoard_ready :
    RxReady connectedBoard.umqttConn ∧ connectedBoard.umqttConn.rxbuff.datalen = 0 :=
  mqttClientConnect_rxReady (umqttConn_hasStorage _)

private def zeroChunk (size : Nat) : SocketRecvMsg where
  pu8Buffer := List.replicate size 0
  s16BufferSize := size
  stored := by rw [List.length_replicate]

/-- The largest chunk that gets through. -/
theorem networkWifiSocketHandler_dropsNothing_iff_largest :
    let after :=
      networkWifiSocketHandler World.accepting connectedBoard 1 (.recv (some (zeroChunk 250)))
    (NothingDropped connectedBoard after (zeroChunk 250).bytes ↔
        (zeroChunk 250).s16BufferSize ≤ 250) ∧
      (Consumed connectedBoard after (zeroChunk 250).bytes ↔
        (zeroChunk 250).s16BufferSize ≤ 250 ∧ after.umqttConn.rxbuff.datalen = 0) :=
  networkWifiSocketHandler_dropsNothing_iff World.accepting 1 (zeroChunk 250)
    connectedBoard_ready.1 connectedBoard_ready.2 (by decide) (by decide)

/-- Of a chunk of 300 bytes only 44 get through. -/
theorem networkWifiSocketHandler_drops_long_chunk :
    let after :=
      networkWifiSocketHandler World.accepting connectedBoard 1 (.recv (some (zeroChunk 300)))
    ¬ NothingDropped connectedBoard after (zeroChunk 300).bytes ∧
      ¬ Consumed connectedBoard after (zeroChunk 300).bytes := by
  have exact := chunk_iff World.accepting 1 (zeroChunk 300) connectedBoard_ready.1
    connectedBoard_ready.2 (by decide) (by decide)
  have tooLong : ¬ (zeroChunk 300).s16BufferSize ≤ 250 := by decide
  exact ⟨fun kept => tooLong (exact.1.mp kept), fun kept => tooLong (exact.2.mp kept).1⟩

end MicrochipDay.Cloud
