import MicrochipDay.MqttClient.Ready
import MicrochipDay.Library.Mqtt.ServerPacket

/-!
Owns how inbound packets survive the cuts that TCP makes in the stream.

The parser has no state of its own: `umqtt_process` takes a packet off the ring
as soon as the ring holds two bytes, whether or not the body is there. What it
does carry over is a single byte, so the cuts it survives are those at a packet
boundary or one byte behind it.
-/

namespace MicrochipDay.MqttClient

open MicrochipDay.Umqtt
open MicrochipDay.Library.Mqtt

/-! ## Feeding chunks -/

/-- A chunk of the stream, with the memory its processing may find. -/
structure Delivery where
  chunk : List UInt8
  scratch : Scratch

/-- Feed chunks one after another to `MQTT_CLIENT_receive`, collecting the
callbacks. -/
def receiveAll (conn : UmqttConnection) : List Delivery → UmqttConnection × List Callback
  | [] => (conn, [])
  | delivery :: deliveries =>
      let result := mqttClientReceive delivery.scratch conn delivery.chunk
        (UInt8.ofNat delivery.chunk.length)
      let rest := receiveAll result.conn deliveries
      (rest.1, result.arrivals.filterMap Arrival.callback ++ rest.2)

/-! ## Whole packets -/

/-- What a packet is reported as; topic and payload get a terminator. -/
def arrivalOfPacket : ServerPacket → Arrival
  | .connack _ code => .connack code
  | .suback _ _ => .suback
  | .pingresp => .pingresp
  | .publish _ topic payload =>
      .publish
        { topic := topic ++ [0], payload := payload ++ [0], len := payload.length + 1 }

private theorem terminated (data : Nat → UInt8) (offset : Nat) (text : List UInt8)
    (stored : ∀ index (below : index < text.length), data (offset + index) = text[index]) :
    ((List.range (text.length + 1)).map fun index =>
      if index = text.length + 1 - 1 then 0 else data (offset + index)) = text ++ [0] := by
  rw [List.range_succ, List.map_append]
  have cells : (List.range text.length).map (fun index =>
      if index = text.length + 1 - 1 then 0 else data (offset + index)) = text := by
    apply List.ext_getElem
    · simp
    · intro index _ below
      have inside : index ≠ text.length + 1 - 1 := by omega
      simp only [List.getElem_map, List.getElem_range, if_neg inside]
      exact stored index below
  rw [cells]
  simp

private theorem umqttHandlePublish_whole (junk : Nat → UInt8) (topic payload : List UInt8)
    (small : 2 + topic.length + payload.length ≤ 248) :
    (umqttHandlePublish
        (bodyCell junk (wordBytes topic.length ++ (topic ++ payload)))
        (2 + topic.length + payload.length : Nat)).1 =
      { topic := topic ++ [0], payload := payload ++ [0], len := payload.length + 1 } := by
  generalize bodyEq : wordBytes topic.length ++ (topic ++ payload) = body
  have cells : ∀ index, body[2 + index]? = (topic ++ payload)[index]? := by
    intro index
    rw [← bodyEq, Nat.add_comm]
    rfl
  have toplen : (bodyCell junk body 0).toNat * 256 + (bodyCell junk body 1).toNat =
      topic.length := by
    have high : bodyCell junk body 0 = UInt8.ofNat (topic.length / 256) :=
      bodyCell_of_getElem? junk (by rw [← bodyEq]; rfl)
    have low : bodyCell junk body 1 = UInt8.ofNat topic.length :=
      bodyCell_of_getElem? junk (by rw [← bodyEq]; rfl)
    rw [high, low, UInt8.toNat_ofNat', UInt8.toNat_ofNat']
    omega
  have topicSize : (topic.length + 1) % 65536 = topic.length + 1 := by omega
  have payloadSize :
      (((2 + topic.length + payload.length : Nat) - 2 - topic.length + 1 : Int) % 65536).toNat =
        payload.length + 1 := by omega
  have topicCells : ∀ index (below : index < topic.length),
      bodyCell junk body (2 + index) = topic[index] := by
    intro index below
    apply bodyCell_of_getElem?
    rw [cells, List.getElem?_append_left below, List.getElem?_eq_getElem below]
  have payloadCells : ∀ index (below : index < payload.length),
      bodyCell junk body (2 + topic.length + index) = payload[index] := by
    intro index below
    apply bodyCell_of_getElem?
    rw [Nat.add_assoc, cells, List.getElem?_append_right (by omega), Nat.add_sub_cancel_left,
      List.getElem?_eq_getElem below]
  have len : cInt 16 ((payload.length + 1 : Nat) : Int) = payload.length + 1 := by
    rw [cInt_of_range (by omega) (by omega)]
    rfl
  simp only [umqttHandlePublish, toplen, topicSize, payloadSize, len,
    terminated (bodyCell junk body) 2 topic topicCells,
    terminated (bodyCell junk body) (2 + topic.length) payload payloadCells]

private theorem headerType (packet : ServerPacket) :
    umqttHeaderType packet.header =
      match packet with
      | .connack .. => umqttConnackType
      | .suback .. => umqttSubackType
      | .pingresp => umqttPingrespType
      | .publish .. => umqttPublishType := by
  cases packet with
  | connack =>
      show umqttHeaderType 0x20 = umqttConnackType
      decide
  | suback =>
      show umqttHeaderType 0x90 = umqttSubackType
      decide
  | pingresp =>
      show umqttHeaderType 0xD0 = umqttPingrespType
      decide
  | publish retain =>
      cases retain with
      | false =>
          show umqttHeaderType 0x30 = umqttPublishType
          decide
      | true =>
          show umqttHeaderType 0x31 = umqttPublishType
          decide

private theorem arrivalOf_whole (junk : Nat → UInt8) (packet : ServerPacket)
    (small : packet.body.length ≤ 248) :
    arrivalOf junk packet.header packet.body.length packet.body = arrivalOfPacket packet := by
  cases packet with
  | connack sessionPresent code =>
      rw [arrivalOf, headerType]
      rfl
  | suback packetId codes =>
      rw [arrivalOf, headerType]
      rfl
  | pingresp =>
      rw [arrivalOf, headerType]
      rfl
  | publish retain topic payload =>
      have length : (ServerPacket.publish retain topic payload).body.length =
          2 + topic.length + payload.length := by
        simp [ServerPacket.body, Nat.add_assoc]
      have delivered := umqttHandlePublish_whole junk topic payload (length ▸ small)
      rw [arrivalOf, headerType, length]
      simp only [ServerPacket.body, delivered]
      rfl

/-! ## Processing whole packets -/

private theorem umqttProcessLoop_packet (scratch : Scratch) (fuel call : Nat)
    {conn : UmqttConnection} {buf : List UInt8} (valid : conn.rxbuff.Valid)
    (size : buf.length = 5) {packet : ServerPacket} (small : packet.encode.length ≤ 250)
    {rest : List UInt8} (stored : conn.rxbuff.contents = packet.encode ++ rest) :
    ∃ (next : UmqttConnection) (nextBuf : List UInt8),
      nextBuf.length = 5 ∧ next.rxbuff.Valid ∧ next.rxbuff.contents = rest ∧
      next.rxbuff.datalen < conn.rxbuff.datalen ∧
      (umqttProcessLoop scratch (fuel + 1) call conn buf).conn =
        (umqttProcessLoop scratch fuel (call + 1) next nextBuf).conn ∧
      (umqttProcessLoop scratch (fuel + 1) call conn buf).arrivals =
        arrivalOfPacket packet ::
          (umqttProcessLoop scratch fuel (call + 1) next nextBuf).arrivals := by
  have bodySmall : packet.body.length ≤ 248 := by
    have field := (encodeRemainingLength packet.body.length).length_pos_of_ne_nil
      (encodeDigits_ne_nil 3 packet.body.length)
    rw [packet.encode_length] at small
    omega
  obtain ⟨complete, denotes⟩ := encodeRemainingLength_complete
    (by omega : packet.body.length < 128 ^ 4)
  have fieldTaken : lengthBytes 4 (encodeRemainingLength packet.body.length ++
      (packet.body ++ rest)) = encodeRemainingLength packet.body.length :=
    lengthBytes_of_complete complete (encodeRemainingLength_length_le _) _
  have decoded : ∀ behind, umqttDecodeLength 16
      (encodeRemainingLength packet.body.length ++ behind) =
        ((packet.body.length : Int), (encodeRemainingLength packet.body.length).length) := by
    intro behind
    rw [umqttDecodeLength_complete 16 complete, denotes, cInt_of_range (by omega) (by omega)]
  have framed : conn.rxbuff.contents =
      packet.header :: (encodeRemainingLength packet.body.length ++ (packet.body ++ rest)) := by
    rw [stored, ServerPacket.encode, frame, List.cons_append, List.append_assoc]
  have nonempty : encodeRemainingLength packet.body.length ++ (packet.body ++ rest) ≠ [] :=
    List.append_ne_nil_of_left_ne_nil (encodeDigits_ne_nil 3 _) _
  obtain ⟨next, nextBuf, _, nextSize, _, nextValid, _, nextContents, fewer, _, _, unfolded⟩ :=
    umqttProcessLoop_step scratch fuel call valid size nonempty framed fieldTaken
      (List.drop_left ..) (decoded _)
  refine ⟨next, nextBuf, nextSize, nextValid, ?_, fewer, ?_, ?_⟩
  · rw [nextContents, Int.toNat_natCast, List.drop_left]
  · rw [unfolded]
  · rw [unfolded]
    simp only [Int.toNat_natCast, List.take_left, arrivalOf_whole _ _ bodySmall]

private theorem umqttProcessLoop_packets (scratch : Scratch) {left : List UInt8}
    (few : left.length ≤ 1) (packets : List ServerPacket)
    (small : ∀ packet ∈ packets, packet.encode.length ≤ 250) :
    ∀ {fuel : Nat} (call : Nat) (conn : UmqttConnection) (buf : List UInt8) (_ : conn.rxbuff.Valid)
      (_ : buf.length = 5) (_ : conn.rxbuff.contents = ServerPacket.encodeAll packets ++ left)
      (_ : conn.rxbuff.datalen ≤ fuel),
      (umqttProcessLoop scratch fuel call conn buf).arrivals = packets.map arrivalOfPacket ∧
      (umqttProcessLoop scratch fuel call conn buf).conn.rxbuff.contents = left := by
  induction packets with
  | nil =>
      intro fuel call conn buf _ _ stored _
      have empty : conn.rxbuff.datalen < 2 := by
        rw [← UmqttCircBuffer.contents_length, stored]
        simp only [ServerPacket.encodeAll_nil, List.nil_append]
        omega
      rw [umqttProcessLoop_stops scratch fuel call empty]
      exact ⟨rfl, stored⟩
  | cons packet packets inductionHypothesis =>
      intro fuel call conn buf valid size stored enough
      have first : packet.encode.length ≤ 250 := small packet (by simp)
      have later : ∀ other ∈ packets, other.encode.length ≤ 250 :=
        fun other member => small other (by simp [member])
      have twoBytes := packet.two_le_encode_length
      have count := UmqttCircBuffer.contents_length conn.rxbuff
      rw [ServerPacket.encodeAll_cons, List.append_assoc] at stored
      rw [stored, List.length_append] at count
      obtain ⟨fuel, rfl⟩ : ∃ rest, fuel = rest + 1 := ⟨fuel - 1, by omega⟩
      obtain ⟨next, nextBuf, nextSize, nextValid, nextContents, fewer, sameConn, arrivals⟩ :=
        umqttProcessLoop_packet scratch fuel call valid size first stored
      obtain ⟨restArrivals, restContents⟩ :=
        inductionHypothesis later (call + 1) next nextBuf nextValid nextSize nextContents
          (by omega : next.rxbuff.datalen ≤ fuel)
      rw [arrivals, restArrivals, sameConn]
      exact ⟨rfl, restContents⟩

/-! ## Clean cuts -/

/-- Cuts that fall at a packet boundary or one byte behind it: each chunk,
behind the byte that the previous one left, is whole packets and at most one
byte more, and fits the ring together with the byte before it. -/
inductive CleanCuts : List UInt8 → List ServerPacket → List (List UInt8) → Prop where
  | nil : CleanCuts [] [] []
  | chunk {before chunk : List UInt8} {packets : List ServerPacket} {chunks : List (List UInt8)}
      (whole : List ServerPacket) (after : List UInt8)
      (cut : before ++ chunk = ServerPacket.encodeAll whole ++ after)
      (few : after.length ≤ 1)
      (fits : before.length + chunk.length ≤ rxBuffSize)
      (rest : CleanCuts after packets chunks) :
      CleanCuts before (whole ++ packets) (chunk :: chunks)

theorem cleanCuts_whole (packets : List ServerPacket)
    (small : ∀ packet ∈ packets, packet.encode.length ≤ rxBuffSize) :
    CleanCuts [] packets (packets.map ServerPacket.encode) := by
  induction packets with
  | nil => exact CleanCuts.nil
  | cons packet packets inductionHypothesis =>
      have later := inductionHypothesis fun other member => small other (by simp [member])
      exact CleanCuts.chunk [packet] [] (by simp [ServerPacket.encodeAll]) (by simp)
        (by simpa using small packet (by simp)) later

section Delivered

variable (scratch : Scratch) {conn : UmqttConnection} {chunk : List UInt8}
  (fits : conn.rxbuff.contents.length + chunk.length ≤ rxBuffSize)
include fits

private theorem mqttClientReceive_eq :
    mqttClientReceive scratch conn chunk (UInt8.ofNat chunk.length) =
      umqttProcess scratch { conn with rxbuff := (umqttCircPush conn.rxbuff chunk).1 } := by
  have len : (UInt8.ofNat chunk.length).toNat = chunk.length := by
    simp only [rxBuffSize] at fits
    rw [UInt8.toNat_ofNat', Nat.mod_eq_of_lt (by omega)]
  rw [mqttClientReceive, len, List.take_length]

variable (ready : RxReady conn)
include ready

private theorem pushed_contents :
    (umqttCircPush conn.rxbuff chunk).1.contents = conn.rxbuff.contents ++ chunk := by
  obtain ⟨_, _, _, pushContents, _⟩ := umqttCircPush_spec ready.valid chunk
  rw [UmqttCircBuffer.contents_length] at fits
  rw [pushContents, ready.capacity, List.take_of_length_le (by omega)]

/-- A chunk that fits is taken off the ring but for at most one byte. -/
private theorem mqttClientReceive_conserves :
    let result := mqttClientReceive scratch conn chunk (UInt8.ofNat chunk.length)
    RxReady result.conn ∧ result.conn.rxbuff.contents.length ≤ 1 ∧
      result.popped ++ result.conn.rxbuff.contents = conn.rxbuff.contents ++ chunk := by
  rw [mqttClientReceive_eq scratch fits]
  have pushValid := umqttCircPush_valid ready.valid chunk
  have pushLength := umqttCircPush_length ready.valid chunk
  have spec := umqttProcess_spec scratch
    { conn with rxbuff := (umqttCircPush conn.rxbuff chunk).1 } pushValid
  have few := spec.few
  refine ⟨⟨spec.valid, spec.length.trans (pushLength.trans ready.capacity)⟩, ?_, ?_⟩
  · rw [UmqttCircBuffer.contents_length]
    omega
  · exact spec.conserved.trans (pushed_contents fits ready)

theorem mqttClientReceive_whole {after : List UInt8} {whole : List ServerPacket}
    (small : ∀ packet ∈ whole, packet.encode.length ≤ 250)
    (cut : conn.rxbuff.contents ++ chunk = ServerPacket.encodeAll whole ++ after)
    (few : after.length ≤ 1) :
    let result := mqttClientReceive scratch conn chunk (UInt8.ofNat chunk.length)
    result.conn.rxbuff.contents = after ∧ result.arrivals = whole.map arrivalOfPacket ∧
      result.conn.state = (updateAll conn (whole.map arrivalOfPacket)).state := by
  rw [mqttClientReceive_eq scratch fits]
  have pushed := (pushed_contents fits ready).trans cut
  obtain ⟨arrivals, contents⟩ := umqttProcessLoop_packets scratch few whole small 0
    { conn with rxbuff := (umqttCircPush conn.rxbuff chunk).1 } scratch.buf
    (umqttCircPush_valid ready.valid chunk) scratch.bufSize pushed (Nat.le_refl _)
  refine ⟨contents, arrivals, ?_⟩
  have state := umqttProcess_state scratch
    { conn with rxbuff := (umqttCircPush conn.rxbuff chunk).1 }
  have sameState : UmqttConnection.state
      { conn with rxbuff := (umqttCircPush conn.rxbuff chunk).1 } = conn.state := rfl
  exact (state.trans (updateAll_state_congr sameState _)).trans
    (congrArg (fun arrivals => (updateAll conn arrivals).state) arrivals)

end Delivered

private theorem receiveAll_clean {before : List UInt8} {packets : List ServerPacket}
    {chunks : List (List UInt8)} (clean : CleanCuts before packets chunks) :
    ∀ {conn : UmqttConnection} {deliveries : List Delivery} (_ : RxReady conn)
      (_ : conn.rxbuff.contents = before) (_ : deliveries.map Delivery.chunk = chunks)
      (_ : ∀ packet ∈ packets, packet.encode.length ≤ 250),
      (receiveAll conn deliveries).2 =
        (packets.map arrivalOfPacket).filterMap Arrival.callback ∧
      (receiveAll conn deliveries).1.state =
        (updateAll conn (packets.map arrivalOfPacket)).state := by
  induction clean with
  | nil =>
      intro conn deliveries _ _ chunked _
      obtain rfl : deliveries = [] := List.map_eq_nil_iff.mp chunked
      exact ⟨rfl, rfl⟩
  | @chunk before chunk packets chunks whole after cut few fits rest inductionHypothesis =>
      intro conn deliveries ready stored chunked small
      obtain ⟨delivery, later, rfl, rfl, laterChunked⟩ := List.map_eq_cons_iff.mp chunked
      obtain ⟨wholeSmall, restSmall⟩ := List.forall_mem_append.mp small
      rw [← stored] at cut fits
      obtain ⟨nextReady, _, _⟩ := mqttClientReceive_conserves delivery.scratch fits ready
      obtain ⟨nextContents, arrivals, state⟩ :=
        mqttClientReceive_whole delivery.scratch fits ready wholeSmall cut few
      obtain ⟨callbacks, restState⟩ :=
        inductionHypothesis nextReady nextContents laterChunked restSmall
      simp only [receiveAll, arrivals, callbacks, restState, List.map_append,
        List.filterMap_append, true_and]
      rw [updateAll_state_congr state, updateAll, updateAll, ← List.foldl_append]
      rfl

/-! ## Cuts that are not clean -/

/-- Every chunk fits the receive ring behind what is left there, and what its
processing takes off the ring are whole packets. -/
def TakesWholePackets (conn : UmqttConnection) : List ServerPacket → List Delivery → Prop
  | packets, [] => packets = [] ∧ conn.rxbuff.contents = []
  | packets, delivery :: deliveries =>
      let result := mqttClientReceive delivery.scratch conn delivery.chunk
        (UInt8.ofNat delivery.chunk.length)
      conn.rxbuff.contents.length + delivery.chunk.length ≤ rxBuffSize ∧
        ∃ whole rest, packets = whole ++ rest ∧ result.popped = ServerPacket.encodeAll whole ∧
          TakesWholePackets result.conn rest deliveries

/-- A cut that is not clean makes the ring overflow or has the parser take a
part of a packet. -/
private theorem takesWholePackets_iff (deliveries : List Delivery) :
    ∀ {conn : UmqttConnection} {packets : List ServerPacket} (_ : RxReady conn)
      (_ : ∀ packet ∈ packets, packet.encode.length ≤ 250),
      TakesWholePackets conn packets deliveries ↔
        CleanCuts conn.rxbuff.contents packets (deliveries.map Delivery.chunk) := by
  induction deliveries with
  | nil =>
      intro conn packets _ _
      constructor
      · rintro ⟨rfl, empty⟩
        rw [empty]
        exact CleanCuts.nil
      · intro clean
        generalize contents : conn.rxbuff.contents = before at clean
        cases clean with
        | nil => exact ⟨rfl, contents⟩
  | cons delivery deliveries inductionHypothesis =>
      intro conn packets ready small
      constructor
      · rintro ⟨fits, whole, rest, rfl, popped, later⟩
        obtain ⟨nextReady, few, conserved⟩ :=
          mqttClientReceive_conserves delivery.scratch fits ready
        have restSmall := (List.forall_mem_append.mp small).2
        rw [popped] at conserved
        exact CleanCuts.chunk whole _ conserved.symm few fits
          ((inductionHypothesis nextReady restSmall).mp later)
      · intro clean
        generalize contents : conn.rxbuff.contents = before at clean
        cases clean with
        | @chunk _ _ rest _ whole after cut few fits later =>
            subst contents
            obtain ⟨wholeSmall, restSmall⟩ := List.forall_mem_append.mp small
            obtain ⟨nextReady, _, conserved⟩ :=
              mqttClientReceive_conserves delivery.scratch fits ready
            obtain ⟨nextContents, _, _⟩ :=
              mqttClientReceive_whole delivery.scratch fits ready wholeSmall cut few
            rw [nextContents, cut] at conserved
            refine ⟨fits, whole, rest, rfl, List.append_cancel_right conserved, ?_⟩
            exact (inductionHypothesis nextReady restSmall).mpr (nextContents.symm ▸ later)

/-! ## Segmentation -/

/-- Two ways of feeding end with the same callbacks and connection state. -/
def SameOutcome (first second : UmqttConnection × List Callback) : Prop :=
  first.2 = second.2 ∧ first.1.state = second.1.state

instance (first second : UmqttConnection × List Callback) :
    Decidable (SameOutcome first second) := by
  unfold SameOutcome
  infer_instance

/-- **Clean cuts do not show.** From an empty receive ring, feeding packets in
cleanly cut chunks has the callbacks and the connection state of feeding each
packet whole; and chunks that are not cleanly cut make the ring overflow or
have the parser take a part of a packet. -/
theorem receiveAll_cleanCuts {conn : UmqttConnection} (ready : RxReady conn)
    (empty : conn.rxbuff.datalen = 0) (packets : List ServerPacket)
    (small : ∀ packet ∈ packets, packet.encode.length ≤ 250) (deliveries : List Delivery)
    {whole : List Delivery}
    (wholePackets : whole.map Delivery.chunk = packets.map ServerPacket.encode) :
    (CleanCuts [] packets (deliveries.map Delivery.chunk) →
      SameOutcome (receiveAll conn deliveries) (receiveAll conn whole)) ∧
    (TakesWholePackets conn packets deliveries ↔
      CleanCuts [] packets (deliveries.map Delivery.chunk)) := by
  have stored : conn.rxbuff.contents = [] := UmqttCircBuffer.contents_eq_nil empty
  constructor
  · intro clean
    obtain ⟨callbacks, state⟩ := receiveAll_clean clean ready stored rfl small
    obtain ⟨wholeCallbacks, wholeState⟩ :=
      receiveAll_clean (cleanCuts_whole packets small) ready stored wholePackets small
    exact ⟨callbacks.trans wholeCallbacks.symm, state.trans wholeState.symm⟩
  · rw [← stored]
    exact takesWholePackets_iff deliveries ready small

/-- The connection of the examples below: just connected. -/
private def justConnected : UmqttConnection :=
  (mqttClientConnect (umqttConn ⟨[99, 49], by decide⟩)).1

/-- A CONNACK and a PUBLISH cut one byte into the PUBLISH. -/
theorem receiveAll_cleanCuts_connack_publish :
    SameOutcome
      (receiveAll justConnected
        [⟨[0x20, 2, 0, 0, 0x30], Scratch.zeros⟩, ⟨[4, 0, 1, 97, 98], Scratch.zeros⟩])
      (receiveAll justConnected
        [⟨[0x20, 2, 0, 0], Scratch.zeros⟩, ⟨[0x30, 4, 0, 1, 97, 98], Scratch.zeros⟩]) :=
  have connected := mqttClientConnect_rxReady (umqttConn_hasStorage ⟨[99, 49], by decide⟩)
  have clean : CleanCuts [] [.connack false 0, .publish false [97] [98]]
      [[0x20, 2, 0, 0, 0x30], [4, 0, 1, 97, 98]] :=
    CleanCuts.chunk [.connack false 0] [0x30] (by decide) (by decide) (by decide)
      (CleanCuts.chunk [.publish false [97] [98]] [] (by decide) (by decide) (by decide)
        CleanCuts.nil)
  (receiveAll_cleanCuts connected.1 connected.2 [.connack false 0, .publish false [97] [98]]
    (by decide) [⟨[0x20, 2, 0, 0, 0x30], Scratch.zeros⟩, ⟨[4, 0, 1, 97, 98], Scratch.zeros⟩]
    (by decide)).1 clean

/-- Not every other cut shows: a SUBACK cut before its last byte is counted all
the same. -/
example : SameOutcome
    (receiveAll justConnected [⟨[0x90, 3, 0, 1], Scratch.zeros⟩, ⟨[0], Scratch.zeros⟩])
    (receiveAll justConnected [⟨[0x90, 3, 0, 1, 0], Scratch.zeros⟩]) := by
  decide +kernel

/-- A PUBLISH cut inside its body: the second chunk is its payload, and is
taken for a CONNACK. -/
theorem receiveAll_depends_on_cuts :
    ServerPacket.encodeAll [.publish false [97] [0x20, 2, 0, 0]] =
      [0x30, 7, 0, 1, 97] ++ [0x20, 2, 0, 0] ∧
    ¬ SameOutcome
      (receiveAll justConnected
        [⟨[0x30, 7, 0, 1, 97], Scratch.zeros⟩, ⟨[0x20, 2, 0, 0], Scratch.zeros⟩])
      (receiveAll justConnected [⟨[0x30, 7, 0, 1, 97, 0x20, 2, 0, 0], Scratch.zeros⟩]) := by
  decide +kernel

end MicrochipDay.MqttClient
