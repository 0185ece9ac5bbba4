import MicrochipDay.MqttClient.Ready

/-!
Owns the exact inputs on which the receive path stays inside its arrays.

The condition speaks of the bytes in the receive ring only: whatever the
unwritten memory holds, processing them is safe exactly when they are complete
packets, none of them a PUBLISH, with at most one byte behind them.
-/

namespace MicrochipDay.MqttClient

open MicrochipDay.Umqtt
open MicrochipDay.Library.Mqtt

/-! ## Safe streams -/

/-- Complete packets with a body, no PUBLISH among them, a CONNACK with at
least two bytes, and at most one byte at the end. The body length is the one
that a 16-bit `int` makes of the length bytes. -/
inductive SafeStream : List UInt8 → Prop where
  | few {bytes : List UInt8} (short : bytes.length < 2) : SafeStream bytes
  | packet {header : UInt8} {field body rest : List UInt8}
      (complete : CompleteField field)
      (fieldShort : field.length ≤ 4)
      (length : cInt 16 (fieldValue field) = body.length)
      (nonempty : body ≠ [])
      (notPublish : umqttHeaderType header ≠ umqttPublishType)
      (connack : umqttHeaderType header = umqttConnackType → 2 ≤ body.length)
      (restSafe : SafeStream rest) :
      SafeStream (header :: (field ++ (body ++ rest)))

def AllSafe (events : List MemoryEvent) : Prop := ∀ event ∈ events, event.Safe

@[simp] theorem allSafe_nil : AllSafe [] := by
  simp [AllSafe]

@[simp] theorem allSafe_cons (event : MemoryEvent) (events : List MemoryEvent) :
    AllSafe (event :: events) ↔ event.Safe ∧ AllSafe events := by
  simp [AllSafe]

@[simp] theorem allSafe_append (first second : List MemoryEvent) :
    AllSafe (first ++ second) ↔ AllSafe first ∧ AllSafe second := by
  simp [AllSafe, or_imp, forall_and]

/-! ## One packet -/

/-- A PUBLISH is never safe: the copy of the payload is one byte longer than
what is left of the body, and a topic that leaves it no byte leaves the payload
array no cell. -/
private theorem umqttHandlePublish_not_safe (data : Nat → UInt8) {len : Int} (positive : 0 < len)
    (small : len < 32768) : ¬ AllSafe (umqttHandlePublish data len).2 := by
  have high := (data 0).toNat_lt
  have low := (data 1).toNat_lt
  simp only [umqttHandlePublish, allSafe_cons, MemoryEvent.Safe]
  omega

private theorem packetEvents_safe_iff (junk : Nat → UInt8) (header : UInt8) {len : Int}
    (small : len < 32768) (after : List UInt8) :
    AllSafe (packetEvents junk header len after.length (after.take len.toNat)) ↔
      0 < len ∧ len ≤ after.length ∧ umqttHeaderType header ≠ umqttPublishType ∧
        (umqttHeaderType header = umqttConnackType → 2 ≤ len) := by
  have popped : (MemoryEvent.access .data len.toNat 0 (after.take len.toNat).length).Safe := by
    apply Or.inr
    rw [List.length_take]
    omega
  have distinct : umqttConnackType ≠ umqttPublishType := by decide
  simp only [packetEvents, List.cons_append, List.nil_append, allSafe_cons, popped, true_and]
  by_cases connack : umqttHeaderType header = umqttConnackType
  · simp only [connack, if_pos, allSafe_cons, allSafe_nil, and_true, MemoryEvent.Safe, ne_eq,
      distinct, not_false_eq_true, true_and, forall_const]
    omega
  · rw [if_neg connack]
    by_cases publish : umqttHeaderType header = umqttPublishType
    · rw [if_pos publish]
      simp only [MemoryEvent.Safe]
      constructor
      · rintro ⟨_, positive, safe⟩
        exact absurd safe (umqttHandlePublish_not_safe _ positive small)
      · rintro ⟨_, _, notPublish, _⟩
        exact absurd publish notPublish
    · rw [if_neg publish]
      simp only [MemoryEvent.Safe, allSafe_nil, connack, publish, ne_eq, not_false_eq_true,
        false_implies, and_true]
      exact and_comm

/-! ## The receive loop -/

private theorem safeStream_packet_iff {header : UInt8} {field after : List UInt8}
    (complete : CompleteField field) (fieldShort : field.length ≤ 4) {len : Int}
    (length : cInt 16 (fieldValue field) = len) :
    SafeStream (header :: (field ++ after)) ↔
      (0 < len ∧ len ≤ after.length ∧ umqttHeaderType header ≠ umqttPublishType ∧
        (umqttHeaderType header = umqttConnackType → 2 ≤ len)) ∧
      SafeStream (after.drop len.toNat) := by
  constructor
  · intro safe
    generalize streamEq : header :: (field ++ after) = stream at safe
    cases safe with
    | few short =>
        obtain ⟨first, more, rfl⟩ := List.exists_cons_of_ne_nil complete.ne_nil
        rw [← streamEq] at short
        simp only [List.cons_append, List.length_cons] at short
        omega
    | @packet otherHeader otherField body rest otherComplete otherShort bodyLength nonempty
        notPublish connack restSafe =>
        obtain ⟨rfl, bytesEq⟩ := List.cons.inj streamEq
        -- both fields are what a reader of four length bytes takes
        obtain rfl : otherField = field := by
          have taken := lengthBytes_of_complete complete fieldShort after
          rw [bytesEq, lengthBytes_of_complete otherComplete otherShort] at taken
          exact taken
        obtain rfl : after = body ++ rest := List.append_cancel_left bytesEq
        have bodySize : len = body.length := length.symm.trans bodyLength
        have positive := List.length_pos_of_ne_nil nonempty
        rw [bodySize, Int.toNat_natCast, List.drop_left, List.length_append]
        exact ⟨⟨by omega, by omega, notPublish, fun type => by have := connack type; omega⟩,
          restSafe⟩
  · rintro ⟨⟨positive, present, notPublish, connack⟩, restSafe⟩
    have taken : ((after.take len.toNat).length : Int) = len := by
      rw [List.length_take]
      omega
    rw [← List.take_append_drop len.toNat after]
    refine SafeStream.packet complete fieldShort (by rw [taken, length]) ?_ notPublish ?_ restSafe
    · rw [← List.length_pos_iff_ne_nil]
      omega
    · intro type
      have atLeast := connack type
      omega

private theorem not_safeStream_of_incomplete {header : UInt8} {bytes : List UInt8}
    (nonempty : bytes ≠ []) (incomplete : ¬ CompleteField (lengthBytes 4 bytes)) :
    ¬ SafeStream (header :: bytes) := by
  intro safe
  generalize streamEq : header :: bytes = stream at safe
  cases safe with
  | few short =>
      have positive := List.length_pos_of_ne_nil nonempty
      rw [← streamEq, List.length_cons] at short
      omega
  | packet complete fieldShort =>
      obtain ⟨_, rfl⟩ := List.cons.inj streamEq
      rw [lengthBytes_of_complete complete fieldShort] at incomplete
      exact incomplete complete

/-- Without a complete field either the decoder reads behind `buf`, or the ring
is empty and no body length is both positive and available. -/
private theorem not_safe_of_incomplete {scratch : Scratch} {buf bytes : List UInt8}
    (incomplete : ¬ CompleteField (lengthBytes 4 bytes)) {len : Int} {reads : Nat}
    (decoded : umqttDecodeLength 16 (lengthBytes 4 bytes ++
      (buf.drop ((lengthBytes 4 bytes).length + 1) ++ scratch.afterBuf)) = (len, reads))
    {junk : Nat → UInt8} {header : UInt8} :
    ¬ AllSafe (.access .buf 5 1 reads ::
      packetEvents junk header len (bytes.drop (lengthBytes 4 bytes).length).length
        ((bytes.drop (lengthBytes 4 bytes).length).take len.toNat)) := by
  obtain ⟨all, stopped⟩ := lengthBytes_incomplete incomplete
  have more := umqttDecodeLengthLoop_reads 16 all 1 0
    (buf.drop ((lengthBytes 4 bytes).length + 1) ++ scratch.afterBuf)
  rw [umqttDecodeLength] at decoded
  rw [decoded] at more
  simp only [packetEvents, List.cons_append, List.nil_append, allSafe_cons, MemoryEvent.Safe]
  rcases stopped with full | exhausted
  · rw [full] at more
    rintro ⟨inside, _⟩
    simp only at more
    omega
  · have nothing : (bytes.drop (lengthBytes 4 bytes).length).length = 0 := by
      rw [exhausted, List.drop_length, List.length_nil]
    rw [nothing]
    rintro ⟨_, available, positive, _⟩
    omega

private theorem cInt_lt (value : Int) : cInt 16 value < 32768 := by
  have bound := Int.bmod_lt (x := value) (m := 2 ^ 16) (by decide)
  exact bound

private theorem umqttProcessLoop_safe_iff (scratch : Scratch) (fuel : Nat) :
    ∀ (call : Nat) {conn : UmqttConnection} {buf : List UInt8} (_ : conn.rxbuff.Valid)
      (_ : buf.length = 5) (_ : conn.rxbuff.datalen ≤ fuel),
      AllSafe (umqttProcessLoop scratch fuel call conn buf).events ↔
        SafeStream conn.rxbuff.contents := by
  induction fuel with
  | zero =>
      intro call conn buf _ _ enough
      have short : conn.rxbuff.contents.length < 2 := by
        rw [UmqttCircBuffer.contents_length]
        omega
      simp [umqttProcessLoop, SafeStream.few short]
  | succ fuel inductionHypothesis =>
      intro call conn buf valid size enough
      by_cases few : conn.rxbuff.datalen < 2
      · have short : conn.rxbuff.contents.length < 2 := by
          rw [UmqttCircBuffer.contents_length]
          exact few
        rw [umqttProcessLoop_stops scratch _ call few]
        simp [SafeStream.few short]
      · obtain ⟨header, bytes, nonempty, stored⟩ := exists_two_bytes conn (by omega)
        generalize decoded : umqttDecodeLength 16 (lengthBytes 4 bytes ++
          (buf.drop ((lengthBytes 4 bytes).length + 1) ++ scratch.afterBuf)) = result
        rcases result with ⟨len, reads⟩
        obtain ⟨next, nextBuf, headerEvents, nextSize, _, nextValid, _, nextContents, fewer, _,
            headerSafe, unfolded⟩ :=
          umqttProcessLoop_step scratch fuel call valid size nonempty stored rfl rfl decoded
        have rest := inductionHypothesis (call + 1) nextValid nextSize
          (by omega : next.rxbuff.datalen ≤ fuel)
        have header : AllSafe headerEvents := headerSafe
        rw [unfolded, stored]
        simp only [allSafe_append, header, true_and, rest, nextContents]
        by_cases complete : CompleteField (lengthBytes 4 bytes)
        · have value := umqttDecodeLength_complete 16 complete
            (buf.drop ((lengthBytes 4 bytes).length + 1) ++ scratch.afterBuf)
          obtain ⟨length, rfl⟩ := Prod.mk.inj (value.symm.trans decoded)
          have fieldShort := lengthBytes_length_le 4 bytes
          have small : len < 32768 := length ▸ cInt_lt _
          have readInside : (MemoryEvent.access .buf 5 1 (lengthBytes 4 bytes).length).Safe :=
            Or.inr (by omega)
          have split := lengthBytes_append_drop 4 bytes
          conv_rhs => rw [← split]
          rw [safeStream_packet_iff complete fieldShort length, allSafe_cons,
            packetEvents_safe_iff _ _ small]
          simp only [readInside, true_and]
        · simp only [not_safe_of_incomplete complete decoded, false_and,
            not_safeStream_of_incomplete nonempty complete]

theorem umqttProcess_safe_iff (scratch : Scratch) {conn : UmqttConnection}
    (valid : conn.rxbuff.Valid) :
    AllSafe (umqttProcess scratch conn).events ↔ SafeStream conn.rxbuff.contents :=
  umqttProcessLoop_safe_iff scratch _ 0 valid scratch.bufSize (Nat.le_refl _)

/-! ## Deliveries -/

/-- The bytes in the receive ring once a delivery has been pushed. -/
def bytesAfterPush (conn : UmqttConnection) (data : List UInt8) (len : UInt8) : List UInt8 :=
  conn.rxbuff.contents ++ (data.take len.toNat).take (rxBuffSize - conn.rxbuff.datalen)

private theorem mqttClientReceive_safe_iff {conn : UmqttConnection} (ready : RxReady conn)
    (scratch : Scratch) (data : List UInt8) (len : UInt8) :
    AllSafe (mqttClientReceive scratch conn data len).events ↔
      SafeStream (bytesAfterPush conn data len) := by
  obtain ⟨pushValid, _, _, pushContents, _⟩ :=
    umqttCircPush_spec ready.valid (data.take len.toNat)
  rw [mqttClientReceive, umqttProcess_safe_iff scratch pushValid, pushContents, ready.capacity]
  rfl

/-- **When the receive path is memory safe.** In every state reached from
`MQTT_CLIENT_connect`, a delivery is processed without an access outside an
array, a declaration of no cells or a body that is not there exactly when the
bytes then in the ring are a safe stream. -/
theorem receive_memorySafe_iff {initial : UmqttConnection} (storage : HasStorage initial)
    (ops : List ClientOp) (scratch : Scratch) (data : List UInt8) (len : UInt8) :
    AllSafe
        (mqttClientReceive scratch (runOps initial (ClientOp.connect :: ops)) data len).events ↔
      SafeStream (bytesAfterPush (runOps initial (ClientOp.connect :: ops)) data len) :=
  mqttClientReceive_safe_iff (runOps_connect_rxReady storage ops) scratch data len

theorem receive_memorySafe_iff_connack :
    AllSafe (mqttClientReceive Scratch.zeros
        (runOps (umqttConn ⟨[99, 49], by decide⟩) [.connect]) [0x20, 2, 0, 0] 4).events ↔
      SafeStream (bytesAfterPush
        (runOps (umqttConn ⟨[99, 49], by decide⟩) [.connect]) [0x20, 2, 0, 0] 4) :=
  receive_memorySafe_iff (umqttConn_hasStorage _) [] Scratch.zeros _ _

/-- A PUBLISH header with an empty body declares an array of no cells. -/
theorem receive_empty_publish_unsafe :
    ¬ AllSafe (mqttClientReceive Scratch.zeros
      (runOps (umqttConn ⟨[99, 49], by decide⟩) [.connect]) [0x30, 0] 2).events := by
  intro safe
  have declared : MemoryEvent.declare .data 0 ∈ (mqttClientReceive Scratch.zeros
      (runOps (umqttConn ⟨[99, 49], by decide⟩) [.connect]) [0x30, 0] 2).events := by
    decide +kernel
  exact absurd (safe _ declared) (by decide)

end MicrochipDay.MqttClient
