import MicrochipDay.Umqtt.Process
import MicrochipDay.Library.Mqtt.RemainingLength

/-!
Owns the specification of the receive path in terms of the bytes in the
receive ring: what one iteration of `umqtt_process` takes from them and makes
of them, and what a whole call does to the connection.

The step lemma `umqttProcessLoop_step` is what segmentation, delivery and
memory safety are proved from.
-/

namespace MicrochipDay.Umqtt

open MicrochipDay.Library.Mqtt

/-! ## Writing into an array -/

@[simp] theorem writeAt_nil (array : List UInt8) (index : Nat) :
    writeAt array index [] = array := by
  simp [writeAt]

theorem writeAt_length {array bytes : List UInt8} {index : Nat}
    (inside : index + bytes.length ≤ array.length) :
    (writeAt array index bytes).length = array.length := by
  simp only [writeAt, List.length_append, List.length_take, List.length_drop]
  omega

theorem writeAt_getD_self {array : List UInt8} {index : Nat} (inside : index < array.length)
    (byte : UInt8) : (writeAt array index [byte]).getD index 0 = byte := by
  have position : (array.take index).length = index := by
    rw [List.length_take]
    omega
  simp [writeAt, List.getD_eq_getElem?_getD, position]

theorem writeAt_writeAt {array first : List UInt8} {index : Nat}
    (inside : index + first.length ≤ array.length) (second : List UInt8) :
    writeAt (writeAt array index first) (index + first.length) second =
      writeAt array index (first ++ second) := by
  have front : (array.take index ++ first).length = index + first.length := by
    rw [List.length_append, List.length_take]
    omega
  have kept : (writeAt array index first).take (index + first.length) = array.take index ++ first :=
    List.take_left' front
  have rest : (writeAt array index first).drop (index + first.length + second.length) =
      array.drop (index + (first.length + second.length)) := by
    rw [writeAt, List.drop_append, front, List.drop_eq_nil_of_le (by omega), List.nil_append,
      List.drop_drop]
    congr 1
    omega
  rw [writeAt, kept, rest, writeAt, List.length_append]
  simp only [List.append_assoc]

/-! ## The length bytes -/

/-- The bytes that a reader of at most `count` length bytes takes: up to and
including the first one without a continuation bit. -/
def lengthBytes : Nat → List UInt8 → List UInt8
  | 0, _ => []
  | _ + 1, [] => []
  | count + 1, byte :: rest => byte :: if Continues byte then lengthBytes count rest else []

theorem lengthBytes_length_le (count : Nat) (bytes : List UInt8) :
    (lengthBytes count bytes).length ≤ count := by
  induction count generalizing bytes with
  | zero => simp [lengthBytes]
  | succ count inductionHypothesis =>
      cases bytes with
      | nil => simp [lengthBytes]
      | cons byte rest =>
          have shorter := inductionHypothesis rest
          rw [lengthBytes]
          split
          · simp only [List.length_cons]
            omega
          · simp

theorem lengthBytes_append_drop (count : Nat) (bytes : List UInt8) :
    lengthBytes count bytes ++ bytes.drop (lengthBytes count bytes).length = bytes := by
  induction count generalizing bytes with
  | zero => simp [lengthBytes]
  | succ count inductionHypothesis =>
      cases bytes with
      | nil => simp [lengthBytes]
      | cons byte rest =>
          rw [lengthBytes]
          split
          · simpa using inductionHypothesis rest
          · simp

theorem lengthBytes_of_complete {field : List UInt8} (complete : CompleteField field) {count : Nat}
    (short : field.length ≤ count) (rest : List UInt8) :
    lengthBytes count (field ++ rest) = field := by
  induction field generalizing count with
  | nil => exact complete.elim
  | cons byte field inductionHypothesis =>
      obtain ⟨count, rfl⟩ : ∃ fewer, count = fewer + 1 :=
        ⟨count - 1, by simp only [List.length_cons] at short; omega⟩
      rw [CompleteField] at complete
      rw [List.cons_append, lengthBytes]
      by_cases continues : Continues byte
      · rw [if_pos continues] at complete ⊢
        rw [inductionHypothesis complete (by simpa using short)]
      · rw [if_neg continues] at complete ⊢
        rw [complete]

/-- Without a complete field every byte taken asks for another one, and the reader stopped
because it may take no more or because there are no more. -/
theorem lengthBytes_incomplete {count : Nat} {bytes : List UInt8}
    (incomplete : ¬ CompleteField (lengthBytes count bytes)) :
    (∀ byte ∈ lengthBytes count bytes, Continues byte) ∧
      ((lengthBytes count bytes).length = count ∨ lengthBytes count bytes = bytes) := by
  induction count generalizing bytes with
  | zero => simp [lengthBytes]
  | succ count inductionHypothesis =>
      cases bytes with
      | nil => simp [lengthBytes]
      | cons byte rest =>
          rw [lengthBytes] at incomplete ⊢
          rw [CompleteField] at incomplete
          by_cases continues : Continues byte
          · rw [if_pos continues] at incomplete
            rw [if_pos continues] at incomplete ⊢
            obtain ⟨all, stopped⟩ := inductionHypothesis incomplete
            refine ⟨by simpa [continues] using all, ?_⟩
            rcases stopped with full | exhausted
            · exact Or.inl (by simp [full])
            · exact Or.inr (by rw [exhausted])
          · rw [if_neg continues, if_neg continues] at incomplete
            exact absurd rfl incomplete

/-! ## Reading the header -/

theorem umqttProcessHeaderLoop_spec (fuel : Nat) :
    ∀ {i : Nat} {rxbuff : UmqttCircBuffer} {buf : List UInt8} (_ : i + fuel = 5) (_ : 0 < i)
      (_ : rxbuff.Valid) (_ : buf.length = 5),
      let result := umqttProcessHeaderLoop fuel i rxbuff buf
      let taken := if Continues (buf.getD (i - 1) 0) then lengthBytes fuel rxbuff.contents else []
      result.rxbuff.Valid ∧ result.rxbuff.length = rxbuff.length ∧
      result.rxbuff.contents = rxbuff.contents.drop taken.length ∧
      result.buf = writeAt buf i taken ∧ result.popped = taken ∧
      ∀ event ∈ result.events, event.Safe := by
  induction fuel with
  | zero =>
      intro i rxbuff buf position _ valid _
      simp [umqttProcessHeaderLoop, lengthBytes, valid, MemoryEvent.Safe]
      omega
  | succ fuel inductionHypothesis =>
      intro i rxbuff buf position positive valid size
      simp only [umqttProcessHeaderLoop, and_128_ne_zero_iff]
      by_cases continues : Continues (buf.getD (i - 1) 0)
      · simp only [if_pos continues]
        have popValid := umqttCircPop_valid valid 1
        have popContents := umqttCircPop_contents valid 1
        have popBytes := umqttCircPop_bytes valid 1
        have popLength := umqttCircPop_length valid 1
        have readInside : (MemoryEvent.access .buf 5 (i - 1) 1).Safe := Or.inr (by omega)
        rcases stored : rxbuff.contents with - | ⟨byte, rest⟩
        · -- the ring is empty: the rest of the loop only reads stale cells of `buf`
          rw [stored, List.take_nil] at popBytes
          rw [stored, List.drop_nil] at popContents
          obtain ⟨stillValid, sameLength, contents, sameBuf, popped, safe⟩ :=
            inductionHypothesis (by omega : i + 1 + fuel = 5) (by omega) popValid size
          have nothing : lengthBytes fuel ([] : List UInt8) = [] := by cases fuel <;> rfl
          simp only [popContents, nothing, ite_self, List.drop_nil, writeAt_nil]
            at contents sameBuf popped
          have nothingWritten : (MemoryEvent.access .buf 5 i 0).Safe := Or.inl rfl
          rw [popBytes, writeAt_nil]
          refine ⟨stillValid, sameLength.trans popLength, ?_, ?_, ?_, ?_⟩
          · simpa using contents
          · simpa [lengthBytes] using sameBuf
          · simpa [lengthBytes] using popped
          · simpa [readInside, nothingWritten] using safe
        · rw [stored] at popBytes popContents
          have taken : List.take 1 (byte :: rest) = [byte] := rfl
          rw [taken] at popBytes
          have writtenSize : (writeAt buf i [byte]).length = 5 := by
            rw [writeAt_length (by rw [List.length_singleton]; omega), size]
          have last : (writeAt buf i [byte]).getD (i + 1 - 1) 0 = byte :=
            writeAt_getD_self (by omega) byte
          obtain ⟨stillValid, sameLength, contents, written, popped, safe⟩ :=
            inductionHypothesis (by omega : i + 1 + fuel = 5) (by omega) popValid writtenSize
          rw [last, popContents] at contents written popped
          rw [popBytes, lengthBytes]
          refine ⟨stillValid, sameLength.trans popLength, ?_, ?_, ?_, ?_⟩
          · exact contents
          · rw [written]
            exact writeAt_writeAt (by rw [List.length_singleton]; omega) _
          · rw [popped]
            rfl
          · have writeInside : (MemoryEvent.access .buf 5 i 1).Safe := Or.inr (by omega)
            simpa [readInside, writeInside] using safe
      · simp only [if_neg continues]
        have readInside : (MemoryEvent.access .buf 5 (i - 1) 1).Safe := Or.inr (by omega)
        simpa [valid] using readInside

/-- The fixed bytes and the length bytes go from the ring into `buf`. -/
private theorem readHeader_spec {rxbuff : UmqttCircBuffer} {buf : List UInt8}
    (valid : rxbuff.Valid) (size : buf.length = 5) {header first : UInt8} {more : List UInt8}
    (stored : rxbuff.contents = header :: first :: more) :
    let fixed := umqttCircPop rxbuff 2
    let result := umqttProcessHeaderLoop 3 2 fixed.1 (writeAt buf 0 fixed.2)
    let field := lengthBytes 4 (first :: more)
    result.rxbuff.Valid ∧ result.rxbuff.length = rxbuff.length ∧
      result.rxbuff.contents = (first :: more).drop field.length ∧
      result.buf = writeAt buf 0 (header :: field) ∧
      fixed.2 = [header, first] ∧ fixed.2 ++ result.popped = header :: field ∧
      ∀ event ∈ result.events, event.Safe := by
  have fixedBytes : (umqttCircPop rxbuff 2).2 = [header, first] := by
    rw [umqttCircPop_bytes valid 2, stored]
    rfl
  have fixedContents : (umqttCircPop rxbuff 2).1.contents = more := by
    rw [umqttCircPop_contents valid 2, stored]
    rfl
  have fixedSize : (writeAt buf 0 [header, first]).length = 5 := by
    rw [writeAt_length (by simp [size]), size]
  have last : (writeAt buf 0 [header, first]).getD (2 - 1) 0 = first := rfl
  obtain ⟨headerValid, headerLength, headerContents, headerBuf, headerPopped, headerSafe⟩ :=
    umqttProcessHeaderLoop_spec 3 (i := 2) (by omega) (by omega) (umqttCircPop_valid valid 2)
      fixedSize
  rw [last, fixedContents] at headerContents headerBuf headerPopped
  dsimp only
  rw [fixedBytes]
  refine ⟨headerValid, headerLength.trans (umqttCircPop_length valid 2), ?_, ?_, rfl, ?_,
    headerSafe⟩
  · rw [headerContents, lengthBytes]
    rfl
  · rw [headerBuf, lengthBytes]
    exact writeAt_writeAt (by simp [size]) _
  · rw [headerPopped, lengthBytes]
    rfl

/-! ## The remaining length -/

/-- On a complete field the decoder reads the field and returns its value, in
the arithmetic of the platform's `int`. -/
theorem umqttDecodeLengthLoop_complete (bits : Nat) {field : List UInt8}
    (complete : CompleteField field) (mul val : Int) (behind : List UInt8) :
    umqttDecodeLengthLoop bits mul val (field ++ behind) =
      (cInt bits (val + mul * fieldValue field), field.length) := by
  induction field generalizing mul val with
  | nil => exact complete.elim
  | cons byte field inductionHypothesis =>
      rw [CompleteField] at complete
      rw [List.cons_append, umqttDecodeLengthLoop]
      simp only [and_128_ne_zero_iff, and_127, fieldValue]
      by_cases continues : Continues byte
      · rw [if_pos continues] at complete
        rw [if_pos continues, inductionHypothesis complete]
        simp only [cInt, List.length_cons, Prod.mk.injEq, and_true]
        have unfolded : val + mul * ((digit byte + 128 * fieldValue field : Nat) : Int) =
            val + digit byte * mul + mul * 128 * fieldValue field := by
          push_cast
          ring
        rw [unfolded, Int.add_bmod, Int.bmod_bmod, Int.bmod_mul_bmod, ← Int.add_bmod,
          Int.add_right_comm val, Int.add_bmod_bmod, Int.add_right_comm val]
      · rw [if_neg continues] at complete
        subst complete
        rw [if_neg continues]
        simp only [cInt, fieldValue, List.length_singleton, Prod.mk.injEq, and_true]
        rw [Int.add_bmod_bmod, Int.mul_comm mul]
        simp

theorem umqttDecodeLength_complete (bits : Nat) {field : List UInt8}
    (complete : CompleteField field) (behind : List UInt8) :
    umqttDecodeLength bits (field ++ behind) = (cInt bits (fieldValue field), field.length) := by
  rw [umqttDecodeLength, umqttDecodeLengthLoop_complete bits complete, Int.one_mul, Int.zero_add]

theorem umqttDecodeLengthLoop_reads (bits : Nat) {field : List UInt8}
    (all : ∀ byte ∈ field, Continues byte) (mul val : Int) (behind : List UInt8) :
    field.length < (umqttDecodeLengthLoop bits mul val (field ++ behind)).2 := by
  induction field generalizing mul val with
  | nil =>
      cases behind with
      | nil => simp [umqttDecodeLengthLoop]
      | cons byte behind =>
          rw [List.nil_append, umqttDecodeLengthLoop]
          split <;> simp
  | cons byte field inductionHypothesis =>
      have continues : Continues byte := all byte (by simp)
      rw [List.cons_append, umqttDecodeLengthLoop]
      simp only [and_128_ne_zero_iff, if_pos continues, List.length_cons, Nat.add_lt_add_iff_right]
      exact inductionHypothesis (fun other member => all other (by simp [member])) _ _

/-! ## One packet -/

def arrivalOf (junk : Nat → UInt8) (header : UInt8) (len : Int) (body : List UInt8) : Arrival :=
  let type := umqttHeaderType header
  if type = umqttConnackType then .connack (bodyCell junk body 1)
  else if type = umqttSubackType then .suback
  else if type = umqttPingrespType then .pingresp
  else if type = umqttPublishType then .publish (umqttHandlePublish (bodyCell junk body) len).1
  else .unknown

/-- What an arrival does to the fields of the connection. -/
def Arrival.update (conn : UmqttConnection) : Arrival → UmqttConnection
  | .connack code => { conn with state := if code = 0 then .connected else .failed }
  | .suback => { conn with nackSubscribe := cInt 16 (conn.nackSubscribe - 1) }
  | .pingresp => { conn with nackPing := cInt 16 (conn.nackPing - 1) }
  | .publish _ => conn
  | .unknown => conn

def packetEvents (junk : Nat → UInt8) (header : UInt8) (len : Int) (left : Nat)
    (body : List UInt8) : List MemoryEvent :=
  let type := umqttHeaderType header
  [.body len left, .declare .data len, .access .data len.toNat 0 body.length] ++
    if type = umqttConnackType then [.access .data len.toNat 1 1]
    else if type = umqttPublishType then (umqttHandlePublish (bodyCell junk body) len).2
    else []

theorem umqttPacketArrived_eq (junk : Nat → UInt8) (conn : UmqttConnection) (header : UInt8)
    (len : Int) :
    umqttPacketArrived junk conn header len =
      let popped := umqttCircPop conn.rxbuff len.toNat
      let arrival := arrivalOf junk header len popped.2
      { conn := arrival.update { conn with rxbuff := popped.1 }
        popped := popped.2
        arrival := arrival
        events := packetEvents junk header len conn.rxbuff.datalen popped.2 } := by
  have distinct : umqttSubackType ≠ umqttPublishType ∧ umqttPingrespType ≠ umqttPublishType := by
    decide
  simp only [umqttPacketArrived, arrivalOf, packetEvents]
  by_cases connack : umqttHeaderType header = umqttConnackType
  · simp only [if_pos connack]
    by_cases accepted : bodyCell junk (umqttCircPop conn.rxbuff len.toNat).2 1 = 0
    · simp only [accepted, if_true, Arrival.update]
    · simp only [if_neg accepted, Arrival.update]
  · simp only [if_neg connack]
    by_cases suback : umqttHeaderType header = umqttSubackType
    · simp [suback, distinct, Arrival.update]
    · by_cases pingresp : umqttHeaderType header = umqttPingrespType
      · have notPublish : umqttHeaderType header ≠ umqttPublishType := by
          rw [pingresp]
          exact distinct.2
        simp only [if_neg suback, if_pos pingresp, if_neg notPublish, Arrival.update,
          List.append_nil]
      · simp only [if_neg suback, if_neg pingresp]
        split <;> simp [Arrival.update]

section Update

variable (arrival : Arrival) (conn : UmqttConnection)

@[simp] theorem Arrival.update_rxbuff : (arrival.update conn).rxbuff = conn.rxbuff := by
  cases arrival <;> rfl

@[simp] theorem Arrival.update_txbuff : (arrival.update conn).txbuff = conn.txbuff := by
  cases arrival <;> rfl

end Update

/-! ## One iteration -/

section Step

variable (scratch : Scratch) (fuel call : Nat) {conn : UmqttConnection} {buf : List UInt8}

/-- One iteration of `umqtt_process` on a ring that holds `header :: bytes`:
it takes the length bytes `field`, decodes `len` from `buf`, and hands the next
`len` bytes of the ring to `umqtt_packet_arrived`. -/
theorem umqttProcessLoop_step (valid : conn.rxbuff.Valid) (size : buf.length = 5)
    {header : UInt8} {bytes : List UInt8} (nonempty : bytes ≠ [])
    (stored : conn.rxbuff.contents = header :: bytes)
    {field after : List UInt8} (fieldTaken : lengthBytes 4 bytes = field)
    (afterField : bytes.drop field.length = after) {len : Int} {reads : Nat}
    (decoded : umqttDecodeLength 16 (field ++ (buf.drop (field.length + 1) ++ scratch.afterBuf)) =
      (len, reads)) :
    ∃ (next : UmqttConnection) (nextBuf : List UInt8) (headerEvents : List MemoryEvent),
      nextBuf.length = 5 ∧ nextBuf = writeAt buf 0 (header :: field) ∧
      next.rxbuff.Valid ∧ next.rxbuff.length = conn.rxbuff.length ∧
      next.rxbuff.contents = after.drop len.toNat ∧
      next.rxbuff.datalen < conn.rxbuff.datalen ∧
      next = (arrivalOf (scratch.data call) header len (after.take len.toNat)).update
        { conn with rxbuff := next.rxbuff } ∧
      (∀ event ∈ headerEvents, event.Safe) ∧
      umqttProcessLoop scratch (fuel + 1) call conn buf =
        let rest := umqttProcessLoop scratch fuel (call + 1) next nextBuf
        { conn := rest.conn
          popped := header :: (field ++ after.take len.toNat) ++ rest.popped
          arrivals := arrivalOf (scratch.data call) header len (after.take len.toNat) ::
            rest.arrivals
          events := headerEvents ++ (.access .buf 5 1 reads ::
            packetEvents (scratch.data call) header len after.length (after.take len.toNat)) ++
            rest.events } := by
  obtain ⟨first, more, rfl⟩ := List.exists_cons_of_ne_nil nonempty
  have enough : conn.rxbuff.datalen ≥ 2 := by
    rw [← UmqttCircBuffer.contents_length, stored]
    simp
  have fieldShort : field.length ≤ 4 := by
    rw [← fieldTaken]
    exact lengthBytes_length_le 4 (first :: more)
  obtain ⟨headerValid, headerLength, left, bufCells, fixedBytes, poppedField, headerSafe⟩ :=
    readHeader_spec valid size stored
  rw [fieldTaken] at left bufCells poppedField
  rw [afterField] at left
  generalize headerEq : umqttProcessHeaderLoop 3 2 (umqttCircPop conn.rxbuff 2).1
    (writeAt buf 0 (umqttCircPop conn.rxbuff 2).2) = headerResult at *
  have fieldCells : headerResult.buf.drop 1 ++ scratch.afterBuf =
      field ++ (buf.drop (field.length + 1) ++ scratch.afterBuf) := by
    simp [bufCells, writeAt]
  have headerCell : headerResult.buf.getD 0 0 = header := by
    simp [bufCells, writeAt]
  have packetBytes := umqttCircPop_bytes headerValid len.toNat
  rw [left] at packetBytes
  have leftCount : headerResult.rxbuff.datalen = after.length := by
    rw [← UmqttCircBuffer.contents_length, left]
  refine ⟨(arrivalOf (scratch.data call) header len (after.take len.toNat)).update
      { conn with rxbuff := (umqttCircPop headerResult.rxbuff len.toNat).1 },
    headerResult.buf, .access .buf 5 0 2 :: headerResult.events, ?_, bufCells, ?_, ?_, ?_, ?_, ?_,
    ?_, ?_⟩
  · rw [bufCells, writeAt_length (by rw [List.length_cons]; omega), size]
  · rw [Arrival.update_rxbuff]
    exact umqttCircPop_valid headerValid _
  · rw [Arrival.update_rxbuff]
    exact (umqttCircPop_length headerValid _).trans headerLength
  · rw [Arrival.update_rxbuff]
    exact (umqttCircPop_contents headerValid _).trans (by rw [left])
  · have count := UmqttCircBuffer.contents_length conn.rxbuff
    have field := congrArg List.length (lengthBytes_append_drop 4 (first :: more))
    rw [stored, List.length_cons] at count
    rw [fieldTaken, afterField, List.length_append] at field
    rw [Arrival.update_rxbuff, umqttCircPop_datalen headerValid, leftCount]
    omega
  · rw [Arrival.update_rxbuff]
  · have fixedInside : (MemoryEvent.access .buf 5 0 2).Safe := Or.inr (by decide)
    simpa [fixedInside] using headerSafe
  · rw [umqttProcessLoop, if_pos enough]
    simp only [headerEq, fieldCells, headerCell, decoded, umqttPacketArrived_eq, packetBytes,
      leftCount, ← List.cons_append, ← poppedField]
    simp [fixedBytes]

theorem umqttProcessLoop_stops (few : conn.rxbuff.datalen < 2) :
    umqttProcessLoop scratch fuel call conn buf = ⟨conn, [], [], []⟩ := by
  cases fuel with
  | zero => rfl
  | succ fuel => rw [umqttProcessLoop, if_neg (by omega)]

end Step

/-! ## A whole call -/

def updateAll (conn : UmqttConnection) (arrivals : List Arrival) : UmqttConnection :=
  arrivals.foldl Arrival.update conn

theorem updateAll_state_congr {first second : UmqttConnection}
    (same : first.state = second.state) (arrivals : List Arrival) :
    (updateAll first arrivals).state = (updateAll second arrivals).state := by
  induction arrivals generalizing first second with
  | nil => exact same
  | cons arrival arrivals inductionHypothesis =>
      apply inductionHypothesis
      cases arrival <;> first | exact same | rfl

private theorem updateAll_cons {conn next final : UmqttConnection} {arrival : Arrival}
    {arrivals : List Arrival} (first : next = arrival.update { conn with rxbuff := next.rxbuff })
    (rest : final = updateAll { next with rxbuff := final.rxbuff } arrivals) :
    final = updateAll { conn with rxbuff := final.rxbuff } (arrival :: arrivals) := by
  have replaced : { next with rxbuff := final.rxbuff } =
      arrival.update { conn with rxbuff := final.rxbuff } := by
    rw [first]
    cases arrival <;> rfl
  rw [replaced] at rest
  exact rest

/-- The receive path changes the connection only through its ring and the
packets that arrive. -/
theorem umqttProcessLoop_updated (scratch : Scratch) (fuel call : Nat) (conn : UmqttConnection)
    (buf : List UInt8) :
    let result := umqttProcessLoop scratch fuel call conn buf
    result.conn = updateAll { conn with rxbuff := result.conn.rxbuff } result.arrivals := by
  induction fuel generalizing call conn buf with
  | zero => rfl
  | succ fuel inductionHypothesis =>
      rw [umqttProcessLoop]
      split
      · exact updateAll_cons (by rw [umqttPacketArrived_eq, Arrival.update_rxbuff])
          (inductionHypothesis _ _ _)
      · rfl

theorem umqttProcess_updated (scratch : Scratch) (conn : UmqttConnection) :
    let result := umqttProcess scratch conn
    result.conn = updateAll { conn with rxbuff := result.conn.rxbuff } result.arrivals :=
  umqttProcessLoop_updated scratch _ 0 conn scratch.buf

theorem umqttProcess_state (scratch : Scratch) (conn : UmqttConnection) :
    (umqttProcess scratch conn).conn.state =
      (updateAll conn (umqttProcess scratch conn).arrivals).state := by
  have updated := congrArg UmqttConnection.state (umqttProcess_updated scratch conn)
  refine updated.trans (updateAll_state_congr ?_ _)
  rfl

/-- What a call of `umqtt_process` guarantees on any input. -/
structure ProcessSpec (conn : UmqttConnection) (result : ProcessResult) : Prop where
  valid : result.conn.rxbuff.Valid
  length : result.conn.rxbuff.length = conn.rxbuff.length
  few : result.conn.rxbuff.datalen < 2
  conserved : result.popped ++ result.conn.rxbuff.contents = conn.rxbuff.contents

theorem exists_two_bytes (conn : UmqttConnection) (enough : 2 ≤ conn.rxbuff.datalen) :
    ∃ header bytes, bytes ≠ [] ∧ conn.rxbuff.contents = header :: bytes := by
  have count := UmqttCircBuffer.contents_length conn.rxbuff
  rcases stored : conn.rxbuff.contents with - | ⟨header, - | ⟨first, more⟩⟩
  · rw [stored, List.length_nil] at count
    omega
  · rw [stored, List.length_singleton] at count
    omega
  · exact ⟨header, first :: more, by simp, rfl⟩

theorem umqttProcessLoop_spec (scratch : Scratch) (fuel : Nat) :
    ∀ (call : Nat) {conn : UmqttConnection} {buf : List UInt8} (_ : conn.rxbuff.Valid)
      (_ : buf.length = 5) (_ : conn.rxbuff.datalen ≤ fuel),
      ProcessSpec conn (umqttProcessLoop scratch fuel call conn buf) := by
  induction fuel with
  | zero =>
      intro call conn buf valid _ enough
      exact ⟨valid, rfl, by simp only [umqttProcessLoop]; omega, rfl⟩
  | succ fuel inductionHypothesis =>
      intro call conn buf valid size enough
      by_cases few : conn.rxbuff.datalen < 2
      · rw [umqttProcessLoop_stops scratch _ call few]
        exact ⟨valid, rfl, few, rfl⟩
      · obtain ⟨header, bytes, nonempty, stored⟩ := exists_two_bytes conn (by omega)
        obtain ⟨next, nextBuf, headerEvents, nextSize, _, nextValid, nextLength, nextContents,
            fewer, _, _, unfolded⟩ :=
          umqttProcessLoop_step scratch fuel call valid size nonempty stored rfl rfl
            (Prod.eta _).symm
        have rest := inductionHypothesis (call + 1) nextValid nextSize
          (by omega : next.rxbuff.datalen ≤ fuel)
        rw [unfolded]
        refine ⟨rest.valid, rest.length.trans nextLength, rest.few, ?_⟩
        have field := lengthBytes_append_drop 4 bytes
        have conserved := rest.conserved
        rw [nextContents] at conserved
        simp only [List.append_assoc, List.cons_append, conserved, List.take_append_drop, field,
          stored]

theorem umqttProcess_spec (scratch : Scratch) (conn : UmqttConnection)
    (valid : conn.rxbuff.Valid) : ProcessSpec conn (umqttProcess scratch conn) :=
  umqttProcessLoop_spec scratch _ 0 valid scratch.bufSize (Nat.le_refl _)

section UpdateAll

variable (conn : UmqttConnection) (arrivals : List Arrival)

@[simp] theorem updateAll_rxbuff : (updateAll conn arrivals).rxbuff = conn.rxbuff :=
  List.foldlRecOn arrivals _ (motive := fun next => next.rxbuff = conn.rxbuff) rfl
    fun next same arrival _ => (arrival.update_rxbuff next).trans same

@[simp] theorem updateAll_txbuff : (updateAll conn arrivals).txbuff = conn.txbuff :=
  List.foldlRecOn arrivals _ (motive := fun next => next.txbuff = conn.txbuff) rfl
    fun next same arrival _ => (arrival.update_txbuff next).trans same

end UpdateAll

end MicrochipDay.Umqtt
