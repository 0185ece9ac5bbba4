import MicrochipDay.Library.Mqtt.RemainingLength

/-!
Owns the MQTT 3.1.1 control packets that a client sends: their reference
decoder, written from the standard's packet layouts, and the framing lemmas
that reduce decoding a byte string to decoding the body of one packet.

The decoder checks the layout of a packet, its flags and its quality of service, not
what else the standard demands of the fields: a packet identifier of zero, say, is
read as any other. Does not own any encoder: a program under verification brings its own.
-/

namespace MicrochipDay.Library.Mqtt

/-! ## Fields -/

def readWord : List UInt8 → Option (Nat × List UInt8)
  | high :: low :: rest => some (high.toNat * 256 + low.toNat, rest)
  | _ => none

/-- A string or binary field: its length as a word, then that many bytes. -/
def readString (bytes : List UInt8) : Option (List UInt8 × List UInt8) :=
  (readWord bytes).bind fun result =>
    if result.2.length < result.1 then none
    else some (result.2.take result.1, result.2.drop result.1)

/-- A field that is present only under a flag. -/
def readWhen {Value : Type*} (present : Bool)
    (read : List UInt8 → Option (Value × List UInt8)) (bytes : List UInt8) :
    Option (Option Value × List UInt8) :=
  if present then (read bytes).map fun result => (some result.1, result.2)
  else some (none, bytes)

def wordBytes (value : Nat) : List UInt8 := [UInt8.ofNat (value / 256), UInt8.ofNat value]

@[simp] theorem wordBytes_length (value : Nat) : (wordBytes value).length = 2 := rfl

theorem readWord_wordBytes {value : Nat} (bounded : value < 65536) (rest : List UInt8) :
    readWord (wordBytes value ++ rest) = some (value, rest) := by
  simp only [wordBytes, List.cons_append, List.nil_append, readWord, UInt8.toNat_ofNat',
    Nat.reducePow, Option.some.injEq, Prod.mk.injEq, and_true]
  omega

theorem readString_wordBytes {text : List UInt8} (bounded : text.length < 65536)
    (rest : List UInt8) :
    readString (wordBytes text.length ++ (text ++ rest)) = some (text, rest) := by
  simp [readString, readWord_wordBytes bounded]

/-! ## Packets a client sends -/

structure Will where
  qos : Nat
  retain : Bool
  topic : List UInt8
  message : List UInt8
deriving DecidableEq, Repr

/-- Variable header and payload of a CONNECT packet. -/
structure Connect where
  protocolName : List UInt8
  protocolLevel : UInt8
  cleanSession : Bool
  keepAlive : Nat
  clientId : List UInt8
  will : Option Will
  userName : Option (List UInt8)
  password : Option (List UInt8)
deriving DecidableEq, Repr

/-- A PUBLISH packet; `packetId` is present for QoS 1 and 2. -/
structure Publish where
  duplicate : Bool
  qos : Nat
  retain : Bool
  topic : List UInt8
  packetId : Option Nat
  payload : List UInt8
deriving DecidableEq, Repr

/-- A SUBSCRIBE packet: topic filters with the requested QoS. -/
structure Subscribe where
  packetId : Nat
  filters : List (List UInt8 × Nat)
deriving DecidableEq, Repr

inductive ControlPacket where
  | connect (packet : Connect)
  | publish (packet : Publish)
  | subscribe (packet : Subscribe)
  | pingreq
deriving DecidableEq, Repr

/-! ## Reference decoder -/

def flag (flags index : Nat) : Bool := flags / 2 ^ index % 2 == 1

def readWill (flags : Nat) (bytes : List UInt8) : Option (Will × List UInt8) := do
  let (topic, bytes) ← readString bytes
  let (message, bytes) ← readString bytes
  let qos := flags / 8 % 4
  if qos = 3 then none
  else some ({ qos := qos, retain := flag flags 5, topic := topic, message := message }, bytes)

def decodeConnect (body : List UInt8) : Option Connect := do
  let (protocolName, body) ← readString body
  match body with
  | level :: flagByte :: body =>
      let flags := flagByte.toNat
      let (keepAlive, body) ← readWord body
      let (clientId, body) ← readString body
      let (will, body) ← readWhen (flag flags 2) (readWill flags) body
      let (userName, body) ← readWhen (flag flags 7) readString body
      let (password, body) ← readWhen (flag flags 6) readString body
      if flag flags 0 ∨ body ≠ [] then none
      else
        some
          { protocolName := protocolName, protocolLevel := level
            cleanSession := flag flags 1, keepAlive := keepAlive, clientId := clientId
            will := will, userName := userName, password := password }
  | _ => none

/-- Body of a PUBLISH packet (section 3.3) under its header flags. -/
def decodePublish (flags : Nat) (body : List UInt8) : Option Publish := do
  let qos := flags / 2 % 4
  let (topic, body) ← readString body
  let (packetId, body) ← readWhen (qos ≠ 0) readWord body
  if qos = 3 then none
  else
    some
      { duplicate := flag flags 3, qos := qos, retain := flag flags 0
        topic := topic, packetId := packetId, payload := body }

/-- Topic filters up to the end of the body; `fuel` bounds their number. -/
def decodeFilters : Nat → List UInt8 → Option (List (List UInt8 × Nat))
  | _, [] => some []
  | 0, _ :: _ => none
  | fuel + 1, bytes => do
      let (topic, bytes) ← readString bytes
      match bytes with
      | qos :: bytes =>
          if qos.toNat > 2 then none
          else do
            let filters ← decodeFilters fuel bytes
            some ((topic, qos.toNat) :: filters)
      | [] => none

/-- Body of a SUBSCRIBE packet (section 3.8): at least one topic filter. -/
def decodeSubscribe (body : List UInt8) : Option Subscribe := do
  let (packetId, body) ← readWord body
  let filters ← decodeFilters body.length body
  if filters = [] then none
  else some { packetId := packetId, filters := filters }

/-- Body of a packet by the type and the flags of its fixed header. -/
def decodeBody (kind flags : Nat) (body : List UInt8) : Option ControlPacket :=
  if kind = 1 ∧ flags = 0 then (decodeConnect body).map .connect
  else if kind = 3 then (decodePublish flags body).map .publish
  else if kind = 8 ∧ flags = 2 then (decodeSubscribe body).map .subscribe
  else if kind = 12 ∧ flags = 0 ∧ body = [] then some .pingreq
  else none

/-- Decode one packet from the front of a byte string and return the rest. -/
def decode : List UInt8 → Option (ControlPacket × List UInt8)
  | [] => none
  | header :: bytes =>
      (decodeRemainingLength bytes).bind fun result =>
        if result.2.length < result.1 then none
        else
          (decodeBody (header.toNat / 16) (header.toNat % 16) (result.2.take result.1)).map
            fun packet => (packet, result.2.drop result.1)

/-! ## Framing -/

/-- A packet on the wire: fixed header, remaining length, body. -/
def frame (header : UInt8) (body : List UInt8) : List UInt8 :=
  header :: (encodeRemainingLength body.length ++ body)

theorem frame_length (header : UInt8) (body : List UInt8) :
    (frame header body).length =
      1 + (encodeRemainingLength body.length).length + body.length := by
  simp only [frame, List.length_cons, List.length_append]
  omega

theorem decode_frame {header : UInt8} {body : List UInt8} {packet : ControlPacket}
    (bounded : body.length < 128 ^ 4)
    (decoded : decodeBody (header.toNat / 16) (header.toNat % 16) body = some packet) :
    decode (frame header body) = some (packet, []) := by
  rw [frame, decode, decodeRemainingLength_encode bounded]
  simp [decoded]

theorem decode_cut_frame {header : UInt8} {length : Nat} {body : List UInt8}
    (bounded : length < 128 ^ 4) (short : body.length < length) :
    decode (header :: (encodeRemainingLength length ++ body)) = none := by
  rw [decode, decodeRemainingLength_encode bounded]
  simp [short]

theorem decodeBody_connect {body : List UInt8} {packet : Connect}
    (decoded : decodeConnect body = some packet) :
    decodeBody 1 0 body = some (.connect packet) := by
  simp [decodeBody, decoded]

theorem decodeBody_publish {flags : Nat} {body : List UInt8} {packet : Publish}
    (decoded : decodePublish flags body = some packet) :
    decodeBody 3 flags body = some (.publish packet) := by
  simp [decodeBody, decoded]

theorem decodeBody_subscribe {body : List UInt8} {packet : Subscribe}
    (decoded : decodeSubscribe body = some packet) :
    decodeBody 8 2 body = some (.subscribe packet) := by
  simp [decodeBody, decoded]

theorem decodePublish_qosZero {topic : List UInt8} (bounded : topic.length < 65536)
    (payload : List UInt8) :
    decodePublish 0 (wordBytes topic.length ++ (topic ++ payload)) =
      some
        { duplicate := false, qos := 0, retain := false
          topic := topic, packetId := none, payload := payload } := by
  simp [decodePublish, readString_wordBytes bounded, readWhen, flag]

theorem decodeSubscribe_single {packetId : Nat} (idBounded : packetId < 65536)
    {topic : List UInt8} (bounded : topic.length < 65536) {qos : UInt8} (known : qos.toNat ≤ 2) :
    decodeSubscribe (wordBytes packetId ++ (wordBytes topic.length ++ (topic ++ [qos]))) =
      some { packetId := packetId, filters := [(topic, qos.toNat)] } := by
  have oneFilter : ∀ fuel,
      decodeFilters (fuel + 1) (wordBytes topic.length ++ (topic ++ [qos])) =
        some [(topic, qos.toNat)] := by
    intro fuel
    have notHigh : ¬ qos.toNat > 2 := by omega
    rw [decodeFilters]
    · simp [readString_wordBytes bounded, notHigh, decodeFilters]
    · simp [wordBytes]
  have fuel : (wordBytes topic.length ++ (topic ++ [qos])).length = topic.length + 2 + 1 := by
    simp only [List.length_append, wordBytes_length, List.length_singleton]
    omega
  simp only [decodeSubscribe, readWord_wordBytes idBounded, Option.bind_eq_bind, Option.bind_some,
    fuel, oneFilter]
  simp

theorem decodeConnect_cleanSession {name clientId : List UInt8} (nameBounded : name.length < 65536)
    (level : UInt8) {keepAlive : Nat} (keepAliveBounded : keepAlive < 65536)
    (bounded : clientId.length < 65536) :
    decodeConnect
        (wordBytes name.length ++ (name ++
          (level :: 2 :: (wordBytes keepAlive ++ (wordBytes clientId.length ++ clientId))))) =
      some
        { protocolName := name, protocolLevel := level, cleanSession := true
          keepAlive := keepAlive, clientId := clientId
          will := none, userName := none, password := none } := by
  have clientField := readString_wordBytes bounded []
  rw [List.append_nil] at clientField
  simp [decodeConnect, readString_wordBytes nameBounded, readWord_wordBytes keepAliveBounded,
    clientField, readWhen, flag]

end MicrochipDay.Library.Mqtt
