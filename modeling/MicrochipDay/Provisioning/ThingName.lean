import MicrochipDay.Cloud.RunTask
import MicrochipDay.Library.Exception
import MicrochipDay.Provisioning.CertificateBuilder

/-!
Owns that a device names itself as it was provisioned: the client id that
`mqttTopicInit` spells from the key that the crypto chip reports is the thing name
that kit_provision.py takes from the certificate of that key.

SHA-1 is one parameter for both sides. Pointers are never null here.
-/

namespace MicrochipDay.Provisioning

open MicrochipDay.Cloud
open MicrochipDay.Library.BigEndian
open MicrochipDay.Library.Exception
open MicrochipDay.Library.Python
open MicrochipDay.Library.Unicode

/-! ## The device -/

/-- What the chip answers to GenKey, by mode and slot: the status of
`atca_execute_command` and the response, from its count byte on. -/
structure CryptoChip where
  genKey : UInt8 → UInt16 → UInt8 × List UInt8

def atcaSuccess : UInt8 := 0

def genkeyModePublic : UInt8 := 0x00

/-- `atcab_genkey_base` without other data: the status, and the memory behind
`public_key`, which is written only where the response carries a key. -/
def atcabGenkeyBase (chip : CryptoChip) (mode : UInt8) (keyId : UInt16) (publicKey : List UInt8) :
    UInt8 × List UInt8 :=
  let (status, response) := chip.genKey mode keyId
  if status ≠ atcaSuccess then (status, publicKey)
  else
    let count := (response.headD 0).toNat
    if count > 4 then
      (status, (response.drop 1).take (count - 3) ++ publicKey.drop (count - 3))
    else (status, publicKey)

def atcabGetPubkey (chip : CryptoChip) (keyId : UInt16) (publicKey : List UInt8) :
    UInt8 × List UInt8 := atcabGenkeyBase chip genkeyModePublic keyId publicKey

def atcacertGetKeyId (sha1 : HashFunction 20) (publicKey : List UInt8) : List UInt8 :=
  sha1.digest (0x04 :: publicKey.take 64)

/-- `read_slot`, which looks at no status; `pubkey` is its array as it finds it. -/
def readSlot (sha1 : HashFunction 20) (chip : CryptoChip) (pubkey : List UInt8) : List UInt8 :=
  atcacertGetKeyId sha1 (atcabGetPubkey chip 0 pubkey).2

/-- `CRYPTO_CLIENT_init`, as far as `key_id_d` goes. -/
def cryptoClientInit (sha1 : HashFunction 20) (chip : CryptoChip) (pubkey : List UInt8)
    (world : World) : World :=
  { world with keyId := readSlot sha1 chip pubkey, keyIdSize := sha1.length _ }

/-- A slot holds a private key with this public key: the response has X and Y
between its count and its checksum. -/
def CryptoChip.Holds (chip : CryptoChip) (slot : UInt16) (key : PublicNumbers) : Prop :=
  ∃ checksum : List UInt8, checksum.length = 2 ∧
    chip.genKey genkeyModePublic slot = (atcaSuccess, 67 :: (key.bytes ++ checksum))

theorem CryptoChip.Holds.atcabGetPubkey {chip : CryptoChip} {slot : UInt16} {key : PublicNumbers}
    (holds : chip.Holds slot key) {memory : List UInt8} (size : memory.length = 64) :
    atcabGetPubkey chip slot memory = (atcaSuccess, key.bytes) := by
  obtain ⟨checksum, -, response⟩ := holds
  have count : ((67 : UInt8).toNat) = 67 := rfl
  have taken : (key.bytes ++ checksum).take 64 = key.bytes := List.take_left' key.bytes_length
  unfold Provisioning.atcabGetPubkey atcabGenkeyBase
  rw [response]
  dsimp only
  rw [if_neg (not_not_intro rfl), List.headD_cons, count, if_pos (by decide), List.drop_one,
    List.tail_cons, taken, List.drop_eq_nil_of_le size.le, List.append_nil]

theorem CryptoChip.Holds.readSlot {chip : CryptoChip} {key : PublicNumbers}
    (holds : chip.Holds 0 key) (sha1 : HashFunction 20) {pubkey : List UInt8}
    (size : pubkey.length = 64) :
    readSlot sha1 chip pubkey = sha1.digest (0x04 :: key.bytes) := by
  unfold Provisioning.readSlot atcacertGetKeyId
  rw [holds.atcabGetPubkey size]
  dsimp only
  rw [List.take_of_length_le key.bytes_length.le]

/-! ### The spelling of the key id -/

theorem numToAscii_digit {digit : Nat} (small : digit < 16) :
    numToAscii (UInt8.ofNat digit) = byteOfPoint (CodePoint.ofChar (Nat.digitChar digit)) := by
  have digits : ∀ digit < 16, numToAscii (UInt8.ofNat digit) =
      byteOfPoint (CodePoint.ofChar (Nat.digitChar digit)) := by decide
  exact digits digit small

/-- The two nibbles of a byte. -/
theorem nibbles (byte : UInt8) :
    (byte &&& 0xf0) >>> 4 = UInt8.ofNat (byte.toNat / 16 % 16) ∧
      byte &&& 0xf = UInt8.ofNat (byte.toNat % 16) := by
  have all : ∀ number < 256, (UInt8.ofNat number &&& 0xf0) >>> 4 = UInt8.ofNat (number / 16 % 16) ∧
      UInt8.ofNat number &&& 0xf = UInt8.ofNat (number % 16) := by decide +kernel
  have own := all byte.toNat byte.toNat_lt
  rwa [UInt8.ofNat_toNat] at own

/-- The loop of `mqttTopicInit` spells what `b2a_hex` spells. -/
theorem flatMap_numToAscii (data : List UInt8) :
    (data.flatMap fun byte : UInt8 =>
      [numToAscii ((byte &&& 0xf0) >>> 4), numToAscii (byte &&& 0xf)]) = b2aHex data := by
  unfold b2aHex hexOfBytes
  rw [List.map_flatMap]
  congr 1
  funext byte
  rw [(nibbles byte).1, (nibbles byte).2, numToAscii_digit (Nat.mod_lt _ (by decide)),
    numToAscii_digit (Nat.mod_lt _ (by decide))]
  rfl

/-! ## The host -/

/-- What is raised: an error of the script with its text, or one of a library. -/
inductive Raised where
  | awsZTKitError (message : String)
  | runtimeError (message : String)
  | library
deriving DecidableEq, Repr

/-- `device_csr`, as `load_der_x509_csr` reads it. -/
structure Csr where
  isSignatureValid : Bool
  publicKey : PublicNumbers
  extensions : List Extension

abbrev KitInfo := List (Text × Value)

/-- The entries of `kit_info` that `main` asks for, each with the script that makes it. -/
def requiredEntries : List (String × String) :=
  [("endpointAddress", "aws_register_signer"), ("wifi_ssid", "kit_set_wifi"),
    ("wifi_password", "kit_set_wifi")]

def checkEntries (kitInfo : KitInfo) : List (String × String) → Except Raised Unit
  | [] => .ok ()
  | (field, script) :: entries =>
      if lookup (Text.ofString field) kitInfo = none then
        .error (.awsZTKitError
          (field ++ " not found in kit-info.json. Have you run " ++ script ++ " yet?"))
      else checkEntries kitInfo entries

/-- `get_extension_for_class(x509.SubjectKeyIdentifier)`: the digest of the first one. -/
def subjectKeyIdentifier : List Extension → Option (List UInt8)
  | [] => none
  | extension :: extensions =>
      match extension.value with
      | .subjectKeyIdentifier digest => some digest
      | .other .. => subjectKeyIdentifier extensions

def raiseLibrary {α : Type} : Option α → Except Raised α
  | some value => .ok value
  | none => .error .library

section KitProvision

variable {sha1 : HashFunction 20} (library : CertificateLibrary sha1) (sha256 : HashFunction 32)

/-- The certificate of the device, before it is signed. -/
def deviceCertificate (now : DateTime) (deviceCsr : Csr) (signerCaCert : List Extension) :
    Except Raised CertificateBuilder := do
  let builder : CertificateBuilder :=
    { notValidBefore := now.onTheHour
      publicKey := deviceCsr.publicKey
      serialNumber := none
      extensions := [] }
  let builder :=
    { builder with serialNumber := ← raiseLibrary (deviceCertSn sha256 16 builder) }
  let builder ← raiseLibrary (builder.addExtensions deviceCsr.extensions)
  let builder ← raiseLibrary (builder.addExtension
    ⟨.subjectKeyIdentifier (library.fromPublicKey builder.publicKey), false⟩)
  let issuerSki ← raiseLibrary (subjectKeyIdentifier signerCaCert)
  raiseLibrary (builder.addExtension
    ⟨.other authorityKeyIdentifierOid (by decide)
      (library.fromIssuerSubjectKeyIdentifier issuerSki), false⟩)

/-- The loop that looks for the subject key ID: `kit_info`, and whether it was found. -/
def storeThingName : List Extension → KitInfo × Bool → Except Raised (KitInfo × Bool)
  | [], stored => .ok stored
  | extension :: extensions, stored =>
      if library.oidName extension.value.oid ≠ Text.ofString "subjectKeyIdentifier" then
        storeThingName extensions stored
      else do
        let digest ← raiseLibrary (match extension.value with
          | .subjectKeyIdentifier digest => some digest
          | .other .. => none)
        let name ← raiseLibrary (decodeAscii (b2aHex digest))
        storeThingName extensions (assign (Text.ofString "thing_name") (.str name) stored.1, true)

/-- `main` of kit_provision.py from the checks of `kit_info` to the thing name: what it
stores, and the certificate. The certificate authority's signature does not change what
is signed. -/
def kitProvision (kitInfo : KitInfo) (now : DateTime) (deviceCsr : Csr)
    (signerCaCert : List Extension) : Except Raised (KitInfo × CertificateBuilder) := do
  checkEntries kitInfo requiredEntries
  if !deviceCsr.isSignatureValid then
    .error (.awsZTKitError "Device CSR has invalid signature.")
  else
    let deviceCert ← deviceCertificate library sha256 now deviceCsr signerCaCert
    let (kitInfo, isSubjectKeyIdFound) ←
      storeThingName library deviceCert.extensions (kitInfo, false)
    if !isSubjectKeyIdFound then
      .error (.runtimeError
        "Could not find the subjectKeyIdentifier extension in the device certificate.")
    else .ok (kitInfo, deviceCert)

end KitProvision

/-! ### What is stored -/

theorem of_raiseLibrary {α : Type} {result : Option α} {value : α}
    (ok : raiseLibrary result = .ok value) : result = some value := by
  cases result with
  | none => contradiction
  | some found => exact congrArg some (Except.ok.inj ok)

theorem addExtension_spec {builder extended : CertificateBuilder} {extension : Extension}
    (added : builder.addExtension extension = some extended) :
    (∀ present ∈ builder.extensions, present.value.oid ≠ extension.value.oid) ∧
      extended = { builder with extensions := builder.extensions ++ [extension] } := by
  unfold CertificateBuilder.addExtension at added
  split at added
  · contradiction
  · next absent =>
      refine ⟨fun present inside same => absent ?_, (Option.some.inj added).symm⟩
      exact List.mem_map.mpr ⟨present, inside, same⟩

theorem addExtensions_publicKey {extensions : List Extension}
    {builder extended : CertificateBuilder}
    (added : builder.addExtensions extensions = some extended) :
    extended.publicKey = builder.publicKey := by
  induction extensions generalizing builder with
  | nil => rw [← Option.some.inj added]
  | cons extension extensions inductionHypothesis =>
      obtain ⟨next, one, rest⟩ := Option.bind_eq_some_iff.mp added
      rw [inductionHypothesis rest, (addExtension_spec one).2]

/-- Every subject key identifier among the extensions has this digest. -/
def Identifies (digest : List UInt8) (extensions : List Extension) : Prop :=
  ∀ extension ∈ extensions, extension.value.oid = subjectKeyIdentifierOid →
    extension.value = .subjectKeyIdentifier digest

section Stored

variable {sha1 : HashFunction 20} {library : CertificateLibrary sha1} {sha256 : HashFunction 32}

/-- A request that brings a subject key identifier of its own gets no certificate, so the
one that is added is the only one. -/
theorem deviceCertificate_identifies {now : DateTime} {deviceCsr : Csr}
    {signerCaCert : List Extension} {certificate : CertificateBuilder}
    (made : deviceCertificate library sha256 now deviceCsr signerCaCert = .ok certificate) :
    Identifies (library.fromPublicKey deviceCsr.publicKey) certificate.extensions := by
  obtain ⟨serialNumber, -, made⟩ := bind_eq_ok.mp made
  obtain ⟨requested, fromCsr, made⟩ := bind_eq_ok.mp made
  obtain ⟨identified, withKey, made⟩ := bind_eq_ok.mp made
  obtain ⟨issuerSki, -, made⟩ := bind_eq_ok.mp made
  have sameKey := addExtensions_publicKey (of_raiseLibrary fromCsr)
  obtain ⟨none, rfl⟩ := addExtension_spec (of_raiseLibrary withKey)
  obtain ⟨-, rfl⟩ := addExtension_spec (of_raiseLibrary made)
  intro extension inside isKey
  simp only [List.mem_append, List.mem_singleton] at inside
  rcases inside with (old | rfl) | rfl
  · exact absurd isKey (none extension old)
  · rw [sameKey]
  · have differs : authorityKeyIdentifierOid ≠ subjectKeyIdentifierOid := by decide
    exact absurd isKey differs

theorem storeThingName_spec {extensions : List Extension} {digest : List UInt8}
    (identifies : Identifies digest extensions) {stored result : KitInfo × Bool}
    (before : stored.2 = true →
      lookup (Text.ofString "thing_name") stored.1 = some (.str (hexOfBytes digest)))
    (ended : storeThingName library extensions stored = .ok result) :
    result.2 = true →
      lookup (Text.ofString "thing_name") result.1 = some (.str (hexOfBytes digest)) := by
  induction extensions generalizing stored with
  | nil => exact Except.ok.inj ended ▸ before
  | cons extension extensions inductionHypothesis =>
      have others : Identifies digest extensions :=
        fun other inside => identifies other (List.mem_cons_of_mem extension inside)
      unfold storeThingName at ended
      split at ended
      · exact inductionHypothesis others before ended
      · next isKey =>
          have own := identifies extension List.mem_cons_self
            ((library.oidName_eq_iff _).mp (not_not.mp isKey))
          rw [own] at ended
          obtain ⟨found, same, ended⟩ := bind_eq_ok.mp ended
          obtain rfl := Except.ok.inj same
          rw [decodeAscii_b2aHex] at ended
          exact inductionHypothesis others (fun _ => lookup_assign _ _ _) ended

theorem kitProvision_thingName {kitInfo : KitInfo} {now : DateTime} {deviceCsr : Csr}
    {signerCaCert : List Extension} {stored : KitInfo × CertificateBuilder}
    (provisioned : kitProvision library sha256 kitInfo now deviceCsr signerCaCert = .ok stored) :
    lookup (Text.ofString "thing_name") stored.1 =
      some (.str (hexOfBytes (sha1.digest (0x04 :: deviceCsr.publicKey.bytes)))) := by
  obtain ⟨-, -, provisioned⟩ := bind_eq_ok.mp provisioned
  split at provisioned
  · contradiction
  · obtain ⟨certificate, made, provisioned⟩ := bind_eq_ok.mp provisioned
    obtain ⟨⟨kitInfo, found⟩, ended, provisioned⟩ := bind_eq_ok.mp provisioned
    dsimp only at provisioned
    split at provisioned
    · contradiction
    · next isFound =>
        have named := storeThingName_spec (deviceCertificate_identifies made)
          (fun found => absurd found Bool.false_ne_true) ended
        rw [library.fromPublicKey_eq] at named
        rw [← Except.ok.inj provisioned]
        exact named (by simpa using isFound)

end Stored

/-! ## The two names -/

/-- `ID_SIZE` and `TOPIC_SIZE`: the bytes of the arrays, the terminating zero included. -/
def idSize : Nat := 41
def topicSize : Nat := 100

theorem b2aHex_noNul (data : List UInt8) : ∀ byte ∈ b2aHex data, byte ≠ 0 := by
  have digits : ∀ digit < 16, byteOfPoint (CodePoint.ofChar (Nat.digitChar digit)) ≠ 0 := by decide
  intro byte inside
  obtain ⟨point, spelled, rfl⟩ := List.mem_map.mp inside
  obtain ⟨digit, small, rfl⟩ := mem_hexOfBytes spelled
  exact digits digit small

/-- The three strings that `mqttTopicInit` writes. -/
theorem mqttTopicInit_names (world : World) (board : Board) :
    let named := mqttTopicInit world board
    named.umqttConn.clientid.bytes = b2aHex world.keyId ∧
      named.mqttTopicSub.bytes =
        ascii "$aws/things/" ++ b2aHex world.keyId ++ ascii "/shadow/update/delta" ∧
      named.mqttTopic.bytes =
        ascii "$aws/things/" ++ b2aHex world.keyId ++ ascii "/shadow/update" := by
  have id := CString.ofMemory_bytes (b2aHex_noNul world.keyId)
  have prefixed : ∀ byte ∈ ascii "$aws/things/", byte ≠ 0 := by decide +kernel
  have topic {suffix : List UInt8} (noNul : ∀ byte ∈ suffix, byte ≠ 0) :
      (CString.ofMemory (ascii "$aws/things/" ++ b2aHex world.keyId ++ suffix)).bytes =
        ascii "$aws/things/" ++ b2aHex world.keyId ++ suffix := by
    apply CString.ofMemory_bytes
    intro byte inside
    rw [List.mem_append, List.mem_append] at inside
    rcases inside with (front | spelled) | behind
    · exact prefixed byte front
    · exact b2aHex_noNul world.keyId byte spelled
    · exact noNul byte behind
  intro named
  have client : named.umqttConn.clientid = CString.ofMemory (b2aHex world.keyId) := by
    rw [← flatMap_numToAscii]
    rfl
  have sub : named.mqttTopicSub = CString.ofMemory
      (ascii "$aws/things/" ++ named.umqttConn.clientid.bytes ++
        ascii "/shadow/update/delta") := rfl
  have pub : named.mqttTopic = CString.ofMemory
      (ascii "$aws/things/" ++ named.umqttConn.clientid.bytes ++ ascii "/shadow/update") := rfl
  rw [sub, pub, client, id]
  exact ⟨rfl, topic (by decide +kernel), topic (by decide +kernel)⟩

section Names

variable {sha1 : HashFunction 20} {library : CertificateLibrary sha1} {sha256 : HashFunction 32}

/-- The device's client id and the thing name of its certificate are the same string; the
topics have it between the two parts that AWS prescribes, and all three strings fit. -/
theorem clientId_eq_thingName {chip : CryptoChip} {deviceCsr : Csr}
    (holds : chip.Holds 0 deviceCsr.publicKey) {pubkey : List UInt8} (size : pubkey.length = 64)
    {kitInfo : KitInfo} {now : DateTime} {signerCaCert : List Extension}
    {stored : KitInfo × CertificateBuilder}
    (provisioned : kitProvision library sha256 kitInfo now deviceCsr signerCaCert = .ok stored)
    (world : World) (board : Board) :
    let named := mqttTopicInit (cryptoClientInit sha1 chip pubkey world) board
    ∃ (thingName : Text) (clientId : List UInt8),
      lookup (Text.ofString "thing_name") stored.1 = some (.str thingName) ∧
        encodeAscii thingName = some clientId ∧
        named.umqttConn.clientid.bytes = clientId ∧
        named.mqttTopic.bytes = ascii "$aws/things/" ++ clientId ++ ascii "/shadow/update" ∧
        named.mqttTopicSub.bytes =
          ascii "$aws/things/" ++ clientId ++ ascii "/shadow/update/delta" ∧
        Umqtt.strlen named.umqttConn.clientid < idSize ∧
        Umqtt.strlen named.mqttTopic < topicSize ∧
        Umqtt.strlen named.mqttTopicSub < topicSize := by
  intro named
  have keyId : (cryptoClientInit sha1 chip pubkey world).keyId =
      sha1.digest (0x04 :: deviceCsr.publicKey.bytes) := holds.readSlot sha1 size
  obtain ⟨client, sub, pub⟩ := mqttTopicInit_names (cryptoClientInit sha1 chip pubkey world) board
  rw [keyId] at client sub pub
  have thingName := kitProvision_thingName provisioned
  have long : (b2aHex (sha1.digest (0x04 :: deviceCsr.publicKey.bytes))).length = 40 := by
    rw [b2aHex, List.length_map, hexOfBytes_length, sha1.length]
  have before : (ascii "$aws/things/").length = 12 := rfl
  have behindSub : (ascii "/shadow/update/delta").length = 20 := rfl
  have behindPub : (ascii "/shadow/update").length = 14 := rfl
  refine ⟨_, _, thingName, encodeAscii_hexOfBytes _, client, pub, sub, ?_, ?_, ?_⟩
  · rw [Umqtt.strlen, client, long]
    decide
  · rw [Umqtt.strlen, pub, List.length_append, List.length_append, long, before, behindPub]
    decide
  · rw [Umqtt.strlen, sub, List.length_append, List.length_append, long, before, behindSub]
    decide

end Names

/-- The base point of the curve as the key, with its digests. -/
theorem clientId_eq_thingName_one :
    let sha1 : HashFunction 20 :=
      ⟨fun _ => toBytes 20 0xb467a3999eb5efa671de0032f08a9c9e5efda0e1, fun _ => toBytes_length 20 _⟩
    let sha256 : HashFunction 32 :=
      ⟨fun _ => toBytes 32 0xfe37835f5e3765c468c9763f2828d09edf7f2b6d6c8145747ecbb8a839f0036e,
        fun _ => toBytes_length 32 _⟩
    let library : CertificateLibrary sha1 :=
      { oidName := fun oid =>
          if oid = subjectKeyIdentifierOid then Text.ofString "subjectKeyIdentifier"
          else Text.ofString "Unknown OID"
        oidName_eq_iff := by
          intro oid
          split
          · next same => exact iff_of_true rfl same
          · next differs => exact iff_of_false (by decide) differs
        fromPublicKey := fun key => sha1.digest (0x04 :: key.bytes)
        fromPublicKey_eq := fun _ => rfl
        fromIssuerSubjectKeyIdentifier := fun digest => 0x30 :: 0x16 :: 0x80 :: 0x14 :: digest }
    let key : PublicNumbers :=
      ⟨0x6b17d1f2e12c4247f8bce6e563a440f277037d812deb33a0f4a13945d898c296,
        0x4fe342e2fe1a7f9b8ee7eb4a7c0f9e162bce33576b315ececbb6406837bf51f5, by decide, by decide⟩
    let chip : CryptoChip := ⟨fun _ _ => (atcaSuccess, 67 :: (key.bytes ++ [0x0b, 0x6f]))⟩
    let now : DateTime := ⟨2020, 2, 29, 12, 34, 56, 7, by decide, by decide, by decide, by decide,
      by decide, by decide, by decide⟩
    let deviceCsr : Csr := ⟨true, key, []⟩
    let kitInfo : KitInfo := [(Text.ofString "endpointAddress", .str []),
      (Text.ofString "wifi_ssid", .str []), (Text.ofString "wifi_password", .str [])]
    ∃ stored, kitProvision library sha256 kitInfo now deviceCsr
        [⟨.subjectKeyIdentifier (List.replicate 20 0x11), false⟩] = .ok stored ∧
      ∃ (thingName : Text) (clientId : List UInt8),
        lookup (Text.ofString "thing_name") stored.1 = some (.str thingName) ∧
          encodeAscii thingName = some clientId ∧
          (mqttTopicInit (cryptoClientInit sha1 chip (List.replicate 64 0) World.accepting)
            Board.initial).umqttConn.clientid.bytes = clientId := by
  intro sha1 sha256 library key chip now deviceCsr kitInfo
  have provisioned : ∃ stored, kitProvision library sha256 kitInfo now deviceCsr
      [⟨.subjectKeyIdentifier (List.replicate 20 0x11), false⟩] = .ok stored := ⟨_, rfl⟩
  have holds : chip.Holds 0 deviceCsr.publicKey := ⟨[0x0b, 0x6f], rfl, rfl⟩
  obtain ⟨stored, provisioned⟩ := provisioned
  obtain ⟨thingName, clientId, isStored, encoded, client, -⟩ :=
    clientId_eq_thingName holds List.length_replicate provisioned World.accepting Board.initial
  exact ⟨stored, provisioned, thingName, clientId, isStored, encoded, client⟩

end MicrochipDay.Provisioning
