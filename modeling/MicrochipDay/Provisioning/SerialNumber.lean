import MicrochipDay.Library.Der
import MicrochipDay.Provisioning.CertDate
import MicrochipDay.Provisioning.CertificateBuilder

/-!
Owns that the host and the device derive the same serial number for a certificate:
`device_cert_sn` from the builder's key and date, `atcacert_gen_cert_sn`
(atcacert_def.c) from the elements of the certificate itself.

SHA-256 is one parameter for both sides. Pointers are never null here, apart from the
device's serial number, which is checked.
-/

namespace MicrochipDay.Provisioning

open MicrochipDay.Library.BigEndian
open MicrochipDay.Library

/-! ## Certificate definitions -/

/-- `atcacert_cert_type_t`. -/
inductive CertType where
  | x509
  | custom
deriving DecidableEq, Repr

/-- `atcacert_cert_sn_src_t`. -/
inductive SnSource where
  | stored
  | storedDynamic
  | deviceSn
  | signerId
  | pubKeyHash
  | deviceSnHash
  | pubKeyHashPos
  | deviceSnHashPos
  | pubKeyHashRaw
  | deviceSnHashRaw
deriving DecidableEq, Repr

/-- `atcacert_std_cert_element_t`. -/
inductive StdCert where
  | publicKey
  | signature
  | issueDate
  | expireDate
  | signerId
  | certSn
  | authKeyId
  | subjKeyId
deriving DecidableEq, Repr

/-- `atcacert_cert_loc_t`; an element that is not there has the count 0. -/
structure CertLoc where
  offset : UInt16
  count : UInt16
deriving DecidableEq, Repr

/-- `atcacert_def_t`, less what the functions here do not read. -/
structure CertDef where
  type : CertType
  snSource : SnSource
  issueDateFormat : DateFormat
  expireYears : UInt8
  stdCertElements : StdCert → CertLoc
  certTemplate : List UInt8

section Elements

variable (certDef : CertDef) (certLoc : CertLoc) (cert : List UInt8)

/-- How far the elements behind a serial number of dynamic size have moved. -/
def getEffectiveOffset (refOffset : UInt16) : Int :=
  if certDef.type ≠ .x509 ∨ certDef.snSource ≠ .storedDynamic then 0
  else
    let snOffset := (certDef.stdCertElements .certSn).offset
    if refOffset ≤ snOffset then 0
    else
      (cert.getD snOffset.toNat 0).toNat - (certDef.certTemplate.getD snOffset.toNat 0).toNat

/-- `atcacert_get_cert_element`. A sum of offsets is a `size_t`, which has 16 bits. -/
def atcacertGetCertElement (dataSize : Nat) : Except AtcacertError (List UInt8) :=
  if certLoc.count = 0 then .error .elemMissing
  else if certLoc.count.toNat ≠ dataSize then .error .unexpectedElemSize
  else
    let effOffset := UInt16.ofInt (getEffectiveOffset certDef cert certLoc.offset)
    if (certLoc.offset + certLoc.count + effOffset).toNat > cert.length then
      .error .elemOutOfBounds
    else .ok ((cert.drop (certLoc.offset + effOffset).toNat).take dataSize)

/-- `atcacert_set_cert_element`. -/
def atcacertSetCertElement (data : List UInt8) : Except AtcacertError (List UInt8) :=
  if certLoc.count = 0 then .ok cert
  else if ¬(certDef.type = .x509 ∧ certDef.snSource = .storedDynamic ∧
      certLoc.offset = (certDef.stdCertElements .certSn).offset) ∧
      data.length ≠ certLoc.count.toNat then
    .error .unexpectedElemSize
  else
    let effOffset := UInt16.ofInt (getEffectiveOffset certDef cert certLoc.offset)
    if (certLoc.offset + UInt16.ofNat data.length + effOffset).toNat > cert.length then
      .error .elemOutOfBounds
    else
      let start := (certLoc.offset + effOffset).toNat
      .ok (cert.take start ++ data ++ cert.drop (start + data.length))

def atcacertGetSubjPublicKey : Except AtcacertError (List UInt8) :=
  atcacertGetCertElement certDef (certDef.stdCertElements .publicKey) cert 64

def atcacertGetIssueDate : Except AtcacertError TmUtc := do
  let formattedDate ← atcacertGetCertElement certDef (certDef.stdCertElements .issueDate) cert
    certDef.issueDateFormat.size
  atcacertDateDec certDef.issueDateFormat formattedDate

end Elements

/-- A hexadecimal digit, as `hex_to_uint8` reads it. -/
def hexDigit (char : UInt8) : Except AtcacertError UInt8 :=
  if 0x30 ≤ char ∧ char ≤ 0x39 then .ok (char - 0x30)
  else if 0x41 ≤ char ∧ char ≤ 0x46 then .ok (char - 0x41 + 10)
  else if 0x61 ≤ char ∧ char ≤ 0x66 then .ok (char - 0x61 + 10)
  else .error .decodingError

def hexToUint8 (high low : UInt8) : Except AtcacertError UInt8 := do
  let high ← hexDigit high
  let low ← hexDigit low
  .ok ((high <<< 4) + low)

def atcacertGetSignerId (certDef : CertDef) (cert : List UInt8) :
    Except AtcacertError (List UInt8) := do
  let hexStr ← atcacertGetCertElement certDef (certDef.stdCertElements .signerId) cert 4
  match hexStr with
  | [first, second, third, fourth] =>
      let high ← hexToUint8 first second
      let low ← hexToUint8 third fourth
      .ok [high, low]
  | _ => .error .decodingError

/-! ## The serial number of a certificate -/

/-- The uppermost two bits of a hash that becomes a serial number. -/
def snBits (positive untrimmable : Bool) : List UInt8 → List UInt8
  | [] => []
  | first :: rest =>
      let first := if positive then first &&& 0x7F else first
      let first := if untrimmable then first ||| 0x40 else first
      first :: rest

section GenCertSn

variable (sha256 : HashFunction 32) (certDef : CertDef) (cert : List UInt8)

/-- The hash sources: the encoded dates follow what is hashed first. -/
def hashCertSn (hashed : Except AtcacertError (List UInt8)) (positive untrimmable : Bool) :
    Except AtcacertError (List UInt8) := do
  let snSize := (certDef.stdCertElements .certSn).count
  if snSize > 32 then .error .unexpectedElemSize
  else
    let msg ← hashed
    let issueDate ← atcacertGetIssueDate certDef cert
    let encDates ← atcacertDateEncCompcert issueDate certDef.expireYears
    .ok ((snBits positive untrimmable (sha256.digest (msg ++ encDates))).take snSize.toNat)

/-- `atcacert_gen_cert_sn`: the certificate with its serial number. -/
def atcacertGenCertSn (deviceSn : Option (List UInt8)) : Except AtcacertError (List UInt8) :=
  let store (sn : Except AtcacertError (List UInt8)) : Except AtcacertError (List UInt8) := do
    atcacertSetCertElement certDef (certDef.stdCertElements .certSn) cert (← sn)
  let publicKey := atcacertGetSubjPublicKey certDef cert
  let device : Except AtcacertError (List UInt8) :=
    match deviceSn with
    | none => .error .badParams
    | some deviceSn => .ok (deviceSn.take 9)
  if certDef.snSource = .stored ∨ certDef.snSource = .storedDynamic ∨
      (certDef.stdCertElements .certSn).count = 0 then .ok cert
  else
    match certDef.snSource with
    | .stored | .storedDynamic => .ok cert
    | .deviceSn => store (do .ok (0x40 :: (← device)))
    | .signerId => store (do .ok (0x40 :: (← atcacertGetSignerId certDef cert)))
    | .pubKeyHash => store (hashCertSn sha256 certDef cert publicKey true true)
    | .pubKeyHashPos => store (hashCertSn sha256 certDef cert publicKey true false)
    | .pubKeyHashRaw => store (hashCertSn sha256 certDef cert publicKey false false)
    | .deviceSnHash => store (do hashCertSn sha256 certDef cert (.ok (← device)) true true)
    | .deviceSnHashPos => store (do hashCertSn sha256 certDef cert (.ok (← device)) true false)
    | .deviceSnHashRaw => store (do hashCertSn sha256 certDef cert (.ok (← device)) false false)

end GenCertSn

/-! ## One date on both sides -/

/-- A `datetime` as the device's decoders return it. -/
def DateTime.tmUtc (date : DateTime) : TmUtc where
  tmSec := date.second
  tmMin := date.minute
  tmHour := date.hour
  tmMday := date.day
  tmMon := date.month - 1
  tmYear := date.year - 1900

theorem ofInt_natCast (number : Nat) : UInt8.ofInt number = UInt8.ofNat number := by
  apply UInt8.toNat_inj.mp
  unfold UInt8.ofInt
  rw [UInt8.toNat_ofNat', UInt8.toNat_ofNat']
  omega

/-- Where the device packs a date, it packs it as the host does. -/
theorem atcacertDateEncCompcert_tmUtc {date : DateTime} {bytes : List UInt8}
    (accepted : atcacertDateEncCompcert date.tmUtc 0 = .ok bytes) : bytes = encDates date := by
  have year : date.tmUtc.tmYear + 1900 - 2000 = date.year - 2000 := by
    show (date.year : Int) - 1900 + 1900 - 2000 = date.year - 2000
    omega
  have month : UInt8.ofInt (date.tmUtc.tmMon + 1) = UInt8.ofNat date.month := by
    show UInt8.ofInt ((date.month : Int) - 1 + 1) = UInt8.ofNat date.month
    rw [Int.sub_add_cancel, ofInt_natCast]
  have day : UInt8.ofInt date.tmUtc.tmMday = UInt8.ofNat date.day := ofInt_natCast _
  have hour : UInt8.ofInt date.tmUtc.tmHour = UInt8.ofNat date.hour := ofInt_natCast _
  unfold atcacertDateEncCompcert at accepted
  rw [year, month, day, hour] at accepted
  split at accepted
  · contradiction
  split at accepted
  · contradiction
  split at accepted
  · contradiction
  split at accepted
  · contradiction
  split at accepted
  · contradiction
  exact (Except.ok.inj accepted).symm

/-! ## Serial numbers as integers -/

/-- The first byte of a serial number lies between 64 and 127. -/
theorem snFirst_bounds (first : UInt8) :
    64 ≤ ((first &&& 0x7F) ||| 0x40).toNat ∧ ((first &&& 0x7F) ||| 0x40).toNat < 128 := by
  have all : ∀ number < 256, 64 ≤ ((UInt8.ofNat number &&& 0x7F) ||| 0x40).toNat ∧
      ((UInt8.ofNat number &&& 0x7F) ||| 0x40).toNat < 128 := by decide +kernel
  have own := all first.toNat first.toNat_lt
  rwa [UInt8.ofNat_toNat] at own

/-- Bytes that begin between 1 and 127 are the contents of the integer they spell. -/
theorem integerContent_fromBytes {first : UInt8} (positive : 0 < first.toNat)
    (small : first.toNat < 128) (rest : List UInt8) :
    Der.integerContent (fromBytes (first :: rest)) = first :: rest := by
  have minimal : Der.Minimal (first :: rest) := by
    cases rest with
    | nil => trivial
    | cons second rest =>
        exact ⟨fun zeros => absurd zeros.1 (by omega), fun ones => absurd ones.1 (by omega)⟩
  rw [← Der.integerValue_of_positive small]
  exact Der.content_integerValue minimal

section Agreement

variable {sha256 : HashFunction 32} {certDef : CertDef} {cert : List UInt8}
  {builder : CertificateBuilder} {encoded : List UInt8}

/-- Host and device hash the same bytes and set the same bits. -/
theorem hashCertSn_eq (sixteen : (certDef.stdCertElements .certSn).count = 16)
    (noExpiry : certDef.expireYears = 0)
    (sameKey : atcacertGetSubjPublicKey certDef cert = .ok builder.publicKey.bytes)
    (sameDate : atcacertGetIssueDate certDef cert = .ok builder.notValidBefore.tmUtc)
    (accepted : atcacertDateEncCompcert builder.notValidBefore.tmUtc 0 = .ok encoded) :
    ∃ first rest, rest.length = 15 ∧
      deviceCertSn sha256 16 builder =
        some (fromBytes (((first &&& 0x7F) ||| 0x40) :: rest)) ∧
      hashCertSn sha256 certDef cert (atcacertGetSubjPublicKey certDef cert) true true =
        .ok (((first &&& 0x7F) ||| 0x40) :: rest) := by
  have long := sha256.length (builder.publicKey.bytes ++ encDates builder.notValidBefore)
  have hashed : hashCertSn sha256 certDef cert (atcacertGetSubjPublicKey certDef cert) true true =
      .ok ((snBits true true (sha256.digest
        (builder.publicKey.bytes ++ encDates builder.notValidBefore))).take 16) := by
    unfold hashCertSn
    rw [sixteen, noExpiry, sameKey, sameDate]
    show (do
      let encDates ← atcacertDateEncCompcert builder.notValidBefore.tmUtc 0
      Except.ok _) = _
    rw [accepted, atcacertDateEncCompcert_tmUtc accepted]
    rfl
  unfold deviceCertSn
  dsimp only
  rw [hashed]
  cases digest : sha256.digest (builder.publicKey.bytes ++ encDates builder.notValidBefore) with
  | nil =>
      rw [digest] at long
      exact absurd long (by decide)
  | cons first rest =>
      rw [digest, List.length_cons] at long
      refine ⟨first, rest.take 15, ?_, rfl, rfl⟩
      rw [List.length_take]
      omega

/-- Only behind a serial number of dynamic size do elements move. -/
theorem getEffectiveOffset_of_hash (source : certDef.snSource = .pubKeyHash) (refOffset : UInt16) :
    getEffectiveOffset certDef cert refOffset = 0 := by
  unfold getEffectiveOffset
  rw [source]
  exact if_pos (Or.inr (by decide))

theorem atcacertSetCertElement_of_hash (source : certDef.snSource = .pubKeyHash)
    {certLoc : CertLoc} {data : List UInt8} (size : data.length = certLoc.count.toNat)
    (inside : certLoc.offset.toNat + data.length ≤ cert.length) (present : certLoc.count ≠ 0) :
    atcacertSetCertElement certDef certLoc cert data =
      .ok (cert.take certLoc.offset.toNat ++ data ++
        cert.drop (certLoc.offset.toNat + data.length)) := by
  have sum : (certLoc.offset + UInt16.ofNat data.length + UInt16.ofInt 0).toNat ≤ cert.length := by
    rw [size, UInt16.ofNat_toNat, UInt16.toNat_add, UInt16.toNat_add]
    have zero : (UInt16.ofInt 0).toNat = 0 := rfl
    have smaller := Nat.mod_le (certLoc.offset.toNat + certLoc.count.toNat) (2 ^ 16)
    omega
  have start : certLoc.offset + UInt16.ofInt 0 = certLoc.offset :=
    UInt16.add_zero certLoc.offset
  unfold atcacertSetCertElement
  rw [if_neg present, if_neg (fun wrong => wrong.2 size), getEffectiveOffset_of_hash source]
  dsimp only
  rw [start]
  exact if_neg (Nat.not_lt.mpr sum)

/-- The serial number that the device derives from a certificate is the host's, in 16
bytes, which are the contents of its DER encoding. -/
theorem deviceCertSn_eq_genCertSn (source : certDef.snSource = .pubKeyHash)
    (sixteen : (certDef.stdCertElements .certSn).count = 16) (noExpiry : certDef.expireYears = 0)
    (sameKey : atcacertGetSubjPublicKey certDef cert = .ok builder.publicKey.bytes)
    (sameDate : atcacertGetIssueDate certDef cert = .ok builder.notValidBefore.tmUtc)
    (accepted : atcacertDateEncCompcert builder.notValidBefore.tmUtc 0 = .ok encoded)
    (deviceSn : Option (List UInt8)) :
    let certLoc := certDef.stdCertElements .certSn
    ∃ value : Nat, deviceCertSn sha256 16 builder = some value ∧
      atcacertGenCertSn sha256 certDef cert deviceSn =
        atcacertSetCertElement certDef certLoc cert (toBytes 16 value) ∧
      (certLoc.offset.toNat + 16 ≤ cert.length →
        atcacertGenCertSn sha256 certDef cert deviceSn =
          .ok (cert.take certLoc.offset.toNat ++ toBytes 16 value ++
            cert.drop (certLoc.offset.toNat + 16))) ∧
      Der.integerContent value = toBytes 16 value ∧
      (Der.integerContent value).length = 16 := by
  intro certLoc
  obtain ⟨first, rest, long, host, device⟩ :=
    @hashCertSn_eq sha256 _ _ _ _ sixteen noExpiry sameKey sameDate accepted
  have bounds := snFirst_bounds first
  have bytes : toBytes 16 (fromBytes (((first &&& 0x7F) ||| 0x40) :: rest)) =
      ((first &&& 0x7F) ||| 0x40) :: rest := by
    have restored := toBytes_fromBytes (((first &&& 0x7F) ||| 0x40) :: rest)
    rwa [List.length_cons, long] at restored
  have stored : atcacertGenCertSn sha256 certDef cert deviceSn =
      atcacertSetCertElement certDef certLoc cert (((first &&& 0x7F) ||| 0x40) :: rest) := by
    have generated : ¬(certDef.snSource = .stored ∨ certDef.snSource = .storedDynamic ∨
        (certDef.stdCertElements .certSn).count = 0) := by
      rw [source, sixteen]
      decide
    unfold atcacertGenCertSn
    rw [if_neg generated, source]
    dsimp only
    rw [device]
    rfl
  refine ⟨_, host, ?_, ?_, ?_, ?_⟩
  · rw [bytes]
    exact stored
  · intro inside
    have count : certLoc.count = 16 := sixteen
    have size : (((first &&& 0x7F) ||| 0x40) :: rest).length = 16 := by rw [List.length_cons, long]
    rw [bytes, stored, atcacertSetCertElement_of_hash source (by rw [size, count]; rfl)
      (by rw [size]; exact inside) (by rw [count]; decide), size]
  · rw [bytes, integerContent_fromBytes (by omega) bounds.2]
  · rw [integerContent_fromBytes (by omega) bounds.2, List.length_cons, long]

end Agreement

/-- The base point of the curve as the key, and noon of a leap day. -/
theorem deviceCertSn_eq_genCertSn_noon :
    let sha256 : HashFunction 32 :=
      ⟨fun _ => toBytes 32 0xfe37835f5e3765c468c9763f2828d09edf7f2b6d6c8145747ecbb8a839f0036e,
        fun _ => toBytes_length 32 _⟩
    let key : PublicNumbers :=
      ⟨0x6b17d1f2e12c4247f8bce6e563a440f277037d812deb33a0f4a13945d898c296,
        0x4fe342e2fe1a7f9b8ee7eb4a7c0f9e162bce33576b315ececbb6406837bf51f5, by decide, by decide⟩
    let noon : DateTime := ⟨2020, 2, 29, 12, 0, 0, 0, by decide, by decide, by decide, by decide,
      by decide, by decide, by decide⟩
    let certDef : CertDef :=
      { type := .x509
        snSource := .pubKeyHash
        issueDateFormat := .rfc5280Utc
        expireYears := 0
        stdCertElements := fun element => match element with
          | .publicKey => ⟨0, 64⟩
          | .issueDate => ⟨64, 13⟩
          | .certSn => ⟨77, 16⟩
          | _ => ⟨0, 0⟩
        certTemplate := [] }
    let cert : List UInt8 := key.bytes ++ "200229120000Z".toList.map (fun char =>
      UInt8.ofNat char.toNat) ++ List.replicate 16 0
    ∃ value : Nat, deviceCertSn sha256 16 ⟨noon, key, none, []⟩ = some value ∧
      atcacertGenCertSn sha256 certDef cert none =
        .ok (cert.take 77 ++ toBytes 16 value ++ cert.drop 93) := by
  intro sha256 key noon certDef cert
  let builder : CertificateBuilder := ⟨noon, key, none, []⟩
  have sameKey : atcacertGetSubjPublicKey certDef cert = .ok builder.publicKey.bytes := by
    decide +kernel
  have sameDate : atcacertGetIssueDate certDef cert = .ok builder.notValidBefore.tmUtc := by
    decide +kernel
  have accepted : atcacertDateEncCompcert builder.notValidBefore.tmUtc 0 =
      .ok [0xA1, 0x75, 0x80] := by decide +kernel
  have long : cert.length = 93 := by decide +kernel
  obtain ⟨value, host, -, device, -⟩ := @deviceCertSn_eq_genCertSn sha256 certDef cert builder
    _ rfl rfl rfl sameKey sameDate accepted none
  exact ⟨value, host, device (Nat.le_of_eq long.symm)⟩

end MicrochipDay.Provisioning
