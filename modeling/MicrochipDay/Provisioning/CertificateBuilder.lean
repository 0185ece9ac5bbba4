import MicrochipDay.Library.BigEndian
import MicrochipDay.Library.Python.Bytes

/-!
Owns what the provisioning scripts put into the certificate of a device: its key,
its dates, the serial number that `device_cert_sn` derives from both, and the
extensions.

The hash functions and what else the certificate library computes are parameters.
-/

namespace MicrochipDay.Provisioning

open MicrochipDay.Library.BigEndian
open MicrochipDay.Library.Unicode

/-- A hash function with digests of `size` bytes. -/
structure HashFunction (size : Nat) where
  digest : List UInt8 → List UInt8
  length : ∀ message, (digest message).length = size

/-! ## Keys and dates -/

/-- The coordinates of a public key on P-256. -/
structure PublicNumbers where
  x : Nat
  y : Nat
  xSmall : x < 2 ^ 256
  ySmall : y < 2 ^ 256

/-- X and Y, 32 bytes each. -/
def PublicNumbers.bytes (key : PublicNumbers) : List UInt8 := toBytes 32 key.x ++ toBytes 32 key.y

@[simp] theorem PublicNumbers.bytes_length (key : PublicNumbers) : key.bytes.length = 64 := by
  rw [PublicNumbers.bytes, List.length_append, toBytes_length, toBytes_length]

/-- A `datetime` in UTC. -/
structure DateTime where
  year : Nat
  month : Nat
  day : Nat
  hour : Nat
  minute : Nat
  second : Nat
  microsecond : Nat
  yearRange : 1 ≤ year ∧ year ≤ 9999
  monthRange : 1 ≤ month ∧ month ≤ 12
  dayRange : 1 ≤ day ∧ day ≤ 31
  hourRange : hour < 24
  minuteRange : minute < 60
  secondRange : second < 60
  microsecondRange : microsecond < 1000000
deriving DecidableEq, Repr

/-- `.replace(minute=0,second=0)`. -/
def DateTime.onTheHour (date : DateTime) : DateTime :=
  { date with minute := 0, second := 0, minuteRange := by decide, secondRange := by decide }

/-! ## Extensions -/

def subjectKeyIdentifierOid : List Nat := [2, 5, 29, 14]

def authorityKeyIdentifierOid : List Nat := [2, 5, 29, 35]

/-- Of the extensions only the subject key identifier has the attribute `digest`. -/
inductive ExtensionValue where
  | subjectKeyIdentifier (digest : List UInt8)
  | other (oid : List Nat) (differs : oid ≠ subjectKeyIdentifierOid) (value : List UInt8)

def ExtensionValue.oid : ExtensionValue → List Nat
  | .subjectKeyIdentifier _ => subjectKeyIdentifierOid
  | .other oid _ _ => oid

structure Extension where
  value : ExtensionValue
  critical : Bool

/-- What the scripts use of the certificate library. -/
structure CertificateLibrary (sha1 : HashFunction 20) where
  /-- The attribute `_name` of an object identifier. -/
  oidName : List Nat → Text
  oidName_eq_iff : ∀ oid, oidName oid = Text.ofString "subjectKeyIdentifier" ↔
    oid = subjectKeyIdentifierOid
  /-- The digest of `SubjectKeyIdentifier.from_public_key`. -/
  fromPublicKey : PublicNumbers → List UInt8
  fromPublicKey_eq : ∀ key, fromPublicKey key = sha1.digest (0x04 :: key.bytes)
  /-- The value of `AuthorityKeyIdentifier.from_issuer_subject_key_identifier`. -/
  fromIssuerSubjectKeyIdentifier : List UInt8 → List UInt8

/-! ## The builder -/

structure CertificateBuilder where
  notValidBefore : DateTime
  publicKey : PublicNumbers
  serialNumber : Option Nat
  extensions : List Extension

/-- `add_extension`, which raises for an extension that is there already. -/
def CertificateBuilder.addExtension (builder : CertificateBuilder) (extension : Extension) :
    Option CertificateBuilder :=
  if extension.value.oid ∈ builder.extensions.map fun extension => extension.value.oid then none
  else some { builder with extensions := builder.extensions ++ [extension] }

/-- `add_extension` in a loop. -/
def CertificateBuilder.addExtensions :
    List Extension → CertificateBuilder → Option CertificateBuilder
  | [], builder => some builder
  | extension :: extensions, builder => do
      addExtensions extensions (← builder.addExtension extension)

/-- The dates as `device_cert_sn` packs them. Python's integers are masked to a byte
after each shift, so arithmetic on bytes gives the same. -/
def encDates (notValidBefore : DateTime) : List UInt8 :=
  let expireYears : UInt8 := 0
  let year := UInt8.ofInt (notValidBefore.year - 2000)
  let month := UInt8.ofNat notValidBefore.month
  let day := UInt8.ofNat notValidBefore.day
  let hour := UInt8.ofNat notValidBefore.hour
  let date0 : UInt8 := 0
  let date0 := (date0 &&& 0x07) ||| ((year &&& 0x1F) <<< (3 : UInt8))
  let date0 := (date0 &&& 0xF8) ||| ((month &&& 0x0F) >>> (1 : UInt8))
  let date1 : UInt8 := 0
  let date1 := (date1 &&& 0x7F) ||| ((month &&& 0x0F) <<< (7 : UInt8))
  let date1 := (date1 &&& 0x83) ||| ((day &&& 0x1F) <<< (2 : UInt8))
  let date1 := (date1 &&& 0xFC) ||| ((hour &&& 0x1F) >>> (3 : UInt8))
  let date2 : UInt8 := 0
  let date2 := (date2 &&& 0x1F) ||| ((hour &&& 0x1F) <<< (5 : UInt8))
  let date2 := (date2 &&& 0xE0) ||| (expireYears &&& 0x1F)
  [date0, date1, date2]

/-- `device_cert_sn`; the first byte of an empty digest cannot be read. -/
def deviceCertSn (sha256 : HashFunction 32) (size : Nat) (builder : CertificateBuilder) :
    Option Nat :=
  let digest := sha256.digest (builder.publicKey.bytes ++ encDates builder.notValidBefore)
  match digest.take size with
  | [] => none
  | first :: rest => some (fromBytes (((first &&& 0x7F) ||| 0x40) :: rest))

end MicrochipDay.Provisioning
