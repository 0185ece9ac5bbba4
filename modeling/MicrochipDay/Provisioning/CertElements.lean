import MicrochipDay.Library.Der

/-!
Owns where cert2certdef.py finds the elements of a certificate that go into the
firmware's template: the part that is signed, the signature and the serial number.

The encoder and the decoder of pyasn1 are parameters. An exception of Python is
`none`.
-/

namespace MicrochipDay.Provisioning

open MicrochipDay.Library.BigEndian
open MicrochipDay.Library

/-- A dictionary with the keys `offset` and `length`. -/
structure OffsetLength where
  offset : Nat
  length : Nat
deriving DecidableEq, Repr

/-- `der_value_offset_length`. -/
def derValueOffsetLength (der : List UInt8) : Option OffsetLength := do
  let tagLen := 1
  let first ← der[tagLen]?
  if first < 0x80 then
    some ⟨tagLen + 1, first.toNat⟩
  else
    let lenLen := (first &&& 0x7f).toNat + 1
    some ⟨tagLen + lenLen, fromBytes ((der.take (tagLen + lenLen)).drop (tagLen + 1))⟩

section Ranges

variable {Cert : Type} (encode : Cert → List UInt8) (cert : Cert)

/-- `cert_tbs_offset_length`. -/
def certTbsOffsetLength : Option OffsetLength := do
  let certDer := encode cert
  let certInfo ← derValueOffsetLength certDer
  let tbsInfo ← derValueOffsetLength (certDer.drop certInfo.offset)
  some ⟨certInfo.offset, tbsInfo.offset + tbsInfo.length⟩

/-- `cert_sig_offset_length`. -/
def certSigOffsetLength : Option OffsetLength := do
  let certDer := encode cert
  let certInfo ← derValueOffsetLength certDer
  let offset := certInfo.offset
  let tbsInfo ← derValueOffsetLength (certDer.drop offset)
  let offset := offset + (tbsInfo.offset + tbsInfo.length)
  let algInfo ← derValueOffsetLength (certDer.drop offset)
  let offset := offset + (algInfo.offset + algInfo.length)
  let sigInfo ← derValueOffsetLength (certDer.drop offset)
  some ⟨offset, sigInfo.offset + sigInfo.length⟩

end Ranges

/-- `diff_offset`: the index where the two differ, or `None`; it raises where their
lengths differ. -/
def diffOffset (base diff : List UInt8) : Option (Option Nat) :=
  if base.length ≠ diff.length then none
  else some ((List.range base.length).find? fun i => base[i]? ≠ diff[i]?)

/-- The bytes of a range. -/
def OffsetLength.slice (range : OffsetLength) (bytes : List UInt8) : List UInt8 :=
  (bytes.drop range.offset).take range.length

/-! ## Objects -/

section Objects

variable (tlv : Der.Tlv) (trailing : List UInt8)

/-- The value of an object is found whatever follows it. -/
theorem derValueOffsetLength_encode :
    derValueOffsetLength (tlv.encode ++ trailing) =
      some ⟨tlv.header.length, tlv.value.length⟩ := by
  obtain ⟨tag, lengthOctets, value, announced⟩ := tlv
  show derValueOffsetLength (tag :: (lengthOctets ++ value ++ trailing)) =
    some ⟨lengthOctets.length + 1, value.length⟩
  generalize value.length = length at announced
  cases announced with
  | short small =>
      exact if_pos (UInt8.lt_iff_toNat_lt.mpr small)
  | @long octets nonempty few =>
      have first : (UInt8.ofNat (128 + octets.length)).toNat = 128 + octets.length :=
        UInt8.toNat_ofNat_of_lt' (show 128 + octets.length < 256 by omega)
      generalize UInt8.ofNat (128 + octets.length) = octet at first
      have large : ¬octet < 0x80 := by
        rw [UInt8.lt_iff_toNat_lt, first]
        show ¬128 + octets.length < 128
        omega
      have count : (octet &&& 0x7f).toNat = octets.length := by
        rw [UInt8.toNat_and, first]
        show (128 + octets.length) &&& (2 ^ 7 - 1) = octets.length
        rw [Nat.and_two_pow_sub_one_eq_mod]
        omega
      have slice : ((tag :: octet :: (octets ++ (value ++ trailing))).take
          (1 + (octets.length + 1))).drop (1 + 1) = octets := by
        rw [show 1 + (octets.length + 1) = octets.length + 1 + 1 by omega, List.take_succ_cons,
          List.take_succ_cons, List.take_left]
        rfl
      unfold derValueOffsetLength
      show (if octet < 0x80 then _ else _) = _
      rw [if_neg large, count, List.append_assoc, List.cons_append, slice, List.length_cons]
      congr 2
      omega

end Objects

/-! ## Certificates and requests -/

/-- A certificate or a request: a sequence of what is signed, the algorithm of the
signature and the signature. -/
structure SignedObject where
  outer : Der.Tlv
  tbs : Der.Tlv
  algorithm : Der.Tlv
  signature : Der.Tlv
  holds : outer.value = tbs.encode ++ (algorithm.encode ++ signature.encode)

namespace SignedObject

variable (object : SignedObject)

def encode : List UInt8 := object.outer.encode

theorem encode_eq :
    object.encode =
      object.outer.header ++
        (object.tbs.encode ++ (object.algorithm.encode ++ object.signature.encode)) := by
  rw [← object.holds]
  rfl

theorem outer_found :
    derValueOffsetLength object.encode =
      some ⟨object.outer.header.length, object.outer.value.length⟩ := by
  have found := derValueOffsetLength_encode object.outer []
  rwa [List.append_nil] at found

theorem drop_outer :
    object.encode.drop object.outer.header.length =
      object.tbs.encode ++ (object.algorithm.encode ++ object.signature.encode) := by
  rw [encode_eq, List.drop_left]

theorem drop_tbs :
    object.encode.drop (object.outer.header.length + object.tbs.encode.length) =
      object.algorithm.encode ++ object.signature.encode := by
  rw [← List.drop_drop, drop_outer, List.drop_left]

theorem drop_algorithm :
    object.encode.drop (object.outer.header.length + object.tbs.encode.length +
      object.algorithm.encode.length) = object.signature.encode := by
  rw [← List.drop_drop, drop_tbs, List.drop_left]

/-- The range of what is signed. -/
def tbsRange : OffsetLength := ⟨object.outer.header.length, object.tbs.encode.length⟩

/-- The range of the signature. -/
def signatureRange : OffsetLength :=
  ⟨object.outer.header.length + object.tbs.encode.length + object.algorithm.encode.length,
    object.signature.encode.length⟩

theorem slice_tbsRange : object.tbsRange.slice object.encode = object.tbs.encode := by
  unfold tbsRange OffsetLength.slice
  rw [drop_outer, List.take_left]

theorem slice_signatureRange :
    object.signatureRange.slice object.encode = object.signature.encode := by
  unfold signatureRange OffsetLength.slice
  rw [drop_algorithm, List.take_length]

variable {Cert : Type} {encoder : Cert → List UInt8} {cert : Cert}

theorem certTbsOffsetLength_eq (encoded : encoder cert = object.encode) :
    certTbsOffsetLength encoder cert = some object.tbsRange := by
  unfold certTbsOffsetLength tbsRange
  dsimp only
  rw [encoded, object.outer_found, Option.bind_eq_bind, Option.bind_some, drop_outer,
    derValueOffsetLength_encode, Option.bind_some, Der.Tlv.encode_length]

theorem certSigOffsetLength_eq (encoded : encoder cert = object.encode) :
    certSigOffsetLength encoder cert = some object.signatureRange := by
  unfold certSigOffsetLength signatureRange
  dsimp only
  rw [encoded, object.outer_found, Option.bind_eq_bind, Option.bind_some, drop_outer,
    derValueOffsetLength_encode, Option.bind_some, ← Der.Tlv.encode_length, drop_tbs,
    derValueOffsetLength_encode, Option.bind_some, ← Der.Tlv.encode_length, drop_algorithm]
  have found := derValueOffsetLength_encode object.signature []
  rw [List.append_nil] at found
  rw [found, Option.bind_some, Der.Tlv.encode_length object.signature]

/-- **The ranges are right.** Of any object that is encoded to itself, the two
functions return the ranges of its first and its third part, headers included; and
the value of any object is found at its place whatever follows. -/
theorem ranges_exact (encoded : encoder cert = object.encode) :
    (certTbsOffsetLength encoder cert = some object.tbsRange ∧
      object.tbsRange.slice object.encode = object.tbs.encode) ∧
    (certSigOffsetLength encoder cert = some object.signatureRange ∧
      object.signatureRange.slice object.encode = object.signature.encode) ∧
    ∀ (tlv : Der.Tlv) (trailing : List UInt8),
      derValueOffsetLength (tlv.encode ++ trailing) =
          some ⟨tlv.header.length, tlv.value.length⟩ ∧
        (OffsetLength.mk tlv.header.length tlv.value.length).slice (tlv.encode ++ trailing) =
          tlv.value := by
  refine ⟨⟨object.certTbsOffsetLength_eq encoded, object.slice_tbsRange⟩,
    ⟨object.certSigOffsetLength_eq encoded, object.slice_signatureRange⟩, ?_⟩
  intro tlv trailing
  refine ⟨derValueOffsetLength_encode tlv trailing, ?_⟩
  unfold OffsetLength.slice Der.Tlv.encode
  rw [List.append_assoc, List.drop_left, List.take_left]

private def longTbs : Der.Tlv where
  tag := 0x30
  lengthOctets := [0x81, 130]
  value := List.replicate 130 0
  announced := by
    rw [List.length_replicate]
    exact Der.LengthOctets.long (List.cons_ne_nil 130 []) (by decide)

private theorem longTbs_encode_length : longTbs.encode.length = 133 := by
  have header : longTbs.header.length = 3 := rfl
  have value : longTbs.value.length = 130 := List.length_replicate
  rw [Der.Tlv.encode_length, header, value]

/-- 130 bytes are signed, so that two of the four headers have the long form. -/
private def longObject : SignedObject where
  outer := {
    tag := 0x30
    lengthOctets := [0x81, 139]
    value := longTbs.encode ++ [0x30, 0, 0x03, 2, 0, 7]
    announced := by
      rw [List.length_append, longTbs_encode_length]
      exact Der.LengthOctets.long (List.cons_ne_nil 139 []) (by decide) }
  tbs := longTbs
  algorithm := ⟨0x30, [0], [], .short (by decide)⟩
  signature := ⟨0x03, [2], [0, 7], .short (by decide)⟩
  holds := rfl

theorem ranges_exact_long :
    certTbsOffsetLength SignedObject.encode longObject = some longObject.tbsRange ∧
      longObject.tbsRange = ⟨3, 133⟩ ∧
      certSigOffsetLength SignedObject.encode longObject = some longObject.signatureRange ∧
      longObject.signatureRange = ⟨138, 4⟩ := by
  have ranges := longObject.ranges_exact (show longObject.encode = longObject.encode from rfl)
  have header : longObject.outer.header.length = 3 := rfl
  have length : longObject.tbs.encode.length = 133 := longTbs_encode_length
  have algorithm : longObject.algorithm.encode.length = 2 := rfl
  have signature : longObject.signature.encode.length = 4 := rfl
  refine ⟨ranges.1.1, ?_, ranges.2.1.1, ?_⟩
  · rw [tbsRange, header, length]
  · rw [signatureRange, header, length, algorithm, signature]

end SignedObject

/-! ## The serial number -/

/-- What `cert_sn_offset_length` uses of pyasn1: the encoder and the decoder, for a
certificate and for the integer in it. -/
structure Pyasn1 (Cert : Type) where
  encodeCertificate : Cert → List UInt8
  decodeCertificate : List UInt8 → Option Cert
  serialNumber : Cert → Int
  setSerialNumber : Cert → Int → Cert
  encodeInteger : Int → List UInt8
  decodeInteger : List UInt8 → Option Int

/-- What is written in place of the first byte of the serial number. -/
def alteredByte (msb : UInt8) : UInt8 :=
  if msb &&& 0x80 ≠ 0 then
    if msb = 0x81 then 0x82 else 0x81
  else
    if msb = 0x01 then 0x02 else 0x01

/-- The altered serial number that `cert_sn_offset_length` builds. -/
def alteredSerial (snDer : List UInt8) (msbIdx : Nat) : Option (List UInt8) := do
  let msb ← snDer[msbIdx]?
  some (snDer.set msbIdx (alteredByte msb))

/-- `cert_sn_offset_length`: the values at the keys `offset` and `length`. -/
def certSnOffsetLength {Cert : Type} (pyasn1 : Pyasn1 Cert) (cert : Cert) :
    Option (Option Nat × Nat) := do
  let snDer := pyasn1.encodeInteger (pyasn1.serialNumber cert)
  let intInfo ← derValueOffsetLength snDer
  let altered ← alteredSerial snDer intInfo.offset
  let certDer := pyasn1.encodeCertificate cert
  let certMod ← pyasn1.decodeCertificate certDer
  let serialNumber ← pyasn1.decodeInteger altered
  let certMod := pyasn1.setSerialNumber certMod serialNumber
  let offset ← diffOffset certDer (pyasn1.encodeCertificate certMod)
  some (offset, intInfo.length)

/-- A serial number of at most twenty content bytes, as certificates have. -/
def ShortSerial (number : Int) : Prop := (Der.integerContent number).length ≤ 20

instance (number : Int) : Decidable (ShortSerial number) :=
  inferInstanceAs (Decidable ((Der.integerContent number).length ≤ 20))

/-- pyasn1 follows the distinguished encoding rules: a certificate is a sequence
that begins with the sequence of what is signed, in which the serial number comes
after the version; decoding inverts encoding. -/
structure Pyasn1.Distinguished {Cert : Type} (pyasn1 : Pyasn1 Cert) where
  version : Cert → List UInt8
  afterSerial : Cert → List UInt8
  afterTbs : Cert → List UInt8
  encodeInteger : ∀ number, ShortSerial number →
    pyasn1.encodeInteger number = Der.encode 0x02 (Der.integerContent number)
  decodeInteger : ∀ number, ShortSerial number →
    pyasn1.decodeInteger (pyasn1.encodeInteger number) = some number
  encodeCertificate : ∀ cert, pyasn1.encodeCertificate cert =
    Der.encode 0x30 (Der.encode 0x30
      (version cert ++ pyasn1.encodeInteger (pyasn1.serialNumber cert) ++ afterSerial cert) ++
        afterTbs cert)
  decodeCertificate : ∀ cert, pyasn1.decodeCertificate (pyasn1.encodeCertificate cert) = some cert
  serialNumber_set : ∀ cert number, ShortSerial number →
    pyasn1.serialNumber (pyasn1.setSerialNumber cert number) = number
  version_set : ∀ cert number, version (pyasn1.setSerialNumber cert number) = version cert
  afterSerial_set : ∀ cert number,
    afterSerial (pyasn1.setSerialNumber cert number) = afterSerial cert
  afterTbs_set : ∀ cert number, afterTbs (pyasn1.setSerialNumber cert number) = afterTbs cert

/-! ### The altered byte -/

theorem alteredByte_ne (msb : UInt8) : alteredByte msb ≠ msb := by
  unfold alteredByte
  split
  · rename_i negative
    split
    · rename_i same
      rw [same]
      decide
    · rename_i other
      exact fun same => other same.symm
  · rename_i positive
    split
    · rename_i same
      rw [same]
      decide
    · rename_i other
      exact fun same => other same.symm

/-- The altered byte starts minimal contents whatever follows it. -/
theorem minimal_altered (msb : UInt8) (rest : List UInt8) :
    Der.Minimal (alteredByte msb :: rest) := by
  have middle : (alteredByte msb).toNat ≠ 0 ∧ (alteredByte msb).toNat ≠ 255 := by
    unfold alteredByte
    split <;> split <;> decide
  cases rest with
  | nil => trivial
  | cons second rest => exact ⟨fun zeros => middle.1 zeros.1, fun ones => middle.2 ones.1⟩

/-- Only the byte behind the tag and the one octet of the length is replaced. -/
theorem alteredSerial_encode (msb : UInt8) (rest : List UInt8) (few : (msb :: rest).length ≤ 20) :
    alteredSerial (Der.encode 0x02 (msb :: rest)) 2 =
      some (Der.encode 0x02 (alteredByte msb :: rest)) := by
  have header (first : UInt8) : Der.header 0x02 (first :: rest).length =
      [0x02, UInt8.ofNat (rest.length + 1)] := by
    unfold Der.header Der.lengthOctets
    rw [List.length_cons] at few ⊢
    rw [if_pos (by omega)]
  rw [Der.encode, header, Der.encode, header]
  rfl

/-! ### The first difference -/

/-- The first difference is at the end of what the two have in common. -/
theorem diffOffset_common (common : List UInt8) {left right : UInt8} (different : left ≠ right)
    {leftRest rightRest : List UInt8} (sameLength : leftRest.length = rightRest.length) :
    diffOffset (common ++ left :: leftRest) (common ++ right :: rightRest) =
      some (some common.length) := by
  unfold diffOffset
  rw [if_neg (by simp [sameLength]), Option.some_inj, List.find?_range_eq_some]
  refine ⟨?_, ?_, ?_⟩
  · simpa using different
  · simp
  · intro i before
    rw [List.getElem?_append_left before, List.getElem?_append_left before]
    simp

/-! ### The certificate around the serial number -/

/-- What comes before the contents of the serial number: the headers of the
certificate and of the part that is signed, the version and the header of the
serial number. -/
def beforeContent (version afterSerial afterTbs : List UInt8) (length : Nat) : List UInt8 :=
  let tbsLength := version.length + ((Der.header 0x02 length).length + length) + afterSerial.length
  let certLength := (Der.header 0x30 tbsLength).length + tbsLength + afterTbs.length
  Der.header 0x30 certLength ++ (Der.header 0x30 tbsLength ++ (version ++ Der.header 0x02 length))

theorem nested_encode (version content afterSerial afterTbs : List UInt8) :
    Der.encode 0x30 (Der.encode 0x30 (version ++ Der.encode 0x02 content ++ afterSerial) ++
        afterTbs) =
      beforeContent version afterSerial afterTbs content.length ++
        (content ++ (afterSerial ++ afterTbs)) := by
  simp only [beforeContent, Der.encode, List.length_append, List.append_assoc, Nat.add_assoc]

namespace Pyasn1.Distinguished

variable {Cert : Type} {pyasn1 : Pyasn1 Cert} (der : pyasn1.Distinguished) (cert : Cert)

/-- What comes before the contents of the serial number of a certificate. -/
def beforeSerial : List UInt8 :=
  beforeContent (der.version cert) (der.afterSerial cert) (der.afterTbs cert)
    (Der.integerContent (pyasn1.serialNumber cert)).length

theorem encodeCertificate_eq (few : ShortSerial (pyasn1.serialNumber cert)) :
    pyasn1.encodeCertificate cert =
      der.beforeSerial cert ++ (Der.integerContent (pyasn1.serialNumber cert) ++
        (der.afterSerial cert ++ der.afterTbs cert)) := by
  rw [der.encodeCertificate, der.encodeInteger _ few, nested_encode]
  rfl

/-- A serial number of the same length leaves everything else in place. -/
theorem encodeCertificate_set {number : Int} (few : ShortSerial number)
    (sameLength : (Der.integerContent number).length =
      (Der.integerContent (pyasn1.serialNumber cert)).length) :
    pyasn1.encodeCertificate (pyasn1.setSerialNumber cert number) =
      der.beforeSerial cert ++ (Der.integerContent number ++
        (der.afterSerial cert ++ der.afterTbs cert)) := by
  have same := der.serialNumber_set cert number few
  have stillFew : ShortSerial (pyasn1.serialNumber (pyasn1.setSerialNumber cert number)) := by
    rw [same]
    exact few
  rw [der.encodeCertificate_eq _ stillFew]
  unfold beforeSerial
  rw [same, der.version_set, der.afterSerial_set, der.afterTbs_set, sameLength]

include der in
/-- A short integer has a header of two bytes. -/
theorem integer_found {number : Int} (few : ShortSerial number) :
    derValueOffsetLength (pyasn1.encodeInteger number) =
      some ⟨2, (Der.integerContent number).length⟩ := by
  have short : (Der.integerContent number).length < 128 := few.trans_lt (by decide)
  have found := derValueOffsetLength_encode
    (Der.object 0x02 (Der.integerContent number) (short.trans (by decide))) []
  have header : (Der.object 0x02 (Der.integerContent number)
      (short.trans (by decide))).header.length = 2 := by
    show (Der.lengthOctets (Der.integerContent number).length).length + 1 = 2
    rw [Der.lengthOctets, if_pos short]
    rfl
  rw [List.append_nil, header] at found
  rw [der.encodeInteger number few]
  exact found

/-- **The serial number is found.** The altered serial number differs from the
original in its first content byte and is minimal with as many content bytes, and
the first difference of the two certificates is the first content byte. -/
theorem certSnOffsetLength_exact (few : ShortSerial (pyasn1.serialNumber cert)) :
    ∃ altered : Int,
      alteredSerial (pyasn1.encodeInteger (pyasn1.serialNumber cert)) 2 =
        some (Der.encode 0x02 (Der.integerContent altered)) ∧
      Der.Minimal (Der.integerContent altered) ∧
      (Der.integerContent altered).length =
        (Der.integerContent (pyasn1.serialNumber cert)).length ∧
      (Der.integerContent altered).head? ≠
        (Der.integerContent (pyasn1.serialNumber cert)).head? ∧
      pyasn1.encodeCertificate cert =
        der.beforeSerial cert ++ (Der.integerContent (pyasn1.serialNumber cert) ++
          (der.afterSerial cert ++ der.afterTbs cert)) ∧
      certSnOffsetLength pyasn1 cert =
        some (some (der.beforeSerial cert).length,
          (Der.integerContent (pyasn1.serialNumber cert)).length) := by
  have found := der.integer_found few
  have shown := der.encodeCertificate_eq cert few
  have encoded := der.encodeInteger (pyasn1.serialNumber cert) few
  unfold ShortSerial at few
  cases content : Der.integerContent (pyasn1.serialNumber cert) with
  | nil => exact absurd content (Der.integerContent_ne_nil _)
  | cons msb rest =>
      rw [content] at found shown encoded few
      have minimal := minimal_altered msb rest
      have value := Der.content_integerValue minimal
      have altered : alteredSerial (pyasn1.encodeInteger (pyasn1.serialNumber cert)) 2 =
          some (Der.encode 0x02 (alteredByte msb :: rest)) := by
        rw [encoded]
        exact alteredSerial_encode msb rest few
      refine ⟨Der.integerValue (alteredByte msb :: rest), ?_⟩
      have sameLength : (Der.integerContent (Der.integerValue (alteredByte msb :: rest))).length =
          (Der.integerContent (pyasn1.serialNumber cert)).length := by
        rw [value, content]
        rfl
      have alteredFew : ShortSerial (Der.integerValue (alteredByte msb :: rest)) := by
        unfold ShortSerial
        rw [value]
        exact few
      have replaced := der.encodeCertificate_set cert alteredFew sameLength
      have decoded := der.decodeInteger _ alteredFew
      rw [der.encodeInteger _ alteredFew] at decoded
      rw [value] at replaced decoded ⊢
      refine ⟨altered, minimal, rfl, ?_, shown, ?_⟩
      · intro same
        exact alteredByte_ne msb (Option.some.inj same)
      · unfold certSnOffsetLength
        simp only [found, altered, der.decodeCertificate, decoded, Option.bind_eq_bind,
          Option.bind_some]
        rw [shown, replaced, List.cons_append, List.cons_append,
          diffOffset_common _ (Ne.symm (alteredByte_ne msb)) rfl]
        rfl

end Pyasn1.Distinguished

/-- Certificates that differ in nothing but a short serial number. -/
private def serialOnly : Pyasn1 { number : Int // ShortSerial number } where
  encodeCertificate cert :=
    Der.encode 0x30 (Der.encode 0x30 ([0xa0, 3, 2, 1, 2] ++
      Der.encode 0x02 (Der.integerContent cert.1) ++ [0x30, 0]) ++ [0x30, 0, 3, 1, 0])
  decodeCertificate der :=
    let number := Der.integerValue ((der.drop 11).take (der.length - 18))
    if short : ShortSerial number then some ⟨number, short⟩ else none
  serialNumber cert := cert.1
  setSerialNumber cert number := if short : ShortSerial number then ⟨number, short⟩ else cert
  encodeInteger number := Der.encode 0x02 (Der.integerContent number)
  decodeInteger der := some (Der.integerValue (der.drop 2))

private theorem header_of_short (tag : UInt8) {length : Nat} (short : length < 128) :
    Der.header tag length = [tag, UInt8.ofNat length] := by
  unfold Der.header Der.lengthOctets
  rw [if_pos short]

private theorem beforeContent_of_short {length : Nat} (few : length ≤ 20) :
    (beforeContent [0xa0, 3, 2, 1, 2] [0x30, 0] [0x30, 0, 3, 1, 0] length).length = 11 := by
  unfold beforeContent
  dsimp only
  rw [header_of_short 0x02 (by omega)]
  have tbs := header_of_short 0x30 (show 5 + (2 + length) + 2 < 128 by omega)
  show (Der.header 0x30 ((Der.header 0x30 (5 + (2 + length) + 2)).length +
    (5 + (2 + length) + 2) + 5) ++ (Der.header 0x30 (5 + (2 + length) + 2) ++ _)).length = 11
  rw [tbs]
  have cert := header_of_short 0x30 (show 2 + (5 + (2 + length) + 2) + 5 < 128 by omega)
  show (Der.header 0x30 (2 + (5 + (2 + length) + 2) + 5) ++ _).length = 11
  rw [cert]
  rfl

private def serialOnly_distinguished : serialOnly.Distinguished where
  version _ := [0xa0, 3, 2, 1, 2]
  afterSerial _ := [0x30, 0]
  afterTbs _ := [0x30, 0, 3, 1, 0]
  encodeInteger _ _ := rfl
  decodeInteger number few := by
    show some (Der.integerValue ((Der.encode 0x02 (Der.integerContent number)).drop 2)) = _
    rw [Der.encode, header_of_short 0x02 (few.trans_lt (by decide))]
    exact congrArg some (Der.integerValue_content number)
  encodeCertificate _ := rfl
  decodeCertificate := by
    rintro ⟨number, few⟩
    have before := beforeContent_of_short few
    have stripped : ((serialOnly.encodeCertificate ⟨number, few⟩).drop 11).take
        ((serialOnly.encodeCertificate ⟨number, few⟩).length - 18) =
          Der.integerContent number := by
      show ((Der.encode 0x30 _).drop 11).take ((Der.encode 0x30 _).length - 18) = _
      rw [nested_encode, ← before, List.drop_left, List.length_append, before,
        List.length_append]
      show (Der.integerContent number ++ _).take
        (11 + ((Der.integerContent number).length + 7) - 18) = _
      rw [show 11 + ((Der.integerContent number).length + 7) - 18 =
        (Der.integerContent number).length by omega, List.take_left]
    unfold serialOnly at stripped ⊢
    dsimp only at stripped ⊢
    rw [stripped]
    simp [Der.integerValue_content, few]
  serialNumber_set cert number few := by
    show (serialOnly.setSerialNumber cert number).1 = number
    unfold serialOnly
    simp [few]
  version_set _ _ := rfl
  afterSerial_set _ _ := rfl
  afterTbs_set _ _ := rfl

private theorem minusOne_content : Der.integerContent (-1) = [0xff] :=
  Der.integerContent_of_small (by decide)

private theorem minusOne_short : ShortSerial (-1) := by
  unfold ShortSerial
  rw [minusOne_content]
  decide

/-- The serial number -1, whose only byte is FF. -/
theorem certSnOffsetLength_minusOne :
    certSnOffsetLength serialOnly ⟨-1, minusOne_short⟩ = some (some 11, 1) := by
  obtain ⟨_, _, _, _, _, _, located⟩ :=
    serialOnly_distinguished.certSnOffsetLength_exact ⟨-1, minusOne_short⟩ minusOne_short
  have length : (Der.integerContent (serialOnly.serialNumber ⟨-1, minusOne_short⟩)).length = 1 :=
    congrArg List.length minusOne_content
  have before : (serialOnly_distinguished.beforeSerial ⟨-1, minusOne_short⟩).length = 11 :=
    beforeContent_of_short minusOne_short
  rw [length, before] at located
  exact located

end MicrochipDay.Provisioning
