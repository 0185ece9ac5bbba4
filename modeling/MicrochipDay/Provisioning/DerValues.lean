import MicrochipDay.Library.Der
import MicrochipDay.Library.Exception

/-!
Owns the values of a certificate under the distinguished encoding rules
(atcacert_der.c): lengths, integers and signatures. What is written is what the rules
say, and is read as it was.

Sizes are numbers without bounds but where the source adds them in 32 bits. The `size_t`
of the AVR has sixteen, and its sums do not wrap either: to the size of an array they add
at most a tag, five bytes of length and one of padding, and every array shares the 64 KiB
of the data space with the registers and the stack. Buffers too small to be written into
are left out, and so are the calls that only ask for a size.
-/

namespace MicrochipDay.Provisioning

open MicrochipDay.Library

/-- The `ATCACERT_E_*` codes that are returned here. -/
inductive DerError where
  | badParams
  | bufferTooSmall
  | decodingError
deriving DecidableEq, Repr

/-! ## Lengths -/

/-- The loop of `atcacert_der_enc_length` that looks for the first octet that is not
zero, from `exp` down. -/
def firstOctet (length : Nat) : (exp : Nat) → Nat
  | 0 => 0
  | exp + 1 => if length / 2 ^ (8 * (exp + 1)) = 0 then firstOctet length exp else exp + 1

/-- Its loop over the octets, from `exp` down to 0. -/
def octetsFrom (length : Nat) : (exp : Nat) → List UInt8
  | 0 => [UInt8.ofNat (length &&& 0xff)]
  | exp + 1 => UInt8.ofNat (length >>> ((exp + 1) * 8) &&& 0xff) :: octetsFrom length exp

/-- `atcacert_der_enc_length`. -/
def atcacertDerEncLength (length : Nat) : List UInt8 :=
  if length < 0x80 then octetsFrom length 0
  else
    let exp := firstOctet length 3
    (0x80 ||| UInt8.ofNat (exp + 1)) :: octetsFrom length exp

/-- The loop of `atcacert_der_dec_length`. -/
def decLengthLoop : List UInt8 → Nat → Nat
  | [], length => length
  | octet :: octets, length =>
      decLengthLoop octets ((length + octet.toNat * 2 ^ (8 * octets.length)) % 2 ^ 32)

/-- `atcacert_der_dec_length`: the size of the length, and the length. -/
def atcacertDerDecLength : List UInt8 → Except DerError (Nat × Nat)
  | [] => .error .decodingError
  | first :: rest =>
      if first &&& 0x80 ≠ 0 then
        let numBytes := (first &&& 0x7F).toNat
        if (first :: rest).length < numBytes + 1 then .error .decodingError
        else if numBytes = 0 then .error .decodingError
        else if numBytes > 4 then .error .decodingError
        else .ok (numBytes + 1, decLengthLoop (rest.take numBytes) 0)
      else .ok (1, first.toNat)

/-! ## Integers -/

/-- The loop of `atcacert_der_enc_integer`: a byte goes when the upper nine bits are all
zeros or all ones. -/
def trimInteger : List UInt8 → List UInt8
  | first :: second :: rest =>
      if (first = 0x00 ∧ second &&& 0x80 = 0) ∨ (first = 0xFF ∧ second &&& 0x80 ≠ 0) then
        trimInteger (second :: rest)
      else first :: second :: rest
  | octets => octets

/-- The contents that `atcacert_der_enc_integer` writes. -/
def integerOctets (intData : List UInt8) (isUnsigned : Bool) : List UInt8 :=
  if ¬(isUnsigned ∧ intData.getD 0 0 &&& 0x80 ≠ 0) then trimInteger intData
  else 0 :: intData

/-- `atcacert_der_enc_integer`. -/
def atcacertDerEncInteger (intData : List UInt8) (isUnsigned : Bool) :
    Except DerError (List UInt8) :=
  if intData.length = 0 then .error .badParams
  else
    let octets := integerOctets intData isUnsigned
    .ok (0x02 :: atcacertDerEncLength octets.length ++ octets)

/-- A check that fails with a decoding error. -/
def require (holds : Prop) [Decidable holds] : Except DerError Unit :=
  if holds then .ok () else .error .decodingError

/-- `atcacert_der_dec_integer` into a buffer of `intDataSize` bytes: the size of the
object, and its contents. -/
def atcacertDerDecInteger (derInt : List UInt8) (intDataSize : Nat) :
    Except DerError (Nat × List UInt8) := do
  require (derInt[0]? = some 0x02)
  let length ← atcacertDerDecLength (derInt.drop 1)
  let size := (1 + length.1 + length.2) % 2 ^ 32
  require (size ≤ derInt.length)
  if intDataSize < length.2 then .error .bufferTooSmall
  else .ok (size, (derInt.drop (1 + length.1)).take length.2)

/-! ## Signatures -/

/-- `atcacert_der_enc_ecdsa_sig_value`. -/
def atcacertDerEncEcdsaSigValue (rawSig : List UInt8) : Except DerError (List UInt8) := do
  let r ← atcacertDerEncInteger (rawSig.take 32) true
  let s ← atcacertDerEncInteger ((rawSig.drop 32).take 32) true
  let derSigSize := 5 + r.length + s.length
  .ok (0x03 :: UInt8.ofNat (derSigSize - 2) :: 0x00 :: 0x30 :: UInt8.ofNat (derSigSize - 5) ::
    (r ++ s))

/-- One of the two numbers of a signature, in 32 bytes. -/
def fixedInteger (intData : List UInt8) : Except DerError (List UInt8) :=
  if intData.length ≤ 32 then .ok (List.replicate (32 - intData.length) 0 ++ intData)
  else if intData.length = 33 then
    if intData.getD 0 0 ≠ 0x00 then .error .decodingError else .ok (intData.drop 1)
  else .error .decodingError

/-- `atcacert_der_dec_ecdsa_sig_value`: the size of the object, and the signature. -/
def atcacertDerDecEcdsaSigValue (derSig : List UInt8) : Except DerError (Nat × List UInt8) := do
  require (derSig[0]? = some 0x03)
  let bitString ← atcacertDerDecLength (derSig.drop 1)
  let currIdx := 1 + bitString.1
  require ((currIdx + bitString.2) % 2 ^ 32 ≤ derSig.length)
  -- the spare bits, and the tag of the sequence
  require (derSig[currIdx]? = some 0x00)
  require (derSig[currIdx + 1]? = some 0x30)
  require (currIdx + 2 < derSig.length)
  let sequence ← atcacertDerDecLength (derSig.drop (currIdx + 2))
  let currIdx := currIdx + 2 + sequence.1
  require ((currIdx + sequence.2) % 2 ^ 32 ≤ derSig.length)
  require (currIdx < derSig.length)
  let r ← atcacertDerDecInteger (derSig.drop currIdx) 33
  let rRaw ← fixedInteger r.2
  require (currIdx + r.1 < derSig.length)
  let s ← atcacertDerDecInteger (derSig.drop (currIdx + r.1)) 33
  let sRaw ← fixedInteger s.2
  require (sequence.2 = r.1 + s.1)
  require (bitString.2 = r.1 + s.1 + 3)
  .ok (currIdx + r.1 + s.1, rRaw ++ sRaw)

/-! ## Lengths are written as the rules say -/

theorem octetsFrom_eq (length exp : Nat) :
    octetsFrom length exp = BigEndian.toBytes (exp + 1) length := by
  have byte (shift : Nat) : UInt8.ofNat (length >>> shift &&& 0xff) =
      UInt8.ofNat (length / 2 ^ shift % 256) := by
    rw [Nat.shiftRight_eq_div_pow, Nat.and_two_pow_sub_one_eq_mod _ 8]
  induction exp with
  | zero =>
      have last := byte 0
      rw [Nat.shiftRight_zero, Nat.pow_zero, Nat.div_one] at last
      rw [octetsFrom, last]
      rfl
  | succ exp inductionHypothesis =>
      have power : (256 : Nat) ^ (exp + 1) = 2 ^ ((exp + 1) * 8) := by
        rw [Nat.mul_comm, Nat.pow_mul]
      have front := BigEndian.toBytes_add 1 (exp + 1) length
      rw [power, Nat.add_comm 1 (exp + 1)] at front
      rw [octetsFrom, inductionHypothesis, byte, front]
      rfl

theorem firstOctet_spec {length : Nat} (positive : 0 < length) (exp : Nat)
    (fits : length < 256 ^ (exp + 1)) :
    256 ^ firstOctet length exp ≤ length ∧ length < 256 ^ (firstOctet length exp + 1) ∧
      firstOctet length exp ≤ exp := by
  induction exp with
  | zero => exact ⟨positive, fits, Nat.le_refl 0⟩
  | succ exp inductionHypothesis =>
      have power : (2 : Nat) ^ (8 * (exp + 1)) = 256 ^ (exp + 1) := by rw [Nat.pow_mul]
      rw [firstOctet, power]
      split
      · rename_i none
        have shorter := (Nat.div_eq_zero_iff_lt (Nat.pow_pos (by decide))).mp none
        have spec := inductionHypothesis shorter
        exact ⟨spec.1, spec.2.1, by omega⟩
      · rename_i some
        have enough : ¬length < 256 ^ (exp + 1) := fun shorter => some (Nat.div_eq_of_lt shorter)
        exact ⟨Nat.le_of_not_lt enough, fits, Nat.le_refl _⟩

/-- The octets of a length are the only ones the rules allow. -/
theorem encLength_eq {length : Nat} (fits : length < 2 ^ 32) :
    atcacertDerEncLength length = Der.lengthOctets length := by
  unfold atcacertDerEncLength Der.lengthOctets
  split
  · rename_i small
    have byte : UInt8.ofNat (length % 256) = UInt8.ofNat length :=
      BigEndian.ofNat_eq_of_mod (Nat.mod_mod _ _)
    rw [octetsFrom_eq, BigEndian.toBytes, byte]
    rfl
  · rename_i large
    obtain ⟨atLeast, less, few⟩ := firstOctet_spec (show 0 < length by omega) 3 fits
    have digits := Der.digits_eq_toBytes atLeast less
    have count : ∀ exp ≤ 3, (0x80 ||| UInt8.ofNat (exp + 1) : UInt8) =
        UInt8.ofNat (128 + (exp + 1)) := by decide
    dsimp only
    rw [octetsFrom_eq, digits, BigEndian.toBytes_length, count _ few]

/-! ## Lengths are read as they were written -/

theorem decLengthLoop_eq (octets : List UInt8) : ∀ length : Nat, length < 2 ^ 32 →
    decLengthLoop octets length = (length + BigEndian.fromBytes octets) % 2 ^ 32 := by
  induction octets with
  | nil =>
      intro length small
      exact (Nat.mod_eq_of_lt small).symm
  | cons octet octets inductionHypothesis =>
      intro length small
      have power : (2 : Nat) ^ (8 * octets.length) = 256 ^ octets.length := by rw [Nat.pow_mul]
      rw [decLengthLoop, inductionHypothesis _ (Nat.mod_lt _ (by decide)), Nat.mod_add_mod,
        BigEndian.fromBytes_cons, power, Nat.add_assoc]

theorem topBit (octet : UInt8) : octet &&& 0x80 = 0 ↔ octet.toNat < 128 := by
  have all : ∀ number < 256, UInt8.ofNat number &&& 0x80 = 0 ↔ number < 128 := by decide +kernel
  have own := all octet.toNat octet.toNat_lt
  rwa [UInt8.ofNat_toNat] at own

theorem decLength_short {octet : UInt8} (small : octet.toNat < 128) (rest : List UInt8) :
    atcacertDerDecLength (octet :: rest) = .ok (1, octet.toNat) := by
  rw [atcacertDerDecLength, if_neg (not_not.mpr ((topBit octet).mpr small))]

/-- A length that is written is read, whatever follows it. -/
theorem decLength_enc {length : Nat} (fits : length < 2 ^ 32) (rest : List UInt8) :
    atcacertDerDecLength (atcacertDerEncLength length ++ rest) =
      .ok ((atcacertDerEncLength length).length, length) := by
  by_cases small : length < 128
  · have octets : atcacertDerEncLength length = [UInt8.ofNat length] := by
      rw [encLength_eq fits, Der.lengthOctets, if_pos small]
    have value : (UInt8.ofNat length).toNat = length :=
      UInt8.toNat_ofNat_of_lt' (show length < 256 by omega)
    rw [octets, List.singleton_append, decLength_short (by omega), value]
    rfl
  · obtain ⟨_, less, few⟩ := firstOctet_spec (show 0 < length by omega) 3 fits
    have written : atcacertDerEncLength length = (0x80 ||| UInt8.ofNat (firstOctet length 3 + 1)) ::
        BigEndian.toBytes (firstOctet length 3 + 1) length := by
      unfold atcacertDerEncLength
      rw [if_neg small]
      dsimp only
      rw [octetsFrom_eq]
    generalize firstOctet length 3 = exp at less few written
    have bits : ∀ exp ≤ 3, (0x80 ||| UInt8.ofNat (exp + 1) : UInt8) &&& 0x80 ≠ 0 ∧
        ((0x80 ||| UInt8.ofNat (exp + 1) : UInt8) &&& 0x7F).toNat = exp + 1 := by decide
    obtain ⟨long, count⟩ := bits exp few
    have size := BigEndian.toBytes_length (exp + 1) length
    have enough : exp + 1 ≤ (BigEndian.toBytes (exp + 1) length ++ rest).length := by
      rw [List.length_append, size]
      omega
    rw [written, List.cons_append, atcacertDerDecLength, if_pos long, count,
      if_neg (by rw [List.length_cons]; omega), if_neg (by omega), if_neg (by omega),
      List.take_left' size, decLengthLoop_eq _ 0 (by decide), BigEndian.fromBytes_toBytes,
      Nat.mod_eq_of_lt less, Nat.zero_add, Nat.mod_eq_of_lt fits, List.length_cons, size]

/-! ## Integers keep their values -/

/-- What is left of the octets is as short as their value allows. -/
theorem trimInteger_spec (octets : List UInt8) (nonempty : octets ≠ []) :
    Der.Minimal (trimInteger octets) ∧
      Der.integerValue (trimInteger octets) = Der.integerValue octets := by
  induction octets using trimInteger.induct with
  | case1 first second rest spare inductionHypothesis =>
      have shorter := inductionHypothesis (List.cons_ne_nil second rest)
      rw [trimInteger, if_pos spare]
      refine ⟨shorter.1, shorter.2.trans ?_⟩
      -- the first octet only repeats the sign of the second one
      have repeated : Der.signed second = Der.signed first * 256 + second.toNat := by
        have bound := second.toNat_lt
        unfold Der.signed
        rcases spare with ⟨zero, positive⟩ | ⟨ones, negative⟩
        · have below := (topBit second).mp positive
          rw [zero, if_pos below, if_pos (show (0 : UInt8).toNat < 128 by decide)]
          show (second.toNat : Int) = 0 * 256 + second.toNat
          omega
        · have above := mt (topBit second).mpr negative
          rw [ones, if_neg above, if_neg (show ¬(0xFF : UInt8).toNat < 128 by decide)]
          show (second.toNat : Int) - 256 = (255 - 256) * 256 + second.toNat
          omega
      show rest.foldl _ (Der.signed second) =
        rest.foldl _ (Der.signed first * 256 + second.toNat)
      rw [repeated]
  | case2 first second rest needed =>
      rw [trimInteger, if_neg needed]
      refine ⟨⟨?_, ?_⟩, rfl⟩
      · rintro ⟨zero, below⟩
        exact needed (.inl ⟨UInt8.toNat_inj.mp zero, (topBit second).mpr below⟩)
      · rintro ⟨ones, above⟩
        exact needed (.inr ⟨UInt8.toNat_inj.mp ones, fun positive =>
          absurd ((topBit second).mp positive) (by omega)⟩)
  | case3 octets short =>
      match octets, nonempty, short with
      | [octet], _, _ => exact ⟨trivial, rfl⟩
      | first :: second :: rest, _, short => exact absurd rfl (short first second rest)

/-- Only zeros are taken from a number that begins without a sign. -/
theorem trimInteger_zeros (octets : List UInt8) (positive : (octets.getD 0 0).toNat < 128) :
    octets = List.replicate (octets.length - (trimInteger octets).length) 0 ++
      trimInteger octets ∧ (trimInteger octets).length ≤ octets.length := by
  induction octets using trimInteger.induct with
  | case1 first second rest spare inductionHypothesis =>
      rcases spare with ⟨zero, below⟩ | ⟨ones, _⟩
      · obtain ⟨stripped, shorter⟩ := inductionHypothesis ((topBit second).mp below)
        rw [trimInteger, if_pos (.inl ⟨zero, below⟩)]
        refine ⟨?_, Nat.le_succ_of_le shorter⟩
        rw [List.length_cons, Nat.succ_sub shorter, List.replicate_succ, List.cons_append,
          ← stripped, zero]
      · rw [ones] at positive
        have below : (0xFF : UInt8).toNat < 128 := positive
        exact absurd below (by decide)
  | case2 first second rest needed =>
      rw [trimInteger, if_neg needed, Nat.sub_self]
      exact ⟨rfl, Nat.le_refl _⟩
  | case3 octets short =>
      have same : trimInteger octets = octets := by
        rw [trimInteger]
        exact short
      rw [same, Nat.sub_self]
      exact ⟨rfl, Nat.le_refl _⟩

/-- The number that `atcacert_der_enc_integer` is given. -/
def integerGiven (intData : List UInt8) (isUnsigned : Bool) : Int :=
  if isUnsigned then BigEndian.fromBytes intData else Der.integerValue intData

/-- The contents of an integer are those of the number that is given. -/
theorem integerOctets_eq {intData : List UInt8} (nonempty : intData ≠ []) (isUnsigned : Bool) :
    integerOctets intData isUnsigned = Der.integerContent (integerGiven intData isUnsigned) := by
  obtain ⟨first, rest, rfl⟩ := List.exists_cons_of_ne_nil nonempty
  obtain ⟨minimal, value⟩ := trimInteger_spec (first :: rest) nonempty
  unfold integerOctets integerGiven
  cases isUnsigned with
  | false =>
      rw [if_pos (by simp), if_neg Bool.false_ne_true, ← value, Der.content_integerValue minimal]
  | true =>
      rw [if_pos rfl]
      split
      · rename_i plain
        have positive : first.toNat < 128 := by
          by_contra negative
          exact plain ⟨rfl, mt (topBit first).mp negative⟩
        rw [← Der.integerValue_of_positive positive, ← value, Der.content_integerValue minimal]
      · rename_i padded
        have above : 128 ≤ first.toNat := by
          by_contra positive
          exact padded fun both => both.2 ((topBit first).mpr (by omega))
        have spelled : Der.Minimal (0 :: first :: rest) :=
          ⟨fun zeros => absurd zeros.2 (by omega), fun ones => absurd ones.1 (by decide)⟩
        have own := Der.content_integerValue spelled
        rw [Der.integerValue_of_positive (by decide), BigEndian.fromBytes_cons] at own
        rw [← own]
        refine congrArg Der.integerContent ?_
        rw [show (0 : UInt8).toNat = 0 from rfl, Nat.zero_mul, Nat.zero_add]

/-! ## Integers are read as they were written -/

theorem encLength_length_le {length : Nat} (fits : length < 2 ^ 32) :
    (atcacertDerEncLength length).length ≤ 5 := by
  unfold atcacertDerEncLength
  split
  · exact (by decide : 1 ≤ 5)
  · rename_i large
    have few := (firstOctet_spec (show 0 < length by omega) 3 fits).2.2
    dsimp only
    rw [List.length_cons, octetsFrom_eq, BigEndian.toBytes_length]
    omega

/-- An object is read as its contents when the buffer has room for them. -/
theorem decInteger_object {octets : List UInt8} (few : octets.length < 2 ^ 31)
    {intDataSize : Nat} (room : octets.length ≤ intDataSize) (rest : List UInt8) :
    atcacertDerDecInteger (0x02 :: atcacertDerEncLength octets.length ++ octets ++ rest)
        intDataSize =
      .ok ((0x02 :: atcacertDerEncLength octets.length ++ octets).length, octets) := by
  have short := encLength_length_le (show octets.length < 2 ^ 32 by omega)
  have length := decLength_enc (show octets.length < 2 ^ 32 by omega) (octets ++ rest)
  generalize atcacertDerEncLength octets.length = header at short length ⊢
  have size : (0x02 :: header ++ octets).length = 1 + header.length + octets.length := by
    rw [List.length_append, List.length_cons, Nat.add_comm header.length 1]
  have sum : (1 + header.length + octets.length) % 2 ^ 32 = 1 + header.length + octets.length :=
    Nat.mod_eq_of_lt (by omega)
  have contents : ((0x02 :: header ++ octets ++ rest).drop (1 + header.length)).take
      octets.length = octets := by
    rw [List.append_assoc, List.drop_left' (by rw [List.length_cons, Nat.add_comm]),
      List.take_left]
  unfold atcacertDerDecInteger
  refine Exception.bind_eq_ok.mpr ⟨(), if_pos rfl, ?_⟩
  refine Exception.bind_eq_ok.mpr ⟨(header.length, octets.length), ?_, ?_⟩
  · rw [← length, List.append_assoc]
    rfl
  dsimp only
  rw [sum, contents, size]
  refine Exception.bind_eq_ok.mpr ⟨(), if_pos ?_, if_neg (Nat.not_lt.mpr room)⟩
  rw [List.length_append, size]
  exact Nat.le_add_right _ _

/-- What is written for an integer is its object under the rules. -/
theorem encInteger_eq {intData : List UInt8} (nonempty : intData ≠ []) (isUnsigned : Bool)
    (few : (Der.integerContent (integerGiven intData isUnsigned)).length < 2 ^ 32) :
    atcacertDerEncInteger intData isUnsigned =
      .ok (Der.encode 0x02 (Der.integerContent (integerGiven intData isUnsigned))) := by
  unfold atcacertDerEncInteger
  rw [if_neg (mt List.length_eq_zero_iff.mp nonempty), integerOctets_eq nonempty]
  dsimp only
  rw [encLength_eq few]
  rfl

theorem integerOctets_length_le (intData : List UInt8) (isUnsigned : Bool) :
    (integerOctets intData isUnsigned).length ≤ intData.length + 1 := by
  have trimmed (octets : List UInt8) : (trimInteger octets).length ≤ octets.length := by
    induction octets using trimInteger.induct with
    | case1 first second rest spare inductionHypothesis =>
        rw [trimInteger, if_pos spare]
        exact Nat.le_succ_of_le inductionHypothesis
    | case2 first second rest needed => rw [trimInteger, if_neg needed]
    | case3 octets short =>
        rw [trimInteger]
        exact short
  unfold integerOctets
  split
  · exact Nat.le_succ_of_le (trimmed intData)
  · exact Nat.le_refl _

/-- An integer, with or without a sign, is written as the rules say: as few octets as its
value allows. It is read as those octets, whatever follows it, when the buffer has room for
them. -/
theorem atcacertDerDecInteger_enc {intData : List UInt8} (nonempty : intData ≠ [])
    (few : intData.length < 2 ^ 31 - 1) (isUnsigned : Bool) {bytes : List UInt8}
    (encoded : atcacertDerEncInteger intData isUnsigned = .ok bytes) (rest : List UInt8) :
    let octets := Der.integerContent (integerGiven intData isUnsigned)
    bytes = Der.encode 0x02 octets ∧
      ∀ intDataSize, octets.length ≤ intDataSize →
        atcacertDerDecInteger (bytes ++ rest) intDataSize = .ok (bytes.length, octets) := by
  intro octets
  have bound := integerOctets_length_le intData isUnsigned
  have contents : integerOctets intData isUnsigned = octets := integerOctets_eq nonempty isUnsigned
  rw [contents] at bound
  have standard := encInteger_eq nonempty isUnsigned (show octets.length < 2 ^ 32 by omega)
  have known : bytes = Der.encode 0x02 octets := Except.ok.inj (encoded.symm.trans standard)
  refine ⟨known, fun intDataSize room => ?_⟩
  have object : Der.encode 0x02 octets = 0x02 :: atcacertDerEncLength octets.length ++ octets := by
    rw [encLength_eq (by omega)]
    rfl
  rw [known, object]
  exact decInteger_object (by omega) room rest

theorem atcacertDerDecInteger_enc_zeros :
    [0x02, 0x02, 0x00, 0x80] =
        Der.encode 0x02 (Der.integerContent (integerGiven [0x00, 0x00, 0x80] false)) ∧
      ∀ intDataSize,
        (Der.integerContent (integerGiven [0x00, 0x00, 0x80] false)).length ≤ intDataSize →
        atcacertDerDecInteger ([0x02, 0x02, 0x00, 0x80] ++ [0x05]) intDataSize =
          .ok (4, Der.integerContent (integerGiven [0x00, 0x00, 0x80] false)) :=
  atcacertDerDecInteger_enc (by decide) (by decide) false (by decide +kernel) [0x05]

/-! ## Signatures are read as they were written -/

/-- The contents of a number of 32 bytes fill them again. -/
theorem fixedInteger_octets {half : List UInt8} (size : half.length = 32) :
    fixedInteger (integerOctets half true) = .ok half := by
  unfold integerOctets
  split
  · rename_i plain
    have positive : (half.getD 0 0).toNat < 128 := by
      by_contra negative
      exact plain ⟨rfl, mt (topBit _).mp negative⟩
    obtain ⟨stripped, shorter⟩ := trimInteger_zeros half positive
    rw [size] at stripped shorter
    rw [fixedInteger, if_pos shorter, ← stripped]
  · have longer : (0 :: half).length = 33 := by rw [List.length_cons, size]
    rw [fixedInteger, if_neg (by omega), if_pos longer]
    exact if_neg (not_not.mpr rfl)

/-- Half of a signature, as an object. -/
def halfObject (half : List UInt8) : List UInt8 :=
  Der.encode 0x02 (Der.integerContent (BigEndian.fromBytes half))

theorem halfObject_spec {half : List UInt8} (size : half.length = 32) :
    atcacertDerEncInteger half true = .ok (halfObject half) ∧
      0 < (halfObject half).length ∧ (halfObject half).length ≤ 35 ∧
      ∀ rest, atcacertDerDecInteger (halfObject half ++ rest) 33 =
        .ok ((halfObject half).length, integerOctets half true) := by
  have nonempty : half ≠ [] := by
    rintro rfl
    exact absurd size (by decide)
  have bound := integerOctets_length_le half true
  have contents : integerOctets half true = Der.integerContent (BigEndian.fromBytes half) :=
    integerOctets_eq nonempty true
  rw [size] at bound
  have single : atcacertDerEncLength (integerOctets half true).length =
      [UInt8.ofNat (integerOctets half true).length] := by
    rw [encLength_eq (by omega), Der.lengthOctets, if_pos (by omega)]
  have object : halfObject half = 0x02 :: atcacertDerEncLength (integerOctets half true).length ++
      integerOctets half true := by
    rw [halfObject, ← contents, encLength_eq (by omega)]
    rfl
  have length : (halfObject half).length = 2 + (integerOctets half true).length := by
    rw [object, single, List.length_append]
    rfl
  refine ⟨?_, by omega, by omega, fun rest => ?_⟩
  · have few : (Der.integerContent (integerGiven half true)).length < 2 ^ 32 := by
      rw [← integerOctets_eq nonempty true]
      omega
    exact encInteger_eq nonempty true few
  · rw [object]
    exact decInteger_object (by omega) (by omega) rest

/-- The octets of a signature around its two numbers. -/
def signatureOctets (r s : List UInt8) : List UInt8 :=
  0x03 :: UInt8.ofNat (r.length + s.length + 3) :: 0x00 :: 0x30 ::
    UInt8.ofNat (r.length + s.length) :: (r ++ s)

section Octets

variable {r s : List UInt8}

theorem signatureOctets_length : (signatureOctets r s).length = 5 + r.length + s.length := by
  unfold signatureOctets
  simp only [List.length_cons, List.length_append]
  omega

/-- They are a bit string that holds a sequence. -/
theorem signatureOctets_eq (small : r.length + s.length < 125) :
    signatureOctets r s = Der.encode 0x03 (0x00 :: Der.encode 0x30 (r ++ s)) := by
  have octet {length : Nat} (short : length < 128) :
      Der.lengthOctets length = [UInt8.ofNat length] := if_pos short
  rw [Der.encode, Der.encode, Der.header, Der.header, List.length_cons, List.length_append,
    List.length_cons, List.length_append, octet (show r.length + s.length < 128 by omega),
    List.length_singleton, octet (by omega),
    show 1 + 1 + (r.length + s.length) + 1 = r.length + s.length + 3 by omega]
  rfl

theorem decLength_octet {length : Nat} (small : length < 128) (rest : List UInt8) :
    atcacertDerDecLength (UInt8.ofNat length :: rest) = .ok (1, length) := by
  have value : (UInt8.ofNat length).toNat = length :=
    UInt8.toNat_ofNat_of_lt' (show length < 256 by omega)
  rw [decLength_short (by omega), value]

/-- A signature is read when its two numbers are. -/
theorem decEcdsaSigValue_octets {rOctets sOctets rRaw sRaw : List UInt8}
    (small : r.length + s.length < 125) (rSome : 0 < r.length) (sSome : 0 < s.length)
    (rRead : ∀ rest, atcacertDerDecInteger (r ++ rest) 33 = .ok (r.length, rOctets))
    (sRead : ∀ rest, atcacertDerDecInteger (s ++ rest) 33 = .ok (s.length, sOctets))
    (rFixed : fixedInteger rOctets = .ok rRaw) (sFixed : fixedInteger sOctets = .ok sRaw)
    (rest : List UInt8) :
    atcacertDerDecEcdsaSigValue (signatureOctets r s ++ rest) =
      .ok ((signatureOctets r s).length, rRaw ++ sRaw) := by
  have whole : (signatureOctets r s ++ rest).length = 5 + r.length + s.length + rest.length := by
    rw [List.length_append, signatureOctets_length]
  -- behind the five bytes in front of the numbers
  have first : (signatureOctets r s ++ rest).drop 5 = r ++ (s ++ rest) := by
    rw [← List.append_assoc]
    rfl
  have second : (signatureOctets r s ++ rest).drop (5 + r.length) = s ++ rest := by
    rw [← List.drop_drop, first, List.drop_left]
  unfold atcacertDerDecEcdsaSigValue
  refine Exception.bind_eq_ok.mpr ⟨(), if_pos rfl, ?_⟩
  refine Exception.bind_eq_ok.mpr
    ⟨(1, r.length + s.length + 3), decLength_octet (by omega) _, ?_⟩
  dsimp only
  refine Exception.bind_eq_ok.mpr ⟨(), if_pos (by rw [whole]; omega), ?_⟩
  refine Exception.bind_eq_ok.mpr ⟨(), if_pos rfl, ?_⟩
  refine Exception.bind_eq_ok.mpr ⟨(), if_pos rfl, ?_⟩
  refine Exception.bind_eq_ok.mpr ⟨(), if_pos (by rw [whole]; omega), ?_⟩
  refine Exception.bind_eq_ok.mpr ⟨(1, r.length + s.length), decLength_octet (by omega) _, ?_⟩
  dsimp only
  refine Exception.bind_eq_ok.mpr ⟨(), if_pos (by rw [whole]; omega), ?_⟩
  refine Exception.bind_eq_ok.mpr ⟨(), if_pos (by rw [whole]; omega), ?_⟩
  refine Exception.bind_eq_ok.mpr ⟨(r.length, rOctets), ?_, ?_⟩
  · rw [← rRead (s ++ rest), ← first]
  refine Exception.bind_eq_ok.mpr ⟨rRaw, rFixed, ?_⟩
  refine Exception.bind_eq_ok.mpr ⟨(), if_pos (by rw [whole]; omega), ?_⟩
  refine Exception.bind_eq_ok.mpr ⟨(s.length, sOctets), ?_, ?_⟩
  · rw [← sRead rest, ← second]
  refine Exception.bind_eq_ok.mpr ⟨sRaw, sFixed, ?_⟩
  refine Exception.bind_eq_ok.mpr ⟨(), if_pos rfl, ?_⟩
  refine Exception.bind_eq_ok.mpr ⟨(), if_pos rfl, ?_⟩
  rw [signatureOctets_length]

end Octets

theorem encEcdsaSigValue_eq {rawSig : List UInt8} (size : rawSig.length = 64) :
    atcacertDerEncEcdsaSigValue rawSig =
      .ok (signatureOctets (halfObject (rawSig.take 32)) (halfObject (rawSig.drop 32))) := by
  have second : (rawSig.drop 32).length = 32 := by rw [List.length_drop, size]
  have first : (rawSig.take 32).length = 32 := List.length_take_of_le (by omega)
  have whole : (rawSig.drop 32).take 32 = rawSig.drop 32 := List.take_of_length_le second.le
  unfold atcacertDerEncEcdsaSigValue
  rw [whole]
  refine Exception.bind_eq_ok.mpr ⟨_, (halfObject_spec first).1, ?_⟩
  refine Exception.bind_eq_ok.mpr ⟨_, (halfObject_spec second).1, ?_⟩
  generalize halfObject (rawSig.take 32) = r
  generalize halfObject (rawSig.drop 32) = s
  dsimp only
  rw [show 5 + r.length + s.length - 2 = r.length + s.length + 3 by omega,
    show 5 + r.length + s.length - 5 = r.length + s.length by omega]
  rfl

/-- A signature is written as a bit string that holds a sequence of its two numbers, each
as the rules say, and is read as it was, whatever follows it. -/
theorem atcacertDerEcdsaSigValue_roundTrip {rawSig : List UInt8} (size : rawSig.length = 64)
    (rest : List UInt8) :
    ∃ bytes, atcacertDerEncEcdsaSigValue rawSig = .ok bytes ∧
      bytes = Der.encode 0x03 (0x00 :: Der.encode 0x30
        (halfObject (rawSig.take 32) ++ halfObject (rawSig.drop 32))) ∧
      atcacertDerDecEcdsaSigValue (bytes ++ rest) = .ok (bytes.length, rawSig) := by
  have second : (rawSig.drop 32).length = 32 := by rw [List.length_drop, size]
  have first : (rawSig.take 32).length = 32 := List.length_take_of_le (by omega)
  obtain ⟨_, rSome, rFew, rRead⟩ := halfObject_spec first
  obtain ⟨_, sSome, sFew, sRead⟩ := halfObject_spec second
  have read := decEcdsaSigValue_octets (by omega) rSome sSome rRead sRead
    (fixedInteger_octets first) (fixedInteger_octets second) rest
  rw [List.take_append_drop] at read
  exact ⟨_, encEcdsaSigValue_eq size, signatureOctets_eq (by omega), read⟩

/-- One number is short, the other one would be negative without its padding. -/
def paddedSig : List UInt8 := List.replicate 31 0 ++ List.replicate 33 0xff

theorem atcacertDerEcdsaSigValue_roundTrip_padded :
    ∃ bytes, atcacertDerEncEcdsaSigValue paddedSig = .ok bytes ∧
      bytes = Der.encode 0x03 (0x00 :: Der.encode 0x30
        (halfObject (paddedSig.take 32) ++ halfObject (paddedSig.drop 32))) ∧
      atcacertDerDecEcdsaSigValue (bytes ++ [0x30]) = .ok (bytes.length, paddedSig) :=
  atcacertDerEcdsaSigValue_roundTrip rfl [0x30]

end MicrochipDay.Provisioning
