import MicrochipDay.Cloud.EccVerification

/-!
Owns what the answer to a signature request stands for. The size in the request
goes to the hash retrieval unchecked, a curve that the chip does not support is
answered with the status of the retrieval, and on P-256 the chip signs all of
`hash` however little of it was retrieved.
-/

namespace MicrochipDay.Cloud.EccFunctions

/-! ## `m2m_ssl_retrieve_hash` -/

/-- What `nm_read_block` does when it is asked for `size` bytes. -/
structure BlockRead (size : UInt16) where
  status : Int8
  bytes : List UInt8
  atMost : bytes.length ≤ size.toNat
  all : status = m2mSuccess → bytes.length = size.toNat

/-- The packet that the host interface holds, `gu32HIFAddr`, and what the bus answers. -/
structure HostInterface where
  gu32HIFAddr : UInt32
  u32RxAddr : UInt32
  u32RxSize : UInt32
  nmReadBlock : (size : UInt16) → BlockRead size
  hifSetRxDone : Int8

/-- `hif_receive` with a buffer and without `isDone`: its status and the bytes it writes. -/
def hifReceive (hif : HostInterface) (u32Addr : UInt32) (u16Sz : UInt16) : Int8 × List UInt8 :=
  if u32Addr = 0 ∨ u16Sz = 0 then (m2mErrFail, [])
  else if u16Sz.toUInt32 > hif.u32RxSize then (m2mErrFail, [])
  else if u32Addr < hif.u32RxAddr ∨ u32Addr + u16Sz.toUInt32 > hif.u32RxAddr + hif.u32RxSize then
    (m2mErrFail, [])
  else
    let block := hif.nmReadBlock u16Sz
    if block.status ≠ m2mSuccess then (block.status, block.bytes)
    else if hif.u32RxAddr + hif.u32RxSize - (u32Addr + u16Sz.toUInt32) ≤ 0 then
      (hif.hifSetRxDone, block.bytes)
    else (block.status, block.bytes)

theorem hifReceive_written (hif : HostInterface) (u32Addr : UInt32) (u16Sz : UInt16) :
    (hifReceive hif u32Addr u16Sz).2.length ≤ u16Sz.toNat ∧
      ((hifReceive hif u32Addr u16Sz).1 = m2mSuccess →
        u16Sz ≠ 0 ∧ (hifReceive hif u32Addr u16Sz).2.length = u16Sz.toNat) := by
  have failure : m2mErrFail ≠ m2mSuccess := by decide
  have block := hif.nmReadBlock u16Sz
  unfold hifReceive
  split
  · exact ⟨Nat.zero_le _, fun success => absurd success failure⟩
  · next valid =>
    have positive : u16Sz ≠ 0 := fun zero => valid (.inr zero)
    split
    · exact ⟨Nat.zero_le _, fun success => absurd success failure⟩
    · split
      · exact ⟨Nat.zero_le _, fun success => absurd success failure⟩
      · dsimp only
        split
        · next failed =>
          exact ⟨(hif.nmReadBlock u16Sz).atMost, fun success => absurd success failed⟩
        · next read =>
          have all := (hif.nmReadBlock u16Sz).all (by simpa using read)
          split <;> exact ⟨(hif.nmReadBlock u16Sz).atMost, fun _ => ⟨positive, all⟩⟩

theorem nothing_atMost (size : UInt16) : ([] : List UInt8).length ≤ size.toNat := Nat.zero_le _

theorem nothing_all (size : UInt16) (success : m2mErrFail = m2mSuccess) :
    size ≠ 0 ∧ ([] : List UInt8).length = size.toNat :=
  absurd success (by decide)

/-- Nothing is retrieved. -/
def HashRetrieval.nothing (size : UInt16) : HashRetrieval size :=
  ⟨m2mErrFail, [], nothing_atMost size, nothing_all size⟩

/-- `m2m_ssl_retrieve_hash`. -/
def m2mSslRetrieveHash (hif : HostInterface) (u16HashSz : UInt16) : HashRetrieval u16HashSz :=
  if hif.gu32HIFAddr = 0 then .nothing u16HashSz
  else if received : (hifReceive hif hif.gu32HIFAddr u16HashSz).1 = m2mSuccess then
    ⟨m2mSuccess, (hifReceive hif hif.gu32HIFAddr u16HashSz).2,
      (hifReceive_written hif hif.gu32HIFAddr u16HashSz).1,
      fun _ => (hifReceive_written hif hif.gu32HIFAddr u16HashSz).2 received⟩
  else
    ⟨m2mErrFail, (hifReceive hif hif.gu32HIFAddr u16HashSz).2,
      (hifReceive_written hif hif.gu32HIFAddr u16HashSz).1,
      fun success => absurd success (by decide)⟩

/-! ## Signature requests -/

/-- The response to a signature request. -/
def signResponse (device : EccDevice) (slotIndex : UInt32) (memory : EccResponse)
    (signature : List UInt8) (request : EccRequest) : EccResponse :=
  (cryptoClientRocessEccRequest device slotIndex memory signature
    { request with u16REQ := .signGen }).1

/-- The calls that `ecdsa_process_sign_gen_request` makes for a request. -/
def signCalls (device : EccDevice) (signature : List UInt8) (request : EccRequest) :
    List SignCall :=
  (ecdsaProcessSignGenRequest device request.u16CurveType request.u16HashSz signature).2.2.2

/-- What `hash` holds when a hash has been retrieved: behind its bytes, what was
there before. -/
def hashBuffer (device : EccDevice) (size : UInt16) : List UInt8 :=
  let retrieval := device.retrieveHash size
  (retrieval.written ++ device.hashMemory.drop retrieval.written.length).take hashSize

/-- Success is reported only where the chip has signed the retrieved hash of 32
bytes, with the 64 bytes of the signature in the response. -/
def SignedWhereSuccess (device : EccDevice) (slotIndex : UInt32) (memory : EccResponse)
    (signature : List UInt8) (request : EccRequest) : Prop :=
  (ecdsaProcessSignGenRequest device request.u16CurveType request.u16HashSz signature).1 =
      m2mSuccess →
    ∃ hash result, hash.length = 32 ∧
      .retrieveHash request.u16HashSz m2mSuccess hash ∈ signCalls device signature request ∧
      .sign deviceKeySlot hash 0 result ∈ signCalls device signature request ∧
      (signResponse device slotIndex memory signature request).responseData = some result ∧
      (signResponse device slotIndex memory signature request).responseDataSize = 64

/-- Besides, no more is written to `hash` than it holds. -/
def SignsOrFails (device : EccDevice) (slotIndex : UInt32) (memory : EccResponse)
    (signature : List UInt8) (request : EccRequest) : Prop :=
  (∀ size status written,
      .retrieveHash size status written ∈ signCalls device signature request →
        written.length ≤ hashSize) ∧
    SignedWhereSuccess device slotIndex memory signature request

section Requests

variable (device : EccDevice) (slotIndex : UInt32) (memory : EccResponse)
  (signature : List UInt8) {request : EccRequest}

/-- The hash is retrieved once. -/
theorem retrieveHash_mem_signCalls {size : UInt16} {status : Int8} {written : List UInt8} :
    .retrieveHash size status written ∈ signCalls device signature request ↔
      size = request.u16HashSz ∧ status = (device.retrieveHash request.u16HashSz).status ∧
        written = (device.retrieveHash request.u16HashSz).written := by
  unfold signCalls ecdsaProcessSignGenRequest
  dsimp only
  split
  · simp
  · split <;> simp

/-- For the supported curve the chip signs what `hash` holds. -/
theorem ecdsaProcessSignGenRequest_p256 (curve : request.u16CurveType = ecSecp256r1)
    (retrieved : (device.retrieveHash request.u16HashSz).status = m2mSuccess) :
    let retrieval := device.retrieveHash request.u16HashSz
    let hash := hashBuffer device request.u16HashSz
    ecdsaProcessSignGenRequest device request.u16CurveType request.u16HashSz signature =
      (sint8OfAtca (device.sign deviceKeySlot hash).1, (device.sign deviceKeySlot hash).2, 64,
        [.retrieveHash request.u16HashSz retrieval.status retrieval.written,
          .sign deviceKeySlot hash (device.sign deviceKeySlot hash).1
            (device.sign deviceKeySlot hash).2]) := by
  unfold ecdsaProcessSignGenRequest
  dsimp only
  rw [if_neg (not_not_intro retrieved), if_pos curve]
  rfl

/-- For another curve the status is that of the retrieval. -/
theorem ecdsaProcessSignGenRequest_other (curve : request.u16CurveType ≠ ecSecp256r1) :
    let retrieval := device.retrieveHash request.u16HashSz
    ecdsaProcessSignGenRequest device request.u16CurveType request.u16HashSz signature =
      (retrieval.status, signature, 0,
        [.retrieveHash request.u16HashSz retrieval.status retrieval.written]) := by
  unfold ecdsaProcessSignGenRequest
  dsimp only
  split <;> rfl

/-- A failed retrieval is answered with its status. -/
theorem ecdsaProcessSignGenRequest_failed
    (failed : (device.retrieveHash request.u16HashSz).status ≠ m2mSuccess) :
    (ecdsaProcessSignGenRequest device request.u16CurveType request.u16HashSz signature).1 =
      (device.retrieveHash request.u16HashSz).status := by
  unfold ecdsaProcessSignGenRequest
  rw [if_pos failed]

/-- The bytes that are written to `hash` are those of the retrieval. -/
theorem fits_iff :
    (∀ size status written,
        .retrieveHash size status written ∈ signCalls device signature request →
          written.length ≤ hashSize) ↔
      (device.retrieveHash request.u16HashSz).written.length ≤ hashSize := by
  constructor
  · intro fits
    exact fits _ _ _ ((retrieveHash_mem_signCalls device signature).mpr ⟨rfl, rfl, rfl⟩)
  · intro few size status written inside
    obtain ⟨-, -, rfl⟩ := (retrieveHash_mem_signCalls device signature).mp inside
    exact few

section Retrieved

variable (retrieved : (device.retrieveHash request.u16HashSz).status = m2mSuccess)
include retrieved

/-- A retrieved hash on another curve is answered with success and not signed. -/
theorem not_signedWhere_other (curve : request.u16CurveType ≠ ecSecp256r1) :
    ¬ SignedWhereSuccess device slotIndex memory signature request := by
  intro signed
  have other := ecdsaProcessSignGenRequest_other device signature curve
  have success : (ecdsaProcessSignGenRequest device request.u16CurveType request.u16HashSz
      signature).1 = m2mSuccess := by
    rw [other]
    exact retrieved
  obtain ⟨hash, result, -, -, calls, -⟩ := signed success
  unfold signCalls at calls
  rw [other] at calls
  simp at calls

/-- On P-256 a signature that was made is one of the retrieved hash exactly if
that hash fills the array. -/
theorem signedWhere_p256_iff (curve : request.u16CurveType = ecSecp256r1) :
    SignedWhereSuccess device slotIndex memory signature request ↔
      ((device.sign deviceKeySlot (hashBuffer device request.u16HashSz)).1 = 0 →
        (device.retrieveHash request.u16HashSz).written.length = 32) := by
  have made := ecdsaProcessSignGenRequest_p256 device signature curve retrieved
  dsimp only at made
  have success : (ecdsaProcessSignGenRequest device request.u16CurveType request.u16HashSz
      signature).1 = m2mSuccess ↔
        (device.sign deviceKeySlot (hashBuffer device request.u16HashSz)).1 = 0 := by
    rw [made]
    exact sint8OfAtca_eq_success_iff _
  unfold SignedWhereSuccess
  rw [success]
  constructor
  · intro signed signs
    obtain ⟨hash, result, full, hashRetrieved, -⟩ := signed signs
    obtain ⟨-, -, rfl⟩ := (retrieveHash_mem_signCalls device signature).mp hashRetrieved
    exact full
  · intro whole signs
    have full := whole signs
    -- the hash fills the array, so nothing of what it held before is signed
    have hash : hashBuffer device request.u16HashSz =
        (device.retrieveHash request.u16HashSz).written := List.take_left' full
    rw [hash] at made signs
    refine ⟨_, (device.sign deviceKeySlot (device.retrieveHash request.u16HashSz).written).2,
      full, (retrieveHash_mem_signCalls device signature).mpr ⟨rfl, retrieved.symm, rfl⟩, ?_, ?_⟩
    · unfold signCalls
      rw [made, signs]
      exact List.mem_cons_of_mem _ List.mem_cons_self
    · unfold signResponse cryptoClientRocessEccRequest
      dsimp only
      rw [made]
      exact ⟨rfl, rfl⟩

end Retrieved

/-- **When a signature request is answered with a signature of its hash or with
an error.** The bytes that `m2m_ssl_retrieve_hash` writes fit the array, and
where it succeeds the curve is P-256 and `atcab_sign` fails or 32 bytes were
retrieved. -/
theorem signGen_signsOrFails_iff :
    SignsOrFails device slotIndex memory signature request ↔
      (device.retrieveHash request.u16HashSz).written.length ≤ hashSize ∧
        ((device.retrieveHash request.u16HashSz).status = m2mSuccess →
          request.u16CurveType = ecSecp256r1 ∧
            ((device.sign deviceKeySlot (hashBuffer device request.u16HashSz)).1 = 0 →
              (device.retrieveHash request.u16HashSz).written.length = 32)) := by
  rw [SignsOrFails, fits_iff device signature]
  refine and_congr_right fun _ => ?_
  by_cases retrieved : (device.retrieveHash request.u16HashSz).status = m2mSuccess
  · rw [forall_prop_of_true retrieved]
    by_cases curve : request.u16CurveType = ecSecp256r1
    · rw [signedWhere_p256_iff device slotIndex memory signature retrieved curve]
      exact (and_iff_right curve).symm
    · have never := not_signedWhere_other device slotIndex memory signature retrieved curve
      exact iff_of_false never fun known => curve known.1
  · refine iff_of_true (fun success => ?_) fun success => absurd success retrieved
    rw [ecdsaProcessSignGenRequest_failed device signature retrieved] at success
    exact absurd success retrieved

end Requests

/-- The host interface holds a packet with a hash of 48 bytes. -/
def sha384Packet : HostInterface where
  gu32HIFAddr := 8
  u32RxAddr := 0
  u32RxSize := 56
  nmReadBlock := fun size =>
    ⟨m2mSuccess, List.replicate size.toNat 0, Nat.le_of_eq List.length_replicate,
      fun _ => List.length_replicate⟩
  hifSetRxDone := m2mSuccess

/-- A device that retrieves this hash and signs anything. -/
def willingDevice : EccDevice where
  isAtecc608A := true
  retrieveCert := fun _ => (0, { curveType := 23, hash := [], signature := [], key := ⟨[], 0, 0⟩ })
  verifyExtern := fun _ _ => (0, true)
  retrieveHash := m2mSslRetrieveHash sha384Packet
  hashMemory := List.replicate 32 0
  sign := fun _ _ => (0, List.replicate 64 1)
  genkey := fun _ => (0, [])
  ecdhBase := fun _ _ _ => (0, [])
  ecdh := fun _ _ => (0, [])

/-- A request to sign a hash of 48 bytes on P-384. -/
private def p384Request : EccRequest where
  u16REQ := .signGen
  u32UserData := 0
  u32SeqNo := 0
  strPubKey := ⟨[], 0, 0⟩
  u16CurveType := 24
  u16HashSz := 48
  u32nSig := 0

private def blankResponse : EccResponse where
  u16REQ := .other 0
  u16Status := 0
  u32UserData := 0
  u32SeqNo := 0
  strPubKey := ⟨[], 0, 0⟩
  au8Key := []
  responseData := none
  responseDataSize := 0

/-- Such a request writes 16 bytes behind `hash` and is answered with success
and no signature. -/
theorem signGen_p384 :
    (signResponse willingDevice 0 blankResponse [] p384Request).u16Status = 0 ∧
      ¬ SignsOrFails willingDevice 0 blankResponse [] p384Request := by
  refine ⟨by decide, ?_⟩
  rintro ⟨fits, -⟩
  have few := (fits_iff willingDevice []).mp fits
  revert few
  decide

end MicrochipDay.Cloud.EccFunctions
