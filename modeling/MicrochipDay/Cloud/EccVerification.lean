import MicrochipDay.Cloud.EccFunctions

/-!
Owns what a successful status of the certificate verification stands for.

A certificate on another curve than P-256 passes the loop with the status of
its retrieval, so success means that every P-256 certificate was verified, and
it means that every certificate was verified only when there is no other.
-/

namespace MicrochipDay.Cloud.EccFunctions

variable (device : EccDevice)

/-! ## Accepted certificates -/

/-- The certificate retrieved at `index` is on the supported curve. -/
def OnP256 (index : Nat) : Prop := (device.retrieveCert index).2.curveType = ecSecp256r1

instance (index : Nat) : Decidable (OnP256 device index) := by
  unfold OnP256
  infer_instance

/-- The chip reports the certificate retrieved at `index` verified. -/
def ReportedVerified (index : Nat) : Prop :=
  device.verifyExtern index (device.retrieveCert index).2 = (0, true)

def Accepts (index : Nat) : Prop :=
  (device.retrieveCert index).1 = m2mSuccess ∧
    (OnP256 device index → ReportedVerified device index)

/-- The log shows that the certificate retrieved at `index` was passed to
`atcab_verify_extern` and reported verified. -/
def Checked (calls : List VerifyCall) (index : Nat) : Prop :=
  ∃ certificate, .retrieveCert index m2mSuccess certificate ∈ calls ∧
    .verifyExtern index certificate 0 true ∈ calls

theorem sint8OfAtca_eq_success_iff (status : UInt8) :
    sint8OfAtca status = atcaSuccess ↔ status = 0 := by
  constructor
  · intro success
    exact congrArg Int8.toUInt8 success
  · rintro rfl
    rfl

theorem u16OfSint8_eq_zero_iff (status : Int8) : u16OfSint8 status = 0 ↔ status = m2mSuccess := by
  have upper := status.toInt_lt
  have lower := status.le_toInt
  rw [u16OfSint8, UInt16.ofInt, m2mSuccess, ← UInt16.toNat_inj, ← Int8.toInt_inj]
  simp only [Int.reducePow, UInt16.toNat_ofNat', Nat.reducePow, UInt16.reduceToNat,
    Int8.reduceToInt]
  omega

/-! ## One iteration -/

def acceptedCalls (index : Nat) : List VerifyCall :=
  .retrieveCert index m2mSuccess (device.retrieveCert index).2 ::
    if OnP256 device index then [.verifyExtern index (device.retrieveCert index).2 0 true] else []

section Iteration

variable {index : Nat} (remaining : Nat) (status : Int8)

/-- An accepted certificate is logged, and leaves success behind whether or not
it was verified. -/
theorem ecdsaVerifyLoop_accepts (accepted : Accepts device index) :
    ecdsaVerifyLoop device (remaining + 1) index status =
      let rest := ecdsaVerifyLoop device remaining (index + 1) m2mSuccess
      (rest.1, acceptedCalls device index ++ rest.2) := by
  rcases accepted with ⟨retrieved, verified⟩
  rw [ecdsaVerifyLoop]
  simp only [retrieved, ne_eq, not_true_eq_false, if_false]
  by_cases supported : OnP256 device index
  · have reported : device.verifyExtern index (device.retrieveCert index).2 = (0, true) :=
      verified supported
    have curve : (device.retrieveCert index).2.curveType = ecSecp256r1 := supported
    simp [acceptedCalls, curve, supported, reported, (sint8OfAtca_eq_success_iff 0).mpr rfl]
  · have curve : (device.retrieveCert index).2.curveType ≠ ecSecp256r1 := supported
    simp [acceptedCalls, curve, supported]

theorem ecdsaVerifyLoop_rejects (rejected : ¬ Accepts device index) :
    (ecdsaVerifyLoop device (remaining + 1) index status).1 ≠ m2mSuccess := by
  have failure : m2mErrFail ≠ m2mSuccess := by decide
  rw [ecdsaVerifyLoop]
  by_cases retrieved : (device.retrieveCert index).1 = m2mSuccess
  · -- the certificate was retrieved, so it is on P-256 and not verified
    have unverified : OnP256 device index ∧ ¬ ReportedVerified device index := by
      simpa [Accepts, retrieved] using rejected
    have curve : (device.retrieveCert index).2.curveType = ecSecp256r1 := unverified.1
    have notReported := unverified.2
    rw [ReportedVerified, Prod.ext_iff, not_and_or] at notReported
    simp only [retrieved, ne_eq, not_true_eq_false, if_false, curve, if_true,
      sint8OfAtca_eq_success_iff]
    rcases notReported with status | flag
    · simp [status, failure]
    · simp [flag, failure]
  · simp [retrieved]

end Iteration

/-! ## The loop -/

/-- From any iteration on, success is the status of a loop that has nothing
left to do, or means that every certificate left is accepted. -/
theorem ecdsaVerifyLoop_success_iff (remaining : Nat) :
    ∀ (index : Nat) (status : Int8),
      (ecdsaVerifyLoop device remaining index status).1 = m2mSuccess ↔
        (remaining = 0 → status = m2mSuccess) ∧
          ∀ offset < remaining, Accepts device (index + offset) := by
  induction remaining with
  | zero =>
      intro index status
      simp [ecdsaVerifyLoop]
  | succ remaining inductionHypothesis =>
      intro index status
      by_cases accepted : Accepts device index
      · rw [ecdsaVerifyLoop_accepts device remaining status accepted]
        simp only [inductionHypothesis, implies_true, true_and, Nat.add_one_ne_zero,
          false_implies]
        rw [Nat.forall_lt_succ_left]
        simp only [Nat.add_zero, accepted, true_and, Nat.add_assoc, Nat.add_comm 1]
      · have failed := ecdsaVerifyLoop_rejects device remaining status accepted
        simp only [failed, false_iff, not_and]
        intro _ all
        exact accepted (all 0 (Nat.succ_pos _))

theorem ecdsaVerifyLoop_calls (remaining : Nat) :
    ∀ (index : Nat) (status : Int8) (_ : ∀ offset < remaining, Accepts device (index + offset))
      (call : VerifyCall),
      call ∈ (ecdsaVerifyLoop device remaining index status).2 ↔
        ∃ offset < remaining, call ∈ acceptedCalls device (index + offset) := by
  induction remaining with
  | zero =>
      intro index status _ call
      simp [ecdsaVerifyLoop]
  | succ remaining inductionHypothesis =>
      intro index status accepted call
      have first : Accepts device index := accepted 0 (Nat.succ_pos _)
      have later : ∀ offset < remaining, Accepts device (index + 1 + offset) := by
        intro offset below
        rw [Nat.add_assoc, Nat.add_comm 1]
        exact accepted (offset + 1) (by omega)
      rw [ecdsaVerifyLoop_accepts device remaining status first, List.mem_append,
        inductionHypothesis _ _ later, Nat.exists_lt_succ_left]
      simp only [Nat.add_zero, Nat.add_assoc, Nat.add_comm 1]

theorem checked_iff_onP256 {count : Nat} (status : Int8)
    (accepted : ∀ offset < count, Accepts device (0 + offset)) {index : Nat}
    (below : index < count) :
    Checked (ecdsaVerifyLoop device count 0 status).2 index ↔ OnP256 device index := by
  simp only [Checked, ecdsaVerifyLoop_calls device count 0 status accepted, Nat.zero_add]
  constructor
  · rintro ⟨certificate, _, offset, _, member⟩
    by_cases supported : OnP256 device offset
    · obtain ⟨rfl, _⟩ : index = offset ∧ certificate = (device.retrieveCert offset).2 := by
        simpa [acceptedCalls, supported] using member
      exact supported
    · simp [acceptedCalls, supported] at member
  · intro supported
    exact ⟨(device.retrieveCert index).2, ⟨index, below, by simp [acceptedCalls]⟩,
      ⟨index, below, by simp [acceptedCalls, supported]⟩⟩

/-! ## The request -/

/-- At least one certificate, and every one of them checked. -/
def FullyVerified (numberOfSignatures : UInt32) : Prop :=
  1 ≤ numberOfSignatures.toNat ∧
    ∀ index < numberOfSignatures.toNat,
      Checked (ecdsaProcessSignVerifyRequest device numberOfSignatures).2 index

/-- Success of the verification, and of the request it answers, is reported
for a fully verified chain only. -/
def NeverVacuous (slotIndex : UInt32) (memory : EccResponse) (signature : List UInt8)
    (request : EccRequest) : Prop :=
  ((ecdsaProcessSignVerifyRequest device request.u32nSig).1 = m2mSuccess →
    FullyVerified device request.u32nSig) ∧
  ((cryptoClientRocessEccRequest device slotIndex memory signature
      { request with u16REQ := .signVerify }).1.u16Status = 0 →
    FullyVerified device request.u32nSig)

theorem ecdsaProcessSignVerifyRequest_success_iff (numberOfSignatures : UInt32) :
    (ecdsaProcessSignVerifyRequest device numberOfSignatures).1 = m2mSuccess ↔
      1 ≤ numberOfSignatures.toNat ∧
        ∀ index < numberOfSignatures.toNat, Accepts device index := by
  have failure : m2mErrFail ≠ m2mSuccess := by decide
  rw [ecdsaProcessSignVerifyRequest, ecdsaVerifyLoop_success_iff]
  simp only [Nat.zero_add, failure, imp_false, Nat.one_le_iff_ne_zero, ne_eq]

/-- **When verification is never vacuous.** The status stands for a fully
verified chain exactly when every certificate is on P-256 or one of them is
not accepted. -/
theorem verification_neverVacuous_iff (slotIndex : UInt32) (memory : EccResponse)
    (signature : List UInt8) (request : EccRequest) :
    NeverVacuous device slotIndex memory signature request ↔
      (∀ index < request.u32nSig.toNat, OnP256 device index) ∨
        ∃ index < request.u32nSig.toNat, ¬ Accepts device index := by
  have sameStatus : (cryptoClientRocessEccRequest device slotIndex memory signature
      { request with u16REQ := .signVerify }).1.u16Status = 0 ↔
        (ecdsaProcessSignVerifyRequest device request.u32nSig).1 = m2mSuccess :=
    u16OfSint8_eq_zero_iff _
  rw [NeverVacuous, sameStatus, and_self, ecdsaProcessSignVerifyRequest_success_iff]
  constructor
  · intro sound
    by_cases accepted : ∀ index < request.u32nSig.toNat, Accepts device index
    · refine Or.inl fun index below => ?_
      have verified := sound ⟨by omega, accepted⟩
      exact (checked_iff_onP256 device m2mErrFail (by simpa using accepted) below).mp
        (verified.2 index below)
    · exact Or.inr (by simpa using accepted)
  · rintro (supported | ⟨index, below, rejected⟩) ⟨positive, accepted⟩
    · exact ⟨positive, fun index below =>
        (checked_iff_onP256 device m2mErrFail (by simpa using accepted) below).mpr
          (supported index below)⟩
    · exact absurd (accepted index below) rejected

/-- A device whose only certificate is on P-384, which the loop retrieves and
never passes to the chip. -/
def p384Device : EccDevice where
  isAtecc608A := true
  retrieveCert := fun _ => (0, { curveType := 24, hash := [], signature := [], key := ⟨[], 0, 0⟩ })
  verifyExtern := fun _ _ => (0, false)
  retrieveHash := fun _ => ⟨m2mErrFail, [], Nat.zero_le _, fun success => by contradiction⟩
  hashMemory := []
  sign := fun _ _ => (0, [])
  genkey := fun _ => (0, [])
  ecdhBase := fun _ _ _ => (0, [])
  ecdh := fun _ _ => (0, [])

/-- One certificate on another curve is reported verified without a check. -/
theorem verification_vacuous_p384 :
    (ecdsaProcessSignVerifyRequest p384Device 1).1 = m2mSuccess ∧
    ¬ FullyVerified p384Device 1 := by
  refine ⟨by decide, ?_⟩
  rintro ⟨_, checked⟩
  obtain ⟨certificate, _, verified⟩ := checked 0 (by decide)
  simp [ecdsaProcessSignVerifyRequest, ecdsaVerifyLoop, p384Device, ecSecp256r1] at verified

end MicrochipDay.Cloud.EccFunctions
