import Mathlib.Data.List.Basic

/-!
Owns the ECC requests of the TLS handshake: the handlers of
ecc_functions_tls.c and `CRYPTO_CLIENT_rocessEccRequest` (crypto_client.c).

The WINC and the crypto chip are parameters that answer every library call
with arbitrary values. The calls of the verification loop are logged, so that
what a status stands for can be compared with what was really checked.
-/

namespace MicrochipDay.Cloud.EccFunctions

/-! ## Data -/

/-- `M2M_SUCCESS`, `M2M_ERR_FAIL` and `ATCA_SUCCESS`. -/
def m2mSuccess : Int8 := 0
def m2mErrFail : Int8 := -12
def atcaSuccess : Int8 := 0

/-- The NIST curve that the crypto chip supports. -/
def ecSecp256r1 : UInt16 := 23

/-- `tstrECPoint`, less the Y coordinate, which nothing reads. -/
structure ECPoint where
  x : List UInt8
  u16Size : UInt16
  u16PrivKeyID : UInt16
deriving DecidableEq, Repr

/-- What `m2m_ssl_retrieve_cert` writes for one certificate. -/
structure Certificate where
  curveType : UInt16
  hash : List UInt8
  signature : List UInt8
  key : ECPoint
deriving DecidableEq, Repr

/-- What `m2m_ssl_retrieve_hash` does when it is asked for `size` bytes: it writes
at most these, and all of them when it succeeds, which it never does for none. -/
structure HashRetrieval (size : UInt16) where
  status : Int8
  written : List UInt8
  atMost : written.length ≤ size.toNat
  all : status = m2mSuccess → size ≠ 0 ∧ written.length = size.toNat

/-- The library calls, as functions that answer anything. `ATCA_STATUS` has one
byte; the certificate calls are numbered by the loop index. -/
structure EccDevice where
  isAtecc608A : Bool
  retrieveCert : Nat → Int8 × Certificate
  verifyExtern : Nat → Certificate → UInt8 × Bool
  retrieveHash : (size : UInt16) → HashRetrieval size
  /-- What the array `hash` of `ecdsa_process_sign_gen_request` holds on entry. -/
  hashMemory : List UInt8
  sign : UInt16 → List UInt8 → UInt8 × List UInt8
  genkey : UInt16 → UInt8 × List UInt8
  ecdhBase : UInt8 → UInt16 → List UInt8 → UInt8 × List UInt8
  ecdh : UInt16 → List UInt8 → UInt8 × List UInt8

/-- An `ATCA_STATUS` stored in a `sint8`. -/
def sint8OfAtca (status : UInt8) : Int8 := status.toInt8

def u16OfSint8 (status : Int8) : UInt16 := UInt16.ofInt status.toInt

/-! ## Certificate verification -/

/-- The library calls of the verification loop, with the index they were made at. -/
inductive VerifyCall where
  | retrieveCert (index : Nat) (status : Int8) (certificate : Certificate)
  | verifyExtern (index : Nat) (certificate : Certificate) (status : UInt8) (verified : Bool)
  | stopProcessingCerts
deriving DecidableEq, Repr

/-- The loop of `ecdsa_process_sign_verify_request`, `remaining` iterations
before its end. -/
def ecdsaVerifyLoop (device : EccDevice) : Nat → Nat → Int8 → Int8 × List VerifyCall
  | 0, _, status => (status, [])
  | remaining + 1, index, _ =>
      let retrieval := device.retrieveCert index
      let status := retrieval.1
      let certificate := retrieval.2
      let retrieved := VerifyCall.retrieveCert index status certificate
      if status ≠ m2mSuccess then (status, [retrieved])
      else if certificate.curveType = ecSecp256r1 then
        let verification := device.verifyExtern index certificate
        let isVerified := verification.2
        let verified := VerifyCall.verifyExtern index certificate verification.1 isVerified
        let status :=
          if sint8OfAtca verification.1 = atcaSuccess then
            if isVerified then m2mSuccess else m2mErrFail
          else m2mErrFail
        if status ≠ m2mSuccess then (status, [retrieved, verified, .stopProcessingCerts])
        else
          let rest := ecdsaVerifyLoop device remaining (index + 1) status
          (rest.1, retrieved :: verified :: rest.2)
      else
        -- the status of the retrieval stays behind as the status of the certificate
        let rest := ecdsaVerifyLoop device remaining (index + 1) status
        (rest.1, retrieved :: rest.2)

/-- `ecdsa_process_sign_verify_request`: its status and the calls it made. -/
def ecdsaProcessSignVerifyRequest (device : EccDevice) (numberOfSignatures : UInt32) :
    Int8 × List VerifyCall :=
  ecdsaVerifyLoop device numberOfSignatures.toNat 0 m2mErrFail

/-! ## The other requests -/

/-- `g_ecdh_key_slot`. -/
def ecdhKeySlots : List UInt16 := [2]

/-- The bounds check on `g_ecdh_key_slot_index` that both key derivations make. -/
def wrapSlotIndex (slotIndex : UInt32) : UInt32 :=
  if slotIndex.toNat ≥ ecdhKeySlots.length then 0 else slotIndex

/-- `ecdh_derive_client_shared_secret`: the status, the slot index, the shared
secret and the client's public key. -/
def ecdhDeriveClientSharedSecret (device : EccDevice) (slotIndex : UInt32)
    (serverPublicKey clientPublicKey : ECPoint) (sharedSecret : List UInt8) :
    Int8 × UInt32 × List UInt8 × ECPoint :=
  let slotIndex := wrapSlotIndex slotIndex
  let (ecdhMode, keyId, slotIndex) :=
    if device.isAtecc608A then ((0x0D : UInt8), (0xFFFF : UInt16), slotIndex)
    else (0x00, ecdhKeySlots.getD slotIndex.toNat 0, slotIndex + 1)
  let (generated, x) := device.genkey keyId
  let clientPublicKey := { clientPublicKey with x := x }
  if sint8OfAtca generated = atcaSuccess then
    let clientPublicKey := { clientPublicKey with u16Size := 32 }
    let (derived, secret) := device.ecdhBase ecdhMode keyId serverPublicKey.x
    if sint8OfAtca derived = atcaSuccess then
      (m2mSuccess, slotIndex, secret, clientPublicKey)
    else (m2mErrFail, slotIndex, secret, clientPublicKey)
  else (m2mErrFail, slotIndex, sharedSecret, clientPublicKey)

def ecdhDeriveKeyPair (device : EccDevice) (slotIndex : UInt32) (serverPublicKey : ECPoint) :
    Int8 × UInt32 × ECPoint :=
  let slotIndex := wrapSlotIndex slotIndex
  let slot := ecdhKeySlots.getD slotIndex.toNat 0
  let (generated, x) := device.genkey slot
  let status := sint8OfAtca generated
  if status = atcaSuccess then
    (m2mSuccess, slotIndex + 1, { x := x, u16Size := 32, u16PrivKeyID := slot })
  else (status, slotIndex, { serverPublicKey with x := x })

def ecdhDeriveServerSharedSecret (device : EccDevice) (privateKeyId : UInt16)
    (clientPublicKey : ECPoint) : Int8 × List UInt8 :=
  let (status, secret) := device.ecdh privateKeyId clientPublicKey.x
  (if sint8OfAtca status = atcaSuccess then m2mSuccess else m2mErrFail, secret)

/-- The library calls of `ecdsa_process_sign_gen_request`. -/
inductive SignCall where
  | retrieveHash (size : UInt16) (status : Int8) (written : List UInt8)
  | sign (slot : UInt16) (hash : List UInt8) (status : UInt8) (signature : List UInt8)
deriving DecidableEq, Repr

/-- `DEVICE_KEY_SLOT` and the size of `hash`. -/
def deviceKeySlot : UInt16 := 0
def hashSize : Nat := 32

/-- `ecdsa_process_sign_gen_request`: the status, the signature buffer, the
signature size and the calls it made. -/
def ecdsaProcessSignGenRequest (device : EccDevice) (curveType hashSz : UInt16)
    (signature : List UInt8) : Int8 × List UInt8 × UInt16 × List SignCall :=
  let retrieval := device.retrieveHash hashSz
  let status := retrieval.status
  let retrieved := SignCall.retrieveHash hashSz status retrieval.written
  if status ≠ m2mSuccess then (status, signature, 0, [retrieved])
  else if curveType = ecSecp256r1 then
    let hash := (retrieval.written ++ device.hashMemory.drop retrieval.written.length).take hashSize
    let (signed, signature) := device.sign deviceKeySlot hash
    (sint8OfAtca signed, signature, 64, [retrieved, .sign deviceKeySlot hash signed signature])
  else (status, signature, 0, [retrieved])

/-! ## Requests and responses -/

/-- `u16REQ`; any other code is not handled. -/
inductive EccReq where
  | clientEcdh
  | serverEcdh
  | genKey
  | signGen
  | signVerify
  | other (code : UInt16)
deriving DecidableEq, Repr

/-- `tstrEccReqInfo` as a request. -/
structure EccRequest where
  u16REQ : EccReq
  u32UserData : UInt32
  u32SeqNo : UInt32
  strPubKey : ECPoint
  u16CurveType : UInt16
  u16HashSz : UInt16
  u32nSig : UInt32
deriving DecidableEq, Repr

/-- `tstrEccReqInfo` as a response, with the data sent along. -/
structure EccResponse where
  u16REQ : EccReq
  u16Status : UInt16
  u32UserData : UInt32
  u32SeqNo : UInt32
  strPubKey : ECPoint
  au8Key : List UInt8
  responseData : Option (List UInt8)
  responseDataSize : UInt16
deriving DecidableEq, Repr

/-- `CRYPTO_CLIENT_rocessEccRequest`: the response handed to
`m2m_ssl_handshake_rsp` and the slot index. `memory` holds what the response
and the signature buffer contain on entry. -/
def cryptoClientRocessEccRequest (device : EccDevice) (slotIndex : UInt32)
    (memory : EccResponse) (signature : List UInt8) (request : EccRequest) :
    EccResponse × UInt32 :=
  let response :=
    { memory with
      u16Status := 1
      u16REQ := request.u16REQ
      u32UserData := request.u32UserData
      u32SeqNo := request.u32SeqNo
      responseData := none
      responseDataSize := 0 }
  match request.u16REQ with
  | .clientEcdh =>
      let (status, slotIndex, secret, publicKey) :=
        ecdhDeriveClientSharedSecret device slotIndex request.strPubKey memory.strPubKey
          memory.au8Key
      ({ response with
          u16Status := u16OfSint8 status, au8Key := secret, strPubKey := publicKey },
        slotIndex)
  | .genKey =>
      let (status, slotIndex, publicKey) := ecdhDeriveKeyPair device slotIndex memory.strPubKey
      ({ response with u16Status := u16OfSint8 status, strPubKey := publicKey }, slotIndex)
  | .serverEcdh =>
      let (status, secret) :=
        ecdhDeriveServerSharedSecret device request.strPubKey.u16PrivKeyID request.strPubKey
      ({ response with u16Status := u16OfSint8 status, au8Key := secret }, slotIndex)
  | .signVerify =>
      let (status, _) := ecdsaProcessSignVerifyRequest device request.u32nSig
      ({ response with u16Status := u16OfSint8 status }, slotIndex)
  | .signGen =>
      let (status, signature, size, _) :=
        ecdsaProcessSignGenRequest device request.u16CurveType request.u16HashSz signature
      ({ response with
          u16Status := u16OfSint8 status
          responseData := some signature
          responseDataSize := size },
        slotIndex)
  | .other _ => (response, slotIndex)

end MicrochipDay.Cloud.EccFunctions
