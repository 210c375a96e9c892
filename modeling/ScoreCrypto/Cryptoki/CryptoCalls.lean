import ScoreCrypto.Cryptoki.Access

/-!
The calls that sign, verify, encrypt, decrypt and digest. An operation is started by naming its key,
and the key is looked up again by every call that uses it.
-/

namespace ScoreCrypto.Cryptoki

open Fallible Pkcs11Error

/-! ### Signatures -/

def isSignMechanism (mechanism : MechanismType) : Bool :=
  mechanism = ckmRsaPkcs || mechanism = ckmSha1RsaPkcs || mechanism = ckmSha256RsaPkcs ||
    mechanism = ckmSha384RsaPkcs || mechanism = ckmSha512RsaPkcs || mechanism = ckmRsaPkcsPss ||
    mechanism = ckmSha1RsaPkcsPss || mechanism = ckmSha256RsaPkcsPss ||
    mechanism = ckmSha384RsaPkcsPss || mechanism = ckmSha512RsaPkcsPss || mechanism = ckmEcdsa ||
    mechanism = ckmEcdsaSha256 || mechanism = ckmEddsa || mechanism = ckmSha256Hmac ||
    mechanism = ckmSha384Hmac || mechanism = ckmSha512Hmac

variable (hSession : SessionHandle)

def cSignInit (mechanism : Option Mechanism) (hKey : ObjectHandle) : Api Reply := do
  ckTry checkInit
  let mech ← require mechanism .argumentsBad
  ensure (isSignMechanism mech.mechanism = true) .mechanismInvalid
  let before ← ckTry (withSessionMut hSession fun s =>
    if s.signCtx.isSome then s
    else { s with contextSpecificAuthed := false, signCtx := some ⟨mech.mechanism, hKey, []⟩ })
  ensure (before.signCtx = none) operationActive.toCkr
  return .ok .none

/-- What `C_Sign` and `C_SignFinal` do once the operation is taken out of the session: a query for
the length puts it back, and every other call spends the ticket. -/
def completeSign (ctx : SignContext) (slotId : SlotId) (data : Bytes)
    (out : Destination) : Api Reply := do
  let object ← ckTry (withObject ctx.keyHandle)
  let session ← ckTry (withSession hSession)
  ckTry (attempt (session.requireContextAuth object))
  let key ← ckTry (withObject ctx.keyHandle)
  let slots ← registry
  let seed ← drawSeed
  let signature ← ckTry (attempt (sign slots slotId seed ctx.mechanism key data))
  let _ ← ckTry (withSessionMut hSession fun s =>
    if out = .query then { s with signCtx := some ctx } else s.burnTicket)
  return out.write signature

def cSign (data : Option Bytes) (out : Destination) : Api Reply := do
  ckTry checkInit
  let data ← require data .argumentsBad
  ensure (out ≠ .noLength) .argumentsBad
  let before ← ckTry (withSessionMut hSession fun s => { s with signCtx := none })
  let ctx ← require before.signCtx operationNotInitialised.toCkr
  completeSign hSession ctx before.slotId data out

def cSignUpdate (part : Option Bytes) : Api Reply := do
  ckTry checkInit
  let part ← require part .argumentsBad
  let before ← ckTry (withSessionMut hSession fun s =>
    { s with signCtx := s.signCtx.map fun ctx => { ctx with data := ctx.data ++ part } })
  ensure (before.signCtx ≠ none) operationNotInitialised.toCkr
  return .ok .none

def cSignFinal (out : Destination) : Api Reply := do
  ckTry checkInit
  ensure (out ≠ .noLength) .argumentsBad
  let before ← ckTry (withSessionMut hSession fun s => { s with signCtx := none })
  let ctx ← require before.signCtx operationNotInitialised.toCkr
  completeSign hSession ctx before.slotId ctx.data out

def cVerifyInit (mechanism : Option Mechanism) (hKey : ObjectHandle) : Api Reply := do
  ckTry checkInit
  let mech ← require mechanism .argumentsBad
  ensure (isSignMechanism mech.mechanism = true) .mechanismInvalid
  let before ← ckTry (withSessionMut hSession fun s =>
    if s.verifyCtx.isSome then s
    else { s with verifyCtx := some ⟨mech.mechanism, hKey, []⟩ })
  ensure (before.verifyCtx = none) operationActive.toCkr
  return .ok .none

/-- The length of a signature is checked against the modulus before the operation is taken out of
the session. -/
def checkSignatureLen (keyHandle : ObjectHandle) (signature : Bytes) : Api Unit := do
  let object ← ckTry (withObject keyHandle)
  if object.isRsa then
    let key ← ckTry (withObject keyHandle)
    let modulusLen ← ckTry (attempt key.getModulusLen)
    ensure (signature.length = modulusLen) .signatureLenRange

def cVerify (data signature : Option Bytes) : Api Reply := do
  ckTry checkInit
  let data ← require data .argumentsBad
  let signature ← require signature .argumentsBad
  let session ← ckTry (withSession hSession)
  let active ← require session.verifyCtx operationNotInitialised.toCkr
  checkSignatureLen active.keyHandle signature
  let before ← ckTry (withSessionMut hSession fun s => { s with verifyCtx := none })
  let ctx ← require before.verifyCtx operationNotInitialised.toCkr
  let key ← ckTry (withObject ctx.keyHandle)
  let slots ← registry
  ckTry (attempt (verify slots before.slotId ctx.mechanism key data signature))
  return .ok .none

def cVerifyUpdate (part : Option Bytes) : Api Reply := do
  ckTry checkInit
  let part ← require part .argumentsBad
  let before ← ckTry (withSessionMut hSession fun s =>
    { s with verifyCtx := s.verifyCtx.map fun ctx => { ctx with data := ctx.data ++ part } })
  ensure (before.verifyCtx ≠ none) operationNotInitialised.toCkr
  return .ok .none

def cVerifyFinal (signature : Option Bytes) : Api Reply := do
  ckTry checkInit
  let signature ← require signature .argumentsBad
  let session ← ckTry (withSession hSession)
  let active ← require session.verifyCtx operationNotInitialised.toCkr
  checkSignatureLen active.keyHandle signature
  let before ← ckTry (withSessionMut hSession fun s => { s with verifyCtx := none })
  let ctx ← require before.verifyCtx operationNotInitialised.toCkr
  let key ← ckTry (withObject ctx.keyHandle)
  let slots ← registry
  ckTry (attempt (verify slots before.slotId ctx.mechanism key ctx.data signature))
  return .ok .none

/-! ### Encryption -/

structure CipherParams where
  iv : Bytes
  aad : Option Bytes
  tagLen : Nat
  deriving DecidableEq, Repr

def Mechanism.ivOf (mech : Mechanism) (len : Nat) : Bytes :=
  match mech.parameter with
  | some parameter =>
    if len ≤ parameter.bytes.length then parameter.bytes.take len else List.replicate len 0
  | none => List.replicate len 0

def nonEmpty (bytes : Option Bytes) : Option Bytes := bytes.filter (· ≠ [])

def extractCipherParams (mech : Mechanism) : CipherParams :=
  if mech.mechanism = ckmAesCbc ∨ mech.mechanism = ckmAesCbcPad then ⟨mech.ivOf 16, none, 0⟩
  else if mech.mechanism = ckmDesCbc ∨ mech.mechanism = ckmDes3Cbc then ⟨mech.ivOf 8, none, 0⟩
  else if mech.mechanism = ckmAesGcm then
    match mech.parameter with
    | none => ⟨List.replicate 12 0, none, 16⟩
    | some parameter =>
      let tagLen := parameter.gcm.tagBits.toNat / 8
      ⟨(nonEmpty parameter.gcm.iv).getD (List.replicate 12 0), nonEmpty parameter.gcm.aad,
        if tagLen = 0 then 16 else tagLen⟩
  else if mech.mechanism = ckmChacha20Poly1305 then
    match mech.parameter with
    | none => ⟨List.replicate 12 0, none, 16⟩
    | some parameter =>
      ⟨(nonEmpty parameter.gcm.iv).getD (List.replicate 12 0), nonEmpty parameter.gcm.aad, 16⟩
  else ⟨[], none, 0⟩

def Mechanism.cipherContext (mech : Mechanism) (hKey : ObjectHandle) : CipherContext :=
  let params := extractCipherParams mech
  { mechanism := mech.mechanism
    keyHandle := hKey
    iv := some params.iv
    aad := params.aad
    tagLen := params.tagLen
    accumulated := [] }

def cEncryptInit (mechanism : Option Mechanism) (hKey : ObjectHandle) : Api Reply := do
  ckTry checkInit
  let mech ← require mechanism .argumentsBad
  let before ← ckTry (withSessionMut hSession fun s =>
    if s.encryptCtx.isSome then s else { s with encryptCtx := some (mech.cipherContext hKey) })
  ensure (before.encryptCtx = none) operationActive.toCkr
  return .ok .none

section World

variable (world : World) (hSession : SessionHandle)

def cEncrypt (data : Option Bytes) (out : Destination) : Api Reply := do
  ckTry checkInit
  let data ← require data .argumentsBad
  ensure (out ≠ .noLength) .argumentsBad
  let before ← ckTry (withSessionMut hSession fun s => { s with encryptCtx := none })
  let ctx ← require before.encryptCtx operationNotInitialised.toCkr
  let key ← ckTry (withObject ctx.keyHandle)
  let slots ← registry
  let seed ← drawSeed
  let ciphertext ← ckTry (attempt
    (if isRsaEncMechanism ctx.mechanism then
      rsaEncrypt slots before.slotId seed ctx.mechanism key data
    else
      encryptSymmetric world slots before.slotId ctx.mechanism key (ctx.iv.getD []) ctx.aad data))
  return out.write ciphertext

def cEncryptUpdate (part : Option Bytes) (out : Destination) : Api Reply := do
  ckTry checkInit
  let part ← require part .argumentsBad
  let before ← ckTry (withSessionMut hSession fun s =>
    { s with
      encryptCtx := s.encryptCtx.map fun ctx => { ctx with accumulated := ctx.accumulated ++ part } })
  ensure (before.encryptCtx ≠ none) operationNotInitialised.toCkr
  return .ok (if out = .noLength then .none else .data 0 none)

/-- No RSA branch here: what was collected goes to the symmetric ciphers. -/
def cEncryptFinal (out : Destination) : Api Reply := do
  ckTry checkInit
  ensure (out ≠ .noLength) .argumentsBad
  let before ← ckTry (withSessionMut hSession fun s => { s with encryptCtx := none })
  let ctx ← require before.encryptCtx operationNotInitialised.toCkr
  let key ← ckTry (withObject ctx.keyHandle)
  let slots ← registry
  let ciphertext ← ckTry (attempt
    (encryptSymmetric world slots before.slotId ctx.mechanism key (ctx.iv.getD []) ctx.aad
      ctx.accumulated))
  return out.write ciphertext

def cDecryptInit (mechanism : Option Mechanism) (hKey : ObjectHandle) : Api Reply := do
  ckTry checkInit
  let mech ← require mechanism .argumentsBad
  let before ← ckTry (withSessionMut hSession fun s =>
    if s.decryptCtx.isSome then s
    else { s with contextSpecificAuthed := false, decryptCtx := some (mech.cipherContext hKey) })
  ensure (before.decryptCtx = none) operationActive.toCkr
  return .ok .none

def completeDecrypt (ctx : CipherContext)
    (decrypt : List CryptoProvider → KeyObject → Except Pkcs11Error Bytes) (out : Destination) :
    Api Reply := do
  let object ← ckTry (withObject ctx.keyHandle)
  let session ← ckTry (withSession hSession)
  ckTry (attempt (session.requireContextAuth object))
  let key ← ckTry (withObject ctx.keyHandle)
  let slots ← registry
  let plaintext ← ckTry (attempt (decrypt slots key))
  let _ ← ckTry (withSessionMut hSession fun s =>
    if out = .query then { s with decryptCtx := some ctx } else s.burnTicket)
  return out.write plaintext

def cDecrypt (encrypted : Option Bytes) (out : Destination) : Api Reply := do
  ckTry checkInit
  let ciphertext ← require encrypted .argumentsBad
  ensure (out ≠ .noLength) .argumentsBad
  let before ← ckTry (withSessionMut hSession fun s => { s with decryptCtx := none })
  let ctx ← require before.decryptCtx operationNotInitialised.toCkr
  let decrypt (slots : List CryptoProvider) (key : KeyObject) : Except Pkcs11Error Bytes :=
    if isRsaEncMechanism ctx.mechanism then
      rsaDecrypt slots before.slotId ctx.mechanism key ciphertext
    else
      decryptSymmetric world slots before.slotId ctx.mechanism key (ctx.iv.getD []) ctx.aad
        ciphertext ctx.tagLen
  completeDecrypt hSession ctx decrypt out

def cDecryptUpdate (part : Option Bytes) (out : Destination) : Api Reply := do
  ckTry checkInit
  let part ← require part .argumentsBad
  let before ← ckTry (withSessionMut hSession fun s =>
    { s with
      decryptCtx := s.decryptCtx.map fun ctx => { ctx with accumulated := ctx.accumulated ++ part } })
  ensure (before.decryptCtx ≠ none) operationNotInitialised.toCkr
  return .ok (if out = .noLength then .none else .data 0 none)

def cDecryptFinal (out : Destination) : Api Reply := do
  ckTry checkInit
  ensure (out ≠ .noLength) .argumentsBad
  let before ← ckTry (withSessionMut hSession fun s => { s with decryptCtx := none })
  let ctx ← require before.decryptCtx operationNotInitialised.toCkr
  let decrypt (slots : List CryptoProvider) (key : KeyObject) : Except Pkcs11Error Bytes :=
    decryptSymmetric world slots before.slotId ctx.mechanism key (ctx.iv.getD []) ctx.aad
      ctx.accumulated ctx.tagLen
  completeDecrypt hSession ctx decrypt out

end World

/-! ### Digests -/

def cDigestInit (mechanism : Option Mechanism) : Api Reply := do
  ckTry checkInit
  let mech ← require mechanism .argumentsBad
  ensure ((mechanismToHashAlgorithm mech.mechanism).isOk = true) .mechanismInvalid
  let before ← ckTry (withSessionMut hSession fun s =>
    if s.digestCtx.isSome then s
    else { s with digestCtx := some ⟨mech.mechanism, [], false, false⟩ })
  ensure (before.digestCtx = none) operationActive.toCkr
  return .ok .none

/-- A digest that was delivered ends the operation; a length or a refusal does not. -/
def completeDigest (ctx : DigestContext) (slotId : SlotId) (data : Bytes)
    (out : Destination) : Api Reply := do
  let slots ← registry
  let hash ← ckTry (attempt (digest slots slotId ctx.mechanism data))
  let reply := out.write hash
  if reply.rv = .ok ∧ out ≠ .query then touchSession hSession fun s => { s with digestCtx := none }
  return reply

def cDigest (data : Span) (out : Destination) : Api Reply := do
  ckTry checkInit
  if out = .noLength then
    touchSession hSession fun s => { s with digestCtx := none }
    throw .argumentsBad
  ensure (data.missing = false) .argumentsBad
  let before ← ckTry (withSessionMut hSession fun s =>
    { s with
      digestCtx := s.digestCtx.bind fun ctx =>
        if ctx.isMultiPart then none else some { ctx with isSinglePart := true } })
  let ctx ← require before.digestCtx operationNotInitialised.toCkr
  ensure (ctx.isMultiPart = false) operationActive.toCkr
  completeDigest hSession ctx before.slotId data.contents out

def cDigestUpdate (part : Span) : Api Reply := do
  ckTry checkInit
  ensure (part.missing = false) .argumentsBad
  let before ← ckTry (withSessionMut hSession fun s =>
    { s with
      digestCtx := s.digestCtx.map fun ctx =>
        if ctx.isSinglePart then ctx
        else { ctx with isMultiPart := true, data := ctx.data ++ part.contents } })
  let ctx ← require before.digestCtx operationNotInitialised.toCkr
  ensure (ctx.isSinglePart = false) operationActive.toCkr
  return .ok .none

/-- A key that cannot be digested is told apart from one that is not there. -/
def digestKeyError : Pkcs11Error → Rv
  | .keyHandleInvalid | .invalidObjectHandle => .keyHandleInvalid
  | _ => .keyIndigestible

def cDigestKey (hKey : ObjectHandle) : Api Reply := do
  ckTry checkInit
  let slotId ← ckTry (sessionSlot hSession)
  let key ← adapt digestKeyError (withObject hKey)
  let slots ← registry
  let keyBytes ← adapt digestKeyError (attempt (keyValueForDigest slots slotId key))
  let before ← ckTry (withSessionMut hSession fun s => { s with digestCtx := none })
  let ctx ← require before.digestCtx operationNotInitialised.toCkr
  -- the operation was taken out of the session and is lost when it is refused here
  ensure (ctx.isSinglePart = false) .operationActive
  touchSession hSession fun s =>
    { s with digestCtx := some { ctx with isMultiPart := true, data := ctx.data ++ keyBytes } }
  return .ok .none

def cDigestFinal (out : Destination) : Api Reply := do
  ckTry checkInit
  if out = .noLength then
    touchSession hSession fun s => { s with digestCtx := none }
    throw .argumentsBad
  let before ← ckTry (withSessionMut hSession fun s =>
    { s with
      digestCtx := s.digestCtx.bind fun ctx =>
        if ctx.isSinglePart then none else some { ctx with isMultiPart := true } })
  let ctx ← require before.digestCtx operationNotInitialised.toCkr
  ensure (ctx.isSinglePart = false) operationActive.toCkr
  completeDigest hSession ctx before.slotId ctx.data out

/-! ### Messages -/

def isMessageMechanism (mechanism : MechanismType) : Bool :=
  mechanism = ckmAesGcm || mechanism = ckmChacha20Poly1305

def cMessageEncryptInit (mechanism : Option Mechanism) (hKey : ObjectHandle) : Api Reply := do
  ckTry checkInit
  let mech ← require mechanism .argumentsBad
  ensure (isMessageMechanism mech.mechanism = true) .mechanismInvalid
  let before ← ckTry (withSessionMut hSession fun s =>
    if s.msgEncryptCtx.isSome then s else { s with msgEncryptCtx := some ⟨mech.mechanism, hKey⟩ })
  ensure (before.msgEncryptCtx = none) operationActive.toCkr
  return .ok .none

def cEncryptMessage (params : Option MessageParams) (aad : Option Bytes)
    (plaintext : Option Bytes) (out : Destination) : Api Reply := do
  ckTry checkInit
  let plaintext ← require plaintext .argumentsBad
  ensure (out ≠ .noLength) .argumentsBad
  let params ← require params .argumentsBad
  let session ← ckTry (withSession hSession)
  let ctx ← require session.msgEncryptCtx operationNotInitialised.toCkr
  let iv ← require params.iv .argumentsBad
  ensure (params.tag ≠ none) .argumentsBad
  let key ← ckTry (withObject ctx.keyHandle)
  let slots ← registry
  let sealed ← ckTry (attempt
    (encryptMessage slots session.slotId ctx.mechanism key iv (aad.getD []) plaintext))
  ensure (sealed.2.length = params.tagLen) .generalError
  -- the tag is written whether or not there is room for the ciphertext
  return match out.write sealed.1 with
    | ⟨rv, .data len bytes⟩ => ⟨rv, .message sealed.2 len bytes⟩
    | reply => reply

def requireMessageContext (context : Session → Option MessageContext) : Api Reply := do
  ckTry checkInit
  let session ← ckTry (withSession hSession)
  ensure (context session ≠ none) operationNotInitialised.toCkr
  return .ok .none

def cEncryptMessageBegin : Api Reply :=
  requireMessageContext hSession Session.msgEncryptCtx

def cMessageEncryptFinal : Api Reply := do
  ckTry checkInit
  let _ ← ckTry (withSessionMut hSession fun s => { s with msgEncryptCtx := none })
  return .ok .none

def cMessageDecryptInit (mechanism : Option Mechanism) (hKey : ObjectHandle) : Api Reply := do
  ckTry checkInit
  let mech ← require mechanism .argumentsBad
  ensure (isMessageMechanism mech.mechanism = true) .mechanismInvalid
  let before ← ckTry (withSessionMut hSession fun s =>
    if s.msgDecryptCtx.isSome then s else { s with msgDecryptCtx := some ⟨mech.mechanism, hKey⟩ })
  ensure (before.msgDecryptCtx = none) operationActive.toCkr
  return .ok .none

/-- Unlike `C_Decrypt`, this does not ask for the ticket of a key that needs one. -/
def cDecryptMessage (params : Option MessageParams) (aad : Option Bytes)
    (ciphertext : Option Bytes) (out : Destination) : Api Reply := do
  ckTry checkInit
  let ciphertext ← require ciphertext .argumentsBad
  ensure (out ≠ .noLength) .argumentsBad
  let params ← require params .argumentsBad
  let session ← ckTry (withSession hSession)
  let ctx ← require session.msgDecryptCtx operationNotInitialised.toCkr
  let iv ← require params.iv .argumentsBad
  let tag ← require params.tag .argumentsBad
  let key ← ckTry (withObject ctx.keyHandle)
  let slots ← registry
  let plaintext ← ckTry (attempt
    (decryptMessage slots session.slotId ctx.mechanism key iv (aad.getD []) ciphertext
      (tag.take params.tagLen)))
  return out.write plaintext

def cDecryptMessageBegin : Api Reply :=
  requireMessageContext hSession Session.msgDecryptCtx

def cMessageDecryptFinal : Api Reply := do
  ckTry checkInit
  let _ ← ckTry (withSessionMut hSession fun s => { s with msgDecryptCtx := none })
  return .ok .none

/-- No call starts a message signature, so there is none to go on with. -/
def cSignMessage (data : Option Bytes) (out : Destination) : Api Reply := do
  ckTry checkInit
  let data ← require data .argumentsBad
  ensure (out ≠ .noLength) .argumentsBad
  let session ← ckTry (withSession hSession)
  let ctx ← require session.msgSignCtx operationNotInitialised.toCkr
  let key ← ckTry (withObject ctx.keyHandle)
  let slots ← registry
  let seed ← drawSeed
  let signature ← ckTry (attempt (sign slots session.slotId seed ctx.mechanism key data))
  return out.write signature

def cSignMessageBegin : Api Reply :=
  requireMessageContext hSession Session.msgSignCtx

def cMessageSignFinal : Api Reply := do
  ckTry checkInit
  let _ ← ckTry (withSessionMut hSession fun s => { s with msgSignCtx := none })
  return .ok .none

def cVerifyMessage (data signature : Option Bytes) : Api Reply := do
  ckTry checkInit
  let data ← require data .argumentsBad
  let signature ← require signature .argumentsBad
  let session ← ckTry (withSession hSession)
  let ctx ← require session.msgVerifyCtx operationNotInitialised.toCkr
  let key ← ckTry (withObject ctx.keyHandle)
  let slots ← registry
  ckTry (attempt (verify slots session.slotId ctx.mechanism key data signature))
  return .ok .none

def cVerifyMessageBegin : Api Reply :=
  requireMessageContext hSession Session.msgVerifyCtx

def cMessageVerifyFinal : Api Reply := do
  ckTry checkInit
  let _ ← ckTry (withSessionMut hSession fun s => { s with msgVerifyCtx := none })
  return .ok .none

end ScoreCrypto.Cryptoki
