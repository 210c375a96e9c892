import ScoreCrypto.Cryptoki.ObjectCalls

/-! The calls that wrap, unwrap and derive keys. -/

namespace ScoreCrypto.Cryptoki

open Fallible

def Pkcs11Error.toCkrFor (missing : Rv) : Pkcs11Error → Rv
  | .invalidObjectHandle => missing
  | error => error.toCkr

def isDesMechanism (mechanism : MechanismType) : Bool :=
  mechanism = ckmDesEcb || mechanism = ckmDesCbc || mechanism = ckmDes3Ecb || mechanism = ckmDes3Cbc

def cWrapKey (hSession : SessionHandle) (mechanism : Option Mechanism)
    (hWrappingKey hKey : ObjectHandle) (out : Destination) : Api Reply := do
  ckTry checkInit
  let mech ← require mechanism .argumentsBad
  ensure (out ≠ .noLength) .argumentsBad
  let slotId ← ckTry (sessionSlot hSession)
  ensure (isDesMechanism mech.mechanism = false) .functionNotSupported
  let wrapping ← adapt (Pkcs11Error.toCkrFor .wrappingKeyHandleInvalid)
    (withObjectForSlot hWrappingKey slotId)
  ensure (wrapping.boolAttrTrue ckaWrap = true) .keyFunctionNotPermitted
  let target ← adapt (Pkcs11Error.toCkrFor .keyHandleInvalid) (withObjectForSlot hKey slotId)
  ensure (target.boolAttrTrue ckaExtractable = true) .keyUnextractable
  let trusting ← ckTry (withObjectForSlot hKey slotId)
  if trusting.boolAttrTrue ckaWrapWithTrusted then
    let trusted ← ckTry (withObjectForSlot hWrappingKey slotId)
    ensure (trusted.boolAttrTrue ckaTrusted = true) .keyNotWrappable
  ensure (mech.mechanism = ckmAesKeyWrap) .mechanismInvalid
  let kek ← ckTry (withObjectForSlot hWrappingKey slotId)
  let key ← ckTry (withObjectForSlot hKey slotId)
  let slots ← registry
  let wrapped ← ckTry (attempt (aesWrapKeyRefs slots slotId kek.keyRef key.keyRef))
  if out ≠ .query then
    let _ ← ckTry (withSessionMut hSession Session.burnTicket)
  return out.write wrapped

def unwrappedObject (handle : ObjectHandle) (slotId : SlotId) (keyBytes : Bytes) (attrs : Attributes)
    (mechanism : MechanismType) : KeyObject :=
  let attrs := ((attrs.orInsert ckaClass (ulongBytes ckoSecretKey)).orInsert ckaKeyType
    (ulongBytes ckkAes)).insert ckaValueLen (ulongBytes (UInt64.ofNat keyBytes.length))
  { KeyObject.new handle slotId .aesSecret keyBytes attrs with
    isLocal := false
    keyGenMechanism := mechanism }

def cUnwrapKey (hSession : SessionHandle) (mechanism : Option Mechanism)
    (hUnwrappingKey : ObjectHandle) (wrappedKey : Option Bytes) (template : Template)
    (given : Bool) : Api Reply := do
  ckTry checkInit
  let mech ← require mechanism .argumentsBad
  let wrapped ← require wrappedKey .argumentsBad
  ensure (given = true) .argumentsBad
  ensure (template.missing = false) .argumentsBad
  let attrs := template.collect
  let slotId ← ckTry (sessionSlot hSession)
  if attrs.asksForToken then ckTry (requireRwSession hSession)
  let object ← adapt (Pkcs11Error.toCkrFor .unwrappingKeyHandleInvalid)
    (withObjectForSlot hUnwrappingKey slotId)
  ensure (object.boolAttrTrue ckaUnwrap = true) .keyFunctionNotPermitted
  let session ← ckTry (withSession hSession)
  ckTry (attempt (session.requireContextAuth object))
  ensure (mech.mechanism = ckmAesKeyWrap) .mechanismInvalid
  let unwrapping ← ckTry (withObjectForSlot hUnwrappingKey slotId)
  let slots ← registry
  let keyBytes ← ckTry (attempt (aesUnwrapKey slots slotId unwrapping wrapped))
  ensure (keyBytes.length = 16 ∨ keyBytes.length = 24 ∨ keyBytes.length = 32) .keySizeRange
  let handle ← nextHandle
  storeObject (unwrappedObject handle slotId keyBytes attrs mech.mechanism) hSession
  let _ ← ckTry (withSessionMut hSession Session.burnTicket)
  return .ok (.handle handle)

def hkdfHash (mechanism : MechanismType) : Option HashAlgorithm :=
  if mechanism = ckmSha256 then some .sha256
  else if mechanism = ckmSha384 then some .sha384
  else if mechanism = ckmSha512 then some .sha512
  else if mechanism = ckmSha1 then some .sha1
  else none

/-- The object of a derived key: it takes over the audit flags of its base key. -/
def derivedObject (handle : ObjectHandle) (slotId : SlotId) (base : KeyObject)
    (derivedBytes uniqueId : Bytes) (okmLen : UInt64) (attrs : Attributes)
    (mechanism : MechanismType) : KeyObject :=
  let attrs := (((attrs.orInsert ckaClass (ulongBytes ckoSecretKey)).orInsert ckaKeyType
    (ulongBytes ckkHkdf)).insert ckaValueLen (ulongBytes okmLen)).insert ckaUniqueId uniqueId
  { KeyObject.new handle slotId .aesSecret derivedBytes attrs with
    isLocal := false
    keyGenMechanism := mechanism
    alwaysSensitive := base.alwaysSensitive
    neverExtractable := base.neverExtractable }

def cDeriveKey (hSession : SessionHandle) (mechanism : Option Mechanism) (hBaseKey : ObjectHandle)
    (template : Template) (given : Bool) : Api Reply := do
  ckTry checkInit
  let mech ← require mechanism .argumentsBad
  ensure (given = true) .argumentsBad
  let attrs := template.collect
  if attrs.asksForToken then ckTry (requireRwSession hSession)
  let slotId ← ckTry (sessionSlot hSession)
  let base ← ckTry (withObject hBaseKey)
  ensure (base.boolAttrTrue ckaDerive = true) Pkcs11Error.keyFunctionNotPermitted.toCkr
  let session ← ckTry (withSession hSession)
  ckTry (attempt (session.requireContextAuth base))
  ensure (mech.mechanism = ckmHkdfDerive) .mechanismInvalid
  let parameter ← require mech.parameter .mechanismParamInvalid
  let params := parameter.hkdf
  let hash ← require (hkdfHash params.prfHashMechanism) .mechanismParamInvalid
  let okmLen := match attrs.lookup ckaValueLen with
    | some value => bytesToUlong value
    | none => 32
  let key ← ckTry (withObject hBaseKey)
  let slots ← registry
  let derivedBytes ← ckTry (attempt
    (hkdfDerive slots slotId key hash (params.salt.getD []) (params.info.getD []) okmLen.toNat))
  let seed ← drawSeed
  let uniqueId ← ckTry (attempt (generateRandom slots slotId seed 16))
  let handle ← nextHandle
  storeObject (derivedObject handle slotId base derivedBytes uniqueId okmLen attrs mech.mechanism)
    hSession
  let _ ← ckTry (withSessionMut hSession Session.burnTicket)
  return .ok (.handle handle)

end ScoreCrypto.Cryptoki
