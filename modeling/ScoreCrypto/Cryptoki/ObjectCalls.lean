import ScoreCrypto.Cryptoki.Access

/-! The calls that create, copy, read, change, destroy and search objects. -/

namespace ScoreCrypto.Cryptoki

open Fallible

/-! ### Generating keys -/

/-- The private key is sensitive and not extractable unless the template says otherwise. -/
def Attributes.withSecurityDefaults (attrs : Attributes) : Attributes :=
  (attrs.orInsert ckaSensitive [ckTrue]).orInsert ckaExtractable [ckFalse]

def Attributes.startsSensitive (attrs : Attributes) : Bool :=
  match attrs.lookup ckaSensitive with
  | some value => reads ckTrue (some value)
  | none => true

def Attributes.startsUnextractable (attrs : Attributes) : Bool :=
  match attrs.lookup ckaExtractable with
  | some value => value = [] || reads ckFalse (some value)
  | none => true

def Attributes.asksForToken (attrs : Attributes) : Bool := reads ckTrue (attrs.lookup ckaToken)

def GeneratedKey.publicObject (generated : GeneratedKey) (handle : ObjectHandle) (slotId : SlotId) :
    KeyObject :=
  { KeyObject.new handle slotId generated.keyType generated.keyRef generated.attrs with
    isLocal := true
    keyGenMechanism := generated.keyGenMechanism }

def GeneratedKey.object (generated : GeneratedKey) (handle : ObjectHandle) (slotId : SlotId)
    (alwaysSensitive neverExtractable alwaysAuthenticate : Bool) : KeyObject :=
  { generated.publicObject handle slotId with
    alwaysSensitive
    neverExtractable
    alwaysAuthenticate }

def oidP384 : Bytes := [0x06, 0x05, 0x2b, 0x81, 0x04, 0x00, 0x22]

def oidP521 : Bytes := [0x06, 0x05, 0x2b, 0x81, 0x04, 0x00, 0x23]

def ecCurveFromParams (ecParams : Option Bytes) : EcCurve :=
  if ecParams = some oidP384 then .p384
  else if ecParams = some oidP521 then .p521
  else .p256

def generateKeyPairWith (slots : List CryptoProvider) (slotId : SlotId) (seed : Nat)
    (mechanism : MechanismType) (pubAttrs privAttrs : Attributes) :
    Except Rv (GeneratedKey × GeneratedKey) :=
  if mechanism = ckmRsaPkcsKeyPairGen then
    let bits := match pubAttrs.lookup ckaModulusBits with
      | some value => (bytesToUlong value).toUInt32
      | none => 2048
    if bits < 1024 then .error .keySizeRange
    else
      (generateRsaKeyPair slots slotId seed bits pubAttrs privAttrs).mapError Pkcs11Error.toCkr
  else if mechanism = ckmEcKeyPairGen then
    let curve := ecCurveFromParams (pubAttrs.lookup ckaEcParams)
    (generateEcKeyPair slots slotId seed curve pubAttrs privAttrs).mapError Pkcs11Error.toCkr
  else if mechanism = ckmEcEdwardsKeyPairGen then
    (generateEdKeyPair slots slotId seed .ed25519 pubAttrs privAttrs).mapError Pkcs11Error.toCkr
  else .error .mechanismInvalid

variable (hSession : SessionHandle)

def cGenerateKeyPair (mechanism : Option Mechanism)
    (pubTemplate privTemplate : Template) (given : Bool) : Api Reply := do
  ckTry checkInit
  let mech ← require mechanism .argumentsBad
  ensure (given = true) .argumentsBad
  ensure (pubTemplate.missing = false ∧ privTemplate.missing = false) .argumentsBad
  let slotId ← ckTry (sessionSlot hSession)
  let pubAttrs := pubTemplate.collect
  let asked := privTemplate.collect
  if pubAttrs.asksForToken ∨ asked.asksForToken then ckTry (requireRwSession hSession)
  let defaulted := asked.withSecurityDefaults
  let alwaysAuthenticate := reads ckTrue (defaulted.lookup ckaAlwaysAuthenticate)
  let privAttrs := defaulted.erase ckaAlwaysAuthenticate
  let slots ← registry
  let seed ← drawSeed
  let generated ← attempt (generateKeyPairWith slots slotId seed mech.mechanism pubAttrs privAttrs)
  let pub ← nextHandle
  storeObject (generated.2.publicObject pub slotId) hSession
  let priv ← nextHandle
  storeObject
    (generated.1.object priv slotId defaulted.startsSensitive defaulted.startsUnextractable
      alwaysAuthenticate) hSession
  return .ok (.keyPair pub priv)

def expectedKeyType (mechanism : MechanismType) : Option UInt64 :=
  if mechanism = ckmAesKeyGen then some ckkAes
  else if mechanism = ckmDesKeyGen then some ckkDes
  else if mechanism = ckmDes3KeyGen then some ckkDes3
  else if mechanism = ckmChacha20KeyGen then some ckkChacha20
  else if mechanism = ckmGenericSecretKeyGen then some ckkGenericSecret
  else none

def generateKeyWith (slots : List CryptoProvider) (slotId : SlotId) (seed idSeed : Nat)
    (mechanism : MechanismType) (attrs : Attributes) : Except Pkcs11Error GeneratedKey :=
  let keyLen := match attrs.lookup ckaValueLen with
    | some value => (bytesToUlong value).toNat
    | none => 32
  if mechanism = ckmAesKeyGen then generateAesKey slots slotId seed idSeed keyLen attrs
  else if mechanism = ckmDesKeyGen then
    generateLegacySecretKey slots slotId seed mechanism 8 ckkDes attrs
  else if mechanism = ckmDes3KeyGen then
    generateLegacySecretKey slots slotId seed mechanism 24 ckkDes3 attrs
  else if mechanism = ckmChacha20KeyGen then generateChacha20Key slots slotId seed attrs
  else generateGenericSecretKey slots slotId seed idSeed keyLen attrs

def cGenerateKey (mechanism : Option Mechanism) (template : Template)
    (given : Bool) : Api Reply := do
  ckTry checkInit
  let mech ← require mechanism .argumentsBad
  ensure (given = true) .argumentsBad
  ensure (template.missing = false) .argumentsBad
  let slotId ← ckTry (sessionSlot hSession)
  let asked := template.collect
  if asked.asksForToken then ckTry (requireRwSession hSession)
  ensure (∀ value ∈ asked.lookup ckaClass, bytesToUlong value = ckoSecretKey) .templateInconsistent
  let expected ← require (expectedKeyType mech.mechanism) .mechanismInvalid
  ensure (∀ value ∈ asked.lookup ckaKeyType, bytesToUlong value = expected) .templateInconsistent
  let attrs := asked.withSecurityDefaults
  let slots ← registry
  let seed ← drawSeed
  let idSeed ← drawSeed
  let generated ← ckTry (attempt (generateKeyWith slots slotId seed idSeed mech.mechanism attrs))
  let handle ← nextHandle
  storeObject
    (generated.object handle slotId attrs.startsSensitive attrs.startsUnextractable false) hSession
  return .ok (.handle handle)

def cGenerateRandom (len : UInt64) (given : Bool) : Api Reply := do
  ckTry checkInit
  ensure (given = true) .argumentsBad
  let slotId ← ckTry (sessionSlot hSession)
  let slots ← registry
  let seed ← drawSeed
  let bytes ← ckTry (attempt (generateRandom slots slotId seed len.toNat))
  return .ok (.random bytes)

/-! ### Creating, copying and destroying objects -/

def keyTypeFor (objectClass : UInt64) (keyType : Option UInt64) : KeyType :=
  if keyType = some ckkRsa ∧ objectClass = ckoPublicKey then .rsaPublic
  else if keyType = some ckkRsa ∧ objectClass = ckoPrivateKey then .rsaPrivate
  else if keyType = some ckkAes then .aesSecret
  else .genericSecret

def cCreateObject (template : Template) (given : Bool) : Api Reply := do
  ckTry checkInit
  ensure (given = true) .argumentsBad
  ensure (template.list ≠ []) .templateIncomplete
  let slotId ← ckTry (sessionSlot hSession)
  let attrs := template.collect
  if attrs.asksForToken then ckTry (requireRwSession hSession)
  let classValue ← require (attrs.lookup ckaClass) .templateIncomplete
  let objectClass := bytesToUlong classValue
  ensure (objectClass = ckoSecretKey ∨ objectClass = ckoPublicKey ∨ objectClass = ckoPrivateKey ∨
    objectClass = ckoData) .templateInconsistent
  -- only secret keys and data carry their value
  let keyBytes ←
    if objectClass = ckoSecretKey ∨ objectClass = ckoData then
      require (attrs.lookup ckaValue) .templateIncomplete
    else pure []
  let handle ← nextHandle
  let keyType := keyTypeFor objectClass ((attrs.lookup ckaKeyType).map bytesToUlong)
  storeObject (KeyObject.new handle slotId keyType keyBytes attrs) hSession
  return .ok (.handle handle)

/-- The loop over the overrides of a copy: each is checked against what it replaces. -/
def applyOverrides (overrides : Attributes) (attrs : Attributes) :
    List AttributeType → Except Pkcs11Error Attributes
  | [] => .ok attrs
  | type :: rest =>
    match overrides.lookup type with
    | none => applyOverrides overrides attrs rest
    | some value =>
      match validateAttributeChange type (attrs.lookup type) value with
      | .error error => .error error
      | .ok () => applyOverrides overrides (attrs.insert type value) rest

/-- The copy keeps the audit flags of its source; it is not local, and starts without the other
fields of the source. -/
def copyOf (source : KeyObject) (handle : ObjectHandle) (slotId : SlotId) (attrs : Attributes)
    (overridden : List AttributeType) : KeyObject :=
  { overridden.foldl updateDerivedAttributes
      (KeyObject.new handle slotId source.keyType source.keyRef attrs) with
    alwaysSensitive := source.alwaysSensitive
    neverExtractable := source.neverExtractable
    isLocal := false }

variable (hObject : ObjectHandle)

def cCopyObject (template : Template) (given : Bool) : Api Reply := do
  ckTry checkInit
  ensure (given = true) .argumentsBad
  ensure (template.missing = false) .argumentsBad
  let overrides := template.collect
  let slotId ← ckTry (sessionSlot hSession)
  let source ← ckTry (withObjectForSlot hObject slotId)
  let handle ← nextHandle
  let isTargetToken := match overrides.lookup ckaToken with
    | some value => reads ckTrue (some value)
    | none => source.boolAttrTrue ckaToken
  if isTargetToken then ckTry (requireRwSession hSession)
  let order ← iterate overrides.keys
  let attrs ← ckTry (attempt (applyOverrides overrides source.attributes order))
  storeObject (copyOf source handle slotId attrs order) hSession
  return .ok (.handle handle)

def cDestroyObject : Api Reply := do
  ckTry checkInit
  let session ← ckTry (withSession hSession)
  let object ← ckTry (withObject hObject)
  if object.isTokenObject then ckTry (requireRwSession hSession)
  let own ← ckTry (withObjectForSlot hObject session.slotId)
  ensure (own.isPrivateObject = false ∨ session.loggedIn = true) Pkcs11Error.userNotLoggedIn.toCkr
  ckTry (destroyObject hObject)
  return .ok .none

/-! ### Attributes -/

def cGetObjectSize (given : Bool) : Api Reply := do
  ckTry checkInit
  ensure (given = true) .argumentsBad
  let slotId ← ckTry (sessionSlot hSession)
  let object ← ckTry (withObjectForSlot hObject slotId)
  return .ok (.size (UInt64.ofNat object.size))

/-- An engine that fails ends the loop; what was answered before it stays written. -/
def answersReply (answered : List Answer × Except Pkcs11Error Marks) : Reply where
  rv := match answered.2 with
    | .error error => error.toCkr
    | .ok marks => marks.rv
  output := .answers answered.1

def cGetAttributeValue (template : Option (List Query)) : Api Reply := do
  ckTry checkInit
  let queries ← require template .argumentsBad
  let slotId ← ckTry (sessionSlot hSession)
  let object ← ckTry (withObjectForSlot hObject slotId)
  let slots ← registry
  return answersReply (answerQueries (engineForSlot slots object.slotId) object {} queries)

def cSetAttributeValue (template : Template) : Api Reply := do
  ckTry checkInit
  ckTry (requireRwSession hSession)
  ensure (template.isNull = false) .argumentsBad
  let before ← ckTry (withObjectMut hObject template.list)
  let written := writeAttributes before template.list
  ckTry (attempt written.1)
  if written.2.isTokenObject then persistIfNeeded
  return .ok .none

/-! ### Searches -/

def cFindObjectsInit (template : Template) : Api Reply := do
  ckTry checkInit
  let session ← ckTry (withSession hSession)
  let results ← findObjects session.slotId (collectTemplateVec template.list) session.loggedIn
  let before ← ckTry (withSessionMut hSession fun s =>
    if s.findCtx.isSome then s else { s with findCtx := some ⟨results, 0⟩ })
  ensure (before.findCtx = none) Pkcs11Error.operationActive.toCkr
  return .ok .none

def FindContext.take (ctx : FindContext) (max : UInt64) : List ObjectHandle :=
  (ctx.results.drop ctx.index).take max.toNat

def FindContext.advance (ctx : FindContext) (max : UInt64) : FindContext :=
  { ctx with index := ctx.index + (ctx.take max).length }

def cFindObjects (max : UInt64) (given : Bool) : Api Reply := do
  ckTry checkInit
  ensure (given = true) .argumentsBad
  let before ← ckTry (withSessionMut hSession fun s =>
    { s with findCtx := s.findCtx.map fun ctx => ctx.advance max })
  let ctx ← require before.findCtx Pkcs11Error.operationNotInitialised.toCkr
  return .ok (.handles (ctx.take max))

def cFindObjectsFinal : Api Reply := do
  ckTry checkInit
  let _ ← ckTry (withSessionMut hSession fun s => { s with findCtx := none })
  return .ok .none

end ScoreCrypto.Cryptoki
