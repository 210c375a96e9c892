import ScoreCrypto.Cryptoki.State

/-! How the library's operations reach the engine of a slot. -/

namespace ScoreCrypto.Cryptoki

structure GeneratedKey where
  keyType : KeyType
  keyRef : Bytes
  attrs : Attributes
  keyGenMechanism : MechanismType

variable (slots : List CryptoProvider) (slotId : SlotId)

def eng : Except Pkcs11Error CryptoProvider :=
  match engineForSlot slots slotId with
  | some engine => .ok engine
  | none => .error .invalidSlotId

/-! ### Key generation -/

def keyPairAttrs (keyType : UInt64) (common : List (AttributeType × Bytes))
    (publicOnly : List (AttributeType × Bytes))
    (pubTemplate privTemplate : Attributes) : Attributes × Attributes :=
  let add (attrs : Attributes) (values : List (AttributeType × Bytes)) : Attributes :=
    values.foldl (fun attrs entry => attrs.insert entry.1 entry.2) attrs
  (add pubTemplate ([(ckaClass, ulongBytes ckoPublicKey), (ckaKeyType, ulongBytes keyType)] ++
      common ++ publicOnly),
    add privTemplate ([(ckaClass, ulongBytes ckoPrivateKey), (ckaKeyType, ulongBytes keyType)] ++
      common))

variable (seed : Nat)

def generateRsaKeyPair (modulusBits : UInt32) (pubTemplate privTemplate : Attributes) :
    Except Pkcs11Error (GeneratedKey × GeneratedKey) := do
  if modulusBits < 1024 ∨ 16384 < modulusBits then throw .keySizeRange
  let e ← eng slots slotId
  let pair ← ofEngine (e.generateRsaKeyPair seed modulusBits)
  let attrs := keyPairAttrs ckkRsa
    [(ckaModulus, pair.modulus), (ckaPublicExponent, pair.publicExponent),
      (ckaModulusBits, ulongBytes pair.bits.toUInt64)] [] pubTemplate privTemplate
  return (⟨.rsaPrivate, pair.privateDer, attrs.2, ckmRsaPkcsKeyPairGen⟩,
    ⟨.rsaPublic, pair.publicDer, attrs.1, ckmRsaPkcsKeyPairGen⟩)

def generateEcKeyPair (curve : EcCurve) (pubTemplate privTemplate : Attributes) :
    Except Pkcs11Error (GeneratedKey × GeneratedKey) := do
  let e ← eng slots slotId
  let pair ← ofEngine (e.generateEcKeyPair seed curve)
  let attrs := keyPairAttrs ckkEc [(ckaEcParams, pair.ecParamsDer)] [(ckaEcPoint, pair.ecPoint)]
    pubTemplate privTemplate
  return (⟨.ecPrivate, pair.privateDer, attrs.2, ckmEcKeyPairGen⟩,
    ⟨.ecPublic, pair.publicDer, attrs.1, ckmEcKeyPairGen⟩)

def generateEdKeyPair (curve : EdwardsCurve) (pubTemplate privTemplate : Attributes) :
    Except Pkcs11Error (GeneratedKey × GeneratedKey) := do
  let e ← eng slots slotId
  let pair ← ofEngine (e.generateEdKeyPair seed curve)
  let attrs := keyPairAttrs ckkEcEdwards [(ckaEcParams, pair.ecParamsDer)]
    [(ckaEcPoint, pair.ecPoint)] pubTemplate privTemplate
  return (⟨.edPrivate, pair.privateDer, attrs.2, ckmEcEdwardsKeyPairGen⟩,
    ⟨.edPublic, pair.publicDer, attrs.1, ckmEcEdwardsKeyPairGen⟩)

def secretKeyAttrs (keyType : UInt64) (keyLen : Nat) (template : Attributes) : Attributes :=
  ((template.insert ckaClass (ulongBytes ckoSecretKey)).insert ckaKeyType (ulongBytes keyType)).insert
    ckaValueLen (ulongBytes (UInt64.ofNat keyLen))

def generateAesKey (idSeed keyLen : Nat)
    (template : Attributes) : Except Pkcs11Error GeneratedKey := do
  if keyLen ≠ 16 ∧ keyLen ≠ 24 ∧ keyLen ≠ 32 then throw .keySizeRange
  let e ← eng slots slotId
  let keyRef ← ofEngine (e.generateAesKey seed keyLen)
  let uniqueId ← ofEngine (e.generateRandom idSeed 16)
  return ⟨.aesSecret, keyRef, (secretKeyAttrs ckkAes keyLen template).insert ckaUniqueId uniqueId,
    ckmAesKeyGen⟩

def generateChacha20Key (template : Attributes) : Except Pkcs11Error GeneratedKey := do
  let e ← eng slots slotId
  let keyRef ← ofEngine (e.generateChacha20Key seed)
  return ⟨.chaCha20Secret, keyRef, secretKeyAttrs ckkChacha20 32 template, ckmChacha20KeyGen⟩

def generateGenericSecretKey
    (idSeed keyLen : Nat) (template : Attributes) : Except Pkcs11Error GeneratedKey := do
  if keyLen = 0 ∨ 4096 < keyLen then throw .keySizeRange
  let e ← eng slots slotId
  let keyRef ← ofEngine (e.generateRandom seed keyLen)
  let uniqueId ← ofEngine (e.generateRandom idSeed 16)
  return ⟨.genericSecret, keyRef,
    (secretKeyAttrs ckkGenericSecret keyLen template).insert ckaUniqueId uniqueId,
    ckmGenericSecretKeyGen⟩

def generateLegacySecretKey
    (mechanism : MechanismType) (keyLen : Nat) (keyType : UInt64) (template : Attributes) :
    Except Pkcs11Error GeneratedKey := do
  let e ← eng slots slotId
  let keyRef ← ofEngine (e.generateRandom seed keyLen)
  return ⟨.genericSecret, keyRef, secretKeyAttrs keyType keyLen template, mechanism⟩

/-! ### Signatures -/

def sign (mechanism : MechanismType)
    (key : KeyObject) (data : Bytes) : Except Pkcs11Error Bytes := do
  let e ← eng slots slotId
  let prehashed (hash : HashAlgorithm) : Except Pkcs11Error Bytes := do
    let digest ← ofEngine (e.hash hash data)
    ofEngine (e.ecdsaSignPrehashed seed key.keyRef digest)
  match key.keyType with
  | .rsaPrivate =>
    if mechanism = ckmRsaPkcs then ofEngine (e.rsaPkcs1Sign key.keyRef data)
    else if mechanism = ckmMd5RsaPkcs then ofEngine (e.rsaPkcs1SignHash key.keyRef data .md5)
    else if mechanism = ckmSha1RsaPkcs then ofEngine (e.rsaPkcs1SignHash key.keyRef data .sha1)
    else if mechanism = ckmSha256RsaPkcs then ofEngine (e.rsaPkcs1Sign key.keyRef data)
    else if mechanism = ckmSha384RsaPkcs then ofEngine (e.rsaPkcs1SignHash key.keyRef data .sha384)
    else if mechanism = ckmSha512RsaPkcs then ofEngine (e.rsaPkcs1SignHash key.keyRef data .sha512)
    else if mechanism = ckmSha256RsaPkcsPss then ofEngine (e.rsaPssSign seed key.keyRef data)
    else if mechanism = ckmSha384RsaPkcsPss then
      ofEngine (e.rsaPssSignHash seed key.keyRef data .sha384)
    else if mechanism = ckmSha512RsaPkcsPss then
      ofEngine (e.rsaPssSignHash seed key.keyRef data .sha512)
    else throw .invalidMechanism
  | .ecPrivate =>
    if mechanism = ckmEcdsa then ofEngine (e.ecdsaSignPrehashed seed key.keyRef data)
    else if mechanism = ckmEcdsaSha256 then prehashed .sha256
    else if mechanism = ckmEcdsaSha384 then prehashed .sha384
    else if mechanism = ckmEcdsaSha512 then prehashed .sha512
    else throw .invalidMechanism
  | .edPrivate =>
    if mechanism = ckmEddsa then ofEngine (e.eddsaSign key.keyRef data)
    else throw .invalidMechanism
  | .genericSecret =>
    if mechanism = ckmSha256Hmac then ofEngine (e.hmacSign .sha256 key.keyRef data)
    else if mechanism = ckmSha384Hmac then ofEngine (e.hmacSign .sha384 key.keyRef data)
    else if mechanism = ckmSha512Hmac then ofEngine (e.hmacSign .sha512 key.keyRef data)
    else throw .invalidMechanism
  | _ => throw .keyTypeInconsistent

variable (mechanism : MechanismType) (key : KeyObject)

def verify (data signature : Bytes) : Except Pkcs11Error Unit := do
  let e ← eng slots slotId
  let prehashed (hash : HashAlgorithm) : Except Pkcs11Error Bool := do
    let digest ← ofEngine (e.hash hash data)
    ofEngine (e.ecdsaVerifyPrehashed key.keyRef digest signature)
  let withHash (hash : HashAlgorithm) : Except Pkcs11Error Bool :=
    ofEngine (e.rsaPkcs1VerifyHash key.keyRef data signature hash)
  let ok ← match key.keyType with
    | .rsaPublic =>
      if mechanism = ckmRsaPkcs then ofEngine (e.rsaPkcs1Verify key.keyRef data signature)
      else if mechanism = ckmMd5RsaPkcs then withHash .md5
      else if mechanism = ckmSha1RsaPkcs then withHash .sha1
      else if mechanism = ckmSha256RsaPkcs then
        ofEngine (e.rsaPkcs1Verify key.keyRef data signature)
      else if mechanism = ckmSha384RsaPkcs then withHash .sha384
      else if mechanism = ckmSha512RsaPkcs then withHash .sha512
      else if mechanism = ckmSha256RsaPkcsPss then
        ofEngine (e.rsaPssVerify key.keyRef data signature)
      else if mechanism = ckmSha384RsaPkcsPss then
        ofEngine (e.rsaPssVerifyHash key.keyRef data signature .sha384)
      else if mechanism = ckmSha512RsaPkcsPss then
        ofEngine (e.rsaPssVerifyHash key.keyRef data signature .sha512)
      else throw .invalidMechanism
    | .ecPublic =>
      if mechanism = ckmEcdsa then ofEngine (e.ecdsaVerifyPrehashed key.keyRef data signature)
      else if mechanism = ckmEcdsaSha256 then prehashed .sha256
      else if mechanism = ckmEcdsaSha384 then prehashed .sha384
      else if mechanism = ckmEcdsaSha512 then prehashed .sha512
      else throw .invalidMechanism
    | .edPublic =>
      if mechanism = ckmEddsa then ofEngine (e.eddsaVerify key.keyRef data signature)
      else throw .invalidMechanism
    | .genericSecret =>
      if mechanism = ckmSha256Hmac then ofEngine (e.hmacVerify .sha256 key.keyRef data signature)
      else if mechanism = ckmSha384Hmac then
        ofEngine (e.hmacVerify .sha384 key.keyRef data signature)
      else if mechanism = ckmSha512Hmac then
        ofEngine (e.hmacVerify .sha512 key.keyRef data signature)
      else throw .invalidMechanism
    | _ => throw .keyTypeInconsistent
  if ok then return () else throw .signatureInvalid

/-! ### Encryption -/

def isRsaEncMechanism : Bool :=
  mechanism = ckmRsaPkcs || mechanism = ckmRsaPkcsOaep

def rsaEncrypt (seed : Nat)
    (mechanism : MechanismType) (key : KeyObject) (plaintext : Bytes) : Except Pkcs11Error Bytes := do
  let e ← eng slots slotId
  if mechanism = ckmRsaPkcs then ofEngine (e.rsaPkcs1Encrypt seed key.keyRef plaintext)
  else if mechanism = ckmRsaPkcsOaep then ofEngine (e.rsaOaepEncrypt seed key.keyRef plaintext)
  else throw .invalidMechanism

def rsaDecrypt (ciphertext : Bytes) : Except Pkcs11Error Bytes := do
  let e ← eng slots slotId
  if mechanism = ckmRsaPkcs then ofEngine (e.rsaPkcs1Decrypt key.keyRef ciphertext)
  else if mechanism = ckmRsaPkcsOaep then ofEngine (e.rsaOaepDecrypt key.keyRef ciphertext)
  else throw .invalidMechanism

def isBlockCipher : Bool :=
  mechanism = ckmDesEcb || mechanism = ckmDesCbc || mechanism = ckmDes3Ecb ||
    mechanism = ckmDes3Cbc || mechanism = ckmAesEcb || mechanism = ckmAesCbc

/-- The block ciphers do not go through the engine. -/
def blockCipher (world : World) (mechanism : MechanismType) (encrypt : Bool) (key iv input : Bytes) :
    Except Pkcs11Error Bytes :=
  if (mechanism = ckmAesEcb ∨ mechanism = ckmAesCbc) ∧
      key.length ≠ 16 ∧ key.length ≠ 24 ∧ key.length ≠ 32 then
    .error .keySizeRange
  else
    let chained := mechanism = ckmDesCbc ∨ mechanism = ckmDes3Cbc ∨ mechanism = ckmAesCbc
    world.blockCipherCrypt mechanism encrypt key (if chained then iv else []) input

def encryptSymmetric (world : World) (slots : List CryptoProvider) (slotId : SlotId)
    (mechanism : MechanismType) (key : KeyObject) (iv : Bytes) (aad : Option Bytes)
    (plaintext : Bytes) : Except Pkcs11Error Bytes := do
  let e ← eng slots slotId
  if isBlockCipher mechanism then blockCipher world mechanism true key.keyRef iv plaintext
  else if mechanism = ckmAesCbcPad then ofEngine (e.aesCbcEncrypt key.keyRef iv plaintext)
  else if mechanism = ckmAesGcm then
    let sealed ← ofEngine (e.aesGcmEncrypt key.keyRef iv (aad.getD []) plaintext)
    return sealed.1 ++ sealed.2
  else if mechanism = ckmChacha20Poly1305 then
    let sealed ← ofEngine (e.chacha20Poly1305Encrypt key.keyRef iv (aad.getD []) plaintext)
    return sealed.1 ++ sealed.2
  else throw .mechanismUnsupported

def decryptSymmetric (world : World) (slots : List CryptoProvider) (slotId : SlotId)
    (mechanism : MechanismType) (key : KeyObject) (iv : Bytes) (aad : Option Bytes)
    (ciphertext : Bytes) (tagLen : Nat) : Except Pkcs11Error Bytes := do
  let e ← eng slots slotId
  if isBlockCipher mechanism then blockCipher world mechanism false key.keyRef iv ciphertext
  else if mechanism = ckmAesCbcPad then ofEngine (e.aesCbcDecrypt key.keyRef iv ciphertext)
  else if mechanism = ckmAesGcm then
    if ciphertext.length < tagLen then throw .encryptedDataInvalid
    let split := ciphertext.splitAt (ciphertext.length - tagLen)
    ofEngine (e.aesGcmDecrypt key.keyRef iv (aad.getD []) split.1 split.2)
  else if mechanism = ckmChacha20Poly1305 then
    if ciphertext.length < tagLen then throw .encryptedDataInvalid
    let split := ciphertext.splitAt (ciphertext.length - tagLen)
    ofEngine (e.chacha20Poly1305Decrypt key.keyRef iv (aad.getD []) split.1 split.2)
  else throw .mechanismUnsupported

def encryptMessage (iv aad plaintext : Bytes) : Except Pkcs11Error (Bytes × Bytes) := do
  let e ← eng slots slotId
  if mechanism = ckmAesGcm then ofEngine (e.aesGcmEncrypt key.keyRef iv aad plaintext)
  else if mechanism = ckmChacha20Poly1305 then
    ofEngine (e.chacha20Poly1305Encrypt key.keyRef iv aad plaintext)
  else throw .mechanismUnsupported

def decryptMessage (iv aad ciphertext tag : Bytes) : Except Pkcs11Error Bytes := do
  let e ← eng slots slotId
  if mechanism = ckmAesGcm then ofEngine (e.aesGcmDecrypt key.keyRef iv aad ciphertext tag)
  else if mechanism = ckmChacha20Poly1305 then
    ofEngine (e.chacha20Poly1305Decrypt key.keyRef iv aad ciphertext tag)
  else throw .mechanismUnsupported

/-! ### Digests, wrapping and derivation -/

def mechanismToHashAlgorithm : Except Pkcs11Error HashAlgorithm :=
  if mechanism = ckmMd5 then .ok .md5
  else if mechanism = ckmSha1 then .ok .sha1
  else if mechanism = ckmSha256 then .ok .sha256
  else if mechanism = ckmSha384 then .ok .sha384
  else if mechanism = ckmSha512 then .ok .sha512
  else if mechanism = ckmSha3256 then .ok .sha3256
  else if mechanism = ckmSha3384 then .ok .sha3384
  else if mechanism = ckmSha3512 then .ok .sha3512
  else .error .invalidMechanism

def digest (data : Bytes) : Except Pkcs11Error Bytes := do
  let e ← eng slots slotId
  let algorithm ← mechanismToHashAlgorithm mechanism
  ofEngine (e.hash algorithm data)

def keyValueForDigest : Except Pkcs11Error Bytes := do
  let e ← eng slots slotId
  ofEngine (e.keyValueForDigest key.keyRef)

def generateRandom (seed len : Nat) : Except Pkcs11Error Bytes := do
  let e ← eng slots slotId
  ofEngine (e.generateRandom seed len)

def aesWrapKeyRefs (wrappingRef targetRef : Bytes) : Except Pkcs11Error Bytes := do
  let e ← eng slots slotId
  ofEngine (e.aesKeyWrap wrappingRef targetRef)

def aesUnwrapKey (unwrappingKey : KeyObject) (wrappedKey : Bytes) : Except Pkcs11Error Bytes := do
  let e ← eng slots slotId
  ofEngine (e.aesKeyUnwrap unwrappingKey.keyRef wrappedKey)

def hkdfDerive (baseKey : KeyObject)
    (hash : HashAlgorithm) (salt info : Bytes) (okmLen : Nat) : Except Pkcs11Error Bytes := do
  let e ← eng slots slotId
  ofEngine (e.hkdfDerive hash baseKey.keyRef salt info okmLen)

end ScoreCrypto.Cryptoki
