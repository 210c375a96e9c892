import ScoreCrypto.Cryptoki.Types

/-!
The crypto engines behind the slots. An operation that draws random numbers takes a seed.
-/

namespace ScoreCrypto.Cryptoki

inductive HashAlgorithm where
  | md5
  | sha1
  | sha256
  | sha384
  | sha512
  | sha3256
  | sha3384
  | sha3512
  deriving DecidableEq, Repr

inductive EcCurve where
  | p256
  | p384
  | p521
  deriving DecidableEq, Repr

inductive EdwardsCurve where
  | ed25519
  | ed448
  deriving DecidableEq, Repr

structure RsaKeyPair where
  privateDer : Bytes
  publicDer : Bytes
  bits : UInt32
  modulus : Bytes
  publicExponent : Bytes

structure EcKeyPair where
  privateDer : Bytes
  publicDer : Bytes
  ecParamsDer : Bytes
  ecPoint : Bytes

inductive EngineAttribute where
  | objectClass
  | token
  | isPrivate
  | label
  | value
  | keyType
  | id
  | sensitive
  | encrypt
  | decrypt
  | wrap
  | unwrap
  | sign
  | verify
  | derive
  | modulus
  | modulusBits
  | publicExponent
  | valueLen
  | extractable
  | isLocal
  | neverExtractable
  | alwaysSensitive
  | modifiable
  | ecParams
  | ecPoint
  | alwaysAuthenticate
  | destroyable
  | copyable
  | uniqueId
  | profileId
  | vendorDefined
  deriving DecidableEq, Repr

def EngineAttribute.fromU32 (number : UInt32) : Option EngineAttribute :=
  match number.toNat with
  | 0x00000000 => some .objectClass
  | 0x00000001 => some .token
  | 0x00000002 => some .isPrivate
  | 0x00000003 => some .label
  | 0x00000011 => some .value
  | 0x00000100 => some .keyType
  | 0x00000102 => some .id
  | 0x00000103 => some .sensitive
  | 0x00000104 => some .encrypt
  | 0x00000105 => some .decrypt
  | 0x00000106 => some .wrap
  | 0x00000107 => some .unwrap
  | 0x00000108 => some .sign
  | 0x00000109 => some .verify
  | 0x0000010C => some .derive
  | 0x00000120 => some .modulus
  | 0x00000121 => some .modulusBits
  | 0x00000122 => some .publicExponent
  | 0x00000161 => some .valueLen
  | 0x00000162 => some .extractable
  | 0x00000163 => some .isLocal
  | 0x00000164 => some .neverExtractable
  | 0x00000165 => some .alwaysSensitive
  | 0x00000170 => some .modifiable
  | 0x00000180 => some .ecParams
  | 0x00000181 => some .ecPoint
  | 0x00000202 => some .alwaysAuthenticate
  | 0x00000172 => some .destroyable
  | 0x00000171 => some .copyable
  | 0x0000010A => some .uniqueId
  | 0x00000601 => some .profileId
  | 0x80000000 => some .vendorDefined
  | _ => none

inductive AttributeValue where
  | bool (value : Bool)
  | ulong (value : UInt64)
  | bytes (value : Bytes)
  deriving DecidableEq, Repr

def AttributeValue.toBytes : AttributeValue → Bytes
  | .bool value => [if value then 1 else 0]
  | .ulong value => ulongBytes value
  | .bytes value => value

/-- The operations of an engine; keys are passed as the engine's own opaque bytes. -/
structure CryptoProvider where
  slotCount : Nat
  generateRsaKeyPair : (seed : Nat) → (bits : UInt32) → Except CryptoError RsaKeyPair
  generateEcKeyPair : (seed : Nat) → EcCurve → Except CryptoError EcKeyPair
  generateEdKeyPair : (seed : Nat) → EdwardsCurve → Except CryptoError EcKeyPair
  generateAesKey : (seed len : Nat) → Except CryptoError Bytes
  generateChacha20Key : (seed : Nat) → Except CryptoError Bytes
  generateRandom : (seed len : Nat) → Except CryptoError Bytes
  aesCbcEncrypt : (key iv plaintext : Bytes) → Except CryptoError Bytes
  aesCbcDecrypt : (key iv ciphertext : Bytes) → Except CryptoError Bytes
  aesGcmEncrypt : (key iv aad plaintext : Bytes) → Except CryptoError (Bytes × Bytes)
  aesGcmDecrypt : (key iv aad ciphertext tag : Bytes) → Except CryptoError Bytes
  chacha20Poly1305Encrypt : (key nonce aad plaintext : Bytes) → Except CryptoError (Bytes × Bytes)
  chacha20Poly1305Decrypt : (key nonce aad ciphertext tag : Bytes) → Except CryptoError Bytes
  rsaPkcs1Encrypt : (seed : Nat) → (key plaintext : Bytes) → Except CryptoError Bytes
  rsaPkcs1Decrypt : (key ciphertext : Bytes) → Except CryptoError Bytes
  rsaOaepEncrypt : (seed : Nat) → (key plaintext : Bytes) → Except CryptoError Bytes
  rsaOaepDecrypt : (key ciphertext : Bytes) → Except CryptoError Bytes
  rsaPkcs1Sign : (key message : Bytes) → Except CryptoError Bytes
  rsaPkcs1Verify : (key message signature : Bytes) → Except CryptoError Bool
  rsaPkcs1SignHash : (key message : Bytes) → HashAlgorithm → Except CryptoError Bytes
  rsaPkcs1VerifyHash : (key message signature : Bytes) → HashAlgorithm → Except CryptoError Bool
  rsaPssSign : (seed : Nat) → (key message : Bytes) → Except CryptoError Bytes
  rsaPssVerify : (key message signature : Bytes) → Except CryptoError Bool
  rsaPssSignHash : (seed : Nat) → (key message : Bytes) → HashAlgorithm → Except CryptoError Bytes
  rsaPssVerifyHash : (key message signature : Bytes) → HashAlgorithm → Except CryptoError Bool
  ecdsaSignPrehashed : (seed : Nat) → (key digest : Bytes) → Except CryptoError Bytes
  ecdsaVerifyPrehashed : (key digest signature : Bytes) → Except CryptoError Bool
  eddsaSign : (key message : Bytes) → Except CryptoError Bytes
  eddsaVerify : (key message signature : Bytes) → Except CryptoError Bool
  hmacSign : HashAlgorithm → (key data : Bytes) → Except CryptoError Bytes
  hmacVerify : HashAlgorithm → (key data mac : Bytes) → Except CryptoError Bool
  hash : HashAlgorithm → (data : Bytes) → Except CryptoError Bytes
  hkdfDerive : HashAlgorithm → (key salt info : Bytes) → (okmLen : Nat) → Except CryptoError Bytes
  aesKeyWrap : (kek plaintextKey : Bytes) → Except CryptoError Bytes
  aesKeyUnwrap : (kek wrappedKey : Bytes) → Except CryptoError Bytes
  keyValueForDigest : (key : Bytes) → Except CryptoError Bytes
  rsaAttribute : (key : Bytes) → (isPrivate : Bool) → EngineAttribute →
    Except CryptoError AttributeValue
  ecAttribute : (key : Bytes) → (isPrivate : Bool) → EngineAttribute →
    Except CryptoError AttributeValue
  edAttribute : (key : Bytes) → (isPrivate : Bool) → EngineAttribute →
    Except CryptoError AttributeValue
  aesAttribute : (key : Bytes) → EngineAttribute → Except CryptoError AttributeValue
  serializeKey : (key : Bytes) → Except CryptoError Bytes
  deserializeKey : (data : Bytes) → Except CryptoError Bytes
  deriving Inhabited

end ScoreCrypto.Cryptoki
