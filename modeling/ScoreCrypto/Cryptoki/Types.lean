import Mathlib.Data.Finmap

/-!
The PKCS#11 library: the numbers of its interface, its errors and their return codes.
-/

namespace ScoreCrypto.Cryptoki

abbrev Bytes := List UInt8

abbrev SlotId := UInt64
abbrev SessionHandle := UInt64
abbrev ObjectHandle := UInt64
abbrev AttributeType := UInt64
abbrev MechanismType := UInt64
abbrev UserType := UInt64
abbrev Flags := UInt64

def ckTrue : UInt8 := 1
def ckFalse : UInt8 := 0
def ckUnavailableInformation : UInt64 := 0xFFFFFFFFFFFFFFFF

/-! ### Object classes, key types and profiles -/

def ckoData : UInt64 := 0x0
def ckoPublicKey : UInt64 := 0x2
def ckoPrivateKey : UInt64 := 0x3
def ckoSecretKey : UInt64 := 0x4
def ckoProfile : UInt64 := 0x9

def ckkRsa : UInt64 := 0x0
def ckkEc : UInt64 := 0x3
def ckkGenericSecret : UInt64 := 0x10
def ckkDes : UInt64 := 0x13
def ckkDes3 : UInt64 := 0x15
def ckkAes : UInt64 := 0x1F
def ckkChacha20 : UInt64 := 0x33
def ckkEcEdwards : UInt64 := 0x40
def ckkHkdf : UInt64 := 0x42

def ckpBaselineProvider : UInt64 := 0x1

/-! ### Attribute types -/

def ckaClass : AttributeType := 0x0
def ckaToken : AttributeType := 0x1
def ckaPrivate : AttributeType := 0x2
def ckaValue : AttributeType := 0x11
def ckaTrusted : AttributeType := 0x86
def ckaKeyType : AttributeType := 0x100
def ckaSensitive : AttributeType := 0x103
def ckaWrap : AttributeType := 0x106
def ckaUnwrap : AttributeType := 0x107
def ckaUniqueId : AttributeType := 0x10A
def ckaDerive : AttributeType := 0x10C
def ckaModulus : AttributeType := 0x120
def ckaModulusBits : AttributeType := 0x121
def ckaPublicExponent : AttributeType := 0x122
def ckaPrivateExponent : AttributeType := 0x123
def ckaPrime1 : AttributeType := 0x124
def ckaPrime2 : AttributeType := 0x125
def ckaExponent1 : AttributeType := 0x126
def ckaExponent2 : AttributeType := 0x127
def ckaCoefficient : AttributeType := 0x128
def ckaValueLen : AttributeType := 0x161
def ckaExtractable : AttributeType := 0x162
def ckaLocal : AttributeType := 0x163
def ckaNeverExtractable : AttributeType := 0x164
def ckaAlwaysSensitive : AttributeType := 0x165
def ckaKeyGenMechanism : AttributeType := 0x166
def ckaDestroyable : AttributeType := 0x172
def ckaEcParams : AttributeType := 0x180
def ckaEcPoint : AttributeType := 0x181
def ckaAlwaysAuthenticate : AttributeType := 0x202
def ckaWrapWithTrusted : AttributeType := 0x210
def ckaProfileId : AttributeType := 0x601

/-! ### Mechanisms -/

def ckmRsaPkcsKeyPairGen : MechanismType := 0x0
def ckmRsaPkcs : MechanismType := 0x1
def ckmMd5RsaPkcs : MechanismType := 0x5
def ckmSha1RsaPkcs : MechanismType := 0x6
def ckmRsaPkcsOaep : MechanismType := 0x9
def ckmRsaPkcsPss : MechanismType := 0xD
def ckmSha1RsaPkcsPss : MechanismType := 0xE
def ckmSha256RsaPkcs : MechanismType := 0x40
def ckmSha384RsaPkcs : MechanismType := 0x41
def ckmSha512RsaPkcs : MechanismType := 0x42
def ckmSha256RsaPkcsPss : MechanismType := 0x43
def ckmSha384RsaPkcsPss : MechanismType := 0x44
def ckmSha512RsaPkcsPss : MechanismType := 0x45
def ckmDesKeyGen : MechanismType := 0x120
def ckmDesEcb : MechanismType := 0x121
def ckmDesCbc : MechanismType := 0x122
def ckmDes3KeyGen : MechanismType := 0x131
def ckmDes3Ecb : MechanismType := 0x132
def ckmDes3Cbc : MechanismType := 0x133
def ckmMd5 : MechanismType := 0x210
def ckmSha1 : MechanismType := 0x220
def ckmSha256 : MechanismType := 0x250
def ckmSha256Hmac : MechanismType := 0x251
def ckmSha384 : MechanismType := 0x260
def ckmSha384Hmac : MechanismType := 0x261
def ckmSha512 : MechanismType := 0x270
def ckmSha512Hmac : MechanismType := 0x271
def ckmSha3256 : MechanismType := 0x2B0
def ckmSha3384 : MechanismType := 0x2C0
def ckmSha3512 : MechanismType := 0x2D0
def ckmGenericSecretKeyGen : MechanismType := 0x350
def ckmEcKeyPairGen : MechanismType := 0x1040
def ckmEcdsa : MechanismType := 0x1041
def ckmEcdsaSha256 : MechanismType := 0x1043
def ckmEcdsaSha384 : MechanismType := 0x1044
def ckmEcdsaSha512 : MechanismType := 0x1045
def ckmEcEdwardsKeyPairGen : MechanismType := 0x1055
def ckmEddsa : MechanismType := 0x1057
def ckmAesKeyGen : MechanismType := 0x1080
def ckmAesEcb : MechanismType := 0x1081
def ckmAesCbc : MechanismType := 0x1082
def ckmAesCbcPad : MechanismType := 0x1085
def ckmAesGcm : MechanismType := 0x1087
def ckmAesKeyWrap : MechanismType := 0x1090
def ckmChacha20Poly1305 : MechanismType := 0x4021
def ckmChacha20KeyGen : MechanismType := 0x4022
def ckmHkdfDerive : MechanismType := 0x402A

/-! ### Users and session flags -/

def ckuSo : UserType := 0
def ckuUser : UserType := 1
def ckuContextSpecific : UserType := 2

def ckfRwSession : Flags := 0x2
def ckfSerialSession : Flags := 0x4
def ckfOsLockingOk : Flags := 0x2

def cksRoPublicSession : UInt64 := 0
def cksRoUserFunctions : UInt64 := 1
def cksRwPublicSession : UInt64 := 2
def cksRwUserFunctions : UInt64 := 3
def cksRwSoFunctions : UInt64 := 4

/-! ### Return codes -/

inductive Rv where
  | ok
  | slotIdInvalid
  | generalError
  | argumentsBad
  | cantLock
  | attributeReadOnly
  | attributeSensitive
  | attributeTypeInvalid
  | attributeValueInvalid
  | dataInvalid
  | dataLenRange
  | encryptedDataInvalid
  | functionNotParallel
  | functionNotSupported
  | keyHandleInvalid
  | keySizeRange
  | keyTypeInconsistent
  | keyIndigestible
  | keyFunctionNotPermitted
  | keyNotWrappable
  | keyUnextractable
  | mechanismInvalid
  | mechanismParamInvalid
  | objectHandleInvalid
  | operationActive
  | operationNotInitialized
  | pinIncorrect
  | pinLenRange
  | pinLocked
  | sessionHandleInvalid
  | sessionParallelNotSupported
  | sessionReadOnly
  | sessionExists
  | sessionReadOnlyExists
  | sessionReadWriteSoExists
  | signatureInvalid
  | signatureLenRange
  | templateIncomplete
  | templateInconsistent
  | tokenWriteProtected
  | unwrappingKeyHandleInvalid
  | userAlreadyLoggedIn
  | userNotLoggedIn
  | userPinNotInitialized
  | userTypeInvalid
  | userAnotherAlreadyLoggedIn
  | wrappingKeyHandleInvalid
  | randomSeedNotSupported
  | bufferTooSmall
  | cryptokiNotInitialized
  | cryptokiAlreadyInitialized
  deriving DecidableEq, Repr

/-! ### Errors of an engine and of the library -/

inductive CryptoError where
  | keyGenFailed
  | invalidKeyData
  | invalidKeySize
  | dataInvalid
  | dataLenRange
  | encryptFailed
  | decryptFailed
  | signFailed
  | verifyFailed
  | signatureLenRange
  | hashFailed
  | randomFailed
  | bufferTooSmall (needed : Nat)
  | mechanismInvalid
  | mechanismParamInvalid
  | attributeTypeInvalid
  | attributeSensitive
  | attributeValueInvalid
  | notInitialized
  | alreadyInitialized
  | generalError
  | slotIdInvalid
  deriving DecidableEq, Repr, Inhabited

inductive Pkcs11Error where
  | notInitialised
  | alreadyInitialised
  | invalidSlotId
  | invalidSessionHandle
  | invalidObjectHandle
  | invalidMechanism
  | mechanismUnsupported
  | mechanismParamInvalid
  | invalidAttributeType
  | attributeReadOnly
  | attributeValueInvalid
  | attributeSensitive
  | templateIncomplete
  | templateInconsistent
  | argumentsBad
  | bufferTooSmall (needed : Nat)
  | userNotLoggedIn
  | userAlreadyLoggedIn
  | userAnotherAlreadyLoggedIn
  | userPinNotInitialized
  | userTypeInvalid
  | pinIncorrect
  | pinLenRange
  | pinLocked
  | operationActive
  | operationNotInitialised
  | sessionReadOnly
  | sessionParallelNotSupported
  | sessionReadWriteSoExists
  | tokenWriteProtected
  | keyTypeInconsistent
  | keyHandleInvalid
  | keySizeRange
  | keyFunctionNotPermitted
  | keyNotExtractable
  | keyNotWrappable
  | signatureInvalid
  | dataInvalid
  | dataLenRange
  | encryptedDataInvalid
  | functionNotSupported
  | generalError
  | openSsl
  deriving DecidableEq, Repr

def Pkcs11Error.toCkr : Pkcs11Error → Rv
  | .notInitialised => .cryptokiNotInitialized
  | .alreadyInitialised => .cryptokiAlreadyInitialized
  | .invalidSlotId => .slotIdInvalid
  | .invalidSessionHandle => .sessionHandleInvalid
  | .invalidObjectHandle => .objectHandleInvalid
  | .invalidMechanism | .mechanismUnsupported => .mechanismInvalid
  | .mechanismParamInvalid => .mechanismParamInvalid
  | .invalidAttributeType => .attributeTypeInvalid
  | .attributeReadOnly => .attributeReadOnly
  | .attributeValueInvalid => .attributeValueInvalid
  | .attributeSensitive => .attributeSensitive
  | .templateIncomplete => .templateIncomplete
  | .templateInconsistent => .templateInconsistent
  | .argumentsBad => .argumentsBad
  | .bufferTooSmall _ => .bufferTooSmall
  | .userNotLoggedIn => .userNotLoggedIn
  | .userAlreadyLoggedIn => .userAlreadyLoggedIn
  | .userAnotherAlreadyLoggedIn => .userAnotherAlreadyLoggedIn
  | .userPinNotInitialized => .userPinNotInitialized
  | .userTypeInvalid => .userTypeInvalid
  | .pinIncorrect => .pinIncorrect
  | .pinLenRange => .pinLenRange
  | .pinLocked => .pinLocked
  | .operationActive => .operationActive
  | .operationNotInitialised => .operationNotInitialized
  | .sessionReadOnly => .sessionReadOnly
  | .sessionParallelNotSupported => .sessionParallelNotSupported
  | .sessionReadWriteSoExists => .sessionReadWriteSoExists
  | .tokenWriteProtected => .tokenWriteProtected
  | .keyTypeInconsistent => .keyTypeInconsistent
  | .keyHandleInvalid => .keyHandleInvalid
  | .keySizeRange => .keySizeRange
  | .keyFunctionNotPermitted => .keyFunctionNotPermitted
  | .keyNotExtractable => .keyUnextractable
  | .keyNotWrappable => .keyNotWrappable
  | .signatureInvalid => .signatureInvalid
  | .dataInvalid => .dataInvalid
  | .dataLenRange => .dataLenRange
  | .encryptedDataInvalid => .encryptedDataInvalid
  | .functionNotSupported => .functionNotSupported
  | .generalError | .openSsl => .generalError

@[simp] theorem Pkcs11Error.toCkr_ne_ok (error : Pkcs11Error) : error.toCkr ≠ .ok := by
  cases error <;> exact nofun

def Pkcs11Error.ofCryptoError : CryptoError → Pkcs11Error
  | .keyGenFailed => .generalError
  | .invalidKeyData => .keyHandleInvalid
  | .invalidKeySize => .keySizeRange
  | .dataInvalid => .dataInvalid
  | .dataLenRange => .dataLenRange
  | .encryptFailed => .generalError
  | .decryptFailed => .encryptedDataInvalid
  | .signFailed => .generalError
  | .verifyFailed => .signatureInvalid
  | .signatureLenRange => .signatureInvalid
  | .hashFailed => .generalError
  | .randomFailed => .generalError
  | .bufferTooSmall needed => .bufferTooSmall needed
  | .mechanismInvalid => .invalidMechanism
  | .mechanismParamInvalid => .mechanismParamInvalid
  | .attributeTypeInvalid => .invalidAttributeType
  | .attributeSensitive => .attributeSensitive
  | .attributeValueInvalid => .attributeValueInvalid
  | .notInitialized => .notInitialised
  | .alreadyInitialized => .alreadyInitialised
  | .generalError => .generalError
  | .slotIdInvalid => .invalidSlotId

def ofEngine {α : Type} (result : Except CryptoError α) : Except Pkcs11Error α :=
  result.mapError Pkcs11Error.ofCryptoError

/-! ### Numbers in attributes -/

def ulongBytes (value : UInt64) : Bytes :=
  (List.range 8).map fun i => (value >>> (8 * UInt64.ofNat i)).toUInt8

/-- At most eight bytes are read, and missing ones are zero. -/
def bytesToUlong (bytes : Bytes) : UInt64 :=
  (bytes.take 8).foldr (fun byte value => value <<< 8 ||| byte.toUInt64) 0

/-! ### Attributes of an object -/

abbrev Attributes := Finmap fun _ : AttributeType => Bytes

def reads (truth : UInt8) (value : Option Bytes) : Bool :=
  match value with
  | some (first :: _) => first == truth
  | _ => false

@[simp] theorem reads_none (truth : UInt8) : reads truth none = false := rfl

@[simp] theorem reads_nil (truth : UInt8) : reads truth (some []) = false := rfl

@[simp] theorem reads_cons (truth first : UInt8) (rest : Bytes) :
    reads truth (some (first :: rest)) = (first == truth) := rfl

def Attributes.orInsert (attributes : Attributes) (type : AttributeType) (value : Bytes) :
    Attributes :=
  if type ∈ attributes then attributes else attributes.insert type value

end ScoreCrypto.Cryptoki
