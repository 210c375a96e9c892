import ScoreCrypto.Cryptoki.Object
import ScoreCrypto.Cryptoki.Token

/-! What the library keeps of its objects and tokens on disk. -/

namespace ScoreCrypto.Cryptoki

inductive StoredKeyType where
  | rsaPrivate
  | rsaPublic
  | ecPrivate
  | ecPublic
  | aesSecret
  | edPrivate
  | edPublic
  | chaCha20Secret
  | genericSecret
  deriving DecidableEq, Repr

def StoredKeyType.from : KeyType → Option StoredKeyType
  | .rsaPrivate => some .rsaPrivate
  | .rsaPublic => some .rsaPublic
  | .ecPrivate => some .ecPrivate
  | .ecPublic => some .ecPublic
  | .aesSecret => some .aesSecret
  | .edPrivate => some .edPrivate
  | .edPublic => some .edPublic
  | .chaCha20Secret => some .chaCha20Secret
  | .genericSecret => some .genericSecret
  | .profile => none

def StoredKeyType.keyType : StoredKeyType → KeyType
  | .rsaPrivate => .rsaPrivate
  | .rsaPublic => .rsaPublic
  | .ecPrivate => .ecPrivate
  | .ecPublic => .ecPublic
  | .aesSecret => .aesSecret
  | .edPrivate => .edPrivate
  | .edPublic => .edPublic
  | .chaCha20Secret => .chaCha20Secret
  | .genericSecret => .genericSecret

structure StoredObject where
  handle : ObjectHandle
  slotId : SlotId
  keyType : StoredKeyType
  keyDer : Bytes
  attributes : Attributes
  deriving DecidableEq

/-- `none` for a profile and for a key that the engine cannot serialize. -/
def StoredObject.fromKeyObject (object : KeyObject) (engine : CryptoProvider) : Option StoredObject :=
  match StoredKeyType.from object.keyType, engine.serializeKey object.keyRef with
  | some keyType, .ok keyDer =>
    some { handle := object.handle, slotId := object.slotId, keyType, keyDer,
           attributes := object.attributes }
  | _, _ => none

def StoredObject.intoKeyObjectWithEngine (stored : StoredObject) (engine : CryptoProvider) :
    Option KeyObject :=
  match engine.deserializeKey stored.keyDer with
  | .ok keyRef =>
    some (KeyObject.new stored.handle stored.slotId stored.keyType.keyType keyRef stored.attributes)
  | .error _ => none

/-- Hashes without a PHC string, of an older format, are not read. -/
structure StoredHashedPin where
  phcString : Option String
  deriving DecidableEq, Repr

structure StoredToken where
  label : Bytes
  state : String
  initialized : Option Bool
  soPin : Option Bytes
  userPin : Option Bytes
  soPinHash : Option StoredHashedPin
  userPinHash : Option StoredHashedPin
  soPinFailures : UInt32
  userPinFailures : UInt32
  loginRequired : Bool
  serialNumber : Bytes
  deriving DecidableEq, Repr

def StoredToken.from (token : Token) : StoredToken where
  label := token.label.toList
  state := match token.state with
    | .reset => "reset"
    | .readWrite => "read_write"
    | .readOnly => "read_only"
  initialized := none
  soPin := none
  userPin := none
  soPinHash := token.soPin.map fun phcString => ⟨some phcString⟩
  userPinHash := token.userPin.map fun phcString => ⟨some phcString⟩
  soPinFailures := token.soPinFailures
  userPinFailures := token.userPinFailures
  loginRequired := token.loginRequired
  serialNumber := token.serialNumber.toList

def StoredToken.restorePin (argon2 : Argon2) (seed index : Nat) (hash : Option StoredHashedPin)
    (pin : Option Bytes) : Option String :=
  match hash.bind StoredHashedPin.phcString with
  | some phcString => some phcString
  | none => pin.map (argon2.hashPassword seed index)

def StoredToken.applyTo (argon2 : Argon2) (seed : Nat) (stored : StoredToken) (token : Token) : Token :=
  { token with
    label := padded 32 stored.label
    state :=
      if stored.state = "reset" then .reset
      else if stored.state = "read_only" then .readOnly
      else if stored.initialized = some false then .reset
      else .readWrite
    soPin := restorePin argon2 seed 0 stored.soPinHash stored.soPin
    userPin := restorePin argon2 seed 1 stored.userPinHash stored.userPin
    soPinFailures := stored.soPinFailures
    userPinFailures := stored.userPinFailures
    loginRequired := stored.loginRequired
    serialNumber := padded 16 stored.serialNumber }

structure StoredState where
  tokens : List (SlotId × StoredToken)
  token : Option StoredToken
  objects : List StoredObject
  nextHandle : UInt64
  deriving DecidableEq

end ScoreCrypto.Cryptoki
