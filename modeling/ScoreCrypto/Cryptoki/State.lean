import ScoreCrypto.Cryptoki.Session
import ScoreCrypto.Cryptoki.Storage
import ScoreCrypto.Lib.Fallible

/-!
The stores of the library and the atomic actions on them: what is done under one lock is one action.
-/

namespace ScoreCrypto.Cryptoki

/-- What the library finds around it: the PIN hashing, OpenSSL, the order in which a hash map is
gone through, and whether a file is written. What may differ from one time to the next depends on
the count of such choices made before. -/
structure World where
  argon2 : Argon2
  openSslEngine : CryptoProvider
  blockCipherCrypt : MechanismType → (encrypt : Bool) → (key iv input : Bytes) →
    Except Pkcs11Error Bytes
  order : Nat → Finset UInt64 → List UInt64
  order_nodup : ∀ choice keys, (order choice keys).Nodup
  mem_order : ∀ choice keys key, key ∈ order choice keys ↔ key ∈ keys
  saves : Nat → Bool

structure State where
  initialized : Bool
  /-- The engines by their slots, which are numbered from zero. -/
  slots : List CryptoProvider
  sessions : Finmap fun _ : SessionHandle => Session
  nextSession : SessionHandle
  objects : ObjectStore
  nextHandle : ObjectHandle
  tokens : Finmap fun _ : SlotId => Token
  disk : Option StoredState
  choices : Nat

def State.loaded (disk : Option StoredState) : State where
  initialized := false
  slots := []
  sessions := ∅
  nextSession := 1
  objects := .empty
  nextHandle := 1
  tokens := ∅
  disk := disk
  choices := 0

def engineForSlot (slots : List CryptoProvider) (slotId : SlotId) : Option CryptoProvider :=
  slots[slotId.toNat]?

def slotIds (slots : List CryptoProvider) : List SlotId :=
  (List.range slots.length).map UInt64.ofNat

def isValidSlot (slots : List CryptoProvider) (slotId : SlotId) : Bool :=
  (engineForSlot slots slotId).isSome

inductive Action where
  | checkInit
  | setInit (value : Bool)
  | registry
  | registerEngine (engine : CryptoProvider)
  | resetRegistry
  | session (handle : SessionHandle)
  /-- The answer is the session before the change. -/
  | updateSession (handle : SessionHandle) (change : Session → Session)
  | openSession (slotId : SlotId) (flags : Flags)
  | closeSession (handle : SessionHandle)
  | retainSessions (keep : Session → Bool)
  | sessionsOnSlot (slotId : SlotId)
  | updateSessions (slotId : SlotId) (change : Session → Session)
  | object (handle : ObjectHandle)
  | objectForSlot (handle : ObjectHandle) (slotId : SlotId)
  /-- The answer is the object before the change. -/
  | setAttributes (handle : ObjectHandle) (template : List TemplateEntry)
  | nextHandle
  | readNextHandle
  | insertObject (object : KeyObject)
  | removeObject (handle : ObjectHandle)
  | retainObjects (keep : KeyObject → Bool)
  | findObjects (slotId : SlotId) (template : List (AttributeType × Bytes)) (loggedIn : Bool)
  | profileOn (slotId : SlotId)
  | loadObjects (objects : List KeyObject) (nextHandle : ObjectHandle)
  | token (slotId : SlotId)
  | updateToken (slotId : SlotId) (change : (seed : Nat) → Token → Except Pkcs11Error Unit × Token)
  | replaceToken (slotId : SlotId) (change : (seed : Nat) → Token → Token)
  | clearTokens
  | loadState
  /-- The lock on the objects is held from the first look at them to the end of the save: those at
  the time of the save are written. -/
  | saveState (tokens : List (SlotId × StoredToken)) (nextHandle : ObjectHandle)
  | iterate (keys : Finset AttributeType)
  | random

@[reducible] def Action.Res : Action → Type
  | .checkInit => Bool
  | .registry => List CryptoProvider
  | .registerEngine _ => List SlotId
  | .session _ => Option Session
  | .updateSession _ _ => Option Session
  | .openSession _ _ => Except Pkcs11Error SessionHandle
  | .closeSession _ => Option Session
  | .sessionsOnSlot _ => List Session
  | .object _ => Option KeyObject
  | .objectForSlot _ _ => Option KeyObject
  | .setAttributes _ _ => Option KeyObject
  | .nextHandle => ObjectHandle
  | .readNextHandle => ObjectHandle
  | .removeObject _ => Option KeyObject
  | .findObjects _ _ _ => List ObjectHandle
  | .profileOn _ => Option ObjectHandle
  | .token _ => Token
  | .updateToken _ _ => Except Pkcs11Error Unit
  | .loadState => Option StoredState
  | .iterate _ => List AttributeType
  | .random => Nat
  | _ => Unit

namespace State

variable (world : World) (s : State) (slotId : SlotId)

/-- The sessions of a slot in the order in which the map gives them. -/
def sessionsOn : List Session :=
  ((world.order s.choices s.sessions.keys).filterMap s.sessions.lookup).filter
    fun session => session.slotId = slotId

def loginStateOf (sessions : List Session) : LoginState :=
  match sessions.head? with
  | some session => session.loginState
  | none => .notLoggedIn

def allObjects : List KeyObject :=
  (world.order s.choices s.objects.handles).filterMap s.objects.get

def findObjects (template : List (AttributeType × Bytes)) (loggedIn : Bool) : List ObjectHandle :=
  ((s.allObjects world).filter fun object =>
    object.slotId = slotId && object.matchesTemplate template &&
      (loggedIn || !object.isPrivateObject)).map KeyObject.handle

def profileOn : Option ObjectHandle :=
  ((s.allObjects world).find? fun object =>
    object.slotId = slotId && object.keyType = .profile).map KeyObject.handle

/-- The token objects as they are written; one whose slot has no engine, or which the engine cannot
serialize, is passed over. -/
def storedObjects : List StoredObject :=
  (s.allObjects world).filterMap fun object =>
    if object.isTokenObject && object.keyType ≠ .profile then
      (engineForSlot s.slots object.slotId).bind (StoredObject.fromKeyObject object)
    else none

def tokenOf : Token :=
  (s.tokens.lookup slotId).getD (Token.newDefault world.argon2 s.choices)

def openSession (flags : Flags) : Except Pkcs11Error SessionHandle × State :=
  if flags &&& ckfSerialSession = 0 then (.error .sessionParallelNotSupported, s)
  else
    let current := loginStateOf (s.sessionsOn world slotId)
    let chosen := { s with choices := s.choices + 1 }
    if current = .soLoggedIn ∧ flags &&& ckfRwSession = 0 then
      (.error .sessionReadWriteSoExists, chosen)
    else
      (.ok s.nextSession,
        { chosen with
          nextSession := s.nextSession + 1
          sessions := s.sessions.insert s.nextSession { slotId, flags, loginState := current } })

end State

def handle (world : World) : (act : Action) → State → act.Res × State
  | .checkInit, s => (s.initialized, s)
  | .setInit value, s => ((), { s with initialized := value })
  | .registry, s => (s.slots, s)
  | .registerEngine engine, s =>
    let slots := s.slots ++ List.replicate engine.slotCount engine
    ((slotIds slots).drop s.slots.length, { s with slots := slots })
  | .resetRegistry, s => ((), { s with slots := [] })
  | .session handle, s => (s.sessions.lookup handle, s)
  | .updateSession handle change, s =>
    match s.sessions.lookup handle with
    | some session => (some session, { s with sessions := s.sessions.insert handle (change session) })
    | none => (none, s)
  | .openSession slotId flags, s => s.openSession world slotId flags
  | .closeSession handle, s =>
    (s.sessions.lookup handle, { s with sessions := s.sessions.erase handle })
  | .retainSessions keep, s =>
    ((), { s with sessions := retain s.sessions fun _ session => keep session })
  | .sessionsOnSlot slotId, s => (s.sessionsOn world slotId, { s with choices := s.choices + 1 })
  | .updateSessions slotId change, s =>
    ((),
      { s with
        sessions := mapValues s.sessions fun _ session =>
          if session.slotId = slotId then change session else session })
  | .object handle, s => (s.objects.get handle, s)
  | .objectForSlot handle slotId, s =>
    ((s.objects.get handle).filter fun object => object.slotId = slotId, s)
  | .setAttributes handle template, s =>
    match s.objects.get handle with
    | some object =>
      (some object, { s with objects := s.objects.insert (writeAttributes object template).2 })
    | none => (none, s)
  | .nextHandle, s => (s.nextHandle, { s with nextHandle := s.nextHandle + 1 })
  | .readNextHandle, s => (s.nextHandle, s)
  | .insertObject object, s => ((), { s with objects := s.objects.insert object })
  | .removeObject handle, s =>
    (s.objects.get handle, { s with objects := s.objects.erase handle })
  | .retainObjects keep, s => ((), { s with objects := s.objects.retain keep })
  | .findObjects slotId template loggedIn, s =>
    (s.findObjects world slotId template loggedIn, { s with choices := s.choices + 1 })
  | .profileOn slotId, s => (s.profileOn world slotId, { s with choices := s.choices + 1 })
  | .loadObjects objects nextHandle, s =>
    let store := objects.foldl ObjectStore.insert s.objects
    let maxLoaded := (world.order s.choices store.handles).foldl max 0
    ((),
      { s with
        objects := store
        nextHandle := max nextHandle (maxLoaded + 1)
        choices := s.choices + 1 })
  | .token slotId, s =>
    (s.tokenOf world slotId,
      { s with
        tokens := s.tokens.insert slotId (s.tokenOf world slotId), choices := s.choices + 1 })
  | .updateToken slotId change, s =>
    let changed := change (s.choices + 1) (s.tokenOf world slotId)
    (changed.1,
      { s with tokens := s.tokens.insert slotId changed.2, choices := s.choices + 2 })
  | .replaceToken slotId change, s =>
    ((),
      { s with
        tokens := s.tokens.insert slotId (change s.choices Token.new), choices := s.choices + 1 })
  | .clearTokens, s => ((), { s with tokens := ∅ })
  | .loadState, s => (s.disk, s)
  | .saveState tokens nextHandle, s =>
    let state := { tokens, token := none, objects := s.storedObjects world, nextHandle }
    ((),
      { s with
        disk := if world.saves s.choices then some state else s.disk, choices := s.choices + 1 })
  | .iterate keys, s => (world.order s.choices keys, { s with choices := s.choices + 1 })
  | .random, s => (s.choices, { s with choices := s.choices + 1 })

end ScoreCrypto.Cryptoki
