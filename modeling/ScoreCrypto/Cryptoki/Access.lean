import ScoreCrypto.Cryptoki.Backend

/-!
What the functions of the interface are made of: their arguments and replies, and the accesses to
the stores, each with what it asks of a contract.
-/

namespace ScoreCrypto.Cryptoki

open Fallible

/-! ### Arguments -/

inductive Template where
  | null (ulCount : UInt64)
  | entries (list : List TemplateEntry)
  deriving DecidableEq, Repr

def Template.list : Template → List TemplateEntry
  | .null _ => []
  | .entries list => list

def Template.isNull : Template → Bool
  | .null _ => true
  | .entries _ => false

def Template.missing : Template → Bool
  | .null ulCount => ulCount ≠ 0
  | .entries _ => false

def Template.collect (template : Template) : Attributes := collectTemplate template.list

structure GcmParams where
  iv : Option Bytes
  aad : Option Bytes
  tagBits : UInt64
  deriving DecidableEq, Repr

structure HkdfParams where
  prfHashMechanism : MechanismType
  salt : Option Bytes
  info : Option Bytes
  deriving DecidableEq, Repr

/-- What a parameter points to, as each of the readings that a mechanism may take. -/
structure Parameter where
  bytes : Bytes
  gcm : GcmParams
  hkdf : HkdfParams
  deriving DecidableEq, Repr

structure Mechanism where
  mechanism : MechanismType
  parameter : Option Parameter
  deriving DecidableEq, Repr

structure MessageParams where
  iv : Option Bytes
  tag : Option Bytes
  tagBits : UInt64
  deriving DecidableEq, Repr

def MessageParams.tagLen (params : MessageParams) : Nat := (params.tagBits.toNat + 7) / 8

/-- Where a result goes: there is no place for its length, only its length is asked for, or there is
a buffer. -/
inductive Destination where
  | noLength
  | query
  | buffer (capacity : UInt64)
  deriving DecidableEq, Repr

/-! ### Replies -/

inductive Output where
  | none
  | handle (handle : UInt64)
  | keyPair (pub priv : ObjectHandle)
  | handles (handles : List ObjectHandle)
  | data (len : UInt64) (bytes : Option Bytes)
  | message (tag : Bytes) (len : UInt64) (bytes : Option Bytes)
  | answers (answers : List Answer)
  | size (size : UInt64)
  | random (bytes : Bytes)
  | sessionInfo (slotId : SlotId) (state : UInt64) (flags : Flags)
  deriving DecidableEq, Repr

structure Reply where
  rv : Rv
  output : Output := .none
  deriving DecidableEq, Repr

def Reply.ok (output : Output) : Reply := ⟨.ok, output⟩

def Destination.write (data : Bytes) : Destination → Reply
  | .noLength => ⟨.argumentsBad, .none⟩
  | .query => .ok (.data (UInt64.ofNat data.length) none)
  | .buffer capacity =>
    if capacity.toNat < data.length then
      ⟨.bufferTooSmall, .data (UInt64.ofNat data.length) none⟩
    else .ok (.data (UInt64.ofNat data.length) (some data))

/-! ### Accesses to the stores -/

abbrev Access (E α : Type) := Fallible Action Action.Res E α

abbrev Api (α : Type) := Access Rv α

abbrev Inner (α : Type) := Access Pkcs11Error α

section Accesses

variable {E α : Type}

abbrev ckTry (p : Inner α) : Api α := adapt Pkcs11Error.toCkr p

def registry : Access E (List CryptoProvider) := perform Action.registry

def drawSeed : Access E Nat := perform Action.random

def nextHandle : Access E ObjectHandle := perform Action.nextHandle

def insertObject (object : KeyObject) : Access E Unit := perform (Action.insertObject object)

def retainObjects (keep : KeyObject → Bool) : Access E Unit := perform (Action.retainObjects keep)

def findObjects (slotId : SlotId) (template : List (AttributeType × Bytes)) (loggedIn : Bool) :
    Access E (List ObjectHandle) :=
  perform (Action.findObjects slotId template loggedIn)

def sessionsOnSlot (slotId : SlotId) : Access E (List Session) :=
  perform (Action.sessionsOnSlot slotId)

def updateSessions (slotId : SlotId) (change : Session → Session) : Access E Unit :=
  perform (Action.updateSessions slotId change)

def retainSessions (keep : Session → Bool) : Access E Unit := perform (Action.retainSessions keep)

def withToken (slotId : SlotId) : Access E Token := perform (Action.token slotId)

def iterate (keys : Finset AttributeType) : Access E (List AttributeType) :=
  perform (Action.iterate keys)

def checkInit : Inner Unit := do
  let initialized : Bool ← perform Action.checkInit
  ensure (initialized = true) .notInitialised

variable (handle : SessionHandle)

def withSession : Inner Session := do
  let session : Option Session ← perform (Action.session handle)
  require session .invalidSessionHandle

/-- The result is the session before the change. -/
def withSessionMut (change : Session → Session) : Inner Session := do
  let session : Option Session ← perform (Action.updateSession handle change)
  require session .invalidSessionHandle

def touchSession (change : Session → Session) : Access E Unit := do
  let _ ← perform (Action.updateSession handle change)
  return ()

def openSession (slotId : SlotId) (flags : Flags) : Inner SessionHandle := do
  let opened : Except Pkcs11Error SessionHandle ← perform (Action.openSession slotId flags)
  attempt opened

def closeSession : Inner Session := do
  let session : Option Session ← perform (Action.closeSession handle)
  require session .invalidSessionHandle

variable (handle : ObjectHandle)

def withObject : Inner KeyObject := do
  let object : Option KeyObject ← perform (Action.object handle)
  require object .invalidObjectHandle

def withObjectForSlot (slotId : SlotId) : Inner KeyObject := do
  let object : Option KeyObject ← perform (Action.objectForSlot handle slotId)
  require object .invalidObjectHandle

/-- The result is the object before the change. -/
def withObjectMut (template : List TemplateEntry) : Inner KeyObject := do
  let object : Option KeyObject ← perform (Action.setAttributes handle template)
  require object .invalidObjectHandle

def removeObject : Inner KeyObject := do
  let object : Option KeyObject ← perform (Action.removeObject handle)
  require object .invalidObjectHandle

def withTokenMut (slotId : SlotId)
    (change : (seed : Nat) → Token → Except Pkcs11Error Unit × Token) : Inner Unit := do
  let result : Except Pkcs11Error Unit ← perform (Action.updateToken slotId change)
  attempt result

def sessionSlot : Inner SlotId := do
  let session ← withSession handle
  return session.slotId

def requireRwSession : Inner Unit := do
  let session ← withSession handle
  attempt session.requireRw

def loginStateForSlot (slotId : SlotId) : Access E LoginState := do
  let sessions ← sessionsOnSlot slotId
  return State.loginStateOf sessions

/-! ### Writing the token objects to disk -/

def storedTokens : List SlotId → Access E (List (SlotId × StoredToken))
  | [] => pure []
  | slotId :: rest => do
    let token ← withToken slotId
    let later ← storedTokens rest
    return (slotId, StoredToken.from token) :: later

def saveState (tokens : List (SlotId × StoredToken)) : Access E Unit := do
  let nextHandle : ObjectHandle ← perform Action.readNextHandle
  perform (Action.saveState tokens nextHandle)

def persistIfNeeded : Access E Unit := do
  let slots ← registry
  let tokens ← storedTokens (slotIds slots)
  saveState tokens

/-- A session object is marked with the session that creates it. -/
def storeObject (object : KeyObject) (session : SessionHandle) : Access E Unit := do
  if object.isTokenObject then
    insertObject object
    persistIfNeeded
  else insertObject { object with creatingSession := some session }

def destroyObject : Inner Unit := do
  let object ← removeObject handle
  if object.isTokenObject then persistIfNeeded

end Accesses

/-! ### What an access asks of a contract -/

section Conforms

variable {E G α : Type} {contract : Contract Action Action.Res G} {g : G}

@[simp] def Asks (contract : Contract Action Action.Res G) (g : G) (act : Action)
    (post : G → Except E act.Res → Prop) : Prop :=
  contract.may g act ∧
    ∀ answer, contract.gives g act answer → post (contract.next g act answer) (.ok answer)

@[simp] theorem conforms_registry {post : G → Except E (List CryptoProvider) → Prop} :
    Conforms contract post g registry ↔ Asks contract g .registry post := Iff.rfl

@[simp] theorem conforms_drawSeed {post : G → Except E Nat → Prop} :
    Conforms contract post g drawSeed ↔ Asks contract g .random post := Iff.rfl

@[simp] theorem conforms_nextHandle {post : G → Except E ObjectHandle → Prop} :
    Conforms contract post g nextHandle ↔ Asks contract g .nextHandle post := Iff.rfl

variable {post : G → Except E Unit → Prop}

@[simp] theorem conforms_insertObject (object : KeyObject) :
    Conforms contract post g (insertObject object) ↔ contract.may g (.insertObject object) ∧
      (contract.gives g (.insertObject object) () →
        post (contract.next g (.insertObject object) ()) (.ok ())) :=
  and_congr_right fun _ => ⟨fun holds => holds (), fun holds _ => holds⟩

@[simp] theorem conforms_retainObjects (keep : KeyObject → Bool) :
    Conforms contract post g (retainObjects keep) ↔ contract.may g (.retainObjects keep) ∧
      (contract.gives g (.retainObjects keep) () →
        post (contract.next g (.retainObjects keep) ()) (.ok ())) :=
  and_congr_right fun _ => ⟨fun holds => holds (), fun holds _ => holds⟩

@[simp] theorem conforms_findObjects (slotId : SlotId) (template : List (AttributeType × Bytes))
    (loggedIn : Bool) {post : G → Except E (List ObjectHandle) → Prop} :
    Conforms contract post g (findObjects slotId template loggedIn) ↔
      Asks contract g (.findObjects slotId template loggedIn) post := Iff.rfl

@[simp] theorem conforms_sessionsOnSlot (slotId : SlotId)
    {post : G → Except E (List Session) → Prop} :
    Conforms contract post g (sessionsOnSlot slotId) ↔ Asks contract g (.sessionsOnSlot slotId) post :=
  Iff.rfl

@[simp] theorem conforms_updateSessions (slotId : SlotId) (change : Session → Session) :
    Conforms contract post g (updateSessions slotId change) ↔
      contract.may g (.updateSessions slotId change) ∧
        (contract.gives g (.updateSessions slotId change) () →
          post (contract.next g (.updateSessions slotId change) ()) (.ok ())) :=
  and_congr_right fun _ => ⟨fun holds => holds (), fun holds _ => holds⟩

@[simp] theorem conforms_retainSessions (keep : Session → Bool) :
    Conforms contract post g (retainSessions keep) ↔ contract.may g (.retainSessions keep) ∧
      (contract.gives g (.retainSessions keep) () →
        post (contract.next g (.retainSessions keep) ()) (.ok ())) :=
  and_congr_right fun _ => ⟨fun holds => holds (), fun holds _ => holds⟩

@[simp] theorem conforms_withToken (slotId : SlotId) {post : G → Except E Token → Prop} :
    Conforms contract post g (withToken slotId) ↔ Asks contract g (.token slotId) post := Iff.rfl

@[simp] theorem conforms_iterate (keys : Finset AttributeType)
    {post : G → Except E (List AttributeType) → Prop} :
    Conforms contract post g (iterate keys) ↔ Asks contract g (.iterate keys) post := Iff.rfl

@[simp] theorem conforms_touchSession (handle : SessionHandle) (change : Session → Session) :
    Conforms contract post g (touchSession handle change) ↔
      contract.may g (.updateSession handle change) ∧
        ∀ before : Option Session, contract.gives g (.updateSession handle change) before →
          post (contract.next g (.updateSession handle change) before) (.ok ()) :=
  conforms_perform_bind _ _

@[simp] theorem conforms_checkInit {post : G → Except Pkcs11Error Unit → Prop} :
    Conforms contract post g checkInit ↔ contract.may g .checkInit ∧
      (contract.gives g .checkInit true → post (contract.next g .checkInit true) (.ok ())) ∧
      (contract.gives g .checkInit false →
        post (contract.next g .checkInit false) (.error .notInitialised)) :=
  (conforms_perform_bind _ _).trans (and_congr_right fun _ => by
    refine Bool.forall_bool.trans ?_
    simp [and_comm])

@[simp] def Looks (contract : Contract Action Action.Res G) (post : G → Except Pkcs11Error α → Prop)
    (g : G) (act : Action) (missing : act.Res) (found : α → act.Res) (error : Pkcs11Error) : Prop :=
  contract.may g act ∧
    (contract.gives g act missing → post (contract.next g act missing) (.error error)) ∧
    ∀ value, contract.gives g act (found value) → post (contract.next g act (found value)) (.ok value)

section Sessions

variable {post : G → Except Pkcs11Error Session → Prop} (handle : SessionHandle)

@[simp] theorem conforms_withSession : Conforms contract post g (withSession handle) ↔
    Looks contract post g (.session handle) none some .invalidSessionHandle :=
  (conforms_perform_bind _ _).trans (and_congr_right fun _ => conforms_required)

@[simp] theorem conforms_withSessionMut (change : Session → Session) :
    Conforms contract post g (withSessionMut handle change) ↔
      Looks contract post g (.updateSession handle change) none some .invalidSessionHandle :=
  (conforms_perform_bind _ _).trans (and_congr_right fun _ => conforms_required)

@[simp] theorem conforms_closeSession : Conforms contract post g (closeSession handle) ↔
    Looks contract post g (.closeSession handle) none some .invalidSessionHandle :=
  (conforms_perform_bind _ _).trans (and_congr_right fun _ => conforms_required)

end Sessions

section Objects

variable {post : G → Except Pkcs11Error KeyObject → Prop} (handle : ObjectHandle)

@[simp] theorem conforms_withObject : Conforms contract post g (withObject handle) ↔
    Looks contract post g (.object handle) none some .invalidObjectHandle :=
  (conforms_perform_bind _ _).trans (and_congr_right fun _ => conforms_required)

@[simp] theorem conforms_withObjectForSlot (slotId : SlotId) :
    Conforms contract post g (withObjectForSlot handle slotId) ↔
      Looks contract post g (.objectForSlot handle slotId) none some .invalidObjectHandle :=
  (conforms_perform_bind _ _).trans (and_congr_right fun _ => conforms_required)

@[simp] theorem conforms_withObjectMut (template : List TemplateEntry) :
    Conforms contract post g (withObjectMut handle template) ↔
      Looks contract post g (.setAttributes handle template) none some .invalidObjectHandle :=
  (conforms_perform_bind _ _).trans (and_congr_right fun _ => conforms_required)

@[simp] theorem conforms_removeObject : Conforms contract post g (removeObject handle) ↔
    Looks contract post g (.removeObject handle) none some .invalidObjectHandle :=
  (conforms_perform_bind _ _).trans (and_congr_right fun _ => conforms_required)

end Objects

@[simp] theorem conforms_openSession (slotId : SlotId) (flags : Flags)
    {post : G → Except Pkcs11Error SessionHandle → Prop} :
    Conforms contract post g (openSession slotId flags) ↔
      contract.may g (.openSession slotId flags) ∧
        (∀ handle : SessionHandle, contract.gives g (.openSession slotId flags) (.ok handle) →
          post (contract.next g (.openSession slotId flags) (.ok handle)) (.ok handle)) ∧
        ∀ error : Pkcs11Error, contract.gives g (.openSession slotId flags) (.error error) →
          post (contract.next g (.openSession slotId flags) (.error error)) (.error error) :=
  (conforms_perform_bind _ _).trans (and_congr_right fun _ => conforms_attempted)

@[simp] theorem conforms_withTokenMut (slotId : SlotId)
    (change : (seed : Nat) → Token → Except Pkcs11Error Unit × Token)
    {post : G → Except Pkcs11Error Unit → Prop} :
    Conforms contract post g (withTokenMut slotId change) ↔
      contract.may g (.updateToken slotId change) ∧
        (∀ done : Unit, contract.gives g (.updateToken slotId change) (.ok done) →
          post (contract.next g (.updateToken slotId change) (.ok done)) (.ok done)) ∧
        ∀ error : Pkcs11Error, contract.gives g (.updateToken slotId change) (.error error) →
          post (contract.next g (.updateToken slotId change) (.error error)) (.error error) :=
  (conforms_perform_bind _ _).trans (and_congr_right fun _ => conforms_attempted)

end Conforms

end ScoreCrypto.Cryptoki
