import ScoreCrypto.Cryptoki.Access

/-! The calls for the library's life, its tokens, sessions and logins. -/

namespace ScoreCrypto.Cryptoki

open Fallible

section World

variable (world : World)

/-! ### The library's life -/

structure InitializeArgs where
  reserved : Bool
  hasCallbacks : Bool
  flags : Flags
  deriving DecidableEq, Repr

def baselineProfile (handle : ObjectHandle) (slotId : SlotId) : KeyObject :=
  KeyObject.new handle slotId .profile []
    (((((∅ : Attributes).insert ckaClass (ulongBytes ckoProfile)).insert ckaToken [ckTrue]).insert
      ckaPrivate [ckFalse]).insert ckaDestroyable [ckFalse] |>.insert ckaProfileId
        (ulongBytes ckpBaselineProvider))

def ensureBaselineProfile (slotId : SlotId) : Api Unit := do
  let present : Option ObjectHandle ← perform (Action.profileOn slotId)
  if present = none then
    let handle ← nextHandle
    insertObject (baselineProfile handle slotId)

def restoredObjects (slots : List CryptoProvider) (stored : List StoredObject) : List KeyObject :=
  stored.filterMap fun object =>
    (engineForSlot slots object.slotId).bind object.intoKeyObjectWithEngine

def replaceTokens : List (SlotId × StoredToken) → Api Unit
  | [] => pure ()
  | (slotId, stored) :: rest => do
    perform (Action.replaceToken slotId (stored.applyTo world.argon2))
    replaceTokens rest

def loadPersistedObjects : Api Unit := do
  let loaded : Option StoredState ← perform Action.loadState
  match loaded with
  | none => pure ()
  | some stored => do
    let slots ← registry
    perform (Action.loadObjects (restoredObjects slots stored.objects) stored.nextHandle)
    if stored.tokens ≠ [] then replaceTokens world stored.tokens
    else replaceTokens world (stored.token.toList.map fun token => (0, token))

def ensureTokens : List SlotId → Api Unit
  | [] => pure ()
  | slotId :: rest => do
    let _ ← withToken slotId
    ensureTokens rest

def ensureBaselineProfiles : List SlotId → Api Unit
  | [] => pure ()
  | slotId :: rest => do
    ensureBaselineProfile slotId
    ensureBaselineProfiles rest

def cInitialize (args : Option InitializeArgs) : Api Reply := do
  ensure (∀ given ∈ args, given.reserved = false) .argumentsBad
  ensure (∀ given ∈ args, given.hasCallbacks = true → given.flags &&& ckfOsLockingOk ≠ 0) .cantLock
  let initialized : Bool ← perform Action.checkInit
  ensure (initialized = false) .cryptokiAlreadyInitialized
  let assigned : List SlotId ← perform (Action.registerEngine world.openSslEngine)
  loadPersistedObjects world
  ensureTokens assigned
  ensureBaselineProfiles assigned
  perform (Action.setInit true)
  return .ok .none

def cFinalize (reserved : Bool) : Api Reply := do
  ensure (reserved = false) .argumentsBad
  let initialized : Bool ← perform Action.checkInit
  ensure (initialized = true) .cryptokiNotInitialized
  retainSessions fun _ => false
  persistIfNeeded
  retainObjects fun _ => false
  perform Action.clearTokens
  perform Action.resetRegistry
  perform (Action.setInit false)
  return .ok .none

/-- `register_engine`, by which a program adds an engine of its own. -/
def registerEngine (engine : CryptoProvider) : Api Reply := do
  let assigned : List SlotId ← perform (Action.registerEngine engine)
  return .ok (.handles assigned)

/-! ### Tokens -/

def cInitToken (slotId : SlotId) (pin : Option Bytes) (label : Option (Vector UInt8 32)) :
    Api Reply := do
  ckTry checkInit
  let slots ← registry
  ensure (isValidSlot slots slotId = true) .slotIdInvalid
  let pin ← require pin .argumentsBad
  let label ← require label .argumentsBad
  let sessions ← sessionsOnSlot slotId
  ensure (sessions = []) .sessionExists
  ckTry (withTokenMut slotId (Token.initToken world.argon2 pin label))
  retainObjects fun object => object.slotId ≠ slotId
  persistIfNeeded
  ensureBaselineProfile slotId
  persistIfNeeded
  return .ok .none

variable (hSession : SessionHandle)

def cInitPin (pin : Span) : Api Reply := do
  ckTry checkInit
  ckTry (requireRwSession hSession)
  let session ← ckTry (withSession hSession)
  ensure (session.loginState = .soLoggedIn) Pkcs11Error.userNotLoggedIn.toCkr
  ckTry (withTokenMut session.slotId (Token.initPin world.argon2 pin.contents))
  persistIfNeeded
  return .ok .none

/-- Whose PIN `C_SetPIN` changes. -/
def LoginState.pinOwner : LoginState → UserType
  | .soLoggedIn => ckuSo
  | .userLoggedIn | .notLoggedIn => ckuUser

def cSetPin (oldPin newPin : Span) : Api Reply := do
  ckTry checkInit
  ckTry (requireRwSession hSession)
  let session ← ckTry (withSession hSession)
  ckTry (withTokenMut session.slotId
    (Token.changePin world.argon2 session.loginState.pinOwner oldPin.contents newPin.contents))
  persistIfNeeded
  let _ ← ckTry (withSessionMut hSession Session.burnTicket)
  return .ok .none

/-! ### Sessions -/

def cOpenSession (slotId : SlotId) (flags : Flags) (given : Bool) : Api Reply := do
  ckTry checkInit
  let slots ← registry
  ensure (isValidSlot slots slotId = true) .slotIdInvalid
  ensure (given = true) .argumentsBad
  let handle ← ckTry (openSession slotId flags)
  return .ok (.handle handle)

def cCloseSession : Api Reply := do
  ckTry checkInit
  let _ ← ckTry (closeSession hSession)
  retainObjects fun object => object.creatingSession ≠ some hSession
  return .ok .none

def cCloseAllSessions (slotId : SlotId) : Api Reply := do
  ckTry checkInit
  let slots ← registry
  ensure (isValidSlot slots slotId = true) .slotIdInvalid
  retainSessions fun session => session.slotId ≠ slotId
  retainObjects fun object => !(object.slotId = slotId && object.isSessionObject)
  return .ok .none

def Session.state (session : Session) : UInt64 :=
  match session.loginState with
  | .notLoggedIn => if session.isRw then cksRwPublicSession else cksRoPublicSession
  | .userLoggedIn => if session.isRw then cksRwUserFunctions else cksRoUserFunctions
  | .soLoggedIn => cksRwSoFunctions

def cGetSessionInfo (given : Bool) : Api Reply := do
  ckTry checkInit
  ensure (given = true) .argumentsBad
  let session ← ckTry (withSession hSession)
  return .ok (.sessionInfo session.slotId session.state session.flags)

/-- The message contexts are not cancelled. -/
def cSessionCancel : Api Reply := do
  ckTry checkInit
  let _ ← ckTry (withSessionMut hSession fun s =>
    { s with
      signCtx := none
      verifyCtx := none
      encryptCtx := none
      decryptCtx := none
      digestCtx := none
      findCtx := none })
  return .ok .none

/-! ### Logins -/

def loginTarget (userType : UserType) : Option LoginState :=
  if userType = ckuUser then some .userLoggedIn
  else if userType = ckuSo then some .soLoggedIn
  else none

/-- What `C_Login` and `C_LoginUser` do alike for a login that is not for one operation only. -/
def checkLogin (slotId : SlotId) (userType : UserType) (pin : Bytes) : Api LoginState := do
  let target ← require (loginTarget userType) .userTypeInvalid
  let current ← loginStateForSlot slotId
  ensure (current ≠ target) .userAlreadyLoggedIn
  ensure (current = .notLoggedIn) .userAnotherAlreadyLoggedIn
  if userType = ckuSo then
    let sessions ← sessionsOnSlot slotId
    ensure (∀ session ∈ sessions, session.isRw = true) .sessionReadOnlyExists
  if userType = ckuUser then
    let token ← withToken slotId
    ensure (token.userPin ≠ none) .userPinNotInitialized
  ckTry (withTokenMut slotId fun _ => Token.verifyPin world.argon2 userType pin)
  return target

def checkContextLogin (slotId : SlotId) (pin : Bytes) : Api Unit := do
  let current ← loginStateForSlot slotId
  ensure (current = .userLoggedIn) .userNotLoggedIn
  let token ← withToken slotId
  ckTry (attempt (token.verifyUserPinNoLockout world.argon2 pin))

def cLogin (userType : UserType) (pin : Span) : Api Reply := do
  ckTry checkInit
  ensure (pin.missing = false) .argumentsBad
  let session ← ckTry (withSession hSession)
  if userType = ckuContextSpecific then
    checkContextLogin world session.slotId pin.contents
    let before ← ckTry (withSessionMut hSession fun s =>
      if s.isOpActive then { s with contextSpecificAuthed := true } else s)
    ensure (before.isOpActive = true) Pkcs11Error.operationNotInitialised.toCkr
    return .ok .none
  else
    let target ← checkLogin world session.slotId userType pin.contents
    let _ ← ckTry (withSessionMut hSession Session.burnTicket)
    updateSessions session.slotId fun s => { s with loginState := target }
    return .ok .none

def cLoginUser (userType : UserType) (pin : Span) : Api Reply := do
  ckTry checkInit
  let slotId ← ckTry (sessionSlot hSession)
  if userType = ckuContextSpecific then
    checkContextLogin world slotId pin.contents
    let _ ← ckTry (withSessionMut hSession fun s => { s with contextSpecificAuthed := true })
    return .ok .none
  else
    let target ← checkLogin world slotId userType pin.contents
    updateSessions slotId fun s => { s with loginState := target }
    return .ok .none

def cLogout : Api Reply := do
  ckTry checkInit
  let session ← ckTry (withSession hSession)
  let current ← loginStateForSlot session.slotId
  ensure (current ≠ .notLoggedIn) .userNotLoggedIn
  updateSessions session.slotId fun s => { s with findCtx := none }
  retainObjects fun object =>
    !(object.slotId = session.slotId && object.isSessionObject && object.isPrivateObject)
  updateSessions session.slotId fun s => { s with loginState := .notLoggedIn }
  return .ok .none

end World

/-! ### Calls that are not supported -/

def refuseInSession (hSession : SessionHandle) (rv : Rv) : Api Reply := do
  ckTry checkInit
  let _ ← ckTry (withSession hSession)
  throw rv

def cSeedRandom (hSession : SessionHandle) (seed : Span) : Api Reply := do
  ckTry checkInit
  let _ ← ckTry (withSession hSession)
  ensure (seed.missing = false) .argumentsBad
  throw .randomSeedNotSupported

end ScoreCrypto.Cryptoki
