import ScoreCrypto.Cryptoki.SessionView

/-!
What a call in a session can do: which objects it looks at and what it makes of its session. Most
calls leave the stores alone.
-/

namespace ScoreCrypto.Cryptoki

open Fallible

namespace SessionCall

/-- The calls for PINs and logins and the end of a session, which reach beyond the objects. -/
def ordinary : SessionCall → Bool
  | .initPin _ | .setPin _ _ | .closeSession | .login _ _ | .loginUser _ _ | .logout => false
  | _ => true

def changes : SessionCall → Bool
  | .generateKeyPair _ _ _ _ | .generateKey _ _ _ | .createObject _ _ | .copyObject _ _ _
  | .destroyObject _ | .setAttributeValue _ _ | .unwrapKey _ _ _ _ _ | .deriveKey _ _ _ _ => true
  | _ => false

def takes (next : ObjectHandle) : SessionCall → List ObjectHandle
  | .generateKeyPair _ _ _ _ => [next, next + 1]
  | .generateKey _ _ _ | .createObject _ _ | .copyObject _ _ _ | .unwrapKey _ _ _ _ _
  | .deriveKey _ _ _ _ => [next]
  | _ => []

/-- The object that a call looks up without asking for its slot, once it gets that far. -/
def unchecked (session : Session) : SessionCall → Option ObjectHandle
  | .destroyObject hObject => some hObject
  | .setAttributeValue hObject template =>
    if session.isRw = true ∧ template.isNull = false then some hObject else none
  | .sign data out =>
    if data.isSome ∧ out ≠ .noLength then session.signCtx.map SignContext.keyHandle else none
  | .signFinal out =>
    if out ≠ .noLength then session.signCtx.map SignContext.keyHandle else none
  | .verify data signature =>
    if data.isSome ∧ signature.isSome then session.verifyCtx.map SignContext.keyHandle else none
  | .verifyFinal signature =>
    if signature.isSome then session.verifyCtx.map SignContext.keyHandle else none
  | .encrypt data out =>
    if data.isSome ∧ out ≠ .noLength then session.encryptCtx.map CipherContext.keyHandle else none
  | .encryptFinal out =>
    if out ≠ .noLength then session.encryptCtx.map CipherContext.keyHandle else none
  | .decrypt encrypted out =>
    if encrypted.isSome ∧ out ≠ .noLength then session.decryptCtx.map CipherContext.keyHandle
    else none
  | .decryptFinal out =>
    if out ≠ .noLength then session.decryptCtx.map CipherContext.keyHandle else none
  | .digestKey hKey => some hKey
  | .encryptMessage params _ plaintext out =>
    if plaintext.isSome ∧ out ≠ .noLength ∧
        (params.any fun given => given.iv.isSome && given.tag.isSome) = true then
      session.msgEncryptCtx.map MessageContext.keyHandle
    else none
  | .decryptMessage params _ ciphertext out =>
    if ciphertext.isSome ∧ out ≠ .noLength ∧
        (params.any fun given => given.iv.isSome && given.tag.isSome) = true then
      session.msgDecryptCtx.map MessageContext.keyHandle
    else none
  | .signMessage data out =>
    if data.isSome ∧ out ≠ .noLength then session.msgSignCtx.map MessageContext.keyHandle else none
  | .verifyMessage data signature =>
    if data.isSome ∧ signature.isSome then session.msgVerifyCtx.map MessageContext.keyHandle
    else none
  | .deriveKey mechanism hBaseKey template given =>
    if mechanism.isSome ∧ given = true ∧
        (template.collect.asksForToken = true → session.isRw = true) then some hBaseKey
    else none
  | _ => none

end SessionCall

open SessionCall

@[mk_iff]
structure Session.Within (listed : ObjectHandle → Prop) (before after : Session) : Prop where
  slotId : after.slotId = before.slotId
  flags : after.flags = before.flags
  loginState : after.loginState = before.loginState
  ticket : after.contextSpecificAuthed = true → before.contextSpecificAuthed = true
  msgSignCtx : after.msgSignCtx = none ∨ after.msgSignCtx = before.msgSignCtx
  found : ∀ ctx, after.findCtx = some ctx → ∀ handle ∈ ctx.results,
    (∃ earlier, before.findCtx = some earlier ∧ handle ∈ earlier.results) ∨ listed handle

namespace Session

variable {listed : ObjectHandle → Prop} (session : Session)

@[simp] theorem within_refl : session.Within listed session :=
  ⟨rfl, rfl, rfl, id, .inr rfl, fun ctx here _ member => .inl ⟨ctx, here, member⟩⟩

@[simp] theorem within_ite {first second : Session} (condition : Prop) [Decidable condition] :
    session.Within listed (if condition then first else second) ↔
      (condition → session.Within listed first) ∧ (¬condition → session.Within listed second) := by
  by_cases holds : condition <;> simp [holds]

@[simp] theorem within_mk (ticket : Bool) (signCtx verifyCtx : Option SignContext)
    (encryptCtx decryptCtx : Option CipherContext) (digestCtx : Option DigestContext)
    (msgEncryptCtx msgDecryptCtx msgVerifyCtx : Option MessageContext) :
    session.Within listed
      { session with
        contextSpecificAuthed := ticket
        signCtx, verifyCtx, encryptCtx, decryptCtx, digestCtx, msgEncryptCtx, msgDecryptCtx,
        msgVerifyCtx } ↔ (ticket = true → session.contextSpecificAuthed = true) :=
  ⟨Within.ticket, fun kept =>
    ⟨rfl, rfl, rfl, kept, .inr rfl, fun ctx here _ member => .inl ⟨ctx, here, member⟩⟩⟩

end Session

/-! ### Calls that change nothing but their session -/

abbrev Sight.Listed (start : Sight) (session : Session) : ObjectHandle → Prop :=
  start.objects.Lists session.slotId session.loggedIn

@[simp] def SessionCall.Calm (call : SessionCall) (h : SessionHandle) (session : Session)
    (start sight : Sight) : Action → Prop
  | .session handle => handle = h
  | .updateSession handle change => handle = h ∧ ∀ current, sight.session = some current →
      session.Within (start.Listed session) (change current)
  | .object handle => call.unchecked session = some handle
  | .objectForSlot _ slotId => slotId = session.slotId
  | .findObjects slotId _ loggedIn => slotId = session.slotId ∧ loggedIn = session.loggedIn
  | .checkInit | .registry | .random => True
  | _ => False

def Quiet (h : SessionHandle) (session : Session) (start : Sight) (call : SessionCall)
    (p : Api Reply) : Prop :=
  Conforms (Sight.contract h (call.Calm h session start)) (fun _ _ => True) start p

section Quiet

variable {h : SessionHandle} {session : Session} {start : Sight}
  (opened : start.session = some session)

include opened

variable (world : World)

theorem quiet_sign (data : Option Bytes) (out : Destination) :
    Quiet h session start (.sign data out) (program world h (.sign data out)) ∧
      Quiet h session start (.signFinal out) (program world h (.signFinal out)) := by
  unfold Quiet
  constructor
  all_goals
    simp [program, cSign, cSignFinal, completeSign, unchecked, Session.burnTicket, opened]
    grind

theorem quiet_verify (data signature : Option Bytes) :
    Quiet h session start (.verify data signature) (program world h (.verify data signature)) ∧
      Quiet h session start (.verifyFinal signature) (program world h (.verifyFinal signature)) := by
  unfold Quiet
  constructor
  all_goals
    simp [program, cVerify, cVerifyFinal, checkSignatureLen, unchecked, opened]
    grind

theorem quiet_encrypt (data : Option Bytes) (out : Destination) :
    Quiet h session start (.encrypt data out) (program world h (.encrypt data out)) ∧
      Quiet h session start (.encryptFinal out) (program world h (.encryptFinal out)) := by
  unfold Quiet
  constructor
  all_goals
    simp [program, cEncrypt, cEncryptFinal, unchecked, opened]
    grind

theorem quiet_decrypt (encrypted : Option Bytes) (out : Destination) :
    Quiet h session start (.decrypt encrypted out) (program world h (.decrypt encrypted out)) ∧
      Quiet h session start (.decryptFinal out) (program world h (.decryptFinal out)) := by
  unfold Quiet
  constructor
  all_goals
    simp [program, cDecrypt, cDecryptFinal, completeDecrypt, unchecked, Session.burnTicket, opened]
    grind

theorem quiet_program {call : SessionCall} (ordinary : call.ordinary = true)
    (unchanging : call.changes = false) : Quiet h session start call (call.program world h) := by
  unfold Quiet
  cases call with
  | generateRandom | getObjectSize | getAttributeValue | digestKey =>
    simp [program, cGenerateRandom, cGetObjectSize, cGetAttributeValue, cDigestKey, sessionSlot,
      unchecked, opened]
  | findObjectsInit | findObjects =>
    simp [program, cFindObjectsInit, cFindObjects, Session.within_iff, FindContext.advance, opened,
      Sight.Follows, Sight.gives, Sight.next, Sight.nextSession]
    grind
  | wrapKey => simp [program, cWrapKey, sessionSlot, Session.burnTicket, opened]
  -- an operation or a message begins
  | signInit | verifyInit | encryptInit | decryptInit | digestInit | messageEncryptInit
  | messageDecryptInit =>
    simp [program, cSignInit, cVerifyInit, cEncryptInit, cDecryptInit, cDigestInit,
      cMessageEncryptInit, cMessageDecryptInit, opened]
  | encryptMessageBegin | decryptMessageBegin | signMessageBegin | verifyMessageBegin =>
    simp [program, cEncryptMessageBegin, cDecryptMessageBegin, cSignMessageBegin,
      cVerifyMessageBegin, requireMessageContext, opened]
  -- data is added to an operation
  | signUpdate | verifyUpdate | encryptUpdate | decryptUpdate | digestUpdate =>
    simp [program, cSignUpdate, cVerifyUpdate, cEncryptUpdate, cDecryptUpdate, cDigestUpdate, opened]
  -- an operation ends: most look up the key of the operation again
  | sign => exact (quiet_sign opened world _ _).1
  | signFinal => exact (quiet_sign opened world none _).2
  | verify => exact (quiet_verify opened world _ _).1
  | verifyFinal => exact (quiet_verify opened world none _).2
  | encrypt => exact (quiet_encrypt opened world _ _).1
  | encryptFinal => exact (quiet_encrypt opened world none _).2
  | decrypt => exact (quiet_decrypt opened world _ _).1
  | decryptFinal => exact (quiet_decrypt opened world none _).2
  | digest | digestFinal => simp [program, cDigest, cDigestFinal, completeDigest, opened]
  | encryptMessage | decryptMessage =>
    simp [program, cEncryptMessage, cDecryptMessage, unchecked, opened]
    grind [Option.isSome_iff_ne_none]
  | signMessage | verifyMessage =>
    simp [program, cSignMessage, cVerifyMessage, unchecked, opened]
    grind
  | messageEncryptFinal | messageDecryptFinal | messageVerifyFinal =>
    simp [program, cMessageEncryptFinal, cMessageDecryptFinal, cMessageVerifyFinal, opened]
  | messageSignFinal =>
    simp [program, cMessageSignFinal, Session.within_iff, opened]
    grind
  | findObjectsFinal | getSessionInfo | sessionCancel | seedRandom | operationState =>
    simp [program, cFindObjectsFinal, cGetSessionInfo, cSessionCancel, cSeedRandom,
      refuseInSession, Session.within_iff, opened]
  | notSupported | notParallel => exact trivial
  | generateKeyPair | generateKey | createObject | copyObject | destroyObject | setAttributeValue
  | unwrapKey | deriveKey => cases unchanging
  | initPin | setPin | closeSession | login | loginUser | logout => cases ordinary

end Quiet

end ScoreCrypto.Cryptoki
