import ScoreCrypto.Cryptoki.Calls

/-! What is encrypted with an AEAD mechanism, and what the same parameters decrypt. -/

namespace ScoreCrypto.Cryptoki

open Fallible

/-- What the mode seals it opens; the tag has sixteen bytes and the text keeps its length. -/
def Opens (encrypt : (key iv aad plaintext : Bytes) → Except CryptoError (Bytes × Bytes))
    (decrypt : (key iv aad ciphertext tag : Bytes) → Except CryptoError Bytes) : Prop :=
  ∀ key iv aad plaintext sealed, encrypt key iv aad plaintext = .ok sealed →
    sealed.1.length = plaintext.length ∧ sealed.2.length = 16 ∧
      decrypt key iv aad sealed.1 sealed.2 = .ok plaintext

structure CryptoProvider.AeadCorrect (e : CryptoProvider) : Prop where
  aesGcm : Opens e.aesGcmEncrypt e.aesGcmDecrypt
  chacha20Poly1305 : Opens e.chacha20Poly1305Encrypt e.chacha20Poly1305Decrypt

def Mechanism.IsAead (mech : Mechanism) : Prop :=
  mech.mechanism = ckmAesGcm ∨ mech.mechanism = ckmChacha20Poly1305

/-- The length of the tag that the caller asks for, in bits: that of `ulTagBits` for AES-GCM, where no
parameter and 0 stand for the full tag. The parameters of ChaCha20-Poly1305 are its nonce and the
additional data, and its tag has one length. -/
def Mechanism.requestedTagBits (mech : Mechanism) : Nat :=
  match mech.parameter with
  | some parameter =>
    if mech.mechanism = ckmAesGcm ∧ parameter.gcm.tagBits ≠ 0 then parameter.gcm.tagBits.toNat else 128
  | none => 128

theorem Mechanism.tagLen_of_requested {mech : Mechanism} (aead : mech.IsAead)
    (full : mech.requestedTagBits = 128) : (extractCipherParams mech).tagLen = 16 := by
  rcases mech with ⟨mechanism, parameter⟩
  cases parameter with
  | none => rcases aead with rfl | rfl <;> rfl
  | some parameter =>
    rcases aead with rfl | rfl
    · change (if parameter.gcm.tagBits.toNat / 8 = 0 then 16 else parameter.gcm.tagBits.toNat / 8) = 16
      simp only [requestedTagBits, true_and] at full
      by_cases given : parameter.gcm.tagBits = 0
      · rw [given]
        rfl
      · rw [if_pos given] at full
        rw [full]
        rfl
    · rfl

/-- A decryption with the key and the parameters is under way in a session of the same slot, and is
authorized; engines and key are what they were. -/
structure Decrypting (s : State) (h : SessionHandle) (t : State) (h' : SessionHandle)
    (mech : Mechanism) (hKey : ObjectHandle) : Prop where
  initialized : t.initialized = true
  slots : t.slots = s.slots
  object : t.objects.get hKey = s.objects.get hKey
  session : ∃ before now, s.sessions.lookup h = some before ∧ t.sessions.lookup h' = some now ∧
    now.slotId = before.slotId ∧ now.decryptCtx = some (mech.cipherContext hKey) ∧
    ∀ key, t.objects.get hKey = some key → now.requireContextAuth key = .ok ()

section Opens

variable {encrypt : (key iv aad plaintext : Bytes) → Except CryptoError (Bytes × Bytes)}
  {decrypt : (key iv aad ciphertext tag : Bytes) → Except CryptoError Bytes}
  {key iv aad plaintext ciphertext : Bytes}

theorem Opens.joined (opens : Opens encrypt decrypt)
    (encrypted : (do
      let sealed ← ofEngine (encrypt key iv aad plaintext)
      return sealed.1 ++ sealed.2) = .ok ciphertext) :
    ciphertext.length = plaintext.length + 16 ∧
      (do
        if ciphertext.length < 16 then throw Pkcs11Error.encryptedDataInvalid
        let split := ciphertext.splitAt (ciphertext.length - 16)
        ofEngine (decrypt key iv aad split.1 split.2)) = .ok plaintext := by
  cases made : encrypt key iv aad plaintext with
  | error e =>
    rw [made] at encrypted
    cases encrypted
  | ok sealed =>
    rw [made] at encrypted
    cases encrypted
    rcases opens key iv aad plaintext sealed made with ⟨text, tag, opened⟩
    have length : (sealed.1 ++ sealed.2).length = plaintext.length + 16 := by
      rw [List.length_append, text, tag]
    refine ⟨length, ?_⟩
    simp only [length, Nat.add_sub_cancel]
    rw [if_neg (by omega), ← text]
    simp [opened, ofEngine, Except.mapError]

end Opens

section Symmetric

variable {world : World} {slots : List CryptoProvider} {slotId : SlotId} {mechanism : MechanismType}
  {key : KeyObject} {iv : Bytes} {aad : Option Bytes} {plaintext ciphertext : Bytes}

theorem encryptSymmetric_opens (correct : ∀ e ∈ slots, e.AeadCorrect)
    (aead : mechanism = ckmAesGcm ∨ mechanism = ckmChacha20Poly1305)
    (encrypted : encryptSymmetric world slots slotId mechanism key iv aad plaintext =
      .ok ciphertext) :
    ciphertext.length = plaintext.length + 16 ∧
      decryptSymmetric world slots slotId mechanism key iv aad ciphertext 16 = .ok plaintext := by
  simp only [encryptSymmetric, bind_eq_ok] at encrypted
  rcases encrypted with ⟨e, found, encrypted⟩
  have member : e ∈ slots := by
    simp only [eng, engineForSlot] at found
    split at found <;> cases found
    next here => exact List.mem_of_getElem? here
  simp only [decryptSymmetric, bind_eq_ok]
  rcases aead with rfl | rfl
  · have opened := (correct e member).aesGcm.joined encrypted
    exact ⟨opened.1, e, found, opened.2⟩
  · have opened := (correct e member).chacha20Poly1305.joined encrypted
    exact ⟨opened.1, e, found, opened.2⟩

end Symmetric

section Calls

variable {world : World} {s t : State} {h h' : SessionHandle} {mech : Mechanism}
  {hKey : ObjectHandle} {plaintext ciphertext : Bytes} {out : Destination} {len : UInt64}

theorem encryptInit_conforms :
    Conforms (.exactly (handle world))
      (fun after result => (Reply.ofResult result).rv = .ok → ∃ session,
        s.sessions.lookup h = some session ∧
        after.sessions.lookup h = some { session with encryptCtx := some (mech.cipherContext hKey) } ∧
        after.slots = s.slots ∧ after.objects = s.objects)
      s (cEncryptInit h (some mech) hKey) := by
  cases found : s.sessions.lookup h <;>
    simp [cEncryptInit, handle, Reply.ofResult, Pkcs11Error.toCkr, found]
  simp_all

theorem encrypt_conforms {session : Session} {ctx : CipherContext}
    (found : s.sessions.lookup h = some session) (active : session.encryptCtx = some ctx)
    (symmetric : isRsaEncMechanism ctx.mechanism = false) :
    Conforms (.exactly (handle world))
      (fun _ result => Reply.ofResult result = .ok (.data len (some ciphertext)) →
        ∃ key, s.objects.get ctx.keyHandle = some key ∧
          encryptSymmetric world s.slots session.slotId ctx.mechanism key (ctx.iv.getD []) ctx.aad
            plaintext = .ok ciphertext)
      s (cEncrypt world h (some plaintext) out) := by
  simp [cEncrypt, handle, Reply.ofResult, Reply.ok, found, active, symmetric]
  intro _ _ key here value encrypted written
  have same : value = ciphertext := by
    cases out with
    | buffer capacity =>
      simp only [Destination.write, Reply.ok] at written
      split at written <;> simp_all
    | _ => simp [Destination.write, Reply.ok] at written
  exact ⟨key, here, same ▸ encrypted⟩

theorem decrypt_conforms {session : Session} {ctx : CipherContext} {key : KeyObject}
    {capacity : UInt64} (ready : t.initialized = true) (found : t.sessions.lookup h' = some session)
    (active : session.decryptCtx = some ctx) (symmetric : isRsaEncMechanism ctx.mechanism = false)
    (here : t.objects.get ctx.keyHandle = some key)
    (authorized : session.requireContextAuth key = .ok ())
    (opened : decryptSymmetric world t.slots session.slotId ctx.mechanism key (ctx.iv.getD []) ctx.aad
      ciphertext ctx.tagLen = .ok plaintext) (room : plaintext.length ≤ capacity.toNat) :
    Conforms (.exactly (handle world))
      (fun _ result => Reply.ofResult result =
        .ok (.data (UInt64.ofNat plaintext.length) (some plaintext)))
      t (cDecrypt world h' (some ciphertext) (.buffer capacity)) := by
  simp [cDecrypt, completeDecrypt, handle, Reply.ofResult, found, active, symmetric, ready, here,
    opened, Destination.write, room]
  intro error refused
  cases authorized.symm.trans refused

end Calls

def taggingEngine : CryptoProvider :=
  let encrypt (_ _ _ plaintext : Bytes) : Except CryptoError (Bytes × Bytes) :=
    .ok (plaintext, List.replicate 16 0)
  let decrypt (_ _ _ ciphertext tag : Bytes) : Except CryptoError Bytes :=
    if tag = List.replicate 16 0 then .ok ciphertext else .error .dataInvalid
  { plainEngine with
    aesGcmEncrypt := encrypt
    aesGcmDecrypt := decrypt
    chacha20Poly1305Encrypt := encrypt
    chacha20Poly1305Decrypt := decrypt }

def taggingWorld : World := { plainWorld with openSslEngine := taggingEngine }

def withAesKey : State :=
  Run.run (step taggingWorld) (State.loaded none)
    [.initializeLibrary none, .openSession 0 6 true,
      .inSession 1 (.createObject (.entries [⟨ckaClass, .bytes (ulongBytes ckoSecretKey)⟩,
        ⟨ckaValue, .bytes [1, 2, 3]⟩]) true)]

def gcmWith (tagBits : UInt64) : Mechanism :=
  ⟨ckmAesGcm, some ⟨[], ⟨none, none, tagBits⟩, ⟨0, none, none⟩⟩⟩

def replyTo (s : State) (call : SessionCall) : Reply := (Call.inSession 1 call).reply taggingWorld s

def encrypting (tagBits : UInt64) : State :=
  step taggingWorld withAesKey (.inSession 1 (.encryptInit (some (gcmWith tagBits)) 2))

def decrypting (tagBits : UInt64) : State :=
  step taggingWorld (encrypting tagBits) (.inSession 1 (.decryptInit (some (gcmWith tagBits)) 2))

theorem withAesKey_correct : ∀ e ∈ withAesKey.slots, e.AeadCorrect := by
  have slots : withAesKey.slots = [taggingEngine] := rfl
  have opens : Opens taggingEngine.aesGcmEncrypt taggingEngine.aesGcmDecrypt := by
    intro key iv aad plaintext sealed encrypted
    cases encrypted
    exact ⟨rfl, rfl, rfl⟩
  simpa [slots] using ⟨opens, opens⟩

end ScoreCrypto.Cryptoki
