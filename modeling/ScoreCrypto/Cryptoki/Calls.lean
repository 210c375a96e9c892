import ScoreCrypto.Cryptoki.CryptoCalls
import ScoreCrypto.Cryptoki.KeyCalls
import ScoreCrypto.Cryptoki.SessionCalls
import ScoreCrypto.Lib.Run
import Mathlib.Data.List.Sort

/-! The calls of the interface, what one call does, and runs of calls. -/

namespace ScoreCrypto.Cryptoki

open Fallible

inductive SessionCall where
  | generateKeyPair (mechanism : Option Mechanism) (pubTemplate privTemplate : Template)
      (given : Bool)
  | generateKey (mechanism : Option Mechanism) (template : Template) (given : Bool)
  | generateRandom (len : UInt64) (given : Bool)
  | createObject (template : Template) (given : Bool)
  | copyObject (hObject : ObjectHandle) (template : Template) (given : Bool)
  | destroyObject (hObject : ObjectHandle)
  | getObjectSize (hObject : ObjectHandle) (given : Bool)
  | getAttributeValue (hObject : ObjectHandle) (template : Option (List Query))
  | setAttributeValue (hObject : ObjectHandle) (template : Template)
  | findObjectsInit (template : Template)
  | findObjects (max : UInt64) (given : Bool)
  | findObjectsFinal
  | signInit (mechanism : Option Mechanism) (hKey : ObjectHandle)
  | sign (data : Option Bytes) (out : Destination)
  | signUpdate (part : Option Bytes)
  | signFinal (out : Destination)
  | verifyInit (mechanism : Option Mechanism) (hKey : ObjectHandle)
  | verify (data signature : Option Bytes)
  | verifyUpdate (part : Option Bytes)
  | verifyFinal (signature : Option Bytes)
  | encryptInit (mechanism : Option Mechanism) (hKey : ObjectHandle)
  | encrypt (data : Option Bytes) (out : Destination)
  | encryptUpdate (part : Option Bytes) (out : Destination)
  | encryptFinal (out : Destination)
  | decryptInit (mechanism : Option Mechanism) (hKey : ObjectHandle)
  | decrypt (encrypted : Option Bytes) (out : Destination)
  | decryptUpdate (part : Option Bytes) (out : Destination)
  | decryptFinal (out : Destination)
  | digestInit (mechanism : Option Mechanism)
  | digest (data : Span) (out : Destination)
  | digestUpdate (part : Span)
  | digestKey (hKey : ObjectHandle)
  | digestFinal (out : Destination)
  | messageEncryptInit (mechanism : Option Mechanism) (hKey : ObjectHandle)
  | encryptMessage (params : Option MessageParams) (aad plaintext : Option Bytes)
      (out : Destination)
  | encryptMessageBegin
  | messageEncryptFinal
  | messageDecryptInit (mechanism : Option Mechanism) (hKey : ObjectHandle)
  | decryptMessage (params : Option MessageParams) (aad ciphertext : Option Bytes)
      (out : Destination)
  | decryptMessageBegin
  | messageDecryptFinal
  | signMessage (data : Option Bytes) (out : Destination)
  | signMessageBegin
  | messageSignFinal
  | verifyMessage (data signature : Option Bytes)
  | verifyMessageBegin
  | messageVerifyFinal
  | wrapKey (mechanism : Option Mechanism) (hWrappingKey hKey : ObjectHandle) (out : Destination)
  | unwrapKey (mechanism : Option Mechanism) (hUnwrappingKey : ObjectHandle)
      (wrappedKey : Option Bytes) (template : Template) (given : Bool)
  | deriveKey (mechanism : Option Mechanism) (hBaseKey : ObjectHandle) (template : Template)
      (given : Bool)
  | initPin (pin : Span)
  | setPin (oldPin newPin : Span)
  | closeSession
  | getSessionInfo (given : Bool)
  | sessionCancel
  | login (userType : UserType) (pin : Span)
  | loginUser (userType : UserType) (pin : Span)
  | logout
  | seedRandom (seed : Span)
  /-- `C_GetOperationState` and `C_SetOperationState` -/
  | operationState
  /-- The calls that are refused without a look at the session: `C_SignRecover` and its like, the
  calls that combine two operations, and the message calls that go on part by part. -/
  | notSupported
  /-- `C_GetFunctionStatus` and `C_CancelFunction` -/
  | notParallel

inductive Call where
  | initializeLibrary (args : Option InitializeArgs)
  | finalize (reserved : Bool)
  | registerEngine (engine : CryptoProvider)
  | initToken (slotId : SlotId) (pin : Option Bytes) (label : Option (Vector UInt8 32))
  | openSession (slotId : SlotId) (flags : Flags) (given : Bool)
  | closeAllSessions (slotId : SlotId)
  | inSession (hSession : SessionHandle) (call : SessionCall)

variable (world : World)

def SessionCall.program (h : SessionHandle) : SessionCall → Api Reply
  | .generateKeyPair mechanism pubTemplate privTemplate given =>
    cGenerateKeyPair h mechanism pubTemplate privTemplate given
  | .generateKey mechanism template given => cGenerateKey h mechanism template given
  | .generateRandom len given => cGenerateRandom h len given
  | .createObject template given => cCreateObject h template given
  | .copyObject hObject template given => cCopyObject h hObject template given
  | .destroyObject hObject => cDestroyObject h hObject
  | .getObjectSize hObject given => cGetObjectSize h hObject given
  | .getAttributeValue hObject template => cGetAttributeValue h hObject template
  | .setAttributeValue hObject template => cSetAttributeValue h hObject template
  | .findObjectsInit template => cFindObjectsInit h template
  | .findObjects max given => cFindObjects h max given
  | .findObjectsFinal => cFindObjectsFinal h
  | .signInit mechanism hKey => cSignInit h mechanism hKey
  | .sign data out => cSign h data out
  | .signUpdate part => cSignUpdate h part
  | .signFinal out => cSignFinal h out
  | .verifyInit mechanism hKey => cVerifyInit h mechanism hKey
  | .verify data signature => cVerify h data signature
  | .verifyUpdate part => cVerifyUpdate h part
  | .verifyFinal signature => cVerifyFinal h signature
  | .encryptInit mechanism hKey => cEncryptInit h mechanism hKey
  | .encrypt data out => cEncrypt world h data out
  | .encryptUpdate part out => cEncryptUpdate h part out
  | .encryptFinal out => cEncryptFinal world h out
  | .decryptInit mechanism hKey => cDecryptInit h mechanism hKey
  | .decrypt encrypted out => cDecrypt world h encrypted out
  | .decryptUpdate part out => cDecryptUpdate h part out
  | .decryptFinal out => cDecryptFinal world h out
  | .digestInit mechanism => cDigestInit h mechanism
  | .digest data out => cDigest h data out
  | .digestUpdate part => cDigestUpdate h part
  | .digestKey hKey => cDigestKey h hKey
  | .digestFinal out => cDigestFinal h out
  | .messageEncryptInit mechanism hKey => cMessageEncryptInit h mechanism hKey
  | .encryptMessage params aad plaintext out => cEncryptMessage h params aad plaintext out
  | .encryptMessageBegin => cEncryptMessageBegin h
  | .messageEncryptFinal => cMessageEncryptFinal h
  | .messageDecryptInit mechanism hKey => cMessageDecryptInit h mechanism hKey
  | .decryptMessage params aad ciphertext out => cDecryptMessage h params aad ciphertext out
  | .decryptMessageBegin => cDecryptMessageBegin h
  | .messageDecryptFinal => cMessageDecryptFinal h
  | .signMessage data out => cSignMessage h data out
  | .signMessageBegin => cSignMessageBegin h
  | .messageSignFinal => cMessageSignFinal h
  | .verifyMessage data signature => cVerifyMessage h data signature
  | .verifyMessageBegin => cVerifyMessageBegin h
  | .messageVerifyFinal => cMessageVerifyFinal h
  | .wrapKey mechanism hWrappingKey hKey out => cWrapKey h mechanism hWrappingKey hKey out
  | .unwrapKey mechanism hUnwrappingKey wrappedKey template given =>
    cUnwrapKey h mechanism hUnwrappingKey wrappedKey template given
  | .deriveKey mechanism hBaseKey template given => cDeriveKey h mechanism hBaseKey template given
  | .initPin pin => cInitPin world h pin
  | .setPin oldPin newPin => cSetPin world h oldPin newPin
  | .closeSession => cCloseSession h
  | .getSessionInfo given => cGetSessionInfo h given
  | .sessionCancel => cSessionCancel h
  | .login userType pin => cLogin world h userType pin
  | .loginUser userType pin => cLoginUser world h userType pin
  | .logout => cLogout h
  | .seedRandom seed => cSeedRandom h seed
  | .operationState => refuseInSession h .functionNotSupported
  | .notSupported => throw .functionNotSupported
  | .notParallel => throw .functionNotParallel

def Call.program : Call → Api Reply
  | .initializeLibrary args => cInitialize world args
  | .finalize reserved => cFinalize reserved
  | .registerEngine engine => Cryptoki.registerEngine engine
  | .initToken slotId pin label => cInitToken world slotId pin label
  | .openSession slotId flags given => cOpenSession slotId flags given
  | .closeAllSessions slotId => cCloseAllSessions slotId
  | .inSession hSession call => call.program world hSession

def Reply.ofResult : Except Rv Reply → Reply
  | .ok reply => reply
  | .error rv => ⟨rv, .none⟩

def Call.exec (call : Call) (s : State) : Except Rv Reply × State :=
  Fallible.exec (handle world) (call.program world) s

def Call.reply (call : Call) (s : State) : Reply := Reply.ofResult (call.exec world s).1

def step (s : State) (call : Call) : State := (call.exec world s).2

/-! ### A world to run in -/

instance total_le : Std.Total (fun a b : UInt64 => a ≤ b) := ⟨UInt64.le_total⟩

instance trans_le : IsTrans UInt64 (fun a b => a ≤ b) := ⟨fun _ _ _ => UInt64.le_trans⟩

def ascending (keys : Finset UInt64) : List UInt64 :=
  Quotient.liftOn keys.val (List.insertionSort (· ≤ ·)) fun _ _ perm =>
    List.Perm.eq_of_pairwise (fun _ _ _ _ => UInt64.le_antisymm)
      (List.pairwise_insertionSort _ _) (List.pairwise_insertionSort _ _)
      (((List.perm_insertionSort _ _).trans perm).trans (List.perm_insertionSort _ _).symm)

theorem coe_ascending (keys : Finset UInt64) : (ascending keys : Multiset UInt64) = keys.val := by
  rcases keys with ⟨⟨list⟩, nodup⟩
  exact Quotient.sound (List.perm_insertionSort _ list)

def plainEngine : CryptoProvider :=
  { (default : CryptoProvider) with
    slotCount := 1
    generateRsaKeyPair := fun _ bits => .ok ⟨[1], [2], bits, [3], [1, 0, 1]⟩
    generateAesKey := fun _ len => .ok (List.replicate len 7)
    generateRandom := fun _ len => .ok (List.replicate len 9)
    rsaPkcs1Sign := fun key message => .ok (key ++ message)
    aesKeyWrap := fun kek key => .ok (kek ++ key)
    serializeKey := .ok
    deserializeKey := .ok }

def plainWorld : World where
  argon2 := ⟨fun _ _ pin => String.ofList (pin.map fun byte => Char.ofNat byte.toNat),
    fun phcString pin => phcString = String.ofList (pin.map fun byte => Char.ofNat byte.toNat)⟩
  openSslEngine := plainEngine
  blockCipherCrypt _ _ _ _ input := .ok input
  order _ := ascending
  order_nodup _ keys := by
    have nodup := keys.nodup
    rwa [← coe_ascending, Multiset.coe_nodup] at nodup
  mem_order _ keys key := by
    rw [← Multiset.mem_coe, coe_ascending, Finset.mem_val]
  saves _ := true

end ScoreCrypto.Cryptoki
