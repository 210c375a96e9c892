import ScoreCrypto.Cryptoki.Object

/-! The sessions of the library, with the operations that are under way in them. -/

namespace ScoreCrypto.Cryptoki

structure SignContext where
  mechanism : MechanismType
  keyHandle : ObjectHandle
  data : Bytes
  deriving DecidableEq, Repr

structure CipherContext where
  mechanism : MechanismType
  keyHandle : ObjectHandle
  iv : Option Bytes
  aad : Option Bytes
  tagLen : Nat
  accumulated : Bytes
  deriving DecidableEq, Repr

structure DigestContext where
  mechanism : MechanismType
  data : Bytes
  isSinglePart : Bool
  isMultiPart : Bool
  deriving DecidableEq, Repr

structure FindContext where
  results : List ObjectHandle
  index : Nat
  deriving DecidableEq, Repr

structure MessageContext where
  mechanism : MechanismType
  keyHandle : ObjectHandle
  deriving DecidableEq, Repr

inductive LoginState where
  | notLoggedIn
  | userLoggedIn
  | soLoggedIn
  deriving DecidableEq, Repr

structure Session where
  slotId : SlotId
  flags : Flags
  loginState : LoginState := .notLoggedIn
  contextSpecificAuthed : Bool := false
  signCtx : Option SignContext := none
  verifyCtx : Option SignContext := none
  encryptCtx : Option CipherContext := none
  decryptCtx : Option CipherContext := none
  digestCtx : Option DigestContext := none
  findCtx : Option FindContext := none
  msgEncryptCtx : Option MessageContext := none
  msgDecryptCtx : Option MessageContext := none
  msgSignCtx : Option MessageContext := none
  msgVerifyCtx : Option MessageContext := none
  deriving DecidableEq, Repr

namespace Session

variable (session : Session)

def isRw : Bool := session.flags &&& ckfRwSession ≠ 0

def requireRw : Except Pkcs11Error Unit :=
  if session.isRw then .ok () else .error .sessionReadOnly

def loggedIn : Bool := session.loginState ≠ .notLoggedIn

/-- The ticket is looked at and not spent: the callers do that. -/
def requireContextAuth (object : KeyObject) : Except Pkcs11Error Unit :=
  if object.alwaysAuthenticate && !session.contextSpecificAuthed then .error .userNotLoggedIn
  else .ok ()

def isOpActive : Bool :=
  session.signCtx.isSome || session.msgSignCtx.isSome || session.decryptCtx.isSome ||
    session.msgDecryptCtx.isSome || session.encryptCtx.isSome || session.msgEncryptCtx.isSome

def burnTicket : Session := { session with contextSpecificAuthed := false }

end Session

end ScoreCrypto.Cryptoki
