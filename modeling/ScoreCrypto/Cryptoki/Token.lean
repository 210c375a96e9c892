import ScoreCrypto.Cryptoki.Types

/-! The token of a slot: its label, its PINs and how often they were entered wrongly. -/

namespace ScoreCrypto.Cryptoki

/-- The PIN hashing: a hash takes a fresh salt, here a seed and the number of the hash drawn
with it. -/
structure Argon2 where
  hashPassword : (seed index : Nat) → (pin : Bytes) → String
  verifyPassword : (phcString : String) → (pin : Bytes) → Bool

inductive TokenState where
  | reset
  | readWrite
  | readOnly
  deriving DecidableEq, Repr

def maxPinFailures : UInt32 := 10

structure Token where
  label : Vector UInt8 32
  state : TokenState
  soPin : Option String
  userPin : Option String
  soPinFailures : UInt32
  userPinFailures : UInt32
  loginRequired : Bool
  minPinLen : Nat
  maxPinLen : Nat
  serialNumber : Vector UInt8 16
  deriving DecidableEq

def padded (width : Nat) (bytes : Bytes) : Vector UInt8 width :=
  Vector.ofFn fun i => bytes.getD i 32

def ascii (text : String) : Bytes := text.toList.map fun c => UInt8.ofNat c.toNat

namespace Token

def new : Token where
  label := padded 32 (ascii "Uninitialized Token")
  state := .reset
  soPin := none
  userPin := none
  soPinFailures := 0
  userPinFailures := 0
  loginRequired := true
  minPinLen := 4
  maxPinLen := 64
  serialNumber := padded 16 (ascii "00000001")

variable (argon2 : Argon2)

def newDefault (seed : Nat) : Token :=
  { new with
    label := padded 32 (ascii "Cryptoki Token")
    state := .readWrite
    soPin := some (argon2.hashPassword seed 0 (ascii "so-pin"))
    userPin := some (argon2.hashPassword seed 1 (ascii "1234")) }

def initialized (token : Token) : Bool := token.state ≠ .reset

def pinLenOk (token : Token) (pin : Bytes) : Bool :=
  token.minPinLen ≤ pin.length && pin.length ≤ token.maxPinLen

def initToken (soPin : Bytes) (label : Vector UInt8 32) (seed : Nat) (token : Token) :
    Except Pkcs11Error Unit × Token :=
  if !token.pinLenOk soPin then (.error .pinLenRange, token)
  else
    -- the factory's PIN opens the token to any new PIN
    let accepted := match token.soPin with
      | some existing =>
        argon2.verifyPassword existing soPin || argon2.verifyPassword existing (ascii "so-pin")
      | none => true
    if token.initialized && !accepted then (.error .pinIncorrect, token)
    else
      (.ok (),
        { token with
          label := label
          soPin := some (argon2.hashPassword seed 0 soPin)
          userPin := none
          soPinFailures := 0
          userPinFailures := 0
          state := .readWrite })

def initPin (pin : Bytes) (seed : Nat) (token : Token) : Except Pkcs11Error Unit × Token :=
  if !token.initialized then (.error .generalError, token)
  else if !token.pinLenOk pin then (.error .pinLenRange, token)
  else
    (.ok (),
      { token with userPin := some (argon2.hashPassword seed 0 pin), userPinFailures := 0 })

def setPin (userType : UserType) (newPin : Bytes) (seed : Nat) (token : Token) :
    Except Pkcs11Error Unit × Token :=
  if !token.pinLenOk newPin then (.error .pinLenRange, token)
  else if userType = ckuSo then
    (.ok (), { token with soPin := some (argon2.hashPassword seed 0 newPin), soPinFailures := 0 })
  else if userType = ckuUser then
    (.ok (),
      { token with userPin := some (argon2.hashPassword seed 0 newPin), userPinFailures := 0 })
  else (.error .userTypeInvalid, token)

def pinMatches (hash : Option String) (pin : Bytes) : Bool :=
  hash.any fun phcString => argon2.verifyPassword phcString pin

def verifyPin (userType : UserType) (pin : Bytes) (token : Token) :
    Except Pkcs11Error Unit × Token :=
  if userType = ckuSo then
    if token.state = .readOnly then (.error .pinLocked, token)
    else if pinMatches argon2 token.soPin pin then (.ok (), { token with soPinFailures := 0 })
    else
      let failed := { token with soPinFailures := token.soPinFailures + 1 }
      if maxPinFailures ≤ failed.soPinFailures then
        (.error .pinLocked, { failed with state := .readOnly })
      else (.error .pinIncorrect, failed)
  else if userType = ckuUser then
    if maxPinFailures ≤ token.userPinFailures then (.error .pinLocked, token)
    else if pinMatches argon2 token.userPin pin then (.ok (), { token with userPinFailures := 0 })
    else (.error .pinIncorrect, { token with userPinFailures := token.userPinFailures + 1 })
  else (.error .argumentsBad, token)

def verifyUserPinNoLockout (pin : Bytes) (token : Token) : Except Pkcs11Error Unit :=
  if pinMatches argon2 token.userPin pin then .ok () else .error .pinIncorrect

/-- `C_SetPIN`: the old PIN is verified, and for the user the new one may stand in for it. -/
def changePin (userType : UserType) (oldPin newPin : Bytes) (seed : Nat) (token : Token) :
    Except Pkcs11Error Unit × Token :=
  match verifyPin argon2 userType oldPin token with
  | (.ok (), verified) => setPin argon2 userType newPin seed verified
  | (.error error, failed) =>
    if userType ≠ ckuUser then (.error error, failed)
    else
      match verifyPin argon2 userType newPin failed with
      | (.error _, again) => (.error error, again)
      | (.ok (), verified) => setPin argon2 userType newPin seed verified

end Token

end ScoreCrypto.Cryptoki
