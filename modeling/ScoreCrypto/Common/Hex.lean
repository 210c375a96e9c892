import ScoreCrypto.Storage.KvFormat

/-! Bytes as hexadecimal text, and the text back as bytes. -/

namespace ScoreCrypto

open Storage

def hexDigit (value : UInt8) : UInt8 :=
  if value < 10 then 48 + value else 87 + value

def encodeHex (bytes : Bytes) : Bytes :=
  bytes.flatMap fun byte : UInt8 => [hexDigit (byte >>> 4 &&& 0x0F), hexDigit (byte &&& 0x0F)]

def toLower (c : UInt8) : UInt8 :=
  if 65 ≤ c ∧ c ≤ 90 then c + 32 else c

def nibble (c : UInt8) : Option UInt8 :=
  if 48 ≤ toLower c ∧ toLower c ≤ 57 then some (toLower c - 48)
  else if 97 ≤ toLower c ∧ toLower c ≤ 102 then some (toLower c - 97 + 10)
  else none

/-- Text of odd length, or with anything but digits in it, stands for no bytes. -/
def decodeHex : Bytes → Option Bytes
  | [] => some []
  | [_] => none
  | first :: second :: rest =>
    match nibble first, nibble second, decodeHex rest with
    | some high, some low, some bytes => some ((high <<< 4 ||| low) :: bytes)
    | _, _, _ => none

theorem of_forall_lt {p : UInt8 → Prop} (all : ∀ n < 256, p (UInt8.ofNat n)) (byte : UInt8) :
    p byte := by
  have own := all byte.toNat byte.toNat_lt
  rwa [UInt8.ofNat_toNat] at own

theorem nibble_hexDigit (byte : UInt8) :
    nibble (hexDigit (byte &&& 0x0F)) = some (byte &&& 0x0F) := by
  revert byte
  apply of_forall_lt
  decide +kernel

theorem join_halves (byte : UInt8) :
    (byte >>> 4 &&& 0x0F) <<< 4 ||| (byte &&& 0x0F) = byte := by
  revert byte
  apply of_forall_lt
  decide +kernel

theorem decodeHex_encodeHex (bytes : Bytes) : decodeHex (encodeHex bytes) = some bytes := by
  induction bytes with
  | nil => rfl
  | cons byte bytes ih =>
    change decodeHex (hexDigit (byte >>> 4 &&& 0x0F) :: hexDigit (byte &&& 0x0F) ::
      encodeHex bytes) = _
    simp only [decodeHex, nibble_hexDigit, ih, join_halves]

end ScoreCrypto
