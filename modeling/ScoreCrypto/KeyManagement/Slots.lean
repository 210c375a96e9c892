import ScoreCrypto.Common.Types

/-! Key permissions, key handles and the slots keys are loaded from. -/

namespace ScoreCrypto.KeyManagement

abbrev KeyOperationPermission := UInt32

namespace Permission

def none : KeyOperationPermission := 0x0000
def encrypt : KeyOperationPermission := 0x0001
def decrypt : KeyOperationPermission := 0x0002
def wrap : KeyOperationPermission := 0x0004
def sign : KeyOperationPermission := 0x0010
def verify : KeyOperationPermission := 0x0020
def mac : KeyOperationPermission := 0x0040
def agree : KeyOperationPermission := 0x0080
def derive : KeyOperationPermission := 0x0100
def exportKey : KeyOperationPermission := 0x0200
def all : KeyOperationPermission := 0x07FF

end Permission

def hasPermission (granted required : KeyOperationPermission) : Bool :=
  let g := granted &&& 0x07FF
  let r := required &&& 0x07FF
  g &&& r == r

inductive KeyMaterialKind where
  | unspecified
  | publicKey
  | privateKey
  | symmetricKey
  | sharedSecret
  deriving DecidableEq, Repr

inductive KeyType where
  | ecc
  | other
  deriving DecidableEq, Repr

structure AlgorithmDescriptor where
  name : String
  keyType : KeyType
  deriving DecidableEq, Repr

inductive FormatType where
  | der
  | pem
  | raw
  deriving DecidableEq, Repr

def invalidProviderId : ProviderId := 2 ^ 16 - 1

structure ProviderKeyHandle where
  providerId : ProviderId := invalidProviderId
  isAsymmetric : Bool := false
  permissions : KeyOperationPermission := Permission.none
  publicKeyPermissions : Option KeyOperationPermission := none
  algorithm : AlgorithmDescriptor
  materialKind : KeyMaterialKind := .unspecified
  deriving DecidableEq, Repr

def grantedPermissionsFor (handle : ProviderKeyHandle) (required : KeyOperationPermission)
    (exportFormat : Option FormatType := none) : KeyOperationPermission :=
  if handle.materialKind = .publicKey then handle.publicKeyPermissions.getD Permission.all
  else
    let publicHalfOperations := Permission.verify ||| Permission.encrypt ||| Permission.wrap
    let exportsEcPublicPoint := required = Permission.exportKey ∧ exportFormat = some .raw ∧
      handle.algorithm.keyType = .ecc
    if handle.isAsymmetric ∧ (hasPermission publicHalfOperations required ∨ exportsEcPublicPoint) then
      handle.publicKeyPermissions.getD Permission.all
    else handle.permissions

/-! ### Slots -/

/-- An index into the slot registry; the largest `uint32_t` marks a handle without a slot. -/
structure SlotHandle where
  index : Nat := 2 ^ 32 - 1
  deriving DecidableEq, Repr

def SlotHandle.isValid (handle : SlotHandle) : Bool :=
  handle.index ≠ 2 ^ 32 - 1

structure KeySlotConfig where
  slotName : String
  algorithm : String
  providerIds : List ProviderId
  allowedOperations : KeyOperationPermission
  allowedUids : List Nat
  deriving DecidableEq, Repr

def KeySlotConfig.getPrimaryProviderId (config : KeySlotConfig) : ProviderId :=
  config.providerIds.head?.getD invalidProviderId

def getUidFromClientId (clientId : ClientId) : Nat :=
  clientId / 2 ^ 32 % 2 ^ 32

def checkSlotAccess (slot : KeySlotConfig) (clientId : ClientId) : Expected Unit :=
  if getUidFromClientId clientId ∈ slot.allowedUids then .ok () else .error .accessDenied

/-- The slots of the deployment, fixed before the first request: the configurations, the slot
index of every slot name and the slot name of every application's resource names. -/
structure SlotRegistry where
  registry : List KeySlotConfig
  nameIndex : String → Option Nat
  appResourceMap : Nat → String → Option String

namespace SlotRegistry

variable (slots : SlotRegistry)

def isValidHandle (handle : SlotHandle) : Bool :=
  handle.isValid && handle.index < slots.registry.length

def getConfig (handle : SlotHandle) : Expected KeySlotConfig :=
  if slots.isValidHandle handle then
    match slots.registry[handle.index]? with
    | some config => .ok config
    | none => .error .invalidResourceId
  else .error .invalidResourceId

def getPrimaryProviderId (handle : SlotHandle) : Expected ProviderId :=
  match slots.getConfig handle with
  | .error e => .error e
  | .ok config =>
    match config.providerIds with
    | [] => .error .invalidArgument
    | primary :: _ => .ok primary

def resolveSlot (slotName : String) (clientId : ClientId) : Expected SlotHandle :=
  match slots.nameIndex slotName with
  | none => .error .invalidResourceId
  | some index =>
    match slots.registry[index]? with
    | none => .error .invalidResourceId
    | some config =>
      match checkSlotAccess config clientId with
      | .error e => .error e
      | .ok _ => .ok { index := index }

def resolveAppResource (resource : String) (clientId : ClientId) : Expected SlotHandle :=
  match slots.appResourceMap (getUidFromClientId clientId) resource with
  | none => .error .invalidResourceId
  | some slotName => slots.resolveSlot slotName clientId

end SlotRegistry

/-! ### Keys loaded from a slot -/

inductive SlotMaterial where
  | secret
  | keyPair
  | publicKey
  deriving DecidableEq, Repr

/-- The handle of the key that the slot handlers load: each half of the key that is there gets
the operations the slot allows. -/
def loadedHandle (providerId : ProviderId) (slot : KeySlotConfig) (algorithm : AlgorithmDescriptor) :
    SlotMaterial → ProviderKeyHandle
  | .secret =>
    { providerId := providerId, permissions := slot.allowedOperations, algorithm := algorithm }
  | .keyPair =>
    { providerId := providerId
      isAsymmetric := true
      permissions := slot.allowedOperations
      publicKeyPermissions := some slot.allowedOperations
      algorithm := algorithm
      materialKind := .privateKey }
  | .publicKey =>
    { providerId := providerId
      isAsymmetric := true
      permissions := Permission.none
      publicKeyPermissions := some slot.allowedOperations
      algorithm := algorithm
      materialKind := .publicKey }

end ScoreCrypto.KeyManagement
