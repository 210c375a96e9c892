import ScoreCrypto.Daemon.Calls
import ScoreCrypto.Daemon.Config

/-! The KeyManagementService: key material in the registries and references to it in the manager. -/

namespace ScoreCrypto.KeyManagement

open DataManager Daemon

structure KeyRegistrationParams where
  clientId : ClientId
  parentId : DataNodeId
  providerId : ProviderId
  slotHandle : SlotHandle := {}

def createKeyDataNode (clientId : ClientId) (parentId : DataNodeId) (key : EntryRef)
    (registryId : KeyRegistryId) (providerId : ProviderId) :
    Prog (Expected (DataNodeId × EntryRef)) := do
  let node : KeyDataNode :=
    { keyEntry := key, registryId := registryId, clientId := clientId, providerId := providerId }
  constructKeyDataNode node
  match ← addChildNode clientId parentId (.keyData node) with
  | .error _ => do
    -- `ref_node` goes out of scope with the only reference to the node
    destroyKeyDataNode node
    pure (.error .internalError)
  | .ok nodeId => pure (.ok (nodeId, key))

def shareKey (params : KeyRegistrationParams) (key : EntryRef) :
    Prog (Expected (DataNodeId × EntryRef)) := do
  let id ← findSlotRegistryId params.providerId params.slotHandle
  createKeyDataNode params.clientId params.parentId key id params.providerId

def registerKeyEntry (params : KeyRegistrationParams) (key : EntryRef) :
    Prog (Expected (DataNodeId × EntryRef)) := do
  if params.slotHandle.isValid then
    let id ← registerSlotKey params.providerId params.slotHandle key
    if id = 0 then
      -- another call registered the slot first: its key replaces the new one
      let id ← findSlotRegistryId params.providerId params.slotHandle
      if id = 0 then
        pure (.error .internalError)
      else
        match ← findById params.providerId id with
        | none => pure (.error .internalError)
        | some key => createKeyDataNode params.clientId params.parentId key id params.providerId
    else
      createKeyDataNode params.clientId params.parentId key id params.providerId
  else
    let id ← registerEphemeralKey params.providerId key
    createKeyDataNode params.clientId params.parentId key id params.providerId

def registerKeyMaterial (params : KeyRegistrationParams) (handler : Option ProviderKeyHandle) :
    Prog (Expected (DataNodeId × EntryRef)) := do
  match handler with
  | none => pure (.error .invalidArgument)
  | some handle => do
    let key ← makeKeyEntry handle params.providerId params.slotHandle
    registerKeyEntry params key

variable (config : Config)

def loadKey (providerId : ProviderId) (slot : KeySlotConfig)
    (found : Expected SlotMaterial) : Expected ProviderKeyHandle :=
  match found with
  | .error e => .error e
  | .ok material =>
    match config.getAlgorithmDescriptor slot.algorithm with
    | none => .error .unsupportedAlgorithm
    | some algorithm => .ok (loadedHandle providerId slot algorithm material)

def loadOrShare (params : KeyRegistrationParams) (slot : KeySlotConfig)
    (found : Expected SlotMaterial) :
    Prog (Expected (DataNodeId × EntryRef)) := do
  match ← findBySlot params.providerId params.slotHandle with
  | some key => shareKey params key
  | none =>
    match loadKey config params.providerId slot found with
    | .error e => do
      -- the load may have failed because another call was loading the slot
      match ← findBySlot params.providerId params.slotHandle with
      | some key => shareKey params key
      | none => pure (.error e)
    | .ok handle => registerKeyMaterial params (some handle)

variable (clientId : ClientId)

def releaseKeyMaterial (nodeId : DataNodeId) : Prog (Expected Unit) := do
  match ← deleteNode clientId nodeId with
  | .error _ => pure (.error .invalidResourceId)
  | .ok _ => pure (.ok ())

def acquireKeyForOperation (keyNodeId : DataNodeId) (providerId : ProviderId)
    (permission : KeyOperationPermission) (exportFormat : Option FormatType) :
    Prog (Expected ProviderKeyHandle) :=
  if providerId = invalidProviderId then
    pure (.error .invalidArgument)
  else
    withAccessor clientId keyNodeId (fun _ => .error .invalidResourceId) fun node =>
      match node with
      | .keyData keyNode => do
        match ← getKeyEntry keyNode.keyEntry with
        | none => pure (.error .invalidResourceId)
        | some entry =>
          if entry.providerId ≠ providerId ∨ entry.handle.providerId ≠ providerId then
            pure (.error .invalidArgument)
          else if hasPermission (grantedPermissionsFor entry.handle permission exportFormat)
              permission then
            pure (.ok entry.handle)
          else
            pure (.error .keyOperationNotPermitted)
      | _ => pure (.error .invalidResourceId)

def resolveKeySlot (resourceName : String) (clientId : ClientId) : Prog (Expected DataNodeId) := do
  match ← findSlotNode clientId resourceName with
  | some nodeId => pure (.ok nodeId)
  | none =>
    match config.slots.resolveAppResource resourceName clientId with
    | .error _ => pure (.error .invalidResourceId)
    | .ok slotHandle => do
      match ← addNode clientId (.keySlot slotHandle) with
      | .error _ => pure (.error .internalError)
      | .ok nodeId => do
        cacheSlotNode clientId resourceName nodeId
        pure (.ok nodeId)

def resolveSlotForOperation (slotNodeId : DataNodeId) :
    Prog (Expected (KeySlotConfig × SlotHandle)) :=
  withAccessor clientId slotNodeId (fun _ => .error .invalidResourceId) fun node =>
    match node with
    | .keySlot slotHandle =>
      match config.slots.getConfig slotHandle with
      | .error _ => pure (.error .invalidResourceId)
      | .ok slot => pure (.ok (slot, slotHandle))
    | _ => pure (.error .invalidResourceId)

/-- The handle that a key is authorized by: of a slot its permissions, of a loaded key its own
handle. -/
def peekKeyHandle (keyNodeId : DataNodeId) : Prog (Expected ProviderKeyHandle) :=
  withAccessor clientId keyNodeId (fun _ => .error .invalidArgument) fun node =>
    match node with
    | .keySlot slotHandle =>
      match config.slots.getConfig slotHandle with
      | .error _ => pure (.error .invalidArgument)
      | .ok slot =>
        match config.getAlgorithmDescriptor slot.algorithm with
        | none => pure (.error .unsupportedAlgorithm)
        | some algorithm =>
          pure (.ok
            { providerId := slot.getPrimaryProviderId
              permissions := slot.allowedOperations
              algorithm := algorithm })
    | .keyData keyNode => do
      match ← getKeyEntry keyNode.keyEntry with
      | none => pure (.error .invalidArgument)
      | some entry => pure (.ok entry.handle)
    | _ => pure (.error .invalidArgument)

def bindKeyToContext (contextNodeId keyNodeId : DataNodeId)
    (targetProviderId : ProviderId) (found : Expected SlotMaterial) :
    Prog (Expected (DataNodeId × EntryRef)) :=
  withAccessor clientId keyNodeId (fun _ => .error .invalidArgument) fun node =>
    match node with
    | .keySlot slotHandle =>
      match config.slots.getConfig slotHandle with
      | .error _ => pure (.error .invalidArgument)
      | .ok slot =>
        match config.slots.getPrimaryProviderId slotHandle with
        | .error _ => pure (.error .invalidArgument)
        | .ok slotProviderId =>
          if targetProviderId ≠ invalidProviderId ∧ slotProviderId ≠ targetProviderId then
            pure (.error .unsupportedOperation)
          else if config.hasProvider slotProviderId = false then
            pure (.error .invalidArgument)
          else if config.hasKeySlotHandler slotProviderId slot = false then
            pure (.error .unsupportedOperation)
          else
            loadOrShare config
              { clientId := clientId
                parentId := contextNodeId
                providerId := slotProviderId
                slotHandle := slotHandle } slot found
    | .keyData keyNode => do
      match ← getKeyEntry keyNode.keyEntry with
      | none => pure (.error .invalidArgument)
      | some entry =>
        if targetProviderId ≠ invalidProviderId ∧ entry.providerId ≠ targetProviderId then
          pure (.error .unsupportedOperation)
        else
          createKeyDataNode clientId contextNodeId keyNode.keyEntry keyNode.registryId
            entry.providerId
    | _ => pure (.error .invalidArgument)

def resolveTargetProvider (requestedType : CryptoProviderType) (keyNodeId : DataNodeId) :
    Prog (Expected ProviderId) :=
  withAccessor clientId keyNodeId (fun _ => .error .invalidArgument) fun node =>
    match node with
    | .keySlot slotHandle =>
      match config.slots.getConfig slotHandle with
      | .error _ => pure (.error .invalidArgument)
      | .ok slot =>
        if slot.providerIds = [] then
          pure (.error .invalidArgument)
        else if requestedType = .default then
          pure (.ok slot.getPrimaryProviderId)
        else
          match slot.providerIds.find? (config.isProviderCompatibleWithType · requestedType) with
          | some providerId => pure (.ok providerId)
          | none => pure (.error .incompatibleKeyType)
    | .keyData keyNode => do
      match ← getKeyEntry keyNode.keyEntry with
      | none => pure (.error .invalidArgument)
      | some entry =>
        if requestedType = .default then
          pure (.ok entry.providerId)
        else if config.isProviderCompatibleWithType entry.providerId requestedType then
          pure (.ok entry.providerId)
        else
          pure (.error .incompatibleKeyType)
    | _ => pure (.error .invalidArgument)

/-- A call by any client that makes or drops references to keys or the nodes they hang below,
together with what the provider answers to it. -/
inductive KeyCall where
  | registerKeyMaterial (params : KeyRegistrationParams) (handler : Option ProviderKeyHandle)
  | loadOrShare (params : KeyRegistrationParams) (slot : KeySlotConfig)
      (found : Expected SlotMaterial)
  | bindKeyToContext (clientId : ClientId) (contextNodeId keyNodeId : DataNodeId)
      (targetProviderId : ProviderId) (found : Expected SlotMaterial)
  | addNode (clientId : ClientId) (node : Node)
  | addChildNode (clientId : ClientId) (parentId : DataNodeId) (node : Node)
  | deleteNode (clientId : ClientId) (nodeId : DataNodeId)
  | deleteClientNodes (clientId : ClientId)
  | getNodeAccessor (clientId : ClientId) (nodeId : DataNodeId)
  | destroyAccessor (accessor : Accessor)

def KeyCall.program : KeyCall → Prog Unit
  | .registerKeyMaterial params handler => do
    let _ ← KeyManagement.registerKeyMaterial params handler
  | .loadOrShare params slot found => do
    let _ ← KeyManagement.loadOrShare config params slot found
  | .bindKeyToContext c contextNodeId keyNodeId target found => do
    let _ ← KeyManagement.bindKeyToContext config c contextNodeId keyNodeId target found
  | .addNode c node => do
    -- key nodes are made by the calls above only
    if node.keyData? = none then
      let _ ← Daemon.addNode c node
  | .addChildNode c parentId node => do
    if node.keyData? = none then
      let _ ← Daemon.addChildNode c parentId node
  | .deleteNode c id => do
    let _ ← Daemon.deleteNode c id
  | .deleteClientNodes c => do
    let _ ← Daemon.deleteClientNodes c
  | .getNodeAccessor c id => do
    let _ ← Daemon.getNodeAccessor c id
  | .destroyAccessor accessor => Daemon.destroyAccessor accessor

end ScoreCrypto.KeyManagement
