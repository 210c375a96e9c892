import ScoreCrypto.Daemon.State

/-! The calls that the daemon's programs are made of, and the destructors that end them. -/

namespace ScoreCrypto.Daemon

open DataManager KeyManagement Program

abbrev Prog := Program Action Action.Res

abbrev exec {α : Type} (p : Prog α) (d : State) : α × State :=
  Program.exec handle p d

variable (clientId : ClientId)

abbrev addNode (node : Node) : Prog (Expected DataNodeId) :=
  perform (Action.addNode clientId node)

abbrev addChildNode (parentId : DataNodeId) (node : Node) : Prog (Expected DataNodeId) :=
  perform (Action.addChildNode clientId parentId node)

abbrev getNodeAccessor (nodeId : DataNodeId) : Prog (Expected (Accessor × Node)) :=
  perform (Action.getNodeAccessor clientId nodeId)

abbrev makeKeyEntry (handle : ProviderKeyHandle) (providerId : ProviderId) (slotHandle : SlotHandle) :
    Prog EntryRef :=
  perform (Action.makeKeyEntry handle providerId slotHandle)

abbrev getKeyEntry (key : EntryRef) : Prog (Option KeyEntry) :=
  perform (Action.getKeyEntry key)

abbrev constructKeyDataNode (node : KeyDataNode) : Prog Unit :=
  perform (Action.constructKeyDataNode node)

abbrev releaseKeyDataNode (node : KeyDataNode) : Prog Bool :=
  perform (Action.releaseKeyDataNode node)

variable (providerId : ProviderId)

abbrev registerSlotKey (slotHandle : SlotHandle) (key : EntryRef) : Prog KeyRegistryId :=
  perform (Action.registerSlotKey providerId slotHandle key)

abbrev registerEphemeralKey (key : EntryRef) : Prog KeyRegistryId :=
  perform (Action.registerEphemeralKey providerId key)

abbrev findBySlot (slotHandle : SlotHandle) : Prog (Option EntryRef) :=
  perform (Action.findBySlot providerId slotHandle)

abbrev findSlotRegistryId (slotHandle : SlotHandle) : Prog KeyRegistryId :=
  perform (Action.findSlotRegistryId providerId slotHandle)

abbrev findById (id : KeyRegistryId) : Prog (Option EntryRef) :=
  perform (Action.findById providerId id)

abbrev unregister (id : KeyRegistryId) : Prog Bool :=
  perform (Action.unregister providerId id)

abbrev cleanupClient (clientId : ClientId) : Prog Unit :=
  perform (Action.cleanupClient providerId clientId)

abbrev makeHandler (contextType : String) : Prog HandlerRef :=
  perform (Action.makeHandler contextType)

abbrev getHandler (handler : HandlerRef) : Prog (Option Handler) :=
  perform (Action.getHandler handler)

abbrev initializeContext (handler : HandlerRef) (params : InitializationParams) : Prog Unit :=
  perform (Action.initializeContext handler params)

abbrev findSlotNode (resourceName : String) : Prog (Option DataNodeId) :=
  perform (Action.findSlotNode clientId resourceName)

abbrev cacheSlotNode (resourceName : String) (nodeId : DataNodeId) : Prog Unit :=
  perform (Action.cacheSlotNode clientId resourceName nodeId)

abbrev findCertSlotNode (index : Nat) : Prog (Option DataNodeId) :=
  perform (Action.findCertSlotNode clientId index)

abbrev cacheCertSlotNode (index : Nat) (nodeId : DataNodeId) : Prog Unit :=
  perform (Action.cacheCertSlotNode clientId index nodeId)

abbrev findTrustStoreNode (index : Nat) : Prog (Option DataNodeId) :=
  perform (Action.findTrustStoreNode clientId index)

abbrev cacheTrustStoreNode (index : Nat) (nodeId : DataNodeId) : Prog Unit :=
  perform (Action.cacheTrustStoreNode clientId index nodeId)

/-! ### Destructors -/

/-- `~KeyDataNode`: the last reference takes the key out of its registry. -/
def destroyKeyDataNode (node : KeyDataNode) : Prog Unit := do
  let last ← releaseKeyDataNode node
  if last then
    let _ ← unregister node.providerId node.registryId
    pure ()
  else
    pure ()

def destroyKeyDataNodes : List KeyDataNode → Prog Unit
  | [] => pure ()
  | node :: nodes => do
    destroyKeyDataNode node
    destroyKeyDataNodes nodes

/-- The destructors run before the call returns, while it holds the manager's mutex. -/
def deleteNode (nodeId : DataNodeId) : Prog (Expected Unit) := do
  let removal ← perform (Action.deleteNode clientId nodeId)
  destroyKeyDataNodes removal.2
  pure removal.1

def deleteClientNodes : Prog (Expected Unit) := do
  let removal ← perform (Action.deleteClientNodes clientId)
  destroyKeyDataNodes removal.2
  pure removal.1

def destroyAccessor (accessor : Accessor) : Prog Unit := do
  let destroyed ← perform (Action.destroyAccessor accessor)
  destroyKeyDataNodes destroyed

def withAccessor {α : Type} (nodeId : DataNodeId)
    (missing : DaemonErrorCode → α) (body : Node → Prog α) : Prog α := do
  match ← getNodeAccessor clientId nodeId with
  | .error e => pure (missing e)
  | .ok (accessor, node) => do
    let result ← body node
    destroyAccessor accessor
    pure result

end ScoreCrypto.Daemon
