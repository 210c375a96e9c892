import ScoreCrypto.DataManager.Model
import ScoreCrypto.KeyManagement.Registry
import ScoreCrypto.Lib.Program

/-!
The state the daemon's components share and the atomic actions on it: one call of the
DataManager, of a provider's KeyRegistry or of a KeyEntry is one action.
-/

namespace ScoreCrypto.Daemon

open DataManager KeyManagement

abbrev HandlerRef := Nat

/-- A `KeyDataNode`: one reference to a key, with the registry it unregisters the key from. -/
structure KeyDataNode where
  keyEntry : EntryRef
  registryId : KeyRegistryId
  clientId : ClientId
  providerId : ProviderId
  deriving DecidableEq, Repr

structure ShmRegion where
  name : String
  size : Nat
  transportType : UInt8 := 0
  mapped : Bool := true
  deriving DecidableEq, Repr

inductive Node where
  | generic
  | context (handler : HandlerRef)
  | keySlot (slotHandle : SlotHandle)
  | keyData (node : KeyDataNode)
  | shm (region : ShmRegion)
  | certSlot (slotHandle : Nat)
  | trustStore (handle : Nat)
  | certData (registryId : Nat)
  deriving DecidableEq, Repr

def Node.exclusiveAccess : Node → Bool
  | .generic => true
  | .context _ => true
  | _ => false

def Node.keyData? : Node → Option KeyDataNode
  | .keyData node => some node
  | _ => none

structure InitializationParams where
  clientId : ClientId
  contextNodeId : DataNodeId
  providerId : ProviderId
  keyNodeId : DataNodeId
  boundKeyHandler : Option EntryRef
  deriving DecidableEq, Repr

structure Handler where
  contextType : String
  params : Option InitializationParams := none
  deriving DecidableEq, Repr

structure State where
  data : DataManager.State Node
  entries : EntryRef → Option KeyEntry
  nextEntry : EntryRef
  registries : ProviderId → KeyRegistry
  handlers : HandlerRef → Option Handler
  nextHandler : HandlerRef
  slotNodeCache : ClientId → String → Option DataNodeId
  certSlotCache : ClientId → Nat → Option DataNodeId
  trustStoreCache : ClientId → Nat → Option DataNodeId
  /-- Key nodes that a running call holds outside the manager: constructed and not yet added, or
  removed and about to be destroyed. -/
  outside : List KeyDataNode
  /-- Keys whose last reference a destructor has seen go. -/
  retired : List (ProviderId × KeyRegistryId)

def init : State where
  data := DataManager.init
  entries := fun _ => none
  nextEntry := 0
  registries := fun _ => {}
  handlers := fun _ => none
  nextHandler := 0
  slotNodeCache := fun _ _ => none
  certSlotCache := fun _ _ => none
  trustStoreCache := fun _ _ => none
  outside := []
  retired := []

inductive Action where
  | addNode (clientId : ClientId) (node : Node)
  | addChildNode (clientId : ClientId) (parentId : DataNodeId) (node : Node)
  | deleteNode (clientId : ClientId) (nodeId : DataNodeId)
  | deleteClientNodes (clientId : ClientId)
  | getNodeAccessor (clientId : ClientId) (nodeId : DataNodeId)
  | destroyAccessor (accessor : Accessor)
  | makeKeyEntry (handle : ProviderKeyHandle) (providerId : ProviderId) (slotHandle : SlotHandle)
  | getKeyEntry (key : EntryRef)
  | constructKeyDataNode (node : KeyDataNode)
  | releaseKeyDataNode (node : KeyDataNode)
  | registerSlotKey (providerId : ProviderId) (slotHandle : SlotHandle) (key : EntryRef)
  | registerEphemeralKey (providerId : ProviderId) (key : EntryRef)
  | findBySlot (providerId : ProviderId) (slotHandle : SlotHandle)
  | findSlotRegistryId (providerId : ProviderId) (slotHandle : SlotHandle)
  | findById (providerId : ProviderId) (id : KeyRegistryId)
  | unregister (providerId : ProviderId) (id : KeyRegistryId)
  | cleanupClient (providerId : ProviderId) (clientId : ClientId)
  | makeHandler (contextType : String)
  | getHandler (handler : HandlerRef)
  | initializeContext (handler : HandlerRef) (params : InitializationParams)
  | findSlotNode (clientId : ClientId) (resourceName : String)
  | cacheSlotNode (clientId : ClientId) (resourceName : String) (nodeId : DataNodeId)
  | findCertSlotNode (clientId : ClientId) (index : Nat)
  | cacheCertSlotNode (clientId : ClientId) (index : Nat) (nodeId : DataNodeId)
  | findTrustStoreNode (clientId : ClientId) (index : Nat)
  | cacheTrustStoreNode (clientId : ClientId) (index : Nat) (nodeId : DataNodeId)

@[reducible] def Action.Res : Action → Type
  | .addNode _ _ => Expected DataNodeId
  | .addChildNode _ _ _ => Expected DataNodeId
  | .deleteNode _ _ => Expected Unit × List KeyDataNode
  | .deleteClientNodes _ => Expected Unit × List KeyDataNode
  | .getNodeAccessor _ _ => Expected (Accessor × Node)
  | .destroyAccessor _ => List KeyDataNode
  | .makeKeyEntry _ _ _ => EntryRef
  | .getKeyEntry _ => Option KeyEntry
  | .constructKeyDataNode _ => Unit
  | .releaseKeyDataNode _ => Bool
  | .registerSlotKey _ _ _ => KeyRegistryId
  | .registerEphemeralKey _ _ => KeyRegistryId
  | .findBySlot _ _ => Option EntryRef
  | .findSlotRegistryId _ _ => KeyRegistryId
  | .findById _ _ => Option EntryRef
  | .unregister _ _ => Bool
  | .cleanupClient _ _ => Unit
  | .makeHandler _ => HandlerRef
  | .getHandler _ => Option Handler
  | .initializeContext _ _ => Unit
  | .findSlotNode _ _ => Option DataNodeId
  | .cacheSlotNode _ _ _ => Unit
  | .findCertSlotNode _ _ => Option DataNodeId
  | .cacheCertSlotNode _ _ _ => Unit
  | .findTrustStoreNode _ _ => Option DataNodeId
  | .cacheTrustStoreNode _ _ _ => Unit

namespace State

variable (d : State)

/-- The object that a call hands to the manager; a key node it does not hold is a null pointer. -/
def object? (node : Node) : Option (NewNode Node) :=
  match node with
  | .keyData key => if key ∈ d.outside then some ⟨false, .keyData key⟩ else none
  | node => some ⟨node.exclusiveAccess, node⟩

def handOver (node : Node) : List KeyDataNode :=
  match node with
  | .keyData key => d.outside.erase key
  | _ => d.outside

def added (node : Node) (result : Expected DataNodeId × DataManager.State Node) :
    Expected DataNodeId × State :=
  (result.1, { d with
    data := result.2
    outside := match result.1 with
      | .ok _ => d.handOver node
      | .error _ => d.outside })

def keyNodes (nodes : List (DataNode Node)) : List KeyDataNode :=
  nodes.filterMap fun node => node.payload.keyData?

def removed (nodes : List (DataNode Node)) (data : DataManager.State Node) : State :=
  { d with data := data, outside := keyNodes nodes ++ d.outside }

def setRegistry (providerId : ProviderId) (registry : KeyRegistry) : State :=
  { d with registries := Function.update d.registries providerId registry }

def setEntry (key : EntryRef) (entry : KeyEntry) : State :=
  { d with entries := Function.update d.entries key (some entry) }

/-- Calls of `AddRef` and the constructor's end: from now on the node is a reference to the key. -/
def construct (node : KeyDataNode) : State :=
  match d.entries node.keyEntry with
  | none => d
  | some entry =>
    { d.setEntry node.keyEntry (entry.addRef node.clientId) with outside := node :: d.outside }

def release (node : KeyDataNode) : Bool × State :=
  match d.entries node.keyEntry with
  | none => (false, d)
  | some entry =>
    if node ∈ d.outside then
      let (last, entry) := entry.release node.clientId
      (last, { d.setEntry node.keyEntry entry with
        outside := d.outside.erase node
        retired := if last then (node.providerId, node.registryId) :: d.retired else d.retired })
    else (false, d)

def getNodeAccessor (clientId : ClientId) (nodeId : DataNodeId) :
    Expected (Accessor × Node) × State :=
  match DataManager.getNodeAccessor d.data clientId nodeId with
  | (.error e, data) => (.error e, { d with data := data })
  | (.ok accessor, data) =>
    (match data.objects accessor.node with
      | some object => .ok (accessor, object.payload)
      | none => .error .invalidArgument, { d with data := data })

end State

def handle : (act : Action) → State → act.Res × State
  | .addNode c node, d => d.added node (DataManager.addNode d.data c (d.object? node))
  | .addChildNode c parentId node, d =>
    d.added node (DataManager.addChildNode d.data c parentId (d.object? node))
  | .deleteNode c id, d =>
    let removal := DataManager.deleteNode d.data c id
    ((removal.result, State.keyNodes removal.destroyed), d.removed removal.destroyed removal.state)
  | .deleteClientNodes c, d =>
    let removal := DataManager.deleteClientNodes d.data c
    ((removal.result, State.keyNodes removal.destroyed), d.removed removal.destroyed removal.state)
  | .getNodeAccessor c id, d => d.getNodeAccessor c id
  | .destroyAccessor accessor, d =>
    let (destroyed, data) := DataManager.destroyAccessor d.data accessor
    (State.keyNodes destroyed, d.removed destroyed data)
  | .makeKeyEntry handle providerId slotHandle, d =>
    (d.nextEntry,
      { d.setEntry d.nextEntry
          { handle := handle, providerId := providerId, slotHandle := slotHandle } with
        nextEntry := d.nextEntry + 1 })
  | .getKeyEntry key, d => (d.entries key, d)
  | .constructKeyDataNode node, d => ((), d.construct node)
  | .releaseKeyDataNode node, d => d.release node
  | .registerSlotKey p slot key, d =>
    let (id, registry) := (d.registries p).registerSlotKey slot key
    (id, d.setRegistry p registry)
  | .registerEphemeralKey p key, d =>
    let (id, registry) := (d.registries p).registerEphemeralKey key
    (id, d.setRegistry p registry)
  | .findBySlot p slot, d => ((d.registries p).findBySlot slot, d)
  | .findSlotRegistryId p slot, d => ((d.registries p).findSlotRegistryId slot, d)
  | .findById p id, d => ((d.registries p).findById id, d)
  | .unregister p id, d =>
    let (found, registry) := (d.registries p).unregister id
    (found, d.setRegistry p registry)
  | .cleanupClient p c, d =>
    let (entries, registry) := (d.registries p).cleanupClient d.entries c
    ((), { d.setRegistry p registry with entries := entries })
  | .makeHandler contextType, d =>
    (d.nextHandler, { d with
      handlers := Function.update d.handlers d.nextHandler (some { contextType := contextType })
      nextHandler := d.nextHandler + 1 })
  | .getHandler handler, d => (d.handlers handler, d)
  | .initializeContext handler params, d =>
    ((), { d with
      handlers := Function.update d.handlers handler
        ((d.handlers handler).map fun h => { h with params := some params }) })
  | .findSlotNode c name, d => (d.slotNodeCache c name, d)
  | .cacheSlotNode c name id, d =>
    ((), { d with
      slotNodeCache := Function.update d.slotNodeCache c
        (Function.update (d.slotNodeCache c) name (some id)) })
  | .findCertSlotNode c index, d => (d.certSlotCache c index, d)
  | .cacheCertSlotNode c index id, d =>
    ((), { d with
      certSlotCache := Function.update d.certSlotCache c
        (Function.update (d.certSlotCache c) index (some id)) })
  | .findTrustStoreNode c index, d => (d.trustStoreCache c index, d)
  | .cacheTrustStoreNode c index id, d =>
    ((), { d with
      trustStoreCache := Function.update d.trustStoreCache c
        (Function.update (d.trustStoreCache c) index (some id)) })

end ScoreCrypto.Daemon
