import ScoreCrypto.Common.Types
import ScoreCrypto.Lib.Table
import Mathlib.Data.List.Basic

/-!
The DataManager: nodes of every client in a forest, handed out by id. A `NodeRef` stands for a
`DataNode` object, a reference held in the maps, the child lists or an accessor for a
`shared_ptr` to it. Every definition below runs under the manager's mutex.
-/

namespace ScoreCrypto.DataManager

open Table

abbrev NodeRef := Nat

def dataNodeValueMax : Nat := 2 ^ 56 - 1
def maxNodesPerClient : Nat := 1000

structure DataNode (α : Type) where
  nodeId : DataNodeId := 0
  clientId : ClientId := 0
  parent : Option NodeRef := none
  children : List NodeRef := []
  exclusiveAccess : Bool := true
  payload : α

structure NewNode (α : Type) where
  exclusiveAccess : Bool
  payload : α

def NewNode.construct {α : Type} (node : NewNode α) : DataNode α :=
  { exclusiveAccess := node.exclusiveAccess, payload := node.payload }

/-- A live `DataNodeAccessor`; `manager` tells whether it captured the manager to release to. -/
structure Accessor where
  node : NodeRef
  manager : Bool
  deriving DecidableEq, Repr

abbrev NodeMap := Finmap fun _ : DataNodeId => NodeRef

structure State (α : Type) where
  objects : NodeRef → Option (DataNode α)
  nextObject : NodeRef
  entryNodesPerClient : ClientId → Option (List DataNodeId)
  nodeMap : ClientId → Option NodeMap
  idCounterPerClient : ClientId → Option DataNodeId
  busyNodes : ClientId → Option (Finset DataNodeId)
  accessors : List Accessor

variable {α : Type}

def init : State α where
  objects := fun _ => none
  nextObject := 0
  entryNodesPerClient := fun _ => none
  nodeMap := fun _ => none
  idCounterPerClient := fun _ => none
  busyNodes := fun _ => none
  accessors := []

namespace State

variable (s : State α)

def find (clientId : ClientId) (nodeId : DataNodeId) : Option NodeRef :=
  (row s.nodeMap clientId).lookup nodeId

def entryNodes (clientId : ClientId) : List DataNodeId :=
  row s.entryNodesPerClient clientId

def busy (clientId : ClientId) : Finset DataNodeId :=
  row s.busyNodes clientId

def children (node : NodeRef) : List NodeRef :=
  ((s.objects node).map DataNode.children).getD []

def parent (node : NodeRef) : Option NodeRef :=
  (s.objects node).bind DataNode.parent

def modify (node : NodeRef) (f : DataNode α → DataNode α) : State α :=
  { s with objects := Function.update s.objects node ((s.objects node).map f) }

end State

/-! ### Node objects -/

variable (s : State α)

def getNodeId (node : NodeRef) : Option DataNodeId :=
  (s.objects node).map DataNode.nodeId

/-- The parent link is a `weak_ptr`: it is empty once the parent object is gone. -/
def getParent (node : NodeRef) : Expected DataNodeId :=
  match (s.parent node).bind (getNodeId s) with
  | none => .error .invalidContext
  | some parentId => .ok parentId

def getChildren (node : NodeRef) : List DataNodeId :=
  (s.children node).filterMap (getNodeId s)

def addChild (parent child : NodeRef) : State α :=
  s.modify parent fun node => { node with children := node.children ++ [child] }

def setParent (node parent : NodeRef) : State α :=
  s.modify node fun node => { node with parent := some parent }

def removeChild (parent : NodeRef) (nodeId : DataNodeId) : Expected Unit × State α :=
  if (s.children parent).any fun child => getNodeId s child = some nodeId then
    (.ok (), s.modify parent fun node =>
      { node with children := node.children.eraseP fun child => getNodeId s child = some nodeId })
  else
    (.error .invalidArgument, s)

/-! ### Lookup and ids -/

variable (clientId : ClientId) (nodeId : DataNodeId)

def getNodeLocked : Expected NodeRef :=
  match s.nodeMap clientId with
  | none => .error .invalidArgument
  | some client =>
    match client.lookup nodeId with
    | none => .error .invalidArgument
    | some node => .ok node

def advanceCounter (counter : DataNodeId) : DataNodeId :=
  if counter + 1 > dataNodeValueMax then 1 else counter + 1

/-- The retry loop: the free id, if one was found, and where the counter stands. -/
def findFreeId (used : NodeMap) : Nat → DataNodeId → Option DataNodeId × DataNodeId
  | 0, counter => (none, counter)
  | retriesLeft + 1, counter =>
    if counter ∈ used then findFreeId used retriesLeft (advanceCounter counter)
    else (some counter, counter)

def setCounter (counter : DataNodeId) : State α :=
  { s with idCounterPerClient := Function.update s.idCounterPerClient clientId (some counter) }

def getNextNodeIdLocked : Expected DataNodeId × State α :=
  let counter := (s.idCounterPerClient clientId).getD 1
  match s.nodeMap clientId with
  | none => (.ok counter, setCounter s clientId counter)
  | some used =>
    match findFreeId used (maxNodesPerClient + 1) counter with
    | (some nodeId, counter) => (.ok nodeId, setCounter s clientId counter)
    | (none, counter) => (.error .quotaExceeded, setCounter s clientId counter)

/-! ### Insertion -/

def emplaceNode (node : NodeRef) : State α :=
  let client := row s.nodeMap clientId
  { s with
    nodeMap := Function.update s.nodeMap clientId
      (some (if nodeId ∈ client then client else client.insert nodeId node)) }

def pushEntryNode : State α :=
  { s with
    entryNodesPerClient := Function.update s.entryNodesPerClient clientId
      (some (row s.entryNodesPerClient clientId ++ [nodeId])) }

def allocate (node : NewNode α) : NodeRef × State α :=
  (s.nextObject,
    { s with
      objects := Function.update s.objects s.nextObject
        (some { node.construct with nodeId := nodeId, clientId := clientId })
      nextObject := s.nextObject + 1 })

def addNode (node : Option (NewNode α)) : Expected DataNodeId × State α :=
  match node with
  | none => (.error .invalidArgument, s)
  | some node =>
    match getNextNodeIdLocked s clientId with
    | (.error e, s) => (.error e, s)
    | (.ok nodeId, s) =>
      let (ref, s) := allocate s clientId nodeId node
      (.ok nodeId, pushEntryNode (emplaceNode s clientId nodeId ref) clientId nodeId)

/-- The part that `addChildNode` and `addSiblingNode` share once the parent is known. -/
def insertBelow (parent : NodeRef) (node : NewNode α) : Expected DataNodeId × State α :=
  match getNextNodeIdLocked s clientId with
  | (.error e, s) => (.error e, s)
  | (.ok nodeId, s) =>
    let (ref, s) := allocate s clientId nodeId node
    (.ok nodeId, emplaceNode (setParent (addChild s parent ref) ref parent) clientId nodeId ref)

def addChildNode (parentId : DataNodeId)
    (node : Option (NewNode α)) : Expected DataNodeId × State α :=
  match node with
  | none => (.error .invalidArgument, s)
  | some node =>
    match getNodeLocked s clientId parentId with
    | .error e => (.error e, s)
    | .ok parent => insertBelow s clientId parent node

def addSiblingNode (siblingId : DataNodeId)
    (node : Option (NewNode α)) : Expected DataNodeId × State α :=
  match node with
  | none => (.error .invalidArgument, s)
  | some node =>
    match getNodeLocked s clientId siblingId with
    | .error e => (.error e, s)
    | .ok sibling =>
      match getParent s sibling with
      | .error e => (.error e, s)
      | .ok parentId =>
        match getNodeLocked s clientId parentId with
        | .error e => (.error e, s)
        | .ok parent => insertBelow s clientId parent node

/-! ### Removal -/

def removeEntryNodeFromIndex : Expected Unit × State α :=
  match s.entryNodesPerClient clientId with
  | none => (.error .invalidArgument, s)
  | some client =>
    if nodeId ∈ client then
      (.ok (), { s with
        entryNodesPerClient := setRow s.entryNodesPerClient clientId (client.erase nodeId) })
    else
      (.error .invalidArgument, s)

/-- Takes the node off its parent's child list or, if it has no parent, off the entry index. -/
def unlinkNode (node : NodeRef) (clientId : ClientId) (nodeId : DataNodeId) :
    Expected Unit × State α :=
  match getParent s node with
  | .ok parentId =>
    match getNodeLocked s clientId parentId with
    | .ok parent => removeChild s parent nodeId
    | .error e => (.error e, s)
  | .error _ => removeEntryNodeFromIndex s clientId nodeId

def eraseBusy : State α :=
  match s.busyNodes clientId with
  | none => s
  | some client => { s with busyNodes := setRow s.busyNodes clientId (client.erase nodeId) }

def removeSingleNodeFromStorage (node : NodeRef) (clientId : ClientId)
    (nodeId : DataNodeId) : Expected Unit × State α :=
  let (result, s) := unlinkNode s node clientId nodeId
  match s.nodeMap clientId with
  | some client =>
    (result, eraseBusy { s with nodeMap := setRow s.nodeMap clientId (client.erase nodeId) }
      clientId nodeId)
  | none =>
    (match result with
      | .ok _ => .error .invalidArgument
      | .error e => .error e, eraseBusy s clientId nodeId)

def keepFirst (result sub : Expected Unit) : Expected Unit :=
  match result with
  | .ok _ => sub
  | .error e => .error e

structure Walk where
  stack : List DataNodeId
  postOrder : List (DataNodeId × NodeRef)
  result : Expected Unit

/-- The traversal loop, for at most `fuel` rounds. The head of `stack` is its top and the head of
`postOrder` the node visited last. -/
def collectNodes (s : State α) (clientId : ClientId) : Nat → Walk → Walk
  | 0, walk => walk
  | fuel + 1, walk =>
    match walk.stack with
    | [] => walk
    | currentId :: stack =>
      match getNodeLocked s clientId currentId with
      | .error e =>
        collectNodes s clientId fuel
          { walk with stack := stack, result := keepFirst walk.result (.error e) }
      | .ok node =>
        collectNodes s clientId fuel
          { walk with
            stack := (getChildren s node).reverse ++ stack
            postOrder := (currentId, node) :: walk.postOrder }

def removeCollected (s : State α) (clientId : ClientId) :
    List (DataNodeId × NodeRef) → Expected Unit →
      Expected Unit × State α
  | [], result => (result, s)
  | (currentId, node) :: rest, result =>
    let (sub, s) := removeSingleNodeFromStorage s node clientId currentId
    removeCollected s clientId rest (keepFirst result sub)

/-- Whether a `shared_ptr` to the object is left: in the map, in the child list of its parent or
in an accessor. -/
def owned (node : NodeRef) : Bool :=
  match s.objects node with
  | none => false
  | some object =>
    s.find object.clientId object.nodeId = some node ||
      (object.parent.any fun parent => node ∈ s.children parent) ||
      s.accessors.any fun accessor => accessor.node = node

def dropRefs : State α → List NodeRef → List (DataNode α) × State α
  | s, [] => ([], s)
  | s, node :: nodes =>
    match s.objects node with
    | none => dropRefs s nodes
    | some object =>
      if owned s node then dropRefs s nodes
      else
        let (destroyed, s) :=
          dropRefs { s with objects := Function.update s.objects node none } nodes
        (object :: destroyed, s)

/-- How many rounds the traversal can need: every registered node once, and the root. -/
def walkFuel : Nat :=
  (row s.nodeMap clientId).keys.card + 1

structure Removal (α : Type) where
  result : Expected Unit
  destroyed : List (DataNode α)
  state : State α

def removeNodesFromStorage (rootNodeId : DataNodeId) : Removal α :=
  let walk := collectNodes s clientId (walkFuel s clientId)
    { stack := [rootNodeId], postOrder := [], result := .ok () }
  let (result, s) := removeCollected s clientId walk.postOrder walk.result
  -- `postOrder` goes out of scope, first visited first
  let (destroyed, s) := dropRefs s (walk.postOrder.reverse.map Prod.snd)
  { result := result, destroyed := destroyed, state := s }

def deleteNode : Removal α :=
  removeNodesFromStorage s clientId nodeId

def removeEntries (clientId : ClientId) : List DataNodeId → Removal α → Removal α
  | [], removal => removal
  | entryNodeId :: rest, removal =>
    let sub := removeNodesFromStorage removal.state clientId entryNodeId
    removeEntries clientId rest
      { result := keepFirst removal.result sub.result
        destroyed := removal.destroyed ++ sub.destroyed
        state := sub.state }

def deleteClientNodes : Removal α :=
  match s.entryNodesPerClient clientId with
  | none => { result := .error .invalidArgument, destroyed := [], state := s }
  | some entries => removeEntries clientId entries { result := .ok (), destroyed := [], state := s }

/-! ### Accessors -/

def getNodeAccessor : Expected Accessor × State α :=
  match getNodeLocked s clientId nodeId with
  | .error e => (.error e, s)
  | .ok node =>
    if ((s.objects node).map DataNode.exclusiveAccess).getD false = false then
      let accessor : Accessor := { node := node, manager := false }
      (.ok accessor, { s with accessors := accessor :: s.accessors })
    else if nodeId ∈ row s.busyNodes clientId then
      (.error .resourceBusy, s)
    else
      let accessor : Accessor := { node := node, manager := true }
      (.ok accessor, { s with
        busyNodes := Function.update s.busyNodes clientId
          (some (insert nodeId (row s.busyNodes clientId)))
        accessors := accessor :: s.accessors })

def releaseNodeAccessor : Expected Unit × State α :=
  match s.busyNodes clientId with
  | none => (.error .invalidArgument, s)
  | some client =>
    if nodeId ∈ client then
      (.ok (), { s with busyNodes := setRow s.busyNodes clientId (client.erase nodeId) })
    else
      (.error .invalidArgument, s)

/-- The accessor's destructor, which only logs a failed release, and the end of its `shared_ptr`. -/
def destroyAccessor (accessor : Accessor) : List (DataNode α) × State α :=
  if accessor ∈ s.accessors then
    let released :=
      match s.objects accessor.node, accessor.manager with
      | some object, true => (releaseNodeAccessor s object.clientId object.nodeId).2
      | _, _ => s
    dropRefs { released with accessors := released.accessors.erase accessor } [accessor.node]
  else
    ([], s)

end ScoreCrypto.DataManager
