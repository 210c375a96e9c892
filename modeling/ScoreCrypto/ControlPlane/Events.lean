import ScoreCrypto.CertManagement.Service
import ScoreCrypto.ControlPlane.ConnectionHandler
import ScoreCrypto.Mediator.Creation

/-!
The daemon as a machine that takes one operation after the other. A request is a sequence of such
events, and so are the calls that a certificate management context makes for its operations.
-/

namespace ScoreCrypto.ControlPlane

open DataManager Daemon KeyManagement Provider Mediator DataPlane CertManagement Program Run Table

inductive Event where
  | control (clientId : ClientId) (dataNodeId : DataNodeId) (operation : SingleOperationRequest)
  | resolveShm (clientId : ClientId) (parameter : RequestParameter)
  | mediated (clientId : ClientId) (dataNodeId : DataNodeId) (operation : SingleOperationRequest)
      (answers : Answers)
  | resolveCertSlot (clientId : ClientId) (slotHandle : Nat)
  | resolveTrustStore (clientId : ClientId) (store : Expected Nat)
  | registerCertificate (clientId : ClientId) (parentId : DataNodeId) (registryId : Nat)
  | releaseCertificate (clientId : ClientId) (nodeId : DataNodeId)

def Event.program (config : Config) : Event → Prog Unit
  | .control c id operation => do
    let _ ← processSingleRequest c id operation
  | .resolveShm c parameter => do
    let _ ← resolveParameter c parameter
  | .mediated c id operation answers => do
    let _ ← handleSingleOperation config answers c id operation
  | .resolveCertSlot c slotHandle => do
    let _ ← resolveCertSlotHandle config slotHandle c
  | .resolveTrustStore c store => do
    let _ ← resolveTrustStoreNode store c
  | .registerCertificate c parentId registryId => do
    let _ ← CertManagement.registerCertificate c parentId registryId
  | .releaseCertificate c nodeId => do
    let _ ← CertManagement.releaseCertificate c nodeId

def Event.client : Event → ClientId
  | .control c _ _ | .resolveShm c _ | .mediated c _ _ _ | .resolveCertSlot c _
  | .resolveTrustStore c _ | .registerCertificate c _ _ | .releaseCertificate c _ => c

def eventStep (config : Config) (d : Daemon.State) (event : Event) : Daemon.State :=
  (exec (event.program config) d).2

/-! ### A request is a sequence of events -/

section Traced

variable (config : Config) (answers : Nat → Answers) (clientId : ClientId) (dataNodeId : DataNodeId)

/-- What the program does to the daemon, a sequence of events for the client does too. -/
def Traced {α : Type} (p : Prog α) : Prop :=
  ∀ d, ∃ events, (exec p d).2 = run (eventStep config) d events ∧
    Meets (eventStep config) (fun _ event => event.client = clientId) d events

variable {config}

theorem Traced.pure {α : Type} (value : α) : Traced config clientId (pure value : Prog α) :=
  fun _ => ⟨[], rfl, trivial⟩

variable {clientId} in
theorem Traced.bind {α β : Type} {p : Prog α} {f : α → Prog β} (first : Traced config clientId p)
    (rest : ∀ value, Traced config clientId (f value)) : Traced config clientId (p >>= f) := by
  intro d
  rcases first d with ⟨events, before, own⟩
  rcases rest (exec p d).1 (exec p d).2 with ⟨events', after, own'⟩
  refine ⟨events ++ events', ?_, (meets_append ..).mpr ⟨own, before ▸ own'⟩⟩
  simp only [exec_bind]
  rw [run_append, ← before, ← after]

theorem resolveParameter_traced (parameter : RequestParameter) :
    Traced config clientId (resolveParameter clientId parameter) :=
  fun d => ⟨[.resolveShm clientId parameter], by simp [eventStep, Event.program], rfl, trivial⟩

theorem resolveParameters_traced (parameters : List RequestParameter) :
    Traced config clientId (resolveParameters clientId parameters) := by
  induction parameters with
  | nil => exact .pure _ _
  | cons parameter parameters ih =>
    refine .bind (resolveParameter_traced clientId parameter) fun resolved => ?_
    cases resolved with
    | none => exact .pure _ _
    | some resolved =>
      refine .bind ih fun rest => ?_
      cases rest <;> exact .pure _ _

theorem resolveOperations_traced (operations : List Positioned) :
    Traced config clientId (resolveOperations clientId operations) := by
  induction operations with
  | nil => exact .pure _ _
  | cons head operations ih =>
    refine .bind (resolveParameters_traced clientId _) fun resolved => ?_
    cases resolved with
    | none => exact .pure _ _
    | some parameters =>
      refine .bind ih fun rest => ?_
      cases rest <;> exact .pure _ _

theorem mediate_traced (operations : List Positioned) :
    Traced config clientId (mediate config answers clientId dataNodeId operations) := by
  induction operations with
  | nil => exact .pure _ _
  | cons head operations ih =>
    refine .bind (fun d => ⟨[.mediated clientId dataNodeId head.1 (answers head.2)], ?_, rfl, trivial⟩)
      fun handled => ?_
    · simp [eventStep, Event.program]
    · split
      · exact .bind ih fun _ => .pure _ _
      · exact .pure _ _

theorem forwardWithResolvedShm_traced (operations : List Positioned) :
    Traced config clientId
      (forwardWithResolvedShm config answers clientId dataNodeId operations) := by
  refine .bind (resolveOperations_traced clientId operations) fun resolved => ?_
  cases resolved with
  | error failed => exact .pure _ _
  | ok resolved => exact mediate_traced answers clientId dataNodeId resolved

theorem processOperations_traced (batch operations : List Positioned) (served : Served) :
    Traced config clientId
      (processOperations config answers clientId dataNodeId batch operations served) := by
  induction operations generalizing served with
  | nil => exact .pure _ _
  | cons head operations ih =>
    rcases head with ⟨operation, i⟩
    unfold processOperations
    split
    · exact .bind (forwardWithResolvedShm_traced answers clientId dataNodeId batch) fun _ => .pure _ _
    · refine .bind (fun d => ⟨[.control clientId dataNodeId operation], ?_, rfl, trivial⟩)
        fun handled => ?_
      · simp [eventStep, Event.program]
      · simp only
        split
        · exact ih _
        · exact .pure _ _

/-- The state after a request is the state after the events that it consists of. -/
theorem processRequest_traced (request : ControlRequest) :
    Traced config request.clientId (processRequest config answers request) :=
  .bind (processOperations_traced answers _ _ _ _ _) fun _ => .pure _ _

end Traced

/-! ### Deletions -/

def Event.deletes (d : Daemon.State) : Event → Option (ClientId × DataNodeId)
  | .control c id operation =>
    if operation.operationId.operationAction = Operations.connectionClose then some (c, id)
    else none
  | .mediated c id operation _ => deletedNode d c id operation
  | .releaseCertificate c id => some (c, id)
  | _ => none

/-! ### Resolved resources -/

inductive Resource where
  | keySlot (name : String)
  | certSlot (slotHandle : Nat)
  | trustStore (handle : Nat)
  deriving DecidableEq

def Resource.node (config : Config) (c : ClientId) : Resource → Option Node
  | .keySlot name =>
    match config.slots.resolveAppResource name c with
    | .ok slotHandle => some (.keySlot slotHandle)
    | .error _ => none
  | .certSlot slotHandle => some (.certSlot slotHandle)
  | .trustStore handle => some (.trustStore handle)

def cachedNode (d : Daemon.State) (c : ClientId) : Resource → Option DataNodeId
  | .keySlot name => d.slotNodeCache c name
  | .certSlot slotHandle => d.certSlotCache c slotHandle
  | .trustStore handle => d.trustStoreCache c handle

section Resolvers

variable {d d' : Daemon.State} {c : ClientId} {resource : Resource} {id : DataNodeId} {node : Node}

theorem cachedNode_same (caches : SameCaches d d') : cachedNode d' = cachedNode d := by
  funext c resource
  cases resource <;> simp [cachedNode, caches.slotNodeCache, caches.certSlotCache,
    caches.trustStoreCache]

def NotContext (node : Node) : Prop :=
  ∀ handler, node ≠ .context handler

theorem resource_notContext {config : Config} (named : resource.node config c = some node) :
    NotContext node := by
  intro handler isContext
  subst isContext
  cases resource with
  | keySlot name =>
    simp only [Resource.node] at named
    split at named <;> cases named
  | certSlot slotHandle => cases named
  | trustStore handle => cases named

structure NodeCached (d d' : Daemon.State) (c : ClientId) (resource : Resource) (id : DataNodeId)
    (node : Node) : Prop extends Grown (fun c' _ n => c' = c ∧ NotContext n.payload) d d' where
  here : d'.data.placed c id = some ⟨d.data.nextObject, none, node⟩
  cached : ∀ c' other, cachedNode d' c' other =
    if c' = c ∧ other = resource then some id else cachedNode d c' other

def ResolveOutcome (config : Config) (d d' : Daemon.State) (c : ClientId) (resource : Resource) :
    Expected DataNodeId → Prop
  | .error _ => Quiet d d'
  | .ok id => Quiet d d' ∧ cachedNode d c resource = some id ∨
      ∃ node, resource.node config c = some node ∧ NodeCached d d' c resource id node

theorem addAndCache_outcome {config : Config} (linked : Linked d.data [])
    (named : resource.node config c = some node) {cache : DataNodeId → Prog Unit}
    (caches : ∀ id d₁, wp handle (cache id) (fun _ d' => d'.data = d₁.data ∧
      d'.handlers = d₁.handlers ∧ d'.nextHandler = d₁.nextHandler ∧ ∀ c' other,
        cachedNode d' c' other = if c' = c ∧ other = resource then some id
          else cachedNode d₁ c' other) d₁) :
    wp handle (do
      match ← addNode c node with
      | .error _ => pure (.error .internalError)
      | .ok id => do
        cache id
        pure (.ok id)) (fun result d' => ResolveOutcome config d d' c resource result) d := by
  apply wp_bind
  apply wp_perform
  cases added : (handle (.addNode c node) d).1 with
  | error e => exact (addNode_outcome linked _ _).quiet linked added
  | ok id =>
    have new := addNode_added linked added
    have grown : Grown (fun c' _ n => c' = c ∧ NotContext n.payload) d _ :=
      new.toGrown.mono fun _ _ _ same => ⟨same.1, same.2.2 ▸ resource_notContext named⟩
    refine wp_bind (wp_mono (caches id _) ?_)
    rintro _ d' ⟨data, handlers, nextHandler, cached⟩
    refine wp_pure (.inr ⟨node, named, ⟨data ▸ grown.linked, data ▸ grown.stays, data ▸ grown.fresh,
      fun h _ => congrFun handlers h, Nat.le_of_eq nextHandler.symm⟩, data ▸ new.here, ?_⟩)
    exact cached

theorem resolveKeySlot_outcome (config : Config) (name : String) (c : ClientId)
    (linked : Linked d.data []) :
    wp handle (resolveKeySlot config name c)
      (fun result d' => ResolveOutcome config d d' c (.keySlot name) result) d := by
  apply wp_bind
  apply wp_perform
  change wp handle _ _ d
  cases cached : (handle (.findSlotNode c name) d).1 with
  | some id => exact .inl ⟨Quiet.refl linked, cached⟩
  | none =>
    simp only
    split
    · exact Quiet.refl linked
    · next slotHandle resolved =>
      refine addAndCache_outcome linked (by simp [Resource.node, resolved]) fun id d₁ => ?_
      refine wp_perform ⟨rfl, rfl, rfl, fun c' other => ?_⟩
      cases other <;> simp [cachedNode, handle, update_entry]

theorem resolveCertSlotHandle_outcome (config : Config) (slotHandle : Nat) (c : ClientId)
    (linked : Linked d.data []) :
    wp handle (resolveCertSlotHandle config slotHandle c)
      (fun result d' => ResolveOutcome config d d' c (.certSlot slotHandle) result) d := by
  unfold resolveCertSlotHandle
  split
  · exact Quiet.refl linked
  · apply wp_bind
    apply wp_perform
    change wp handle _ _ d
    cases cached : (handle (.findCertSlotNode c slotHandle) d).1 with
    | some id => exact .inl ⟨Quiet.refl linked, cached⟩
    | none =>
      refine addAndCache_outcome linked rfl fun id d₁ => ?_
      refine wp_perform ⟨rfl, rfl, rfl, fun c' other => ?_⟩
      cases other <;> simp [cachedNode, handle, update_entry]

theorem resolveTrustStoreNode_outcome (config : Config) (store : Nat) (c : ClientId)
    (linked : Linked d.data []) :
    wp handle (resolveTrustStoreNode (.ok store) c)
      (fun result d' => ResolveOutcome config d d' c (.trustStore store) result) d := by
  apply wp_bind
  apply wp_perform
  change wp handle _ _ d
  cases cached : (handle (.findTrustStoreNode c store) d).1 with
  | some id => exact .inl ⟨Quiet.refl linked, cached⟩
  | none =>
    refine addAndCache_outcome linked rfl fun id d₁ => ?_
    refine wp_perform ⟨rfl, rfl, rfl, fun c' other => ?_⟩
    cases other <;> simp [cachedNode, handle, update_entry]

end Resolvers

/-! ### What an event can do -/

/-- The client that an event is for, or one that the handler of a context of that client acts for. -/
def Event.ActsFor (d : Daemon.State) (event : Event) (c : ClientId) : Prop :=
  c = event.client ∨ ∃ id handler made, (d.data.placed event.client id).map Placed.payload =
    some (.context handler) ∧ d.handlers handler = some made ∧ c = (keyMgmtContext made).clientId

/-- An event adds nodes other than contexts, deletes the node that it names, creates a context or
adds a node for a resource. -/
def Effect (config : Config) (d d' : Daemon.State) (event : Event) : Prop :=
  Extended (fun c _ n => event.ActsFor d c ∧ NotContext n.payload) d d' ∨
    (∃ c root gone, event.deletes d = some (c, root) ∧ Shrunk d d' c root gone) ∨
    (∃ context, ContextAdded d d' event.client context) ∨
    ∃ resource id node, resource.node config event.client = some node ∧
      NodeCached d d' event.client resource id node

section Effect

variable (config : Config) {d : Daemon.State}

variable {config} in
theorem effect_of_nodes {d' : Daemon.State} {event : Event}
    (effect : AddsOrDeletes (fun c node => event.ActsFor d c ∧ NotContext node) d d'
      (event.deletes d)) : Effect config d d' event :=
  effect.imp_right .inl

variable {config} in
theorem effect_of_adds (linked : Linked d.data []) {event : Event} {α : Type} {p : Prog α}
    (only : Only (Adds fun c node => event.ActsFor d c ∧ NotContext node) p) :
    Effect config d (exec p d).2 event :=
  .inl (exec_extended only linked)

theorem processSingleRequest_effect (linked : Linked d.data []) (c : ClientId) (id : DataNodeId)
    (operation : SingleOperationRequest) :
    Effect config d (exec (processSingleRequest c id operation) d).2
      (.control c id operation) := by
  unfold processSingleRequest
  split
  · refine effect_of_adds linked (.bind (.perform ?_) fun added => ?_)
    · exact ⟨.inl rfl, fun _ => nofun⟩
    · cases added <;> exact .pure _
  split
  · rename_i close
    rcases deleteNode_shrunk linked c id with ⟨gone, shrunk⟩
    refine .inr (.inl ⟨c, id, gone, if_pos close, ?_⟩)
    simpa only [processConnectionClosure, exec_bind, exec_pure] using shrunk
  · exact .inl (Extended.refl linked)

theorem resolveParameter_only (c : ClientId) (parameter : RequestParameter) :
    Only Silent (resolveParameter c parameter) := by
  cases parameter with
  | dataShm region =>
    unfold resolveParameter
    exact withAccessor_only (fun _ silent => silent) fun _ => .pure _
  | _ => exact .pure _

theorem effect_of_resolved (event : Event) {d' : Daemon.State} {resource : Resource}
    {result : Expected DataNodeId}
    (outcome : ResolveOutcome config d d' event.client resource result) : Effect config d d' event := by
  cases result with
  | error e => exact .inl (Quiet.extended outcome)
  | ok id =>
    rcases outcome with ⟨quiet, -⟩ | ⟨node, named, cached⟩
    · exact .inl quiet.extended
    · exact .inr (.inr (.inr ⟨resource, id, node, named, cached⟩))

section

variable (linked : Linked d.data []) (answers : Answers) (c : ClientId) (id : DataNodeId)

include linked answers c id

theorem handleContextCreationOperation_effect (operation : SingleOperationRequest) :
    Effect config d (exec (handleContextCreationOperation config answers c id operation) d).2
      (.mediated c id operation answers) := by
  have outcome := contextCreation_outcome config answers c linked id operation
  have same : (exec (handleContextCreationOperation config answers c id operation) d).2 =
      (exec (contextCreation config answers c id operation) d).2 := by
    simp only [handleContextCreationOperation, exec_bind]
    split <;> rfl
  rw [same]
  unfold wp at outcome
  cases created : (exec (contextCreation config answers c id operation) d).1 with
  | error e =>
    rw [created] at outcome
    exact .inl (Extended.mono outcome fun _ _ _ none => none.elim)
  | ok context =>
    rw [created] at outcome
    exact .inr (.inr (.inl ⟨context, outcome⟩))

theorem handleResourceResolutionOperation_effect (operation : SingleOperationRequest) :
    Effect config d (exec (handleResourceResolutionOperation config c operation) d).2
      (.mediated c id operation answers) := by
  unfold handleResourceResolutionOperation
  split
  · exact .inl (Extended.refl linked)
  · rename_i name _
    simp only
    split
    · simp only [exec_bind]
      have outcome := effect_of_resolved config (.mediated c id operation answers)
        (resolveKeySlot_outcome config name c linked)
      split <;> exact outcome
    · exact .inl (Extended.refl linked)

theorem handleSingleOperation_effect (operation : SingleOperationRequest) :
    Effect config d (exec (handleSingleOperation config answers c id operation) d).2
      (.mediated c id operation answers) := by
  unfold handleSingleOperation
  split
  case isFalse passed =>
    refine effect_of_nodes (forward_effect config answers c id operation linked ?_ passed)
    exact fun handler made here stored _ => ⟨.inr ⟨id, handler, made, here, stored, rfl⟩, fun _ => nofun⟩
  case isTrue mediator =>
    unfold handleMediatorOperation
    simp only
    split
    · exact handleContextCreationOperation_effect config linked answers c id operation
    split
    · rename_i close
      exact effect_of_nodes (deleteNodeAndRespond_effect c id operation linked mediator (.inl close))
    split
    · exact handleResourceResolutionOperation_effect config linked answers c id operation
    split
    · exact effect_of_adds linked (handleShmCreateObject_only config answers c id operation
        fun _ => ⟨.inl rfl, fun _ => nofun⟩)
    split
    · rename_i destroy
      exact effect_of_nodes (deleteNodeAndRespond_effect c id operation linked mediator (.inr destroy))
    · exact .inl (Extended.refl linked)

end

theorem event_effect (linked : Linked d.data []) (event : Event) :
    Effect config d (eventStep config d event) event := by
  cases event with
  | control c id operation =>
    simpa only [eventStep, Event.program, exec_bind, exec_pure] using
      processSingleRequest_effect config linked c id operation
  | resolveShm c parameter =>
    have quiet := exec_quiet (resolveParameter_only c parameter) linked
    exact Or.inl (by simpa only [eventStep, Event.program, exec_bind, exec_pure] using quiet.extended)
  | mediated c id operation answers =>
    simpa only [eventStep, Event.program, exec_bind, exec_pure] using
      handleSingleOperation_effect config linked answers c id operation
  | resolveCertSlot c slotHandle =>
    simpa only [eventStep, Event.program, exec_bind, exec_pure] using
      effect_of_resolved config (.resolveCertSlot c slotHandle)
        (resolveCertSlotHandle_outcome config slotHandle c linked)
  | resolveTrustStore c store =>
    cases store with
    | error e => exact .inl (Extended.refl linked)
    | ok store =>
      simpa only [eventStep, Event.program, exec_bind, exec_pure] using
        effect_of_resolved config (.resolveTrustStore c (.ok store))
          (resolveTrustStoreNode_outcome config store c linked)
  | registerCertificate c parentId registryId =>
    refine effect_of_adds linked (.bind (.ite (.pure _) (.bind (.perform ?_)
      fun added => ?_)) fun _ => .pure _)
    · exact ⟨.inl rfl, fun _ => nofun⟩
    · cases added <;> exact .pure _
  | releaseCertificate c id =>
    rcases deleteNode_shrunk linked c id with ⟨gone, shrunk⟩
    refine .inr (.inl ⟨c, id, gone, rfl, ?_⟩)
    simp only [eventStep, Event.program, CertManagement.releaseCertificate, exec_bind]
    split <;> exact shrunk

end Effect

/-! ### Events to run -/

def openConnection (c : ClientId) : Event :=
  .control c 0 { operationId := ⟨Actor.control, Operations.connectionOpen⟩ }

def closeConnection (c : ClientId) (id : DataNodeId) : Event :=
  .control c id { operationId := ⟨Actor.control, Operations.connectionClose⟩ }

def resolveKey (c : ClientId) : Event :=
  .mediated c 0
    { operationId := ⟨Actor.mediator, Operations.resolveResource⟩, parameters := [.string "key"] } {}

def destroyObject (c : ClientId) (id : UInt64) : Event :=
  .mediated c 0
    { operationId := ⟨Actor.mediator, Operations.shmDestroyObject⟩, parameters := [.uint64 id] } {}

def createMac (c : ClientId) (id : DataNodeId) (keyNodeId : UInt64) (answers : Answers := {}) : Event :=
  .mediated c id
    { operationId := ⟨Actor.mediator, Operations.ctxCreate⟩
      parameters := [.string "MAC", .string "HMAC", .noParam, .uint64 keyNodeId] } answers

end ScoreCrypto.ControlPlane
