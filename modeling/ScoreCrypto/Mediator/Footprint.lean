import ScoreCrypto.Daemon.Extension
import ScoreCrypto.Mediator.Operations

/-!
What the operations of a client can do to the nodes. Apart from deletions, and from a context
that is taken back, they only add nodes.
-/

namespace ScoreCrypto.Mediator

open DataManager Daemon KeyManagement ControlPlane Provider Program

/-! ### Operations of a key management context -/

section KeyOperations

variable {may : ClientId → Node → Prop} (config : Config)

theorem peekKeyHandle_only (c : ClientId) (keyNodeId : DataNodeId) :
    Only Silent (peekKeyHandle config c keyNodeId) := by
  apply withAccessor_only fun _ silent => silent
  intro node
  repeat' first
    | exact .pure _
    | refine .bind (.perform trivial) fun _ => ?_
    | split

theorem resolveTargetProvider_only (c : ClientId) (requested : CryptoProviderType)
    (keyNodeId : DataNodeId) :
    Only Silent (resolveTargetProvider config c requested keyNodeId) := by
  apply withAccessor_only fun _ silent => silent
  intro node
  repeat' first
    | exact .pure _
    | refine .bind (.perform trivial) fun _ => ?_
    | split

theorem resolveSlotForOperation_only (c : ClientId) (slotNodeId : DataNodeId) :
    Only Silent (resolveSlotForOperation config c slotNodeId) := by
  apply withAccessor_only fun _ silent => silent
  intro node
  repeat' first
    | exact .pure _
    | split

theorem acquireKeyForOperation_only (c : ClientId) (keyNodeId : DataNodeId) (p : ProviderId)
    (permission : KeyOperationPermission) (exportFormat : Option FormatType) :
    Only Silent (acquireKeyForOperation c keyNodeId p permission exportFormat) := by
  unfold acquireKeyForOperation
  split
  · exact .pure _
  · apply withAccessor_only fun _ silent => silent
    intro node
    repeat' first
      | exact .pure _
      | refine .bind (.perform trivial) fun _ => ?_
      | split

theorem registerKeyMaterial_only {params : KeyRegistrationParams}
    (keys : ∀ node, may params.clientId (.keyData node)) (handler : Option ProviderKeyHandle) :
    Only (Adds may) (registerKeyMaterial params handler) := by
  simp only [registerKeyMaterial, registerKeyEntry, createKeyDataNode]
  repeat' first
    | exact .pure _
    | exact .perform trivial
    | exact .perform (keys _)
    | exact (destroyKeyDataNode_only _).mono silent_adds
    | refine .bind ?_ fun _ => ?_
    | split

theorem loadOrShare_only {params : KeyRegistrationParams}
    (keys : ∀ node, may params.clientId (.keyData node)) (slot : KeySlotConfig)
    (found : Expected SlotMaterial) :
    Only (Adds may) (loadOrShare config params slot found) := by
  simp only [loadOrShare, shareKey, createKeyDataNode]
  repeat' first
    | exact .pure _
    | exact .perform trivial
    | exact .perform (keys _)
    | exact (destroyKeyDataNode_only _).mono silent_adds
    | exact registerKeyMaterial_only keys ..
    | refine .bind ?_ fun _ => ?_
    | split

variable (answers : Answers) (ctx : KeyMgmtExecutionContext) (request : List RequestParameter)

theorem executeKeyOperation_only (keys : ∀ node, may ctx.clientId (.keyData node)) {action : UInt16}
    (keeps : action ≠ KeyOperation.keyRelease) :
    Only (Adds may) (executeKeyOperation config answers ctx action request) := by
  simp only [executeKeyOperation, if_neg keeps]
  repeat' with_reducible first
    | exact .pure _
    | exact registerKeyMaterial_only keys ..
    | exact loadOrShare_only config keys ..
    | exact (resolveSlotForOperation_only ..).mono silent_adds
    | exact (acquireKeyForOperation_only ..).mono silent_adds
    | refine .bind ?_ fun _ => ?_
    | refine .ite ?_ ?_
    | split
    | unfold handleImport
    | unfold handleExport
    | unfold handleGenerate
    | unfold handleLoad
    | unfold handleSlotInfo
    | unfold handleEncapsulateKey
    | unfold handleDecapsulateKey
    | unfold handleGetEncapsulationCiphertextSize
    | unfold acquireAgreementKey
    | unfold registerSecret
    | unfold registerOutput

theorem executeKeyOperation_release :
    executeKeyOperation config answers ctx KeyOperation.keyRelease request =
      handleRelease ctx request := by
  simp [executeKeyOperation, KeyOperation.keyRelease, KeyOperation.keyLoad, KeyOperation.keySlotInfo,
    KeyOperation.keyGetEncapsulationSize, KeyOperation.keyEncapsulate, KeyOperation.keyDecapsulate,
    KeyOperation.keyImport, KeyOperation.keyGetExportSize, KeyOperation.keyExport,
    KeyOperation.keyGenerate]

end KeyOperations

/-! ### Operations of a client -/

def releasedKey (operation : SingleOperationRequest) (handler : Handler) :
    Option (ClientId × DataNodeId) :=
  if handler.contextType = ContextType.keyManagement ∧
      operation.operationId.operationAction = KeyOperation.keyRelease then
    match extractUint64 operation.parameters 0 with
    | .ok keyNodeId => some ((keyMgmtContext handler).clientId, keyNodeId.toNat)
    | .error _ => none
  else none

def deletedNode (d : Daemon.State) (clientId : ClientId) (dataNodeId : DataNodeId)
    (operation : SingleOperationRequest) : Option (ClientId × DataNodeId) :=
  if operation.operationId.operationActor = Actor.mediator then
    if operation.operationId.operationAction = Operations.ctxClose then some (clientId, dataNodeId)
    else if operation.operationId.operationAction = Operations.shmDestroyObject then
      (operation.getUint64 0).map fun nodeId => (clientId, nodeId.toNat)
    else none
  else
    match (d.data.placed clientId dataNodeId).map Placed.payload with
    | some (.context handler) => (d.handlers handler).bind (releasedKey operation)
    | _ => none

def AddsOrDeletes (may : ClientId → Node → Prop) (d d' : Daemon.State)
    (named : Option (ClientId × DataNodeId)) : Prop :=
  Extended (fun c _ n => may c n.payload) d d' ∨
    ∃ c root gone, named = some (c, root) ∧ Shrunk d d' c root gone

section Operations

variable {may : ClientId → Node → Prop} (config : Config)
  (answers : Answers) (clientId : ClientId) (dataNodeId : DataNodeId)
  (operation : SingleOperationRequest) {d : Daemon.State}

theorem releaseKeyMaterial_shrunk (linked : Linked d.data []) (root : DataNodeId) :
    ∃ gone, Shrunk d (exec (releaseKeyMaterial clientId root) d).2 clientId root gone := by
  rcases deleteNode_shrunk linked clientId root with ⟨gone, shrunk⟩
  simp only [releaseKeyMaterial, exec_bind]
  split <;> exact ⟨gone, shrunk⟩

theorem executeHandler_effect (linked : Linked d.data []) {handler : Handler}
    (keys : ∀ node, may (keyMgmtContext handler).clientId (.keyData node)) :
    AddsOrDeletes may d (exec (executeHandler config answers operation handler) d).2
      (releasedKey operation handler) := by
  unfold executeHandler releasedKey
  by_cases keyManagement : handler.contextType = ContextType.keyManagement
  · rw [if_pos keyManagement]
    by_cases release : operation.operationId.operationAction = KeyOperation.keyRelease
    · rw [if_pos ⟨keyManagement, release⟩, release, executeKeyOperation_release]
      unfold handleRelease
      cases extractUint64 operation.parameters 0 with
      | error e => exact .inl (Extended.refl linked)
      | ok keyNodeId =>
        rcases releaseKeyMaterial_shrunk (keyMgmtContext handler).clientId linked keyNodeId.toNat
          with ⟨gone, shrunk⟩
        refine .inr ⟨_, _, gone, rfl, ?_⟩
        simp only [exec_bind]
        split <;> exact shrunk
    · exact .inl (exec_extended (executeKeyOperation_only config answers _ _ keys release) linked)
  · rw [if_neg keyManagement]
    exact .inl (Extended.refl linked)

/-- An operation that is passed on to a context adds nodes, or releases the key that it names. -/
theorem forward_effect (linked : Linked d.data [])
    (keys : ∀ handler made, (d.data.placed clientId dataNodeId).map Placed.payload =
      some (.context handler) → d.handlers handler = some made →
        ∀ node, may (keyMgmtContext made).clientId (.keyData node))
    (passed : operation.operationId.operationActor ≠ Actor.mediator) :
    AddsOrDeletes may d
      (exec (forwardSingleOperation config answers clientId dataNodeId operation) d).2
      (deletedNode d clientId dataNodeId operation) := by
  rcases withAccessor_cases linked clientId dataNodeId
      (fun _ => Handled.failed operation .invalidArgument) _ with
    ⟨e, -, quiet⟩ | ⟨ref, parent, node, d₁, here, quiet, -, rest⟩
  · exact .inl quiet.extended
  · cases node with
    | context handlerRef =>
      simp only [exec_bind] at rest
      cases found : (exec (getHandler handlerRef) d₁).1 with
      | none =>
        rw [found] at rest
        exact .inl (quiet.trans (rest quiet.linked)).extended
      | some handler =>
        rw [found] at rest
        have known : d.handlers handlerRef = some handler := by
          rw [← quiet.handlers]
          exact found
        have effect := executeHandler_effect config answers operation quiet.linked
          (keys handlerRef handler (by rw [here]; rfl) known)
        simp only [exec_bind] at rest
        have rest' : Linked (exec (executeHandler config answers operation handler)
            d₁).2.data [] → Quiet (exec (executeHandler config answers operation handler) d₁).2
              (exec (forwardSingleOperation config answers clientId dataNodeId operation) d).2 := by
          intro linked'
          split at rest
          · exact rest linked'
          · exact rest linked'
        rcases effect with extended | ⟨c, root, gone, released, shrunk⟩
        · exact .inl
            ((quiet.extended.trans extended).trans (rest' extended.linked).extended)
        · refine .inr ⟨c, root, gone, ?_, (quiet.shrunk shrunk).quiet (rest' shrunk.linked)⟩
          simp [deletedNode, passed, here, known, released]
    | _ => exact .inl (quiet.trans (rest quiet.linked)).extended

theorem deleteNodeAndRespond_effect (linked : Linked d.data [])
    (mediator : operation.operationId.operationActor = Actor.mediator)
    (action : operation.operationId.operationAction = Operations.ctxClose ∨
      operation.operationId.operationAction = Operations.shmDestroyObject) :
    AddsOrDeletes may d (exec (deleteNodeAndRespond clientId dataNodeId operation) d).2
      (deletedNode d clientId dataNodeId operation) := by
  unfold deleteNodeAndRespond deletedNode
  rw [if_pos mediator]
  by_cases close : operation.operationId.operationAction = Operations.ctxClose
  · rw [if_pos close, if_pos close]
    rcases deleteNode_shrunk linked clientId dataNodeId with ⟨gone, shrunk⟩
    exact Or.inr ⟨_, _, gone, rfl, by simpa only [exec_bind, exec_pure] using shrunk⟩
  · rw [if_neg close, if_neg close, if_pos (action.resolve_left close)]
    cases operation.getUint64 0 with
    | none => exact .inl (Extended.refl linked)
    | some nodeId =>
      rcases deleteNode_shrunk linked clientId nodeId.toNat with ⟨gone, shrunk⟩
      exact Or.inr ⟨_, _, gone, rfl, by simpa only [exec_bind, exec_pure] using shrunk⟩

theorem handleShmCreateObject_only (regions : ∀ region, may clientId (.shm region)) :
    Only (Adds may) (handleShmCreateObject config answers clientId dataNodeId operation) := by
  unfold handleShmCreateObject
  split
  · exact .pure _
  · exact .pure _
  split
  · exact .pure _
  · refine .bind (.perform (regions _)) fun added => ?_
    cases added <;> exact .pure _

end Operations

end ScoreCrypto.Mediator
