import ScoreCrypto.Mediator.ContextCreation

/-!
The mediator's operations and the ones it forwards to the handler of a context. Each yields the
entries it adds to the response and whether the batch goes on.
-/

namespace ScoreCrypto.Mediator

open DataManager Daemon KeyManagement ControlPlane Provider

structure Handled where
  entries : List SingleOperationResponse
  success : Bool
  deriving DecidableEq, Repr

def Handled.ok (operation : SingleOperationRequest) (parameters : List ResponseParameter := []) :
    Handled :=
  ⟨[.success operation.operationId parameters], true⟩

def Handled.failed (operation : SingleOperationRequest) (error : CryptoErrorCode) : Handled :=
  ⟨[.error operation.operationId error], false⟩

variable (config : Config) (answers : Answers) (clientId : ClientId) (dataNodeId : DataNodeId)
  (operation : SingleOperationRequest)

def handleContextCreationOperation : Prog Handled := do
  match ← contextCreation config answers clientId dataNodeId operation with
  | .error e => pure (.failed operation e)
  | .ok context => pure (.ok operation [.uint64 (UInt64.ofNat context.contextNodeId)])

/-- `CTX_CLOSE` names the node by the request, `SHM_DESTROY_OBJECT` by a parameter. A node that is
not there is not an error. -/
def deleteNodeAndRespond : Prog Handled := do
  if operation.operationId.operationAction = Operations.ctxClose then
    let _ ← deleteNode clientId dataNodeId
    pure (.ok operation)
  else
    match operation.getUint64 0 with
    | none => pure (.failed operation .invalidArgument)
    | some nodeId => do
      let _ ← deleteNode clientId nodeId.toNat
      pure (.ok operation)

def resourceTypeKeySlot : UInt8 := 1

def handleResourceResolutionOperation : Prog Handled := do
  match operation.getString 0 with
  | none => pure (.failed operation .invalidArgument)
  | some resourceName =>
    let resourceType := ((operation.getUint64 1).map (·.toUInt8)).getD resourceTypeKeySlot
    if resourceType = resourceTypeKeySlot then
      match ← resolveKeySlot config resourceName clientId with
      | .error _ => pure (.failed operation .internalError)
      | .ok nodeId =>
        pure (.ok operation
          [.uint64 (UInt64.ofNat nodeId), .uint8 resourceTypeKeySlot, .bool true, .uint16 0])
    else pure (.failed operation .unsupportedOperation)

/-- The provider whose factory makes a region that is not part of a pool. -/
def shmProvider : Except CryptoErrorCode (Option ProviderId) :=
  match operation.getUint64 2 with
  | some idHint =>
    if idHint ≠ 0 then
      let providerId := idHint.toUInt16.toNat
      .ok (if config.hasProvider providerId then some providerId else none)
    else byType
  | none => byType
where
  byType : Except CryptoErrorCode (Option ProviderId) :=
    match operation.getUint64 1 with
    | none => .ok (config.getProvider .default)
    | some typeHint =>
      if typeHint = 0xFF then .ok (config.getProvider .default)
      else if 0xFF < typeHint then .error .invalidArgument
      else
        match decodeProviderTypePreference typeHint.toUInt8 with
        | none => .error .invalidArgument
        | some preference =>
          .ok ((config.getProvider preference.primary).or
            (preference.fallback.bind config.getProvider))

/-- Whether there is a factory for the region, and what the response says about the pool. -/
def shmFactory : Except CryptoErrorCode (Bool × List ResponseParameter) :=
  if ((operation.getUint64 3).getD 0) ≠ 0 then
    match config.getShmConfig (getUidFromClientId clientId) with
    | .error e => .error (toCryptoErrorCode e)
    | .ok pool =>
      .ok (pool.hasPoolFactory,
        [.uint64 (UInt64.ofNat pool.poolSlotSize), .uint64 (UInt64.ofNat pool.totalQuota)])
  else
    match operation.getUint64 0 with
    | none => .error .invalidArgument
    | some _ =>
      match shmProvider config operation with
      | .error e => .error e
      | .ok provider => .ok (provider.any config.hasShmFactory, [])

def handleShmCreateObject : Prog Handled := do
  match shmFactory config clientId operation with
  | .error e => pure (.failed operation e)
  | .ok (false, _) => pure (.failed operation .internalError)
  | .ok (true, pool) =>
    match answers.createShm with
    | .error e => pure (.failed operation (toCryptoErrorCode e))
    | .ok region =>
      match ← addChildNode clientId dataNodeId (.shm region) with
      | .error e => pure (.failed operation (toCryptoErrorCode e))
      | .ok nodeId =>
        pure (.ok operation
          ([.uint64 (UInt64.ofNat nodeId), .uint64 (UInt64.ofNat region.size),
            .buffer region.name.utf8ByteSize,
            .uint64 (UInt64.ofNat region.transportType.toNat)] ++ pool))

/-- An action that is not known gets no entry in the response. -/
def handleMediatorOperation : Prog Handled :=
  let action := operation.operationId.operationAction
  if action = Operations.ctxCreate then
    handleContextCreationOperation config answers clientId dataNodeId operation
  else if action = Operations.ctxClose then
    deleteNodeAndRespond clientId dataNodeId operation
  else if action = Operations.resolveResource then
    handleResourceResolutionOperation config clientId operation
  else if action = Operations.shmSetup then
    handleShmCreateObject config answers clientId dataNodeId operation
  else if action = Operations.shmDestroyObject then
    deleteNodeAndRespond clientId dataNodeId operation
  else pure ⟨[], false⟩

def keyMgmtContext (handler : Handler) : KeyMgmtExecutionContext :=
  match handler.params with
  | some params =>
    { providerId := params.providerId
      clientId := params.clientId
      contextNodeId := params.contextNodeId }
  | none => {}

def executeHandler (handler : Handler) : Prog (Expected (List ResponseParameter)) :=
  if handler.contextType = ContextType.keyManagement then
    executeKeyOperation config answers (keyMgmtContext handler)
      operation.operationId.operationAction operation.parameters
  else pure answers.execute

/-- The context's accessor is held until the handler has executed the operation. -/
def forwardSingleOperation : Prog Handled :=
  withAccessor clientId dataNodeId (fun _ => .failed operation .invalidArgument) fun node =>
    match node with
    | .context handlerRef => do
      match ← getHandler handlerRef with
      | none => pure (.failed operation .internalError)
      | some handler =>
        match ← executeHandler config answers operation handler with
        | .error e => pure (.failed operation (toCryptoErrorCode e))
        | .ok values => pure (.ok operation values)
    | _ => pure (.failed operation .invalidArgument)

def handleSingleOperation : Prog Handled :=
  if operation.operationId.operationActor = Actor.mediator then
    handleMediatorOperation config answers clientId dataNodeId operation
  else forwardSingleOperation config answers clientId dataNodeId operation

end ScoreCrypto.Mediator
