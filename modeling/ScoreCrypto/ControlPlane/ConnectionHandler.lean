import ScoreCrypto.DataPlane.ShmRequestHandler

/-! The first handler of the chain: it serves the control operations itself. -/

namespace ScoreCrypto.ControlPlane

open DataManager Daemon Provider Mediator DataPlane

variable (config : Config) (answers : Nat → Answers) (clientId : ClientId) (dataNodeId : DataNodeId)
  (operation : SingleOperationRequest)

def processConnectionCreation : Prog Handled := do
  match ← addNode clientId .generic with
  | .error e => pure (.failed operation (toCryptoErrorCode e))
  | .ok connectionId => pure (.ok operation [.uint64 (UInt64.ofNat connectionId)])

def processConnectionClosure : Prog Handled := do
  let _ ← deleteNode clientId dataNodeId
  pure (.ok operation)

/-- An unknown operation gets an error in the response, but the batch goes on. -/
def processUnknownRequest : Prog Handled :=
  pure ⟨[.error operation.operationId .internalError], true⟩

def processSingleRequest : Prog Handled :=
  if operation.operationId.operationAction = Operations.connectionOpen then
    processConnectionCreation clientId operation
  else if operation.operationId.operationAction = Operations.connectionClose then
    processConnectionClosure clientId dataNodeId operation
  else processUnknownRequest operation

/-- The loop of `ConnectionHandler::processRequest`. The first operation that is not a control
operation sends the whole batch on, and the entries made so far are lost. -/
def processOperations (batch : List Positioned) :
    List Positioned → Served → Prog Served
  | [], served => pure served
  | (operation, i) :: operations, served => do
    if operation.operationId.operationActor ≠ Actor.control then
      let forwarded ← forwardWithResolvedShm config answers clientId dataNodeId batch
      pure ⟨served.attempted ++ forwarded.attempted, forwarded.response⟩
    else
      let handled ← processSingleRequest clientId dataNodeId operation
      let served : Served := ⟨served.attempted ++ [i], served.response ++ handled.entries⟩
      if handled.success then processOperations batch operations served
      else pure served

def serveRequest (request : ControlRequest) : Prog Served :=
  let batch := request.operations.zipIdx
  processOperations config answers request.clientId request.dataNodeId batch batch ⟨[], []⟩

def processRequest (request : ControlRequest) : Prog ControlResponse := do
  let served ← serveRequest config answers request
  pure { requestId := request.requestId, operations := served.response }

end ScoreCrypto.ControlPlane
