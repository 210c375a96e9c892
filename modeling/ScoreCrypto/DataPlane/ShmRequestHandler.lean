import ScoreCrypto.Mediator.Operations

/-!
The mediator's loop over a batch, and the handler in front of it that resolves the shared memory
of all operations before the first one runs. `attempted` records which operations were taken up.
-/

namespace ScoreCrypto.DataPlane

open DataManager Daemon ControlPlane Provider Mediator

abbrev Positioned := SingleOperationRequest × Nat

structure Served where
  attempted : List Nat
  response : List SingleOperationResponse
  deriving DecidableEq, Repr

variable (config : Config) (answers : Nat → Answers) (clientId : ClientId) (dataNodeId : DataNodeId)

/-- `MediatorImpl::processRequest`: stops at the first operation that fails. -/
def mediate : List Positioned → Prog Served
  | [] => pure ⟨[], []⟩
  | (operation, i) :: operations => do
    let handled ← handleSingleOperation config (answers i) clientId dataNodeId operation
    if handled.success then
      let served ← mediate operations
      pure ⟨i :: served.attempted, handled.entries ++ served.response⟩
    else pure ⟨[i], handled.entries⟩

def shmBuffer (shm : DataShm) (node : Node) : Option RequestParameter :=
  match node with
  | .shm region =>
    if shm.direction ≠ ShmDirection.into ∧ shm.direction ≠ ShmDirection.inOut then none
    else if region.size < shm.offset ∨ region.size - shm.offset < shm.size then none
    else if region.mapped = false then none
    else if shm.direction = ShmDirection.into then some (.input shm.size)
    else some (.output shm.size)
  | _ => none

def resolveParameter (parameter : RequestParameter) : Prog (Option RequestParameter) :=
  match parameter with
  | .dataShm shm =>
    withAccessor clientId shm.nodeId (fun _ => none) fun node => pure (shmBuffer shm node)
  | parameter => pure (some parameter)

def resolveParameters : List RequestParameter → Prog (Option (List RequestParameter))
  | [] => pure (some [])
  | parameter :: parameters => do
    match ← resolveParameter clientId parameter with
    | none => pure none
    | some resolved =>
      match ← resolveParameters parameters with
      | none => pure none
      | some rest => pure (some (resolved :: rest))

def resolveOperations : List Positioned → Prog (Except Positioned (List Positioned))
  | [] => pure (.ok [])
  | (operation, i) :: operations => do
    match ← resolveParameters clientId operation.parameters with
    | none => pure (.error (operation, i))
    | some parameters =>
      match ← resolveOperations operations with
      | .error failed => pure (.error failed)
      | .ok rest => pure (.ok (({ operation with parameters := parameters }, i) :: rest))

def forwardWithResolvedShm (operations : List Positioned) : Prog Served := do
  match ← resolveOperations clientId operations with
  | .error (operation, i) =>
    pure ⟨[i], [.error operation.operationId (toCryptoErrorCode .invalidMemoryRegion)]⟩
  | .ok resolved => mediate config answers clientId dataNodeId resolved

end ScoreCrypto.DataPlane
