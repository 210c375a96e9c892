import ScoreCrypto.Common.Types

/-! Requests and responses of the control protocol. -/

namespace ScoreCrypto.ControlPlane

structure OperationIdentifier where
  operationActor : UInt16
  operationAction : UInt16
  deriving DecidableEq, Repr

namespace Actor

def control : UInt16 := 1
def mediator : UInt16 := 2

end Actor

namespace Operations

def connectionOpen : UInt16 := 1
def connectionClose : UInt16 := 2

def ctxCreate : UInt16 := 1
def ctxClose : UInt16 := 2
def resolveResource : UInt16 := 3
def shmSetup : UInt16 := 4
def shmDestroyObject : UInt16 := 5

end Operations

/-- A part of a region of shared memory; the direction is the byte the client sent. -/
structure DataShm where
  nodeId : DataNodeId
  offset : Nat
  size : Nat
  direction : UInt8
  deriving DecidableEq, Repr

namespace ShmDirection

def into : UInt8 := 0
def inOut : UInt8 := 1

end ShmDirection

/-- A request parameter. Of a buffer only its length matters here. -/
inductive RequestParameter where
  | noParam
  | bool (value : Bool)
  | uint8 (value : UInt8)
  | uint16 (value : UInt16)
  | uint32 (value : UInt32)
  | uint64 (value : UInt64)
  | input (length : Nat)
  | output (length : Nat)
  | dataShm (region : DataShm)
  | string (value : String)
  deriving DecidableEq, Repr

inductive ResponseParameter where
  | noParam
  | bool (value : Bool)
  | uint8 (value : UInt8)
  | uint16 (value : UInt16)
  | uint32 (value : UInt32)
  | uint64 (value : UInt64)
  | string (value : String)
  | buffer (length : Nat)
  deriving DecidableEq, Repr

structure SingleOperationRequest where
  operationId : OperationIdentifier
  parameters : List RequestParameter := []
  deriving DecidableEq, Repr

namespace SingleOperationRequest

def getString (operation : SingleOperationRequest) (index : Nat) : Option String :=
  match operation.parameters[index]? with
  | some (.string value) => some value
  | _ => none

def getUint8 (operation : SingleOperationRequest) (index : Nat) : Option UInt8 :=
  match operation.parameters[index]? with
  | some (.uint8 value) => some value
  | _ => none

def getUint64 (operation : SingleOperationRequest) (index : Nat) : Option UInt64 :=
  match operation.parameters[index]? with
  | some (.uint64 value) => some value
  | _ => none

end SingleOperationRequest

structure SingleOperationResponse where
  operationId : OperationIdentifier
  result : Option CryptoErrorCode := some .internalError
  parameters : List ResponseParameter := []
  deriving DecidableEq, Repr

def SingleOperationResponse.success (operationId : OperationIdentifier)
    (parameters : List ResponseParameter := []) : SingleOperationResponse :=
  { operationId := operationId, result := none, parameters := parameters }

def SingleOperationResponse.error (operationId : OperationIdentifier) (code : CryptoErrorCode) :
    SingleOperationResponse :=
  { operationId := operationId, result := some code }

structure ControlRequest where
  requestId : UInt64
  clientId : ClientId
  dataNodeId : DataNodeId
  operations : List SingleOperationRequest

structure ControlResponse where
  requestId : UInt64
  operations : List SingleOperationResponse

end ScoreCrypto.ControlPlane
