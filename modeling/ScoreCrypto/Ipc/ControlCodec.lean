import Mathlib.Data.List.TakeWhile
import ScoreCrypto.ControlPlane.Protocol

/-!
The wire format of the control protocol: the client's and the daemon's conversions between requests,
responses and the tables of a flatbuffer message.
-/

namespace ScoreCrypto.Ipc

open ControlPlane (OperationIdentifier)

/-! ### Messages -/

abbrev Bytes := List UInt8

structure DataShm where
  nodeId : UInt64
  offset : UInt64
  size : UInt64
  direction : UInt8
  deriving DecidableEq, Repr

/-- The alternatives of a request parameter, with the bytes that a span or a view shows. -/
inductive RequestParameter where
  | noParam
  | bool (value : Bool)
  | uint8 (value : UInt8)
  | uint16 (value : UInt16)
  | uint32 (value : UInt32)
  | uint64 (value : UInt64)
  | input (bytes : Bytes)
  | output (bytes : Bytes)
  | dataShm (region : DataShm)
  | string (bytes : Bytes)
  deriving DecidableEq, Repr

inductive ResponseParameter where
  | noParam
  | bool (value : Bool)
  | uint8 (value : UInt8)
  | uint16 (value : UInt16)
  | uint32 (value : UInt32)
  | uint64 (value : UInt64)
  | span (bytes : Bytes)
  | ownedString (bytes : Bytes)
  | ownedBuffer (bytes : Bytes)
  deriving DecidableEq, Repr

structure SingleOperationRequest where
  operationId : OperationIdentifier
  parameters : List RequestParameter
  deriving DecidableEq, Repr

/-- The result is the 32-bit value of an error code, or 0. -/
structure SingleOperationResponse where
  operationId : OperationIdentifier
  result : Int32
  parameters : List ResponseParameter
  deriving DecidableEq

structure ControlRequest where
  requestId : UInt64
  clientId : UInt64
  dataNodeId : UInt64
  operations : List SingleOperationRequest
  deriving DecidableEq, Repr

structure ControlResponse where
  requestId : UInt64
  operations : List SingleOperationResponse
  deriving DecidableEq

/-! ### Tables -/

inductive OperationParameter where
  | none
  | noParam
  | valueBool
  | valueUint8
  | valueUint16
  | valueUint32
  | valueUint64
  | dataBufferInBand
  | dataBufferDataPlane
  | string
  | dataShm
  deriving DecidableEq, Repr

/-- A table that an entry of the parameter vector refers to. Strings and vectors may be absent. -/
inductive Table where
  | noParam
  | valueBool (val : Bool)
  | valueUint8 (val : UInt8)
  | valueUint16 (val : UInt16)
  | valueUint32 (val : UInt32)
  | valueUint64 (val : UInt64)
  | dataBufferInBand (val : Option Bytes)
  | string (val : Option Bytes)
  | dataShm (nodeId offset size : UInt64) (direction : UInt8)
  deriving DecidableEq, Repr

structure ParameterVectors where
  types : Option (List OperationParameter)
  tables : Option (List (Option Table))
  deriving DecidableEq, Repr

structure SingleOperationRequestTable where
  operationId : Option OperationIdentifier
  parameter : ParameterVectors
  deriving DecidableEq, Repr

structure SingleOperationResponseTable where
  operationId : Option OperationIdentifier
  result : Option UInt32
  parameter : ParameterVectors
  deriving DecidableEq, Repr

structure ControlRequestTable where
  requestId : UInt64
  clientId : UInt64
  dataNodeId : UInt64
  operationBatch : Option (Option (List (Option SingleOperationRequestTable)))
  deriving DecidableEq, Repr

structure ControlResponseTable where
  requestId : UInt64
  operationBatch : Option (Option (List (Option SingleOperationResponseTable)))
  deriving DecidableEq, Repr

def buildParameters {P : Type} (build : P → Option (OperationParameter × Table)) (parameters : List P) :
    ParameterVectors :=
  let built := parameters.foldl
    (fun (types, tables) parameter =>
      match build parameter with
      | some (type, table) => (types ++ [type], tables ++ [some table])
      | none => (types, tables))
    ([], [])
  ⟨some built.1, some built.2⟩

def extractParameters {P : Type} (extract : OperationParameter → Table → Option P)
    (vectors : ParameterVectors) : List P :=
  match vectors.types, vectors.tables with
  | some types, some tables =>
    if types.length ≠ tables.length then []
    else
      (List.zip types tables).foldl
        (fun parameters (type, table) =>
          match table.bind (extract type) with
          | some parameter => parameters ++ [parameter]
          | none => parameters)
        []
  | _, _ => []

/-! ### Requests -/

/-- What `BuildRequestParameters` of the client adds for a parameter: nothing for an output buffer. -/
def buildRequestParameter : RequestParameter → Option (OperationParameter × Table)
  | .noParam => some (.noParam, .noParam)
  | .bool value => some (.valueBool, .valueBool value)
  | .string bytes => some (.string, .string (some bytes))
  | .uint8 value => some (.valueUint8, .valueUint8 value)
  | .uint16 value => some (.valueUint16, .valueUint16 value)
  | .uint32 value => some (.valueUint32, .valueUint32 value)
  | .uint64 value => some (.valueUint64, .valueUint64 value)
  | .dataShm region =>
    some (.dataShm, .dataShm region.nodeId region.offset region.size region.direction)
  | .input bytes => some (.dataBufferInBand, .dataBufferInBand (some bytes))
  | .output _ => none

/-- What `ExtractRequestParameters` of the daemon reads from an entry. A tag stands only on tables of
its own kind. -/
def extractRequestParameter : OperationParameter → Table → Option RequestParameter
  | .noParam, _ => some .noParam
  | .valueBool, .valueBool val => some (.bool val)
  | .valueUint8, .valueUint8 val => some (.uint8 val)
  | .valueUint16, .valueUint16 val => some (.uint16 val)
  | .valueUint32, .valueUint32 val => some (.uint32 val)
  | .valueUint64, .valueUint64 val => some (.uint64 val)
  | .string, .string val => val.map .string
  | .dataBufferInBand, .dataBufferInBand val => val.map .input
  | .dataShm, .dataShm nodeId offset size direction =>
    if direction ≠ ControlPlane.ShmDirection.into ∧ direction ≠ ControlPlane.ShmDirection.inOut then none
    else some (.dataShm ⟨nodeId, offset, size, direction⟩)
  | _, _ => none

def encodeOperationRequest (operation : SingleOperationRequest) : SingleOperationRequestTable where
  operationId := some operation.operationId
  parameter := buildParameters buildRequestParameter operation.parameters

def decodeOperationRequest (table : SingleOperationRequestTable) : SingleOperationRequest where
  operationId := table.operationId.getD ⟨0, 0⟩
  parameters := extractParameters extractRequestParameter table.parameter

/-- `ConvertRequest` of the client. It refuses nothing. -/
def encodeRequest (request : ControlRequest) : ControlRequestTable where
  requestId := request.requestId
  clientId := request.clientId
  dataNodeId := request.dataNodeId
  operationBatch := some (some (request.operations.map fun operation =>
      some (encodeOperationRequest operation)))

def decodeRequest (table : ControlRequestTable) : ControlRequest where
  requestId := table.requestId
  clientId := table.clientId
  dataNodeId := table.dataNodeId
  operations := ((table.operationBatch.bind id).getD []).filterMap (Option.map decodeOperationRequest)

/-! ### Responses -/

def buildResponseParameter : ResponseParameter → Option (OperationParameter × Table)
  | .noParam => some (.noParam, .noParam)
  | .bool value => some (.valueBool, .valueBool value)
  | .uint8 value => some (.valueUint8, .valueUint8 value)
  | .uint16 value => some (.valueUint16, .valueUint16 value)
  | .uint32 value => some (.valueUint32, .valueUint32 value)
  | .uint64 value => some (.valueUint64, .valueUint64 value)
  | .ownedString bytes => some (.string, .string (some bytes))
  | .ownedBuffer bytes => some (.dataBufferInBand, .dataBufferInBand (some bytes))
  | .span bytes => some (.dataBufferInBand, .dataBufferInBand (some bytes))

/-- The string that a pointer to its bytes gives: it ends at the first zero byte. -/
def cStr (bytes : Bytes) : Bytes :=
  bytes.takeWhile (· ≠ 0)

/-- What `ExtractResponseParameters` of the client reads from an entry. -/
def extractResponseParameter : OperationParameter → Table → Option ResponseParameter
  | .noParam, _ => some .noParam
  | .valueBool, .valueBool val => some (.bool val)
  | .valueUint8, .valueUint8 val => some (.uint8 val)
  | .valueUint16, .valueUint16 val => some (.uint16 val)
  | .valueUint32, .valueUint32 val => some (.uint32 val)
  | .valueUint64, .valueUint64 val => some (.uint64 val)
  | .string, .string val => val.map fun bytes => .ownedString (cStr bytes)
  | .dataBufferInBand, .dataBufferInBand val => val.map .ownedBuffer
  | _, _ => none

def encodeOperationResponse (operation : SingleOperationResponse) : SingleOperationResponseTable where
  operationId := some operation.operationId
  result := some operation.result.toUInt32
  parameter := buildParameters buildResponseParameter operation.parameters

def internalError : Int32 := 0x01010004

def decodeOperationResponse (table : SingleOperationResponseTable) : SingleOperationResponse where
  operationId := table.operationId.getD ⟨0, 0⟩
  result := (table.result.map UInt32.toInt32).getD internalError
  parameters := extractParameters extractResponseParameter table.parameter

def encodeResponse (response : ControlResponse) : ControlResponseTable where
  requestId := response.requestId
  operationBatch :=
    some (some (response.operations.map fun operation => some (encodeOperationResponse operation)))

def decodeResponse (table : ControlResponseTable) : ControlResponse where
  requestId := table.requestId
  operations := ((table.operationBatch.bind id).getD []).filterMap (Option.map decodeOperationResponse)

/-! ### Round trips -/

section Vectors

variable {P Q : Type}

theorem buildParameters_eq (build : P → Option (OperationParameter × Table)) (parameters : List P) :
    buildParameters build parameters =
      let built := parameters.filterMap build
      ⟨some (built.map (·.1)), some (built.map fun entry => some entry.2)⟩ := by
  suffices loop : ∀ types tables, parameters.foldl
      (fun (types, tables) parameter =>
        match build parameter with
        | some (type, table) => (types ++ [type], tables ++ [some table])
        | none => (types, tables)) (types, tables) =
      (types ++ (parameters.filterMap build).map (·.1),
        tables ++ (parameters.filterMap build).map fun entry => some entry.2) by
    rw [buildParameters, loop, List.nil_append, List.nil_append]
  induction parameters with
  | nil => simp
  | cons parameter parameters ih =>
    intro types tables
    rw [List.foldl_cons]
    cases built : build parameter with
    | none => simp [ih, built]
    | some entry => simp [ih, built]

theorem extractParameters_eq (extract : OperationParameter → Table → Option P)
    (entries : List (OperationParameter × Table)) :
    extractParameters extract
        ⟨some (entries.map (·.1)), some (entries.map fun entry => some entry.2)⟩ =
      entries.filterMap fun entry => extract entry.1 entry.2 := by
  suffices loop : ∀ start : List P,
      (List.zip (entries.map (·.1)) (entries.map fun entry => some entry.2)).foldl
        (fun parameters (type, table) =>
          match table.bind (extract type) with
          | some parameter => parameters ++ [parameter]
          | none => parameters) start =
      start ++ entries.filterMap fun entry => extract entry.1 entry.2 by
    simp only [extractParameters, List.length_map, ne_eq, not_true_eq_false, if_false]
    rw [loop, List.nil_append]
  induction entries with
  | nil => simp
  | cons entry entries ih =>
    intro start
    rw [List.map_cons, List.map_cons, List.zip_cons_cons, List.foldl_cons, ih]
    cases read : extract entry.1 entry.2 with
    | none => simp [read]
    | some parameter => simp [read]

theorem extract_build (build : P → Option (OperationParameter × Table))
    (extract : OperationParameter → Table → Option Q) (parameters : List P) :
    extractParameters extract (buildParameters build parameters) =
      parameters.filterMap fun parameter => (build parameter).bind fun entry => extract entry.1 entry.2 := by
  rw [buildParameters_eq, extractParameters_eq, List.filterMap_filterMap]

end Vectors

/-! A request -/

/-- The parameters that the wire format has a place for. -/
def Carried : RequestParameter → Prop
  | .output _ => False
  | .dataShm region =>
    region.direction = ControlPlane.ShmDirection.into ∨ region.direction = ControlPlane.ShmDirection.inOut
  | _ => True

instance : DecidablePred Carried := fun parameter => by
  cases parameter <;> unfold Carried <;> infer_instance

theorem extract_buildRequestParameter (parameter : RequestParameter) :
    ((buildRequestParameter parameter).bind fun entry => extractRequestParameter entry.1 entry.2) =
      if Carried parameter then some parameter else none := by
  cases parameter with
  | dataShm region =>
    by_cases known : Carried (.dataShm region)
    · rw [if_pos known]
      exact if_neg fun neither => known.elim neither.1 neither.2
    · rw [if_neg known]
      exact if_pos (not_or.mp known)
  | output bytes => rfl
  | _ => rfl

theorem decode_encodeOperationRequest (operation : SingleOperationRequest) :
    decodeOperationRequest (encodeOperationRequest operation) =
      { operation with parameters := operation.parameters.filter fun parameter => Carried parameter } := by
  simp only [decodeOperationRequest, encodeOperationRequest, Option.getD_some, extract_build,
    extract_buildRequestParameter]
  congr 1
  induction operation.parameters with
  | nil => rfl
  | cons parameter parameters ih => by_cases known : Carried parameter <;> simp [known, ih]

theorem decode_encodeRequest (request : ControlRequest) :
    decodeRequest (encodeRequest request) =
      { request with operations := request.operations.map fun operation =>
          { operation with
            parameters := operation.parameters.filter fun parameter => Carried parameter } } := by
  simp only [decodeRequest, encodeRequest, Option.bind_some, id, Option.getD_some, List.filterMap_map,
    Function.comp_def, Option.map_some, decode_encodeOperationRequest]
  congr 1
  exact congrFun List.filterMap_eq_map _

theorem decode_encodeRequest_eq_iff (request : ControlRequest) :
    decodeRequest (encodeRequest request) = request ↔
      ∀ operation ∈ request.operations, ∀ parameter ∈ operation.parameters, Carried parameter := by
  obtain ⟨requestId, clientId, dataNodeId, operations⟩ := request
  rw [decode_encodeRequest, ControlRequest.mk.injEq]
  simp only [true_and]
  conv => lhs; rhs; rw [← List.map_id operations]
  rw [List.map_inj_left]
  refine forall₂_congr fun operation _ => ?_
  rw [id, SingleOperationRequest.mk.injEq]
  simp

/-- An output buffer ahead of a number: the daemon finds the number at index 0. -/
theorem outputBuffer_shifts :
    decodeRequest (encodeRequest ⟨1, 1, 1, [⟨⟨2, 1⟩, [.output [0], .uint64 7]⟩]⟩) =
      ⟨1, 1, 1, [⟨⟨2, 1⟩, [.uint64 7]⟩]⟩ := by
  decide +kernel

/-! A response -/

def owned : ResponseParameter → ResponseParameter
  | .span bytes => .ownedBuffer bytes
  | parameter => parameter

def ControlResponse.owned (response : ControlResponse) : ControlResponse :=
  { response with operations := response.operations.map fun operation =>
      { operation with parameters := operation.parameters.map Ipc.owned } }

def received : ResponseParameter → ResponseParameter
  | .ownedString bytes => .ownedString (cStr bytes)
  | parameter => owned parameter

theorem extract_buildResponseParameter (parameter : ResponseParameter) :
    ((buildResponseParameter parameter).bind fun entry => extractResponseParameter entry.1 entry.2) =
      some (received parameter) := by
  cases parameter <;> rfl

theorem decode_encodeOperationResponse (operation : SingleOperationResponse) :
    decodeOperationResponse (encodeOperationResponse operation) =
      { operation with parameters := operation.parameters.map received } := by
  simp only [decodeOperationResponse, encodeOperationResponse, Option.getD_some, extract_build,
    extract_buildResponseParameter, Option.map_some]
  congr 1
  exact congrFun List.filterMap_eq_map _

theorem decode_encodeResponse (response : ControlResponse) :
    decodeResponse (encodeResponse response) =
      { response with operations := response.operations.map fun operation =>
          { operation with parameters := operation.parameters.map received } } := by
  simp only [decodeResponse, encodeResponse, Option.bind_some, id, Option.getD_some, List.filterMap_map,
    Function.comp_def, Option.map_some, decode_encodeOperationResponse]
  congr 1
  exact congrFun List.filterMap_eq_map _

theorem cStr_eq_iff (bytes : Bytes) : cStr bytes = bytes ↔ 0 ∉ bytes := by
  rw [cStr, List.takeWhile_eq_self_iff]
  constructor
  · intro none zero
    simpa using none 0 zero
  · intro absent byte member
    have apart : byte ≠ 0 := fun zero => absent (zero ▸ member)
    simpa using apart

theorem received_eq_owned_iff (parameter : ResponseParameter) :
    received parameter = owned parameter ↔ ∀ bytes, parameter = .ownedString bytes → 0 ∉ bytes := by
  cases parameter with
  | ownedString bytes => simp [received, owned, cStr_eq_iff]
  | _ => simp [received]

theorem decode_encodeResponse_eq_iff (response : ControlResponse) :
    decodeResponse (encodeResponse response) = response.owned ↔
      ∀ operation ∈ response.operations, ∀ bytes,
        .ownedString bytes ∈ operation.parameters → 0 ∉ bytes := by
  rw [decode_encodeResponse, ControlResponse.owned, ControlResponse.mk.injEq]
  simp only [true_and]
  rw [List.map_inj_left]
  refine forall₂_congr fun operation _ => ?_
  simp only [SingleOperationResponse.mk.injEq, true_and]
  rw [List.map_inj_left]
  simp only [received_eq_owned_iff]
  constructor
  · intro each bytes member
    exact each _ member bytes rfl
  · intro free parameter member bytes same
    exact free bytes (same ▸ member)

/-- Of a string with a zero byte the client sees what is ahead of it. -/
theorem zeroByte_cutsString :
    decodeResponse (encodeResponse ⟨1, [⟨⟨2, 1⟩, 0, [.ownedString [65, 0, 66]]⟩]⟩) =
      ⟨1, [⟨⟨2, 1⟩, 0, [.ownedString [65]]⟩]⟩ := by
  decide +kernel

end ScoreCrypto.Ipc
