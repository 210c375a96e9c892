import ScoreCrypto.ControlPlane.Protocol
import ScoreCrypto.KeyManagement.Service

/-!
The executor behind a key management context. What the provider itself decides comes in as
`Answers`: whether it accepts the parameters, and the key or the values it produces.
-/

namespace ScoreCrypto.Provider

open DataManager Daemon KeyManagement ControlPlane

namespace KeyOperation

def keyGenerate : UInt16 := 0x10
def keyGetEncapsulationSize : UInt16 := 0x32
def keyEncapsulate : UInt16 := 0x33
def keyDecapsulate : UInt16 := 0x34
def keyImport : UInt16 := 0x60
def keyLoad : UInt16 := 0x70
def keyExport : UInt16 := 0x80
def keyGetExportSize : UInt16 := 0x81
def keySlotInfo : UInt16 := 0xB0
def keyRelease : UInt16 := 0xF0

end KeyOperation

structure KeyMgmtExecutionContext where
  providerId : ProviderId := invalidProviderId
  clientId : ClientId := 0
  contextNodeId : DataNodeId := 0

/-! ### Request parameters -/

section Parser

variable (request : List RequestParameter) (index : Nat)

def extractUint64 : Expected UInt64 :=
  match request[index]? with
  | none => .error .insufficientParameters
  | some (.uint64 value) => .ok value
  | some _ => .error .invalidArgument

def extractAlgorithm : Expected String :=
  match request[index]? with
  | none => .error .insufficientParameters
  | some (.string value) => if value = "" then .error .invalidArgument else .ok value
  | some _ => .error .invalidArgument

def extractOptionalPermissions : Option KeyOperationPermission :=
  match request[index]? with
  | some (.uint32 value) => if value ≤ Permission.all then some value else none
  | _ => none

def extractDataBuffer : Expected Nat :=
  match request[index]? with
  | none => .error .insufficientParameters
  | some (.input length) => if length = 0 then .error .invalidArgument else .ok length
  | some _ => .error .invalidArgument

def extractFormatOrDefault : Expected FormatType :=
  match request[index]? with
  | none => .ok .der
  | some (.uint32 value) =>
    if value = 0 then .ok .der
    else if value = 1 then .ok .pem
    else if value = 2 then .ok .raw
    else .error .invalidArgument
  | some _ => .error .invalidArgument

def inputLength : Option Nat :=
  match request[index]? with
  | some (.input length) => some length
  | _ => none

def outputLength : Option Nat :=
  match request[index]? with
  | some (.output length) => some length
  | _ => none

end Parser

/-- An algorithm name that is not empty, not cut off and has no NUL in it. -/
def validAlgorithm (name : String) : Bool :=
  name ≠ "" && name.utf8ByteSize ≤ 64 && !name.toList.contains '\x00'

structure KeyImportRequest where
  algorithm : AlgorithmDescriptor
  format : FormatType
  permissions : KeyOperationPermission := Permission.all
  keyDataSize : Nat

def buildImportRequest (config : Config) (request : List RequestParameter) :
    Expected KeyImportRequest :=
  match extractAlgorithm request 0 with
  | .error e => .error e
  | .ok name =>
    match extractDataBuffer request 3 with
    | .error e => .error e
    | .ok size =>
      match extractFormatOrDefault request 2 with
      | .error e => .error e
      | .ok format =>
        match config.getAlgorithmDescriptor name with
        | none => .error .unsupportedAlgorithm
        | some algorithm =>
          .ok { algorithm := algorithm, format := format, keyDataSize := size
                permissions := (extractOptionalPermissions request 1).getD Permission.all }

structure KeyGenerationRequest where
  algorithm : AlgorithmDescriptor
  permissions : Option KeyOperationPermission
  publicKeyPermissions : Option KeyOperationPermission

def buildGenerationRequest (config : Config) (request : List RequestParameter) :
    Expected KeyGenerationRequest :=
  match extractAlgorithm request 0 with
  | .error e => .error e
  | .ok name =>
    match config.getAlgorithmDescriptor name with
    | none => .error .unsupportedAlgorithm
    | some algorithm =>
      .ok { algorithm := algorithm
            permissions := extractOptionalPermissions request 1
            publicKeyPermissions := extractOptionalPermissions request 2 }

structure Answers where
  createHandler : ProviderId → Except CryptoErrorCode Unit := fun _ => .ok ()
  initializeContext : Expected Unit := .ok ()
  loadKey : Expected SlotMaterial := .ok .secret
  generateKey : KeyGenerationRequest → Expected (Option ProviderKeyHandle) :=
    fun _ => .ok none
  importKey : KeyImportRequest → Expected (Option ProviderKeyHandle) :=
    fun _ => .ok none
  sharedSecret : Expected (Option ProviderKeyHandle) := .ok none
  ciphertextSize : UInt64 := 0
  execute : Expected (List ResponseParameter) := .ok []
  createShm : Expected ShmRegion := .error .unsupportedOperation

/-! ### Operations -/

variable (config : Config) (answers : Answers) (ctx : KeyMgmtExecutionContext)

def keyResponse (nodeId : DataNodeId) : List ResponseParameter :=
  [.uint64 (UInt64.ofNat nodeId), .uint16 (UInt16.ofNat ctx.providerId)]

variable (request : List RequestParameter)

def handleGenerate : Prog (Expected (List ResponseParameter)) := do
  match buildGenerationRequest config request with
  | .error e => pure (.error e)
  | .ok generation =>
    match answers.generateKey generation with
    | .error _ => pure (.error .algorithmExecutionFailed)
    | .ok key =>
      match ← registerKeyMaterial
          { clientId := ctx.clientId, parentId := ctx.contextNodeId
            providerId := ctx.providerId } key with
      | .error _ => pure (.error .algorithmExecutionFailed)
      | .ok (nodeId, _) => pure (.ok (keyResponse ctx nodeId))

def handleLoad : Prog (Expected (List ResponseParameter)) := do
  match extractUint64 request 0 with
  | .error e => pure (.error e)
  | .ok slotNodeId =>
    match ← resolveSlotForOperation config ctx.clientId slotNodeId.toNat with
    | .error _ => pure (.error .invalidArgument)
    | .ok (slot, slotHandle) =>
      match ← loadOrShare config
          { clientId := ctx.clientId, parentId := ctx.contextNodeId, providerId := ctx.providerId
            slotHandle := slotHandle } slot answers.loadKey with
      | .error _ => pure (.error .algorithmExecutionFailed)
      | .ok (nodeId, _) => pure (.ok (keyResponse ctx nodeId))

def handleRelease : Prog (Expected (List ResponseParameter)) := do
  match extractUint64 request 0 with
  | .error e => pure (.error e)
  | .ok keyNodeId =>
    match ← releaseKeyMaterial ctx.clientId keyNodeId.toNat with
    | .error _ => pure (.error .algorithmExecutionFailed)
    | .ok _ => pure (.ok [.uint64 0])

def handleSlotInfo : Prog (Expected (List ResponseParameter)) := do
  match extractUint64 request 0 with
  | .error e => pure (.error e)
  | .ok slotNodeId =>
    match ← resolveSlotForOperation config ctx.clientId slotNodeId.toNat with
    | .error _ => pure (.error .invalidArgument)
    | .ok _ =>
      match answers.execute with
      | .error _ => pure (.error .algorithmExecutionFailed)
      | .ok values => pure (.ok values)

def registerOutput (key : Option ProviderKeyHandle) : Prog (Expected DataNodeId) := do
  match key with
  | none => pure (.error .operationFailed)
  | some handle =>
    if handle.providerId ≠ ctx.providerId then
      pure (.error .operationFailed)
    else
      match ← registerKeyMaterial
          { clientId := ctx.clientId, parentId := ctx.contextNodeId
            providerId := ctx.providerId } (some handle) with
      | .error e => pure (.error e)
      | .ok (nodeId, _) => pure (.ok nodeId)

def handleImport : Prog (Expected (List ResponseParameter)) := do
  if request.length ≠ 4 ∨ extractOptionalPermissions request 1 = none then
    pure (.error .invalidArgument)
  else
    match buildImportRequest config request with
    | .error e => pure (.error e)
    | .ok params =>
      if validAlgorithm params.algorithm.name = false then
        pure (.error .invalidArgument)
      else
        match answers.importKey params with
        | .error e => pure (.error e)
        | .ok none => pure (.error .operationFailed)
        | .ok (some handle) =>
          let actualPermissions :=
            if handle.materialKind = .publicKey then
              handle.publicKeyPermissions.getD Permission.all
            else handle.permissions
          if handle.algorithm.name ≠ params.algorithm.name ∨
              actualPermissions ≠ params.permissions then
            pure (.error .operationFailed)
          else
            match ← registerOutput ctx (some handle) with
            | .error e => pure (.error e)
            | .ok nodeId => pure (.ok (keyResponse ctx nodeId))

def acquireAgreementKey (parameterCount : Nat)
    (hasBuffer : Bool) : Prog (Expected (ProviderKeyHandle × String)) := do
  match extractAlgorithm request 0, extractUint64 request 1 with
  | .ok name, .ok keyId =>
    if request.length ≠ parameterCount ∨ validAlgorithm name = false ∨ keyId = 0 ∨
        hasBuffer = false then
      pure (.error .invalidArgument)
    else
      match config.getAlgorithmDescriptor name with
      | none => pure (.error .unsupportedAlgorithm)
      | some _ =>
        match ← acquireKeyForOperation ctx.clientId keyId.toNat ctx.providerId Permission.agree
            none with
        | .error e => pure (.error e)
        | .ok key => pure (.ok (key, name))
  | _, _ => pure (.error .invalidArgument)

def handleGetEncapsulationCiphertextSize : Prog (Expected (List ResponseParameter)) := do
  match ← acquireAgreementKey config ctx request 2 true with
  | .error e => pure (.error e)
  | .ok (key, name) =>
    if key.algorithm.name ≠ name ∨ key.materialKind ≠ .publicKey then
      pure (.error .invalidArgument)
    else
      pure answers.execute

/-- The secret that an agreement yields is a key for derivations only. -/
def registerSecret (secret : Expected (Option ProviderKeyHandle))
    (response : DataNodeId → List ResponseParameter) :
    Prog (Expected (List ResponseParameter)) := do
  match secret with
  | .error e => pure (.error e)
  | .ok none => pure (.error .operationFailed)
  | .ok (some handle) =>
    if handle.materialKind ≠ .sharedSecret ∨ handle.permissions ≠ Permission.derive ∨
        handle.isAsymmetric then
      pure (.error .operationFailed)
    else
      match ← registerOutput ctx (some handle) with
      | .error e => pure (.error e)
      | .ok nodeId => pure (.ok (response nodeId))

def handleEncapsulateKey : Prog (Expected (List ResponseParameter)) := do
  match ← acquireAgreementKey config ctx request 3 (outputLength request 2).isSome with
  | .error e => pure (.error e)
  | .ok (key, name) =>
    if key.algorithm.name ≠ name ∨ key.materialKind ≠ .publicKey then
      pure (.error .invalidArgument)
    else
      registerSecret ctx answers.sharedSecret fun nodeId =>
        .uint64 answers.ciphertextSize :: keyResponse ctx nodeId

def handleDecapsulateKey : Prog (Expected (List ResponseParameter)) := do
  let hasBuffer := (inputLength request 2).any (· ≠ 0)
  match ← acquireAgreementKey config ctx request 3 hasBuffer with
  | .error e => pure (.error e)
  | .ok (key, name) =>
    if key.algorithm.name ≠ name ∨ key.materialKind ≠ .privateKey then
      pure (.error .invalidArgument)
    else
      registerSecret ctx answers.sharedSecret (keyResponse ctx)

/-- `KEY_GET_EXPORT_SIZE` has no buffer, `KEY_EXPORT` one for the bytes. -/
def handleExport (parameterCount : Nat) (bufferCheck : Expected Unit) :
    Prog (Expected (List ResponseParameter)) := do
  match extractUint64 request 0, extractFormatOrDefault request 1 with
  | .ok keyId, .ok format =>
    if request.length ≠ parameterCount ∨ keyId = 0 then
      pure (.error .invalidArgument)
    else
      match bufferCheck with
      | .error e => pure (.error e)
      | .ok _ =>
        match ← acquireKeyForOperation ctx.clientId keyId.toNat ctx.providerId
            Permission.exportKey (some format) with
        | .error e => pure (.error e)
        | .ok _ => pure answers.execute
  | _, _ => pure (.error .invalidArgument)

def exportBuffer : Expected Unit :=
  match outputLength request 2 with
  | some length => if length = 0 then .error .insufficientBufferSize else .ok ()
  | none => .error .invalidArgument

/-- `Execute` of a key management context; it looks at the action only, not at the actor. -/
def executeKeyOperation (action : UInt16) (request : List RequestParameter) :
    Prog (Expected (List ResponseParameter)) :=
  if (action = KeyOperation.keyLoad ∨ action = KeyOperation.keySlotInfo) ∧
      config.executorHasSlotHandler ctx.providerId = false then
    pure (.error .unsupportedOperation)
  else if action = KeyOperation.keyGetEncapsulationSize then
    handleGetEncapsulationCiphertextSize config answers ctx request
  else if action = KeyOperation.keyEncapsulate then
    handleEncapsulateKey config answers ctx request
  else if action = KeyOperation.keyDecapsulate then
    handleDecapsulateKey config answers ctx request
  else if action = KeyOperation.keyImport then
    handleImport config answers ctx request
  else if action = KeyOperation.keyGetExportSize then
    handleExport answers ctx request 2 (.ok ())
  else if action = KeyOperation.keyExport then
    handleExport answers ctx request 3 (exportBuffer request)
  else if action = KeyOperation.keyGenerate then
    handleGenerate config answers ctx request
  else if action = KeyOperation.keyLoad then
    handleLoad config answers ctx request
  else if action = KeyOperation.keyRelease then
    handleRelease ctx request
  else if action = KeyOperation.keySlotInfo then
    handleSlotInfo config answers ctx request
  else
    -- `KEY_WRAP` and `KEY_UNWRAP` are not implemented either
    pure (.error .unsupportedOperation)

end ScoreCrypto.Provider
