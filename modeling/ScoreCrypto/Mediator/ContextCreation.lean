import ScoreCrypto.Provider.KeyMgmtExecutor

/-! The mediator's `CTX_CREATE`: parameters, provider, context node, key and handler. -/

namespace ScoreCrypto.Mediator

open DataManager Daemon KeyManagement ControlPlane Provider

namespace ContextType

def mac : String := "MAC"
def cipher : String := "CIPHER"
def sign : String := "SIGN"
def verify : String := "VERIFY"
def random : String := "RANDOM"
def keyManagement : String := "KEY:MANAGEMENT"
def keyScope : String := "KEY"
def certScope : String := "CERT"

end ContextType

/-- The part before the first separator, or nothing for an unscoped type. -/
def scopeOf (contextType : String) : String :=
  if ':' ∈ contextType.toList then String.ofList (contextType.toList.takeWhile (· ≠ ':')) else ""

inductive ContextMode where
  | generate
  | verify
  | encrypt
  | decrypt
  deriving DecidableEq, Repr

def parseContextMode (raw : UInt8) : Option ContextMode :=
  if raw = 0 then some .generate
  else if raw = 1 then some .verify
  else if raw = 2 then some .encrypt
  else if raw = 3 then some .decrypt
  else none

variable (operation : SingleOperationRequest)

def extractContextMode : Option ContextMode :=
  (operation.getUint8 4).bind parseContextMode

/-- The permission that a context of the type uses its key with, if it binds a key at all. -/
def requiredKeyPermission (contextType : String) (mode : Option ContextMode) :
    Option KeyOperationPermission :=
  if contextType = ContextType.mac then some Permission.mac
  else if contextType = ContextType.sign then some Permission.sign
  else if contextType = ContextType.verify then some Permission.verify
  else if contextType = ContextType.cipher then
    if mode = some .encrypt then some Permission.encrypt
    else if mode = some .decrypt then some Permission.decrypt
    -- a cipher without a direction has to be allowed both
    else some (Permission.encrypt ||| Permission.decrypt)
  else none

def requiredProviderCapability (contextType : String) : ProviderCapability :=
  if scopeOf contextType = ContextType.certScope then Capability.certManagement
  else if scopeOf contextType = ContextType.keyScope then Capability.keyManagement
  else Capability.none

structure ProviderTypePreference where
  primary : CryptoProviderType
  fallback : Option CryptoProviderType
  deriving DecidableEq, Repr

def decodeProviderTypePreference (wireValue : UInt8) : Option ProviderTypePreference :=
  if wireValue = 0 then some ⟨.default, none⟩
  else if wireValue = 1 then some ⟨.hardware, none⟩
  else if wireValue = 2 then some ⟨.software, none⟩
  else if wireValue = 3 then some ⟨.hardware, some .software⟩
  else if wireValue = 4 then some ⟨.software, some .hardware⟩
  else none

def contextTakesAlgorithm (contextType : String) : Bool :=
  contextType ≠ ContextType.keyManagement

def resolveContextAlgorithm (config : Config) (contextType algorithm : String) :
    Option AlgorithmDescriptor :=
  if contextType = ContextType.random ∧ algorithm = "" then some config.ctrDrbg
  else config.getAlgorithmDescriptor algorithm

def isContextParameterPresent (index : Nat) : Bool :=
  match operation.parameters[index]? with
  | none => false
  | some .noParam => false
  | some _ => true

structure ContextRequest where
  contextType : String
  mode : Option ContextMode
  preference : ProviderTypePreference
  keyNodeId : Option DataNodeId
  deriving DecidableEq, Repr

def parseProviderPreference : Except CryptoErrorCode ProviderTypePreference :=
  if isContextParameterPresent operation 2 then
    match operation.getUint8 2 with
    | none => .error .invalidArgument
    | some wireValue =>
      match decodeProviderTypePreference wireValue with
      | none => .error .invalidArgument
      | some preference => .ok preference
  else .ok ⟨.default, none⟩

def parseKeyNodeId : Except CryptoErrorCode (Option DataNodeId) :=
  if isContextParameterPresent operation 3 then
    match operation.getUint64 3 with
    | none => .error .invalidArgument
    | some keyNodeId => if keyNodeId = 0 then .error .invalidArgument else .ok (some keyNodeId.toNat)
  else .ok none

/-- The checks that `HandleContextCreationOperation` makes before it asks a provider. -/
def parseContextRequest (config : Config) (operation : SingleOperationRequest) :
    Except CryptoErrorCode ContextRequest :=
  if operation.parameters.length < 2 ∨ 10 < operation.parameters.length then .error .invalidArgument
  else
    match operation.getString 0 with
    | none => .error .invalidArgument
    | some contextType =>
      match operation.getString 1 with
      | none => .error .invalidArgument
      | some algorithm =>
        match parseProviderPreference operation with
        | .error e => .error e
        | .ok preference =>
          match parseKeyNodeId operation with
          | .error e => .error e
          | .ok keyNodeId =>
            let mode := extractContextMode operation
            if (requiredKeyPermission contextType mode).isSome ∧ keyNodeId = none then
              .error .invalidArgument
            else if contextTakesAlgorithm contextType ∧
                resolveContextAlgorithm config contextType algorithm = none then
              .error .unsupportedAlgorithm
            else
              .ok { contextType := contextType, mode := mode, preference := preference
                    keyNodeId := keyNodeId }

def isFallbackEligible (error : CryptoErrorCode) : Bool :=
  error = .unsupportedOperation || error = .unsupportedAlgorithm ||
    error = .providerNotAvailable || error = .incompatibleKeyType

variable (config : Config) (answers : Answers) (clientId : ClientId)

def resolveProvider (keyNodeId : Option DataNodeId) (required : ProviderCapability)
    (providerType : CryptoProviderType) : Prog (Except CryptoErrorCode ProviderId) := do
  match keyNodeId with
  | some keyNodeId =>
    match ← resolveTargetProvider config clientId providerType keyNodeId with
    | .error e => pure (.error (toCryptoErrorCode e))
    | .ok providerId =>
      if config.hasProvider providerId then pure (.ok providerId)
      else pure (.error .providerNotAvailable)
  | none =>
    let resolved :=
      if providerType = .default ∧ required ≠ Capability.none then
        config.getProviderForCapability required
      else config.getProvider providerType
    match resolved with
    | none => pure (.error .providerNotAvailable)
    | some providerId => pure (.ok providerId)

/-- Tries the candidates in turn; an error that another provider may not have leads to the next. -/
def tryCandidates (keyNodeId : Option DataNodeId) (contextType : String)
    (required : ProviderCapability) :
    List CryptoProviderType → Option ProviderId → CryptoErrorCode →
      Prog (Except CryptoErrorCode (ProviderId × HandlerRef))
  | [], _, lastError => pure (.error lastError)
  | candidate :: candidates, previous, lastError => do
    match ← resolveProvider config clientId keyNodeId required candidate with
    | .error e =>
      if isFallbackEligible e then
        tryCandidates keyNodeId contextType required candidates previous e
      else pure (.error e)
    | .ok providerId =>
      if previous = some providerId then
        tryCandidates keyNodeId contextType required candidates previous lastError
      else if required ≠ Capability.none ∧
          hasCapability (config.getProviderCapabilities providerId) required = false then
        tryCandidates keyNodeId contextType required candidates (some providerId)
          .unsupportedOperation
      else if config.hasCryptoHandlerFactory providerId = false then
        tryCandidates keyNodeId contextType required candidates (some providerId)
          .unsupportedOperation
      else
        match answers.createHandler providerId with
        | .ok _ => do
          let handler ← makeHandler contextType
          pure (.ok (providerId, handler))
        | .error e =>
          if isFallbackEligible e then
            tryCandidates keyNodeId contextType required candidates (some providerId) e
          else pure (.error e)

def resolveProviderAndCreateHandler (request : ContextRequest) :
    Prog (Except CryptoErrorCode (ProviderId × HandlerRef)) :=
  tryCandidates config answers clientId request.keyNodeId request.contextType
    (requiredProviderCapability request.contextType)
    (request.preference.primary :: request.preference.fallback.toList) none .providerNotAvailable

/-- The key is checked on what `PeekKeyHandle` finds under its id, then bound by the id again. -/
def bindAndAuthorizeKey (contextNodeId keyNodeId : DataNodeId) (providerId : ProviderId)
    (request : ContextRequest) : Prog (Except CryptoErrorCode (DataNodeId × EntryRef)) := do
  match requiredKeyPermission request.contextType request.mode with
  | none => pure (.error .keyOperationNotPermitted)
  | some required =>
    match ← peekKeyHandle config clientId keyNodeId with
    | .error _ => pure (.error .invalidArgument)
    | .ok handle =>
      if hasPermission (grantedPermissionsFor handle required) required then
        match ← bindKeyToContext config clientId contextNodeId keyNodeId providerId
            answers.loadKey with
        | .error _ => pure (.error .invalidArgument)
        | .ok bound => pure (.ok bound)
      else pure (.error .keyOperationNotPermitted)

structure CreatedContext where
  contextNodeId : DataNodeId
  boundKey : Option EntryRef
  deriving DecidableEq, Repr

def initializeHandler (contextNodeId : DataNodeId) (providerId : ProviderId) (handler : HandlerRef)
    (bound : Option (DataNodeId × EntryRef)) : Prog (Except CryptoErrorCode CreatedContext) := do
  match answers.initializeContext with
  | .error e => do
    let _ ← deleteNode clientId contextNodeId
    pure (.error (toCryptoErrorCode e))
  | .ok _ => do
    initializeContext handler
      { clientId := clientId
        contextNodeId := contextNodeId
        providerId := providerId
        keyNodeId := (bound.map Prod.fst).getD 0
        boundKeyHandler := bound.map Prod.snd }
    pure (.ok { contextNodeId := contextNodeId, boundKey := bound.map Prod.snd })

def createContext (connectionId : DataNodeId) (request : ContextRequest) :
    Prog (Except CryptoErrorCode CreatedContext) := do
  match ← resolveProviderAndCreateHandler config answers clientId request with
  | .error e => pure (.error e)
  | .ok (providerId, handler) =>
    match ← addChildNode clientId connectionId (.context handler) with
    | .error e => pure (.error (toCryptoErrorCode e))
    | .ok contextNodeId =>
      match request.keyNodeId with
      | none => initializeHandler answers clientId contextNodeId providerId handler none
      | some keyNodeId =>
        match ← bindAndAuthorizeKey config answers clientId contextNodeId keyNodeId providerId
            request with
        | .error e => do
          let _ ← deleteNode clientId contextNodeId
          pure (.error e)
        | .ok bound =>
          initializeHandler answers clientId contextNodeId providerId handler (some bound)

def contextCreation (connectionId : DataNodeId) (operation : SingleOperationRequest) :
    Prog (Except CryptoErrorCode CreatedContext) :=
  match parseContextRequest config operation with
  | .error e => pure (.error e)
  | .ok request => createContext config answers clientId connectionId request

end ScoreCrypto.Mediator
