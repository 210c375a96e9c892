import ScoreCrypto.Lib.Run
import ScoreCrypto.Provider.HandlerUtils
import ScoreCrypto.Provider.SessionPool

/-!
The PKCS#11 MAC handler and its executor, over any token that conforms to the standard in when a sign or a
verify operation begins and ends. The operation of a context is started lazily.
-/

namespace ScoreCrypto.Provider.Pkcs11

open ControlPlane Checked

inductive OperationMode where
  | generate
  | verify
  deriving DecidableEq, Repr

def ReturnValue.signatureInvalid : ReturnValue := .other 0xC0

/-- The sign and verify functions of a token on one session and key. What each returns may depend on anything
in its state. An operation ends with the success of its last function and with every error but
`CKR_BUFFER_TOO_SMALL`. -/
structure MacToken (T : Type) where
  macSize : Nat
  active : OperationMode → T → Bool
  init : OperationMode → T → ReturnValue × T
  update : OperationMode → Bytes → T → ReturnValue × T
  signFinal : Nat → T → (ReturnValue × Bytes) × T
  verifyFinal : Bytes → T → ReturnValue × T
  /-- No MAC is larger than that of HMAC-SHA512. -/
  macSize_le : macSize ≤ 64
  init_ok : ∀ mode t, (init mode t).1 = .ok →
    ∀ other, active other (init mode t).2 = (active other t || other == mode)
  init_error : ∀ mode t, (init mode t).1 ≠ .ok → ∀ other, active other (init mode t).2 = active other t
  init_active : ∀ mode t, (init mode t).1 = .operationActive → active mode t = true
  update_ok : ∀ mode data t, (update mode data t).1 = .ok →
    ∀ other, active other (update mode data t).2 = active other t
  update_error : ∀ mode data t, (update mode data t).1 ≠ .ok →
    ∀ other, active other (update mode data t).2 = (active other t && other != mode)
  sign_small : ∀ room t, (signFinal room t).1.1 = .bufferTooSmall → room < macSize
  sign_end : ∀ room t, (signFinal room t).1.1 ≠ .bufferTooSmall →
    ∀ other, active other (signFinal room t).2 = (active other t && other != .generate)
  verify_end : ∀ tag t other, active other (verifyFinal tag t).2 = (active other t && other != .verify)

structure MacInitParams where
  boundKeyHandler : Option KeyHandler := none
  providerId : ProviderId := 2 ^ 16 - 1
  mode : Option OperationMode := none
  deriving DecidableEq, Repr

structure MacSession (T : Type) where
  state : StreamOperationState := .idle
  /-- There is a key object, that is, its handle is not `CK_INVALID_HANDLE`. -/
  keyObject : Bool := false
  operationMode : OperationMode := .generate
  initParams : MacInitParams := {}
  token : T

structure MacEvent where
  action : MacAction
  request : List Parameter
  /-- What the provider's `ValidateSession` answers. -/
  sessionValid : Bool
  /-- What hinders `ResolveObject`, if the key is resolved. -/
  unresolved : Option DaemonErrorCode
  deriving DecidableEq, Repr

namespace MacSession

variable {T : Type} (token : MacToken T)

abbrev Call (T : Type) := Checked (MacSession T) DaemonErrorCode

def call {α : Type} (function : T → α × T) : Call T α :=
  modifyGet fun session =>
    ((function session.token).1, { session with token := (function session.token).2 })

/-! ### The functions of the token -/

def executeOperationInit (mode : OperationMode) : Call T Unit := do
  let answer ← call (token.init mode)
  ensure (answer = .ok) .algorithmInitializationFailed

abbrev executeSignInit : Call T Unit := executeOperationInit token .generate

abbrev executeVerifyInit : Call T Unit := executeOperationInit token .verify

def feedOperation (mode : OperationMode) (input : Bytes) : Call T Unit := do
  let answer ← call (token.update mode input)
  ensure (answer = .ok) .algorithmExecutionFailed

def executeOperationUpdate (mode : OperationMode) (request : List Parameter) : Call T Unit := do
  let data ← require request[0]? .insufficientParameters
  let input ← attempt (checkAndGetInput data false)
  feedOperation token mode input

abbrev executeSignUpdate (request : List Parameter) : Call T Unit :=
  executeOperationUpdate token .generate request

abbrev executeVerifyUpdate (request : List Parameter) : Call T Unit :=
  executeOperationUpdate token .verify request

def finishSign (room : Nat) : Call T Bytes := do
  let answer ← call (token.signFinal room)
  ensure (answer.1 = .ok) .algorithmExecutionFailed
  pure answer.2

def executeSignFinal (macSize : Nat) (request : List Parameter) : Call T Reply := do
  let output ← require request[0]? .invalidArgument
  let size ← attempt (checkAndGetOutput output)
  ensure (macSize ≤ size) .insufficientBufferSize
  let mac ← finishSign token size
  pure (.ofWritten mac)

def executeSignSingleShot (macSize : Nat) (request : List Parameter) : Call T Reply := do
  ensure (2 ≤ request.length) .insufficientParameters
  let input ← attempt (checkAndGetInput (request[0]?.getD .other) false)
  let size ← attempt (checkAndGetOutput (request[1]?.getD .other))
  ensure (macSize ≤ size) .insufficientBufferSize
  executeSignInit token
  feedOperation token .generate input
  let mac ← finishSign token size
  pure (.ofWritten mac)

/-- As many bytes of the tag are compared as the token has written. -/
def executeSignVerify (macSize : Nat) (needInit : Prop) [Decidable needInit] (request : List Parameter) :
    Call T Reply := do
  let expected ← require request[0]? .insufficientParameters
  let tag ← attempt (checkAndGetInput expected false)
  ensure (tag.length = macSize) .insufficientBufferSize
  if needInit then executeSignInit token
  let computed ← finishSign token macSize
  pure { values := [.bool (decide (tag.take computed.length = computed))] }

def executeVerifyFinal (expectedTag : Bytes) : Call T Reply := do
  let answer ← call (token.verifyFinal expectedTag)
  if answer = .signatureInvalid then pure { values := [.uint64 0] }
  else
    ensure (answer = .ok) .algorithmExecutionFailed
    pure { values := [.uint64 1] }

def executeVerifySingleShot (macSize : Nat) (request : List Parameter) : Call T Reply := do
  ensure (2 ≤ request.length) .insufficientParameters
  let input ← attempt (checkAndGetInput (request[0]?.getD .other) false)
  let tag ← attempt (checkAndGetInput (request[1]?.getD .other) false)
  ensure (tag.length = macSize) .insufficientBufferSize
  executeVerifyInit token
  feedOperation token .verify input
  executeVerifyFinal token tag

def aborted (operationMode : OperationMode) (t : T) : T :=
  if operationMode = .verify then (token.verifyFinal (List.replicate 64 0) t).2 else (token.signFinal 64 t).2

/-- An operation is aborted by ending it; how the token answers is not looked at. -/
def abort (operationMode : OperationMode) : Call T Unit :=
  call fun t => ((), aborted token operationMode t)

/-! ### The executor -/

abbrev validateStreamTransition := MacAction.validateStreamTransition

def ensureInitialized (useVerify : Bool) (currentState : StreamOperationState) : Call T Unit :=
  if currentState ≠ .streamInitialized then pure ()
  else if useVerify then executeVerifyInit token
  else executeSignInit token

def handleInit (mode : OperationMode) (useVerify : Bool) (currentState : StreamOperationState) :
    Call T (Reply × StreamOperationState) := do
  if currentState = .streamActive then abort token mode
  (if useVerify then executeVerifyInit token else executeSignInit token)
  pure ({}, .streamActive)

def handleUpdate (useVerify : Bool) (currentState : StreamOperationState) (request : List Parameter) :
    Call T (Reply × StreamOperationState) := do
  let nextState ← attempt (validateStreamTransition .update currentState)
  ensureInitialized token useVerify currentState
  (if useVerify then executeVerifyUpdate token request else executeSignUpdate token request)
  pure ({}, nextState)

def handleFinal (mode : OperationMode) (currentState : StreamOperationState) (request : List Parameter) :
    Call T (Reply × StreamOperationState) := do
  ensure (mode ≠ .verify) .invalidOperation
  let nextState ← attempt (validateStreamTransition .finalize currentState)
  let reply ← executeSignFinal token token.macSize request
  pure (reply, nextState)

def handleVerify (useVerify : Bool) (currentState : StreamOperationState) (request : List Parameter) :
    Call T (Reply × StreamOperationState) := do
  ensure (currentState ≠ .idle) .streamNotInitialized
  if useVerify then do
    let expected ← require request[0]? .insufficientParameters
    let tag ← attempt (checkAndGetInput expected false)
    ensureInitialized token true currentState
    let reply ← executeVerifyFinal token tag
    pure (reply, .idle)
  else do
    let reply ← executeSignVerify token token.macSize (currentState = .streamInitialized) request
    pure (reply, .idle)

def handleSingleShot (useVerify : Bool) (currentState : StreamOperationState) (request : List Parameter) :
    Call T (Reply × StreamOperationState) := do
  ensure (currentState = .streamInitialized) .operationInProgress
  let reply ← if useVerify then executeVerifySingleShot token token.macSize request
    else executeSignSingleShot token token.macSize request
  pure (reply, .idle)

def executeAction (mode : OperationMode) (currentState : StreamOperationState) (action : MacAction)
    (request : List Parameter) : Call T (Reply × StreamOperationState) :=
  let useVerify := decide (mode = .verify)
  match action with
  | .singleShot => handleSingleShot token useVerify currentState request
  | .init => handleInit token mode useVerify currentState
  | .update => handleUpdate token useVerify currentState request
  | .finalize => handleFinal token mode currentState request
  | .verify => handleVerify token useVerify currentState request
  | _ => throw .invalidOperation

/-! ### The handler -/

def bindKey (initParams : MacInitParams) (unresolved : Option DaemonErrorCode) (key : KeyHandler) :
    Call T Unit := do
  ensure (key.providerId = initParams.providerId) .invalidArgument
  match unresolved with
  | some error => throw error
  | none => modify fun session => { session with
    keyObject := true
    operationMode := initParams.mode.getD session.operationMode
    state := .streamInitialized
    initParams }

def initializeContext (supported : Bool) (initParams : MacInitParams)
    (unresolved : Option DaemonErrorCode) : Call T Unit := do
  ensure (supported = true) .unsupportedAlgorithm
  modify fun session => { session with state := .idle, keyObject := false }
  match initParams.boundKeyHandler with
  | none => pure ()
  | some key => bindKey initParams unresolved key

def reset (supported : Bool) (unresolved : Option DaemonErrorCode) : Call T Unit := do
  let session ← get
  if session.state ≠ .idle then abort token session.operationMode
  modify fun session => { session with keyObject := false, state := .idle }
  initializeContext supported session.initParams unresolved

def executeOperation (action : MacAction) (request : List Parameter) : Call T Reply := do
  let session ← get
  ensure (session.keyObject = true) .streamNotInitialized
  let done ← executeAction token session.operationMode session.state action request
  modify fun session => { session with state := done.2 }
  pure done.1

def execute (supported : Bool) (event : MacEvent) : Call T Reply := do
  ensure (event.sessionValid = true) .sessionInvalid
  if event.action = .getSize then
    pure { values := [.uint64 (UInt64.ofNat (if supported then token.macSize else 0))] }
  else if event.action = .reset then do
    reset token supported event.unresolved
    pure {}
  else executeOperation token event.action event.request

/-! ### The mirror -/

/-- At most the operation of one mode is active. -/
def Holds (mode : OperationMode) (on : Bool) (t : T) : Prop :=
  ∀ other, token.active other t = (on && other == mode)

/-- The stream is active exactly if the token has an operation. -/
def Mirrors (session : MacSession T) : Prop :=
  session.state = .streamActive ↔ ∃ mode, token.active mode session.token = true

/-- The token has at most the operation of the handler's mode, and has it while the stream is active. -/
def Tracks (session : MacSession T) : Prop :=
  Holds token session.operationMode (session.state == .streamActive) session.token

def inputOf (request : List Parameter) : Option Bytes :=
  request[0]?.bind fun parameter => (checkAndGetInput parameter false).toOption

def roomOf (request : List Parameter) : Option Nat :=
  request[0]?.bind fun parameter => (checkAndGetOutput parameter).toOption

/-- The functions of the token that an action on a key reaches in the state of the session are answered so that
the handler can keep track. -/
def Settles (session : MacSession T) (event : MacEvent) : Prop :=
  event.sessionValid = true → session.keyObject = true →
    match event.action, session.state with
    -- the operation that is to replace the aborted one begins
    | .init, .streamActive =>
      (token.init session.operationMode (aborted token session.operationMode session.token)).1 = .ok
    -- an operation that begins with the first update gets its data
    | .update, .streamInitialized =>
      (token.init session.operationMode session.token).1 = .ok → (inputOf event.request).isSome = true
    -- what reaches the operation of an active stream succeeds
    | .update, .streamActive =>
      ∀ data ∈ inputOf event.request, (token.update session.operationMode data session.token).1 = .ok
    | .finalize, .streamActive =>
      ∀ size ∈ roomOf event.request, session.operationMode = .generate → token.macSize ≤ size →
        (token.signFinal size session.token).1.1 = .ok
    | .verify, .streamActive =>
      ∀ tag ∈ inputOf event.request,
        if session.operationMode = .verify then
          (token.verifyFinal tag session.token).1 = .ok ∨
            (token.verifyFinal tag session.token).1 = .signatureInvalid
        else tag.length = token.macSize → (token.signFinal token.macSize session.token).1.1 = .ok
    | _, _ => True

instance (session : MacSession T) (event : MacEvent) : Decidable (Settles token session event) := by
  unfold Settles
  split <;> infer_instance

variable {token}

theorem mirrors_of_tracks {session : MacSession T} (tracks : session.Tracks token) :
    session.Mirrors token := by
  simp [Mirrors, tracks _]

/-! Each call of the token, by what it leaves of the operation. -/

section Rules

variable {session : MacSession T} {mode : OperationMode} {on : Bool}

@[simp] theorem ensures_call {α : Type} {post : Expected α → MacSession T → Prop}
    {function : T → α × T} : Ensures post (call function) session ↔
      post (.ok (function session.token).1) { session with token := (function session.token).2 } := Iff.rfl

theorem ensures_executeOperationInit {post : Expected Unit → MacSession T → Prop}
    (holds : Holds token mode on session.token)
    (begun : (token.init mode session.token).1 = .ok → ∀ t, Holds token mode true t →
      post (.ok ()) { session with token := t })
    (failed : (token.init mode session.token).1 ≠ .ok → ∀ error t, Holds token mode on t →
      post (.error error) { session with token := t }) :
    Ensures post (executeOperationInit token mode) session := by
  simp [executeOperationInit]
  refine ⟨fun ok => begun ok _ fun other => ?_, fun error => failed error _ _ fun other => ?_⟩
  · rw [token.init_ok _ _ ok, holds]
    cases on <;> simp
  · rw [token.init_error _ _ error, holds]

theorem ensures_feedOperation {post : Expected Unit → MacSession T → Prop} {input : Bytes}
    (holds : Holds token mode on session.token)
    (fed : (token.update mode input session.token).1 = .ok → ∀ t, Holds token mode on t →
      post (.ok ()) { session with token := t })
    (failed : (token.update mode input session.token).1 ≠ .ok → ∀ error t, Holds token mode false t →
      post (.error error) { session with token := t }) :
    Ensures post (feedOperation token mode input) session := by
  simp [feedOperation]
  refine ⟨fun ok => fed ok _ fun other => ?_, fun error => failed error _ _ fun other => ?_⟩
  · rw [token.update_ok _ _ _ ok, holds]
  · rw [token.update_error _ _ _ error, holds]
    cases on <;> simp [Bool.and_comm]

theorem holds_signFinal {room : Nat} (enough : token.macSize ≤ room)
    (holds : Holds token .generate on session.token) :
    Holds token .generate false (token.signFinal room session.token).2 := by
  intro other
  rw [token.sign_end _ _ fun small => absurd (token.sign_small _ _ small) (Nat.not_lt.mpr enough), holds]
  cases on <;> simp [Bool.and_comm]

theorem holds_verifyFinal {tag : Bytes} (holds : Holds token .verify on session.token) :
    Holds token .verify false (token.verifyFinal tag session.token).2 := by
  intro other
  rw [token.verify_end, holds]
  cases on <;> simp [Bool.and_comm]

theorem ensures_finishSign {post : Expected Bytes → MacSession T → Prop} {room : Nat}
    (holds : Holds token .generate on session.token) (enough : token.macSize ≤ room)
    (finished : ∀ mac t, Holds token .generate false t → post (.ok mac) { session with token := t })
    (failed : (token.signFinal room session.token).1.1 ≠ .ok → ∀ error t, Holds token .generate false t →
      post (.error error) { session with token := t }) :
    Ensures post (finishSign token room) session := by
  simp [finishSign]
  refine fun answer mac done => ⟨fun _ => finished _ _ (holds_signFinal enough holds), fun error =>
    failed ?_ _ _ (holds_signFinal enough holds)⟩
  rwa [done]

theorem ensures_executeVerifyFinal {post : Expected Reply → MacSession T → Prop} {tag : Bytes}
    (holds : Holds token .verify on session.token)
    (judged : ∀ reply t, Holds token .verify false t → post (.ok reply) { session with token := t })
    (failed : ¬((token.verifyFinal tag session.token).1 = .ok ∨
        (token.verifyFinal tag session.token).1 = .signatureInvalid) →
      ∀ error t, Holds token .verify false t → post (.error error) { session with token := t }) :
    Ensures post (executeVerifyFinal token tag) session := by
  have ended : Holds token .verify false (token.verifyFinal tag session.token).2 := holds_verifyFinal holds
  simp [executeVerifyFinal]
  refine ⟨fun _ => judged _ _ ended, fun valid => ⟨fun _ => judged _ _ ended, fun error =>
    failed (fun known => known.elim error valid) _ _ ended⟩⟩

theorem holds_aborted (holds : Holds token mode on session.token) :
    Holds token mode false (aborted token mode session.token) := by
  cases mode with
  | generate => exact holds_signFinal token.macSize_le holds
  | verify => exact holds_verifyFinal holds

end Rules

/-- What an action of the executor leaves: the handler as it was, and a token that agrees with the next state if
there is one, and else with the current one. -/
def Agrees (token : MacToken T) (session : MacSession T)
    (result : Expected (Reply × StreamOperationState)) (after : MacSession T) : Prop :=
  after = { session with token := after.token } ∧
    match result with
    | .ok done => Holds token session.operationMode (done.2 == .streamActive) after.token
    | .error _ => Holds token session.operationMode (session.state == .streamActive) after.token

section Actions

variable {session : MacSession T} {request : List Parameter} {unresolved : Option DaemonErrorCode}
  {t : T}

theorem agrees_ok {reply : Reply} {next : StreamOperationState}
    (holds : Holds token session.operationMode (next == .streamActive) t) :
    Agrees token session (.ok (reply, next)) { session with token := t } := ⟨rfl, holds⟩

variable {error : DaemonErrorCode}

theorem agrees_error (holds : Holds token session.operationMode (session.state == .streamActive) t) :
    Agrees token session (.error error) { session with token := t } := ⟨rfl, holds⟩

variable {mode : OperationMode}

theorem agrees_stopped (lazy : session.state = .streamInitialized)
    (mode_eq : session.operationMode = mode) (holds : Holds token mode false t) :
    Agrees token session (.error error) { session with token := t } := by
  have passive : (session.state == .streamActive) = false := by simp [lazy]
  exact agrees_error (by rwa [passive, mode_eq])

theorem agrees_done {reply : Reply} (mode_eq : session.operationMode = mode)
    (holds : Holds token mode false t) :
    Agrees token session (.ok (reply, .idle)) { session with token := t } :=
  agrees_ok (by rwa [mode_eq])

variable {parameter : Parameter}

theorem inputOf_eq_some {data : Bytes} (found : request[0]? = some parameter)
    (input : checkAndGetInput parameter false = .ok data) : inputOf request = some data := by
  rw [inputOf, found, Option.bind_some, input]
  rfl

theorem inputOf_eq_none (found : request[0]? = some parameter)
    (refused : checkAndGetInput parameter false = .error error) :
    inputOf request = none := by
  rw [inputOf, found, Option.bind_some, refused]
  rfl

theorem roomOf_eq_some {size : Nat} (found : request[0]? = some parameter)
    (output : checkAndGetOutput parameter = .ok size) : roomOf request = some size := by
  rw [roomOf, found, Option.bind_some, output]
  rfl

theorem init_of_mode :
    (if decide (mode = .verify) = true then executeVerifyInit token else executeSignInit token) =
      executeOperationInit token mode := by
  cases mode <;> rfl

theorem update_of_mode :
    (if decide (mode = .verify) = true then executeVerifyUpdate token request
      else executeSignUpdate token request) = executeOperationUpdate token mode request := by
  cases mode <;> rfl

theorem active_of_begun (running : session.state ≠ .idle) (begun : session.state ≠ .streamInitialized) :
    session.state = .streamActive := by
  cases state : session.state with
  | idle => exact absurd state running
  | streamInitialized => exact absurd state begun
  | streamActive => rfl

section

variable (tracks : session.Tracks token)

include tracks

theorem agrees_init
    (settles : session.Settles token ⟨.init, request, true, unresolved⟩) (key : session.keyObject = true) :
    Ensures (Agrees token session)
      (handleInit token session.operationMode (decide (session.operationMode = .verify)) session.state)
      session := by
  simp only [handleInit, init_of_mode]
  simp
  refine ⟨fun active => ?_, fun passive => ?_⟩
  · have restarts : (token.init session.operationMode
        (aborted token session.operationMode session.token)).1 = .ok := by
      simpa [Settles, active, key] using settles
    simp [abort]
    refine ensures_executeOperationInit (holds_aborted tracks) ?_ fun error => absurd restarts error
    exact fun _ t holds => agrees_ok holds
  · refine ensures_executeOperationInit tracks ?_ ?_
    · exact fun _ t holds => agrees_ok holds
    · exact fun _ _ t holds => agrees_error holds

theorem agrees_update
    (settles : session.Settles token ⟨.update, request, true, unresolved⟩) (key : session.keyObject = true) :
    Ensures (Agrees token session)
      (handleUpdate token (decide (session.operationMode = .verify)) session.state request) session := by
  have unmoved {error : DaemonErrorCode} : Agrees token session (.error error) session :=
    agrees_error tracks
  simp only [handleUpdate, ensureInitialized, init_of_mode, update_of_mode]
  simp [executeOperationUpdate, unmoved]
  refine fun running => ⟨fun lazy => ?_, fun begun => ?_⟩
  · -- the operation begins before the parameter is looked at
    have readable : (token.init session.operationMode session.token).1 = .ok →
        (inputOf request).isSome = true := by
      simpa [Settles, lazy, key] using settles
    refine ensures_executeOperationInit tracks (fun ok t holds => ?_) ?_
    · apply continues
      refine ⟨fun parameter found => ⟨fun data input => ?_, fun error refused => ?_⟩, fun empty => ?_⟩
      · refine ensures_feedOperation holds ?_ ?_
        · exact fun _ t holds => agrees_ok holds
        · exact fun _ _ t holds => agrees_stopped lazy rfl holds
      · have some_data := readable ok
        rw [inputOf_eq_none found refused] at some_data
        cases some_data
      · have some_data := readable ok
        rw [empty] at some_data
        cases some_data
    · exact fun _ error t holds => by simpa using agrees_error holds
  · have active := active_of_begun running begun
    have feeds : ∀ data ∈ inputOf request,
        (token.update session.operationMode data session.token).1 = .ok := by
      simpa [Settles, active, key] using settles
    intro parameter found data input
    refine ensures_feedOperation tracks ?_ fun error => absurd (feeds data (inputOf_eq_some found input)) error
    exact fun _ t holds => agrees_ok (by rwa [active] at holds)

theorem agrees_final
    (settles : session.Settles token ⟨.finalize, request, true, unresolved⟩) (key : session.keyObject = true) :
    Ensures (Agrees token session)
      (handleFinal token session.operationMode session.state request) session := by
  have unmoved {error : DaemonErrorCode} : Agrees token session (.error error) session :=
    agrees_error tracks
  simp [handleFinal, executeSignFinal, unmoved]
  intro generate active parameter found size output enough
  have mode : session.operationMode = .generate := by
    cases mode : session.operationMode with
    | generate => rfl
    | verify => exact absurd mode generate
  have finishes : ∀ size ∈ roomOf request, token.macSize ≤ size →
      (token.signFinal size session.token).1.1 = .ok := by
    simpa [Settles, active, key, mode] using settles
  rw [Tracks, mode] at tracks
  refine ensures_finishSign tracks enough (fun mac t holds => ?_) fun error =>
    absurd (finishes size (roomOf_eq_some found output) enough) error
  exact agrees_done mode holds

theorem agrees_verify
    (settles : session.Settles token ⟨.verify, request, true, unresolved⟩) (key : session.keyObject = true) :
    Ensures (Agrees token session)
      (handleVerify token (decide (session.operationMode = .verify)) session.state request) session := by
  have unmoved {error : DaemonErrorCode} : Agrees token session (.error error) session :=
    agrees_error tracks
  cases mode : session.operationMode with
  | generate =>
    rw [Tracks, mode] at tracks
    simp [handleVerify, executeSignVerify, unmoved]
    refine fun running parameter found tag input length => ⟨fun lazy => ?_, fun begun => ?_⟩
    · refine ensures_executeOperationInit tracks (fun _ t holds => ?_) ?_
      · apply continues
        refine ensures_finishSign holds le_rfl ?_ ?_
        · exact fun _ t holds => agrees_done mode holds
        · exact fun _ _ t holds => agrees_stopped lazy mode holds
      · exact fun _ error t holds => by
          simpa using agrees_error (by rwa [mode])
    · have active := active_of_begun running begun
      have finishes : ∀ tag ∈ inputOf request, tag.length = token.macSize →
          (token.signFinal token.macSize session.token).1.1 = .ok := by
        simpa [Settles, active, key, mode] using settles
      refine ensures_finishSign tracks le_rfl ?_ fun error =>
        absurd (finishes tag (inputOf_eq_some found input) length) error
      exact fun _ t holds => agrees_done mode holds
  | verify =>
    rw [Tracks, mode] at tracks
    simp [handleVerify, ensureInitialized, unmoved]
    refine fun running parameter found tag input => ⟨fun lazy => ?_, fun begun => ?_⟩
    · refine ensures_executeOperationInit tracks (fun _ t holds => ?_) ?_
      · apply continues
        refine ensures_executeVerifyFinal holds ?_ ?_
        · exact fun _ t holds => agrees_done mode holds
        · exact fun _ _ t holds => agrees_stopped lazy mode holds
      · exact fun _ error t holds => by
          simpa using agrees_error (by rwa [mode])
    · have active := active_of_begun running begun
      have judges : ∀ tag ∈ inputOf request, (token.verifyFinal tag session.token).1 = .ok ∨
          (token.verifyFinal tag session.token).1 = .signatureInvalid := by
        simpa [Settles, active, key, mode] using settles
      refine ensures_executeVerifyFinal tracks ?_ fun error =>
        absurd (judges tag (inputOf_eq_some found input)) error
      exact fun _ t holds => agrees_done mode holds

theorem agrees_singleShot :
    Ensures (Agrees token session)
      (handleSingleShot token (decide (session.operationMode = .verify)) session.state request) session := by
  have unmoved {error : DaemonErrorCode} : Agrees token session (.error error) session :=
    agrees_error tracks
  cases mode : session.operationMode with
  | generate =>
    rw [Tracks, mode] at tracks
    simp [handleSingleShot, executeSignSingleShot, unmoved]
    intro lazy _ input _ size _ enough
    refine ensures_executeOperationInit tracks (fun _ t holds => ?_) fun _ error t holds => by
      simpa using agrees_error (by rwa [mode])
    apply continues
    refine ensures_feedOperation holds (fun _ t holds => ?_) fun _ error t holds => by
      simpa using agrees_stopped lazy mode holds
    apply continues
    refine ensures_finishSign holds enough ?_ ?_
    · exact fun _ t holds => agrees_done mode holds
    · exact fun _ _ t holds => agrees_stopped lazy mode holds
  | verify =>
    rw [Tracks, mode] at tracks
    simp [handleSingleShot, executeVerifySingleShot, unmoved]
    intro lazy _ input _ tag _ _
    refine ensures_executeOperationInit tracks (fun _ t holds => ?_) fun _ error t holds => by
      simpa using agrees_error (by rwa [mode])
    apply continues
    refine ensures_feedOperation holds (fun _ t holds => ?_) fun _ error t holds => by
      simpa using agrees_stopped lazy mode holds
    apply continues
    refine ensures_executeVerifyFinal holds ?_ ?_
    · exact fun _ t holds => agrees_done mode holds
    · exact fun _ _ t holds => agrees_stopped lazy mode holds

theorem tracks_executeOperation {action : MacAction}
    (settles : session.Settles token ⟨action, request, true, unresolved⟩) :
    Ensures (fun _ after => after.Tracks token) (executeOperation token action request) session := by
  simp [executeOperation]
  refine ⟨fun key => ?_, fun _ => tracks⟩
  have lift {p : Call T (Reply × StreamOperationState)} (agrees : Ensures (Agrees token session) p session) :
      Ensures (fun result after =>
        (∀ reply next, result = .ok (reply, next) → Tracks token { after with state := next }) ∧
          ∀ error, result = .error error → after.Tracks token) p session := by
    rcases agrees with ⟨same, holds⟩
    refine ⟨fun reply next done => ?_, fun error failed => ?_⟩
    · rw [done] at holds
      rw [same]
      exact holds
    · rw [failed] at holds
      rw [same]
      exact holds
  cases action with
  | init => exact lift (agrees_init tracks settles key)
  | update => exact lift (agrees_update tracks settles key)
  | finalize => exact lift (agrees_final tracks settles key)
  | verify => exact lift (agrees_verify tracks settles key)
  | singleShot => exact lift (agrees_singleShot tracks)
  | getSize | reset | other => exact lift (agrees_error tracks)

end

theorem holds_false {first second : OperationMode} (holds : Holds token first false t) :
    Holds token second false t := fun other => by simpa using holds other

variable {supported : Bool}

theorem tracks_initializeContext {initParams : MacInitParams} (idle : session.state = .idle)
    (holds : Holds token mode false session.token) :
    Ensures (fun _ after => after.Tracks token) (initializeContext supported initParams unresolved)
      session := by
  have quiet {mode : OperationMode} : Holds token mode false session.token := holds_false holds
  have start : session.Tracks token := by
    rw [Tracks, idle]
    exact quiet
  simp [initializeContext]
  refine ⟨fun _ => ?_, fun _ => start⟩
  cases initParams.boundKeyHandler with
  | none => exact quiet
  | some key =>
    cases unresolved <;> simp [bindKey]
    · exact ⟨fun _ => quiet, fun _ => quiet⟩
    · exact quiet

theorem tracks_reset (tracks : session.Tracks token) :
    Ensures (fun _ after => after.Tracks token) (reset token supported unresolved) session := by
  have ended := holds_aborted tracks
  simp [reset, abort]
  refine ⟨fun idle => ?_, fun running => ?_⟩
  · rw [Tracks, idle] at tracks
    exact tracks_initializeContext rfl tracks
  · exact tracks_initializeContext rfl ended

theorem tracks_execute {event : MacEvent} (tracks : session.Tracks token)
    (settles : session.Settles token event) :
    Ensures (fun _ after => after.Tracks token) (execute token supported event) session := by
  rcases event with ⟨action, request, valid, unresolved⟩
  simp only [execute, ensures_bind, ensures_ensure]
  refine ⟨fun valid => ⟨fun _ _ => ?_, by simp⟩, fun _ => ⟨by simp, fun _ _ => tracks⟩⟩
  cases valid
  simp
  exact ⟨fun _ => tracks, fun _ => ⟨fun _ => tracks_reset tracks, fun _ =>
    tracks_executeOperation tracks settles⟩⟩

end Actions

/-! ### Whole runs -/

def step (token : MacToken T) (supported : Bool) (session : MacSession T) (event : MacEvent) : MacSession T :=
  (exec (execute token supported event) session).2

def created (supported : Bool) (initParams : MacInitParams) (unresolved : Option DaemonErrorCode) (t : T) :
    MacSession T :=
  (exec (initializeContext supported initParams unresolved) { token := t }).2

/-- The state of the token in which an INIT or an UPDATE begins an operation, if it does. -/
def beginsAt (token : MacToken T) (session : MacSession T) (action : MacAction) : Option T :=
  match action, session.state with
  | .init, .streamActive => some (aborted token session.operationMode session.token)
  | .init, _ => some session.token
  | .update, .streamInitialized => some session.token
  | _, _ => none

/-- The handler and the token agree, and no operation is in the way of the one that an INIT or an UPDATE
begins. -/
structure Consistent (token : MacToken T) (session : MacSession T) : Prop where
  mirrors : session.Mirrors token
  free : ∀ action, ∀ t ∈ beginsAt token session action,
    (token.init session.operationMode t).1 ≠ .operationActive

theorem consistent_of_tracks {session : MacSession T} (tracks : session.Tracks token) :
    session.Consistent token := by
  refine ⟨mirrors_of_tracks tracks, fun action t begins busy => ?_⟩
  have active := token.init_active _ _ busy
  have passive (state : session.state ≠ .streamActive) :
      token.active session.operationMode session.token = false := by
    rw [tracks session.operationMode]
    simp [state]
  unfold beginsAt at begins
  split at begins
  · cases begins
    simp [holds_aborted tracks session.operationMode] at active
  · next state =>
      cases begins
      rw [passive state] at active
      cases active
  · next state =>
      cases begins
      rw [passive (by simp [state])] at active
      cases active
  · cases begins

theorem holds_inactive {t : T} (mode : OperationMode) (inactive : ∀ mode, token.active mode t = false) :
    Holds token mode false t := fun other => by simp [inactive]

/-- From a session without an operation, whatever is asked and whatever the token answers. -/
theorem consistent_run (token : MacToken T) (supported : Bool) (initParams : MacInitParams)
    (unresolved : Option DaemonErrorCode) {start : T} (inactive : ∀ mode, token.active mode start = false)
    (events : List MacEvent)
    (settles : Run.Meets (step token supported) (Settles token)
      (created supported initParams unresolved start) events) :
    (Run.run (step token supported) (created supported initParams unresolved start) events).Consistent
      token :=
  consistent_of_tracks (Run.run_invariant_of_meets (Tracks token)
    (fun _ _ tracks settles => tracks_execute tracks settles) _ events
    (tracks_initializeContext rfl (holds_inactive .generate inactive)) settles)

def sampleToken : MacToken (OperationMode → Bool) where
  macSize := 32
  active mode t := t mode
  init mode t := if t mode then (.operationActive, t) else (.ok, fun other => t other || other == mode)
  update mode _ t := if t mode then (.ok, t) else (.operationNotInitialized, t)
  signFinal room t :=
    if t .generate = false then ((.operationNotInitialized, []), t)
    else if room < 32 then ((.bufferTooSmall, []), t)
    else ((.ok, List.replicate 32 0), fun other => t other && other != .generate)
  verifyFinal tag t :=
    (if t .verify = false then .operationNotInitialized
      else if tag = List.replicate 32 0 then .ok else .signatureInvalid,
      fun other => t other && other != .verify)
  macSize_le := Nat.le_add_right 32 32
  init_ok mode t ok other := by
    split_ifs at ok ⊢
    rfl
  init_error mode t error other := by
    split_ifs at error ⊢
    · rfl
    · exact absurd rfl error
  init_active mode t busy := by
    split_ifs at busy with active
    exact active
  update_ok mode _ t ok other := by
    split_ifs at ok ⊢
    rfl
  update_error mode _ t error other := by
    split_ifs at error ⊢ with active
    · exact absurd rfl error
    · by_cases same : other = mode <;> simp_all
  sign_small room t small := by
    split_ifs at small with _ few
    exact few
  sign_end room t _ other := by
    split_ifs with idle few
    · cases other <;> simp_all
    · simp_all
    · rfl
  verify_end _ t other := rfl

def sampleParams : MacInitParams := ⟨some ⟨2, none⟩, 2, some .generate⟩

def sampleSession : MacSession (OperationMode → Bool) := created true sampleParams none fun _ => false

/-- A stream that is started again and finished, and a refused update before it. -/
theorem consistent_restarted :
    (Run.run (step sampleToken true) sampleSession
      [⟨.init, [], true, none⟩, ⟨.update, [], true, none⟩, ⟨.update, [.input (.bytes [1])], true, none⟩,
        ⟨.init, [], true, none⟩, ⟨.finalize, [.output (.room 32)], true, none⟩]).Consistent sampleToken :=
  consistent_run sampleToken true sampleParams none (fun _ => rfl) _ (by decide)

/-- An update without data, on a new context, leaves an operation that is in the way of the next INIT. -/
theorem empty_update_leaves_operation :
    ¬(Run.run (step sampleToken true) sampleSession [⟨.update, [], true, none⟩]).Mirrors sampleToken ∧
      (exec (execute sampleToken true ⟨.init, [], true, none⟩)
        (Run.run (step sampleToken true) sampleSession [⟨.update, [], true, none⟩])).1 =
          .error .algorithmInitializationFailed := by
  constructor
  · intro mirrors
    have active : (Run.run (step sampleToken true) sampleSession [⟨.update, [], true, none⟩]).state =
        .streamActive := mirrors.mpr ⟨.generate, by decide⟩
    revert active
    decide
  · decide

end MacSession

end ScoreCrypto.Provider.Pkcs11
