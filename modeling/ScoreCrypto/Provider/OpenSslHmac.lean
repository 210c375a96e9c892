import ScoreCrypto.Lib.Run
import ScoreCrypto.Provider.HandlerUtils

/-!
The OpenSSL HMAC handler and the executor in front of it. An EVP MAC context computes over what it was
fed since its last initialization; a call that fails feeds nothing, and a context that was never
initialized can neither be fed nor finished.
-/

namespace ScoreCrypto.Provider.OpenSsl

open ControlPlane Checked

/-- The algorithm of a handler: its row in the catalog, whether OpenSSL has it, and the MAC it computes
from a key and data. -/
structure MacAlgorithm where
  supported : Bool
  outputSize : UInt16
  mac : Bytes → Bytes → Bytes
  length_mac : ∀ key data, (mac key data).length = outputSize.toNat

structure MacAnswers where
  fetch : Bool
  ctxNew : Bool
  init : Bool
  update : Bool
  final : Bool
  deriving DecidableEq, Repr

inductive MacContext where
  | fresh
  | keyed (key fed : Bytes)
  deriving DecidableEq, Repr

def MacContext.content : MacContext → Option (Bytes × Bytes)
  | .fresh => none
  | .keyed key fed => some (key, fed)

structure InitializationParams where
  boundKeyHandler : Option KeyHandler := none
  providerId : ProviderId := 2 ^ 16 - 1
  deriving DecidableEq, Repr

structure HmacHandler where
  state : StreamOperationState := .idle
  ctx : Option MacContext := none
  initParams : InitializationParams := {}
  deriving DecidableEq, Repr

namespace HmacHandler

variable (algorithm : MacAlgorithm) (answers : MacAnswers)

abbrev Call := Checked HmacHandler DaemonErrorCode

def setOperationState (state : StreamOperationState) : Call PUnit :=
  modify fun handler => { handler with state }

def getMacSize : Nat := if algorithm.supported = true then algorithm.outputSize.toNat else 0

def keyMaterial (key : KeyHandler) : Option Bytes := key.rawKeyBytes.filter (· ≠ [])

variable (initParams : InitializationParams)

def boundKey : Option Bytes :=
  initParams.boundKeyHandler.bind keyMaterial

def getBoundKeyMaterial (handler : HmacHandler) : Option Bytes := boundKey handler.initParams

def bindKey (key : KeyHandler) : Call Unit := do
  ensure (key.providerId = initParams.providerId) .invalidArgument
  ensure ((keyMaterial key).isSome = true) .invalidArgument
  modify fun handler => { handler with initParams, state := .streamInitialized }

def initializeContext : Call Unit := do
  ensure (algorithm.supported = true) .unsupportedAlgorithm
  modify fun handler => { handler with state := .idle, ctx := none }
  ensure (answers.fetch = true) .allocationFailed
  ensure (answers.ctxNew = true) .allocationFailed
  modify fun handler => { handler with ctx := some .fresh }
  match initParams.boundKeyHandler with
  | none => pure ()
  | some key => bindKey initParams key

def reset : Call Unit := do
  initializeContext algorithm answers (← get).initParams

def initMac : Call Unit := do
  let handler ← get
  let _ ← require handler.ctx .streamNotInitialized
  let key ← require handler.getBoundKeyMaterial .streamNotInitialized
  ensure (algorithm.supported = true) .unsupportedAlgorithm
  ensure (answers.init = true) .algorithmInitializationFailed
  modify fun handler => { handler with ctx := some (.keyed key []) }

def updateMac (dataToMac : Parameter) : Call Unit := do
  let handler ← get
  let ctx ← require handler.ctx .streamNotInitialized
  ensure (handler.state ≠ .idle) .streamNotInitialized
  let input ← attempt (checkAndGetInput dataToMac false)
  let content ← require ctx.content .algorithmExecutionFailed
  ensure (answers.update = true) .algorithmExecutionFailed
  modify fun handler => { handler with ctx := some (.keyed content.1 (content.2 ++ input)) }

def finalizeMacInternal (bufLen : Nat) : Call Bytes := do
  let ctx ← require (← get).ctx .streamNotInitialized
  ensure (getMacSize algorithm ≤ bufLen) .insufficientBufferSize
  let content ← require ctx.content .algorithmExecutionFailed
  ensure (answers.final = true) .algorithmExecutionFailed
  setOperationState .idle
  pure (algorithm.mac content.1 content.2)

/-- Final data is fed before the output buffer is looked at. -/
def feedFinalData : Option Parameter → Call Unit
  | none => pure ()
  | some finalDataToMac => updateMac answers finalDataToMac

def finalizeMac (macOutput finalDataToMac : Option Parameter) : Call Reply := do
  feedFinalData answers finalDataToMac
  let output ← require macOutput .invalidArgument
  let size ← attempt (checkAndGetOutput output)
  ensure (getMacSize algorithm ≤ size) .insufficientBufferSize
  let mac ← finalizeMacInternal algorithm answers size
  pure (.ofWritten mac)

def verifyMac (expectedTag : Parameter) : Call Bool := do
  let tag ← attempt (checkAndGetInput expectedTag false)
  ensure (tag.length = getMacSize algorithm) .insufficientBufferSize
  let mac ← finalizeMacInternal algorithm answers (getMacSize algorithm)
  pure (decide (tag.take mac.length = mac))

/-! ### The executor -/

def outputOf : Option Parameter → Option Parameter
  | some (.output room) => some (.output room)
  | _ => none

def executeInit (_request : List Parameter) : Call Unit := initMac algorithm answers

variable (request : List Parameter)

def executeUpdate : Call Unit := do
  let data ← require request[0]? .insufficientParameters
  updateMac answers data

def executeFinalize : Call Reply :=
  finalizeMac algorithm answers (outputOf request[0]?) request[1]?

def executeVerify : Call Reply := do
  let tag ← require request[0]? .insufficientParameters
  let verdict ← verifyMac algorithm answers tag
  pure { values := [.bool verdict] }

def executeSingleShot : Call Reply := do
  let data ← require request[0]? .insufficientParameters
  initMac algorithm answers
  updateMac answers data
  finalizeMac algorithm answers (outputOf request[1]?) none

abbrev validateStreamTransition := MacAction.validateStreamTransition

def execute (action : MacAction) (request : List Parameter) : Call Reply :=
  match action with
  | .getSize => pure { values := [.uint64 (UInt64.ofNat (getMacSize algorithm))] }
  | .reset => do
    reset algorithm answers
    pure {}
  | .singleShot => do
    ensure ((← get).state ≠ .streamActive) .operationInProgress
    let reply ← executeSingleShot algorithm answers request
    setOperationState .idle
    pure reply
  | .verify => do
    ensure ((← get).state ≠ .idle) .streamNotInitialized
    let reply ← executeVerify algorithm answers request
    setOperationState .idle
    pure reply
  | .init => do
    let nextState ← attempt (validateStreamTransition .init (← get).state)
    executeInit algorithm answers request
    setOperationState nextState
    pure {}
  | .finalize => do
    let nextState ← attempt (validateStreamTransition .finalize (← get).state)
    let reply ← executeFinalize algorithm answers request
    setOperationState nextState
    pure reply
  | .update => do
    let nextState ← attempt (validateStreamTransition .update (← get).state)
    executeUpdate answers request
    setOperationState nextState
    pure {}
  | .other code => do
    let _ ← attempt (validateStreamTransition (.other code) (← get).state)
    throw .invalidOperation

end HmacHandler

/-! ### What an action can do -/

structure MacEvent where
  action : MacAction
  request : List Parameter
  answers : MacAnswers
  deriving DecidableEq, Repr

namespace MacEvent

def HasRoom (algorithm : MacAlgorithm) (output : Option Parameter) : Prop :=
  match output with
  | some (.output (.room size)) => size ≠ 0 ∧ HmacHandler.getMacSize algorithm ≤ size
  | _ => False

instance (algorithm : MacAlgorithm) (output : Option Parameter) : Decidable (HasRoom algorithm output) := by
  unfold HasRoom
  split <;> infer_instance

def dataOf : Option Parameter → Bytes
  | some (.input (.bytes value)) => value
  | _ => []

def FeedsFinalData (event : MacEvent) : Prop :=
  dataOf event.request[1]? ≠ [] ∧ event.answers.update = true

/-- A finalize of a running stream that fails when its final data is already fed. -/
def Spills (algorithm : MacAlgorithm) (handler : HmacHandler) (event : MacEvent) : Prop :=
  event.action = .finalize ∧ handler.state = .streamActive ∧ event.FeedsFinalData ∧
    ¬(HasRoom algorithm event.request[0]? ∧ event.answers.final = true)

instance (event : MacEvent) : Decidable event.FeedsFinalData :=
  inferInstanceAs (Decidable (_ ∧ _))

instance (algorithm : MacAlgorithm) (handler : HmacHandler) (event : MacEvent) :
    Decidable (event.Spills algorithm handler) :=
  inferInstanceAs (Decidable (_ ∧ _))

end MacEvent

namespace HmacHandler

def perform (algorithm : MacAlgorithm) (handler : HmacHandler) (event : MacEvent) :
    Expected Reply × HmacHandler :=
  exec (execute algorithm event.answers event.action event.request) handler

end HmacHandler

section Steps

open HmacHandler MacEvent

inductive HmacStep (algorithm : MacAlgorithm) (handler : HmacHandler) (event : MacEvent) :
    Expected Reply → HmacHandler → Prop
  | refused {error : DaemonErrorCode} : HmacStep algorithm handler event (.error error) handler
  | asked {reply : Reply} (action : event.action = .getSize) :
      HmacStep algorithm handler event (.ok reply) handler
  | cleared {error : DaemonErrorCode} {ctx : Option MacContext} (action : event.action = .reset)
      (unkeyed : ∀ key fed, ctx ≠ some (.keyed key fed)) :
      HmacStep algorithm handler event (.error error) { handler with state := .idle, ctx }
  | renewed (action : event.action = .reset) {state : StreamOperationState}
      (ready : state = .streamInitialized ∧ handler.getBoundKeyMaterial.isSome = true ∨
        state = .idle ∧ handler.initParams.boundKeyHandler = none)
      (supported : algorithm.supported = true) :
      HmacStep algorithm handler event (.ok {}) { handler with state, ctx := some .fresh }
  | started {key : Bytes} (action : event.action = .init) (ctx : handler.ctx ≠ none)
      (bound : handler.getBoundKeyMaterial = some key) (supported : algorithm.supported = true) :
      HmacStep algorithm handler event (.ok {})
        { handler with state := .streamInitialized, ctx := some (.keyed key []) }
  | fed {key fed : Bytes} (action : event.action = .update) (running : handler.state ≠ .idle)
      (ctx : handler.ctx = some (.keyed key fed)) :
      HmacStep algorithm handler event (.ok {})
        { handler with
          state := .streamActive
          ctx := some (.keyed key (fed ++ dataOf event.request[0]?)) }
  | finished {key fed : Bytes} (action : event.action = .finalize)
      (running : handler.state = .streamActive) (ctx : handler.ctx = some (.keyed key fed)) :
      HmacStep algorithm handler event
        (.ok (.ofWritten (algorithm.mac key (fed ++ dataOf event.request[1]?))))
        { handler with
          state := .idle
          ctx := some (.keyed key (fed ++ dataOf event.request[1]?)) }
  | spilled {key fed : Bytes} {error : DaemonErrorCode} (spills : event.Spills algorithm handler)
      (ctx : handler.ctx = some (.keyed key fed)) :
      HmacStep algorithm handler event (.error error)
        { handler with ctx := some (.keyed key (fed ++ dataOf event.request[1]?)) }
  | judged {key fed : Bytes} (action : event.action = .verify) (running : handler.state ≠ .idle)
      (ctx : handler.ctx = some (.keyed key fed))
      (length : (dataOf event.request[0]?).length = getMacSize algorithm) :
      HmacStep algorithm handler event
        (.ok { values := [.bool (decide (dataOf event.request[0]? = algorithm.mac key fed))] })
        { handler with state := .idle }
  | disturbed {key fed : Bytes} {error : DaemonErrorCode} (action : event.action = .singleShot)
      (passive : handler.state ≠ .streamActive) (bound : handler.getBoundKeyMaterial = some key) :
      HmacStep algorithm handler event (.error error) { handler with ctx := some (.keyed key fed) }
  | single {key : Bytes} (action : event.action = .singleShot)
      (ready : handler.state = .streamInitialized) (bound : handler.getBoundKeyMaterial = some key)
      (nonempty : dataOf event.request[0]? ≠ []) :
      HmacStep algorithm handler event
        (.ok (.ofWritten (algorithm.mac key (dataOf event.request[0]?))))
        { handler with
          state := .idle
          ctx := some (.keyed key (dataOf event.request[0]?)) }

variable {algorithm : MacAlgorithm}

theorem dataOf_eq {parameter : Parameter} {data : Bytes}
    (input : checkAndGetInput parameter false = .ok data) :
    dataOf (some parameter) = data ∧ data ≠ [] := by
  unfold checkAndGetInput at input
  split at input
  · split_ifs at input with null off
    exact absurd off (by decide)
  · split_ifs at input with empty
    cases input
    exact ⟨rfl, fun none => empty ⟨rfl, none⟩⟩
  · cases input

theorem content_eq_some {ctx : MacContext} {content : Bytes × Bytes} (keyed : ctx.content = some content) :
    ctx = .keyed content.1 content.2 := by
  cases ctx with
  | fresh => cases keyed
  | keyed key fed =>
    cases keyed
    rfl

/-! Each function of the handler, by what holds of its result in every case. -/

section Rules

variable {answers : MacAnswers} {handler : HmacHandler} {post : Expected Unit → HmacHandler → Prop}

theorem ensures_initializeContext {initParams : InitializationParams}
    (refused : ∀ error, post (.error error) handler)
    (cleared : ∀ error ctx, (∀ key fed, ctx ≠ some (.keyed key fed)) →
      post (.error error) { handler with state := .idle, ctx })
    (unbound : algorithm.supported = true → initParams.boundKeyHandler = none →
      post (.ok ()) { handler with state := .idle, ctx := some .fresh })
    (bound : algorithm.supported = true → (HmacHandler.boundKey initParams).isSome = true →
      post (.ok ()) { initParams, state := .streamInitialized, ctx := some .fresh }) :
    Ensures post (initializeContext algorithm answers initParams) handler := by
  simp [initializeContext, refused, cleared]
  intro supported _ _
  cases found : initParams.boundKeyHandler with
  | none => exact unbound supported found
  | some key =>
    simp [bindKey, cleared]
    intro _ material
    exact bound supported (by simpa [HmacHandler.boundKey, found] using material)

theorem ensures_initMac (failed : ∀ error, post (.error error) handler)
    (started : ∀ key, handler.ctx ≠ none → handler.getBoundKeyMaterial = some key →
      algorithm.supported = true → post (.ok ()) { handler with ctx := some (.keyed key []) }) :
    Ensures post (initMac algorithm answers) handler := by
  simp [initMac, failed]
  intro ctx present key bound supported _
  exact started key (by simp [present]) bound supported

theorem ensures_updateMac {parameter : Parameter} (failed : ∀ error, post (.error error) handler)
    (fed : ∀ key fed, handler.ctx = some (.keyed key fed) → handler.state ≠ .idle →
      dataOf (some parameter) ≠ [] → answers.update = true →
      post (.ok ()) { handler with
      ctx := some (.keyed key (fed ++ dataOf (some parameter))) }) :
    Ensures post (updateMac answers parameter) handler := by
  simp [updateMac, failed]
  intro ctx present running data input key fed_ keyed updates
  have data_eq := dataOf_eq input
  have result := fed key fed_ (by rw [present, content_eq_some keyed]) running
    (by rw [data_eq.1]; exact data_eq.2) updates
  rwa [data_eq.1] at result

theorem ensures_finalizeMacInternal {post : Expected Bytes → HmacHandler → Prop} {size : Nat}
    (failed : ∀ error, ¬(getMacSize algorithm ≤ size ∧ answers.final = true ∧
      ∃ key fed, handler.ctx = some (.keyed key fed)) → post (.error error) handler)
    (finished : ∀ key fed, handler.ctx = some (.keyed key fed) →
      post (.ok (algorithm.mac key fed)) { handler with state := .idle }) :
    Ensures post (finalizeMacInternal algorithm answers size) handler := by
  simp [finalizeMacInternal, setOperationState]
  refine ⟨fun ctx present => ⟨fun room => ⟨fun key fed keyed => ⟨fun _ => ?_, fun refused => ?_⟩,
    fun unkeyed => ?_⟩, fun small => ?_⟩, fun missing => ?_⟩
  · exact finished key fed (by rw [present, content_eq_some keyed])
  · exact failed _ (by simp [refused])
  · exact failed _ (by cases ctx <;> simp_all [MacContext.content])
  · exact failed _ fun done => absurd done.1 (Nat.not_le.mpr small)
  · exact failed _ (by simp [missing])

theorem exists_of_hasRoom {output : Option Parameter} (room : HasRoom algorithm output) :
    ∃ size, output = some (.output (.room size)) ∧
      checkAndGetOutput (.output (.room size)) = .ok size ∧ getMacSize algorithm ≤ size := by
  unfold HasRoom at room
  split at room
  · next size => exact ⟨size, rfl, if_neg room.1, room.2⟩
  · cases room

theorem ensures_finalizeMac {post : Expected Reply → HmacHandler → Prop}
    {output : Option Parameter}
    (failed : ∀ error, ¬(HasRoom algorithm output ∧ answers.final = true ∧
      ∃ key fed, handler.ctx = some (.keyed key fed)) → post (.error error) handler)
    (finished : ∀ key fed, handler.ctx = some (.keyed key fed) →
      post (.ok (.ofWritten (algorithm.mac key fed))) { handler with state := .idle }) :
    Ensures post (finalizeMac algorithm answers (outputOf output) none)
      handler := by
  simp [finalizeMac, feedFinalData]
  refine ⟨fun found writable => ⟨fun size checked => ⟨fun enough => ?_, fun small => failed _ ?_⟩,
    fun error refused => failed _ ?_⟩, fun missing => failed _ ?_⟩
  · refine ensures_finalizeMacInternal (fun error unfinished => failed error fun done => ?_) finished
    exact unfinished ⟨enough, done.2⟩
  all_goals
    rintro ⟨room, _⟩
    rcases exists_of_hasRoom room with ⟨size', rfl, checked', enough⟩
  · cases writable
    cases checked.symm.trans checked'
    omega
  · cases writable
    cases refused.symm.trans checked'
  · cases missing

end Rules

variable {handler : HmacHandler} {request : List Parameter} {answers : MacAnswers}

theorem hmacStep_init :
    Ensures (HmacStep algorithm handler ⟨.init, request, answers⟩)
      (execute algorithm answers .init request) handler := by
  simp [execute, executeInit, setOperationState, HmacStep.refused]
  exact ensures_initMac (by simp [HmacStep.refused])
    fun key ctx bound supported => by simpa using .started rfl ctx bound supported

theorem hmacStep_update :
    Ensures (HmacStep algorithm handler ⟨.update, request, answers⟩)
      (execute algorithm answers .update request) handler := by
  simp [execute, executeUpdate, setOperationState, HmacStep.refused]
  intro _ parameter found
  refine ensures_updateMac (by simp [HmacStep.refused]) fun key fed keyed running _ _ => ?_
  have step : HmacStep algorithm handler ⟨.update, request, answers⟩ (.ok {}) _ :=
    .fed rfl running keyed
  simpa [found] using step

theorem hmacStep_finalize :
    Ensures (HmacStep algorithm handler ⟨.finalize, request, answers⟩)
      (execute algorithm answers .finalize request) handler := by
  simp [execute, executeFinalize, setOperationState, HmacStep.refused]
  intro active
  have finished {key fed : Bytes} (keyed : handler.ctx = some (.keyed key fed)) :
      HmacStep algorithm handler ⟨.finalize, request, answers⟩ (.ok _) _ := .finished rfl active keyed
  cases final : request[1]? with
  | none =>
    refine ensures_finalizeMac (by simp [HmacStep.refused]) fun key fed keyed => ?_
    simpa [final, dataOf, keyed] using finished keyed
  | some parameter =>
    change Ensures _ (updateMac answers parameter >>= fun _ =>
      finalizeMac algorithm answers (outputOf request[0]?) none) handler
    rw [ensures_bind]
    refine ensures_updateMac (by simp [HmacStep.refused]) fun key fed keyed running data updates => ?_
    apply continues
    refine ensures_finalizeMac (fun error unfinished => ?_) fun key' fed' keyed' => ?_
    · have spills : Spills algorithm handler ⟨.finalize, request, answers⟩ := by
        refine ⟨rfl, active, ⟨by simpa [final] using data, updates⟩, fun done => unfinished ?_⟩
        exact ⟨done.1, done.2, key, _, rfl⟩
      have step : HmacStep algorithm handler ⟨.finalize, request, answers⟩ (.error error) _ :=
        .spilled spills keyed
      simpa [final] using step
    · cases keyed'
      simpa [final] using finished keyed

theorem hmacStep_verify :
    Ensures (HmacStep algorithm handler ⟨.verify, request, answers⟩)
      (execute algorithm answers .verify request) handler := by
  simp [execute, executeVerify, verifyMac,
    setOperationState, HmacStep.refused]
  intro running parameter found tag input length
  refine ensures_finalizeMacInternal (by simp [HmacStep.refused]) fun key fed keyed => ?_
  rcases dataOf_eq input with ⟨tag_eq, nonempty⟩
  -- an unsupported algorithm has no MAC size, and no tag is that short
  have whole : tag.take (algorithm.mac key fed).length = tag := by
    rw [getMacSize] at length
    split_ifs at length with supported
    · rw [algorithm.length_mac, ← length, List.take_length]
    · exact absurd (List.length_eq_zero_iff.mp length) nonempty
  have step : HmacStep algorithm handler ⟨.verify, request, answers⟩ (.ok _) _ :=
    .judged rfl running keyed (by simpa [found, tag_eq] using length)
  simpa [whole, found, tag_eq] using step

theorem hmacStep_singleShot :
    Ensures (HmacStep algorithm handler ⟨.singleShot, request, answers⟩)
      (execute algorithm answers .singleShot request) handler := by
  simp [execute, executeSingleShot, setOperationState,
    HmacStep.refused]
  intro passive parameter found
  refine ensures_initMac (by simp [HmacStep.refused]) fun key ctx bound supported => ?_
  have disturbed {error : DaemonErrorCode} {fed : Bytes} :
      HmacStep algorithm handler ⟨.singleShot, request, answers⟩ (.error error)
        { handler with ctx := some (.keyed key fed) } := .disturbed rfl passive bound
  apply continues
  refine ensures_updateMac (by simpa using fun _ => disturbed) fun key' fed keyed running data updates => ?_
  cases keyed
  apply continues
  refine ensures_finalizeMac (by simpa using fun _ _ => disturbed) fun key' fed' keyed' => ?_
  cases keyed'
  have ready : handler.state = .streamInitialized := by
    cases state : handler.state with
    | idle => exact absurd state running
    | streamInitialized => rfl
    | streamActive => exact absurd state passive
  have step : HmacStep algorithm handler ⟨.singleShot, request, answers⟩ (.ok _) _ :=
    .single rfl ready bound (by simpa [found] using data)
  simpa [found] using step

theorem hmacStep_reset :
    Ensures (HmacStep algorithm handler ⟨.reset, request, answers⟩)
      (execute algorithm answers .reset request) handler := by
  simp [execute, reset]
  exact ensures_initializeContext (fun _ => .refused) (fun _ _ unkeyed => .cleared rfl unkeyed)
    (fun supported unbound => .renewed rfl (.inr ⟨rfl, unbound⟩) supported)
    fun supported bound => .renewed rfl (.inl ⟨rfl, bound⟩) supported

theorem hmacStep_perform (algorithm : MacAlgorithm) (handler : HmacHandler) (event : MacEvent) :
    HmacStep algorithm handler event (handler.perform algorithm event).1
      (handler.perform algorithm event).2 := by
  rcases event with ⟨action, request, answers⟩
  cases action with
  | init => exact hmacStep_init
  | update => exact hmacStep_update
  | finalize => exact hmacStep_finalize
  | verify => exact hmacStep_verify
  | getSize => exact .asked rfl
  | reset => exact hmacStep_reset
  | singleShot => exact hmacStep_singleShot
  | other code => exact .refused

variable {handler after : HmacHandler} {event : MacEvent}

theorem HmacStep.initParams_eq {result : Expected Reply}
    (step : HmacStep algorithm handler event result after) :
    after.initParams = handler.initParams := by
  cases step <;> rfl

theorem HmacStep.answered {reply : Reply}
    (step : HmacStep algorithm handler event (.ok reply) after) :
    (event.action = .finalize → ∃ key fed, handler.state = .streamActive ∧
        handler.ctx = some (.keyed key fed) ∧
        reply = .ofWritten (algorithm.mac key (fed ++ dataOf event.request[1]?))) ∧
      (event.action = .verify → ∃ key fed, handler.state ≠ .idle ∧
        handler.ctx = some (.keyed key fed) ∧ reply.values =
          [.bool (decide (dataOf event.request[0]? = algorithm.mac key fed))]) ∧
      (event.action = .singleShot →
        handler.state = .streamInitialized ∧ dataOf event.request[0]? ≠ []) := by
  cases step with
  | finished action running ctx =>
    exact ⟨fun _ => ⟨_, _, running, ctx, rfl⟩, by simp [action], by simp [action]⟩
  | judged action running ctx =>
    exact ⟨by simp [action], fun _ => ⟨_, _, running, ctx, rfl⟩, by simp [action]⟩
  | single action ready bound nonempty =>
    exact ⟨by simp [action], by simp [action], fun _ => ⟨ready, nonempty⟩⟩
  | asked action | renewed action | started action | fed action => simp [action]

end Steps

/-! ### The stream and what was accepted -/

/-- The handler, and beside it the data that was accepted since a stream was last started. -/
structure HmacStream where
  handler : HmacHandler
  accepted : Option Bytes := none
  deriving DecidableEq, Repr

def HmacHandler.created (algorithm : MacAlgorithm) (answers : MacAnswers)
    (initParams : InitializationParams) : HmacHandler :=
  (exec (HmacHandler.initializeContext algorithm answers initParams) {}).2

theorem HmacHandler.created_cases (algorithm : MacAlgorithm) (answers : MacAnswers)
    (initParams : InitializationParams) :
    ((created algorithm answers initParams).state = .idle ∧
        (created algorithm answers initParams).initParams = {}) ∨
      (created algorithm answers initParams = ⟨.streamInitialized, some .fresh, initParams⟩ ∧
        algorithm.supported = true ∧ (boundKey initParams).isSome = true) := by
  change Ensures (fun _ after => (after.state = .idle ∧ after.initParams = {}) ∨ after = _ ∧ _)
    (initializeContext algorithm answers initParams) {}
  exact ensures_initializeContext (fun _ => .inl ⟨rfl, rfl⟩) (fun _ _ _ => .inl ⟨rfl, rfl⟩)
    (fun _ _ => .inl ⟨rfl, rfl⟩) fun supported bound => .inr ⟨rfl, supported, bound⟩

namespace HmacStream

variable (algorithm : MacAlgorithm)

def step (stream : HmacStream) (event : MacEvent) : HmacStream where
  handler := (stream.handler.perform algorithm event).2
  accepted :=
    match event.action, (stream.handler.perform algorithm event).1 with
    | .init, .ok _ => some []
    | .update, .ok _ => stream.accepted.map (· ++ MacEvent.dataOf event.request[0]?)
    | _, _ => stream.accepted

structure Follows (initParams : InitializationParams) (stream : HmacStream) : Prop where
  fed : ∀ key fed, stream.handler.state ≠ .idle → stream.handler.ctx = some (.keyed key fed) →
    stream.accepted = some fed ∧ stream.handler.getBoundKeyMaterial = some key
  bound : ∀ key, stream.handler.getBoundKeyMaterial = some key → HmacHandler.boundKey initParams = some key

/-- The answers to a finalize and to a verify are about the accepted data and the final data. -/
structure Judges (initParams : InitializationParams) (stream : HmacStream) (event : MacEvent) : Prop where
  finalize {reply : Reply} : event.action = .finalize →
    (stream.handler.perform algorithm event).1 = .ok reply →
    ∃ key data, HmacHandler.boundKey initParams = some key ∧ stream.accepted = some data ∧
      reply = .ofWritten (algorithm.mac key (data ++ MacEvent.dataOf event.request[1]?))
  verify {reply : Reply} : event.action = .verify →
    (stream.handler.perform algorithm event).1 = .ok reply →
    ∃ key data, HmacHandler.boundKey initParams = some key ∧ stream.accepted = some data ∧
      reply.values = [.bool (decide (MacEvent.dataOf event.request[0]? = algorithm.mac key data))]

/-- The steps of a stream that do not leave final data behind. -/
def Clean (stream : HmacStream) (event : MacEvent) : Prop :=
  event.action ∈ [.init, .update, .finalize, .verify] ∧ ¬event.Spills algorithm stream.handler

instance (stream : HmacStream) (event : MacEvent) : Decidable (Clean algorithm stream event) :=
  inferInstanceAs (Decidable (_ ∧ _))

variable {algorithm}

theorem follows_step {initParams : InitializationParams} {stream : HmacStream} {event : MacEvent}
    (follows : stream.Follows initParams) (clean : Clean algorithm stream event) :
    (stream.step algorithm event).Follows initParams := by
  have step := hmacStep_perform algorithm stream.handler event
  refine ⟨fun key fed running keyed => ?_, fun key bound => follows.bound key ?_⟩
  · rcases clean with ⟨streams, unspilt⟩
    simp only [HmacStream.step] at running keyed ⊢
    have params := step.initParams_eq
    rw [HmacHandler.getBoundKeyMaterial, params]
    generalize stream.handler.perform algorithm event = done at step running keyed params ⊢
    rcases done with ⟨result, after⟩
    cases step with
    | refused => exact ⟨by split <;> simp_all [follows.fed key fed running keyed],
        (follows.fed key fed running keyed).2⟩
    | asked action | cleared action | renewed action | disturbed action | single action =>
    simp [action] at streams
    | started action ctx bound =>
      cases keyed
      exact ⟨by simp [action], bound⟩
    | fed action active ctx =>
      cases keyed
      rcases follows.fed _ _ active ctx with ⟨accepted, bound⟩
      exact ⟨by simp [action, accepted], bound⟩
    | finished action => exact absurd rfl running
    | spilled spills => exact absurd spills unspilt
    | judged action => exact absurd rfl running
  · rwa [HmacHandler.getBoundKeyMaterial, HmacStream.step, step.initParams_eq] at bound

theorem follows_created (answers : MacAnswers) (initParams : InitializationParams) :
    Follows initParams ⟨HmacHandler.created algorithm answers initParams, none⟩ := by
  rcases HmacHandler.created_cases algorithm answers initParams with ⟨idle, none⟩ | ⟨ready, _⟩
  · refine ⟨fun _ _ running => absurd idle running, fun key bound => ?_⟩
    simp [HmacHandler.getBoundKeyMaterial, none, HmacHandler.boundKey] at bound
  · rw [ready]
    exact ⟨fun _ _ _ keyed => by simp at keyed, fun _ bound => bound⟩

theorem judges_of_follows {initParams : InitializationParams} {stream : HmacStream}
    (follows : stream.Follows initParams) (event : MacEvent) :
    stream.Judges algorithm initParams event := by
  have step := hmacStep_perform algorithm stream.handler event
  refine ⟨fun action done => ?_, fun action done => ?_⟩
  · rw [done] at step
    rcases step.answered.1 action with ⟨key, fed, active, ctx, reply_eq⟩
    rcases follows.fed key fed (by simp [active]) ctx with ⟨accepted, bound⟩
    exact ⟨key, fed, follows.bound key bound, accepted, reply_eq⟩
  · rw [done] at step
    rcases step.answered.2.1 action with ⟨key, fed, running, ctx, reply_eq⟩
    rcases follows.fed key fed running ctx with ⟨accepted, bound⟩
    exact ⟨key, fed, follows.bound key bound, accepted, reply_eq⟩

theorem judges_run (answers : MacAnswers) (initParams : InitializationParams) (events : List MacEvent)
    (clean : Run.Meets (HmacStream.step algorithm) (Clean algorithm)
      ⟨HmacHandler.created algorithm answers initParams, none⟩ events) (event : MacEvent) :
    (Run.run (HmacStream.step algorithm) ⟨HmacHandler.created algorithm answers initParams, none⟩
      events).Judges algorithm initParams event :=
  judges_of_follows (Run.run_invariant_of_meets (Follows initParams)
    (fun _ _ follows clean => follows_step follows clean) _ events
    (follows_created answers initParams) clean) event

end HmacStream

def MacAnswers.succeeding : MacAnswers := ⟨true, true, true, true, true⟩

/-- A stand-in for a MAC of 32 bytes: the key and the data, cut or padded. -/
def paddedMac : MacAlgorithm where
  supported := true
  outputSize := 32
  mac key data := (key ++ data ++ List.replicate 32 0).take 32
  length_mac key data := by
    rw [List.length_take, List.length_append, List.length_replicate]
    exact min_eq_left (Nat.le_add_left _ _)

def sampleParams : InitializationParams := ⟨some ⟨1, some [7]⟩, 1⟩

def sampleHandler : HmacHandler := HmacHandler.created paddedMac .succeeding sampleParams

def sampleStart : List MacEvent :=
  [⟨.init, [], .succeeding⟩, ⟨.update, [.input (.bytes [97])], .succeeding⟩]

/-- A stream whose first finalize has no room, and no final data either, ends with the right MAC. -/
theorem judges_retriedFinalize :
    (Run.run (HmacStream.step paddedMac) ⟨sampleHandler, none⟩
      (sampleStart ++ [⟨.finalize, [.output (.room 16)], .succeeding⟩])).Judges paddedMac sampleParams
        ⟨.finalize, [.output (.room 32), .input (.bytes [98])], .succeeding⟩ :=
  HmacStream.judges_run .succeeding sampleParams _ (by decide) _

/-- The final data of a finalize without room is in the MAC that the repeated finalize returns. -/
theorem spilled_final_data_in_mac :
    ¬(Run.run (HmacStream.step paddedMac) ⟨sampleHandler, none⟩
      (sampleStart ++ [⟨.finalize, [.output (.room 16), .input (.bytes [98])], .succeeding⟩])).Judges
        paddedMac sampleParams ⟨.finalize, [.output (.room 32)], .succeeding⟩ := by
  intro judges
  have returned : (HmacHandler.perform paddedMac
      (Run.run (HmacStream.step paddedMac) ⟨sampleHandler, none⟩
        (sampleStart ++ [⟨.finalize, [.output (.room 16), .input (.bytes [98])], .succeeding⟩])).handler
      ⟨.finalize, [.output (.room 32)], .succeeding⟩).1 =
        .ok (.ofWritten (paddedMac.mac [7] [97, 98])) := by decide
  have only : (Run.run (HmacStream.step paddedMac) ⟨sampleHandler, none⟩
      (sampleStart ++ [⟨.finalize, [.output (.room 16), .input (.bytes [98])], .succeeding⟩])).accepted =
        some [97] := by decide
  rcases judges.finalize rfl returned with ⟨key, data, bound, accepted, wrong⟩
  cases Option.some.inj ((show HmacHandler.boundKey sampleParams = some [7] from rfl).symm.trans bound)
  cases Option.some.inj (only.symm.trans accepted)
  revert wrong
  decide

/-! ### Single shots -/

namespace HmacHandler

variable (algorithm : MacAlgorithm)

def step (handler : HmacHandler) (event : MacEvent) : HmacHandler := (handler.perform algorithm event).2

structure Ready (initParams : InitializationParams) (handler : HmacHandler) : Prop where
  bound : ∀ key, handler.getBoundKeyMaterial = some key → boundKey initParams = some key
  usable : handler.state ≠ .idle →
    handler.ctx ≠ none ∧ handler.getBoundKeyMaterial.isSome = true ∧ algorithm.supported = true

variable {algorithm}

theorem ready_step {initParams : InitializationParams} {handler : HmacHandler} (event : MacEvent)
    (ready : handler.Ready algorithm initParams) :
    (handler.step algorithm event).Ready algorithm initParams := by
  have step := hmacStep_perform algorithm handler event
  refine ⟨fun key bound => ready.bound key ?_, fun running => ?_⟩
  · rwa [getBoundKeyMaterial, HmacHandler.step, step.initParams_eq] at bound
  · rw [getBoundKeyMaterial, HmacHandler.step, step.initParams_eq]
    rw [HmacHandler.step] at running
    generalize handler.perform algorithm event = done at step running ⊢
    rcases done with ⟨result, after⟩
    cases step with
    | refused | asked => exact ready.usable running
    | cleared | finished | judged | single => exact absurd rfl running
    | renewed _ state supported =>
      rcases state with ⟨_, bound⟩ | ⟨rfl, _⟩
      · exact ⟨by simp, bound, supported⟩
      · exact absurd rfl running
    | started _ _ bound supported => exact ⟨by simp, Option.isSome_of_mem bound, supported⟩
    | fed _ active => exact ⟨by simp, (ready.usable active).2⟩
    | spilled | disturbed => exact ⟨by simp, (ready.usable running).2⟩

theorem ready_created (answers : MacAnswers) (initParams : InitializationParams) :
    (created algorithm answers initParams).Ready algorithm initParams := by
  rcases created_cases algorithm answers initParams with ⟨idle, none⟩ | ⟨same, supported, bound⟩
  · refine ⟨fun key bound => ?_, fun running => absurd idle running⟩
    simp [getBoundKeyMaterial, none, boundKey] at bound
  · rw [same]
    exact ⟨fun _ bound => bound, fun _ => ⟨by simp, bound, supported⟩⟩

theorem perform_singleShot {handler : HmacHandler} {answers : MacAnswers} {key data : Bytes} {size : Nat}
    (state : handler.state = .streamInitialized) (present : handler.ctx ≠ none)
    (bound : handler.getBoundKeyMaterial = some key) (supported : algorithm.supported = true)
    (inits : answers.init = true) (updates : answers.update = true) (finals : answers.final = true)
    (nonempty : data ≠ []) (positive : size ≠ 0) (room : getMacSize algorithm ≤ size) :
    (handler.perform algorithm ⟨.singleShot, [.input (.bytes data), .output (.room size)], answers⟩).1 =
      .ok (.ofWritten (algorithm.mac key data)) := by
  change Ensures (fun result _ => result = .ok (Reply.ofWritten (algorithm.mac key data))) _ handler
  rcases Option.ne_none_iff_exists'.mp present with ⟨ctx, ctx_eq⟩
  have input : checkAndGetInput (.input (.bytes data)) false = .ok data :=
    if_neg fun empty => nonempty empty.2
  have output : checkAndGetOutput (.output (.room size)) = .ok size := if_neg positive
  simp [execute, executeSingleShot, initMac, updateMac, finalizeMac, feedFinalData, finalizeMacInternal,
    setOperationState, outputOf, MacContext.content, state, ctx_eq, bound, supported, inits, updates,
    finals, input, output, room]

/-- After any actions, a single shot of any data with enough room is answered with its MAC exactly if the
context is initialized and there is data. -/
theorem singleShot_eq_mac_iff (answers : MacAnswers) (initParams : InitializationParams)
    (events : List MacEvent) {key : Bytes} (bound : boundKey initParams = some key)
    (data : Bytes) {size : Nat} (positive : size ≠ 0) (room : getMacSize algorithm ≤ size) :
    ((Run.run (step algorithm) (created algorithm answers initParams) events).perform algorithm
        ⟨.singleShot, [.input (.bytes data), .output (.room size)], .succeeding⟩).1 =
        .ok (.ofWritten (algorithm.mac key data)) ↔
      (Run.run (step algorithm) (created algorithm answers initParams) events).state =
        .streamInitialized ∧ data ≠ [] := by
  have ready := Run.run_invariant (Ready algorithm initParams) (fun _ event => ready_step event)
    _ events (ready_created answers initParams)
  generalize Run.run (step algorithm) (created algorithm answers initParams) events = handler at *
  constructor
  · intro done
    have step := hmacStep_perform algorithm handler
      ⟨.singleShot, [.input (.bytes data), .output (.room size)], .succeeding⟩
    rw [done] at step
    exact step.answered.2.2 rfl
  · rintro ⟨state, nonempty⟩
    rcases ready.usable (by simp [state]) with ⟨ctx, some_key, supported⟩
    rcases Option.isSome_iff_exists.mp some_key with ⟨own, own_eq⟩
    cases Option.some.inj (bound.symm.trans (ready.bound own own_eq))
    exact perform_singleShot state ctx own_eq supported rfl rfl rfl nonempty positive room

def sampleSingleShot : MacEvent :=
  ⟨.singleShot, [.input (.bytes [97]), .output (.room 32)], .succeeding⟩

/-- After a stream that was finished, and a new start. -/
theorem singleShot_restarted :
    ((Run.run (step paddedMac) sampleHandler (sampleStart ++
        [⟨.finalize, [.output (.room 32)], .succeeding⟩, ⟨.init, [], .succeeding⟩])).perform paddedMac
      sampleSingleShot).1 = .ok (.ofWritten (paddedMac.mac [7] [97])) :=
  (singleShot_eq_mac_iff .succeeding sampleParams _ rfl [97] (by decide) (by decide)).mpr
    (by decide)

/-- A second single shot finds the context idle, without any stream in progress. -/
theorem second_singleShot_refused :
    (Run.run (step paddedMac) sampleHandler [sampleSingleShot]).state ≠ .streamActive ∧
      ((Run.run (step paddedMac) sampleHandler [sampleSingleShot]).perform paddedMac
        sampleSingleShot).1 = .error .streamNotInitialized := by
  decide

end HmacHandler

end ScoreCrypto.Provider.OpenSsl
