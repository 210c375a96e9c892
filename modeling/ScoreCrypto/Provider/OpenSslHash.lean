import ScoreCrypto.Lib.Run
import ScoreCrypto.Provider.HandlerUtils

/-!
The OpenSSL hash handler and its executor. An EVP digest context holds what it was fed since its
initialization; every call of OpenSSL may fail.
-/

namespace ScoreCrypto.Provider.OpenSsl

open ControlPlane Checked

/-- The algorithm of a handler: its row in the catalog, whether OpenSSL has it, and the digest it
computes. -/
structure HashAlgorithm where
  isHash : Bool
  supported : Bool
  outputSize : UInt16
  digest : Bytes → Bytes
  digestSize : Nat
  length_digest : ∀ data, (digest data).length = digestSize

structure DigestAnswers where
  mdCtxNew : Bool
  digestInit : Bool
  digestUpdate : Bool
  mdCtxSize : Bool
  digestFinal : Bool
  mdSize : Bool
  digest : Bool
  deriving DecidableEq, Repr

structure HashHandler where
  state : StreamOperationState := .idle
  /-- `mCurrentStreamContext`, if there is one, by what it was fed. -/
  stream : Option Bytes := none
  deriving DecidableEq, Repr

namespace HashHandler

variable (algorithm : HashAlgorithm) (answers : DigestAnswers)

abbrev Call := Checked HashHandler DaemonErrorCode

def setOperationState (state : StreamOperationState) : Call PUnit :=
  modify fun handler => { handler with state }

def abandon {α : Type} (error : DaemonErrorCode) : Call α := do
  modify fun _ => { state := .idle, stream := none }
  throw error

def cleanupStreamContext : Call PUnit := modify fun handler => { handler with stream := none }

def reset : Call Unit := modify fun _ => { state := .idle, stream := none }

def initHash : Call Unit := do
  ensure (algorithm.supported = true) .unsupportedAlgorithm
  ensure ((← get).stream.isSome = true ∨ answers.mdCtxNew = true) .contextCreationFailed
  if answers.digestInit = true then modify fun handler => { handler with stream := some [] }
  else abandon .algorithmInitializationFailed

def updateHash (dataToHash : Bytes) : Call Unit := do
  let fed ← require (← get).stream .streamNotInitialized
  if answers.digestUpdate = true then
    modify fun handler => { handler with stream := some (fed ++ dataToHash) }
  else abandon .algorithmExecutionFailed

/-- A buffer that is too small leaves the stream as it is. -/
def finalizeHash (hashOutput : Nat) : Call Reply := do
  let fed ← require (← get).stream .streamNotInitialized
  if answers.mdCtxSize = false then abandon .algorithmExecutionFailed
  ensure (algorithm.digestSize ≤ hashOutput) .insufficientBufferSize
  if answers.digestFinal = false then abandon .algorithmExecutionFailed
  cleanupStreamContext
  pure (.ofWritten (algorithm.digest fed))

def singleShotHash (dataToHash : Bytes) (outputHash : Nat) : Call Reply := do
  ensure (algorithm.supported = true) .unsupportedAlgorithm
  ensure (answers.mdSize = true) .algorithmExecutionFailed
  ensure (algorithm.digestSize ≤ outputHash) .insufficientBufferSize
  ensure (answers.digest = true) .algorithmExecutionFailed
  pure (.ofWritten (algorithm.digest dataToHash))

/-! ### The executor -/

variable (request : List Parameter)

def executeInit : Call Unit := do
  attempt (validateParameterCount request 0)
  initHash algorithm answers

def executeUpdate : Call Unit := do
  attempt (validateParameterCount request 1)
  let input ← attempt (checkAndGetInput (request[0]?.getD .other) true)
  updateHash answers input

def executeFinalize : Call Reply := do
  attempt (validateParameterCount request 1)
  let output ← attempt (checkAndGetOutput (request[0]?.getD .other))
  finalizeHash algorithm answers output

def executeSingleShot : Call Reply := do
  attempt (validateParameterCount request 2)
  let input ← attempt (checkAndGetInput (request[0]?.getD .other) true)
  let output ← attempt (checkAndGetOutput (request[1]?.getD .other))
  singleShotHash algorithm answers input output

def executeReset : Call Unit := do
  attempt (validateParameterCount request 0)
  reset

def getDigestSize : Call Reply := do
  attempt (validateParameterCount request 0)
  ensure (algorithm.isHash = true) .unsupportedAlgorithm
  pure { values := [.uint64 algorithm.outputSize.toUInt64] }

abbrev validateStreamTransition := HashAction.validateStreamTransition

def execute (action : HashAction) (request : List Parameter) : Call Reply :=
  match action with
  | .getDigestSize => getDigestSize algorithm request
  | .reset => do
    executeReset request
    pure {}
  | .singleShot => do
    ensure ((← get).state = .idle) .operationInProgress
    executeSingleShot algorithm answers request
  | .finalize => do
    let nextState ← attempt (validateStreamTransition .finalize (← get).state)
    let reply ← executeFinalize algorithm answers request
    setOperationState nextState
    pure reply
  | .init => do
    let nextState ← attempt (validateStreamTransition .init (← get).state)
    executeInit algorithm answers request
    setOperationState nextState
    pure {}
  | .update => do
    let nextState ← attempt (validateStreamTransition .update (← get).state)
    executeUpdate answers request
    setOperationState nextState
    pure {}
  | .other code => do
    let _ ← attempt (validateStreamTransition (.other code) (← get).state)
    throw .invalidOperation

end HashHandler

/-! ### What an action can do -/

inductive HashStep (algorithm : HashAlgorithm) (handler : HashHandler) :
    HashAction → List Parameter → Expected Reply → HashHandler → Prop
  | refused {action : HashAction} {request : List Parameter} {error : DaemonErrorCode}
      (retry : error = .insufficientBufferSize → action = .finalize → handler.state ≠ .idle) :
      HashStep algorithm handler action request (.error error) handler
  | abandoned {action : HashAction} {request : List Parameter} {error : DaemonErrorCode}
      (fatal : error ≠ .insufficientBufferSize) :
      HashStep algorithm handler action request (.error error) { state := .idle, stream := none }
  | asked {request : List Parameter} {reply : Reply} :
      HashStep algorithm handler .getDigestSize request (.ok reply) handler
  | cleared : HashStep algorithm handler .reset [] (.ok {}) { state := .idle, stream := none }
  | started : HashStep algorithm handler .init [] (.ok {})
      { state := .streamInitialized, stream := some [] }
  | fed {parameter : Parameter} {fed data : Bytes} (running : handler.state ≠ .idle)
      (stream : handler.stream = some fed) (input : checkAndGetInput parameter true = .ok data) :
      HashStep algorithm handler .update [parameter] (.ok {})
        { state := .streamActive, stream := some (fed ++ data) }
  | finished {parameter : Parameter} {fed : Bytes} (running : handler.state ≠ .idle)
      (stream : handler.stream = some fed) :
      HashStep algorithm handler .finalize [parameter] (.ok (.ofWritten (algorithm.digest fed)))
        { state := .idle, stream := none }
  | single {first second : Parameter} {data : Bytes} (input : checkAndGetInput first true = .ok data) :
      HashStep algorithm handler .singleShot [first, second] (.ok (.ofWritten (algorithm.digest data)))
        handler

open HashHandler in
theorem hashStep_execute (algorithm : HashAlgorithm) (answers : DigestAnswers) (action : HashAction)
    (request : List Parameter) (handler : HashHandler) :
    HashStep algorithm handler action request
      (exec (execute algorithm answers action request) handler).1
      (exec (execute algorithm answers action request) handler).2 := by
  have refused {error : DaemonErrorCode} (other : error ≠ .insufficientBufferSize ∨ action ≠ .finalize) :
      HashStep algorithm handler action request (.error error) handler :=
    .refused fun small final => absurd final (other.resolve_left (absurd small))
  have abandoned {error : DaemonErrorCode} (fatal : error ≠ .insufficientBufferSize) :
      HashStep algorithm handler action request (.error error) {} := .abandoned fatal
  change Ensures (fun result after => HashStep algorithm handler action request result after) _ handler
  cases action with
  | getDigestSize =>
    simp [execute, getDigestSize, refused]
    exact fun _ _ => .asked
  | reset =>
    simp [execute, executeReset, reset, refused]
    rintro rfl
    exact .cleared
  | singleShot =>
    simp [execute, executeSingleShot, singleShotHash, refused]
    intro _ pair data input output _ _ _ _ _
    rcases List.length_eq_two.mp pair with ⟨first, second, rfl⟩
    exact .single input
  | update =>
    simp [execute, executeUpdate, updateHash,
      setOperationState, abandon, refused, abandoned]
    intro running one data input fed stream _
    rcases List.length_eq_one_iff.mp one with ⟨parameter, rfl⟩
    exact .fed running stream input
  | init =>
    simp [execute, executeInit, initHash,
      setOperationState, abandon, refused, abandoned]
    rintro rfl _ _ _
    exact .started
  | finalize =>
    simp [execute, executeFinalize, finalizeHash,
      setOperationState, abandon, cleanupStreamContext]
    refine ⟨fun running => ?_, fun error failed => ?_⟩
    · have retry {error : DaemonErrorCode} :
          HashStep algorithm handler .finalize request (.error error) handler :=
        .refused fun _ _ => running
      simp [retry, abandoned]
      intro one output _ fed stream _ _ _
      rcases List.length_eq_one_iff.mp one with ⟨parameter, rfl⟩
      exact .finished running stream
    · rw [HashAction.finalize_refused failed]
      exact refused (by simp)
  | other code => simp [execute, refused]

/-! ### The stream and what was accepted -/

structure HashEvent where
  action : HashAction
  request : List Parameter
  answers : DigestAnswers
  deriving DecidableEq, Repr

/-- The handler, and beside it the data that was accepted since a stream was last started. -/
structure HashStream where
  handler : HashHandler := {}
  accepted : Option Bytes := none
  deriving DecidableEq, Repr

def HashEvent.data (event : HashEvent) : Bytes :=
  match event.request with
  | .input (.bytes value) :: _ => value
  | _ => []

theorem HashEvent.data_eq {event : HashEvent} {first : Parameter} {rest : List Parameter} {data : Bytes}
    (request : event.request = first :: rest) (input : checkAndGetInput first true = .ok data) :
    event.data = data := by
  rw [HashEvent.data, request]
  unfold checkAndGetInput at input
  split at input
  · split_ifs at input
    cases input
    rfl
  · rw [if_neg (by simp)] at input
    cases input
    rfl
  · cases input

namespace HashStream

variable (algorithm : HashAlgorithm)

def execute (stream : HashStream) (event : HashEvent) : Expected Reply × HashHandler :=
  exec (HashHandler.execute algorithm event.answers event.action event.request) stream.handler

def step (stream : HashStream) (event : HashEvent) : HashStream where
  handler := (stream.execute algorithm event).2
  accepted :=
    match event.action, (stream.execute algorithm event).1 with
    | .init, .ok _ => some []
    | .update, .ok _ => stream.accepted.map (· ++ event.data)
    | _, _ => stream.accepted

def Follows (stream : HashStream) : Prop :=
  stream.handler.state ≠ .idle → ∃ data, stream.accepted = some data ∧ stream.handler.stream = some data

variable {stream : HashStream}

theorem follows_step (event : HashEvent) (follows : stream.Follows) :
    (stream.step algorithm event).Follows := by
  have step := hashStep_execute algorithm event.answers event.action event.request stream.handler
  intro running
  simp only [HashStream.step, HashStream.execute] at running ⊢
  generalize exec (HashHandler.execute algorithm event.answers event.action event.request)
    stream.handler = done at step running ⊢
  rcases done with ⟨result, after⟩
  generalize action_eq : event.action = action at step ⊢
  generalize request_eq : event.request = request at step
  cases step with
  | refused retry => cases action <;> exact follows running
  | abandoned | cleared | finished => exact absurd rfl running
  | asked => exact follows running
  | started => exact ⟨[], rfl, rfl⟩
  | fed active stream_eq input =>
    rcases follows active with ⟨data, accepted, same⟩
    have fed := Option.some.inj (stream_eq.symm.trans same)
    exact ⟨data ++ event.data, by simp [accepted], by rw [HashEvent.data_eq request_eq input, ← fed]⟩
  | single input => exact follows running

theorem follows_run (events : List HashEvent) :
    (Run.run (HashStream.step algorithm) {} events).Follows :=
  Run.run_invariant Follows (fun _ event follows => follows_step algorithm event follows) {} events
    fun running => absurd rfl running

/-- The action is answered as by a machine that keeps the accepted data and hashes it at the end. -/
structure Accumulates (stream : HashStream) (event : HashEvent) : Prop where
  finalize {reply : Reply} : event.action = .finalize →
    (stream.execute algorithm event).1 = .ok reply →
    ∃ data, stream.accepted = some data ∧ reply = .ofWritten (algorithm.digest data)
  /-- Whatever is asked with enough room after a finalize that found too little. -/
  retry {answers : DigestAnswers} {size : Nat} : event.action = .finalize →
    (stream.execute algorithm event).1 = .error .insufficientBufferSize →
    answers.mdCtxSize = true → answers.digestFinal = true → 0 < size → algorithm.digestSize ≤ size →
    ∃ data, stream.accepted = some data ∧
      ((stream.step algorithm event).execute algorithm
        ⟨.finalize, [.output (.room size)], answers⟩).1 = .ok (.ofWritten (algorithm.digest data))
  singleShot {reply : Reply} : event.action = .singleShot →
    (stream.execute algorithm event).1 = .ok reply →
    reply = .ofWritten (algorithm.digest event.data) ∧ (stream.step algorithm event) = stream

theorem execute_finalize {data : Bytes} {answers : DigestAnswers} {size : Nat}
    (running : stream.handler.state ≠ .idle) (fed : stream.handler.stream = some data)
    (sized : answers.mdCtxSize = true) (final : answers.digestFinal = true) (positive : 0 < size)
    (room : algorithm.digestSize ≤ size) :
    (stream.execute algorithm ⟨.finalize, [.output (.room size)], answers⟩).1 =
      .ok (.ofWritten (algorithm.digest data)) := by
  change Ensures (fun result _ => result = .ok (Reply.ofWritten (algorithm.digest data))) _ stream.handler
  have allowed : HashAction.finalize.validateStreamTransition stream.handler.state = .ok .idle := by
    cases state : stream.handler.state with
    | idle => exact absurd state running
    | streamInitialized | streamActive => rfl
  have buffer : checkAndGetOutput (.output (.room size)) = .ok size :=
    if_neg (Nat.pos_iff_ne_zero.mp positive)
  have one : validateParameterCount [.output (.room size)] 1 = .ok () := rfl
  simp [HashHandler.execute, HashHandler.executeFinalize, HashHandler.finalizeHash,
    HashHandler.setOperationState, HashHandler.cleanupStreamContext, allowed, one, buffer, fed, sized, final,
    room]

theorem accumulates_of_follows (follows : stream.Follows) (event : HashEvent) :
    stream.Accumulates algorithm event := by
  rcases event with ⟨action, request, answers⟩
  have step := hashStep_execute algorithm answers action request stream.handler
  refine ⟨?_, ?_, ?_⟩
  · rintro reply rfl done
    rw [HashStream.execute] at done
    rw [done] at step
    generalize (exec (HashHandler.execute algorithm answers .finalize request) stream.handler).2 =
      after at step
    cases step with
    | finished running fed =>
      rcases follows running with ⟨data, accepted, same⟩
      have fed := Option.some.inj (fed.symm.trans same)
      exact ⟨data, accepted, by rw [fed]⟩
  · rintro again size rfl done sized final positive room
    rw [HashStream.execute] at done
    rw [done] at step
    have unchanged : (stream.step algorithm ⟨.finalize, request, answers⟩).handler = stream.handler ∧
        stream.handler.state ≠ .idle := by
      rw [HashStream.step, HashStream.execute]
      generalize (exec (HashHandler.execute algorithm answers .finalize request) stream.handler).2 =
        after at step
      cases step with
      | refused retry => exact ⟨rfl, retry rfl rfl⟩
      | abandoned fatal => exact absurd rfl fatal
    rcases follows unchanged.2 with ⟨data, accepted, fed⟩
    refine ⟨data, accepted, execute_finalize algorithm ?_ ?_ sized final positive room⟩
    · rw [unchanged.1]
      exact unchanged.2
    · rw [unchanged.1]
      exact fed
  · rintro reply rfl done
    rw [HashStream.execute] at done
    rw [done] at step
    generalize after_eq : (exec (HashHandler.execute algorithm answers .singleShot request)
      stream.handler).2 = after at step
    cases step with
    | single input =>
      exact ⟨by rw [HashEvent.data_eq rfl input], by rw [HashStream.step, HashStream.execute, after_eq]⟩

/-- In every run from a fresh handler, each action is answered from the accepted data alone. -/
theorem accumulates_run (events : List HashEvent) (event : HashEvent) :
    (Run.run (HashStream.step algorithm) {} events).Accumulates algorithm event :=
  accumulates_of_follows algorithm (follows_run algorithm events) event

end HashStream

end ScoreCrypto.Provider.OpenSsl
