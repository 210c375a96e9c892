import ScoreCrypto.Lib.Run
import ScoreCrypto.Provider.HandlerUtils
import ScoreCrypto.Provider.SessionPool

/-!
The PKCS#11 hash handler and its executor, over any token that conforms to the standard in when a digest
operation begins and ends.
-/

namespace ScoreCrypto.Provider.Pkcs11

open ControlPlane Checked

/-- The digest functions of a token on one session. What each returns may depend on anything in its state;
an operation ends with success and with every error but `CKR_BUFFER_TOO_SMALL`. -/
structure DigestToken (T : Type) where
  digestSize : Nat
  active : T → Bool
  digestInit : T → ReturnValue × T
  digestUpdate : Bytes → T → ReturnValue × T
  digestFinal : Nat → T → (ReturnValue × Bytes) × T
  digest : Bytes → Nat → T → (ReturnValue × Bytes) × T
  /-- No digest is larger than that of SHA-512. -/
  digestSize_le : digestSize ≤ 64
  init_ok : ∀ t, (digestInit t).1 = .ok → active (digestInit t).2 = true
  init_error : ∀ t, active t = false → (digestInit t).1 ≠ .ok → active (digestInit t).2 = false
  update_ok : ∀ data t, active t = true → (digestUpdate data t).1 = .ok →
    active (digestUpdate data t).2 = true
  final_small : ∀ room t, (digestFinal room t).1.1 = .bufferTooSmall →
    room < digestSize ∧ active (digestFinal room t).2 = true
  final_end : ∀ room t, (digestFinal room t).1.1 ≠ .bufferTooSmall →
    active (digestFinal room t).2 = false
  digest_end : ∀ data room t, (digest data room t).1.1 ≠ .bufferTooSmall →
    active (digest data room t).2 = false

/-- The stream state of the handler (`m_state`, to which the executor's `nextState` is always assigned) and
the token behind it. -/
structure HashSession (T : Type) where
  state : StreamOperationState := .idle
  token : T

structure HashEvent where
  action : HashAction
  request : List Parameter
  /-- What the provider's `ValidateSession` answers. -/
  sessionValid : Bool
  deriving DecidableEq, Repr

namespace HashSession

variable {T : Type} (token : DigestToken T)

abbrev Call (T : Type) := Checked (HashSession T) DaemonErrorCode

def call {α : Type} (function : T → α × T) : Call T α :=
  modifyGet fun session =>
    ((function session.token).1, { session with token := (function session.token).2 })

def setState (state : StreamOperationState) : Call T PUnit :=
  modify fun session => { session with state }

def abort : Call T Unit := do
  let answer ← call (token.digestFinal 64)
  ensure (answer.1 = .ok ∨ answer.1 = .operationNotInitialized) (mapErrorReturn answer.1)

/-- Whatever an error has left of the operation is ended; the stream is idle if that works. -/
def normalize : Call T Unit := do
  abort token
  setState .idle

def executeDigestInit : Call T Unit := do
  let answer ← call token.digestInit
  ensure (answer = .ok) (mapErrorReturn answer)

def executeDigestUpdate (input : Bytes) : Call T Unit := do
  let answer ← call (token.digestUpdate input)
  ensure (answer = .ok) (mapErrorReturn answer)

def executeDigestFinal (output : Nat) : Call T Reply := do
  let answer ← call (token.digestFinal output)
  ensure (answer.1 = .ok) (mapErrorReturn answer.1)
  pure (.ofWritten answer.2)

variable (request : List Parameter)

def executeDigestSingleShot : Call T Reply := do
  attempt (validateParameterCount request 2)
  let input ← attempt (checkAndGetInput (request[0]?.getD .other) true)
  let output ← attempt (checkAndGetOutput (request[1]?.getD .other))
  abort token
  executeDigestInit token
  let answer ← call (token.digest input output)
  if answer.1 ≠ .ok then
    abort token
    throw (mapErrorReturn answer.1)
  pure (.ofWritten answer.2)

abbrev validateStreamTransition := HashAction.validateStreamTransition

/-- An initialization restarts a stream that is in progress: its operation is aborted first. When the new one
cannot begin, the stream is idle in either case. -/
def executeInit : Call T Reply := do
  attempt (validateParameterCount request 0)
  let currentState := (← get).state
  let nextState ← attempt (validateStreamTransition .init currentState)
  if currentState ≠ .idle then abort token
  onError (executeDigestInit token) fun _ => setState .idle
  setState nextState
  pure {}

def executeUpdate : Call T Reply := do
  let nextState ← attempt (validateStreamTransition .update (← get).state)
  attempt (validateParameterCount request 1)
  let input ← attempt (checkAndGetInput (request[0]?.getD .other) true)
  onError (executeDigestUpdate token input) fun _ => normalize token
  setState nextState
  pure {}

def executeFinalize : Call T Reply := do
  let nextState ← attempt (validateStreamTransition .finalize (← get).state)
  attempt (validateParameterCount request 1)
  let output ← attempt (checkAndGetOutput (request[0]?.getD .other))
  let reply ← onError (executeDigestFinal token output) fun error =>
    if error = .insufficientBufferSize then pure () else normalize token
  setState nextState
  pure reply

def executeAction (action : HashAction) (request : List Parameter) : Call T Reply :=
  match action with
  | .singleShot => do
    ensure ((← get).state = .idle) .operationInProgress
    executeDigestSingleShot token request
  | .reset => do
    attempt (validateParameterCount request 0)
    abort token
    setState .idle
    pure {}
  | .getDigestSize => throw .unsupportedOperation
  | .init => executeInit token request
  | .update => executeUpdate token request
  | .finalize => executeFinalize token request
  | .other code => do
    let _ ← attempt (validateStreamTransition (.other code) (← get).state)
    throw .invalidOperation

def execute (size : Option UInt64) (event : HashEvent) : Call T Reply := do
  ensure (event.sessionValid = true) .sessionInvalid
  if event.action = .getDigestSize then
    ensure (event.request = []) .invalidArgument
    let size ← require size .unsupportedAlgorithm
    pure { values := [.uint64 size] }
  else executeAction token event.action event.request

/-- The stream is idle exactly if the token has no operation. -/
def Mirrors (session : HashSession T) : Prop := session.state = .idle ↔ token.active session.token = false

instance (session : HashSession T) : Decidable (session.Mirrors token) := inferInstanceAs (Decidable (_ ↔ _))

def Cleans (t : T) : Prop :=
  (token.digestFinal 64 t).1.1 = .ok ∨ (token.digestFinal 64 t).1.1 = .operationNotInitialized

/-- The state of the token in which an action on a stream in progress aborts its operation, if it does. -/
def abortedAt (event : HashEvent) (t : T) : Option T :=
  match event.action, event.request with
  | .reset, [] => some t
  | .init, [] => some t
  | .update, [parameter] =>
    match checkAndGetInput parameter true with
    | .ok data =>
      if (token.digestUpdate data t).1 = .ok then none else some (token.digestUpdate data t).2
    | .error _ => none
  | .finalize, [parameter] =>
    match checkAndGetOutput parameter with
    | .ok size =>
      if (token.digestFinal size t).1.1 = .ok ∨ (token.digestFinal size t).1.1 = .bufferTooSmall then none
      else some (token.digestFinal size t).2
    | .error _ => none
  | _, _ => none

/-- Whenever an action aborts the operation of a stream in progress, the token says that it is gone. -/
def Settles (session : HashSession T) (event : HashEvent) : Prop :=
  session.state ≠ .idle → event.sessionValid = true → ∀ t ∈ abortedAt token event session.token, Cleans token t

instance (t : T) : Decidable (Cleans token t) := inferInstanceAs (Decidable (_ ∨ _))

instance (session : HashSession T) (event : HashEvent) : Decidable (Settles token session event) :=
  inferInstanceAs (Decidable (_ → _ → ∀ t ∈ _, _))

variable {token}

theorem active_abort (t : T) : token.active (token.digestFinal 64 t).2 = false := by
  refine token.final_end 64 t fun small => ?_
  have room := (token.final_small 64 t small).1
  have size := token.digestSize_le
  omega

theorem mapErrorReturn_eq_small {answer : ReturnValue} :
    mapErrorReturn answer = .insufficientBufferSize ↔ answer = .bufferTooSmall := by
  cases answer <;> simp [mapErrorReturn]

/-! Each call of the token, by what holds of the session after it. -/

section Rules

variable {session : HashSession T}

@[simp] theorem ensures_call {α : Type} {post : Expected α → HashSession T → Prop}
    {function : T → α × T} : Ensures post (call function) session ↔
      post (.ok (function session.token).1) { session with token := (function session.token).2 } := Iff.rfl

theorem ensures_abort {post : Expected Unit → HashSession T → Prop}
    (cleaned : Cleans token session.token → ∀ t, token.active t = false →
      post (.ok ()) { session with token := t })
    (failed : ¬Cleans token session.token → ∀ error t, token.active t = false →
      post (.error error) { session with token := t }) :
    Ensures post (abort token) session := by
  simp only [abort, ensures_bind, ensures_call, ensures_ensure]
  refine ⟨fun answer found => ⟨fun gone => ?_, fun left => ?_⟩, by simp⟩
  · cases found
    exact cleaned gone _ (active_abort _)
  · cases found
    exact failed left _ _ (active_abort _)

theorem ensures_executeDigestInit {post : Expected Unit → HashSession T → Prop}
    (inactive : token.active session.token = false)
    (begun : ∀ t, token.active t = true → post (.ok ()) { session with token := t })
    (failed : ∀ error t, token.active t = false → post (.error error) { session with token := t }) :
    Ensures post (executeDigestInit token) session := by
  simp [executeDigestInit]
  exact ⟨fun ok => begun _ (token.init_ok _ ok), fun error => failed _ _ (token.init_error _ inactive error)⟩

end Rules

/-! ### Every action keeps the mirror -/

section Mirror

variable {session : HashSession T} {request : List Parameter}

theorem mirrors_idle {t : T} (inactive : token.active t = false) :
    Mirrors token { state := .idle, token := t } := by
  simp [Mirrors, inactive]

theorem mirrors_active {state : StreamOperationState} {t : T} (running : state ≠ .idle)
    (active : token.active t = true) : Mirrors token { state, token := t } := by
  simp [Mirrors, running, active]

theorem mirrors_abort (settles : session.state ≠ .idle → Cleans token session.token) :
    Ensures (fun result after => (∀ value, result = .ok value →
        Mirrors token { state := .idle, token := after.token }) ∧
      ∀ error, result = .error error → after.Mirrors token) (abort token) session := by
  refine ensures_abort (fun _ t inactive => ?_) fun left error t inactive => ?_
  · exact ⟨fun _ _ => mirrors_idle inactive, by simp⟩
  · refine ⟨by simp, fun _ _ => ?_⟩
    have idle : session.state = .idle := by
      by_contra running
      exact left (settles running)
    rw [idle]
    exact mirrors_idle inactive

theorem mirrors_begin (inactive : token.active session.token = false) :
    Ensures (fun result after => (∀ value, result = .ok value →
        Mirrors token { state := .streamInitialized, token := after.token }) ∧
      ∀ error, result = .error error → Mirrors token { state := .idle, token := after.token })
      (executeDigestInit token) session := by
  refine ensures_executeDigestInit inactive (fun t active => ?_) fun _ t inactive => ?_
  · exact ⟨fun _ _ => mirrors_active (by simp) active, by simp⟩
  · exact ⟨by simp, fun _ _ => mirrors_idle inactive⟩

section

variable (mirrors : session.Mirrors token)

include mirrors

theorem mirrors_singleShot :
    Ensures (fun _ after => after.Mirrors token) (executeAction token .singleShot request) session := by
  simp [executeAction, executeDigestSingleShot, mirrors]
  intro idle _ input _ output _
  have unmoved {t : T} (inactive : token.active t = false) :
      Mirrors token { session with token := t } := by
    rw [idle]
    exact mirrors_idle inactive
  refine ensures_abort (fun _ t inactive => ?_) fun _ error t inactive => by simpa using unmoved inactive
  apply continues
  refine ensures_executeDigestInit inactive (fun t active => ?_) fun _ t inactive => by
    simpa using unmoved inactive
  simp
  refine fun answer _ done => ⟨fun ok => unmoved (token.digest_end _ _ _ ?_), fun _ => ?_⟩
  · simp [done, ok]
  · exact ensures_abort (by simpa using fun _ _ => unmoved) (by simpa using fun _ _ _ => unmoved)

theorem mirrors_reset (settles : session.Settles token ⟨.reset, request, true⟩) :
    Ensures (fun _ after => after.Mirrors token) (executeAction token .reset request) session := by
  simp [executeAction, setState, mirrors]
  rintro rfl
  exact mirrors_abort fun running => settles running rfl _ rfl

theorem mirrors_init (settles : session.Settles token ⟨.init, request, true⟩) :
    Ensures (fun _ after => after.Mirrors token) (executeAction token .init request) session := by
  simp [executeAction, executeInit, setState, mirrors]
  rintro rfl
  refine ⟨fun idle => mirrors_begin (mirrors.mp idle), fun running => ?_⟩
  refine ensures_abort (fun _ t inactive => ?_) fun left => absurd (settles running rfl _ rfl) left
  exact ⟨fun _ _ => mirrors_begin inactive, by simp⟩

theorem mirrors_update (settles : session.Settles token ⟨.update, request, true⟩) :
    Ensures (fun _ after => after.Mirrors token) (executeAction token .update request) session := by
  simp [executeAction, executeUpdate, executeDigestUpdate, setState, normalize, mirrors]
  intro running one data input
  rcases List.length_eq_one_iff.mp one with ⟨parameter, rfl⟩
  have active : token.active session.token = true := by simpa [Mirrors, running] using mirrors
  refine ⟨fun ok => mirrors_active (by simp) (token.update_ok _ _ active ok), fun error =>
    mirrors_abort fun _ => settles running rfl _ ?_⟩
  simp at input
  simp [abortedAt, input, error]

theorem mirrors_finalize (settles : session.Settles token ⟨.finalize, request, true⟩) :
    Ensures (fun _ after => after.Mirrors token) (executeAction token .finalize request) session := by
  simp [executeAction, executeFinalize, executeDigestFinal, setState, normalize, mapErrorReturn_eq_small,
    mirrors]
  intro running one size output answer written found
  rcases List.length_eq_one_iff.mp one with ⟨parameter, rfl⟩
  have final_end := token.final_end size session.token
  have final_small := token.final_small size session.token
  rw [found] at final_end final_small
  refine ⟨fun ok => mirrors_idle (final_end (by simp [ok])), fun error => ⟨fun small => ?_, fun large =>
    mirrors_abort fun _ => settles running rfl _ ?_⟩⟩
  · exact mirrors_active running (final_small small).2
  · simp at output
    simp [abortedAt, output, found, error, large]

theorem mirrors_execute {size : Option UInt64} {event : HashEvent}
    (settles : session.Settles token event) :
    Ensures (fun _ after => after.Mirrors token) (execute token size event) session := by
  rcases event with ⟨action, request, valid⟩
  simp only [execute, ensures_bind, ensures_ensure]
  refine ⟨fun valid => ⟨fun _ _ => ?_, by simp⟩, fun _ => ⟨by simp, fun _ _ => mirrors⟩⟩
  cases valid
  cases action with
  | getDigestSize => simp [mirrors]
  | init => exact mirrors_init mirrors settles
  | update => exact mirrors_update mirrors settles
  | finalize => exact mirrors_finalize mirrors settles
  | singleShot => exact mirrors_singleShot mirrors
  | reset => exact mirrors_reset mirrors settles
  | other code => exact mirrors

end

end Mirror

def step (token : DigestToken T) (size : Option UInt64) (session : HashSession T) (event : HashEvent) :
    HashSession T := (exec (execute token size event) session).2

/-- From a session without an operation, whatever is asked and whatever the token answers. -/
theorem mirrors_run (token : DigestToken T) (size : Option UInt64) {start : T}
    (inactive : token.active start = false) (events : List HashEvent)
    (settles : Run.Meets (step token size) (Settles token) { token := start } events) :
    (Run.run (step token size) { token := start } events).Mirrors token :=
  Run.run_invariant_of_meets (Mirrors token) (fun _ _ mirrors settles => mirrors_execute mirrors settles)
    _ events (mirrors_idle inactive) settles

def sampleToken (answer : ReturnValue) (ends : answer ≠ .bufferTooSmall) : DigestToken Bool where
  digestSize := 32
  active := id
  digestInit active := if active then (.operationActive, true) else (.ok, true)
  digestUpdate _ active := if active then (.ok, true) else (.operationNotInitialized, false)
  digestFinal room active :=
    if active = false then ((.operationNotInitialized, []), false)
    else if room < 32 then ((.bufferTooSmall, []), true)
    else ((answer, List.replicate 32 0), false)
  digest _ room active :=
    if active = false then ((.operationNotInitialized, []), false)
    else if room < 32 then ((.bufferTooSmall, []), true)
    else ((.ok, List.replicate 32 0), false)
  digestSize_le := by decide
  init_ok active := by cases active <;> simp
  init_error active := by cases active <;> simp
  update_ok _ active := by cases active <;> simp
  final_small room active := by
    cases active <;> simp
    split_ifs <;> simp_all
  final_end room active := by
    cases active <;> simp
    split_ifs <;> simp
  digest_end _ room active := by
    cases active <;> simp
    split_ifs <;> simp

/-- A stream that is started again, retried with more room and finished. -/
theorem mirrors_retriedFinalize :
    (Run.run (step (sampleToken .ok (by decide)) (some 32)) { token := false }
      [⟨.init, [], true⟩, ⟨.update, [.input (.bytes [1])], true⟩, ⟨.init, [], true⟩,
        ⟨.finalize, [.output (.room 16)], true⟩, ⟨.finalize, [.output (.room 32)], true⟩]).Mirrors
      (sampleToken .ok (by decide)) :=
  mirrors_run _ _ rfl _ (by decide)

/-- A reset that the token answers with `CKR_DEVICE_ERROR` ends the operation, but not the stream. -/
theorem failed_reset_leaves_stream :
    ¬(Run.run (step (sampleToken (.other 0x30) (by decide)) (some 32)) { token := false }
      [⟨.init, [], true⟩, ⟨.update, [.input (.bytes [1])], true⟩, ⟨.reset, [], true⟩]).Mirrors
      (sampleToken (.other 0x30) (by decide)) := by
  decide

end HashSession

end ScoreCrypto.Provider.Pkcs11
