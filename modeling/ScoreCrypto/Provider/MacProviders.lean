import ScoreCrypto.Provider.OpenSslHmac
import ScoreCrypto.Provider.Pkcs11Mac

/-!
The MAC contexts of both providers as an application sees them: what it learns from a verification, and
which actions it may perform.
-/

namespace ScoreCrypto.Provider

open ControlPlane (ResponseParameter)
open Checked Pkcs11
open MacSession (sampleToken)

variable {T : Type}

/-! ### The verdict of a verification -/

inductive ClientError where
  | operationFailed (message : String)
  deriving DecidableEq, Repr

/-- What `MacContextImpl::Verify` makes of the response to a successful operation. -/
def MacContextImpl.verify (parameters : List ResponseParameter) : Except ClientError Bool :=
  match parameters.head? with
  | some (.bool verdict) => .ok verdict
  | _ => .error (.operationFailed "MAC_VERIFY response has invalid parameter type")

/-- A context in the daemon and how its provider behaves; a token writes whole MACs. -/
inductive MacBackend (T : Type) where
  | openSsl (algorithm : OpenSsl.MacAlgorithm) (handler : OpenSsl.HmacHandler) (answers : OpenSsl.MacAnswers)
  | pkcs11 (token : MacToken T)
      (whole : ∀ room t, (token.signFinal room t).1.1 = .ok →
        (token.signFinal room t).1.2.length = token.macSize)
      (supported : Bool) (session : MacSession T) (sessionValid : Bool)

namespace MacBackend

def executeVerify (tag : Bytes) : MacBackend T → Expected Reply
  | .openSsl algorithm handler answers =>
    (handler.perform algorithm ⟨.verify, [.input (.bytes tag)], answers⟩).1
  | .pkcs11 token _ supported session sessionValid =>
    (exec (MacSession.execute token supported
      ⟨.verify, [.input (.bytes tag)], sessionValid, none⟩) session).1

def begun (token : MacToken T) (session : MacSession T) : T :=
  if session.state = .streamInitialized then (token.init session.operationMode session.token).2
  else session.token

/-- The tag is the MAC of what the context was fed, as OpenSSL or the token computes or judges it. -/
def Matches (tag : Bytes) : MacBackend T → Prop
  | .openSsl algorithm handler _ =>
    ∃ key fed, handler.ctx = some (.keyed key fed) ∧ tag = algorithm.mac key fed
  | .pkcs11 token _ _ session _ =>
    match session.operationMode with
    | .generate => tag = (token.signFinal token.macSize (begun token session)).1.2
    | .verify => (token.verifyFinal tag (begun token session)).1 = .ok

def InVerifyMode : MacBackend T → Prop
  | .openSsl _ _ _ => False
  | .pkcs11 _ _ _ session _ => session.operationMode = .verify

def Tells (backend : MacBackend T) (tag : Bytes) (reply : Reply) : Prop :=
  ∃ verdict, MacContextImpl.verify reply.values = .ok verdict ∧ (verdict = true ↔ backend.Matches tag)

section Pkcs11Verify

open MacSession

variable {token : MacToken T} {supported valid : Bool} {session : MacSession T} {tag : Bytes} {reply : Reply}

/-- In generate mode the token computes the MAC, and the handler compares. -/
theorem verify_generated (mode : session.operationMode = .generate)
    (whole : ∀ room t, (token.signFinal room t).1.1 = .ok →
      (token.signFinal room t).1.2.length = token.macSize)
    (done : (exec (execute token supported ⟨.verify, [.input (.bytes tag)], valid, none⟩)
      session).1 = .ok reply) :
    reply.values =
      [.bool (decide (tag = (token.signFinal token.macSize (begun token session)).1.2))] := by
  have compared {t : T} {answer : ReturnValue} {mac : Bytes} (length : tag.length = token.macSize)
      (wrote : (token.signFinal token.macSize t).1 = (answer, mac)) (ok : answer = .ok) :
      tag.take mac.length = mac ↔ tag = (token.signFinal token.macSize t).1.2 := by
    have same := whole token.macSize t (by rw [wrote, ok])
    rw [wrote] at same ⊢
    rw [same, ← length, List.take_length]
  revert done
  change Ensures (fun result _ => result = .ok reply → _) _ session
  simp [execute, executeOperation, executeAction,
    handleVerify, executeSignVerify, executeOperationInit,
    finishSign, mode]
  intro _ _ _ value input length
  obtain rfl : tag = value := (OpenSsl.dataOf_eq input).1
  refine ⟨fun lazy _ answer mac wrote ok same => ?_, fun begins answer mac wrote ok same => ?_⟩
  · simp [← same, begun, lazy, mode, compared length wrote ok]
  · simp [← same, begun, begins, compared length wrote ok]

/-- In verify mode the token judges, and its verdict is a number. -/
theorem verify_judged (mode : session.operationMode = .verify)
    (done : (exec (execute token supported ⟨.verify, [.input (.bytes tag)], valid, none⟩)
      session).1 = .ok reply) : ∃ verdict, reply.values = [.uint64 verdict] := by
  revert done
  change Ensures (fun result _ => result = .ok reply → _) _ session
  simp [execute, executeOperation, executeAction,
    handleVerify, ensureInitialized, executeOperationInit,
    executeVerifyFinal, mode]
  grind

end Pkcs11Verify

/-- When the daemon has executed the action, the application learns of the verdict exactly if the context is
not a PKCS#11 one in verify mode. -/
theorem tells_iff (backend : MacBackend T) (tag : Bytes) {reply : Reply}
    (done : backend.executeVerify tag = .ok reply) : backend.Tells tag reply ↔ ¬backend.InVerifyMode := by
  cases backend with
  | openSsl algorithm handler answers =>
    have step := OpenSsl.hmacStep_perform algorithm handler ⟨.verify, [.input (.bytes tag)], answers⟩
    rw [show (handler.perform algorithm _).1 = _ from done] at step
    rcases step.answered.2.1 rfl with ⟨key, fed, _, ctx, values⟩
    simp [Tells, InVerifyMode, MacContextImpl.verify, values, Matches, ctx, OpenSsl.MacEvent.dataOf]
  | pkcs11 token whole supported session valid =>
    cases mode : session.operationMode with
    | generate =>
      simp [Tells, InVerifyMode, MacContextImpl.verify, verify_generated mode whole done, Matches, mode]
    | verify =>
      rcases verify_judged mode done with ⟨verdict, values⟩
      simp [Tells, InVerifyMode, MacContextImpl.verify, values, mode]

theorem sampleToken_whole (room : Nat) (t : OperationMode → Bool)
    (ok : (sampleToken.signFinal room t).1.1 = .ok) :
    (sampleToken.signFinal room t).1.2.length = sampleToken.macSize := by
  revert ok
  simp [sampleToken]
  split_ifs <;> simp

def sampleBackend (mode : OperationMode) : MacBackend (OperationMode → Bool) :=
  pkcs11 sampleToken sampleToken_whole true
    (Run.run (MacSession.step sampleToken true)
      (MacSession.created true ⟨some ⟨2, none⟩, 2, some mode⟩ none fun _ => false) [⟨.init, [], true, none⟩]) true

theorem tells_generated : (sampleBackend .generate).Tells (List.replicate 32 0) ⟨[.bool true], none⟩ :=
  (tells_iff _ _ (by decide)).mpr (show ¬MacSession.operationMode _ = .verify by decide)

/-- The token finds the tag right, and the application gets an error about the response. -/
theorem judged_tag_not_told :
    (sampleBackend .verify).Matches (List.replicate 32 0) ∧
      (sampleBackend .verify).executeVerify (List.replicate 32 0) = .ok ⟨[.uint64 1], none⟩ ∧
      MacContextImpl.verify [.uint64 1] =
        .error (.operationFailed "MAC_VERIFY response has invalid parameter type") := by
  refine ⟨?_, by decide, rfl⟩
  change (sampleToken.verifyFinal _ _).1 = .ok
  decide

end MacBackend

/-! ### The actions that are accepted -/

structure MacPair (T : Type) where
  handler : OpenSsl.HmacHandler
  session : MacSession T

def optionalInput (data : Option Bytes) : List Parameter :=
  data.toList.map fun data => .input (.bytes data)

/-- The parameters that an action needs and may have, with buffers that suffice. -/
inductive WellFormed (size : Nat) : MacAction → List Parameter → Prop
  | init (initial : Option Bytes) : WellFormed size .init (optionalInput initial)
  | update {data : Bytes} (some : data ≠ []) : WellFormed size .update [.input (.bytes data)]
  | finalize {room : Nat} {final : Option Bytes} (enough : size ≤ room) (some : final ≠ some []) :
      WellFormed size .finalize (.output (.room room) :: optionalInput final)
  | verify {tag : Bytes} (length : tag.length = size) : WellFormed size .verify [.input (.bytes tag)]
  | getSize : WellFormed size .getSize []
  | reset : WellFormed size .reset []
  | singleShot {data : Bytes} {room : Nat} (some : data ≠ []) (enough : size ≤ room) :
      WellFormed size .singleShot [.input (.bytes data), .output (.room room)]

/-- The functions of the token succeed where the standard lets them. -/
structure Pkcs11.MacToken.Succeeds (token : MacToken T) : Prop where
  init : ∀ mode t, token.active mode t = false → (token.init mode t).1 = .ok
  update : ∀ mode data t, token.active mode t = true → (token.update mode data t).1 = .ok
  sign : ∀ room t, token.active .generate t = true → token.macSize ≤ room →
    (token.signFinal room t).1.1 = .ok

namespace MacPair

variable (algorithm : OpenSsl.MacAlgorithm) (token : MacToken T)

abbrev Request := MacAction × List Parameter

def openSsl (pair : MacPair T) (request : Request) : Expected Reply × OpenSsl.HmacHandler :=
  pair.handler.perform algorithm ⟨request.1, request.2, .succeeding⟩

def pkcs11 (pair : MacPair T) (request : Request) : Expected Reply × MacSession T :=
  exec (MacSession.execute token true ⟨request.1, request.2, true, none⟩) pair.session

def step (pair : MacPair T) (request : Request) : MacPair T :=
  ⟨(pair.openSsl algorithm request).2, (pair.pkcs11 token request).2⟩

def Alike (pair : MacPair T) (request : Request) : Prop :=
  (∃ reply, (pair.openSsl algorithm request).1 = .ok reply) ↔
    ∃ reply, (pair.pkcs11 token request).1 = .ok reply

/-- An update or a verification comes after an INIT, and what ends a stream does not follow it at once. -/
def Orderly (pair : MacPair T) (request : Request) : Prop :=
  match request.1 with
  | .update | .verify => pair.session.state ≠ .streamInitialized
  | .finalize | .singleShot => pair.handler.state = pair.session.state
  | _ => True

def created (mode : Option OperationMode) (openSslId pkcs11Id : ProviderId) (key : Bytes) (t : T) :
    MacPair T where
  handler := .created algorithm .succeeding ⟨some ⟨openSslId, some key⟩, openSslId⟩
  session := .created true ⟨some ⟨pkcs11Id, none⟩, pkcs11Id, mode⟩ none t

end MacPair

/-! What each handler accepts, by its own state. -/

def OpenSsl.HmacHandler.Accepts (handler : HmacHandler) : MacAction → Prop
  | .init | .getSize | .reset => True
  | .update | .verify => handler.state ≠ .idle ∧ handler.ctx ≠ some .fresh
  | .finalize => handler.state = .streamActive
  | .singleShot => handler.state = .streamInitialized
  | .other _ => False

def Pkcs11.MacSession.Accepts (session : MacSession T) : MacAction → Prop
  | .init | .getSize | .reset => True
  | .update | .verify => session.state ≠ .idle
  | .finalize => session.state = .streamActive
  | .singleShot => session.state = .streamInitialized
  | .other _ => False

section Accepts

variable {algorithm : OpenSsl.MacAlgorithm} {action : MacAction} {request : List Parameter}

theorem input_eq {data : Bytes} (nonempty : data ≠ []) :
    checkAndGetInput (.input (.bytes data)) false = .ok data := if_neg fun empty => nonempty empty.2

theorem output_eq {size room : Nat} (positive : 0 < size) (enough : size ≤ room) :
    checkAndGetOutput (.output (.room room)) = .ok room := if_neg (by omega)

section OpenSsl

open OpenSsl HmacHandler

variable {handler : HmacHandler} {answers : MacAnswers} {key : Bytes} {provider : ProviderId}

theorem accepts_of_performed {reply : Reply}
    (done : (handler.perform algorithm ⟨action, request, answers⟩).1 = .ok reply) :
    handler.Accepts action := by
  have step := hmacStep_perform algorithm handler ⟨action, request, answers⟩
  rw [done] at step
  generalize (handler.perform algorithm _).2 = after at step
  cases step <;> simp_all [Accepts]

theorem performed_of_accepts (works : answers = .succeeding) (supported : algorithm.supported = true)
    (positive : 0 < algorithm.outputSize.toNat) (nonempty : key ≠ [])
    (params : handler.initParams = ⟨some ⟨provider, some key⟩, provider⟩)
    (ctx : handler.ctx = some .fresh ∧ handler.state ≠ .streamActive ∨
      ∃ own fed, handler.ctx = some (.keyed own fed))
    (formed : WellFormed algorithm.outputSize.toNat action request) (accepts : handler.Accepts action) :
    ∃ reply, (handler.perform algorithm ⟨action, request, answers⟩).1 = .ok reply := by
  have bound : handler.getBoundKeyMaterial = some key := by
    simp [getBoundKeyMaterial, boundKey, keyMaterial, params, nonempty]
  have material : (keyMaterial ⟨provider, some key⟩).isSome = true := by simp [keyMaterial, nonempty]
  have size : getMacSize algorithm = algorithm.outputSize.toNat := if_pos supported
  have succeeds : answers.fetch = true ∧ answers.ctxNew = true ∧ answers.init = true ∧
      answers.update = true ∧ answers.final = true := by simp [works, MacAnswers.succeeding]
  have present : ∃ ctx, handler.ctx = some ctx := by
    rcases ctx with ⟨ctx, _⟩ | ⟨own, fed, ctx⟩ <;> exact ⟨_, ctx⟩
  have keyed (running : handler.ctx ≠ some .fresh ∨ handler.state = .streamActive) :
      ∃ own fed, handler.ctx = some (.keyed own fed) := by
    rcases ctx with ⟨ctx, passive⟩ | keyed
    · exact absurd running (by simp [ctx, passive])
    · exact keyed
  change Ensures (fun result _ => ∃ reply, result = .ok reply) _ handler
  cases formed with
  | init =>
    rcases present with ⟨ctx, present⟩
    simp [execute, executeInit, initMac, setOperationState, present, bound, supported, succeeds]
  | update some =>
    rcases keyed (.inl accepts.2) with ⟨own, fed, ctx⟩
    simp [execute, executeUpdate, updateMac, setOperationState, ctx, accepts.1, succeeds, input_eq some,
      MacContext.content]
  | @finalize room final enough some =>
    rcases keyed (.inr accepts) with ⟨own, fed, ctx⟩
    have active : handler.state = .streamActive := accepts
    cases final with
    | none =>
      simp [execute, executeFinalize, finalizeMac, finalizeMacInternal, feedFinalData, outputOf,
        optionalInput, setOperationState, active, ctx, succeeds, output_eq positive enough, size,
        enough, MacContext.content]
    | some data =>
      have nonempty : data ≠ [] := by simpa using some
      simp [execute, executeFinalize, finalizeMac, finalizeMacInternal, feedFinalData, updateMac,
        outputOf, optionalInput, setOperationState, active, ctx, succeeds,
        input_eq nonempty, output_eq positive enough, size, enough,
        MacContext.content]
  | verify length =>
    rcases keyed (.inl accepts.2) with ⟨own, fed, ctx⟩
    have nonempty := List.ne_nil_of_length_pos (length ▸ positive)
    simp [execute, executeVerify, verifyMac, finalizeMacInternal, setOperationState, ctx, accepts.1,
      succeeds, input_eq nonempty, length, size, MacContext.content]
  | getSize => exact ⟨_, rfl⟩
  | reset => simp [execute, reset, initializeContext, bindKey, params, supported, succeeds, material]
  | singleShot some enough =>
    have ready : handler.state = .streamInitialized := accepts
    rcases present with ⟨ctx, present⟩
    simp [execute, executeSingleShot, initMac, updateMac, finalizeMac, feedFinalData, finalizeMacInternal,
      setOperationState, outputOf, MacContext.content, ready, present, bound, supported, succeeds,
      input_eq some, output_eq positive enough, size, enough]

end OpenSsl

section Pkcs11

open MacSession

variable {token : MacToken T} {session : MacSession T} (succeeds : token.Succeeds)

structure Pkcs11.MacSession.Generates (token : MacToken T) (session : MacSession T) : Prop where
  keyObject : session.keyObject = true
  generate : session.operationMode = .generate
  own : ∃ own, session.initParams.boundKeyHandler = some own ∧
    own.providerId = session.initParams.providerId ∧ session.initParams.mode ≠ some .verify
  holds : Holds token .generate (session.state == .streamActive) session.token

def Pkcs11.MacSession.next (session : MacSession T) (action : MacAction) : StreamOperationState :=
  match action, session.state with
  | .init, _ => .streamActive
  | .reset, _ => .streamInitialized
  | .update, .streamInitialized => .streamActive
  | .finalize, .streamActive | .verify, _ | .singleShot, .streamInitialized => .idle
  | _, state => state

structure Pkcs11.MacSession.Answers (token : MacToken T) (session : MacSession T) (action : MacAction)
    (result : Expected Reply) (after : MacSession T) : Prop where
  accepted : (∃ reply, result = .ok reply) ↔ session.Accepts action
  state : after.state = session.next action
  generates : after.Generates token

theorem answers_ok {reply : Reply} {t : T} (generates : session.Generates token)
    (accepts : session.Accepts action)
    (holds : Holds token .generate (session.next action == .streamActive) t) :
    MacSession.Answers token session action (.ok reply)
      { session with state := session.next action, token := t } :=
  ⟨⟨fun _ => accepts, fun _ => ⟨reply, rfl⟩⟩, rfl, generates.1, generates.2, generates.3, holds⟩

include succeeds

theorem ensures_begin {post : Expected Unit → MacSession T → Prop}
    (holds : Holds token .generate false session.token)
    (begun : ∀ t, Holds token .generate true t → post (.ok ()) { session with token := t }) :
    Ensures post (executeOperationInit token .generate) session :=
  ensures_executeOperationInit holds (fun _ => begun) fun failed =>
    absurd (succeeds.init _ _ (by simp [holds .generate])) failed

theorem ensures_feed {post : Expected Unit → MacSession T → Prop} {data : Bytes}
    (holds : Holds token .generate true session.token)
    (fed : ∀ t, Holds token .generate true t → post (.ok ()) { session with token := t }) :
    Ensures post (feedOperation token .generate data) session :=
  ensures_feedOperation holds (fun _ => fed) fun failed =>
    absurd (succeeds.update _ _ _ (by simp [holds .generate])) failed

theorem ensures_finish {post : Expected Bytes → MacSession T → Prop} {room : Nat}
    (holds : Holds token .generate true session.token) (enough : token.macSize ≤ room)
    (finished : ∀ mac t, Holds token .generate false t → post (.ok mac) { session with token := t }) :
    Ensures post (finishSign token room) session :=
  ensures_finishSign holds enough finished fun failed =>
    absurd (succeeds.sign _ _ (by simp [holds .generate]) enough) failed

theorem answers_execute (positive : 0 < token.macSize) (generates : session.Generates token)
    (formed : WellFormed token.macSize action request) :
    Ensures (MacSession.Answers token session action)
      (execute token true ⟨action, request, true, none⟩) session := by
  have refused (refuses : ¬session.Accepts action) (stays : session.next action = session.state)
      (error : DaemonErrorCode) : MacSession.Answers token session action (.error error) session :=
    ⟨by simp [refuses], stays.symm, generates⟩
  have answered {reply : Reply} {t : T} := @answers_ok _ action token session reply t generates
  have holds := generates.holds
  rcases session with ⟨state, _, _, initParams, t⟩
  cases generates.keyObject
  cases generates.generate
  cases formed with
  | init =>
    simp [execute, executeOperation, executeAction, handleInit, abort]
    refine ⟨fun active => ?_, fun passive => ?_⟩
    · refine ensures_begin succeeds (holds_aborted holds) fun t holds => ?_
      simp
      exact answered trivial holds
    · refine ensures_begin succeeds (by simpa [beq_eq_false_iff_ne.mpr passive] using holds) ?_
      intro t holds
      simp
      exact answered trivial holds
  | update some =>
    cases state with
    | idle =>
      simp [execute, executeOperation, executeAction, handleUpdate]
      exact refused (by simp [Accepts]) rfl _
    | streamInitialized =>
      simp [execute, executeOperation, executeAction, handleUpdate, ensureInitialized]
      refine ensures_begin succeeds holds fun t holds => ?_
      apply continues
      simp [executeOperationUpdate, input_eq some]
      refine ensures_feed succeeds holds fun t holds => ?_
      simp
      exact answered (by simp [Accepts]) holds
    | streamActive =>
      simp [execute, executeOperation, executeAction, handleUpdate, ensureInitialized,
        executeOperationUpdate, input_eq some]
      refine ensures_feed succeeds holds fun t holds => ?_
      simp
      exact answered (by simp [Accepts]) holds
  | finalize enough some =>
    cases state with
    | idle | streamInitialized =>
      simp [execute, executeOperation, executeAction, handleFinal]
      exact refused (by simp [Accepts]) rfl _
    | streamActive =>
      simp [execute, executeOperation, executeAction, handleFinal, executeSignFinal,
        output_eq positive enough, enough]
      refine ensures_finish succeeds holds enough fun mac t holds => ?_
      simp
      exact answered (by simp [Accepts]) holds
  | verify length =>
    have nonempty := List.ne_nil_of_length_pos (length ▸ positive)
    simp [execute, executeOperation, executeAction, handleVerify, executeSignVerify,
      input_eq nonempty, length]
    cases state with
    | idle => simpa using refused (by simp [Accepts]) rfl _
    | streamInitialized =>
      simp
      refine ensures_begin succeeds holds fun t holds => ?_
      apply continues
      refine ensures_finish succeeds holds le_rfl fun mac t holds => ?_
      simp
      exact answered (by simp [Accepts]) holds
    | streamActive =>
      simp
      refine ensures_finish succeeds holds le_rfl fun mac t holds => ?_
      simp
      exact answered (by simp [Accepts]) holds
  | getSize =>
    simp [execute]
    exact answered trivial holds
  | reset =>
    rcases generates.own with ⟨own, bound, same, mode⟩
    have default : initParams.mode.getD .generate = .generate := by
      rcases chosen : initParams.mode with _ | (_ | _) <;> simp_all
    simp [execute, reset, initializeContext, abort] at bound same ⊢
    simp [bound, bindKey, same, default]
    refine ⟨?_, fun _ => answered trivial (holds_aborted holds)⟩
    rintro rfl
    exact answered trivial holds
  | singleShot some enough =>
    cases state with
    | idle | streamActive =>
      simp [execute, executeOperation, executeAction, handleSingleShot]
      exact refused (by simp [Accepts]) rfl _
    | streamInitialized =>
      simp [execute, executeOperation, executeAction, handleSingleShot, executeSignSingleShot,
        input_eq some, output_eq positive enough, enough]
      refine ensures_begin succeeds holds fun t holds => ?_
      apply continues
      refine ensures_feed succeeds holds fun t holds => ?_
      apply continues
      refine ensures_finish succeeds holds enough fun mac t holds => ?_
      simp
      exact answered (by simp [Accepts]) holds

end Pkcs11

end Accepts

namespace MacPair

open OpenSsl

structure Linked (token : MacToken T) (key : Bytes) (pair : MacPair T) : Prop where
  fresh : pair.session.state = .streamInitialized →
    pair.handler.state = .streamInitialized ∧ pair.handler.ctx = some .fresh
  keyed : pair.session.state ≠ .streamInitialized →
    ∃ own fed, pair.handler.ctx = some (.keyed own fed)
  idle : pair.session.state = .idle ↔ pair.handler.state = .idle
  params : ∃ provider, pair.handler.initParams = ⟨some ⟨provider, some key⟩, provider⟩
  generates : pair.session.Generates token

section Runs

variable {algorithm : MacAlgorithm} {token : MacToken T} {pair : MacPair T} {request : Request}
  {key : Bytes} (supported : algorithm.supported = true)
  (size : algorithm.outputSize.toNat = token.macSize) (positive : 0 < token.macSize)
  (succeeds : token.Succeeds) (nonempty : key ≠ [])

section Step

variable (linked : pair.Linked token key) (formed : WellFormed token.macSize request.1 request.2)

include supported size positive nonempty linked formed

theorem openSsl_iff :
    (∃ reply, (pair.openSsl algorithm request).1 = .ok reply) ↔ pair.handler.Accepts request.1 := by
  rcases linked.params with ⟨provider, params⟩
  refine ⟨fun accepted => accepts_of_performed accepted.choose_spec, fun accepts =>
    performed_of_accepts rfl supported (size ▸ positive) nonempty params ?_ (size ▸ formed) accepts⟩
  by_cases fresh : pair.session.state = .streamInitialized
  · exact .inl ⟨(linked.fresh fresh).2, by simp [(linked.fresh fresh).1]⟩
  · exact .inr (linked.keyed fresh)

include succeeds

theorem alike_iff : pair.Alike algorithm token request ↔ pair.Orderly request := by
  rw [Alike, openSsl_iff supported size positive nonempty linked formed, pkcs11,
    (answers_execute succeeds positive linked.generates formed).accepted]
  have fresh := linked.fresh
  have keyed := linked.keyed
  have idle := linked.idle
  rcases request with ⟨action, request⟩
  cases formed <;> cases state : pair.session.state <;> cases other : pair.handler.state <;>
    simp_all [HmacHandler.Accepts, MacSession.Accepts, Orderly]
  all_goals grind

theorem linked_step (orderly : pair.Orderly request) :
    (pair.step algorithm token request).Linked token key := by
  have accepted := openSsl_iff supported size positive nonempty linked formed
  have alike := (alike_iff supported size positive succeeds nonempty linked formed).mpr orderly
  rcases answers_execute succeeds positive linked.generates formed with ⟨answered, after, generates⟩
  rw [Alike, pkcs11, answered, accepted] at alike
  have step := hmacStep_perform algorithm pair.handler ⟨request.1, request.2, .succeeding⟩
  rcases linked with ⟨fresh, keyed, idle, own, _⟩
  rw [← step.initParams_eq] at own
  simp only [MacPair.step, openSsl, pkcs11] at accepted own ⊢
  generalize pair.handler.perform algorithm _ = done at accepted own step ⊢
  rcases done with ⟨result, handler⟩
  suffices states : (pair.session.next request.1 = .streamInitialized →
        handler.state = .streamInitialized ∧ handler.ctx = some .fresh) ∧
      (pair.session.next request.1 ≠ .streamInitialized →
        ∃ own fed, handler.ctx = some (.keyed own fed)) ∧
      (pair.session.next request.1 = .idle ↔ handler.state = .idle) by
    rw [← after] at states
    exact ⟨states.1, states.2.1, states.2.2, own, generates⟩
  rcases request with ⟨action, request⟩
  cases step with
  | refused =>
    have stays : pair.session.next action = pair.session.state := by
      cases formed <;> cases state : pair.session.state <;>
        simp_all [MacSession.next, HmacHandler.Accepts, MacSession.Accepts]
    rw [stays]
    exact ⟨fresh, keyed, idle⟩
  | asked is =>
    obtain rfl : action = .getSize := is
    exact ⟨fresh, keyed, idle⟩
  | renewed is ready =>
    obtain rfl : action = .reset := is
    rcases ready with ⟨rfl, _⟩ | ⟨_, unbound⟩
    · simp [MacSession.next]
    · rcases own with ⟨provider, own⟩
      simp_all
  | started is =>
    obtain rfl : action = .init := is
    simp [MacSession.next]
  | judged is running ctx =>
    obtain rfl : action = .verify := is
    simp [MacSession.next, ctx]
  | fed is | finished is | single is | disturbed is =>
    change action = _ at is
    subst is
    cases state : pair.session.state <;>
      simp_all [MacSession.next, Orderly, HmacHandler.Accepts]
  | cleared is =>
    obtain rfl : action = .reset := is
    simp [HmacHandler.Accepts] at accepted
  | spilled spills =>
    obtain rfl : action = .finalize := spills.1
    simp [HmacHandler.Accepts, spills.2.1] at accepted

end Step

variable {mode : Option OperationMode} (generate : mode ≠ some .verify) {t : T}
  (inactive : ∀ mode, token.active mode t = false) (openSslId pkcs11Id : ProviderId)

include supported nonempty generate inactive

theorem linked_created : (created algorithm mode openSslId pkcs11Id key t).Linked token key := by
  have default : mode.getD .generate = .generate := by
    rcases mode with _ | (_ | _) <;> simp_all
  have handler : (created algorithm mode openSslId pkcs11Id key t).handler =
      ⟨.streamInitialized, some .fresh, ⟨some ⟨openSslId, some key⟩, openSslId⟩⟩ := by
    simp [created, HmacHandler.created, HmacHandler.initializeContext, exec_bind, ensure, supported,
      MacAnswers.succeeding, HmacHandler.bindKey, HmacHandler.keyMaterial, nonempty]
  have session : (created algorithm mode openSslId pkcs11Id key t).session =
      ⟨.streamInitialized, true, .generate, ⟨some ⟨pkcs11Id, none⟩, pkcs11Id, mode⟩, t⟩ := by
    simp [created, MacSession.created, MacSession.initializeContext, exec_bind, ensure, MacSession.bindKey,
      default]
  refine ⟨by simp [handler], by simp [session], by simp [handler, session],
    ⟨openSslId, by rw [handler]⟩, ?_⟩
  rw [session]
  exact ⟨rfl, rfl, ⟨_, rfl, rfl, generate⟩, MacSession.holds_inactive .generate inactive⟩

include size positive succeeds

/-- After orderly actions, both handlers accept the next one or neither does, exactly if it is orderly too. -/
theorem alike_run (requests : List Request)
    (meets : Run.Meets (step algorithm token)
      (fun pair request => WellFormed token.macSize request.1 request.2 ∧ pair.Orderly request)
      (created algorithm mode openSslId pkcs11Id key t) requests)
    (request : Request) (formed : WellFormed token.macSize request.1 request.2) :
    (Run.run (step algorithm token) (created algorithm mode openSslId pkcs11Id key t) requests).Alike
        algorithm token request ↔
      (Run.run (step algorithm token) (created algorithm mode openSslId pkcs11Id key t) requests).Orderly
        request := by
  refine alike_iff supported size positive succeeds nonempty ?_ formed
  refine Run.run_invariant_of_meets (Linked token key) (fun _ _ linked orderly => ?_) _ requests
    (linked_created supported nonempty generate inactive openSslId pkcs11Id) meets
  exact linked_step supported size positive succeeds nonempty linked orderly.1 orderly.2

end Runs

theorem sampleToken_succeeds : sampleToken.Succeeds where
  init mode t inactive := by simp_all [sampleToken]
  update mode data t active := by simp_all [sampleToken]
  sign room t active enough := by
    have active : t .generate = true := active
    simp [sampleToken, active, show ¬room < 32 from Nat.not_lt.mpr enough]

def samplePair : MacPair (OperationMode → Bool) :=
  created paddedMac (some .generate) 1 2 [7] fun _ => false

/-- A stream that is started, fed and finished. -/
theorem alike_stream :
    (Run.run (step paddedMac sampleToken) samplePair
      [(.init, []), (.update, [.input (.bytes [97])])]).Alike paddedMac sampleToken
        (.finalize, [.output (.room 32), .input (.bytes [98])]) :=
  (alike_run rfl rfl (by decide) sampleToken_succeeds (by decide) (by decide) (fun _ => rfl) 1 2 _
    (by exact ⟨⟨.init none, trivial⟩, ⟨.update (by decide), by unfold Orderly; decide⟩, trivial⟩) _
    (.finalize le_rfl (by decide : (some [98] : Option Bytes) ≠ some []))).mpr (by unfold Orderly; decide)

/-- An update of a new context starts a stream with one provider and is refused by the other. -/
theorem unlike_first_update :
    ¬samplePair.Alike paddedMac sampleToken (.update, [.input (.bytes [97])]) := by
  have refused : (samplePair.openSsl paddedMac (.update, [.input (.bytes [97])])).1 =
      .error .algorithmExecutionFailed := by decide
  have accepted : (samplePair.pkcs11 sampleToken (.update, [.input (.bytes [97])])).1 = .ok {} := by
    decide
  simp [Alike, refused, accepted]

end MacPair

end ScoreCrypto.Provider
