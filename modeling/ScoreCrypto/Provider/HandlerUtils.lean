import ScoreCrypto.ControlPlane.Protocol
import ScoreCrypto.Lib.Checked

/-!
What the handlers of streams have in common: the parameters of their actions, the checks on them, and the
sequence in which a stream is started, fed and ended.
-/

namespace ScoreCrypto.Provider

open ControlPlane

abbrev Bytes := List UInt8

/-- A span of input bytes; without an address there is only a size. -/
inductive Span where
  | null (size : Nat)
  | bytes (value : Bytes)
  deriving DecidableEq, Repr

inductive Room where
  | null (size : Nat)
  | room (size : Nat)
  deriving DecidableEq, Repr

inductive Parameter where
  | input (span : Span)
  | output (room : Room)
  | other
  deriving DecidableEq, Repr

structure Reply where
  values : List ResponseParameter := []
  written : Option Bytes := none
  deriving DecidableEq, Repr

def Reply.ofWritten (bytes : Bytes) : Reply :=
  ⟨[.uint64 (UInt64.ofNat bytes.length)], some bytes⟩

def validateParameterCount (parameters : List Parameter) (expectedCount : Nat) :
    Expected Unit :=
  if parameters.length < expectedCount then .error .insufficientParameters
  else if expectedCount < parameters.length then .error .invalidArgument
  else .ok ()

@[simp] theorem validateParameterCount_eq_ok {parameters : List Parameter} {count : Nat} {done : Unit} :
    validateParameterCount parameters count = .ok done ↔ parameters.length = count := by
  rw [validateParameterCount]
  split_ifs with fewer more
  · simp [Nat.ne_of_lt fewer]
  · simp [Nat.ne_of_gt more]
  · simp only [true_iff]
    omega

def checkAndGetInput (parameter : Parameter) (allowEmpty : Bool) : Expected Bytes :=
  match parameter with
  | .input (.null size) =>
    if size ≠ 0 then .error .insufficientBufferSize
    else if allowEmpty then .ok []
    else .error .insufficientBufferSize
  | .input (.bytes value) =>
    if allowEmpty = false ∧ value = [] then .error .insufficientBufferSize else .ok value
  | _ => .error .invalidDataType

/-- `CheckAndGetSpan` for output, which no caller allows to be empty. -/
def checkAndGetOutput : Parameter → Expected Nat
  | .output (.null _) => .error .insufficientBufferSize
  | .output (.room size) => if size = 0 then .error .insufficientBufferSize else .ok size
  | _ => .error .invalidDataType

/-! ### Streams -/

inductive StreamOperationState where
  | idle
  | streamInitialized
  | streamActive
  deriving DecidableEq, Repr

inductive StreamOperation where
  | init
  | update
  | finalize
  deriving DecidableEq, Repr

def validateStreamOperationSequence (currentState : StreamOperationState)
    (streamOperation : StreamOperation) (allowFinalizeWithoutUpdate : Bool)
    (invalidSequenceError : DaemonErrorCode) : Expected StreamOperationState :=
  match streamOperation with
  | .init => .ok .streamInitialized
  | .update =>
    if currentState = .streamInitialized ∨ currentState = .streamActive then .ok .streamActive
    else .error invalidSequenceError
  | .finalize =>
    if currentState ≠ .streamActive ∧
        ¬(allowFinalizeWithoutUpdate = true ∧ currentState = .streamInitialized) then
      .error invalidSequenceError
    else .ok .idle

/-! ### Actions on a hash context -/

inductive HashAction where
  | init
  | update
  | finalize
  | singleShot
  | getDigestSize
  | reset
  | other (code : UInt16)
  deriving DecidableEq, Repr

def HashAction.toStreamOperation : HashAction → Option StreamOperation
  | .init => some .init
  | .update => some .update
  | .finalize => some .finalize
  | _ => none

/-- The transition that both hash executors validate: a stream without any data has a digest too. -/
def HashAction.validateStreamTransition (action : HashAction) (currentState : StreamOperationState) :
    Expected StreamOperationState :=
  match action.toStreamOperation with
  | none => .error .invalidOperation
  | some operation => validateStreamOperationSequence currentState operation true .streamNotInitialized

namespace HashAction

variable {state next : StreamOperationState} {error : DaemonErrorCode}

@[simp] theorem validateStreamTransition_init :
    init.validateStreamTransition state = .ok .streamInitialized := rfl

@[simp] theorem validateStreamTransition_update :
    update.validateStreamTransition state = .ok next ↔ state ≠ .idle ∧ next = .streamActive := by
  cases state <;> cases next <;> decide

@[simp] theorem validateStreamTransition_finalize :
    finalize.validateStreamTransition state = .ok next ↔ state ≠ .idle ∧ next = .idle := by
  cases state <;> cases next <;> decide

theorem finalize_refused (refused : finalize.validateStreamTransition state = .error error) :
    error = .streamNotInitialized := by
  cases state <;> cases refused
  rfl

end HashAction

/-! ### Actions on a MAC context -/

inductive MacAction where
  | init
  | update
  | finalize
  | verify
  | getSize
  | reset
  | singleShot
  | other (code : UInt16)
  deriving DecidableEq, Repr

def MacAction.toStreamOperation : MacAction → Option StreamOperation
  | .init => some .init
  | .update => some .update
  | .finalize => some .finalize
  | _ => none

/-- The transition that both MAC executors validate: a finalize needs an update before it. -/
def MacAction.validateStreamTransition (action : MacAction) (currentState : StreamOperationState) :
    Expected StreamOperationState :=
  match action.toStreamOperation with
  | none => .error .invalidOperation
  | some operation =>
    validateStreamOperationSequence currentState operation false .invalidStreamOperation

namespace MacAction

variable {state next : StreamOperationState} {error : DaemonErrorCode}

@[simp] theorem validateStreamTransition_init :
    init.validateStreamTransition state = .ok .streamInitialized := rfl

@[simp] theorem validateStreamTransition_update :
    update.validateStreamTransition state = .ok next ↔ state ≠ .idle ∧ next = .streamActive := by
  cases state <;> cases next <;> decide

@[simp] theorem validateStreamTransition_finalize :
    finalize.validateStreamTransition state = .ok next ↔ state = .streamActive ∧ next = .idle := by
  cases state <;> cases next <;> decide

@[simp] theorem update_refused :
    update.validateStreamTransition state = .error error ↔
      state = .idle ∧ error = .invalidStreamOperation := by
  cases state <;>
    simp [validateStreamTransition, toStreamOperation, validateStreamOperationSequence, eq_comm]

@[simp] theorem finalize_refused :
    finalize.validateStreamTransition state = .error error ↔
      state ≠ .streamActive ∧ error = .invalidStreamOperation := by
  cases state <;>
    simp [validateStreamTransition, toStreamOperation, validateStreamOperationSequence, eq_comm]

end MacAction

structure KeyHandler where
  providerId : ProviderId
  rawKeyBytes : Option Bytes
  deriving DecidableEq, Repr

end ScoreCrypto.Provider
