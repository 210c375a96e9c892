import ScoreCrypto.ControlPlane.ConnectionHandler

/-!
A response answers a batch if it has one entry for every attempted operation, up to the first one
that fails. Which batches are answered so, over the three handlers of the chain.
-/

namespace ScoreCrypto.ControlPlane

open DataManager Daemon Provider Mediator DataPlane Program

/-! ### Answers to a batch -/

/-- The operations are attempted in their order until one fails, and each attempted one has its
entry. -/
inductive Answered : List (OperationIdentifier × Nat) → List Nat → List SingleOperationResponse → Prop
  | done : Answered [] [] []
  | failed {operation : OperationIdentifier} {i : Nat} {operations : List (OperationIdentifier × Nat)}
      {entry : SingleOperationResponse} (same : entry.operationId = operation)
      (fails : entry.result ≠ none) : Answered ((operation, i) :: operations) [i] [entry]
  | succeeded {operation : OperationIdentifier} {i : Nat}
      {operations : List (OperationIdentifier × Nat)} {entry : SingleOperationResponse}
      {attempted : List Nat} {response : List SingleOperationResponse}
      (same : entry.operationId = operation) (succeeds : entry.result = none)
      (rest : Answered operations attempted response) :
      Answered ((operation, i) :: operations) (i :: attempted) (entry :: response)

namespace Answered

variable {operations : List (OperationIdentifier × Nat)} {attempted : List Nat}
  {response : List SingleOperationResponse}

theorem length_eq (answered : Answered operations attempted response) :
    response.length = attempted.length := by
  induction answered with
  | done => rfl
  | failed => rfl
  | succeeded same succeeds rest ih => simp [ih]

theorem attempted_sublist (answered : Answered operations attempted response) :
    attempted.Sublist (operations.map Prod.snd) := by
  induction answered with
  | done => exact List.Sublist.slnil
  | failed => simp
  | succeeded same succeeds rest ih => exact ih.cons_cons _

theorem tail {operation : OperationIdentifier} {i : Nat} {entry : SingleOperationResponse}
    (answered : Answered ((operation, i) :: operations) (i :: attempted) (entry :: response))
    (succeeds : entry.result = none) : Answered operations attempted response := by
  cases answered with
  | failed same fails => exact absurd succeeds fails
  | succeeded same succeeds rest => exact rest

theorem succeeds_before {more : List SingleOperationResponse}
    (answered : Answered operations attempted (response ++ more)) (later : more ≠ []) :
    ∀ entry ∈ response, entry.result = none := by
  induction response generalizing operations attempted with
  | nil => simp
  | cons entry response ih =>
    rw [List.cons_append] at answered
    generalize all : response ++ more = remaining at answered
    cases answered with
    | failed same fails => exact absurd (List.append_eq_nil_iff.mp all).2 later
    | succeeded same succeeds rest =>
      rw [← all] at rest
      intro other member
      rcases List.mem_cons.mp member with here | there
      · rw [here]
        exact succeeds
      · exact ih rest other there

theorem append {done : List (OperationIdentifier × Nat)} {entries : List SingleOperationResponse}
    (same : entries.map SingleOperationResponse.operationId = done.map Prod.fst)
    (succeed : ∀ entry ∈ entries, entry.result = none)
    (answered : Answered operations attempted response) :
    Answered (done ++ operations) (done.map Prod.snd ++ attempted) (entries ++ response) := by
  induction done generalizing entries with
  | nil =>
    have none_left : entries = [] := by simpa using same
    simpa [none_left] using answered
  | cons head done ih =>
    cases entries with
    | nil => simp at same
    | cons entry entries =>
      simp only [List.map_cons, List.cons.injEq] at same
      exact .succeeded same.1 (succeed entry (by simp))
        (ih same.2 fun other member => succeed other (by simp [member]))

end Answered

def identified (operations : List Positioned) : List (OperationIdentifier × Nat) :=
  operations.map (Prod.map SingleOperationRequest.operationId id)

@[simp] theorem identified_nil : identified [] = [] := rfl

@[simp] theorem identified_cons (operation : SingleOperationRequest) (i : Nat)
    (operations : List Positioned) :
    identified ((operation, i) :: operations) = (operation.operationId, i) :: identified operations :=
  rfl

@[simp] theorem identified_append (first second : List Positioned) :
    identified (first ++ second) = identified first ++ identified second :=
  List.map_append

@[simp] theorem identified_positions (operations : List Positioned) :
    (identified operations).map Prod.snd = operations.map Prod.snd := by
  simp [identified]

/-- No operation is executed twice, and the response has the entries that it should. -/
structure Corresponds (operations : List SingleOperationRequest) (attempted : List Nat)
    (response : List SingleOperationResponse) : Prop where
  once : attempted.Nodup
  answered : Answered (identified operations.zipIdx) attempted response

/-- An answered batch has no operation twice, since its positions are all different. -/
theorem corresponds_iff_answered {operations : List SingleOperationRequest} {attempted : List Nat}
    {response : List SingleOperationResponse} :
    Corresponds operations attempted response ↔
      Answered (identified operations.zipIdx) attempted response := by
  refine ⟨Corresponds.answered, fun answered => ⟨?_, answered⟩⟩
  have positions := answered.attempted_sublist
  rw [identified_positions, List.zipIdx_map_snd] at positions
  exact positions.nodup List.nodup_range'

/-! ### One operation -/

def Single (operation : SingleOperationRequest) (handled : Handled) : Prop :=
  ∃ entry, handled.entries = [entry] ∧ entry.operationId = operation.operationId ∧
    (entry.result = none ↔ handled.success = true)

def Responds (operation : SingleOperationRequest) (p : Prog Handled) : Prop :=
  ∀ d, Single operation (exec p d).1

variable {operation : SingleOperationRequest}

theorem responds_ok (parameters : List ResponseParameter) :
    Responds operation (pure (.ok operation parameters)) :=
  fun _ => ⟨_, rfl, rfl, by simp [Handled.ok, SingleOperationResponse.success]⟩

theorem responds_failed (error : CryptoErrorCode) :
    Responds operation (pure (.failed operation error)) :=
  fun _ => ⟨_, rfl, rfl, by simp [Handled.failed, SingleOperationResponse.error]⟩

theorem responds_bind {α : Type} {p : Prog α} {f : α → Prog Handled}
    (rest : ∀ value, Responds operation (f value)) : Responds operation (p >>= f) := by
  intro d
  simp only [exec_bind]
  exact rest _ _

theorem responds_withAccessor {clientId : ClientId} {nodeId : DataNodeId} {error : CryptoErrorCode}
    {body : Node → Prog Handled} (found : ∀ node, Responds operation (body node)) :
    Responds operation (withAccessor clientId nodeId (fun _ => .failed operation error) body) := by
  apply responds_bind
  intro answer
  match answer with
  | .error e => exact responds_failed error
  | .ok (accessor, node) =>
    intro d
    simp only [exec_bind, exec_pure]
    exact found node d

variable (config : Config) (clientId : ClientId) (dataNodeId : DataNodeId)

theorem responds_contextCreation (answers : Answers) :
    Responds operation
      (handleContextCreationOperation config answers clientId dataNodeId operation) := by
  apply responds_bind
  intro created
  cases created with
  | error e => exact responds_failed e
  | ok context => exact responds_ok _

theorem responds_deleteNode : Responds operation (deleteNodeAndRespond clientId dataNodeId operation) := by
  unfold deleteNodeAndRespond
  split
  · exact responds_bind fun _ => responds_ok _
  · split
    · exact responds_failed _
    · exact responds_bind fun _ => responds_ok _

theorem responds_resourceResolution :
    Responds operation (handleResourceResolutionOperation config clientId operation) := by
  unfold handleResourceResolutionOperation
  split
  · exact responds_failed _
  · simp only
    split
    · apply responds_bind
      intro resolved
      cases resolved with
      | error e => exact responds_failed _
      | ok nodeId => exact responds_ok _
    · exact responds_failed _

theorem responds_shmCreate (answers : Answers) :
    Responds operation (handleShmCreateObject config answers clientId dataNodeId operation) := by
  unfold handleShmCreateObject
  split
  · exact responds_failed _
  · exact responds_failed _
  · split
    · exact responds_failed _
    · apply responds_bind
      intro added
      cases added with
      | error e => exact responds_failed _
      | ok nodeId => exact responds_ok _

theorem responds_forward (answers : Answers) :
    Responds operation (forwardSingleOperation config answers clientId dataNodeId operation) := by
  apply responds_withAccessor
  intro node
  cases node with
  | context handlerRef =>
    apply responds_bind
    intro found
    cases found with
    | none => exact responds_failed _
    | some handler =>
      apply responds_bind
      intro executed
      cases executed with
      | error e => exact responds_failed _
      | ok values => exact responds_ok _
  | _ => exact responds_failed _

def Known (operation : SingleOperationRequest) : Prop :=
  operation.operationId.operationActor = Actor.mediator →
    operation.operationId.operationAction ∈
      [Operations.ctxCreate, Operations.ctxClose, Operations.resolveResource, Operations.shmSetup,
        Operations.shmDestroyObject]

instance : Decidable (Known operation) :=
  inferInstanceAs (Decidable (_ → _))

theorem responds_handleSingle (answers : Answers) (known : Known operation) :
    Responds operation (handleSingleOperation config answers clientId dataNodeId operation) := by
  unfold handleSingleOperation
  split
  case isFalse => exact responds_forward config clientId dataNodeId answers
  case isTrue mediator =>
      have action := known mediator
      unfold handleMediatorOperation
      simp only
      split
      · exact responds_contextCreation config clientId dataNodeId answers
      split
      · exact responds_deleteNode clientId dataNodeId
      split
      · exact responds_resourceResolution config clientId
      split
      · exact responds_shmCreate config clientId dataNodeId answers
      split
      · exact responds_deleteNode clientId dataNodeId
      · simp_all

theorem handleSingle_unknown (answers : Answers) (unknown : ¬Known operation) :
    handleSingleOperation config answers clientId dataNodeId operation = pure ⟨[], false⟩ := by
  simp only [Known, Classical.not_imp, List.mem_cons, List.not_mem_nil, or_false, not_or] at unknown
  simp [handleSingleOperation, handleMediatorOperation, unknown]

def KnownControl (operation : SingleOperationRequest) : Prop :=
  operation.operationId.operationAction ∈ [Operations.connectionOpen, Operations.connectionClose]

instance : Decidable (KnownControl operation) :=
  inferInstanceAs (Decidable (_ ∈ _))

theorem responds_processSingle (known : KnownControl operation) :
    Responds operation (processSingleRequest clientId dataNodeId operation) := by
  unfold processSingleRequest
  split
  · apply responds_bind
    intro added
    cases added with
    | error e => exact responds_failed _
    | ok connectionId => exact responds_ok _
  split
  · exact responds_bind fun _ => responds_ok _
  · simp_all [KnownControl]

theorem processSingle_unknown (unknown : ¬KnownControl operation) :
    processSingleRequest clientId dataNodeId operation =
      pure ⟨[.error operation.operationId .internalError], true⟩ := by
  simp only [KnownControl, List.mem_cons, List.not_mem_nil, or_false, not_or] at unknown
  simp [processSingleRequest, processUnknownRequest, unknown]

/-! ### The mediator's part of a batch -/

section Batch

variable (answers : Nat → Answers)

/-- The mediator never comes to an operation that it does not know. -/
def MediatorRegular : List Positioned → Daemon.State → Prop
  | [], _ => True
  | (operation, i) :: operations, d =>
    Known operation ∧
      let handled := exec (handleSingleOperation config (answers i) clientId dataNodeId operation) d
      (handled.1.success = true → MediatorRegular operations handled.2)

theorem mediate_answered_iff (operations : List Positioned) (d : Daemon.State) :
    Answered (identified operations)
        (exec (mediate config answers clientId dataNodeId operations) d).1.attempted
        (exec (mediate config answers clientId dataNodeId operations) d).1.response ↔
      MediatorRegular config clientId dataNodeId answers operations d := by
  induction operations generalizing d with
  | nil => exact ⟨fun _ => trivial, fun _ => .done⟩
  | cons head operations ih =>
    rcases head with ⟨operation, i⟩
    by_cases known : Known operation
    · rcases responds_handleSingle config clientId dataNodeId (answers i) known d with
        ⟨entry, entries, same, succeeds⟩
      simp only [mediate, MediatorRegular, known, true_and, identified_cons, exec_bind]
      split
      case isTrue success =>
        simp only [exec_bind, exec_pure, entries, List.singleton_append]
        have none_failed := succeeds.mpr success
        rw [← ih]
        refine ⟨?_, fun rest => .succeeded same none_failed (rest success)⟩
        exact fun answered _ => answered.tail none_failed
      case isFalse failure =>
        simp only [exec_pure, entries]
        refine ⟨fun _ success => absurd success failure, fun _ => .failed same ?_⟩
        exact fun succeeded => failure (succeeds.mp succeeded)
    · simp only [mediate, MediatorRegular, known, false_and, iff_false, identified_cons,
        handleSingle_unknown config clientId dataNodeId (answers i) known]
      intro answered
      cases answered

theorem mediate_length (operations : List Positioned) (d : Daemon.State) :
    (exec (mediate config answers clientId dataNodeId operations) d).1.response.length ≤
      (exec (mediate config answers clientId dataNodeId operations) d).1.attempted.length := by
  induction operations generalizing d with
  | nil => exact Nat.le_refl 0
  | cons head operations ih =>
    rcases head with ⟨operation, i⟩
    have at_most_one : (exec (handleSingleOperation config (answers i) clientId dataNodeId
        operation) d).1.entries.length ≤ 1 := by
      by_cases known : Known operation
      · rcases responds_handleSingle config clientId dataNodeId (answers i) known d with
          ⟨entry, entries, _⟩
        simp [entries]
      · simp [handleSingle_unknown config clientId dataNodeId (answers i) known]
    simp only [mediate, exec_bind]
    split
    · have rest := ih (exec (handleSingleOperation config (answers i) clientId dataNodeId
        operation) d).2
      simp only [exec_bind, exec_pure, List.length_append, List.length_cons]
      exact (Nat.add_le_add at_most_one rest).trans_eq (Nat.add_comm 1 _)
    · simpa using at_most_one

/-! ### The shared memory's part -/

variable {operations : List Positioned}

theorem resolveOperations_ok {resolved : List Positioned} {d : Daemon.State}
    (ok : (exec (resolveOperations clientId operations) d).1 = .ok resolved) :
    identified resolved = identified operations := by
  induction operations generalizing resolved d with
  | nil =>
    cases ok
    rfl
  | cons head operations ih =>
    rcases head with ⟨operation, i⟩
    simp only [resolveOperations, exec_bind] at ok
    split at ok
    · cases ok
    · simp only [exec_bind] at ok
      split at ok
      · cases ok
      case h_2 rest rest_ok =>
        cases ok
        rw [identified_cons, identified_cons, ih rest_ok]

theorem resolveOperations_error {failed : Positioned}
    {d : Daemon.State} (error : (exec (resolveOperations clientId operations) d).1 = .error failed) :
    failed ∈ operations := by
  induction operations generalizing d with
  | nil => cases error
  | cons head operations ih =>
    rcases head with ⟨operation, i⟩
    simp only [resolveOperations, exec_bind] at error
    split at error
    · cases error
      exact List.mem_cons_self
    · simp only [exec_bind] at error
      split at error
      case h_1 rest_error =>
        cases error
        exact List.mem_cons_of_mem _ (ih rest_error)
      · cases error

/-- The shared memory of every operation can be resolved, or that of the first cannot. -/
def ForwardRegular (operations : List Positioned) (d : Daemon.State) : Prop :=
  match (exec (resolveOperations clientId operations) d).1 with
  | .error failed => operations.head? = some failed
  | .ok resolved =>
    MediatorRegular config clientId dataNodeId answers resolved
      (exec (resolveOperations clientId operations) d).2

theorem forward_answered_iff (d : Daemon.State)
    (positions : (operations.map Prod.snd).Nodup) :
    Answered (identified operations)
        (exec (forwardWithResolvedShm config answers clientId dataNodeId operations) d).1.attempted
        (exec (forwardWithResolvedShm config answers clientId dataNodeId operations) d).1.response ↔
      ForwardRegular config clientId dataNodeId answers operations d := by
  simp only [forwardWithResolvedShm, ForwardRegular, exec_bind]
  cases outcome : (exec (resolveOperations clientId operations) d).1 with
  | ok resolved =>
    rw [← resolveOperations_ok clientId outcome]
    exact mediate_answered_iff config clientId dataNodeId answers resolved _
  | error failed =>
    have member := resolveOperations_error clientId outcome
    rcases failed with ⟨operation, i⟩
    simp only [exec_pure]
    cases operations with
    | nil => simp at member
    | cons head operations =>
      rcases head with ⟨first, j⟩
      simp only [identified_cons, List.head?_cons, Option.some.injEq]
      constructor
      · intro answered
        apply List.inj_on_of_nodup_map positions List.mem_cons_self member
        cases answered with
        | failed same fails => rfl
        | succeeded same succeeds rest => rfl
      · intro same
        cases same
        exact .failed rfl (by simp [SingleOperationResponse.error])

theorem forward_length (operations : List Positioned) (d : Daemon.State) :
    (exec (forwardWithResolvedShm config answers clientId dataNodeId operations) d).1.response.length ≤
      (exec (forwardWithResolvedShm config answers clientId dataNodeId
        operations) d).1.attempted.length := by
  simp only [forwardWithResolvedShm, exec_bind]
  split
  · exact Nat.le_refl 1
  · exact mediate_length config clientId dataNodeId answers _ _

/-! ### The connection handler's part -/

/-- Every operation that the connection handler comes to is one of its own, and only the last of
the batch may be one it does not know. -/
def ControlRegular : List Positioned → Daemon.State → Prop
  | [], _ => True
  | (operation, _) :: operations, d =>
    operation.operationId.operationActor = Actor.control ∧
      if KnownControl operation then
        let handled := exec (processSingleRequest clientId dataNodeId operation) d
        handled.1.success = true → ControlRegular operations handled.2
      else operations = []

theorem processSingle_entry (operation : SingleOperationRequest) (d : Daemon.State) :
    ∃ entry, (exec (processSingleRequest clientId dataNodeId operation) d).1.entries = [entry] := by
  by_cases known : KnownControl operation
  · rcases responds_processSingle clientId dataNodeId known d with ⟨entry, entries, _⟩
    exact ⟨entry, entries⟩
  · rw [processSingle_unknown clientId dataNodeId known]
    exact ⟨_, rfl⟩

/-- Once an operation was attempted, what is left adds entries, unless the batch is sent on: then
there are more attempts than entries. -/
theorem processOperations_adds (batch operations : List Positioned) (served : Served)
    (d : Daemon.State) (started : served.attempted ≠ []) :
    (exec (processOperations config answers clientId dataNodeId batch operations served)
        d).1.response.length <
      (exec (processOperations config answers clientId dataNodeId batch operations served)
        d).1.attempted.length ∨
    ∃ more, (operations ≠ [] → more ≠ []) ∧
      (exec (processOperations config answers clientId dataNodeId batch operations served)
        d).1.response = served.response ++ more := by
  induction operations generalizing served d with
  | nil => exact .inr ⟨[], fun left => absurd rfl left, (List.append_nil _).symm⟩
  | cons head operations ih =>
    rcases head with ⟨operation, i⟩
    simp only [processOperations]
    split
    · left
      have forwarded := forward_length config clientId dataNodeId answers batch d
      have before := List.length_pos_iff.mpr started
      simp only [exec_bind, exec_pure, List.length_append]
      exact Nat.lt_of_le_of_lt forwarded (Nat.lt_add_of_pos_left before)
    · rcases processSingle_entry clientId dataNodeId operation d with ⟨entry, entries⟩
      simp only [exec_bind, entries]
      split
      · rcases ih ⟨served.attempted ++ [i], served.response ++ [entry]⟩ _ (by simp) with
          fewer | ⟨more, _, adds⟩
        · exact .inl fewer
        · exact .inr ⟨entry :: more, fun _ => List.cons_ne_nil _ _, by rw [adds]; simp⟩
      · exact .inr ⟨[entry], fun _ => List.cons_ne_nil _ _, rfl⟩

theorem processOperations_answered_iff (done operations : List Positioned)
    (entries : List SingleOperationResponse) (d : Daemon.State)
    (started : done ≠ [] ∨
      ∀ first ∈ operations.head?, first.1.operationId.operationActor = Actor.control)
    (same : entries.map SingleOperationResponse.operationId = (identified done).map Prod.fst)
    (succeed : ∀ entry ∈ entries, entry.result = none) :
    Answered (identified (done ++ operations))
        (exec (processOperations config answers clientId dataNodeId (done ++ operations) operations
          ⟨done.map Prod.snd, entries⟩) d).1.attempted
        (exec (processOperations config answers clientId dataNodeId (done ++ operations) operations
          ⟨done.map Prod.snd, entries⟩) d).1.response ↔
      ControlRegular clientId dataNodeId operations d := by
  induction operations generalizing done entries d with
  | nil =>
    refine ⟨fun _ => trivial, fun _ => ?_⟩
    have answered := Answered.done.append same succeed
    simpa [processOperations] using answered
  | cons head operations ih =>
    rcases head with ⟨operation, i⟩
    by_cases control : operation.operationId.operationActor = Actor.control
    · simp only [processOperations, ControlRegular, control, ne_eq, not_true_eq_false, if_false,
        true_and, exec_bind]
      by_cases known : KnownControl operation
      · rcases responds_processSingle clientId dataNodeId known d with
          ⟨entry, handled, entry_same, succeeds⟩
        simp only [handled, known, if_true]
        split
        case isTrue success =>
          have next := ih (done ++ [(operation, i)]) (entries ++ [entry])
            (exec (processSingleRequest clientId dataNodeId operation) d).2 (by simp)
            (by simp [same, entry_same])
            (by simpa [or_imp, forall_and, succeeds.mpr success] using succeed)
          simp only [List.append_assoc, List.singleton_append, List.map_append, List.map_cons,
            List.map_nil] at next
          rw [next]
          exact ⟨fun regular _ => regular, fun regular => regular success⟩
        case isFalse failure =>
          refine ⟨fun _ success => absurd success failure, fun _ => ?_⟩
          have fails : entry.result ≠ none := fun none_failed => failure (succeeds.mp none_failed)
          have last : Answered (identified ((operation, i) :: operations)) [i] [entry] :=
            .failed entry_same fails
          simpa using last.append same succeed
      · -- an error is entered, and the batch goes on
        simp only [processSingle_unknown clientId dataNodeId known, known, if_false, exec_pure,
          if_true]
        constructor
        · intro answered
          by_contra remaining
          rcases processOperations_adds config clientId dataNodeId answers
              (done ++ (operation, i) :: operations) operations
              ⟨done.map Prod.snd ++ [i],
                entries ++ [.error operation.operationId .internalError]⟩ d (by simp) with
            fewer | ⟨more, nonempty, adds⟩
          · exact absurd answered.length_eq (Nat.ne_of_lt fewer)
          · have before := answered
            rw [adds] at before
            have failed := before.succeeds_before (nonempty remaining)
              (.error operation.operationId .internalError) (by simp)
            simp [SingleOperationResponse.error] at failed
        · intro last
          subst last
          have answered : Answered (identified [(operation, i)]) [i]
              [.error operation.operationId .internalError] :=
            .failed rfl (by simp [SingleOperationResponse.error])
          simpa [processOperations] using answered.append same succeed
    · -- the batch is sent on, with operations that were attempted before
      have attempted : done.map Prod.snd ≠ [] := by
        rcases started with nonempty | first
        · simpa using nonempty
        · exact absurd (first _ rfl) control
      simp only [processOperations, ControlRegular, control, ne_eq, not_false_eq_true, if_true,
        false_and, iff_false, exec_bind, exec_pure]
      intro answered
      have forwarded := forward_length config clientId dataNodeId answers
        (done ++ (operation, i) :: operations) d
      have lengths := answered.length_eq
      rw [List.length_append] at lengths
      exact absurd lengths (Nat.ne_of_lt (Nat.lt_of_le_of_lt forwarded
        (Nat.lt_add_of_pos_left (List.length_pos_iff.mpr attempted))))

end Batch

/-! ### A request -/

/-- A request whose first operation is a control operation has only control operations in the part
that is come to; any other one has its shared memory resolved first. -/
def Regular (config : Config) (answers : Nat → Answers) (request : ControlRequest)
    (d : Daemon.State) : Prop :=
  match request.operations with
  | [] => True
  | first :: _ =>
    if first.operationId.operationActor = Actor.control then
      ControlRegular request.clientId request.dataNodeId request.operations.zipIdx d
    else
      ForwardRegular config request.clientId request.dataNodeId answers
        request.operations.zipIdx d

theorem processRequest_corresponds_iff (config : Config) (answers : Nat → Answers)
    (request : ControlRequest) (d : Daemon.State) :
    Corresponds request.operations (exec (serveRequest config answers request) d).1.attempted
        (exec (processRequest config answers request) d).1.operations ↔
      Regular config answers request d := by
  rw [corresponds_iff_answered]
  simp only [processRequest, serveRequest, Regular, exec_bind, exec_pure]
  cases operations : request.operations with
  | nil => exact ⟨fun _ => trivial, fun _ => .done⟩
  | cons first rest =>
    by_cases control : first.operationId.operationActor = Actor.control
    · have answered := processOperations_answered_iff config request.clientId request.dataNodeId
        answers [] (first :: rest).zipIdx [] d (.inr (by simpa using control)) rfl (by simp)
      simpa [control] using answered
    · have positions : ((first :: rest).zipIdx.map Prod.snd).Nodup := by
        rw [List.zipIdx_map_snd]
        exact List.nodup_range'
      have answered := forward_answered_iff config request.clientId request.dataNodeId answers d
        positions
      simpa [processOperations, control] using answered

def openAndResolve : ControlRequest where
  requestId := 1
  clientId := 1
  dataNodeId := 0
  operations :=
    [{ operationId := ⟨Actor.control, Operations.connectionOpen⟩ },
      { operationId := ⟨Actor.mediator, Operations.resolveResource⟩, parameters := [.string "key"] }]

/-- The first operation is executed twice: the second time as an operation of a context. -/
theorem openAndResolve_executes_twice :
    ¬Corresponds openAndResolve.operations
      (exec (serveRequest Config.small (fun _ => {}) openAndResolve) Daemon.init).1.attempted
      (exec (processRequest Config.small (fun _ => {}) openAndResolve) Daemon.init).1.operations := by
  intro corresponds
  have once := corresponds.once
  revert once
  decide +kernel

end ScoreCrypto.ControlPlane
