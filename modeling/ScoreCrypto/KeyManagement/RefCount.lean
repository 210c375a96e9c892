import ScoreCrypto.KeyManagement.Settled

/-! Runs of the calls that make, share and drop references to keys, and the counts they leave. -/

namespace ScoreCrypto.KeyManagement

open DataManager Daemon Program Run

inductive KeyEvent where
  | keyCall (request : KeyCall)
  | cleanupClient (providerId : ProviderId) (clientId : ClientId)

def keyStep (config : Config) (d : Daemon.State) : KeyEvent → Daemon.State
  | .keyCall request => (exec (request.program config) d).2
  | .cleanupClient p c => (exec (cleanupClient p c) d).2

/-- The stored counts are the numbers of live key nodes, and exactly the keys with a positive
count are registered. -/
def ReferencesCounted (d : Daemon.State) : Prop :=
  ∀ key entry, d.entries key = some entry →
    entry.refCount.toNat = liveReferences d key ∧
      ((∃ id, (d.registries entry.providerId).findById id = some key) ↔
        0 < entry.refCount.toNat)

/-- No count is at its maximum when a reference is made, no id that a key could get is in use or 0, and
a registry is cleaned up only while it holds no key. -/
def KeyEvent.Admissible (config : Config) (d : Daemon.State) : KeyEvent → Prop
  | .keyCall (.registerKeyMaterial params _) => Ready d params.providerId
  | .keyCall (.loadOrShare params _ _) => Ready d params.providerId
  | .keyCall (.bindKeyToContext _ _ _ _ _) => SlotsReady config d
  | .keyCall _ => True
  | .cleanupClient p _ => (d.registries p).keys.entries = []

instance (config : Config) (d : Daemon.State) (event : KeyEvent) :
    Decidable (event.Admissible config d) := by
  rcases event with request | ⟨p, c⟩
  · cases request <;> unfold KeyEvent.Admissible <;> infer_instance
  · unfold KeyEvent.Admissible
    infer_instance

variable {d : Daemon.State}

theorem Settled.referencesCounted (settled : Settled d []) :
    ReferencesCounted d := by
  intro key entry here
  have counted := settled.ledger.count key entry here
  have live : references d key = liveReferences d key := by
    simp [references, settled.outside_eq]
  refine ⟨counted.trans live, ?_⟩
  rw [counted]
  constructor
  · intro used
    rcases used with ⟨id, found⟩
    exact settled.used _ id key found
  · intro positive
    rcases (holds_of_references settled.ledger.linked).mp positive with ⟨node, held, points⟩
    have registered := settled.ledger.backed node held
    rw [points] at registered
    rcases settled.ledger.key_entry _ _ _ registered with ⟨entry', here', provider⟩
    rw [here] at here'
    cases here'
    rw [provider]
    exact ⟨node.registryId, registered⟩

theorem cleanupClient_step (config : Config) {p : ProviderId} {c : ClientId}
    (empty : (d.registries p).keys.entries = []) : keyStep config d (.cleanupClient p c) = d := by
  simp only [keyStep, exec_perform, handle, cleanupClient_empty empty, setRegistry_same]

theorem addCall_settled (settled : Settled d []) {node : Node} {act : Prog α}
    (adds : Settled (exec act d).2 []) :
    Settled (exec (if node.keyData? = none then (do let _ ← act) else pure ()) d).2 [] := by
  split
  · simpa only [exec_bind, exec_pure] using adds
  · exact settled

theorem keyStep_settled (config : Config) (d : Daemon.State) (event : KeyEvent)
    (settled : Settled d []) (admissible : event.Admissible config d) :
    Settled (keyStep config d event) [] := by
  have unheld : ∀ key : KeyDataNode, key ∉ d.outside := by simp [settled.outside_eq]
  rcases event with request | ⟨p, c⟩
  · unfold keyStep
    cases request with
    | registerKeyMaterial params handler =>
      simp only [KeyCall.program, exec_bind, exec_pure]
      exact registerKeyMaterial_settled settled admissible handler
    | loadOrShare params slot found =>
      simp only [KeyCall.program, exec_bind, exec_pure]
      exact loadOrShare_settled settled admissible slot found
    | bindKeyToContext c contextNodeId keyNodeId target found =>
      simp only [KeyCall.program, exec_bind, exec_pure]
      exact bindKeyToContext_settled settled admissible c contextNodeId keyNodeId target found
    | addNode c node =>
      apply addCall_settled settled
      exact addNode_settled settled c fun key _ => unheld key
    | addChildNode c parentId node =>
      apply addCall_settled settled
      exact addChildNode_settled settled c parentId fun key _ => unheld key
    | deleteNode c id =>
      simp only [KeyCall.program, exec_bind, exec_pure]
      exact deleteNode_settled settled c id
    | deleteClientNodes c =>
      simp only [KeyCall.program, exec_bind, exec_pure]
      exact deleteClientNodes_settled settled c
    | getNodeAccessor c id =>
      simp only [KeyCall.program, exec_bind, exec_pure]
      exact getNodeAccessor_settled settled c id
    | destroyAccessor accessor => exact destroyAccessor_settled settled accessor
  · rw [cleanupClient_step config admissible]
    exact settled

def sampleHandle : ProviderKeyHandle := { algorithm := ⟨"HMAC", .other⟩ }

/-- In every run of admissible calls the counts are exact, and a cleanup changes nothing. -/
theorem run_referencesCounted (config : Config) (events : List KeyEvent)
    (admissible : Meets (keyStep config) (fun d event => event.Admissible config d) Daemon.init
      events) :
    ReferencesCounted (run (keyStep config) Daemon.init events) ∧
      ∀ p c, KeyEvent.Admissible config (run (keyStep config) Daemon.init events)
          (.cleanupClient p c) →
        keyStep config (run (keyStep config) Daemon.init events) (.cleanupClient p c) =
          run (keyStep config) Daemon.init events :=
  ⟨(run_invariant_of_meets (fun d => Settled d []) (keyStep_settled config) Daemon.init events
    init_settled admissible).referencesCounted, fun _ _ empty => cleanupClient_step config empty⟩

/-- A key is registered, shared and dropped by one client, and another client is cleaned up. -/
theorem run_referencesCounted_dropped :
    ReferencesCounted (run (keyStep Config.small) Daemon.init
      [.keyCall (.addNode 1 .generic), .keyCall (.registerKeyMaterial ⟨1, 1, 0, {}⟩ (some sampleHandle)),
        .keyCall (.bindKeyToContext 1 1 2 0 (.ok .secret)), .keyCall (.deleteClientNodes 1),
        .cleanupClient 0 2]) :=
  (run_referencesCounted Config.small _ (by decide +kernel)).1

/-- Client 1 holds the only reference to a key when client 2, which has no nodes, is cleaned up. -/
def foreignCleanup : List KeyEvent :=
  [.keyCall (.addNode 1 .generic), .keyCall (.registerKeyMaterial ⟨1, 1, 0, {}⟩ (some sampleHandle)),
    .keyCall (.deleteClientNodes 2), .cleanupClient 0 2]

theorem foreignCleanup_miscounts :
    ¬ReferencesCounted (run (keyStep Config.small) Daemon.init foreignCleanup) := by
  intro counted
  have zero := (counted 0 ⟨sampleHandle, 0, {}, 0, [1]⟩ (by decide +kernel)).1
  revert zero
  decide +kernel

end ScoreCrypto.KeyManagement
