import ScoreCrypto.ControlPlane.Events

/-!
The clients of the daemon. A request names nodes of its own client, but the handler of a context acts
for the client that it was initialized with.
-/

namespace ScoreCrypto.ControlPlane

open DataManager Daemon Provider Mediator Program Run

structure Owned (d : Daemon.State) : Prop where
  linked : Linked d.data []
  known : ∀ c id context handler, d.data.placed c id = some context →
    context.payload = .context handler → handler < d.nextHandler
  owner : ∀ c id context handler made, d.data.placed c id = some context →
    context.payload = .context handler → d.handlers handler = some made →
      (keyMgmtContext made).clientId = c

section Owned

variable {d d' : Daemon.State} {c : ClientId} {config : Config}

theorem Owned.of_contexts (owned : Owned d) (linked : Linked d'.data [])
    (handlers : ∀ h < d.nextHandler, d'.handlers h = d.handlers h)
    (nextHandler : d.nextHandler ≤ d'.nextHandler)
    (contexts : ∀ c id context handler, d'.data.placed c id = some context →
      context.payload = .context handler → d.data.placed c id = some context ∨
        handler < d'.nextHandler ∧ ∃ made params, d'.handlers handler = some made ∧
          made.params = some params ∧ params.clientId = c) : Owned d' := by
  refine ⟨linked, fun c id context handler here isContext => ?_,
    fun c id context handler made here isContext stored => ?_⟩
  · rcases contexts c id context handler here isContext with old | ⟨known, -⟩
    · exact (owned.known c id context handler old isContext).trans_le nextHandler
    · exact known
  · rcases contexts c id context handler here isContext with old | ⟨-, _, params, given, with_, own⟩
    · rw [handlers handler (owned.known c id context handler old isContext)] at stored
      exact owned.owner c id context handler made old isContext stored
    · cases stored.symm.trans given
      rw [keyMgmtContext, with_]
      exact own

theorem Owned.grown (owned : Owned d) {may : ClientId → DataNodeId → Placed Node → Prop}
    (grown : Grown may d d') (others : ∀ c id n, may c id n → NotContext n.payload) : Owned d' :=
  owned.of_contexts grown.linked grown.handlers grown.nextHandler
    fun c id context handler here isContext => (grown.fresh c id context here).imp_right fun new =>
      absurd isContext (others c id context new handler)

theorem Owned.step (owned : Owned d) (event : Event) : Owned (eventStep config d event) := by
  rcases event_effect config owned.linked event with extended | ⟨c, root, gone, named, shrunk⟩ |
    ⟨context, created⟩ | ⟨resource, id, node, named, cached⟩
  · exact owned.grown extended.toGrown fun _ _ _ new => new.2
  · exact owned.of_contexts shrunk.linked (fun h _ => congrFun shrunk.handlers h)
      (Nat.le_of_eq shrunk.nextHandler.symm) fun c id context handler here _ =>
        .inl (shrunk.pruned.before here)
  · rcases created.created with
      ⟨ref, parent, handlerRef, made, params, there, new, known, stored, given, own, -⟩
    refine owned.of_contexts created.linked created.handlers created.nextHandler ?_
    intro c id other handler here isContext
    rcases created.fresh c id other here with old | ⟨rfl, rfl | ⟨node, isKey⟩⟩
    · exact .inl old
    · rw [there] at here
      cases here
      cases isContext
      exact .inr ⟨known, made, params, stored, given, own⟩
    · rw [isKey] at isContext
      cases isContext
  · exact owned.grown cached.toGrown fun _ _ _ new => new.2

theorem init_placed {id : DataNodeId} {n : Placed Node} :
    Daemon.init.data.placed c id ≠ some n :=
  fun here => absurd (find_of_placed here).1 (by simp [Daemon.init, find_init])

theorem init_owned : Owned Daemon.init :=
  ⟨init_linked, fun _ _ _ _ here => (init_placed here).elim,
    fun _ _ _ _ _ here => (init_placed here).elim⟩

theorem run_owned (config : Config) (events : List Event) :
    Owned (run (eventStep config) Daemon.init events) :=
  run_invariant Owned (fun _ event owned => owned.step event) Daemon.init events init_owned

theorem Owned.actsFor (owned : Owned d) {event : Event} (acts : event.ActsFor d c) :
    c = event.client := by
  rcases acts with rfl | ⟨id, handler, made, there, stored, rfl⟩
  · rfl
  · rcases Option.map_eq_some_iff.mp there with ⟨context, here, isContext⟩
    exact owned.owner _ id context handler made here isContext stored

theorem actsFor_of_deletes {event : Event} {root : DataNodeId}
    (named : event.deletes d = some (c, root)) : event.ActsFor d c := by
  cases event with
  | control c' id operation =>
    simp only [Event.deletes] at named
    split at named <;> cases named
    exact .inl rfl
  | mediated c' id operation answers =>
    simp only [Event.deletes, deletedNode] at named
    split_ifs at named
    · cases named
      exact .inl rfl
    · rcases Option.map_eq_some_iff.mp named with ⟨_, _, same⟩
      cases same
      exact .inl rfl
    · split at named
      · next handler here =>
          rcases Option.bind_eq_some_iff.mp named with ⟨made, stored, released⟩
          unfold releasedKey at released
          split_ifs at released
          split at released <;> cases released
          exact .inr ⟨id, handler, made, here, stored, rfl⟩
      · cases named
  | releaseCertificate c' id =>
    cases named
    exact .inl rfl
  | _ => cases named

end Owned

/-- What there is of a client is the same: its nodes, the handlers of its contexts and the ids that
are cached for it. -/
structure KeepsClient (d d' : Daemon.State) (c : ClientId) : Prop where
  nodes : d'.data.placed c = d.data.placed c
  handlers : ∀ id n handler, d.data.placed c id = some n → n.payload = .context handler →
    d'.handlers handler = d.handlers handler
  caches : cachedNode d' c = cachedNode d c

section KeepsClient

variable {d d' d'' : Daemon.State} {c : ClientId} {config : Config}

theorem KeepsClient.trans (first : KeepsClient d d' c) (second : KeepsClient d' d'' c) :
    KeepsClient d d'' c where
  nodes := second.nodes.trans first.nodes
  handlers id n h here isContext :=
    (second.handlers id n h (first.nodes ▸ here) isContext).trans
      (first.handlers id n h here isContext)
  caches := second.caches.trans first.caches

theorem Owned.keepsClient (owned : Owned d) {may : ClientId → DataNodeId → Placed Node → Prop}
    (grown : Grown may d d') (others : ∀ id n, ¬may c id n)
    (caches : cachedNode d' c = cachedNode d c) : KeepsClient d d' c := by
  refine ⟨funext fun id => Option.ext fun n => ?_, fun id n h here isContext => ?_, caches⟩
  · exact ⟨fun here => (grown.fresh c id n here).resolve_right (others id n), grown.stays c id n⟩
  · exact grown.handlers h (owned.known c id n h here isContext)

theorem Owned.step_keepsClient (owned : Owned d) (event : Event) (other : c ≠ event.client) :
    KeepsClient d (eventStep config d event) c := by
  rcases event_effect config owned.linked event with extended | ⟨c', root, gone, named, shrunk⟩ |
    ⟨context, created⟩ | ⟨resource, id, node, named, cached⟩
  · refine owned.keepsClient extended.toGrown (fun _ _ new => other (owned.actsFor new.1)) ?_
    rw [cachedNode_same extended.toSameCaches]
  · refine ⟨funext fun id => shrunk.pruned.others c id fun gone => ?_,
      fun _ _ h _ _ => congrFun shrunk.handlers h, by rw [cachedNode_same shrunk.toSameCaches]⟩
    exact other (gone.1.trans (owned.actsFor (actsFor_of_deletes named)))
  · refine owned.keepsClient created.toGrown (fun _ _ new => other new.1) ?_
    rw [cachedNode_same created.toSameCaches]
  · refine owned.keepsClient cached.toGrown (fun _ _ new => other new.1) (funext fun resource => ?_)
    rw [cached.cached, if_neg fun same => other same.1]

end KeepsClient

/-- In every reachable state, what is done for a client leaves the other clients as they are: each
event by itself and every request. -/
theorem run_clientsApart (config : Config) (events : List Event) (c : ClientId) :
    let d := run (eventStep config) Daemon.init events
    (∀ event : Event, c = event.client ∨ KeepsClient d (eventStep config d event) c) ∧
      ∀ (answers : Nat → Answers) (request : ControlRequest),
        c = request.clientId ∨ KeepsClient d (exec (processRequest config answers request) d).2 c := by
  intro d
  have owned : Owned d := run_owned config events
  refine ⟨fun event => or_iff_not_imp_left.mpr (owned.step_keepsClient event), fun answers request => ?_⟩
  refine or_iff_not_imp_left.mpr fun other => ?_
  rcases processRequest_traced answers request d with ⟨trace, same, own⟩
  rw [same]
  refine (run_invariant_of_meets (fun d' => Owned d' ∧ KeepsClient d d' c) ?_ d trace
    ⟨owned, rfl, fun _ _ _ _ _ => rfl, rfl⟩ own).2
  rintro d' event ⟨owned', kept⟩ client
  exact ⟨owned'.step event, kept.trans (owned'.step_keepsClient event fun same => other (same.trans client))⟩

/-- In every reachable state, `CTX_CREATE` adds a context with an initialized handler and the nodes
that belong to it, or fails and leaves every client as it was, whichever step it fails at. -/
theorem run_contextAllOrNothing (config : Config) (events : List Event) (answers : Answers)
    (c : ClientId) (connectionId : DataNodeId) (operation : SingleOperationRequest) :
    let d := run (eventStep config) Daemon.init events
    let created := exec (contextCreation config answers c connectionId operation) d
    (∃ context, created.1 = .ok context ∧ ContextAdded d created.2 c context) ∨
      ∃ e, created.1 = .error e ∧ ∀ c', KeepsClient d created.2 c' := by
  intro d created
  have owned : Owned d := run_owned config events
  have outcome : ContextOutcome d created.2 c created.1 :=
    contextCreation_outcome config answers c owned.linked connectionId operation
  cases result : created.1 with
  | ok context =>
    rw [result] at outcome
    exact .inl ⟨context, rfl, outcome⟩
  | error e =>
    rw [result] at outcome
    refine .inr ⟨e, rfl, fun c' => owned.keepsClient outcome.toGrown (fun _ _ new => new) ?_⟩
    rw [cachedNode_same outcome.toSameCaches]

end ScoreCrypto.ControlPlane
