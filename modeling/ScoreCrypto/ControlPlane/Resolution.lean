import ScoreCrypto.ControlPlane.Events

/-! The nodes that resolvers hand out: alive as long as nobody deletes a node that is cached. -/

namespace ScoreCrypto.ControlPlane

open DataManager Daemon KeyManagement Provider Mediator CertManagement Program Run

structure CachesLive (config : Config) (d : Daemon.State) : Prop where
  linked : Linked d.data []
  live : ∀ c resource id, cachedNode d c resource = some id →
    ∃ node ref, resource.node config c = some node ∧ d.data.placed c id = some ⟨ref, none, node⟩

/-- The event does not delete a node that a resolver has cached for the client. -/
def SparesCached (d : Daemon.State) (event : Event) : Prop :=
  ∀ c id, event.deletes d = some (c, id) → ∀ resource, cachedNode d c resource ≠ some id

section CachesLive

variable {config : Config} {d d' : Daemon.State}

theorem CachesLive.same (caches : CachesLive config d) (linked : Linked d'.data [])
    (stays : ∀ c id n, d.data.placed c id = some n → n.parent = none →
      (∃ resource, cachedNode d c resource = some id) → d'.data.placed c id = some n)
    (same : SameCaches d d') : CachesLive config d' where
  linked := linked
  live := by
    intro c resource id cached
    rw [cachedNode_same same] at cached
    rcases caches.live c resource id cached with ⟨node, ref, named, here⟩
    exact ⟨node, ref, named, stays c id _ here rfl ⟨resource, cached⟩⟩

theorem CachesLive.cached (caches : CachesLive config d) {c : ClientId} {resource : Resource}
    {id : DataNodeId} {node : Node} (named : resource.node config c = some node)
    (new : NodeCached d d' c resource id node) : CachesLive config d' where
  linked := new.linked
  live := by
    intro c' other id' cached
    rw [new.cached] at cached
    split at cached
    · rename_i same
      cases cached
      rw [same.1, same.2]
      exact ⟨node, _, named, new.here⟩
    · rcases caches.live c' other id' cached with ⟨node', ref, named', here⟩
      exact ⟨node', ref, named', new.stays c' id' _ here⟩

theorem CachesLive.step (caches : CachesLive config d) (event : Event)
    (spares : SparesCached d event) : CachesLive config (eventStep config d event) := by
  rcases event_effect config caches.linked event with extended | ⟨c, root, gone, named, shrunk⟩ |
    ⟨context, created⟩ | ⟨resource, id, node, named, cached⟩
  · exact caches.same extended.linked (fun c id n here _ _ => extended.stays c id n here)
      extended.toSameCaches
  · refine caches.same shrunk.linked (fun c' id n here entry ⟨resource, cached⟩ => ?_)
      shrunk.toSameCaches
    apply shrunk.pruned.entry_stays here entry
    intro same
    rw [same.1, same.2] at cached
    exact spares c root named resource cached
  · exact caches.same created.linked (fun c id n here _ _ => created.stays c id n here)
      created.toSameCaches
  · exact caches.cached named cached

theorem init_cachesLive : CachesLive config Daemon.init where
  linked := init_linked
  live := by
    intro c resource id cached
    cases resource <;> cases cached

theorem CachesLive.resolved (caches : CachesLive config d) {c : ClientId} {resource : Resource}
    {id : DataNodeId} (outcome : ResolveOutcome config d d' c resource (.ok id)) :
    ∃ node n, resource.node config c = some node ∧ d'.data.placed c id = some n ∧
      n.payload = node := by
  rcases outcome with ⟨quiet, cached⟩ | ⟨node, named, new⟩
  · rcases caches.live c resource id cached with ⟨node, ref, named, here⟩
    exact ⟨node, _, named, quiet.placed ▸ here, rfl⟩
  · exact ⟨node, _, named, new.here, rfl⟩

end CachesLive

/-- An id that a resolver returns is at that moment the id of a node of the client that carries
the handle of the resource. -/
structure ResolvesLive (config : Config) (d : Daemon.State) : Prop where
  keySlot : ∀ name c id, (exec (resolveKeySlot config name c) d).1 = .ok id →
    ∃ slotHandle n, config.slots.resolveAppResource name c = .ok slotHandle ∧
      (exec (resolveKeySlot config name c) d).2.data.placed c id = some n ∧
      n.payload = .keySlot slotHandle
  certSlotHandle : ∀ slotHandle c id, (exec (resolveCertSlotHandle config slotHandle c) d).1 = .ok id →
    ∃ n, (exec (resolveCertSlotHandle config slotHandle c) d).2.data.placed c id = some n ∧
      n.payload = .certSlot slotHandle
  certSlot : ∀ name c id, (exec (resolveCertSlotNode config name c) d).1 = .ok id →
    ∃ slotHandle n, config.certSlots.resolveAppResource name c = .ok slotHandle ∧
      (exec (resolveCertSlotNode config name c) d).2.data.placed c id = some n ∧
      n.payload = .certSlot slotHandle
  trustStore : ∀ store c id, (exec (resolveTrustStoreNode store c) d).1 = .ok id →
    ∃ handle n, store = .ok handle ∧
      (exec (resolveTrustStoreNode store c) d).2.data.placed c id = some n ∧
      n.payload = .trustStore handle

section ResolvesLive

variable {config : Config} {d : Daemon.State} (caches : CachesLive config d)

include caches

theorem CachesLive.keySlot (name : String) (c : ClientId) (id : DataNodeId)
    (resolved : (exec (resolveKeySlot config name c) d).1 = .ok id) :
    ∃ slotHandle n, config.slots.resolveAppResource name c = .ok slotHandle ∧
      (exec (resolveKeySlot config name c) d).2.data.placed c id = some n ∧
      n.payload = .keySlot slotHandle := by
  have outcome := resolveKeySlot_outcome config name c caches.linked
  unfold wp at outcome
  rw [resolved] at outcome
  rcases caches.resolved outcome with ⟨node, n, named, here, same⟩
  simp only [Resource.node] at named
  split at named
  · rename_i slotHandle found
    cases named
    exact ⟨slotHandle, n, found, here, same⟩
  · cases named

theorem CachesLive.certSlot (slotHandle : Nat) (c : ClientId) (id : DataNodeId)
    (resolved : (exec (resolveCertSlotHandle config slotHandle c) d).1 = .ok id) :
    ∃ n, (exec (resolveCertSlotHandle config slotHandle c) d).2.data.placed c id = some n ∧
      n.payload = .certSlot slotHandle := by
  have outcome := resolveCertSlotHandle_outcome config slotHandle c caches.linked
  unfold wp at outcome
  rw [resolved] at outcome
  rcases caches.resolved outcome with ⟨node, n, named, here, same⟩
  cases named
  exact ⟨n, here, same⟩

theorem CachesLive.trustStore (store : Expected Nat) (c : ClientId) (id : DataNodeId)
    (resolved : (exec (resolveTrustStoreNode store c) d).1 = .ok id) :
    ∃ handle n, store = .ok handle ∧
      (exec (resolveTrustStoreNode store c) d).2.data.placed c id = some n ∧
      n.payload = .trustStore handle := by
  cases store with
  | error e => cases resolved
  | ok handle =>
    have outcome := resolveTrustStoreNode_outcome config handle c caches.linked
    unfold wp at outcome
    rw [resolved] at outcome
    rcases caches.resolved outcome with ⟨node, n, named, here, same⟩
    cases named
    exact ⟨handle, n, rfl, here, same⟩

theorem CachesLive.resolvesLive : ResolvesLive config d where
  keySlot := caches.keySlot
  certSlotHandle := caches.certSlot
  certSlot := by
    intro name c id resolved
    unfold resolveCertSlotNode at resolved ⊢
    cases found : config.certSlots.resolveAppResource name c with
    | error e =>
      rw [found] at resolved
      cases resolved
    | ok slotHandle =>
      rw [found] at resolved
      rcases caches.certSlot slotHandle c id resolved with ⟨n, here, same⟩
      exact ⟨slotHandle, n, rfl, here, same⟩
  trustStore := caches.trustStore

end ResolvesLive

theorem run_resolvesLive (config : Config) (events : List Event)
    (spares : Meets (eventStep config) SparesCached Daemon.init events) :
    ResolvesLive config (run (eventStep config) Daemon.init events) := by
  have caches := run_invariant_of_meets (CachesLive config)
    (fun _ event before spares => before.step event spares) Daemon.init events init_cachesLive spares
  exact caches.resolvesLive

/-- The connection is closed, but the slot's node is no part of it. -/
theorem closedConnection_resolvesLive :
    ResolvesLive Config.small (run (eventStep Config.small) Daemon.init
      [openConnection 1, resolveKey 1, closeConnection 1 1]) := by
  apply run_resolvesLive
  refine ⟨nofun, nofun, ?_, trivial⟩
  intro c id named resource
  have target : some ((1 : ClientId), (1 : DataNodeId)) = some (c, id) := named
  cases target
  cases resource with
  | keySlot name =>
    have cache : cachedNode (run (eventStep Config.small) Daemon.init
        [openConnection 1, resolveKey 1]) 1 (.keySlot name) =
        Function.update (fun _ => none) "key" (some 2) name := rfl
    change cachedNode (run (eventStep Config.small) Daemon.init
        [openConnection 1, resolveKey 1]) 1 (.keySlot name) ≠ _
    rw [cache, Function.update_apply]
    split <;> simp
  | certSlot slotHandle => exact nofun
  | trustStore handle => exact nofun

/-- The slot's node is deleted by its id, and the resolver returns the id again. -/
theorem deletedSlot_resolves :
    ¬ResolvesLive Config.small (run (eventStep Config.small) Daemon.init
      [resolveKey 1, destroyObject 1 1]) := by
  intro live
  rcases live.keySlot "key" 1 1 (by decide +kernel) with ⟨slotHandle, n, -, here, -⟩
  have gone : (exec (resolveKeySlot Config.small "key" 1) (run (eventStep Config.small) Daemon.init
      [resolveKey 1, destroyObject 1 1])).2.data.placed 1 1 = none := by decide +kernel
  rw [gone] at here
  cases here

end ScoreCrypto.ControlPlane
