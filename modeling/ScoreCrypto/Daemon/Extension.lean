import ScoreCrypto.Daemon.Calls
import ScoreCrypto.DataManager.View

/-!
What a call can do to the nodes, the handlers and the caches: most calls only add nodes, and a
deletion takes a node with all that hangs below it.
-/

namespace ScoreCrypto.Daemon

open DataManager KeyManagement Program

/-! ### Adding nodes -/

structure Grown (may : ClientId → DataNodeId → Placed Node → Prop) (d d' : State) : Prop where
  linked : Linked d'.data []
  stays : ∀ c id n, d.data.placed c id = some n → d'.data.placed c id = some n
  fresh : ∀ c id n, d'.data.placed c id = some n → d.data.placed c id = some n ∨ may c id n
  handlers : ∀ h < d.nextHandler, d'.handlers h = d.handlers h
  nextHandler : d.nextHandler ≤ d'.nextHandler

structure SameCaches (d d' : State) : Prop where
  slotNodeCache : d'.slotNodeCache = d.slotNodeCache
  certSlotCache : d'.certSlotCache = d.certSlotCache
  trustStoreCache : d'.trustStoreCache = d.trustStoreCache

structure Extended (may : ClientId → DataNodeId → Placed Node → Prop) (d d' : State) : Prop
    extends Grown may d d', SameCaches d d'

variable {may may' : ClientId → DataNodeId → Placed Node → Prop} {d d' d'' : State}

theorem SameCaches.refl (d : State) : SameCaches d d := ⟨rfl, rfl, rfl⟩

theorem SameCaches.trans (first : SameCaches d d') (second : SameCaches d' d'') :
    SameCaches d d'' :=
  ⟨second.slotNodeCache.trans first.slotNodeCache, second.certSlotCache.trans first.certSlotCache,
    second.trustStoreCache.trans first.trustStoreCache⟩

theorem Grown.trans (first : Grown may d d') (second : Grown may d' d'') : Grown may d d'' where
  linked := second.linked
  stays := fun c id n here => second.stays c id n (first.stays c id n here)
  fresh := fun c id n here => (second.fresh c id n here).elim (first.fresh c id n) .inr
  handlers := by
    intro h old
    rw [second.handlers h (Nat.lt_of_lt_of_le old first.nextHandler), first.handlers h old]
  nextHandler := Nat.le_trans first.nextHandler second.nextHandler

theorem Grown.mono (grown : Grown may d d') (weaker : ∀ c id n, may c id n → may' c id n) :
    Grown may' d d' :=
  { grown with fresh := fun c id n here => (grown.fresh c id n here).imp_right (weaker c id n) }

theorem Extended.trans (first : Extended may d d') (second : Extended may d' d'') :
    Extended may d d'' :=
  { first.toGrown.trans second.toGrown, first.toSameCaches.trans second.toSameCaches with }

theorem Extended.mono (extended : Extended may d d') (weaker : ∀ c id n, may c id n → may' c id n) :
    Extended may' d d' :=
  { extended.toGrown.mono weaker, extended.toSameCaches with }

structure Quiet (d d' : State) : Prop extends SameCaches d d' where
  linked : Linked d'.data []
  placed : d'.data.placed = d.data.placed
  handlers : d'.handlers = d.handlers
  nextHandler : d'.nextHandler = d.nextHandler

theorem Quiet.refl (linked : Linked d.data []) : Quiet d d :=
  { SameCaches.refl d with
    linked := linked, placed := rfl, handlers := rfl, nextHandler := rfl }

theorem Quiet.trans (first : Quiet d d') (second : Quiet d' d'') : Quiet d d'' :=
  { first.toSameCaches.trans second.toSameCaches with
    linked := second.linked
    placed := second.placed.trans first.placed
    handlers := second.handlers.trans first.handlers
    nextHandler := second.nextHandler.trans first.nextHandler }

theorem Quiet.extended (quiet : Quiet d d') : Extended may d d' :=
  { quiet.toSameCaches with
    linked := quiet.linked
    stays := fun _ _ _ here => by rwa [quiet.placed]
    fresh := fun _ _ _ here => .inl (by rwa [quiet.placed] at here)
    handlers := fun h _ => congrFun quiet.handlers h
    nextHandler := Nat.le_of_eq quiet.nextHandler.symm }

theorem Extended.refl (linked : Linked d.data []) : Extended may d d :=
  (Quiet.refl linked).extended

def Silent : Action → Prop
  | .addNode _ _ => False
  | .addChildNode _ _ _ => False
  | .deleteNode _ _ => False
  | .deleteClientNodes _ => False
  | .makeHandler _ => False
  | .initializeContext _ _ => False
  | .cacheSlotNode _ _ _ => False
  | .cacheCertSlotNode _ _ _ => False
  | .cacheTrustStoreNode _ _ _ => False
  | _ => True

def Adds (kind : ClientId → Node → Prop) : Action → Prop
  | .addNode c node => kind c node
  | .addChildNode c _ node => kind c node
  | .deleteNode _ _ => False
  | .deleteClientNodes _ => False
  | .initializeContext _ _ => False
  | .cacheSlotNode _ _ _ => False
  | .cacheCertSlotNode _ _ _ => False
  | .cacheTrustStoreNode _ _ _ => False
  | _ => True

variable {kind : ClientId → Node → Prop}

theorem silent_adds : ∀ act, Silent act → Adds kind act := by
  intro act silent
  cases act <;> first | exact silent.elim | trivial

variable {node : Node}

theorem object?_payload {object : NewNode Node} (given : d.object? node = some object) :
    object.payload = node := by
  unfold State.object? at given
  split at given
  · split at given <;> cases given
    rfl
  · cases given
    rfl

/-- What the manager can do with a node that a call hands to it: it refuses the node, or inserts it
below a parent as it is asked for. -/
def AddOutcome (d : State) (c : ClientId) (node : Node) (above : Option NodeRef → Prop)
    (result : Expected DataNodeId × DataManager.State Node) : Prop :=
  (∃ e data, result = (.error e, data) ∧ Refused d.data data c) ∨
    ∃ id data parent object, d.object? node = some object ∧ above parent ∧ result = (.ok id, data) ∧
      Inserted d.data data c id parent object

theorem addNode_outcome (linked : Linked d.data []) (c : ClientId) (node : Node) :
    AddOutcome d c node (· = none) (DataManager.addNode d.data c (d.object? node)) := by
  rcases addNode_cases d.data c (d.object? node) (linked.counter_range c) with
    refused | ⟨id, data, object, given, done, inserted⟩
  · exact .inl refused
  · exact .inr ⟨id, data, none, object, given, rfl, done, inserted⟩

theorem addChildNode_outcome (linked : Linked d.data []) (c : ClientId) (parentId : DataNodeId)
    (node : Node) :
    AddOutcome d c node (fun parent => parent ≠ none ∧ parent = d.data.find c parentId)
      (DataManager.addChildNode d.data c parentId (d.object? node)) := by
  rcases addChildNode_cases d.data c parentId (d.object? node) linked with
    refused | ⟨id, data, parent, object, given, above, done, inserted⟩
  · exact .inl refused
  · exact .inr ⟨id, data, some parent, object, given, ⟨nofun, above.symm⟩, done, inserted⟩

variable {c : ClientId} {id : DataNodeId}

structure NodeAdded (d d' : State) (c : ClientId) (id : DataNodeId) (n : Placed Node) : Prop
    extends Extended (fun c' id' n' => c' = c ∧ id' = id ∧ n' = n) d d' where
  here : d'.data.placed c id = some n

section Added

variable {above : Option NodeRef → Prop}
  {result : Expected DataNodeId × DataManager.State Node}
  (outcome : AddOutcome d c node above result) (linked : Linked d.data [])

include outcome linked

theorem AddOutcome.quiet {e : DaemonErrorCode} (refused : result.1 = .error e) :
    Quiet d (d.added node result).2 := by
  rcases outcome with ⟨e, data, rfl, kept⟩ | ⟨id, data, parent, object, -, -, rfl, -⟩
  · exact ⟨⟨rfl, rfl, rfl⟩, kept.linked linked, kept.placed_eq, rfl, rfl⟩
  · cases refused

theorem AddOutcome.added (added : result.1 = .ok id) : ∃ parent, above parent ∧
    NodeAdded d (d.added node result).2 c id ⟨d.data.nextObject, parent, node⟩ := by
  rcases outcome with ⟨e, data, rfl, -⟩ | ⟨id', data, parent, object, given, asked, rfl, inserted⟩
  · cases added
  · cases added
    refine ⟨parent, asked, ?_⟩
    rw [← object?_payload given]
    exact
      { linked := inserted.linked_after linked
        stays := fun _ _ _ here => inserted.placed_of linked here
        fresh := by
          intro c' id' n here
          rw [State.added, inserted.placed_eq linked] at here
          split at here
          · next new =>
              cases here
              exact .inr ⟨new.1, new.2, rfl⟩
          · exact .inl here
        handlers := fun _ _ => rfl
        nextHandler := Nat.le_refl _
        slotNodeCache := rfl
        certSlotCache := rfl
        trustStoreCache := rfl
        here := (inserted.placed_eq linked _ _).trans (if_pos ⟨rfl, rfl⟩) }

theorem AddOutcome.extended (allowed : kind c node) :
    Extended (fun c _ n => kind c n.payload) d (d.added node result).2 := by
  cases answer : result.1 with
  | error e => exact (outcome.quiet linked answer).extended
  | ok id =>
    rcases outcome.added linked answer with ⟨parent, -, added⟩
    exact added.toExtended.mono fun _ _ _ new => new.1 ▸ new.2.2 ▸ allowed

end Added

theorem quiet_accounts (linked : Linked d.data []) (entries : EntryRef → Option KeyEntry)
    (outside : List KeyDataNode) (retired : List (ProviderId × KeyRegistryId)) :
    Quiet d { d with entries, outside, retired } :=
  ⟨⟨rfl, rfl, rfl⟩, linked, rfl, rfl, rfl⟩

theorem getNodeAccessor_data (c : ClientId) (id : DataNodeId) :
    (d.getNodeAccessor c id).2 = { d with data := (DataManager.getNodeAccessor d.data c id).2 } := by
  unfold State.getNodeAccessor
  split
  · rename_i run
    rw [run]
  · rename_i run
    rw [run]

theorem handle_quiet (linked : Linked d.data []) (act : Action) (silent : Silent act) :
    Quiet d (handle act d).2 := by
  cases act with
  | addNode | addChildNode | deleteNode | deleteClientNodes | makeHandler | initializeContext
  | cacheSlotNode | cacheCertSlotNode | cacheTrustStoreNode => exact silent.elim
  | getNodeAccessor c id =>
    change Quiet d (d.getNodeAccessor c id).2
    rw [getNodeAccessor_data]
    exact ⟨⟨rfl, rfl, rfl⟩, getNodeAccessor_linked linked c id, getNodeAccessor_placed linked c id,
      rfl, rfl⟩
  | destroyAccessor accessor =>
    exact ⟨⟨rfl, rfl, rfl⟩, destroyAccessor_linked linked accessor,
      destroyAccessor_placed linked accessor, rfl, rfl⟩
  | constructKeyDataNode node =>
    simp only [handle, State.construct]
    split <;> exact quiet_accounts linked _ _ _
  | releaseKeyDataNode node =>
    simp only [handle, State.release]
    split
    · exact quiet_accounts linked _ _ _
    · split <;> exact quiet_accounts linked _ _ _
  | _ => exact ⟨⟨rfl, rfl, rfl⟩, linked, rfl, rfl, rfl⟩

variable {β : Type}

theorem exec_quiet {p : Prog β} (only : Only Silent p) (linked : Linked d.data []) :
    Quiet d (exec p d).2 :=
  only.exec (fun act _ silent before => before.trans (handle_quiet before.linked act silent))
    (Quiet.refl linked)

theorem wp_silent {β γ : Type} {p : Prog β} {f : β → Prog γ} {post : γ → State → Prop}
    (only : Only Silent p) (linked : Linked d.data [])
    (rest : ∀ value d', Quiet d d' → wp handle (f value) post d') :
    wp handle (p >>= f) post d :=
  wp_bind (rest _ _ (exec_quiet only linked))

theorem handle_extended (linked : Linked d.data []) (act : Action) (adds : Adds kind act) :
    Extended (fun c _ n => kind c n.payload) d (handle act d).2 := by
  cases act with
  | addNode c node => exact (addNode_outcome linked c node).extended linked adds
  | addChildNode c parentId node =>
    exact (addChildNode_outcome linked c parentId node).extended linked adds
  | makeHandler contextType =>
    exact
      { linked := linked
        stays := fun _ _ _ here => here
        fresh := fun _ _ _ here => .inl here
        handlers := fun h old => Function.update_of_ne (Nat.ne_of_lt old) ..
        nextHandler := Nat.le_succ _
        slotNodeCache := rfl
        certSlotCache := rfl
        trustStoreCache := rfl }
  | deleteNode | deleteClientNodes | initializeContext | cacheSlotNode | cacheCertSlotNode
  | cacheTrustStoreNode => exact adds.elim
  | _ =>
    apply Quiet.extended
    apply handle_quiet linked
    trivial

theorem exec_extended {p : Prog β} (only : Only (Adds kind) p) (linked : Linked d.data []) :
    Extended (fun c _ n => kind c n.payload) d (exec p d).2 :=
  only.exec (fun act _ adds before => before.trans (handle_extended before.linked act adds))
    (Extended.refl linked)

/-! ### One more node -/

theorem addNode_added (linked : Linked d.data []) (added : (handle (.addNode c node) d).1 = .ok id) :
    NodeAdded d (handle (.addNode c node) d).2 c id ⟨d.data.nextObject, none, node⟩ := by
  rcases (addNode_outcome linked c node).added linked added with ⟨_, rfl, new⟩
  exact new

theorem addChildNode_added (linked : Linked d.data []) {parentId id : DataNodeId}
    (added : (handle (.addChildNode c parentId node) d).1 = .ok id) :
    ∃ parent, d.data.placed c parentId = some parent ∧
      NodeAdded d (handle (.addChildNode c parentId node) d).2 c id
        ⟨d.data.nextObject, some parent.ref, node⟩ := by
  rcases (addChildNode_outcome linked c parentId node).added linked added with
    ⟨_ | p, ⟨some, above⟩, new⟩
  · exact absurd rfl some
  · rcases linked.registered c parentId p above.symm with ⟨parent, present, -⟩
    exact ⟨_, placed_of_find above.symm present, new⟩

/-! ### Deletion -/

theorem destroyKeyDataNode_only (node : KeyDataNode) : Only Silent (destroyKeyDataNode node) := by
  refine .bind (.perform trivial) fun last => ?_
  split
  · exact .bind (.perform trivial) fun _ => .pure _
  · exact .pure _

theorem destroyKeyDataNodes_only (nodes : List KeyDataNode) :
    Only Silent (destroyKeyDataNodes nodes) := by
  induction nodes with
  | nil => exact .pure _
  | cons node nodes ih => exact .bind (destroyKeyDataNode_only node) fun _ => ih

theorem destroyAccessor_only (accessor : Accessor) :
    Only Silent (Daemon.destroyAccessor accessor) :=
  .bind (.perform trivial) destroyKeyDataNodes_only

theorem withAccessor_only {allowed : Action → Prop} (silent : ∀ act, Silent act → allowed act)
    {missing : DaemonErrorCode → β} {body : Node → Prog β}
    (found : ∀ node, Only allowed (body node)) : Only allowed (withAccessor c id missing body) := by
  refine .bind (.perform (silent _ trivial)) fun answer => ?_
  rcases answer with e | ⟨accessor, node⟩
  · exact .pure _
  · exact .bind (found _) fun _ =>
      .bind ((destroyAccessor_only _).mono silent) fun _ => .pure _

theorem getNodeAccessor_placed_ok (linked : Linked d.data []) {accessor : Accessor}
    (granted : (handle (.getNodeAccessor c id) d).1 = .ok (accessor, node)) :
    ∃ parent, d.data.placed c id = some ⟨accessor.node, parent, node⟩ := by
  change (d.getNodeAccessor c id).1 = _ at granted
  unfold State.getNodeAccessor at granted
  rcases getNodeAccessor_cases linked c id with ⟨e, run⟩ | ⟨r, n, found, present, run⟩
  · rw [run] at granted
    cases granted
  · have shape : ∃ manager busyNodes accessors, DataManager.getNodeAccessor d.data c id =
        (.ok ⟨r, manager⟩, { d.data with busyNodes := busyNodes, accessors := accessors }) := by
      rcases run with ⟨-, run⟩ | ⟨-, -, run⟩
      · exact ⟨_, _, _, run⟩
      · exact ⟨_, _, _, run⟩
    rcases shape with ⟨manager, busyNodes, accessors, run⟩
    rw [run] at granted
    simp only [present] at granted
    cases granted
    exact ⟨_, placed_of_find found present⟩

theorem withAccessor_cases (linked : Linked d.data []) (c : ClientId) (id : DataNodeId)
    (missing : DaemonErrorCode → β) (body : Node → Prog β) :
    (∃ e, (exec (withAccessor c id missing body) d).1 = missing e ∧
      Quiet d (exec (withAccessor c id missing body) d).2) ∨
    ∃ ref parent node d₁, d.data.placed c id = some ⟨ref, parent, node⟩ ∧ Quiet d d₁ ∧
      (exec (withAccessor c id missing body) d).1 = (exec (body node) d₁).1 ∧
      (Linked (exec (body node) d₁).2.data [] →
        Quiet (exec (body node) d₁).2 (exec (withAccessor c id missing body) d).2) := by
  have quiet := handle_quiet linked (.getNodeAccessor c id) trivial
  simp only [withAccessor, exec_bind]
  cases granted : (exec (Daemon.getNodeAccessor c id) d).1 with
  | error e => exact .inl ⟨e, rfl, quiet⟩
  | ok found =>
    rcases found with ⟨accessor, node⟩
    rcases getNodeAccessor_placed_ok linked granted with ⟨parent, here⟩
    refine .inr ⟨accessor.node, parent, node, _, here, quiet, ?_, ?_⟩
    · simp only [exec_bind, exec_pure]
      rfl
    · intro linked'
      simp only [exec_bind, exec_pure]
      exact exec_quiet (destroyAccessor_only accessor) linked'

theorem wp_withAccessor (linked : Linked d.data []) {missing : DaemonErrorCode → β}
    {body : Node → Prog β} {post : β → State → Prop}
    (refused : ∀ e d', Quiet d d' → post (missing e) d')
    (granted : ∀ ref parent node d₁, d.data.placed c id = some ⟨ref, parent, node⟩ → Quiet d d₁ →
      wp handle (body node)
      (fun value d₂ => Linked d₂.data [] ∧ ∀ d₃, Quiet d₂ d₃ → post value d₃) d₁) :
    wp handle (withAccessor c id missing body) post d := by
  rcases withAccessor_cases linked c id missing body with
    ⟨e, same, quiet⟩ | ⟨ref, parent, node, d₁, here, quiet, same, rest⟩
  · unfold wp
    rw [same]
    exact refused e _ quiet
  · rcases granted ref parent node d₁ here quiet with ⟨linked', holds⟩
    unfold wp
    rw [same]
    exact holds _ (rest linked')

structure Shrunk (d d' : State) (c : ClientId) (root : DataNodeId) (gone : Set DataNodeId) : Prop
    extends SameCaches d d' where
  linked : Linked d'.data []
  pruned : Pruned d.data.placed d'.data.placed c root gone
  handlers : d'.handlers = d.handlers
  nextHandler : d'.nextHandler = d.nextHandler

theorem Quiet.shrunk {root : DataNodeId} {gone : Set DataNodeId} (quiet : Quiet d d')
    (shrunk : Shrunk d' d'' c root gone) : Shrunk d d'' c root gone :=
  { quiet.toSameCaches.trans shrunk.toSameCaches with
    linked := shrunk.linked
    pruned := quiet.placed ▸ shrunk.pruned
    handlers := shrunk.handlers.trans quiet.handlers
    nextHandler := shrunk.nextHandler.trans quiet.nextHandler }

theorem Shrunk.quiet {root : DataNodeId} {gone : Set DataNodeId} (shrunk : Shrunk d d' c root gone)
    (quiet : Quiet d' d'') : Shrunk d d'' c root gone :=
  { shrunk.toSameCaches.trans quiet.toSameCaches with
    linked := quiet.linked
    pruned := quiet.placed ▸ shrunk.pruned
    handlers := quiet.handlers.trans shrunk.handlers
    nextHandler := quiet.nextHandler.trans shrunk.nextHandler }

theorem deleteNode_shrunk (linked : Linked d.data []) (c : ClientId) (root : DataNodeId) :
    ∃ gone, Shrunk d (exec (Daemon.deleteNode c root) d).2 c root gone := by
  rcases DataManager.deleteNode_pruned linked c root with ⟨gone, pruned⟩
  have removed : Shrunk d (handle (.deleteNode c root) d).2 c root gone :=
    ⟨⟨rfl, rfl, rfl⟩, deleteNode_linked linked c root, pruned, rfl, rfl⟩
  simp only [Daemon.deleteNode, exec_bind, exec_perform, exec_pure]
  exact ⟨gone, removed.quiet (exec_quiet (destroyKeyDataNodes_only _) removed.linked)⟩

end ScoreCrypto.Daemon
