import ScoreCrypto.ControlPlane.Clients
import ScoreCrypto.KeyManagement.Ledger

/-!
The handler of a context keeps a pointer to the key that the context is bound to. What holds the
key is a key node below the context.
-/

namespace ScoreCrypto.ControlPlane

open DataManager Daemon KeyManagement Provider Mediator Program Run

def boundKey (d : Daemon.State) (node : Node) : Option EntryRef :=
  match node with
  | .context handler =>
    ((d.handlers handler).bind Handler.params).bind InitializationParams.boundKeyHandler
  | _ => none

/-- As long as a context is there, the key that it is bound to is referenced. -/
def BoundKeysReferenced (d : Daemon.State) : Prop :=
  ∀ c id context key, d.data.placed c id = some context → boundKey d context.payload = some key →
    0 < liveReferences d key

def HoldsFor (context : Placed Node) (key : EntryRef) (holder : Placed Node) : Prop :=
  holder.parent = some context.ref ∧ ∃ node, holder.payload = .keyData node ∧ node.keyEntry = key

/-- The event does not delete, by its own id, a key node that holds the key of a context. -/
def SparesBound (d : Daemon.State) (event : Event) : Prop :=
  ∀ c root, event.deletes d = some (c, root) → ∀ holder, d.data.placed c root = some holder →
    ∀ id context key, d.data.placed c id = some context → boundKey d context.payload = some key →
      ¬HoldsFor context key holder

def KeysHeld (d : Daemon.State) : Prop :=
  ∀ c id context key, d.data.placed c id = some context → boundKey d context.payload = some key →
    ∃ keyNodeId holder, d.data.placed c keyNodeId = some holder ∧ HoldsFor context key holder

structure BoundHeld (d : Daemon.State) : Prop extends Owned d where
  held : KeysHeld d

section BoundHeld

variable {d d' : Daemon.State} {node : Node}

theorem boundKey_congr
    (handlers : ∀ handler, node = .context handler → d'.handlers handler = d.handlers handler) :
    boundKey d' node = boundKey d node := by
  cases node with
  | context handler =>
    simp only [boundKey, handlers handler rfl]
  | _ => rfl

theorem boundKey_none (other : NotContext node) : boundKey d node = none := by
  cases node with
  | context handler => exact absurd rfl (other handler)
  | _ => rfl

theorem BoundHeld.referenced (bound : BoundHeld d) : BoundKeysReferenced d := by
  intro c id context key here named
  rcases bound.held c id context key here named with ⟨keyNodeId, holder, found, -, node, stored, points⟩
  apply (State.liveCount_pos bound.linked).mpr
  refine ⟨holder.ref, holder.payload, (find_of_placed found).2.2, ?_⟩
  rw [stored]
  simp [pointsTo, points]

variable {c : ClientId}

theorem BoundHeld.keeps (bound : BoundHeld d) (handlers : ∀ h < d.nextHandler,
      d'.handlers h = d.handlers h) {id : DataNodeId} {context : Placed Node} {key : EntryRef}
    (here : d.data.placed c id = some context) (named : boundKey d' context.payload = some key)
    (stays : ∀ keyNodeId holder, d.data.placed c keyNodeId = some holder →
      boundKey d context.payload = some key → HoldsFor context key holder →
      d'.data.placed c keyNodeId = some holder) :
    ∃ keyNodeId holder, d'.data.placed c keyNodeId = some holder ∧ HoldsFor context key holder := by
  have same : boundKey d' context.payload = boundKey d context.payload := boundKey_congr
    fun handler isContext => handlers handler (bound.known c id context handler here isContext)
  rw [same] at named
  rcases bound.held c id context key here named with ⟨keyNodeId, holder, found, holds⟩
  exact ⟨keyNodeId, holder, stays keyNodeId holder found named holds, holds⟩

theorem BoundHeld.grown (bound : BoundHeld d) {may : ClientId → DataNodeId → Placed Node → Prop}
    (grown : Grown may d d') (others : ∀ c id n, may c id n → NotContext n.payload) : KeysHeld d' := by
  intro c id context key here named
  rcases grown.fresh c id context here with old | new
  · exact bound.keeps grown.handlers old named fun keyNodeId holder found _ _ =>
      grown.stays c keyNodeId holder found
  · rw [boundKey_none (others c id context new)] at named
    cases named

theorem BoundHeld.shrunk (bound : BoundHeld d) {root : DataNodeId} {gone : Set DataNodeId}
    (shrunk : Shrunk d d' c root gone)
    (spares : ∀ holder, d.data.placed c root = some holder → ∀ id context key,
      d.data.placed c id = some context → boundKey d context.payload = some key →
      ¬HoldsFor context key holder) : KeysHeld d' := by
  intro c' id context key here named
  have old := shrunk.pruned.before here
  refine bound.keeps (fun h _ => congrFun shrunk.handlers h) old named ?_
  intro keyNodeId holder found named' holds
  apply shrunk.pruned.child_stays bound.linked found holds.1 here
  intro same
  rw [same.1, same.2] at found
  rw [same.1] at old
  exact spares holder found id context key old named' holds

theorem BoundHeld.created (bound : BoundHeld d) {context : CreatedContext}
    (created : ContextAdded d d' c context) : KeysHeld d' := by
  rcases created.created with
    ⟨ref, parent, handlerRef, handler, params, here, -, -, stored, given, -, named, holder⟩
  intro c' id other key found named'
  rcases created.fresh c' id other found with old | ⟨rfl, rfl | ⟨node, isKey⟩⟩
  · exact bound.keeps created.handlers old named' fun keyNodeId holder found _ _ =>
      created.stays c' keyNodeId holder found
  · rw [here] at found
    cases found
    simp only [boundKey, stored, given, named, Option.bind_some] at named'
    rcases holder key named' with ⟨keyNodeId, keyRef, node, found, points⟩
    exact ⟨keyNodeId, _, found, rfl, node, rfl, points⟩
  · rw [isKey] at named'
    cases named'

theorem BoundHeld.step (bound : BoundHeld d) (config : Config) (event : Event)
    (spares : SparesBound d event) : BoundHeld (eventStep config d event) := by
  refine ⟨bound.toOwned.step event, ?_⟩
  rcases event_effect config bound.linked event with extended | ⟨c, root, gone, named, shrunk⟩ |
    ⟨context, created⟩ | ⟨resource, id, node, named, cached⟩
  · exact bound.grown extended.toGrown fun _ _ _ new => new.2
  · exact bound.shrunk shrunk (spares c root named)
  · exact bound.created created
  · exact bound.grown cached.toGrown fun _ _ _ new => new.2

theorem init_boundHeld : BoundHeld Daemon.init :=
  ⟨init_owned, fun _ _ _ _ here => (init_placed here).elim⟩

end BoundHeld

theorem run_boundKeysReferenced (config : Config) (events : List Event)
    (spares : Meets (eventStep config) SparesBound Daemon.init events) :
    BoundKeysReferenced (run (eventStep config) Daemon.init events) := by
  have bound := run_invariant_of_meets BoundHeld
    (fun _ event before spares => before.step config event spares) Daemon.init events init_boundHeld
    spares
  exact bound.referenced

/-- A context is bound to the key of a slot: the context has the id 3 and its key node the id 4. -/
def boundMac : List Event :=
  [openConnection 1, resolveKey 1, createMac 1 1 2]

/-- Of two contexts with the same key the first is destroyed, and its key node with it: the key is
still referenced for the second. -/
theorem destroyedContext_referenced :
    let d := run (eventStep Config.small) Daemon.init
      (boundMac ++ [createMac 1 1 2, destroyObject 1 3])
    d.data.placed 1 3 = none ∧ (d.data.placed 1 5).map Placed.payload = some (.context 1) ∧
      boundKey d (.context 1) = some 0 ∧ BoundKeysReferenced d := by
  refine ⟨by decide +kernel, by decide +kernel, by decide +kernel, run_boundKeysReferenced _ _ ?_⟩
  refine ⟨nofun, nofun, nofun, nofun, ?_, trivial⟩
  intro c root named holder here id context key _ _ holds
  have target : some ((1 : ClientId), (3 : DataNodeId)) = some (c, root) := named
  cases target
  have destroyed : (run (eventStep Config.small) Daemon.init
      (boundMac ++ [createMac 1 1 2])).data.placed 1 3 = some ⟨2, some 0, .context 0⟩ := by
    decide +kernel
  rcases holds.2 with ⟨node, isKey, -⟩
  rw [Option.some.inj (here.symm.trans destroyed)] at isKey
  cases isKey

/-- The key node of the context is deleted by its id, and the context is still there. -/
theorem deletedHolder_dangles :
    ¬BoundKeysReferenced (run (eventStep Config.small) Daemon.init
      (boundMac ++ [destroyObject 1 4])) := by
  intro referenced
  have positive := referenced 1 3 ⟨2, some 0, .context 0⟩ 0 (by decide +kernel) (by decide +kernel)
  revert positive
  decide +kernel

end ScoreCrypto.ControlPlane
