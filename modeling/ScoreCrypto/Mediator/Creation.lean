import ScoreCrypto.Mediator.Footprint

/-!
What `CTX_CREATE` does to the nodes: it adds a context and perhaps a key node below it, or nothing
at all.
-/

namespace ScoreCrypto.Mediator

open DataManager Daemon KeyManagement ControlPlane Provider Program

variable {d d' d'' : Daemon.State}

/-! ### A key node -/

def KeyBelow (d : Daemon.State) (c : ClientId) (parentId : DataNodeId) (c' : ClientId) (_ : DataNodeId)
    (n : Placed Node) : Prop :=
  c' = c ∧ (∃ parent, d.data.placed c parentId = some parent ∧ n.parent = some parent.ref) ∧
    ∃ node, n.payload = .keyData node

/-- At most key nodes below the parent are new, and there is one for the key that is returned. -/
structure KeyOutcome (d d' : Daemon.State) (c : ClientId) (parentId : DataNodeId)
    (result : Option (DataNodeId × EntryRef)) : Prop extends Extended (KeyBelow d c parentId) d d' where
  made : ∀ keyNodeId key, result = some (keyNodeId, key) → ∃ parent node ref,
    d.data.placed c parentId = some parent ∧ node.keyEntry = key ∧
      d'.data.placed c keyNodeId = some ⟨ref, some parent.ref, .keyData node⟩

section KeyOutcome

variable {c : ClientId} {parentId : DataNodeId} {result : Option (DataNodeId × EntryRef)}

theorem KeyOutcome.of_quiet (quiet : Quiet d d') : KeyOutcome d d' c parentId none :=
  { quiet.extended with made := nofun }

theorem KeyOutcome.after (quiet : Quiet d d') (outcome : KeyOutcome d' d'' c parentId result) :
    KeyOutcome d d'' c parentId result := by
  have same : KeyBelow d' c parentId = KeyBelow d c parentId := by
    unfold KeyBelow
    rw [quiet.placed]
  exact { quiet.extended.trans (same ▸ outcome.toExtended) with made := quiet.placed ▸ outcome.made }

theorem KeyOutcome.before (outcome : KeyOutcome d d' c parentId result) (quiet : Quiet d' d'') :
    KeyOutcome d d'' c parentId result :=
  { outcome.toExtended.trans quiet.extended with made := quiet.placed ▸ outcome.made }

end KeyOutcome

def MakesKey (c : ClientId) (parentId : DataNodeId) {ε : Type}
    (p : Prog (Except ε (DataNodeId × EntryRef))) (d : Daemon.State) : Prop :=
  wp handle p (fun result d' => KeyOutcome d d' c parentId result.toOption) d

variable {c : ClientId}

section

variable (linked : Linked d.data [])

include linked

theorem MakesKey.after {act : Action} {parentId : DataNodeId} {ε : Type}
    {f : act.Res → Prog (Except ε (DataNodeId × EntryRef))}
    (silent : Silent act)
    (rest : ∀ d', Linked d'.data [] → MakesKey c parentId (f (handle act d).1) d') :
    MakesKey c parentId (perform act >>= f) d := by
  have quiet := handle_quiet linked act silent
  apply wp_bind
  apply wp_perform
  exact wp_mono (rest _ quiet.linked) fun _ _ outcome => KeyOutcome.after quiet outcome

theorem createKeyDataNode_makesKey (c : ClientId)
    (parentId : DataNodeId) (key : EntryRef) (registryId : KeyRegistryId) (p : ProviderId) :
    MakesKey c parentId (createKeyDataNode c parentId key registryId p) d := by
  refine MakesKey.after linked trivial fun d' linked => wp_bind (wp_perform ?_)
  cases added : (handle (.addChildNode c parentId (.keyData ⟨key, registryId, c, p⟩)) d').1 with
  | error e =>
    have refused := (addChildNode_outcome linked c parentId _).quiet linked added
    have destroyed := exec_quiet (destroyKeyDataNode_only ⟨key, registryId, c, p⟩) refused.linked
    exact wp_bind (KeyOutcome.of_quiet (refused.trans destroyed))
  | ok nodeId =>
    rcases addChildNode_added linked added with ⟨parent, above, new⟩
    have outcome : KeyOutcome d' _ c parentId (some (nodeId, key)) :=
      { new.toExtended.mono (by
          rintro c' id n ⟨rfl, -, rfl⟩
          exact ⟨rfl, ⟨parent, above, rfl⟩, _, rfl⟩) with
        made := by
          rintro _ _ ⟨⟩
          exact ⟨parent, _, _, above, rfl, new.here⟩ }
    exact outcome

theorem shareKey_makesKey (params : KeyRegistrationParams)
    (key : EntryRef) : MakesKey params.clientId params.parentId (shareKey params key) d :=
  MakesKey.after linked trivial fun _ linked => createKeyDataNode_makesKey linked ..

theorem registerKeyEntry_makesKey (params : KeyRegistrationParams) (key : EntryRef) :
    MakesKey params.clientId params.parentId (registerKeyEntry params key) d := by
  unfold registerKeyEntry
  repeat' first
    | split
    | with_reducible exact createKeyDataNode_makesKey (by assumption) ..
    | refine MakesKey.after (by assumption) trivial fun _ _ => ?_
    | exact KeyOutcome.of_quiet (.refl (by assumption))

theorem registerKeyMaterial_makesKey (params : KeyRegistrationParams)
    (handler : Option ProviderKeyHandle) :
    MakesKey params.clientId params.parentId (registerKeyMaterial params handler) d := by
  cases handler with
  | none => exact KeyOutcome.of_quiet (.refl linked)
  | some handle =>
    exact MakesKey.after linked trivial fun _ linked => registerKeyEntry_makesKey linked ..

theorem loadOrShare_makesKey (config : Config)
    (params : KeyRegistrationParams) (slot : KeySlotConfig)
    (found : Expected SlotMaterial) :
    MakesKey params.clientId params.parentId (loadOrShare config params slot found) d := by
  unfold loadOrShare
  repeat' first
    | split
    | with_reducible exact shareKey_makesKey (by assumption) ..
    | with_reducible exact registerKeyMaterial_makesKey (by assumption) ..
    | refine MakesKey.after (by assumption) trivial fun _ _ => ?_
    | exact KeyOutcome.of_quiet (.refl (by assumption))

theorem bindKeyToContext_makesKey (config : Config) (c : ClientId)
    (contextNodeId keyNodeId : DataNodeId) (target : ProviderId)
    (found : Expected SlotMaterial) :
    MakesKey c contextNodeId
      (bindKeyToContext config c contextNodeId keyNodeId target found) d := by
  apply wp_withAccessor linked
  · exact fun e d' quiet => KeyOutcome.of_quiet quiet
  · intro ref parent node d₁ here quiet
    suffices MakesKey c contextNodeId _ d₁ from
      wp_mono this fun _ _ outcome =>
        ⟨outcome.linked, fun _ after => (KeyOutcome.after quiet outcome).before after⟩
    have linked := quiet.linked
    repeat' first
      | split
      | with_reducible exact loadOrShare_makesKey linked config ⟨c, contextNodeId, _, _⟩ _ found
      | with_reducible exact createKeyDataNode_makesKey (by assumption) ..
      | refine MakesKey.after (by assumption) trivial fun _ _ => ?_
      | exact KeyOutcome.of_quiet (.refl (by assumption))

end

theorem MakesKey.silent {β : Type} {p : Prog β} {parentId : DataNodeId} {ε : Type}
    {f : β → Prog (Except ε (DataNodeId × EntryRef))} (only : Only Silent p)
    (linked : Linked d.data [])
    (rest : ∀ value d', Linked d'.data [] → MakesKey c parentId (f value) d') :
    MakesKey c parentId (p >>= f) d :=
  wp_silent only linked fun value d' quiet =>
    wp_mono (rest value d' quiet.linked) fun _ _ outcome => KeyOutcome.after quiet outcome

variable (config : Config) (answers : Answers) (clientId : ClientId)

theorem bindAndAuthorizeKey_makesKey (linked : Linked d.data []) (contextNodeId keyNodeId : DataNodeId)
    (p : ProviderId) (request : ContextRequest) :
    MakesKey clientId contextNodeId
      (bindAndAuthorizeKey config answers clientId contextNodeId keyNodeId p request) d := by
  unfold bindAndAuthorizeKey
  split
  · exact KeyOutcome.of_quiet (.refl linked)
  · refine MakesKey.silent (peekKeyHandle_only ..) linked fun peeked d' linked => ?_
    rcases peeked with e | handle
    · exact KeyOutcome.of_quiet (.refl linked)
    · simp only
      split
      · apply wp_bind
        refine wp_mono (bindKeyToContext_makesKey linked ..) fun bound d'' outcome => ?_
        cases bound <;> exact outcome
      · exact KeyOutcome.of_quiet (.refl linked)

/-! ### The handler -/

abbrev NoNode : ClientId → DataNodeId → Placed Node → Prop := fun _ _ _ => False

structure HandlerMade (d d' : Daemon.State) (contextType : String) (handler : HandlerRef) : Prop
    extends Extended NoNode d d' where
  new : d.nextHandler ≤ handler
  known : handler < d'.nextHandler
  made : d'.handlers handler = some { contextType := contextType }

def HandlerOutcome (d d' : Daemon.State) (contextType : String) :
    Except CryptoErrorCode (ProviderId × HandlerRef) → Prop
  | .error _ => Extended NoNode d d'
  | .ok (_, handler) => HandlerMade d d' contextType handler

theorem HandlerOutcome.after {contextType : String}
    {result : Except CryptoErrorCode (ProviderId × HandlerRef)} (quiet : Quiet d d')
    (outcome : HandlerOutcome d' d'' contextType result) :
    HandlerOutcome d d'' contextType result := by
  cases result with
  | error e => exact quiet.extended.trans outcome
  | ok made =>
    exact { quiet.extended.trans outcome.toExtended with
      new := quiet.nextHandler ▸ outcome.new
      known := outcome.known
      made := outcome.made }

theorem resolveProvider_only (keyNodeId : Option DataNodeId) (required : ProviderCapability)
    (providerType : CryptoProviderType) :
    Only Silent (resolveProvider config clientId keyNodeId required providerType) := by
  unfold resolveProvider
  split
  · refine .bind (resolveTargetProvider_only ..) fun resolved => ?_
    cases resolved with
    | error e => exact .pure _
    | ok p => exact .ite (.pure _) (.pure _)
  · simp only
    split <;> exact .pure _

theorem tryCandidates_outcome (keyNodeId : Option DataNodeId) (contextType : String)
    (required : ProviderCapability) (candidates : List CryptoProviderType)
    (previous : Option ProviderId) (lastError : CryptoErrorCode) (linked : Linked d.data []) :
    wp handle (tryCandidates config answers clientId keyNodeId contextType required candidates
      previous lastError) (fun result d' => HandlerOutcome d d' contextType result) d := by
  induction candidates generalizing previous lastError d with
  | nil => exact Extended.refl linked
  | cons candidate candidates ih =>
    refine wp_silent (resolveProvider_only ..) linked fun resolved d' quiet => ?_
    have next : ∀ previous lastError, wp handle (tryCandidates config answers clientId keyNodeId
        contextType required candidates previous lastError)
        (fun result d'' => HandlerOutcome d d'' contextType result) d' := fun previous lastError =>
      wp_mono (ih previous lastError quiet.linked) fun _ _ outcome => outcome.after quiet
    repeat' first
      | split
      | with_reducible exact next ..
      | apply wp_bind
      | exact quiet.extended
    have extended : Extended NoNode d' _ :=
      handle_extended quiet.linked (.makeHandler contextType) (show Adds (fun _ _ => False) _ from trivial)
    rename_i providerId _ _ _ _ _ _
    have outcome : HandlerOutcome d' _ contextType (.ok (providerId, d'.nextHandler)) :=
      { extended with
        new := Nat.le_refl _
        known := Nat.lt_succ_self _
        made := Function.update_self .. }
    apply wp_perform
    exact outcome.after quiet

/-! ### The context -/

section Rollback

variable {d₁ d₂ d₃ : Daemon.State} {c : ClientId} {contextNodeId : DataNodeId}
  {parent : Option NodeRef} {node : Node} {result : Option (DataNodeId × EntryRef)}

theorem rollback (base : Extended NoNode d d₁)
    (context : NodeAdded d₁ d₂ c contextNodeId ⟨d₁.data.nextObject, parent, node⟩)
    (outcome : KeyOutcome d₂ d₃ c contextNodeId result) :
    Extended NoNode d (exec (Daemon.deleteNode c contextNodeId) d₃).2 := by
  rcases deleteNode_shrunk outcome.linked c contextNodeId with ⟨gone, shrunk⟩
  have here := outcome.stays c contextNodeId _ context.here
  have root : contextNodeId ∈ gone := by
    apply shrunk.pruned.root_gone
    rw [here]
    exact Option.some_ne_none _
  have restored : Extended NoNode d₁ (exec (Daemon.deleteNode c contextNodeId) d₃).2 :=
    { (context.toSameCaches.trans outcome.toSameCaches).trans shrunk.toSameCaches with
      linked := shrunk.linked
      stays := by
        intro c' id n old
        have here' := outcome.stays c' id n (context.stays c' id n old)
        rw [shrunk.pruned.others, here']
        rintro ⟨rfl, listed⟩
        -- a node that goes with the context is not older than it
        have younger := shrunk.pruned.root_le outcome.linked here listed here'
        exact absurd (base.linked.placed_lt old) (Nat.not_lt.mpr younger)
      fresh := by
        intro c' id n after
        left
        have here' := shrunk.pruned.before after
        have stays : ¬(c' = c ∧ id ∈ gone) := by
          rintro ⟨rfl, listed⟩
          rw [shrunk.pruned.removed id listed] at after
          cases after
        rcases outcome.fresh c' id n here' with old | ⟨rfl, ⟨above, found, below⟩, -⟩
        · rcases context.fresh c' id n old with older | ⟨rfl, rfl, -⟩
          · exact older
          · exact absurd ⟨rfl, root⟩ stays
        · rw [context.here] at found
          cases found
          exact absurd ⟨rfl, shrunk.pruned.downward id n contextNodeId _ here' here below root⟩ stays
      handlers := fun h known => by
        rw [shrunk.handlers, outcome.handlers h (known.trans_le context.nextHandler),
          context.handlers h known]
      nextHandler := shrunk.nextHandler ▸ context.nextHandler.trans outcome.nextHandler }
  exact base.trans restored

end Rollback

def ContextNode (c : ClientId) (contextNodeId : DataNodeId) (c' : ClientId) (id : DataNodeId)
    (n : Placed Node) : Prop :=
  c' = c ∧ (id = contextNodeId ∨ ∃ node, n.payload = .keyData node)

/-- `d'` is `d` with a new context: its handler is initialized, and a key that it is bound to has
a key node below it. -/
structure ContextAdded (d d' : Daemon.State) (c : ClientId) (context : CreatedContext) : Prop
    extends Extended (ContextNode c context.contextNodeId) d d' where
  created : ∃ ref parent handlerRef handler params,
    d'.data.placed c context.contextNodeId = some ⟨ref, some parent, .context handlerRef⟩ ∧
    d.nextHandler ≤ handlerRef ∧ handlerRef < d'.nextHandler ∧
    d'.handlers handlerRef = some handler ∧ handler.params = some params ∧
    params.clientId = c ∧ params.boundKeyHandler = context.boundKey ∧
    ∀ key, context.boundKey = some key → ∃ keyNodeId keyRef node,
      d'.data.placed c keyNodeId = some ⟨keyRef, some ref, .keyData node⟩ ∧ node.keyEntry = key

def ContextOutcome (d d' : Daemon.State) (c : ClientId) : Except CryptoErrorCode CreatedContext → Prop
  | .error _ => Extended NoNode d d'
  | .ok context => ContextAdded d d' c context

section Creation

variable {d₁ d₂ d₃ : Daemon.State} {contextType : String} {contextNodeId : DataNodeId}
  {handlerRef : HandlerRef} {parent : NodeRef} {result : Option (DataNodeId × EntryRef)}
  {c : ClientId} (base : HandlerMade d d₁ contextType handlerRef)
  (context : NodeAdded d₁ d₂ c contextNodeId
    ⟨d₁.data.nextObject, some parent, .context handlerRef⟩)
  (outcome : KeyOutcome d₂ d₃ c contextNodeId result)

include base context outcome

theorem contextAdded (params : InitializationParams) (own : params.clientId = c)
    (bound : params.boundKeyHandler = result.map Prod.snd) :
    ContextAdded d (handle (.initializeContext handlerRef params) d₃).2 c
      ⟨contextNodeId, result.map Prod.snd⟩ := by
  have grown : Extended (ContextNode c contextNodeId) d d₃ :=
    ((base.toExtended.mono fun _ _ _ none => none.elim).trans
      (context.toExtended.mono fun _ _ _ new => ⟨new.1, .inl new.2.1⟩)).trans
        (outcome.toExtended.mono fun _ _ _ new => ⟨new.1, .inr new.2.2⟩)
  have known : handlerRef < d₂.nextHandler := base.known.trans_le context.nextHandler
  exact
    { grown with
      handlers := by
        intro h old
        have other : h ≠ handlerRef := Nat.ne_of_lt (Nat.lt_of_lt_of_le old base.new)
        change Function.update d₃.handlers handlerRef _ h = _
        rw [Function.update_of_ne other, grown.handlers h old]
      created := by
        refine ⟨_, parent, handlerRef, { contextType := contextType, params := some params }, params,
          outcome.stays _ _ _ context.here, base.new, known.trans_le outcome.nextHandler, ?_, rfl, own,
          bound, ?_⟩
        · change Function.update d₃.handlers handlerRef _ handlerRef = _
          rw [Function.update_self, outcome.handlers _ known, context.handlers _ base.known, base.made]
          rfl
        · intro key named
          rcases Option.map_eq_some_iff.mp named with ⟨⟨keyNodeId, _⟩, made, rfl⟩
          rcases outcome.made keyNodeId _ made with ⟨above, node, ref, found, points, placed⟩
          rw [context.here] at found
          cases found
          exact ⟨keyNodeId, ref, node, placed, points⟩ }

theorem initializeHandler_outcome (p : ProviderId) :
    wp handle (initializeHandler answers c contextNodeId p handlerRef result)
      (fun created d' => ContextOutcome d d' c created) d₃ := by
  unfold initializeHandler
  split
  · exact wp_bind (rollback base.toExtended context outcome)
  · exact wp_bind (wp_perform (contextAdded base context outcome _ rfl rfl))

end Creation

/-- `CTX_CREATE` adds a context as described, or leaves the nodes as they were. -/
theorem createContext_outcome (linked : Linked d.data []) (connectionId : DataNodeId)
    (request : ContextRequest) :
    wp handle (createContext config answers clientId connectionId request)
      (fun created d' => ContextOutcome d d' clientId created) d := by
  apply wp_bind
  refine wp_mono (tryCandidates_outcome config answers clientId request.keyNodeId
    request.contextType _ _ none .providerNotAvailable linked) fun resolved d₁ base => ?_
  rcases resolved with e | ⟨p, handler⟩
  · exact base
  · apply wp_bind
    apply wp_perform
    cases added : (handle (.addChildNode clientId connectionId (.context handler)) d₁).1 with
    | error e =>
      exact base.toExtended.trans ((addChildNode_outcome base.linked _ _ _).quiet base.linked added).extended
    | ok contextNodeId =>
      rcases addChildNode_added base.linked added with ⟨parent, -, context⟩
      cases request.keyNodeId with
      | none =>
        exact initializeHandler_outcome answers base context (KeyOutcome.of_quiet (.refl context.linked)) p
      | some keyNodeId =>
        apply wp_bind
        refine wp_mono (bindAndAuthorizeKey_makesKey config answers clientId context.linked
          contextNodeId keyNodeId p request) fun bound d₃ outcome => ?_
        cases bound with
        | error e => exact wp_bind (rollback base.toExtended context outcome)
        | ok made => exact initializeHandler_outcome answers base context outcome p

theorem contextCreation_outcome (linked : Linked d.data []) (connectionId : DataNodeId)
    (operation : SingleOperationRequest) :
    wp handle (contextCreation config answers clientId connectionId operation)
      (fun created d' => ContextOutcome d d' clientId created) d := by
  unfold contextCreation
  split
  · exact Extended.refl linked
  · exact createContext_outcome config answers clientId linked connectionId _

end ScoreCrypto.Mediator
