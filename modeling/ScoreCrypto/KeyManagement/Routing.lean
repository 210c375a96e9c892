import ScoreCrypto.KeyManagement.Service

/-! The provider that a key is routed to, and the provider that it can be bound for. -/

namespace ScoreCrypto.KeyManagement

open DataManager Daemon Program

section Definitions

variable (config : Config) (d : Daemon.State) (clientId : ClientId)

/-- The check of the key's provider against the target refuses the key. It comes before the lookup
of the provider, so that only the check answers so where there is none. -/
def CrossProviderRefused (contextNodeId keyNodeId : DataNodeId) (targetProviderId : ProviderId) :
    Prop :=
  (exec (bindKeyToContext { config with hasProvider := fun _ => false } clientId contextNodeId
    keyNodeId targetProviderId (.ok .secret)) d).1 = .error .unsupportedOperation

/-- No provider type is asked for, or one that the slot's primary provider has. The check lets the
id of no provider pass. -/
def KeySlotConfig.RoutesToPrimary (slot : KeySlotConfig) (requestedType : CryptoProviderType) :
    Prop :=
  requestedType = .default ∨
    config.isProviderCompatibleWithType slot.getPrimaryProviderId requestedType = true ∨
    slot.providerIds.find? (config.isProviderCompatibleWithType · requestedType) =
      some invalidProviderId

/-- If the node is a slot, its primary provider is the one that is routed to. -/
def RoutesToOwner (requestedType : CryptoProviderType) (keyNodeId : DataNodeId) : Prop :=
  ∀ accessor slotHandle slot,
    (handle (.getNodeAccessor clientId keyNodeId) d).1 = .ok (accessor, .keySlot slotHandle) →
    config.slots.getConfig slotHandle = .ok slot → slot.RoutesToPrimary config requestedType

end Definitions

variable {config : Config} {d : Daemon.State} {clientId : ClientId}
  {contextNodeId keyNodeId : DataNodeId} {accessor : Accessor} {slotHandle : SlotHandle}
  {slot : KeySlotConfig} {requestedType : CryptoProviderType} {p : ProviderId}

def KeySlotConfig.Selects (config : Config) (slot : KeySlotConfig)
    (requestedType : CryptoProviderType) (p : ProviderId) : Prop :=
  slot.providerIds ≠ [] ∧
    (requestedType = .default ∧ slot.getPrimaryProviderId = p ∨
      requestedType ≠ .default ∧
        slot.providerIds.find? (config.isProviderCompatibleWithType · requestedType) = some p)

theorem KeySlotConfig.Selects.passes_iff (selects : slot.Selects config requestedType p) :
    ¬(p ≠ invalidProviderId ∧ slot.getPrimaryProviderId ≠ p) ↔
      slot.RoutesToPrimary config requestedType := by
  rcases selects with ⟨listed, ⟨default, same⟩ | ⟨asked, first⟩⟩
  · simp [RoutesToPrimary, default, same]
  · have compatible := List.find?_some first
    rw [RoutesToPrimary, first]
    rcases List.exists_cons_of_ne_nil listed with ⟨primary, others, listed⟩
    have head : slot.getPrimaryProviderId = primary := by simp [getPrimaryProviderId, listed]
    rw [listed, List.find?_cons] at first
    rw [head]
    cases own : config.isProviderCompatibleWithType primary requestedType with
    | true =>
      simp only [own, Option.some.injEq] at first
      simp [first]
    | false =>
      have other : primary ≠ p := by
        intro same
        simp [← same, own] at compatible
      simp [asked, other]

theorem keySlot_selects
    (granted : (handle (.getNodeAccessor clientId keyNodeId) d).1 =
      .ok (accessor, .keySlot slotHandle))
    (selected : (exec (resolveTargetProvider config clientId requestedType keyNodeId) d).1 = .ok p) :
    ∃ slot, config.slots.getConfig slotHandle = .ok slot ∧ slot.Selects config requestedType p := by
  simp only [resolveTargetProvider, withAccessor, exec_bind, exec_perform, granted] at selected
  cases found : config.slots.getConfig slotHandle with
  | error e => simp [found] at selected
  | ok slot =>
    refine ⟨slot, rfl, ?_⟩
    simp only [found] at selected
    split at selected
    case isTrue => cases selected
    case isFalse listed =>
      split at selected
      case isTrue default => exact ⟨listed, .inl ⟨default, by simpa using selected⟩⟩
      case isFalse asked => split at selected <;> simp_all [KeySlotConfig.Selects]

theorem keySlot_refused_iff
    (granted : (handle (.getNodeAccessor clientId keyNodeId) d).1 =
      .ok (accessor, .keySlot slotHandle))
    (found : config.slots.getConfig slotHandle = .ok slot) (listed : slot.providerIds ≠ []) :
    CrossProviderRefused config d clientId contextNodeId keyNodeId p ↔
      p ≠ invalidProviderId ∧ slot.getPrimaryProviderId ≠ p := by
  rcases List.exists_cons_of_ne_nil listed with ⟨primary, others, listed⟩
  have head : slot.getPrimaryProviderId = primary := by
    simp [KeySlotConfig.getPrimaryProviderId, listed]
  simp only [CrossProviderRefused, bindKeyToContext, withAccessor, exec_bind, exec_perform, granted,
    SlotRegistry.getPrimaryProviderId, found, listed, head]
  split
  case isTrue refused => simpa using refused
  case isFalse passed => simpa using passed

theorem keyData_passes {keyNode : KeyDataNode}
    (granted : (handle (.getNodeAccessor clientId keyNodeId) d).1 =
      .ok (accessor, .keyData keyNode))
    (selected : (exec (resolveTargetProvider config clientId requestedType keyNodeId) d).1 = .ok p) :
    ¬CrossProviderRefused config d clientId contextNodeId keyNodeId p := by
  simp only [resolveTargetProvider, withAccessor, exec_bind, exec_perform, granted] at selected
  simp only [CrossProviderRefused, bindKeyToContext, withAccessor, exec_bind, exec_perform, granted]
  split
  case h_1 => simp
  case h_2 entry found =>
    have own : entry.providerId = p := by
      simp only [found] at selected
      split at selected
      · simpa using selected
      · split at selected
        · simpa using selected
        · cases selected
    simp only [own, ne_eq, not_true_eq_false, and_false, ↓reduceIte, createKeyDataNode, exec_bind]
    split <;> simp

theorem not_crossProviderRefused_iff (config : Config) (d : Daemon.State) (clientId : ClientId)
    (requestedType : CryptoProviderType) (contextNodeId keyNodeId : DataNodeId) (p : ProviderId)
    (selected : (exec (resolveTargetProvider config clientId requestedType keyNodeId) d).1 = .ok p) :
    ¬CrossProviderRefused config d clientId contextNodeId keyNodeId p ↔
      RoutesToOwner config d clientId requestedType keyNodeId := by
  unfold RoutesToOwner
  rcases granted : (handle (.getNodeAccessor clientId keyNodeId) d).1 with e | ⟨accessor, node⟩
  · simp [resolveTargetProvider, withAccessor, granted] at selected
  · cases node with
    | keySlot slotHandle =>
      rcases keySlot_selects granted selected with ⟨slot, found, selects⟩
      rw [keySlot_refused_iff granted found selects.1, selects.passes_iff]
      constructor
      · intro routes a h s same found'
        cases same
        cases found.symm.trans found'
        exact routes
      · exact fun routes => routes accessor slotHandle slot rfl found
    | keyData keyNode => simp [keyData_passes granted selected]
    | _ => simp [resolveTargetProvider, withAccessor, granted] at selected

def twoProviders : Config :=
  { Config.small with
    slots :=
      { Config.small.slots with
        registry := Config.small.slots.registry.map fun slot =>
          { slot with providerIds := [0, 1] } }
    hasProvider := fun providerId => providerId ≤ 1
    isProviderCompatibleWithType := fun providerId type =>
      providerId = 0 && type = .software || providerId = 1 && type = .hardware }

def slotResolved : Daemon.State :=
  (exec (resolveKeySlot twoProviders "key" 1) init).2

theorem software_routed :
    (exec (resolveTargetProvider twoProviders 1 .software 1) slotResolved).1 = .ok 0 ∧
      ¬CrossProviderRefused twoProviders slotResolved 1 0 1 0 := by
  refine ⟨rfl, (not_crossProviderRefused_iff twoProviders slotResolved 1 .software 0 1 0 rfl).mpr ?_⟩
  intro accessor slotHandle slot granted found
  cases granted
  cases found
  exact .inr (.inl rfl)

/-- Hardware is routed to the second provider, for which the slot's key is never bound. -/
theorem hardware_refused :
    (exec (resolveTargetProvider twoProviders 1 .hardware 1) slotResolved).1 = .ok 1 ∧
      CrossProviderRefused twoProviders slotResolved 1 0 1 1 :=
  ⟨rfl, rfl⟩

end ScoreCrypto.KeyManagement
