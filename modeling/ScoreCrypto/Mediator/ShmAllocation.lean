import ScoreCrypto.Mediator.Operations
import ScoreCrypto.Provider.TypeMapping

/-!
Shared memory for a provider that the client names: what `ShmMemoryAllocator` sends, and whose factory
the daemon takes for it.
-/

namespace ScoreCrypto.Mediator

open Daemon ControlPlane Provider

def shmWireProviderTypeAbsent : UInt64 := 0xFF

def shmWireProviderIdUnbound : UInt64 := 0

/-- The request of `AllocateInternal`; its last parameter says that the region is not a pool. -/
def allocateInternal (size : UInt64) (providerType : Option UInt8) (providerId : Option UInt16) :
    SingleOperationRequest where
  operationId := ⟨Actor.mediator, Operations.shmSetup⟩
  parameters :=
    [.uint64 size, .uint64 ((providerType.map UInt8.toUInt64).getD shmWireProviderTypeAbsent),
      .uint64 ((providerId.map UInt16.toUInt64).getD shmWireProviderIdUnbound), .uint64 0]

/-- The request of `Allocate` for a resource, of which only the primary provider is read. -/
def allocate (size : UInt64) (primaryProvider : UInt16) : SingleOperationRequest :=
  allocateInternal size none
    (if primaryProvider.toUInt64 ≠ shmWireProviderIdUnbound then some primaryProvider else none)

/-- The configuration with the answers of a provider manager; `factories` tells which providers have
a factory for shared memory. -/
def answeredBy (config : Config) (manager : ProviderManager) (starts factories : Instance → Bool) :
    Config :=
  { config with
    hasProvider := fun id => (manager.getProviderById starts id).1.isSome
    getProvider := fun type => (manager.typeToProviderId type).filter fun _ =>
      (manager.getProviderByType starts type).1.isSome
    hasShmFactory := fun id => manager.providerById[id]?.any factories }

def MadeWith (config : Config) (manager : ProviderManager) (clientId : ClientId)
    (operation : SingleOperationRequest) (provider : Instance) : Prop :=
  shmFactory config clientId operation = .ok (true, []) ∧
    ∃ id, shmProvider config operation = .ok (some id) ∧ manager.providerById[id]? = some provider

theorem shmProvider_allocate (config : Config) (size : UInt64) {id : Nat} (small : id < 2 ^ 16) :
    shmProvider config (allocate size (UInt16.ofNat id)) =
      .ok (if id = 0 then config.getProvider .default
        else if config.hasProvider id then some id else none) := by
  by_cases unbound : id = 0
  · subst unbound
    rfl
  · have same : id % 65536 = id := Nat.mod_eq_of_lt small
    have bound : (UInt16.ofNat id).toUInt64 ≠ 0 := by
      intro zero
      have back := congrArg UInt64.toNat zero
      exact unbound (by simpa [same] using back)
    simp [shmProvider, allocate, allocateInternal, shmWireProviderIdUnbound, bound, unbound,
      SingleOperationRequest.getUint64, same]

theorem madeWith_iff {config : Config} {manager : ProviderManager} {starts factories : Instance → Bool}
    {provider : Instance} (supplies : factories provider = true) (clientId : ClientId) (size : UInt64)
    (id : UInt16) :
    MadeWith (answeredBy config manager starts factories) manager clientId (allocate size id) provider ↔
      ∃ used, shmProvider (answeredBy config manager starts factories) (allocate size id) =
        .ok (some used) ∧ manager.providerById[used]? = some provider := by
  refine ⟨And.right, fun ⟨used, chosen, held⟩ => ⟨?_, used, chosen, held⟩⟩
  have factory : (answeredBy config manager starts factories).hasShmFactory used = true := by
    simp [answeredBy, held, supplies]
  unfold shmFactory
  rw [chosen]
  simp [factory, allocate, allocateInternal, SingleOperationRequest.getUint64]

variable {manager : ProviderManager} {registered : List ProviderEntry}

theorem isSome_of_held (lists : manager.Lists registered) (starts : Instance → Bool) {id : ProviderId}
    {provider : Instance} (held : manager.providerById[id]? = some provider) :
    (manager.getProviderById starts id).1.isSome = manager.started starts provider ∧
      ∀ type, manager.typeToProviderId type = some id →
        (manager.getProviderByType starts type).1.isSome = manager.started starts provider := by
  rw [lists.instances, List.getElem?_map] at held
  obtain ⟨entry, there, rfl⟩ := Option.map_eq_some_iff.mp held
  have found : (registered[id]?.bind (ProviderManager.usable (manager.started starts))).isSome =
      manager.started starts entry.provider := by
    rw [there]
    cases up : manager.started starts entry.provider <;> simp [ProviderManager.usable, up]
  refine ⟨by rw [lists.getProviderById_fst, found], fun type mapped => ?_⟩
  rw [lists.getProviderByType_fst, mapped]
  exact found

/-- The region is made with the provider's own factory if the provider comes up and its number leads
to it, where the number 0 leads wherever the default type does. -/
theorem allocate_madeWith_iff (config : Config) (clientId : ClientId) (size : UInt64)
    (lists : manager.Lists registered) (starts factories : Instance → Bool) {entry : ProviderEntry}
    (member : entry ∈ registered) (supplies : factories entry.provider = true) :
    MadeWith (answeredBy config manager starts factories) manager clientId
        (allocate size (UInt16.ofNat entry.numericId)) entry.provider ↔
      manager.started starts entry.provider = true ∧
        (entry.numericId ≠ 0 ∧ manager.providerById[entry.numericId]? = some entry.provider ∨
          entry.numericId = 0 ∧ ∃ id, manager.typeToProviderId .default = some id ∧
            manager.providerById[id]? = some entry.provider) := by
  obtain ⟨i, at_i⟩ := List.getElem?_of_mem member
  have small : entry.numericId < 2 ^ 16 := by
    rw [lists.numbered i entry at_i]
    exact Nat.mod_lt _ (by decide)
  rw [madeWith_iff supplies, shmProvider_allocate _ size small]
  by_cases unbound : entry.numericId = 0
  · simp only [unbound, if_true, answeredBy, Except.ok.injEq, Option.filter_eq_some_iff, ne_eq,
      not_true_eq_false, false_and, false_or, true_and]
    constructor
    · rintro ⟨id, ⟨mapped, found⟩, held⟩
      rw [(isSome_of_held lists starts held).2 _ mapped] at found
      exact ⟨found, id, mapped, held⟩
    · rintro ⟨up, id, mapped, held⟩
      exact ⟨id, ⟨mapped, by rwa [(isSome_of_held lists starts held).2 _ mapped]⟩, held⟩
  · simp only [unbound, if_false, Except.ok.injEq, Option.ite_none_right_eq_some, Option.some.injEq,
      ne_eq, not_false_eq_true, true_and, false_and, or_false]
    constructor
    · rintro ⟨-, ⟨found, rfl⟩, held⟩
      exact ⟨(isSome_of_held lists starts held).1 ▸ found, held⟩
    · rintro ⟨up, held⟩
      exact ⟨_, ⟨(isSome_of_held lists starts held).1.trans up, rfl⟩, held⟩

def softwareFirst : ProviderManager :=
  Run.run ProviderManager.startup (.construct ∅ fun _ => true)
    [.register "openssl" (some 0) .software, .register "pkcs11" (some 1) .hardware]

theorem second_madeWith :
    MadeWith (answeredBy .small softwareFirst (fun _ => true) fun _ => true) softwareFirst 0
      (allocate 64 1) 1 := by
  obtain ⟨registered, lists⟩ := ProviderManager.lists_run ∅ (fun _ => true)
    [.register "openssl" (some 0) .software, .register "pkcs11" (some 1) .hardware]
  have found : softwareFirst.providers.lookup "pkcs11" = some ⟨"pkcs11", 1, 1, .hardware⟩ := by
    decide +kernel
  exact (allocate_madeWith_iff .small 0 64 lists (fun _ => true) (fun _ => true)
    (lists.mem_of_lookup found) rfl).mpr ⟨rfl, .inl ⟨by decide, rfl⟩⟩

/-- With the second provider as the default, a region for the first is made with the factory of the
second. -/
theorem first_not_madeWith :
    let manager := (softwareFirst.applyOverride .default "pkcs11").2
    manager.providers.lookup "openssl" = some ⟨"openssl", 0, 0, .software⟩ ∧
      ¬ MadeWith (answeredBy .small manager (fun _ => true) fun _ => true) manager 0 (allocate 64 0) 0 ∧
      MadeWith (answeredBy .small manager (fun _ => true) fun _ => true) manager 0 (allocate 64 0) 1 := by
  have chosen : shmProvider (answeredBy .small (softwareFirst.applyOverride .default "pkcs11").2
      (fun _ => true) fun _ => true) (allocate 64 0) = .ok (some 1) := by
    decide +kernel
  refine ⟨by decide +kernel, fun made => ?_, (madeWith_iff rfl _ _ _).mpr ⟨1, chosen, rfl⟩⟩
  obtain ⟨-, id, used, held⟩ := made
  rw [chosen] at used
  cases used
  cases held

end ScoreCrypto.Mediator
