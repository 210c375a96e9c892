import ScoreCrypto.KeyManagement.Slots

/-! What is fixed when the daemon has started: the deployment's slots and the providers. -/

namespace ScoreCrypto.Daemon

open KeyManagement

structure CertSlotRegistry where
  slotCount : Nat
  resolveAppResource : String → ClientId → Expected Nat

def CertSlotRegistry.isValidHandle (registry : CertSlotRegistry) (slotHandle : Nat) : Bool :=
  slotHandle ≠ 2 ^ 32 - 1 && slotHandle < registry.slotCount % 2 ^ 32

structure ShmPoolConfig where
  poolSize : Nat
  poolSlotSize : Nat
  totalQuota : Nat
  hasPoolFactory : Bool

/-- The answers of the slot registries, the algorithm catalog and the provider manager. -/
structure Config where
  slots : SlotRegistry
  certSlots : CertSlotRegistry
  getAlgorithmDescriptor : String → Option AlgorithmDescriptor
  ctrDrbg : AlgorithmDescriptor
  hasProvider : ProviderId → Bool
  getProvider : CryptoProviderType → Option ProviderId
  getProviderForCapability : ProviderCapability → Option ProviderId
  getProviderCapabilities : ProviderId → ProviderCapability
  isProviderCompatibleWithType : ProviderId → CryptoProviderType → Bool
  hasCryptoHandlerFactory : ProviderId → Bool
  hasKeySlotHandler : ProviderId → KeySlotConfig → Bool
  executorHasSlotHandler : ProviderId → Bool
  hasShmFactory : ProviderId → Bool
  getShmConfig : Nat → Expected ShmPoolConfig

/-- A small deployment: one provider, with one slot for a MAC key and one certificate slot that the
applications of the user 0 may use. -/
def Config.small : Config where
  slots :=
    { registry :=
        [{ slotName := "slot", algorithm := "HMAC", providerIds := [0],
           allowedOperations := Permission.mac, allowedUids := [0] }]
      nameIndex := fun name => if name = "slot" then some 0 else none
      appResourceMap := fun _ resource => if resource = "key" then some "slot" else none }
  certSlots :=
    { slotCount := 1
      resolveAppResource := fun resource _ =>
        if resource = "certificate" then .ok 0 else .error .invalidResourceId }
  getAlgorithmDescriptor := fun name => if name = "HMAC" then some ⟨"HMAC", .other⟩ else none
  ctrDrbg := ⟨"CTR-DRBG", .other⟩
  hasProvider := fun providerId => providerId = 0
  getProvider := fun _ => some 0
  getProviderForCapability := fun _ => some 0
  getProviderCapabilities := fun _ => Capability.crypto ||| Capability.keyManagement
  isProviderCompatibleWithType := fun providerId _ => providerId = 0
  hasCryptoHandlerFactory := fun providerId => providerId = 0
  hasKeySlotHandler := fun providerId _ => providerId = 0
  executorHasSlotHandler := fun providerId => providerId = 0
  hasShmFactory := fun providerId => providerId = 0
  getShmConfig := fun _ => .error .invalidArgument

end ScoreCrypto.Daemon
