import ScoreCrypto.KeyManagement.Slots
import ScoreCrypto.Lib.Program
import ScoreCrypto.Storage.KvFormat

/-!
The CertSlotManager: what the certificate slots hold, and what the manager caches of it. A call is
a program whose actions are its sections under the manager's mutex and the operations of the slot's
handler, which run outside of it.
-/

namespace ScoreCrypto.CertManagement

open Storage KeyManagement

abbrev SlotIndex := Nat

/-! ### Configured slots -/

inductive IntegrityPolicy where
  | disabled
  | required
  deriving DecidableEq, Repr

structure CertSlotConfig where
  slotName : Bytes
  allowedWriteUids : List Nat
  integrityPolicy : IntegrityPolicy := .disabled
  deriving DecidableEq, Repr

structure CertSlotRegistry where
  registry : List CertSlotConfig
  distinct : (registry.map CertSlotConfig.slotName).Nodup

namespace CertSlotRegistry

def empty : CertSlotRegistry := ⟨[], List.nodup_nil⟩

variable (slots : CertSlotRegistry)

def registerSlot (config : CertSlotConfig) : CertSlotRegistry :=
  if taken : config.slotName ∈ slots.registry.map CertSlotConfig.slotName then slots
  else
    { registry := slots.registry ++ [config]
      distinct := by
        rw [List.map_append]
        exact slots.distinct.append (List.nodup_singleton _) (by simpa using taken) }

def resolveSlotInternal (slotName : Bytes) : Expected SlotIndex :=
  match slots.registry.findIdx? (fun config => config.slotName = slotName) with
  | some index => .ok index
  | none => .error .invalidResourceId

def isValidHandle (slot : SlotIndex) : Bool :=
  slot ≠ 2 ^ 32 - 1 && slot < slots.registry.length % 2 ^ 32

def getConfig (slot : SlotIndex) : Expected CertSlotConfig :=
  if slots.isValidHandle slot then
    match slots.registry[slot]? with
    | some config => .ok config
    | none => .error .invalidResourceId
  else .error .invalidResourceId

/-- Certificates are public: every client may read every slot. -/
def checkReadAccess (slot : SlotIndex) (_client : ClientId) : Expected Unit :=
  if slots.isValidHandle slot then .ok () else .error .invalidResourceId

def checkWriteAccess (slot : SlotIndex) (client : ClientId) : Expected Unit :=
  match slots.getConfig slot with
  | .error e => .error e
  | .ok config =>
    if getUidFromClientId client ∈ config.allowedWriteUids then .ok ()
    else .error .accessDenied

end CertSlotRegistry

/-! ### Storage -/

abbrev Fingerprint := { bytes : Bytes // bytes.length = 32 }

/-- A parsed certificate; it is identified by the digest of its DER encoding. -/
structure CertObject where
  fingerprint : Fingerprint
  deriving DecidableEq, Repr

structure CrlMetadata where
  fingerprint : Fingerprint
  issuerFingerprint : Fingerprint
  thisUpdate : Int
  nextUpdate : Int
  crlNumber : Nat
  deriving DecidableEq, Repr

structure CrlData where
  bytes : Bytes
  format : FormatType
  metadata : Option CrlMetadata
  deriving DecidableEq, Repr

structure CrlState where
  hasCrl : Bool := false
  metadata : Option CrlMetadata := none
  deriving DecidableEq, Repr

/-- What the three reads of a slot's CRL answer. They are reads of one CRL, so they agree. -/
structure CrlContent where
  hasCrl : Expected Bool
  metadata : Expected (Option CrlMetadata)
  data : Expected (Option CrlData)
  present : ∀ crl, data = .ok (some crl) → hasCrl = .ok true ∧ metadata = .ok crl.metadata
  absent : hasCrl = .ok false ↔ data = .ok none

namespace CrlContent

def none : CrlContent where
  hasCrl := .ok false
  metadata := .ok .none
  data := .ok .none
  present crl found := by cases found
  absent := by simp

def some (crl : CrlData) : CrlContent where
  hasCrl := .ok true
  metadata := .ok crl.metadata
  data := .ok (.some crl)
  present other found := by
    cases found
    exact ⟨rfl, rfl⟩
  absent := by simp

def state (crl : CrlContent) : Expected CrlState :=
  match crl.hasCrl with
  | .error e => .error e
  | .ok false => .ok {}
  | .ok true =>
    match crl.metadata with
    | .error e => .error e
    | .ok metadata => .ok { hasCrl := true, metadata := metadata }

end CrlContent

structure SlotContent where
  certificate : Expected CertObject
  crl : CrlContent

/-- What a write leaves behind in the slot, whether or not it succeeds, and what it returns. -/
inductive SlotWrite where
  | certificate (after : SlotContent) (result : Expected Unit)
  | crl (after : CrlContent) (result : Expected Unit)

def SlotWrite.apply : SlotWrite → SlotContent → Expected Unit × SlotContent
  | .certificate after result, _ => (result, after)
  | .crl after result, content => (result, { content with crl := after })

/-! ### Caches -/

/-- The certificate and the snapshot are held weakly: they are there while a holder is. -/
structure SlotCache where
  certificate : Option CertObject := none
  certificateGeneration : UInt64 := 0
  crlState : Option CrlState := none
  crlSnapshot : Option CrlData := none
  crlGeneration : UInt64 := 0

namespace SlotCache

def resetCertificate (cache : SlotCache) : SlotCache :=
  { cache with
    certificate := none
    certificateGeneration := cache.certificateGeneration + 1 }

def resetCrl (cache : SlotCache) : SlotCache :=
  { cache with
    crlState := none
    crlSnapshot := none
    crlGeneration := cache.crlGeneration + 1 }

end SlotCache

structure Slot where
  content : SlotContent
  hasHandler : Bool := false
  cache : SlotCache := {}

abbrev SlotManager := SlotIndex → Slot

inductive Lookup (α : Type) where
  | hit (value : α)
  | miss (generation : UInt64)

namespace Slot

variable (slot : Slot)

/-- `GetOrCreate`; `created` says how the factory would end. -/
def getOrCreate (created : Expected Unit) : Expected Unit × Slot :=
  if slot.hasHandler then (.ok (), slot)
  else
    match created with
    | .error e => (.error e, slot)
    | .ok _ => (.ok (), { slot with hasHandler := true })

def findCertificate (created : Expected Unit) : Expected (Lookup CertObject) × Slot :=
  match slot.cache.certificate with
  | some certificate => (.ok (.hit certificate), slot)
  | none =>
    match slot.getOrCreate created with
    | (.error e, slot') => (.error e, slot')
    | (.ok _, slot') => (.ok (.miss slot.cache.certificateGeneration), slot')

def cacheCertificate (generation : UInt64) (certificate : CertObject) : Slot :=
  if slot.cache.certificateGeneration = generation then
    { slot with cache := { slot.cache with certificate := some certificate } }
  else slot

def findCrlState : Lookup CrlState :=
  match slot.cache.crlState with
  | some state => .hit state
  | none => .miss slot.cache.crlGeneration

def cacheCrlState (generation : UInt64) (state : CrlState) : Slot :=
  if slot.cache.crlGeneration = generation then
    { slot with cache := { slot.cache with crlState := some state } }
  else slot

def findCrlData (created : Expected Unit) : Expected (Lookup (Option CrlData)) × Slot :=
  if slot.cache.crlState.any (fun state => !state.hasCrl) then (.ok (.hit none), slot)
  else
    match slot.cache.crlSnapshot with
    | some snapshot => (.ok (.hit (some snapshot)), slot)
    | none =>
      match slot.getOrCreate created with
      | (.error e, slot') => (.error e, slot')
      | (.ok _, slot') => (.ok (.miss slot.cache.crlGeneration), slot')

def crlStateOf (snapshot : Option CrlData) : CrlState where
  hasCrl := snapshot.isSome
  metadata := snapshot.bind CrlData.metadata

def cacheCrlData (generation : UInt64) (snapshot : Option CrlData) : Slot :=
  if slot.cache.crlGeneration = generation then
    { slot with
      cache := { slot.cache with
        crlState := some (crlStateOf snapshot)
        crlSnapshot := snapshot } }
  else slot

def write (operation : SlotWrite) : Expected Unit × Slot :=
  ((operation.apply slot.content).1, { slot with content := (operation.apply slot.content).2 })

def invalidateSlotCaches : Slot :=
  { slot with cache := slot.cache.resetCertificate.resetCrl }

def invalidateCrl : Slot :=
  { slot with cache := slot.cache.resetCrl }

def expireCertificate : Slot :=
  { slot with cache := { slot.cache with certificate := none } }

def expireCrlSnapshot : Slot :=
  { slot with cache := { slot.cache with crlSnapshot := none } }

end Slot

/-! ### Actions -/

inductive SlotAction where
  | getOrCreate (slot : SlotIndex) (created : Expected Unit)
  | findCertificate (slot : SlotIndex) (created : Expected Unit)
  | readCertificate (slot : SlotIndex)
  | cacheCertificate (slot : SlotIndex) (generation : UInt64) (certificate : CertObject)
  | findCrlState (slot : SlotIndex)
  | readHasCrl (slot : SlotIndex)
  | readCrlMetadata (slot : SlotIndex)
  | cacheCrlState (slot : SlotIndex) (generation : UInt64) (state : CrlState)
  | findCrlData (slot : SlotIndex) (created : Expected Unit)
  | readCrlData (slot : SlotIndex)
  | cacheCrlData (slot : SlotIndex) (generation : UInt64) (snapshot : Option CrlData)
  | write (slot : SlotIndex) (operation : SlotWrite)
  | invalidateSlotCaches (slot : SlotIndex)
  | invalidateCrl (slot : SlotIndex)
  | expireCertificate (slot : SlotIndex)
  | expireCrlSnapshot (slot : SlotIndex)

namespace SlotAction

@[reducible] def Res : SlotAction → Type
  | getOrCreate _ _ => Expected Unit
  | findCertificate _ _ => Expected (Lookup CertObject)
  | readCertificate _ => Expected CertObject
  | cacheCertificate _ _ _ => Unit
  | findCrlState _ => Lookup CrlState
  | readHasCrl _ => Expected Bool
  | readCrlMetadata _ => Expected (Option CrlMetadata)
  | cacheCrlState _ _ _ => Unit
  | findCrlData _ _ => Expected (Lookup (Option CrlData))
  | readCrlData _ => Expected (Option CrlData)
  | cacheCrlData _ _ _ => Unit
  | write _ _ => Expected Unit
  | invalidateSlotCaches _ => Unit
  | invalidateCrl _ => Unit
  | expireCertificate _ => Unit
  | expireCrlSnapshot _ => Unit

def slot : SlotAction → SlotIndex
  | getOrCreate slot _ => slot
  | findCertificate slot _ => slot
  | readCertificate slot => slot
  | cacheCertificate slot _ _ => slot
  | findCrlState slot => slot
  | readHasCrl slot => slot
  | readCrlMetadata slot => slot
  | cacheCrlState slot _ _ => slot
  | findCrlData slot _ => slot
  | readCrlData slot => slot
  | cacheCrlData slot _ _ => slot
  | write slot _ => slot
  | invalidateSlotCaches slot => slot
  | invalidateCrl slot => slot
  | expireCertificate slot => slot
  | expireCrlSnapshot slot => slot

def onSlot : (act : SlotAction) → Slot → act.Res × Slot
  | getOrCreate _ created, slot => slot.getOrCreate created
  | findCertificate _ created, slot => slot.findCertificate created
  | readCertificate _, slot => (slot.content.certificate, slot)
  | cacheCertificate _ generation certificate, slot =>
    ((), slot.cacheCertificate generation certificate)
  | findCrlState _, slot => (slot.findCrlState, slot)
  | readHasCrl _, slot => (slot.content.crl.hasCrl, slot)
  | readCrlMetadata _, slot => (slot.content.crl.metadata, slot)
  | cacheCrlState _ generation state, slot => ((), slot.cacheCrlState generation state)
  | findCrlData _ created, slot => slot.findCrlData created
  | readCrlData _, slot => (slot.content.crl.data, slot)
  | cacheCrlData _ generation snapshot, slot => ((), slot.cacheCrlData generation snapshot)
  | write _ operation, slot => slot.write operation
  | invalidateSlotCaches _, slot => ((), slot.invalidateSlotCaches)
  | invalidateCrl _, slot => ((), slot.invalidateCrl)
  | expireCertificate _, slot => ((), slot.expireCertificate)
  | expireCrlSnapshot _, slot => ((), slot.expireCrlSnapshot)

def handle (act : SlotAction) (manager : SlotManager) : act.Res × SlotManager :=
  ((act.onSlot (manager act.slot)).1,
    Function.update manager act.slot (act.onSlot (manager act.slot)).2)

end SlotAction

abbrev SlotProg := Program SlotAction SlotAction.Res

namespace SlotProg

abbrev perform (act : SlotAction) : SlotProg act.Res := Program.perform act

end SlotProg

/-! ### Loads -/

section Calls

variable (slots : CertSlotRegistry) (slot : SlotIndex) (client : ClientId)
  (created : Expected Unit)

def loadCertificateCached : SlotProg (Expected CertObject) := do
  match ← SlotProg.perform (.findCertificate slot created) with
  | .error e => pure (.error e)
  | .ok (.hit certificate) => pure (.ok certificate)
  | .ok (.miss generation) =>
    match ← SlotProg.perform (.readCertificate slot) with
    | .error e => pure (.error e)
    | .ok certificate => do
      SlotProg.perform (.cacheCertificate slot generation certificate)
      pure (.ok certificate)

def loadCertificate : SlotProg (Expected CertObject) :=
  match slots.getConfig slot with
  | .error e => pure (.error e)
  | .ok _ =>
    match slots.checkReadAccess slot client with
    | .error e => pure (.error e)
    | .ok _ => loadCertificateCached slot created

def loadCertificateForTrustStore : SlotProg (Expected CertObject) :=
  match slots.getConfig slot with
  | .error e => pure (.error e)
  | .ok _ => loadCertificateCached slot created

def getOrLoadCrlState : SlotProg (Expected CrlState) := do
  match ← SlotProg.perform (.findCrlState slot) with
  | .hit state => pure (.ok state)
  | .miss generation =>
    match ← SlotProg.perform (.readHasCrl slot) with
    | .error e => pure (.error e)
    | .ok false => do
      SlotProg.perform (.cacheCrlState slot generation {})
      pure (.ok {})
    | .ok true =>
      match ← SlotProg.perform (.readCrlMetadata slot) with
      | .error e => pure (.error e)
      | .ok metadata => do
        SlotProg.perform (.cacheCrlState slot generation ⟨true, metadata⟩)
        pure (.ok ⟨true, metadata⟩)

def getCrlStateChecked : SlotProg (Expected CrlState) :=
  match slots.getConfig slot with
  | .error e => pure (.error e)
  | .ok _ =>
    match slots.checkReadAccess slot client with
    | .error e => pure (.error e)
    | .ok _ => do
      match ← SlotProg.perform (.getOrCreate slot created) with
      | .error e => pure (.error e)
      | .ok _ => getOrLoadCrlState slot

def hasCrl : SlotProg (Expected Bool) := do
  match ← getCrlStateChecked slots slot client created with
  | .error e => pure (.error e)
  | .ok state => pure (.ok state.hasCrl)

def getCrlMetadata : SlotProg (Expected (Option CrlMetadata)) := do
  match ← getCrlStateChecked slots slot client created with
  | .error e => pure (.error e)
  | .ok state => pure (.ok state.metadata)

def nextUpdateOf (state : CrlState) : Expected Int :=
  match state.metadata with
  | none => .error .resourceNotAllocated
  | some metadata => .ok metadata.nextUpdate

def getCrlNextUpdate : SlotProg (Expected Int) := do
  match ← getCrlStateChecked slots slot client created with
  | .error e => pure (.error e)
  | .ok state => pure (nextUpdateOf state)

def getOrLoadCrlData : SlotProg (Expected (Option CrlData)) := do
  match ← SlotProg.perform (.findCrlData slot created) with
  | .error e => pure (.error e)
  | .ok (.hit snapshot) => pure (.ok snapshot)
  | .ok (.miss generation) =>
    match ← SlotProg.perform (.readCrlData slot) with
    | .error e => pure (.error e)
    | .ok snapshot => do
      SlotProg.perform (.cacheCrlData slot generation snapshot)
      pure (.ok snapshot)

def loadCrlData : SlotProg (Expected (Option CrlData)) :=
  match slots.getConfig slot with
  | .error e => pure (.error e)
  | .ok _ =>
    match slots.checkReadAccess slot client with
    | .error e => pure (.error e)
    | .ok _ => getOrLoadCrlData slot created

def loadCrlDataForTrustStore : SlotProg (Expected (Option CrlData)) :=
  match slots.getConfig slot with
  | .error e => pure (.error e)
  | .ok _ => getOrLoadCrlData slot created

/-! ### Writes -/

def SlotWrite.invalidation (slot : SlotIndex) : SlotWrite → SlotAction
  | .certificate _ _ => .invalidateSlotCaches slot
  | .crl _ _ => .invalidateCrl slot

/-- A write through the slot's handler, and whether it may have changed the content. -/
def writeSlot (operation : SlotWrite) : SlotProg (Expected Unit × Bool) :=
  match slots.getConfig slot with
  | .error e => pure (.error e, false)
  | .ok _ =>
    match slots.checkWriteAccess slot client with
    | .error e => pure (.error e, false)
    | .ok _ => do
      match ← SlotProg.perform (.getOrCreate slot created) with
      | .error e => pure (.error e, false)
      | .ok _ => do
        let result ← SlotProg.perform (.write slot operation)
        let _ ← SlotProg.perform (operation.invalidation slot)
        pure (result, true)

variable (result : Expected Unit)

def storeCertificate (after : SlotContent) : SlotProg (Expected Unit × Bool) :=
  writeSlot slots slot client created (.certificate after result)

def clearSlot (after : SlotContent) : SlotProg (Expected Unit × Bool) :=
  writeSlot slots slot client created (.certificate after result)

def storeCrl (after : CrlContent) : SlotProg (Expected Unit × Bool) :=
  writeSlot slots slot client created (.crl after result)

def clearCrl (after : CrlContent) : SlotProg (Expected Unit × Bool) :=
  writeSlot slots slot client created (.crl after result)

end Calls

/-! ### Requests -/

inductive SlotLoad where
  | certificate (client : ClientId)
  | certificateForTrustStore
  | hasCrl (client : ClientId)
  | crlMetadata (client : ClientId)
  | crlNextUpdate (client : ClientId)
  | crlData (client : ClientId)
  | crlDataForTrustStore

inductive SlotUpdate where
  | storeCertificate (after : SlotContent)
  | clearSlot (after : SlotContent)
  | storeCrl (after : CrlContent)
  | clearCrl (after : CrlContent)

inductive SlotRequest where
  | load (slot : SlotIndex) (created : Expected Unit) (what : SlotLoad)
  | update (slot : SlotIndex) (created : Expected Unit) (client : ClientId)
      (what : SlotUpdate) (result : Expected Unit)
  | invalidateSlotCaches (slot : SlotIndex)
  | invalidateCrl (slot : SlotIndex)
  | expireCertificate (slot : SlotIndex)
  | expireCrlSnapshot (slot : SlotIndex)

inductive SlotResponse where
  | certificate (loaded : Expected CertObject)
  | presence (loaded : Expected Bool)
  | metadata (loaded : Expected (Option CrlMetadata))
  | nextUpdate (loaded : Expected Int)
  | crl (loaded : Expected (Option CrlData))
  | updated (result : Expected Unit) (contentMayHaveChanged : Bool)
  | done

def SlotLoad.program (slots : CertSlotRegistry) (slot : SlotIndex)
    (created : Expected Unit) : SlotLoad → SlotProg SlotResponse
  | .certificate client => do
    return .certificate (← CertManagement.loadCertificate slots slot client created)
  | .certificateForTrustStore => do
    return .certificate (← CertManagement.loadCertificateForTrustStore slots slot created)
  | .hasCrl client => do
    return .presence (← CertManagement.hasCrl slots slot client created)
  | .crlMetadata client => do
    return .metadata (← CertManagement.getCrlMetadata slots slot client created)
  | .crlNextUpdate client => do
    return .nextUpdate (← CertManagement.getCrlNextUpdate slots slot client created)
  | .crlData client => do
    return .crl (← CertManagement.loadCrlData slots slot client created)
  | .crlDataForTrustStore => do
    return .crl (← CertManagement.loadCrlDataForTrustStore slots slot created)

def SlotUpdate.program (slots : CertSlotRegistry) (slot : SlotIndex)
    (created : Expected Unit) (client : ClientId)
    (result : Expected Unit) :
    SlotUpdate → SlotProg (Expected Unit × Bool)
  | .storeCertificate after => CertManagement.storeCertificate slots slot client created result after
  | .clearSlot after => CertManagement.clearSlot slots slot client created result after
  | .storeCrl after => CertManagement.storeCrl slots slot client created result after
  | .clearCrl after => CertManagement.clearCrl slots slot client created result after

def SlotRequest.program (slots : CertSlotRegistry) : SlotRequest → SlotProg SlotResponse
  | .load slot created what => what.program slots slot created
  | .update slot created client what result => do
    let answer ← what.program slots slot created client result
    return .updated answer.1 answer.2
  | .invalidateSlotCaches slot => do
    SlotProg.perform (.invalidateSlotCaches slot)
    return .done
  | .invalidateCrl slot => do
    SlotProg.perform (.invalidateCrl slot)
    return .done
  | .expireCertificate slot => do
    SlotProg.perform (.expireCertificate slot)
    return .done
  | .expireCrlSnapshot slot => do
    SlotProg.perform (.expireCrlSnapshot slot)
    return .done

end ScoreCrypto.CertManagement
