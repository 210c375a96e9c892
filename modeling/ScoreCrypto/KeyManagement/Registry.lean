import ScoreCrypto.KeyManagement.Slots
import Mathlib.Data.List.AList
import Mathlib.Tactic

/-!
Key entries with their reference counts, and the registry of one provider's live keys. An
`EntryRef` stands for a `KeyEntry` object, a reference in a registry or a node for a `shared_ptr`
to it.
-/

namespace ScoreCrypto.KeyManagement

abbrev EntryRef := Nat
abbrev KeyRegistryId := UInt64

structure KeyEntry where
  handle : ProviderKeyHandle
  providerId : ProviderId
  slotHandle : SlotHandle
  refCount : UInt32 := 0
  referencingClients : List ClientId := []
  deriving DecidableEq, Repr

namespace KeyEntry

def addRef (entry : KeyEntry) (clientId : ClientId) : KeyEntry :=
  { entry with
    refCount := entry.refCount + 1
    referencingClients := entry.referencingClients ++ [clientId] }

def release (entry : KeyEntry) (clientId : ClientId) : Bool × KeyEntry :=
  (entry.refCount == 1,
    { entry with
      refCount := entry.refCount - 1
      referencingClients := entry.referencingClients.filter (· ≠ clientId) })

end KeyEntry

structure KeyRegistry where
  keys : AList fun _ : KeyRegistryId => EntryRef := ∅
  slotToId : AList fun _ : Nat => KeyRegistryId := ∅
  nextId : KeyRegistryId := 1

namespace KeyRegistry

def emplace (registry : KeyRegistry) (id : KeyRegistryId) (key : EntryRef) : KeyRegistry :=
  { registry with keys := if id ∈ registry.keys then registry.keys else registry.keys.insert id key }

def registerSlotKey (registry : KeyRegistry) (slot : SlotHandle) (key : EntryRef) :
    KeyRegistryId × KeyRegistry :=
  if slot.index ∈ registry.slotToId then (0, registry)
  else
    let id := registry.nextId
    (id, { registry.emplace id key with
      slotToId := registry.slotToId.insert slot.index id
      nextId := registry.nextId + 1 })

def registerEphemeralKey (registry : KeyRegistry) (key : EntryRef) : KeyRegistryId × KeyRegistry :=
  let id := registry.nextId
  (id, { registry.emplace id key with nextId := registry.nextId + 1 })

def findSlotRegistryId (registry : KeyRegistry) (slot : SlotHandle) : KeyRegistryId :=
  (registry.slotToId.lookup slot.index).getD 0

def findById (registry : KeyRegistry) (id : KeyRegistryId) : Option EntryRef :=
  registry.keys.lookup id

def findBySlot (registry : KeyRegistry) (slot : SlotHandle) : Option EntryRef :=
  (registry.slotToId.lookup slot.index).bind registry.findById

def eraseSlotMapping (registry : KeyRegistry) (id : KeyRegistryId) :
    AList fun _ : Nat => KeyRegistryId :=
  match registry.slotToId.entries.find? fun mapping => mapping.2 = id with
  | some mapping => registry.slotToId.erase mapping.1
  | none => registry.slotToId

def eraseKey (registry : KeyRegistry) (id : KeyRegistryId) : KeyRegistry :=
  { registry with slotToId := registry.eraseSlotMapping id, keys := registry.keys.erase id }

def unregister (registry : KeyRegistry) (id : KeyRegistryId) : Bool × KeyRegistry :=
  if id ∈ registry.keys then (true, registry.eraseKey id) else (false, registry)

def releaseAll (clientId : ClientId) :
    List (Sigma fun _ : KeyRegistryId => EntryRef) → (EntryRef → Option KeyEntry) →
      List KeyRegistryId × (EntryRef → Option KeyEntry)
  | [], entries => ([], entries)
  | key :: keys, entries =>
    match entries key.2 with
    | none => releaseAll clientId keys entries
    | some entry =>
      let (last, entry) := entry.release clientId
      let (toRemove, entries) :=
        releaseAll clientId keys (Function.update entries key.2 (some entry))
      (if last then key.1 :: toRemove else toRemove, entries)

def cleanupClient (registry : KeyRegistry) (entries : EntryRef → Option KeyEntry)
    (clientId : ClientId) : (EntryRef → Option KeyEntry) × KeyRegistry :=
  let (toRemove, entries) := releaseAll clientId registry.keys.entries entries
  (entries, toRemove.foldl eraseKey registry)

/-! ### What a registry looks like after each operation -/

variable {registry registry' : KeyRegistry}

theorem mem_slotToId_iff (slot : Nat) :
    slot ∈ registry.slotToId ↔ ∃ id, registry.slotToId.lookup slot = some id := by
  rw [← AList.lookup_isSome, Option.isSome_iff_exists]

theorem mem_keys_iff (id : KeyRegistryId) :
    id ∈ registry.keys ↔ ∃ key, registry.keys.lookup id = some key := by
  rw [← AList.lookup_isSome, Option.isSome_iff_exists]

/-- The counter wraps, so that the next id may be one that another key has: that key stays. -/
structure Added (registry registry' : KeyRegistry) (slot : Option Nat) (key : EntryRef) : Prop where
  keys : ∀ id, registry'.keys.lookup id =
    if id = registry.nextId ∧ registry.nextId ∉ registry.keys then some key
    else registry.keys.lookup id
  slots : ∀ index, registry'.slotToId.lookup index =
    if slot = some index then some registry.nextId else registry.slotToId.lookup index

/-- One slot at most loses its id, and none if it has another. -/
structure Erased (registry registry' : KeyRegistry) (id : KeyRegistryId) : Prop where
  keys : ∀ id', registry'.keys.lookup id' = if id' = id then none else registry.keys.lookup id'
  slots : ∀ index id', id' ≠ id →
    (registry'.slotToId.lookup index = some id' ↔ registry.slotToId.lookup index = some id')

theorem lookup_emplace (id : KeyRegistryId) (key : EntryRef) :
    (registry.emplace registry.nextId key).keys.lookup id =
      if id = registry.nextId ∧ registry.nextId ∉ registry.keys then some key
      else registry.keys.lookup id := by
  unfold emplace
  by_cases taken : registry.nextId ∈ registry.keys
  · rw [if_pos taken, if_neg (fun new => new.2 taken)]
  · rw [if_neg taken]
    by_cases same : id = registry.nextId
    · subst same
      simp [taken]
    · simp [same, AList.lookup_insert_ne]

theorem registerSlotKey_cases (registry : KeyRegistry) (slot : SlotHandle) (key : EntryRef) :
    ((∃ id, registry.slotToId.lookup slot.index = some id) ∧
        registry.registerSlotKey slot key = (0, registry)) ∨
      (registry.slotToId.lookup slot.index = none ∧
        ∃ registry', registry.registerSlotKey slot key = (registry.nextId, registry') ∧
          Added registry registry' (some slot.index) key) := by
  unfold registerSlotKey
  by_cases taken : slot.index ∈ registry.slotToId
  · exact Or.inl ⟨(mem_slotToId_iff _).mp taken, if_pos taken⟩
  · refine Or.inr ⟨AList.lookup_eq_none.mpr taken, _, if_neg taken, ?_⟩
    refine ⟨fun id => lookup_emplace id key, ?_⟩
    intro index
    by_cases same : slot.index = index
    · subst same
      simp
    · simp [same, AList.lookup_insert_ne (Ne.symm same)]

theorem registerEphemeralKey_added (registry : KeyRegistry) (key : EntryRef) :
    ∃ registry', registry.registerEphemeralKey key = (registry.nextId, registry') ∧
      Added registry registry' none key :=
  ⟨_, rfl, fun id => lookup_emplace id key, by simp [emplace]⟩

theorem eraseSlotMapping_cases (registry : KeyRegistry) (id : KeyRegistryId) :
    (registry.eraseSlotMapping id = registry.slotToId ∧
        ∀ slot, registry.slotToId.lookup slot ≠ some id) ∨
      ∃ slot, registry.slotToId.lookup slot = some id ∧
        registry.eraseSlotMapping id = registry.slotToId.erase slot := by
  unfold eraseSlotMapping
  cases search : registry.slotToId.entries.find? fun mapping => mapping.2 = id with
  | none =>
    refine .inl ⟨rfl, fun slot mapped => ?_⟩
    simpa using List.find?_eq_none.mp search _ (AList.mem_lookup_iff.mp mapped)
  | some mapping =>
    have target : mapping.2 = id := by simpa using List.find?_some search
    refine .inr ⟨mapping.1, ?_, rfl⟩
    rw [← target]
    exact AList.mem_lookup_iff.mpr (List.mem_of_find?_eq_some search)

theorem eraseKey_erased (id : KeyRegistryId) : Erased registry (registry.eraseKey id) id where
  keys := by
    intro id'
    by_cases same : id' = id
    · subst same
      simp [eraseKey]
    · simp [eraseKey, same, AList.lookup_erase_ne]
  slots := by
    intro index id' other
    change (registry.eraseSlotMapping id).lookup index = some id' ↔ _
    rcases eraseSlotMapping_cases registry id with ⟨same, -⟩ | ⟨slot, mapped, erased⟩
    · rw [same]
    · rw [erased]
      by_cases same : index = slot
      · subst same
        simp [mapped, Ne.symm other]
      · rw [AList.lookup_erase_ne same]

/-! ### Registries without a reused id -/

/-- Ids and slots lead to keys one to one, and 0 is the id of none. -/
structure WellFormed (registry : KeyRegistry) : Prop where
  nonzero : 0 ∉ registry.keys
  slot_key : ∀ slot id, registry.slotToId.lookup slot = some id → id ∈ registry.keys
  slot_inj : ∀ slot slot' id, registry.slotToId.lookup slot = some id →
    registry.slotToId.lookup slot' = some id → slot = slot'

theorem wellFormed_empty : WellFormed {} where
  nonzero := by simp
  slot_key := by simp
  slot_inj := by simp

def NextIdFree (registry : KeyRegistry) : Prop :=
  registry.nextId ≠ 0 ∧ registry.nextId ∉ registry.keys

instance (registry : KeyRegistry) : Decidable registry.NextIdFree := by
  unfold NextIdFree
  infer_instance

section Added

variable {slot : Option Nat} {key : EntryRef}

theorem Added.lookup_keys (added : Added registry registry' slot key) (free : registry.NextIdFree)
    (id : KeyRegistryId) :
    registry'.keys.lookup id = if id = registry.nextId then some key else registry.keys.lookup id := by
  rw [added.keys]
  simp only [free.2, not_false_eq_true, and_true]

theorem Added.wellFormed (added : Added registry registry' slot key) (free : registry.NextIdFree)
    (wf : registry.WellFormed) : registry'.WellFormed where
  nonzero := by
    rw [mem_keys_iff, added.lookup_keys free, if_neg free.1.symm, ← mem_keys_iff]
    exact wf.nonzero
  slot_key := by
    intro index id here
    rw [added.slots] at here
    rw [mem_keys_iff, added.lookup_keys free]
    split at here
    · cases here
      exact ⟨key, if_pos rfl⟩
    · rcases (mem_keys_iff id).mp (wf.slot_key index id here) with ⟨found, there⟩
      by_cases same : id = registry.nextId
      · exact ⟨key, if_pos same⟩
      · exact ⟨found, by rw [if_neg same, there]⟩
  slot_inj := by
    intro index index' id here here'
    have unmapped : ∀ index, registry.slotToId.lookup index ≠ some registry.nextId :=
      fun index mapped => free.2 (wf.slot_key index _ mapped)
    rw [added.slots] at here here'
    split at here
    · rename_i new
      split at here'
      · rename_i new'
        exact Option.some.inj (new.symm.trans new')
      · cases here
        exact absurd here' (unmapped index')
    · split at here'
      · cases here'
        exact absurd here (unmapped index)
      · exact wf.slot_inj index index' id here here'

end Added

theorem WellFormed.eraseKey (wf : registry.WellFormed) (id : KeyRegistryId) :
    (registry.eraseKey id).WellFormed := by
  have erased : Erased registry (registry.eraseKey id) id := eraseKey_erased id
  have unmapped : ∀ slot, (registry.eraseKey id).slotToId.lookup slot ≠ some id := by
    intro slot mapped
    change (registry.eraseSlotMapping id).lookup slot = some id at mapped
    rcases eraseSlotMapping_cases registry id with ⟨same, none⟩ | ⟨slot', its, gone⟩
    · exact none slot (same ▸ mapped)
    · rw [gone] at mapped
      by_cases other : slot = slot'
      · subst other
        rw [AList.lookup_erase] at mapped
        cases mapped
      · rw [AList.lookup_erase_ne other] at mapped
        exact other (wf.slot_inj slot slot' id mapped its)
  have before : ∀ slot id', (registry.eraseKey id).slotToId.lookup slot = some id' →
      id' ≠ id ∧ registry.slotToId.lookup slot = some id' := by
    intro slot id' here
    have other : id' ≠ id := fun same => unmapped slot (same ▸ here)
    exact ⟨other, (erased.slots slot id' other).mp here⟩
  refine ⟨?_, fun slot id' here => ?_, fun slot slot' id' here here' => ?_⟩
  · rw [mem_keys_iff, erased.keys]
    rintro ⟨key, found⟩
    split at found
    · cases found
    · exact wf.nonzero ((mem_keys_iff 0).mpr ⟨key, found⟩)
  · rcases before slot id' here with ⟨other, mapped⟩
    rw [mem_keys_iff, erased.keys, if_neg other]
    exact (mem_keys_iff id').mp (wf.slot_key slot id' mapped)
  · exact wf.slot_inj slot slot' id' (before slot id' here).2 (before slot' id' here').2

theorem unregister_cases (registry : KeyRegistry) (id : KeyRegistryId) :
    (registry.keys.lookup id = none ∧ registry.unregister id = (false, registry)) ∨
      ((∃ key, registry.keys.lookup id = some key) ∧
        ∃ registry', registry.unregister id = (true, registry') ∧ Erased registry registry' id ∧
          (registry.WellFormed → registry'.WellFormed)) := by
  unfold unregister
  by_cases known : id ∈ registry.keys
  · exact Or.inr ⟨(mem_keys_iff id).mp known, _, if_pos known, eraseKey_erased id,
      fun wf => wf.eraseKey id⟩
  · exact Or.inl ⟨AList.lookup_eq_none.mpr known, if_neg known⟩

end KeyRegistry

end ScoreCrypto.KeyManagement
