import ScoreCrypto.Common.Types
import ScoreCrypto.Lib.Run
import ScoreCrypto.Lib.Table

/-!
The ProviderManager: providers are registered under a name and numbered in that order, made usable at
startup, and looked up by number, by name and by type.
-/

namespace ScoreCrypto.Provider

abbrev ProviderName := String

/-- Which object a `shared_ptr<IProvider>` points to. -/
abbrev Instance := Nat

/-- Only what `registerProvider` accepted is stored, so the pointer is never null. -/
structure ProviderEntry where
  name : ProviderName
  numericId : ProviderId
  provider : Instance
  cryptoType : CryptoProviderType
  deriving DecidableEq, Repr

inductive ProviderFailureReason where
  | factoryCreationFailed
  | providerUnavailable
  | providerRegistrationFailed
  | providerInitializationFailed
  | requiredProviderUnavailable
  | defaultProviderUnavailable
  deriving DecidableEq, Repr

structure ProviderFailure where
  factoryName : String
  providerName : ProviderName
  reason : ProviderFailureReason
  error : DaemonErrorCode
  deriving DecidableEq, Repr

abbrev TypeToProviderName := Finmap fun _ : CryptoProviderType => ProviderName

abbrev Named := Sigma fun _ : ProviderName => ProviderEntry
abbrev Override := Sigma fun _ : CryptoProviderType => ProviderName

/-- The manager, together with which of the provider objects answer `IsInitialized()`. -/
structure ProviderManager where
  providers : Finmap fun _ : ProviderName => ProviderEntry
  providerById : List Instance
  nameById : List ProviderName
  typeToProviderId : CryptoProviderType → Option ProviderId
  typeToProviderName : TypeToProviderName
  initializationFailures : List ProviderFailure
  hasFatalInitializationFailure : Bool
  initialized : Instance → Bool

namespace ProviderManager

/-! ### Registration -/

def construct (config : TypeToProviderName) (initialized : Instance → Bool) : ProviderManager where
  providers := ∅
  providerById := []
  nameById := []
  typeToProviderId := fun _ => none
  typeToProviderName := config
  initializationFailures := []
  hasFatalInitializationFailure := false
  initialized := initialized

/-- `if (map.find(type) == map.end()) map[type] = value`. -/
def emplace {V : Type} (map : CryptoProviderType → Option V) (type : CryptoProviderType) (value : V) :
    CryptoProviderType → Option V :=
  if (map type).isNone then Function.update map type (some value) else map

variable (manager : ProviderManager)

def registerProvider (name : ProviderName) (provider : Option Instance)
    (cryptoType : CryptoProviderType) : Bool × ProviderManager :=
  if name ∈ manager.providers then (false, manager)
  else
    match provider with
    | none => (false, manager)
    | some provider =>
      let numericId := manager.providerById.length % 2 ^ 16
      (true,
        { manager with
          providerById := manager.providerById ++ [provider]
          nameById := manager.nameById ++ [name]
          providers := manager.providers.insert name ⟨name, numericId, provider, cryptoType⟩
          typeToProviderId := emplace manager.typeToProviderId cryptoType numericId })

def recordFailure (factoryName : String) (failure : ProviderFailure) : ProviderManager :=
  { manager with
    initializationFailures := manager.initializationFailures ++
      [{ failure with
          factoryName := if failure.factoryName = "" then factoryName else failure.factoryName }]
    hasFatalInitializationFailure := manager.hasFatalInitializationFailure ||
      failure.reason == .requiredProviderUnavailable || failure.reason == .defaultProviderUnavailable }

def recordFactoryResult (factoryName : String) (failures : List ProviderFailure) : ProviderManager :=
  failures.foldl (fun manager failure => manager.recordFailure factoryName failure) manager

/-! ### Startup -/

variable (starts : Instance → Bool)

/-- `starts` answers the providers' `Initialize`. -/
def ensureProviderInitialized (entry : ProviderEntry) : Bool × ProviderManager :=
  if manager.initialized entry.provider then (true, manager)
  else if starts entry.provider then
    (true, { manager with initialized := Function.update manager.initialized entry.provider true })
  else
    let recorded := manager.initializationFailures.any fun failure =>
      failure.providerName == entry.name && failure.reason == .providerInitializationFailed
    (false,
      if recorded then manager
      else
        { manager with
          initializationFailures := manager.initializationFailures ++
            [⟨"", entry.name, .providerInitializationFailed, .providerNotAvailable⟩] })

def initializeAll (entries : List Named) : Bool × ProviderManager :=
  entries.foldl
    (fun (anyOk, manager) entry =>
      let (ok, manager) := manager.ensureProviderInitialized starts entry.2
      (anyOk || ok, manager))
    (false, manager)

/-- `m_providers.at(m_name_by_id[id])` for one id after the other. -/
def registered : List ProviderEntry :=
  manager.nameById.filterMap manager.providers.lookup

structure Candidates where
  initializedByType : CryptoProviderType → Option ProviderName
  registeredByType : CryptoProviderType → Option ProviderName
  initializedFallback : ProviderName
  registeredFallback : ProviderName

def Candidates.none : Candidates := ⟨fun _ => Option.none, fun _ => Option.none, "", ""⟩

def Candidates.collect (initialized : Instance → Bool) (found : Candidates) (entry : ProviderEntry) :
    Candidates :=
  let found :=
    { found with
      registeredByType := emplace found.registeredByType entry.cryptoType entry.name
      registeredFallback := if found.registeredFallback = "" then entry.name else found.registeredFallback }
  if initialized entry.provider then
    { found with
      initializedByType := emplace found.initializedByType entry.cryptoType entry.name
      initializedFallback :=
        if found.initializedFallback = "" then entry.name else found.initializedFallback }
  else found

def Candidates.choose (found : Candidates) (preferenceOrder : List CryptoProviderType) : ProviderName :=
  match preferenceOrder.findSome? found.initializedByType with
  | some name => name
  | Option.none =>
    if found.initializedFallback ≠ "" then found.initializedFallback
    else
      match preferenceOrder.findSome? found.registeredByType with
      | some name => name
      | Option.none => found.registeredFallback

/-- The loop counts in a `uint16_t`, which never reaches a size of 2^16 or more: then it does not end. -/
def resolveDefaultProviderName (preferenceOrder : List CryptoProviderType) : Option ProviderName :=
  if manager.providerById.length < 2 ^ 16 then
    some ((manager.registered.foldl (Candidates.collect manager.initialized) .none).choose preferenceOrder)
  else none

def activeConfig : Option TypeToProviderName :=
  if CryptoProviderType.default ∈ manager.typeToProviderName then some manager.typeToProviderName
  else
    (manager.resolveDefaultProviderName [.hardware, .software]).map fun defaultName =>
      if defaultName = "" then manager.typeToProviderName
      else manager.typeToProviderName.insert .default defaultName

def declaredTypes (entries : List Named) :
    CryptoProviderType → Option ProviderId :=
  entries.foldl (fun map entry => emplace map entry.2.cryptoType entry.2.numericId) fun _ => none

def applyOverride (manager : ProviderManager) (type : CryptoProviderType) (name : ProviderName) :
    Bool × ProviderManager :=
  match manager.providers.lookup name with
  | none =>
    (false,
      { manager with
        initializationFailures := manager.initializationFailures ++
          [⟨"", name, .defaultProviderUnavailable, .providerNotAvailable⟩] })
  | some entry =>
    (true,
      { manager with
        typeToProviderId := Function.update manager.typeToProviderId type (some entry.numericId) })

def buildTypeMappings (entries : List Named)
    (overrides : List Override) : Bool × ProviderManager :=
  overrides.foldl
    (fun (mappingsOk, manager) override =>
      let (ok, manager) := manager.applyOverride override.1 override.2
      (mappingsOk && ok, manager))
    (true, { manager with typeToProviderId := declaredTypes entries })

/-- `order` and `visit` are the orders in which the hash maps are iterated. -/
def initializeManager (order : Iteration manager.providers)
    (visit : ∀ config : TypeToProviderName, Iteration config) : Option (Bool × ProviderManager) :=
  let manager := (manager.initializeAll starts order.entries).2
  manager.activeConfig.map fun config =>
    let (mappingsOk, manager) := manager.buildTypeMappings order.entries (visit config).entries
    (mappingsOk && !order.entries.isEmpty && !manager.hasFatalInitializationFailure, manager)

/-! ### Lookups -/

def handOut (entry : ProviderEntry) (provider : Option Instance) :
    Option Instance × ProviderManager :=
  let (ok, manager) := manager.ensureProviderInitialized starts entry
  (if ok then provider else none, manager)

/-- `m_providers.at(m_name_by_id[id])`, and nothing for an id past the end. -/
def entryAt (id : ProviderId) : Option ProviderEntry :=
  manager.nameById[id]?.bind manager.providers.lookup

def getProviderById (id : ProviderId) : Option Instance × ProviderManager :=
  match manager.entryAt id with
  | none => (none, manager)
  | some entry => manager.handOut starts entry manager.providerById[id]?

def getProviderByName (name : ProviderName) : Option Instance × ProviderManager :=
  match manager.providers.lookup name with
  | none => (none, manager)
  | some entry => manager.handOut starts entry entry.provider

def getProviderByType (type : CryptoProviderType) : Option Instance × ProviderManager :=
  match manager.typeToProviderId type with
  | none => (none, manager)
  | some id =>
    match manager.entryAt id with
    | none => (none, manager)
    | some entry => manager.handOut starts entry entry.provider

/-! ### The registry -/

/-- The containers of the manager describe one list of providers. -/
structure Lists (manager : ProviderManager) (registered : List ProviderEntry) : Prop where
  names : manager.nameById = registered.map (·.name)
  instances : manager.providerById = registered.map (·.provider)
  distinct : (registered.map (·.name)).Nodup
  found : ∀ name entry,
    manager.providers.lookup name = some entry ↔ entry ∈ registered ∧ entry.name = name
  numbered : ∀ i entry, registered[i]? = some entry → entry.numericId = i % 2 ^ 16

theorem lists_construct (config : TypeToProviderName) (initialized : Instance → Bool) :
    (construct config initialized).Lists [] where
  names := rfl
  instances := rfl
  distinct := List.nodup_nil
  found := by simp [construct]
  numbered := by simp

section Registry

variable {manager} {registered : List ProviderEntry} (lists : manager.Lists registered)
include lists

theorem Lists.self {entry : ProviderEntry} (member : entry ∈ registered) :
    manager.providers.lookup entry.name = some entry :=
  (lists.found _ _).mpr ⟨member, rfl⟩

theorem Lists.mem_of_lookup {name : ProviderName} {entry : ProviderEntry}
    (found : manager.providers.lookup name = some entry) : entry ∈ registered :=
  ((lists.found _ _).mp found).1

theorem Lists.registered_eq : manager.registered = registered := by
  rw [ProviderManager.registered, lists.names, List.filterMap_map]
  calc registered.filterMap (manager.providers.lookup ∘ (·.name))
      = registered.filterMap some := List.filterMap_congr fun _ member => lists.self member
    _ = registered := List.filterMap_some

theorem Lists.length_eq : manager.providerById.length = registered.length := by
  rw [lists.instances, List.length_map]

theorem Lists.entryAt_eq (id : ProviderId) : manager.entryAt id = registered[id]? := by
  rw [entryAt, lists.names, List.getElem?_map]
  cases at_id : registered[id]? with
  | none => rfl
  | some entry => exact lists.self (List.mem_of_getElem? at_id)

theorem Lists.congr {other : ProviderManager} (providers : other.providers = manager.providers)
    (instances : other.providerById = manager.providerById)
    (names : other.nameById = manager.nameById) : other.Lists registered where
  names := names.trans lists.names
  instances := instances.trans lists.instances
  distinct := lists.distinct
  found := by rw [providers]; exact lists.found
  numbered := lists.numbered

theorem Lists.register {name : ProviderName} (fresh : name ∉ manager.providers) (provider : Instance)
    (cryptoType : CryptoProviderType) :
    (manager.registerProvider name (some provider) cryptoType).2.Lists
      (registered ++ [⟨name, registered.length % 2 ^ 16, provider, cryptoType⟩]) := by
  have unused : ∀ entry ∈ registered, entry.name ≠ name := by
    intro entry member same
    refine fresh (Finmap.mem_of_lookup_eq_some (b := entry) ?_)
    exact (lists.found _ _).mpr ⟨member, same⟩
  rw [registerProvider, if_neg fresh]
  refine ⟨?_, ?_, ?_, ?_, ?_⟩
  · simp [lists.names]
  · simp [lists.instances]
  · rw [List.map_append, List.nodup_append]
    refine ⟨lists.distinct, by simp, ?_⟩
    intro a used b added
    obtain ⟨entry, member, rfl⟩ := List.mem_map.mp used
    simp only [List.map_cons, List.map_nil, List.mem_singleton] at added
    rw [added]
    exact unused entry member
  · intro other entry
    show (manager.providers.insert name _).lookup other = some entry ↔ _
    rw [lists.length_eq]
    by_cases same : other = name
    · subst same
      rw [Finmap.lookup_insert, Option.some.injEq, List.mem_append, List.mem_singleton]
      constructor
      · rintro rfl
        exact ⟨.inr rfl, rfl⟩
      · rintro ⟨old | new, named⟩
        · exact absurd named (unused entry old)
        · exact new.symm
    · rw [Finmap.lookup_insert_of_ne _ same, lists.found, List.mem_append, List.mem_singleton]
      constructor
      · exact fun old => ⟨.inl old.1, old.2⟩
      · rintro ⟨old | rfl, named⟩
        · exact ⟨old, named⟩
        · exact absurd named.symm same
  · intro i entry at_i
    rcases Nat.lt_or_ge i registered.length with old | new
    · exact lists.numbered i entry (by rwa [List.getElem?_append_left old] at at_i)
    · rw [List.getElem?_append_right new, List.getElem?_singleton] at at_i
      split at at_i
      · have last : i = registered.length := by omega
        rw [← Option.some.inj at_i, last]
      · exact absurd at_i (by simp)

end Registry

/-- A call that a factory makes on the manager before `Initialize`. -/
inductive StartupCall where
  | register (name : ProviderName) (provider : Option Instance) (cryptoType : CryptoProviderType)
  | record (factoryName : String) (failures : List ProviderFailure)

def startup (manager : ProviderManager) : StartupCall → ProviderManager
  | .register name provider cryptoType => (manager.registerProvider name provider cryptoType).2
  | .record factoryName failures => manager.recordFactoryResult factoryName failures

theorem recordFactoryResult_frame (factoryName : String) (failures : List ProviderFailure) :
    ∃ recorded fatal, manager.recordFactoryResult factoryName failures =
      { manager with initializationFailures := recorded, hasFatalInitializationFailure := fatal } := by
  induction failures generalizing manager with
  | nil => exact ⟨_, _, rfl⟩
  | cons failure failures ih =>
    obtain ⟨recorded, fatal, rest⟩ := ih (manager.recordFailure factoryName failure)
    exact ⟨recorded, fatal, rest⟩

theorem lists_startup (call : StartupCall) (registered : List ProviderEntry)
    (lists : manager.Lists registered) : ∃ registered, (manager.startup call).Lists registered := by
  cases call with
  | record factoryName failures =>
    obtain ⟨recorded, fatal, frame⟩ := recordFactoryResult_frame manager factoryName failures
    exact ⟨registered, lists.congr (by rw [startup, frame]) (by rw [startup, frame])
      (by rw [startup, frame])⟩
  | register name provider cryptoType =>
    by_cases taken : name ∈ manager.providers
    · exact ⟨registered, by simpa [startup, registerProvider, taken] using lists⟩
    · cases provider with
      | none => exact ⟨registered, by simpa [startup, registerProvider, taken] using lists⟩
      | some provider => exact ⟨_, lists.register taken provider cryptoType⟩

theorem lists_run (config : TypeToProviderName) (initialized : Instance → Bool)
    (calls : List StartupCall) :
    ∃ registered, (Run.run startup (construct config initialized) calls).Lists registered :=
  Run.run_invariant (fun manager => ∃ registered, manager.Lists registered)
    (fun manager call ⟨registered, lists⟩ => lists_startup manager call registered lists) _ calls
    ⟨[], lists_construct config initialized⟩

end ProviderManager

end ScoreCrypto.Provider
