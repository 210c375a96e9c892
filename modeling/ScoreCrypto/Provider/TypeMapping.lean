import ScoreCrypto.Provider.ProviderManager

/-!
Which provider a type leads to after startup, and when that does not depend on the order in which the
hash maps are iterated.
-/

namespace ScoreCrypto.Provider

namespace ProviderManager

variable (manager : ProviderManager)

/-! ### What startup leaves behind -/

theorem ensureProviderInitialized_eq (starts : Instance → Bool) (entry : ProviderEntry) :
    ∃ failures, manager.ensureProviderInitialized starts entry =
      (manager.initialized entry.provider || starts entry.provider,
        { manager with
          initialized := fun i => manager.initialized i || (starts i && decide (entry.provider = i))
          initializationFailures := failures }) := by
  unfold ensureProviderInitialized
  have settled (known : manager.initialized entry.provider = true ∨ starts entry.provider = false) :
      (fun i => manager.initialized i || (starts i && decide (entry.provider = i))) =
        manager.initialized := by
    funext i
    rcases eq_or_ne entry.provider i with rfl | differ
    · rcases known with known | known <;> simp [known]
    · simp [differ]
  by_cases ready : manager.initialized entry.provider
  · exact ⟨manager.initializationFailures, by simp [ready, settled (.inl ready)]⟩
  · by_cases comesUp : starts entry.provider
    · refine ⟨manager.initializationFailures, ?_⟩
      have started : Function.update manager.initialized entry.provider true =
          fun i => manager.initialized i || (starts i && decide (entry.provider = i)) := by
        funext i
        rcases eq_or_ne i entry.provider with rfl | differ
        · simp [comesUp]
        · simp [differ, differ.symm]
      simp [ready, comesUp, started]
    · simp only [ready, comesUp, settled (.inr (Bool.not_eq_true _ ▸ comesUp))]
      rw [if_neg (by simp), if_neg (by simp)]
      split <;> exact ⟨_, rfl⟩

theorem initializeAll_eq (starts : Instance → Bool) (entries : List Named) :
    ∃ failures, (manager.initializeAll starts entries).2 =
      { manager with
        initialized := fun i =>
          manager.initialized i || (starts i && entries.any fun entry => entry.2.provider == i)
        initializationFailures := failures } := by
  unfold initializeAll
  generalize false = anyOk
  induction entries generalizing manager anyOk with
  | nil => exact ⟨manager.initializationFailures, by simp⟩
  | cons entry entries ih =>
    obtain ⟨failures, first⟩ := ensureProviderInitialized_eq manager starts entry.2
    simp only [List.foldl_cons, first]
    obtain ⟨failures', rest⟩ := ih _ _
    refine ⟨failures', rest.trans ?_⟩
    simp only [List.any_cons, Bool.beq_eq_decide_eq, Bool.and_or_distrib_left, Bool.or_assoc]

theorem foldl_emplace {A V : Type} (type : A → CryptoProviderType) (value : A → V) (items : List A)
    (start : CryptoProviderType → Option V) (t : CryptoProviderType) :
    items.foldl (fun map item => emplace map (type item) (value item)) start t =
      (start t).or ((items.find? fun item => type item = t).map value) := by
  induction items generalizing start with
  | nil => simp
  | cons item items ih =>
    rw [List.foldl_cons, ih, List.find?_cons]
    by_cases same : type item = t
    · subst same
      cases held : start (type item) <;> simp [emplace, held]
    · have apart : emplace start (type item) (value item) t = start t := by
        unfold emplace
        split
        · exact Function.update_of_ne (Ne.symm same) _ _
        · rfl
      simp [apart, same]

theorem foldl_fallback (entries : List ProviderEntry) (start : ProviderName) :
    entries.foldl (fun name entry => if name = "" then entry.name else name) start =
      if start = "" then ((entries.find? fun entry => entry.name ≠ "").map (·.name)).getD "" else start := by
  induction entries generalizing start with
  | nil => by_cases blank : start = "" <;> simp [blank]
  | cons entry entries ih =>
    rw [List.foldl_cons, ih, List.find?_cons]
    by_cases blank : start = ""
    · by_cases named : entry.name = "" <;> simp [blank, named]
    · simp [blank]

variable (initialized : Instance → Bool)

theorem foldl_collect (entries : List ProviderEntry) (found : Candidates) :
    entries.foldl (Candidates.collect initialized) found =
      let ready := entries.filter fun entry => initialized entry.provider
      ⟨ready.foldl (fun map entry => emplace map entry.cryptoType entry.name) found.initializedByType,
        entries.foldl (fun map entry => emplace map entry.cryptoType entry.name) found.registeredByType,
        ready.foldl (fun name entry => if name = "" then entry.name else name) found.initializedFallback,
        entries.foldl (fun name entry => if name = "" then entry.name else name)
          found.registeredFallback⟩ := by
  induction entries generalizing found with
  | nil => rfl
  | cons entry entries ih =>
    rw [List.foldl_cons, ih]
    by_cases ready : initialized entry.provider <;> simp [Candidates.collect, ready]

theorem declaredTypes_eq (entries : List Named) (t : CryptoProviderType) :
    declaredTypes entries t =
      (entries.find? fun entry => entry.2.cryptoType = t).map fun entry => entry.2.numericId := by
  rw [declaredTypes, foldl_emplace (fun entry : Named => entry.2.cryptoType)
    (fun entry : Named => entry.2.numericId), Option.none_or]

variable (type : CryptoProviderType)

theorem applyOverride_eq (name : ProviderName) :
    ∃ failures, (manager.applyOverride type name).2 =
      { manager with
        typeToProviderId := Function.update manager.typeToProviderId type
          (((manager.providers.lookup name).map (·.numericId)).or (manager.typeToProviderId type))
        initializationFailures := failures } := by
  unfold applyOverride
  cases manager.providers.lookup name with
  | none => exact ⟨_, by simp; rfl⟩
  | some entry => exact ⟨_, rfl⟩

theorem foldl_applyOverride {overrides : List Override} (unique : overrides.NodupKeys) (ok : Bool) :
    ∃ failures, (overrides.foldl
        (fun (mapped : Bool × ProviderManager) override =>
          (mapped.1 && (mapped.2.applyOverride override.1 override.2).1,
            (mapped.2.applyOverride override.1 override.2).2)) (ok, manager)).2 =
      { manager with
        typeToProviderId := fun t =>
          (((overrides.dlookup t).bind manager.providers.lookup).map (·.numericId)).or
            (manager.typeToProviderId t)
        initializationFailures := failures } := by
  induction overrides generalizing manager ok with
  | nil => exact ⟨_, by simp; rfl⟩
  | cons override overrides ih =>
    obtain ⟨absent, unique⟩ := List.nodupKeys_cons.mp unique
    obtain ⟨failures, first⟩ := applyOverride_eq manager override.1 override.2
    simp only [List.foldl_cons, first]
    obtain ⟨failures', rest⟩ := ih _ unique _
    refine ⟨failures', rest.trans ?_⟩
    congr 1
    funext t
    rcases eq_or_ne t override.1 with rfl | differ
    · rw [List.dlookup_cons_eq]
      simp [List.dlookup_eq_none.mpr absent]
    · simp [differ, List.dlookup_cons_ne _ _ differ]

/-! ### The intended provider of a type -/

def override : Option ProviderEntry :=
  (manager.typeToProviderName.lookup type).bind manager.providers.lookup

def declared : List ProviderEntry :=
  manager.registered.filter fun entry => entry.cryptoType = type

/-- The configured override for the type if there is one, otherwise the earliest registered provider
of that type. -/
def intended : Option ProviderEntry :=
  (manager.override type).or (manager.declared type).head?

def leading (entries : List ProviderEntry) : Option ProviderEntry :=
  ((entries.find? fun entry => entry.cryptoType = .hardware).or
    (entries.find? fun entry => entry.cryptoType = .software)).or
    (entries.find? fun entry => entry.name ≠ "")

def favourite : Option ProviderEntry :=
  ((leading (manager.registered.filter fun entry => initialized entry.provider)).or
    (leading manager.registered)).filter fun entry => entry.name ≠ ""

def standIn : Option ProviderEntry :=
  if type = .default ∧ CryptoProviderType.default ∉ manager.typeToProviderName then
    manager.favourite initialized
  else none

theorem choose_collect (entries : List ProviderEntry) :
    (entries.foldl (Candidates.collect initialized) .none).choose [.hardware, .software] =
      ((((leading (entries.filter fun entry => initialized entry.provider)).or
        (leading entries)).filter fun entry => entry.name ≠ "").map (·.name)).getD "" := by
  have first : ∀ entries : List ProviderEntry,
      [CryptoProviderType.hardware, .software].findSome?
        (entries.foldl (fun map entry => emplace map entry.cryptoType entry.name) fun _ => none) =
      ((entries.find? fun entry => entry.cryptoType = .hardware).or
        (entries.find? fun entry => entry.cryptoType = .software)).map (·.name) := by
    intro entries
    have at_type := foldl_emplace (·.cryptoType) (·.name) entries fun _ => none
    rw [List.findSome?_cons, List.findSome?_cons, List.findSome?_nil, at_type, at_type]
    cases entries.find? fun entry => entry.cryptoType = .hardware <;>
      cases entries.find? fun entry => entry.cryptoType = .software <;> rfl
  have named : ∀ (entries : List ProviderEntry) entry,
      (entries.find? fun entry => entry.name ≠ "") = some entry → entry.name ≠ "" := by
    intro entries entry found
    simpa using List.find?_some found
  rw [foldl_collect]
  simp only [Candidates.choose, Candidates.none, first, foldl_fallback, if_true, leading]
  generalize entries.filter (fun entry => initialized entry.provider) = ready
  cases (ready.find? fun entry => entry.cryptoType = .hardware).or
      (ready.find? fun entry => entry.cryptoType = .software) with
  | some entry => by_cases blank : entry.name = "" <;> simp [Option.filter, blank]
  | none =>
    cases fallback : ready.find? fun entry => entry.name ≠ "" with
    | some entry => simp [Option.filter, named ready entry fallback]
    | none =>
      cases (entries.find? fun entry => entry.cryptoType = .hardware).or
          (entries.find? fun entry => entry.cryptoType = .software) with
      | some entry => by_cases blank : entry.name = "" <;> simp [Option.filter, blank]
      | none =>
        cases fallback : entries.find? fun entry => entry.name ≠ "" with
        | some entry => simp [Option.filter, named entries entry fallback]
        | none => rfl

def started (starts : Instance → Bool) (i : Instance) : Bool :=
  manager.initialized i || starts i

def usable (available : Instance → Bool) (entry : ProviderEntry) : Option Instance :=
  if available entry.provider then some entry.provider else none

def Numbered : Prop :=
  ∀ entry ∈ manager.registered,
    (manager.registered[entry.numericId]?).map (·.provider) = some entry.provider

section Startup

variable {manager} {registered : List ProviderEntry} (lists : manager.Lists registered)
  (starts : Instance → Bool) (order : Iteration manager.providers)
include lists

theorem Lists.mem_order (name : ProviderName) (entry : ProviderEntry) :
    ⟨name, entry⟩ ∈ order.entries ↔ entry ∈ registered ∧ entry.name = name :=
  (order.mem_iff name entry).trans (lists.found name entry)

variable {entry : ProviderEntry}

theorem Lists.initialized_initializeAll (member : entry ∈ registered) :
    (manager.initializeAll starts order.entries).2.initialized entry.provider =
      manager.started starts entry.provider := by
  have among : (order.entries.any fun other => other.2.provider == entry.provider) = true :=
    List.any_eq_true.mpr ⟨⟨entry.name, entry⟩, (lists.mem_order order _ _).mpr ⟨member, rfl⟩, by simp⟩
  obtain ⟨failures, after⟩ := initializeAll_eq manager starts order.entries
  simp [after, among, started]

theorem Lists.after_initializeAll (entries : List Named) :
    (manager.initializeAll starts entries).2.Lists registered := by
  obtain ⟨failures, after⟩ := initializeAll_eq manager starts entries
  rw [after]
  exact lists.congr rfl rfl rfl

theorem Lists.favourite_congr {initialized initialized' : Instance → Bool}
    (agree : ∀ entry ∈ registered, initialized' entry.provider = initialized entry.provider) :
    manager.favourite initialized' = manager.favourite initialized := by
  rw [favourite, favourite, lists.registered_eq, List.filter_congr agree]

omit lists in
theorem leading_mem {entries : List ProviderEntry}
    (found : leading entries = some entry) : entry ∈ entries := by
  simp only [leading, Option.or_eq_some_iff] at found
  rcases found with (hardware | ⟨_, software⟩) | ⟨_, fallback⟩
  · exact List.mem_of_find?_eq_some hardware
  · exact List.mem_of_find?_eq_some software
  · exact List.mem_of_find?_eq_some fallback

theorem Lists.favourite_mem {initialized : Instance → Bool}
    (chosen : manager.favourite initialized = some entry) :
    entry ∈ registered ∧ entry.name ≠ "" := by
  rw [favourite, lists.registered_eq, Option.filter_eq_some_iff, Option.or_eq_some_iff] at chosen
  refine ⟨?_, by simpa using chosen.2⟩
  rcases chosen.1 with up | ⟨_, down⟩
  · exact List.mem_of_mem_filter (leading_mem up)
  · exact leading_mem down

theorem Lists.activeConfig_lookup {config : TypeToProviderName}
    (active : manager.activeConfig = some config) (t : CryptoProviderType) :
    (config.lookup t).bind manager.providers.lookup =
      (manager.override t).or (manager.standIn manager.initialized t) := by
  unfold activeConfig at active
  by_cases configured : CryptoProviderType.default ∈ manager.typeToProviderName
  · rw [if_pos configured] at active
    rw [standIn, if_neg fun neither => neither.2 configured, Option.or_none, ← Option.some.inj active]
    rfl
  · rw [if_neg configured, resolveDefaultProviderName] at active
    split at active
    case isFalse => exact absurd active (by simp)
    have absent := Finmap.lookup_eq_none.mpr configured
    have config_eq := Option.some.inj active
    simp only [choose_collect] at config_eq
    change (if ((manager.favourite manager.initialized).map (·.name)).getD "" = "" then _ else
      manager.typeToProviderName.insert _ (((manager.favourite manager.initialized).map (·.name)).getD ""))
        = config at config_eq
    cases chosen : manager.favourite manager.initialized with
    | none =>
      rw [chosen] at config_eq
      have nobody : manager.standIn manager.initialized t = none := by
        rw [standIn, chosen, ite_self]
      rw [nobody, Option.or_none, ← config_eq]
      rfl
    | some entry =>
      obtain ⟨member, named⟩ := lists.favourite_mem chosen
      rw [chosen, Option.map_some, Option.getD_some, if_neg named] at config_eq
      by_cases which : t = .default
      · subst which
        rw [← config_eq, Finmap.lookup_insert, override, absent, standIn, if_pos ⟨rfl, configured⟩, chosen]
        exact lists.self member
      · rw [← config_eq, Finmap.lookup_insert_of_ne _ which, standIn, if_neg fun both => which both.1,
          Option.or_none]
        rfl

theorem Lists.activeConfig_isSome :
    manager.activeConfig.isSome ↔
      registered.length < 2 ^ 16 ∨ CryptoProviderType.default ∈ manager.typeToProviderName := by
  unfold activeConfig
  by_cases configured : CryptoProviderType.default ∈ manager.typeToProviderName
  · simp [configured]
  · simp [configured, resolveDefaultProviderName, lists.length_eq]

structure StartedUp (manager : ProviderManager) (registered : List ProviderEntry)
    (starts : Instance → Bool) (order : Iteration manager.providers) (after : ProviderManager) :
    Prop where
  lists : after.Lists registered
  up : ∀ entry ∈ registered, after.initialized entry.provider = manager.started starts entry.provider
  mapped : ∀ t, after.typeToProviderId t =
    (((manager.override t).or (manager.standIn (manager.started starts) t)).map (·.numericId)).or
      (declaredTypes order.entries t)

variable (visit : ∀ config : TypeToProviderName, Iteration config)

theorem Lists.initializeManager_isSome :
    (manager.initializeManager starts order visit).isSome ↔
      registered.length < 2 ^ 16 ∨ CryptoProviderType.default ∈ manager.typeToProviderName := by
  have kept := lists.after_initializeAll starts order.entries
  obtain ⟨failures, middle⟩ := initializeAll_eq manager starts order.entries
  rw [initializeManager, Option.isSome_map, kept.activeConfig_isSome, middle]

variable {visit}

theorem Lists.startedUp {ok : Bool} {after : ProviderManager}
    (done : manager.initializeManager starts order visit = some (ok, after)) :
    StartedUp manager registered starts order after := by
  have up : ∀ entry ∈ registered, _ := fun _ member =>
    lists.initialized_initializeAll starts order member
  obtain ⟨failures, middle⟩ := initializeAll_eq manager starts order.entries
  have kept := lists.after_initializeAll starts order.entries
  rw [middle] at up kept
  rw [initializeManager, middle] at done
  obtain ⟨config, active, built⟩ := Option.map_eq_some_iff.mp done
  obtain ⟨failures', mapped⟩ := foldl_applyOverride
    { manager with
      initialized := _, initializationFailures := failures
      typeToProviderId := declaredTypes order.entries } (visit config).nodupKeys true
  have same := mapped.symm.trans (Prod.mk.inj built).2
  subst same
  refine ⟨lists.congr rfl rfl rfl, up, fun t => ?_⟩
  have inForce := kept.activeConfig_lookup active t
  simp only [(visit config).dlookup_eq, inForce]
  congr 3
  exact if_congr Iff.rfl (lists.favourite_congr up) rfl

end Startup

/-! ### Lookups agree -/

theorem handOut_fst (later : Instance → Bool) (entry : ProviderEntry) (provider : Option Instance) :
    (manager.handOut later entry provider).1 =
      if manager.started later entry.provider then provider else none := by
  obtain ⟨failures, after⟩ := ensureProviderInitialized_eq manager later entry
  simp [handOut, after, started]

section Lookups

variable {manager} {registered : List ProviderEntry} (lists : manager.Lists registered)
  (later : Instance → Bool)
include lists

theorem Lists.getProviderByName_fst {entry : ProviderEntry} (member : entry ∈ registered) :
    (manager.getProviderByName later entry.name).1 = usable (manager.started later) entry := by
  rw [getProviderByName, lists.self member]
  exact handOut_fst manager later entry entry.provider

theorem Lists.getProviderById_fst (id : ProviderId) :
    (manager.getProviderById later id).1 = registered[id]?.bind (usable (manager.started later)) := by
  rw [getProviderById, lists.entryAt_eq, lists.instances, List.getElem?_map]
  cases registered[id]? with
  | none => rfl
  | some entry => exact handOut_fst manager later entry entry.provider

theorem Lists.getProviderByType_fst (t : CryptoProviderType) :
    (manager.getProviderByType later t).1 =
      (manager.typeToProviderId t).bind fun id => registered[id]?.bind (usable (manager.started later)) := by
  rw [getProviderByType]
  cases manager.typeToProviderId t with
  | none => rfl
  | some id =>
    rw [Option.bind_some]
    simp only [lists.entryAt_eq]
    cases registered[id]? with
    | none => rfl
    | some entry => exact handOut_fst manager later entry entry.provider

end Lookups

/-- Whatever the order of the hash maps, startup ends and afterwards the type leads to the provider
intended for it, and every provider's name and number lead to it. -/
def Determined (starts : Instance → Bool) (t : CryptoProviderType) : Prop :=
  ∀ (order : Iteration manager.providers) (visit : ∀ config : TypeToProviderName, Iteration config),
    ∃ ok after, manager.initializeManager starts order visit = some (ok, after) ∧ ∀ later,
      let available := fun i => manager.initialized i || starts i || later i
      (after.getProviderByType later t).1 = (manager.intended t).bind (usable available) ∧
        ∀ entry ∈ manager.registered,
          (after.getProviderByName later entry.name).1 = usable available entry ∧
            (after.getProviderById later entry.numericId).1 = usable available entry

/-- The type is configured, or the only choice there is for it is the intended one. -/
def Unambiguous (starts : Instance → Bool) (t : CryptoProviderType) : Prop :=
  match manager.override t, manager.standIn (manager.started starts) t with
  | some _, _ => True
  | none, some entry => (manager.declared t).head?.map (·.provider) = some entry.provider
  | none, none =>
    ∀ first ∈ manager.declared t, ∀ second ∈ manager.declared t, first.provider = second.provider

theorem StartedUp.usable_eq {starts : Instance → Bool} {registered : List ProviderEntry}
    {order : Iteration manager.providers} {after : ProviderManager}
    (startedUp : StartedUp manager registered starts order after) (later : Instance → Bool)
    {entry : ProviderEntry} (member : entry ∈ registered) :
    usable (after.started later) entry =
      usable (fun i => manager.initialized i || starts i || later i) entry := by
  rw [usable, usable, started, startedUp.up entry member, started]

theorem usable_bind (available : Instance → Bool) (entry : Option ProviderEntry) :
    entry.bind (usable available) =
      (entry.map (·.provider)).bind fun i => if available i then some i else none := by
  cases entry <;> rfl

def chosen (starts : Instance → Bool) (order : Iteration manager.providers) (t : CryptoProviderType) :
    Option ProviderEntry :=
  ((manager.override t).or (manager.standIn (manager.started starts) t)).or
    ((order.entries.find? fun entry => entry.2.cryptoType = t).map (·.2))

section Determined

variable {manager} {registered : List ProviderEntry} (lists : manager.Lists registered)
  (starts : Instance → Bool)
include lists

theorem Lists.declared_eq (t : CryptoProviderType) :
    manager.declared t = registered.filter fun entry => entry.cryptoType = t := by
  rw [declared, lists.registered_eq]

variable {order : Iteration manager.providers} {t : CryptoProviderType}

theorem Lists.first_declared {named : Named}
    (found : (order.entries.find? fun entry => entry.2.cryptoType = t) = some named) :
    named.2 ∈ manager.declared t := by
  rw [lists.declared_eq, List.mem_filter]
  have typed := List.find?_some found
  exact ⟨((lists.mem_order order _ _).mp (List.mem_of_find?_eq_some found)).1, typed⟩

theorem Lists.chosen_mem
    {entry : ProviderEntry} (found : manager.chosen starts order t = some entry) : entry ∈ registered := by
  rcases Option.or_eq_some_iff.mp found with fixed | ⟨_, first⟩
  · rcases Option.or_eq_some_iff.mp fixed with configured | ⟨_, standing⟩
    · obtain ⟨name, _, found⟩ := Option.bind_eq_some_iff.mp configured
      exact lists.mem_of_lookup found
    · unfold standIn at standing
      split at standing
      · exact (lists.favourite_mem standing).1
      · exact absurd standing (by simp)
  · obtain ⟨named, among, rfl⟩ := Option.map_eq_some_iff.mp first
    have declares := lists.first_declared among
    rw [lists.declared_eq] at declares
    exact List.mem_of_mem_filter declares

/-- Where numbers lead back to their providers, every lookup after startup is settled. -/
theorem Lists.lookups (numbered : manager.Numbered)
    {after : ProviderManager} (startedUp : StartedUp manager registered starts order after)
    (later : Instance → Bool) :
    let available := fun i => manager.initialized i || starts i || later i
    (∀ t, (after.getProviderByType later t).1 = (manager.chosen starts order t).bind (usable available)) ∧
      ∀ entry ∈ registered,
        (after.getProviderByName later entry.name).1 = usable available entry ∧
          (after.getProviderById later entry.numericId).1 = usable available entry := by
  have kept := startedUp.lists
  -- A number stands for an entry with the same instance, which is all that a lookup hands out.
  have back : ∀ entry ∈ registered,
      registered[entry.numericId]?.bind (usable (after.started later)) =
        usable (fun i => manager.initialized i || starts i || later i) entry := by
    intro entry member
    rw [Numbered, lists.registered_eq] at numbered
    obtain ⟨other, at_id, provider⟩ := Option.map_eq_some_iff.mp (numbered entry member)
    rw [← startedUp.usable_eq manager later member, at_id, Option.bind_some, usable, usable, provider]
  refine ⟨fun t => ?_, fun entry member => ⟨?_, ?_⟩⟩
  · have number : after.typeToProviderId t = (manager.chosen starts order t).map (·.numericId) := by
      rw [startedUp.mapped t, declaredTypes_eq, chosen]
      cases (manager.override t).or (manager.standIn (manager.started starts) t) <;>
        simp [Function.comp_def]
    rw [kept.getProviderByType_fst, number]
    cases found : manager.chosen starts order t with
    | none => rfl
    | some entry => exact back entry (lists.chosen_mem starts found)
  · rw [kept.getProviderByName_fst later member, startedUp.usable_eq manager later member]
  · rw [kept.getProviderById_fst, back entry member]

theorem Lists.startedUp_of_determined
    (determined : manager.Determined starts t) (order : Iteration manager.providers) :
    (registered.length < 2 ^ 16 ∨ CryptoProviderType.default ∈ manager.typeToProviderName) ∧
      ∃ after, StartedUp manager registered starts order after ∧
        (after.getProviderByType (fun _ => true) t).1 = (manager.intended t).map (·.provider) ∧
        ∀ entry ∈ registered,
          (after.getProviderById (fun _ => true) entry.numericId).1 = some entry.provider := by
  obtain ⟨ok, after, done, settled⟩ :=
    determined order fun config => Classical.choice (Iteration.exists_any config)
  obtain ⟨byType, others⟩ := settled fun _ => true
  refine ⟨(lists.initializeManager_isSome starts order _).mp (by rw [done]; rfl), after,
    lists.startedUp starts order done, ?_, fun entry member => ?_⟩
  · rw [byType, usable_bind]
    simp
  · rw [(others entry (lists.registered_eq ▸ member)).2]
    simp [usable]

theorem Lists.numbered_of_determined (determined : manager.Determined starts t) :
    manager.Numbered := by
  obtain ⟨order⟩ := Iteration.exists_any manager.providers
  obtain ⟨-, after, startedUp, -, byId⟩ := lists.startedUp_of_determined starts determined order
  rw [Numbered, lists.registered_eq]
  intro entry member
  have found := byId entry member
  rw [startedUp.lists.getProviderById_fst] at found
  simpa [usable, started, Option.bind_eq_some_iff, Option.map_eq_some_iff] using found

theorem Lists.determined_iff_chosen (numbered : manager.Numbered)
    (ends : registered.length < 2 ^ 16 ∨ CryptoProviderType.default ∈ manager.typeToProviderName)
    (t : CryptoProviderType) :
    manager.Determined starts t ↔
      ∀ order : Iteration manager.providers,
        (manager.chosen starts order t).map (·.provider) = (manager.intended t).map (·.provider) := by
  constructor
  · intro determined order
    obtain ⟨-, after, startedUp, byType, -⟩ := lists.startedUp_of_determined starts determined order
    rw [(lists.lookups starts numbered startedUp fun _ => true).1, usable_bind] at byType
    simpa using byType
  · intro agree order visit
    obtain ⟨⟨ok, after⟩, done⟩ :=
      Option.isSome_iff_exists.mp ((lists.initializeManager_isSome starts order visit).mpr ends)
    refine ⟨ok, after, done, fun later => ?_⟩
    obtain ⟨byType, others⟩ := lists.lookups starts numbered (lists.startedUp starts order done) later
    refine ⟨?_, by rwa [lists.registered_eq]⟩
    rw [byType, usable_bind, usable_bind, agree order]

theorem Lists.chosen_eq_iff (t : CryptoProviderType) :
    (∀ order : Iteration manager.providers,
      (manager.chosen starts order t).map (·.provider) = (manager.intended t).map (·.provider)) ↔
      manager.Unambiguous starts t := by
  unfold Unambiguous chosen intended
  cases configured : manager.override t with
  | some entry => simp
  | none =>
    cases standing : manager.standIn (manager.started starts) t with
    | some entry =>
      simp only [Option.none_or, Option.some_or, Option.map_some]
      obtain ⟨order⟩ := Iteration.exists_any manager.providers
      exact ⟨fun agree => (agree order).symm, fun same _ => same.symm⟩
    | none =>
      simp only [Option.none_or, Option.map_map]
      constructor
      · intro agree
        -- Each of the entries may come first.
        have first : ∀ entry ∈ manager.declared t,
            some entry.provider = (manager.declared t).head?.map (·.provider) := by
          intro entry member
          rw [lists.declared_eq, List.mem_filter, decide_eq_true_eq] at member
          obtain ⟨order, rest, leads⟩ := Iteration.exists_head (lists.self member.1)
          rw [← agree order, leads, List.find?_cons_of_pos (by simp [member.2])]
          rfl
        intro one among other amongToo
        exact Option.some.inj ((first one among).trans (first other amongToo).symm)
      · intro same order
        cases found : order.entries.find? fun entry => entry.2.cryptoType = t with
        | none =>
          have nobody : manager.declared t = [] := by
            rw [lists.declared_eq, List.filter_eq_nil_iff]
            intro entry member
            exact List.find?_eq_none.mp found ⟨entry.name, entry⟩
              ((lists.mem_order order _ _).mpr ⟨member, rfl⟩)
          rw [nobody]
          rfl
        | some named =>
          have among := lists.first_declared found
          cases entries : manager.declared t with
          | nil => simp [entries] at among
          | cons head rest =>
            simp [same named.2 among head (by rw [entries]; exact List.mem_cons_self)]

theorem Lists.determined_iff (t : CryptoProviderType) :
    manager.Determined starts t ↔
      (registered.length < 2 ^ 16 ∨ CryptoProviderType.default ∈ manager.typeToProviderName) ∧
        manager.Numbered ∧ manager.Unambiguous starts t := by
  constructor
  · intro determined
    have numbered := lists.numbered_of_determined starts determined
    obtain ⟨order⟩ := Iteration.exists_any manager.providers
    have ends := (lists.startedUp_of_determined starts determined order).1
    refine ⟨ends, numbered, ?_⟩
    rwa [← lists.chosen_eq_iff, ← lists.determined_iff_chosen starts numbered ends]
  · intro ⟨ends, numbered, unambiguous⟩
    rwa [lists.determined_iff_chosen starts numbered ends, lists.chosen_eq_iff]

end Determined

theorem run_determined_iff (config : TypeToProviderName) (initialized : Instance → Bool)
    (calls : List StartupCall) (starts : Instance → Bool) (t : CryptoProviderType) :
    let manager := Run.run startup (construct config initialized) calls
    manager.Determined starts t ↔
      (manager.registered.length < 2 ^ 16 ∨ CryptoProviderType.default ∈ manager.typeToProviderName) ∧
        manager.Numbered ∧ manager.Unambiguous starts t := by
  intro manager
  obtain ⟨registered, lists⟩ := lists_run config initialized calls
  rw [lists.registered_eq]
  exact lists.determined_iff starts t

def twoSoftware : ProviderManager :=
  Run.run startup (construct ∅ fun _ => false)
    [.register "A" (some 0) .software, .register "B" (some 1) .software]

/-- Met first in the map, the provider registered last is the one the type leads to. -/
theorem twoSoftware_lastRegistered :
    (twoSoftware.intended .software).map (·.provider) = some 0 ∧
      ∃ order : Iteration twoSoftware.providers, ∀ visit, ∃ ok after,
        twoSoftware.initializeManager (fun _ => true) order visit = some (ok, after) ∧
          (after.getProviderByType (fun _ => true) .software).1 = some 1 := by
  obtain ⟨registered, lists⟩ := lists_run ∅ (fun _ => false)
    [.register "A" (some 0) .software, .register "B" (some 1) .software]
  refine ⟨by decide +kernel, ⟨[⟨"B", ⟨"B", 1, 1, .software⟩⟩, ⟨"A", ⟨"A", 0, 0, .software⟩⟩], by decide +kernel⟩,
    fun visit => ?_⟩
  have numbered : twoSoftware.Numbered := by
    unfold Numbered
    decide +kernel
  have small : registered.length < 2 ^ 16 := by
    rw [← lists.registered_eq]
    decide +kernel
  obtain ⟨⟨ok, after⟩, done⟩ := Option.isSome_iff_exists.mp
    ((lists.initializeManager_isSome (fun _ => true) _ visit).mpr (.inl small))
  refine ⟨ok, after, done, ?_⟩
  rw [(lists.lookups (fun _ => true) numbered (lists.startedUp _ _ done) fun _ => true).1]
  decide +kernel

end ProviderManager

end ScoreCrypto.Provider
