import ScoreCrypto.Cryptoki.Calls

/-!
What is left of the objects and tokens when the library saves its state and loads it again.
-/

namespace ScoreCrypto.Cryptoki

open Fallible

/-! ### One token -/

structure Token.Same (before after : Token) : Prop where
  label : after.label = before.label
  state : after.state = before.state
  soPin : after.soPin = before.soPin
  userPin : after.userPin = before.userPin
  soPinFailures : after.soPinFailures = before.soPinFailures
  userPinFailures : after.userPinFailures = before.userPinFailures
  loginRequired : after.loginRequired = before.loginRequired
  serialNumber : after.serialNumber = before.serialNumber

theorem padded_toList {width : Nat} (bytes : Vector UInt8 width) :
    padded width bytes.toList = bytes := by
  apply Vector.ext
  intro i inside
  simp [padded]

theorem restorePin_stored (argon2 : Argon2) (seed index : Nat) (pin : Option String) :
    StoredToken.restorePin argon2 seed index (pin.map fun phcString => ⟨some phcString⟩) none = pin := by
  cases pin <;> rfl

theorem applyTo_from (argon2 : Argon2) (seed : Nat) (token base : Token) :
    token.Same ((StoredToken.from token).applyTo argon2 seed base) := by
  rcases token with ⟨label, state, soPin, userPin, _, _, _, _, _, serialNumber⟩
  simp only [StoredToken.applyTo, StoredToken.from, restorePin_stored, padded_toList]
  refine ⟨rfl, ?_, rfl, rfl, rfl, rfl, rfl, rfl⟩
  cases state <;> simp

/-! ### One object -/

theorem StoredKeyType.keyType_from {keyType : KeyType} (storable : keyType ≠ .profile) :
    ∃ stored, StoredKeyType.from keyType = some stored ∧ stored.keyType = keyType := by
  cases keyType <;> simp_all [StoredKeyType.from, StoredKeyType.keyType]

def RoundTrips (engine : CryptoProvider) (keyRef : Bytes) : Prop :=
  ∃ keyDer, engine.serializeKey keyRef = .ok keyDer ∧ engine.deserializeKey keyDer = .ok keyRef

def KeyObject.restored (object : KeyObject) : KeyObject :=
  KeyObject.new object.handle object.slotId object.keyType object.keyRef object.attributes

/-- The fields that no attribute holds are as they are in an object that was never generated. -/
structure KeyObject.Unmarked (object : KeyObject) : Prop where
  isLocal : object.isLocal = false
  alwaysSensitive : object.alwaysSensitive = false
  neverExtractable : object.neverExtractable = false
  alwaysAuthenticate : object.alwaysAuthenticate = false
  keyGenMechanism : object.keyGenMechanism = ckUnavailableInformation

variable {object : KeyObject}

theorem intoKeyObject_from {engine : CryptoProvider} (storable : object.keyType ≠ .profile)
    (roundTrips : RoundTrips engine object.keyRef) :
    ∃ stored, StoredObject.fromKeyObject object engine = some stored ∧
      stored.slotId = object.slotId ∧
        stored.intoKeyObjectWithEngine engine = some object.restored := by
  rcases StoredKeyType.keyType_from storable with ⟨keyType, kept, same⟩
  rcases roundTrips with ⟨keyDer, serialized, deserialized⟩
  refine ⟨_, by rw [StoredObject.fromKeyObject, kept, serialized], rfl, ?_⟩
  simp [StoredObject.intoKeyObjectWithEngine, deserialized, same, KeyObject.restored]

theorem restored_attributes (token : object.isTokenObject = true) :
    object.restored.attributes = object.attributes := by
  have present : ckaToken ∈ object.attributes := by
    by_contra missing
    have unread := Finmap.lookup_eq_none.mpr missing
    simp [KeyObject.isTokenObject, KeyObject.boolAttrTrue, unread] at token
  simp [KeyObject.restored, KeyObject.new, Attributes.orInsert, present]

theorem restored_eq (token : object.isTokenObject = true) (unmarked : object.Unmarked) :
    object.restored = { object with creatingSession := none } := by
  have attributes := restored_attributes token
  rcases object with ⟨handle, slotId, keyType, keyRef, attrs, creating, _, _, _, _, _⟩
  rcases unmarked with ⟨isLocal, sensitive, extractable, authenticate, mechanism⟩
  simp only at isLocal sensitive extractable authenticate mechanism attributes
  subst isLocal sensitive extractable authenticate mechanism
  simp only [KeyObject.restored, KeyObject.new] at attributes ⊢
  rw [attributes]

/-! ### What is read of an object -/

def readings (slots : List CryptoProvider) (object : KeyObject) (queries : List Query) :
    List Answer × Except Pkcs11Error Marks :=
  answerQueries (engineForSlot slots object.slotId) object {} queries

theorem answerQueries_creatingSession (engine : Option CryptoProvider) (object : KeyObject)
    (creating : Option SessionHandle) (marks : Marks) (queries : List Query) :
    answerQueries engine { object with creatingSession := creating } marks queries =
      answerQueries engine object marks queries := by
  have same (type : AttributeType) :
      readAttribute engine { object with creatingSession := creating } type =
        readAttribute engine object type := rfl
  induction queries generalizing marks with
  | nil => rfl
  | cons query rest ih => simp only [answerQueries, same, ih]

theorem ulongBytes_injective {first second : UInt64} (same : ulongBytes first = ulongBytes second) :
    first = second := by
  simp only [ulongBytes, List.range, List.range.loop, List.map_cons, List.map_nil,
    List.cons.injEq, ← UInt8.toNat_inj] at same
  have bytes := same
  simp [Nat.shiftRight_eq_div_pow] at bytes
  have firstBound := first.toNat_lt
  have secondBound := second.toNat_lt
  apply UInt64.toNat_inj.mp
  omega

variable {slots : List CryptoProvider}

theorem readings_field {type : AttributeType} {value : Bytes}
    (notSecret : isSecretAttribute type = false)
    (field : keyObjectFieldAttr object type = some value) (short : value.length ≤ 8) :
    readings slots object [⟨type, some 8⟩] =
      ([⟨UInt64.ofNat value.length, some value⟩], .ok {}) := by
  have readable : readAttribute (engineForSlot slots object.slotId) object type = .value value := by
    simp [readAttribute, checkAttributeAccess, notSecret, field]
  have fits : ¬8 < value.length := by omega
  simp [readings, answerQueries, readable, fillValue, fits]

theorem field_of_readings {before after : KeyObject} {type : AttributeType} {first second : Bytes}
    (same : readings slots after [⟨type, some 8⟩] = readings slots before [⟨type, some 8⟩])
    (notSecret : isSecretAttribute type = false)
    (ofBefore : keyObjectFieldAttr before type = some first) (shortBefore : first.length ≤ 8)
    (ofAfter : keyObjectFieldAttr after type = some second) (shortAfter : second.length ≤ 8) :
    first = second := by
  rw [readings_field notSecret ofBefore shortBefore, readings_field notSecret ofAfter shortAfter] at same
  simp only [Prod.mk.injEq, List.cons.injEq, Answer.mk.injEq, Option.some.injEq, and_true] at same
  exact same.2.symm

theorem unmarked_of_readings
    (same : ∀ queries, readings slots object.restored queries = readings slots object queries) :
    object.Unmarked := by
  have flag {first : Bool} (bytes : [if first then ckTrue else ckFalse] = [ckFalse]) :
      first = false := by
    cases first with
    | false => rfl
    | true => cases bytes
  constructor
  · exact flag (field_of_readings (same [⟨ckaLocal, some 8⟩]) rfl rfl (by simp) rfl (by simp))
  · exact flag (field_of_readings (same [⟨ckaAlwaysSensitive, some 8⟩]) rfl rfl (by simp) rfl (by simp))
  · exact flag (field_of_readings (same [⟨ckaNeverExtractable, some 8⟩]) rfl rfl (by simp) rfl (by simp))
  · exact flag (field_of_readings (same [⟨ckaAlwaysAuthenticate, some 8⟩]) rfl rfl (by simp) rfl (by simp))
  · exact ulongBytes_injective
      (field_of_readings (same [⟨ckaKeyGenMechanism, some 8⟩]) rfl rfl (by simp [ulongBytes]) rfl
        (by simp [ulongBytes]))

theorem readings_restored (slots : List CryptoProvider) (token : object.isTokenObject = true) :
    (∀ queries, readings slots object.restored queries = readings slots object queries) ↔
      object.Unmarked := by
  refine ⟨unmarked_of_readings, fun unmarked queries => ?_⟩
  rw [restored_eq token unmarked]
  exact answerQueries_creatingSession _ _ _ _ _

/-! ### Saving -/

section World

variable (world : World)

def ensured (s : State) (slots : List SlotId) : State :=
  slots.foldl (fun s slotId => (handle world (.token slotId) s).2) s

variable {s : State} {slotId : SlotId} {token : Token}

theorem tokenOf_of_lookup (found : s.tokens.lookup slotId = some token) :
    s.tokenOf world slotId = token := by
  simp [State.tokenOf, found]

theorem lookup_ensured (slots : List SlotId) (found : s.tokens.lookup slotId = some token) :
    (ensured world s slots).tokens.lookup slotId = some token := by
  induction slots generalizing s with
  | nil => exact found
  | cons first rest ih =>
    apply ih
    change (s.tokens.insert first (s.tokenOf world first)).lookup slotId = some token
    rcases eq_or_ne slotId first with rfl | differ
    · rw [Finmap.lookup_insert, tokenOf_of_lookup world found]
    · rw [Finmap.lookup_insert_of_ne _ differ, found]

theorem lookup_ensured_of_mem {slots : List SlotId} (member : slotId ∈ slots) :
    ∃ token, (ensured world s slots).tokens.lookup slotId = some token := by
  induction slots generalizing s with
  | nil => cases member
  | cons first rest ih =>
    rcases List.mem_cons.mp member with rfl | later
    · exact ⟨_, lookup_ensured world rest (Finmap.lookup_insert _)⟩
    · exact ih later

theorem ensured_frame (slots : List SlotId) (s : State) :
    ∃ tokens, ensured world s slots = { s with tokens, choices := s.choices + slots.length } := by
  induction slots generalizing s with
  | nil => exact ⟨s.tokens, rfl⟩
  | cons first rest ih =>
    rcases ih (handle world (.token first) s).2 with ⟨tokens, same⟩
    refine ⟨tokens, ?_⟩
    change ensured world (handle world (.token first) s).2 rest = _
    rw [same]
    simp only [handle, List.length_cons, State.mk.injEq, true_and]
    omega

def savedToken (s : State) (slotId : SlotId) : SlotId × StoredToken :=
  (slotId, StoredToken.from (s.tokenOf world slotId))

theorem exec_storedTokens (slots : List SlotId) (s : State) :
    exec (handle world) (storedTokens slots : Api (List (SlotId × StoredToken))) s =
      (.ok (slots.map (savedToken world (ensured world s slots))), ensured world s slots) := by
  induction slots generalizing s with
  | nil => rfl
  | cons first rest ih =>
    have inserted : (handle world (.token first) s).2.tokens.lookup first =
        some (s.tokenOf world first) := Finmap.lookup_insert _
    have kept : (ensured world s (first :: rest)).tokenOf world first = s.tokenOf world first :=
      tokenOf_of_lookup world (lookup_ensured world rest inserted)
    simp only [storedTokens, withToken, exec_bind, exec_perform, ih, exec_pure, List.map_cons]
    rw [savedToken, kept]
    rfl

def savedState (s : State) : StoredState where
  tokens := (slotIds s.slots).map (savedToken world s)
  token := none
  objects := s.storedObjects world
  nextHandle := s.nextHandle

def saved (s : State) : State := (exec (handle world) (persistIfNeeded : Api Unit) s).2

theorem saved_eq (writes : world.saves (s.choices + s.slots.length) = true) :
    saved world s =
      { ensured world s (slotIds s.slots) with
        disk := some (savedState world (ensured world s (slotIds s.slots)))
        choices := s.choices + s.slots.length + 1 } := by
  rcases ensured_frame world (slotIds s.slots) s with ⟨tokens, frame⟩
  have count : (slotIds s.slots).length = s.slots.length := by simp [slotIds]
  simp only [saved, persistIfNeeded, registry, saveState, exec_bind, exec_perform, handle,
    exec_storedTokens]
  simp [frame, count, writes, savedState]

/-! ### Loading -/

/-- The saved state as a library with the same engines loads it: `C_Finalize` has cleared the objects
and tokens before. -/
def reloaded (s : State) : State :=
  (exec (handle world) (loadPersistedObjects world)
    { saved world s with objects := .empty, tokens := ∅ }).2

def replaced (s : State) (stored : List (SlotId × StoredToken)) : State :=
  stored.foldl
    (fun s entry => (handle world (.replaceToken entry.1 (entry.2.applyTo world.argon2)) s).2) s

theorem exec_replaceTokens (stored : List (SlotId × StoredToken)) (s : State) :
    exec (handle world) (replaceTokens world stored) s = (.ok (), replaced world s stored) := by
  induction stored generalizing s with
  | nil => rfl
  | cons entry rest ih =>
    simp only [replaceTokens, exec_bind, exec_perform, ih]
    rfl

theorem replaced_objects (stored : List (SlotId × StoredToken)) (s : State) :
    (replaced world s stored).objects = s.objects ∧ (replaced world s stored).slots = s.slots := by
  induction stored generalizing s with
  | nil => exact ⟨rfl, rfl⟩
  | cons entry rest ih => exact ih _

theorem reloaded_spec (writes : world.saves (s.choices + s.slots.length) = true) :
    (reloaded world s).objects = (restoredObjects s.slots
        ((ensured world s (slotIds s.slots)).storedObjects world)).foldl ObjectStore.insert .empty ∧
      (reloaded world s).slots = s.slots ∧
        ∃ start, (reloaded world s).tokens = (replaced world start ((slotIds s.slots).map
          (savedToken world (ensured world s (slotIds s.slots))))).tokens := by
  rcases ensured_frame world (slotIds s.slots) s with ⟨tokens, frame⟩
  have slots : (ensured world s (slotIds s.slots)).slots = s.slots := by rw [frame]
  rw [reloaded, saved_eq world writes]
  simp only [loadPersistedObjects, exec_bind, exec_perform, handle, registry, savedState, slots,
    Option.toList_none, List.map_nil]
  split
  · simp only [exec_replaceTokens, replaced_objects, true_and]
    exact ⟨_, rfl⟩
  · next none =>
      rw [not_not] at none
      simp only [none, exec_replaceTokens]
      exact ⟨rfl, rfl, _, rfl⟩

theorem lookup_replaced {stored : List (SlotId × StoredToken)}
    (one : ∀ entry ∈ stored, entry.1 = slotId → entry.2 = StoredToken.from token)
    (present : slotId ∈ stored.map Prod.fst ∨
      ∃ after, s.tokens.lookup slotId = some after ∧ token.Same after) :
    ∃ after, (replaced world s stored).tokens.lookup slotId = some after ∧ token.Same after := by
  induction stored generalizing s with
  | nil => exact present.resolve_left List.not_mem_nil
  | cons entry rest ih =>
    apply ih fun other member => one other (List.mem_cons_of_mem _ member)
    rcases eq_or_ne entry.1 slotId with rfl | differ
    · right
      refine ⟨_, Finmap.lookup_insert _, ?_⟩
      rw [one entry List.mem_cons_self rfl]
      exact applyTo_from _ _ _ _
    · simp only [List.map_cons, List.mem_cons, differ.symm, false_or] at present
      apply present.imp_right
      intro known
      rcases known with ⟨after, found, same⟩
      refine ⟨after, ?_, same⟩
      rw [← found]
      exact Finmap.lookup_insert_of_ne _ differ.symm

theorem tokens_kept (writes : world.saves (s.choices + s.slots.length) = true)
    (registered : slotId ∈ slotIds s.slots) :
    ∃ before after, (saved world s).tokens.lookup slotId = some before ∧
      (∀ token, s.tokens.lookup slotId = some token → before = token) ∧
        (reloaded world s).tokens.lookup slotId = some after ∧ before.Same after := by
  rcases lookup_ensured_of_mem world registered (s := s) with ⟨before, found⟩
  rcases (reloaded_spec world writes).2.2 with ⟨start, tokens⟩
  have one : ∀ entry ∈ (slotIds s.slots).map (savedToken world (ensured world s (slotIds s.slots))),
      entry.1 = slotId → entry.2 = StoredToken.from before := by
    intro entry member same
    rcases List.mem_map.mp member with ⟨other, _, rfl⟩
    change other = slotId at same
    rw [savedToken, same, tokenOf_of_lookup world found]
  have present : slotId ∈
      ((slotIds s.slots).map (savedToken world (ensured world s (slotIds s.slots)))).map Prod.fst :=
    List.mem_map.mpr ⟨_, List.mem_map.mpr ⟨slotId, registered, rfl⟩, rfl⟩
  rcases lookup_replaced world one (.inl present) (s := start) with ⟨after, loaded, same⟩
  refine ⟨before, after, ?_, ?_, ?_, same⟩
  · rw [saved_eq world writes]
    exact found
  · intro token had
    exact Option.some.inj (found.symm.trans (lookup_ensured world _ had))
  · rw [tokens]
    exact loaded

/-! ### The objects of a store that is loaded -/

theorem mem_allObjects {object : KeyObject} :
    object ∈ s.allObjects world ↔ ∃ handle, s.objects.get handle = some object := by
  rw [State.allObjects, List.mem_filterMap]
  constructor
  · intro ⟨handle, _, found⟩
    exact ⟨handle, found⟩
  · intro ⟨handle, found⟩
    exact ⟨handle, (world.mem_order _ _ _).mpr ((s.objects.mem_handles _).mpr ⟨_, found⟩), found⟩

end World

namespace ObjectStore

theorem get_foldl_insert_of_forall_ne {objects : List KeyObject} {store : ObjectStore}
    {handle : ObjectHandle} (others : ∀ object ∈ objects, object.handle ≠ handle) :
    (objects.foldl insert store).get handle = store.get handle := by
  induction objects generalizing store with
  | nil => rfl
  | cons first rest ih =>
    rw [List.foldl_cons, ih fun object member => others object (List.mem_cons_of_mem _ member),
      get_insert, if_neg (others first List.mem_cons_self).symm]

theorem get_foldl_insert_of_mem {objects : List KeyObject} {store : ObjectStore}
    {object : KeyObject} (member : object ∈ objects)
    (one : ∀ other ∈ objects, other.handle = object.handle → other = object) :
    (objects.foldl insert store).get object.handle = some object := by
  induction objects generalizing store with
  | nil => cases member
  | cons first rest ih =>
    have later := fun other inRest => one other (List.mem_cons_of_mem first inRest)
    by_cases again : object ∈ rest
    · exact ih again later
    · -- the first entry is the object, and nothing after it has its handle
      obtain rfl := (List.mem_cons.mp member).resolve_right again
      rw [List.foldl_cons, get_foldl_insert_of_forall_ne, get_insert, if_pos rfl]
      intro other inRest same
      rw [later other inRest same] at inRest
      exact again inRest

end ObjectStore

structure KeyObject.Storable (object : KeyObject) : Prop where
  token : object.isTokenObject = true
  kind : object.keyType ≠ .profile

/-- The engines can read what they write of the keys in the store. -/
def State.RoundTrips (s : State) : Prop :=
  ∀ handle object engine, s.objects.get handle = some object →
    engineForSlot s.slots object.slotId = some engine → Cryptoki.RoundTrips engine object.keyRef

section Objects

variable {world : World} {s : State}

theorem mem_restoredObjects (world : World) (roundTrips : s.RoundTrips) (loaded : KeyObject) :
    loaded ∈ restoredObjects s.slots (s.storedObjects world) ↔
      ∃ handle object, s.objects.get handle = some object ∧ object.Storable ∧
        isValidSlot s.slots object.slotId = true ∧ loaded = object.restored := by
  simp only [restoredObjects, State.storedObjects, List.mem_filterMap, mem_allObjects, isValidSlot,
    Option.isSome_iff_exists]
  constructor
  · intro ⟨stored, ⟨object, ⟨handle, found⟩, written⟩, read⟩
    obtain ⟨storable, written⟩ := Option.ite_none_right_eq_some.mp written
    simp only [Bool.and_eq_true, decide_eq_true_eq] at storable
    rcases Option.bind_eq_some_iff.mp written with ⟨engine, registered, serialized⟩
    rcases intoKeyObject_from storable.2 (roundTrips handle object engine found registered) with
      ⟨same, written, slotId, restored⟩
    obtain rfl := Option.some.inj (serialized.symm.trans written)
    rw [slotId, registered, Option.bind_some, restored] at read
    exact ⟨handle, object, found, ⟨storable.1, storable.2⟩, ⟨engine, registered⟩,
      (Option.some.inj read).symm⟩
  · intro ⟨handle, object, found, storable, ⟨engine, registered⟩, same⟩
    rcases intoKeyObject_from storable.kind (roundTrips handle object engine found registered) with
      ⟨stored, written, slotId, restored⟩
    refine ⟨stored, ⟨object, ⟨handle, found⟩, ?_⟩, ?_⟩
    · simp [storable.token, storable.kind, registered, written]
    · rw [slotId, registered, Option.bind_some, restored, same]

theorem get_reloaded (writes : world.saves (s.choices + s.slots.length) = true)
    (roundTrips : s.RoundTrips) {handle : ObjectHandle} {object : KeyObject}
    (found : s.objects.get handle = some object) (storable : object.Storable) :
    (reloaded world s).objects.get handle =
      if isValidSlot s.slots object.slotId then some object.restored else none := by
  rcases ensured_frame world (slotIds s.slots) s with ⟨tokens, frame⟩
  rw [(reloaded_spec world writes).1, frame]
  have members := mem_restoredObjects world
    (s := { s with tokens, choices := s.choices + (slotIds s.slots).length }) roundTrips
  have one : ∀ loaded ∈ restoredObjects s.slots (State.storedObjects world
      { s with tokens, choices := s.choices + (slotIds s.slots).length }),
      loaded.handle = handle → loaded = object.restored ∧ isValidSlot s.slots object.slotId := by
    intro loaded member same
    rcases (members loaded).mp member with ⟨other, source, stored, _, registered, rfl⟩
    change source.handle = handle at same
    rw [← same, s.objects.handle_of_get stored, stored] at found
    cases found
    exact ⟨rfl, registered⟩
  have filed : object.handle = handle := s.objects.handle_of_get found
  split
  · next registered =>
      have member := (members object.restored).mpr
        ⟨handle, object, found, storable, registered, rfl⟩
      rw [← filed]
      exact ObjectStore.get_foldl_insert_of_mem member
        fun other inList same => (one other inList (same.trans filed)).1
  · next unregistered =>
      rw [ObjectStore.get_foldl_insert_of_forall_ne, ObjectStore.get_empty]
      intro loaded member same
      exact unregistered (one loaded member same).2

end Objects

/-! ### The restart as a whole -/

structure KeyObject.Same (slots : List CryptoProvider) (before after : KeyObject) : Prop where
  handle : after.handle = before.handle
  slotId : after.slotId = before.slotId
  keyType : after.keyType = before.keyType
  keyRef : after.keyRef = before.keyRef
  read : ∀ queries, readings slots after queries = readings slots before queries

/-- Saving the state and loading it again keeps the token objects and the tokens. -/
structure Preserved (world : World) (s : State) : Prop where
  slots : (reloaded world s).slots = s.slots
  objects : ∀ handle object, s.objects.get handle = some object → object.Storable →
    ∃ after, (reloaded world s).objects.get handle = some after ∧ object.Same s.slots after
  tokens : ∀ slotId ∈ slotIds s.slots, ∃ before after,
    (saved world s).tokens.lookup slotId = some before ∧
      (∀ token, s.tokens.lookup slotId = some token → before = token) ∧
        (reloaded world s).tokens.lookup slotId = some after ∧ before.Same after

def Unmarked (s : State) : Prop :=
  ∀ handle object, s.objects.get handle = some object → object.Storable →
    isValidSlot s.slots object.slotId = true ∧ object.Unmarked

theorem unmarked_of_preserved {world : World} {s : State}
    (writes : world.saves (s.choices + s.slots.length) = true) (roundTrips : s.RoundTrips)
    (preserved : Preserved world s) : Unmarked s := by
  intro handle object found storable
  rcases preserved.objects handle object found storable with ⟨after, loaded, same⟩
  rw [get_reloaded writes roundTrips found storable] at loaded
  rcases Option.ite_none_right_eq_some.mp loaded with ⟨registered, restored⟩
  rw [← Option.some.inj restored] at same
  exact ⟨registered, (readings_restored _ storable.token).mp same.read⟩

theorem preserved_iff_unmarked {world : World} {s : State}
    (writes : world.saves (s.choices + s.slots.length) = true) (roundTrips : s.RoundTrips) :
    Preserved world s ↔ Unmarked s := by
  refine ⟨unmarked_of_preserved writes roundTrips, fun unmarked => ?_⟩
  refine ⟨(reloaded_spec world writes).2.1, ?_, fun slotId => tokens_kept world writes⟩
  intro handle object found storable
  rcases unmarked handle object found storable with ⟨registered, fields⟩
  refine ⟨object.restored, ?_, rfl, rfl, rfl, rfl, (readings_restored _ storable.token).mpr fields⟩
  rw [get_reloaded writes roundTrips found storable, if_pos registered]

theorem roundTrips_plainEngine {s : State} (slots : s.slots = [plainEngine]) : s.RoundTrips := by
  intro handle object engine _ registered
  rw [engineForSlot, slots] at registered
  rw [List.mem_singleton.mp (List.mem_of_getElem? registered)]
  exact ⟨object.keyRef, rfl, rfl⟩

def afterCall (call : SessionCall) : State :=
  Run.run (step plainWorld) (State.loaded none)
    [.initializeLibrary none, .openSession 0 6 true, .inSession 1 call]

def createTokenData : SessionCall :=
  .createObject (.entries [⟨ckaClass, .bytes (ulongBytes ckoData)⟩, ⟨ckaToken, .bytes [ckTrue]⟩,
    ⟨ckaValue, .bytes [1, 2, 3]⟩]) true

def generateTokenKey : SessionCall :=
  .generateKey (some ⟨ckmAesKeyGen, none⟩) (.entries [⟨ckaToken, .bytes [ckTrue]⟩]) true

theorem preserved_created :
    (∃ object, (afterCall createTokenData).objects.get 2 = some object ∧ object.Storable) ∧
      Preserved plainWorld (afterCall createTokenData) := by
  constructor
  · obtain ⟨object, found, facts⟩ := (Option.any_eq_true _ _).mp (by decide +kernel :
      ((afterCall createTokenData).objects.get 2).any (fun o =>
        decide (o.isTokenObject = true ∧ o.keyType ≠ .profile)) = true)
    have storable := of_decide_eq_true facts
    exact ⟨object, found, storable.1, storable.2⟩
  · refine (preserved_iff_unmarked (by decide +kernel) (roundTrips_plainEngine rfl)).mpr ?_
    intro handle object found _
    have checked : (ascending (afterCall createTokenData).objects.handles).all (fun handle =>
        ((afterCall createTokenData).objects.get handle).all (fun o =>
          decide (o.slotId = 0 ∧ o.isLocal = false ∧ o.alwaysSensitive = false ∧
            o.neverExtractable = false ∧ o.alwaysAuthenticate = false ∧
            o.keyGenMechanism = ckUnavailableInformation))) = true := by
      decide +kernel
    have stored := (ObjectStore.mem_handles _ _).mpr ⟨object, found⟩
    have facts := List.all_eq_true.mp checked handle ((plainWorld.mem_order 0 _ _).mpr stored)
    rw [found] at facts
    obtain ⟨slotId, unmarked⟩ := of_decide_eq_true facts
    rw [slotId]
    exact ⟨by decide +kernel, unmarked.1, unmarked.2.1, unmarked.2.2.1, unmarked.2.2.2.1,
      unmarked.2.2.2.2⟩

/-- A generated key comes back as one that was not generated here. -/
theorem generated_key_not_preserved :
    (afterCall generateTokenKey).RoundTrips ∧ ¬Preserved plainWorld (afterCall generateTokenKey) := by
  have roundTrips := roundTrips_plainEngine (s := afterCall generateTokenKey) rfl
  refine ⟨roundTrips, fun preserved => ?_⟩
  obtain ⟨object, found, facts⟩ := (Option.any_eq_true _ _).mp (by decide +kernel :
    ((afterCall generateTokenKey).objects.get 2).any (fun o =>
      decide (o.isTokenObject = true ∧ o.keyType ≠ .profile ∧ o.isLocal = true)) = true)
  obtain ⟨token, kind, isLocal⟩ := of_decide_eq_true facts
  have unmarked := unmarked_of_preserved (by decide +kernel) roundTrips preserved 2 object found
    ⟨token, kind⟩
  cases isLocal.symm.trans unmarked.2.isLocal

end ScoreCrypto.Cryptoki
