import ScoreCrypto.Cryptoki.Ratchet

/-! What the objects that the library makes have in common with the templates they are made of. -/

namespace ScoreCrypto.Cryptoki

namespace Attributes

theorem lookup_orInsert (attrs : Attributes) (type other : AttributeType) (value : Bytes) :
    (attrs.orInsert type value).lookup other =
      if other = type then some ((attrs.lookup type).getD value) else attrs.lookup other := by
  rw [orInsert]
  by_cases present : type ∈ attrs
  · rcases Finmap.mem_iff.mp present with ⟨known, found⟩
    by_cases same : other = type
    · subst same
      simp [present, found]
    · simp [present, same]
  · have missing := Finmap.lookup_eq_none.mpr present
    by_cases same : other = type
    · subst same
      simp [present, missing]
    · simp [present, same, Finmap.lookup_insert_of_ne]

theorem lookup_orInsert_of_ne (attrs : Attributes) {type other : AttributeType} (value : Bytes)
    (differ : other ≠ type) : (attrs.orInsert type value).lookup other = attrs.lookup other := by
  rw [lookup_orInsert, if_neg differ]

theorem reads_orInsert (attrs : Attributes) (type : AttributeType) {truth other : UInt8}
    (differ : other ≠ truth) :
    reads truth ((attrs.orInsert type [other]).lookup type) = reads truth (attrs.lookup type) := by
  rw [lookup_orInsert, if_pos rfl]
  cases attrs.lookup type with
  | some value => rfl
  | none => simp [reads, differ]

theorem lookup_foldl_insert (values : List (AttributeType × Bytes)) (attrs : Attributes)
    {type : AttributeType} (other : ∀ entry ∈ values, entry.1 ≠ type) :
    (values.foldl (fun attrs entry => attrs.insert entry.1 entry.2) attrs).lookup type =
      attrs.lookup type := by
  induction values generalizing attrs with
  | nil => rfl
  | cons entry rest ih =>
    rw [List.foldl_cons, ih _ fun later member => other later (List.mem_cons_of_mem _ member)]
    exact Finmap.lookup_insert_of_ne _ (other entry List.mem_cons_self).symm

end Attributes

/-- An attribute that the library does not fill in itself. -/
structure Chosen (type : AttributeType) : Prop where
  objectClass : type ≠ ckaClass
  keyType : type ≠ ckaKeyType
  valueLen : type ≠ ckaValueLen
  uniqueId : type ≠ ckaUniqueId
  modulus : type ≠ ckaModulus
  modulusBits : type ≠ ckaModulusBits
  publicExponent : type ≠ ckaPublicExponent
  ecParams : type ≠ ckaEcParams
  ecPoint : type ≠ ckaEcPoint

theorem chosen_token : Chosen ckaToken := by constructor <;> decide

theorem chosen_sensitive : Chosen ckaSensitive := by constructor <;> decide

theorem chosen_extractable : Chosen ckaExtractable := by constructor <;> decide

section Generated

variable {type : AttributeType} (chosen : Chosen type) {slots : List CryptoProvider}
  {slotId : SlotId} {seed idSeed : Nat} {mechanism : MechanismType}

include chosen

theorem lookup_secretKeyAttrs (keyType : UInt64) (keyLen : Nat) (template : Attributes) :
    (secretKeyAttrs keyType keyLen template).lookup type = template.lookup type := by
  rw [secretKeyAttrs, Finmap.lookup_insert_of_ne _ chosen.valueLen,
    Finmap.lookup_insert_of_ne _ chosen.keyType, Finmap.lookup_insert_of_ne _ chosen.objectClass]

theorem lookup_identified (attrs : Attributes) (value : Bytes) :
    (attrs.insert ckaUniqueId value).lookup type = attrs.lookup type :=
  Finmap.lookup_insert_of_ne _ chosen.uniqueId

omit chosen in
theorem ok_of_unless {α : Type} {condition : Prop} [Decidable condition] {error : Pkcs11Error}
    {rest : Except Pkcs11Error α} {value : α}
    (made : (if condition then (do throw error; rest) else rest) = .ok value) : rest = .ok value := by
  split at made
  · cases made
  · exact made

variable {generated : GeneratedKey} {attrs : Attributes} {keyLen : Nat}

theorem lookup_generateAesKey
    (made : generateAesKey slots slotId seed idSeed keyLen attrs = .ok generated) :
    generated.attrs.lookup type = attrs.lookup type := by
  rcases bind_eq_ok.mp (ok_of_unless made) with ⟨e, _, generating⟩
  rcases bind_eq_ok.mp generating with ⟨keyRef, _, naming⟩
  rcases bind_eq_ok.mp naming with ⟨uniqueId, _, done⟩
  cases done
  exact (lookup_identified chosen _ _).trans (lookup_secretKeyAttrs chosen _ _ _)

theorem lookup_generateGenericSecretKey
    (made : generateGenericSecretKey slots slotId seed idSeed keyLen attrs = .ok generated) :
    generated.attrs.lookup type = attrs.lookup type := by
  rcases bind_eq_ok.mp (ok_of_unless made) with ⟨e, _, generating⟩
  rcases bind_eq_ok.mp generating with ⟨keyRef, _, naming⟩
  rcases bind_eq_ok.mp naming with ⟨uniqueId, _, done⟩
  cases done
  exact (lookup_identified chosen _ _).trans (lookup_secretKeyAttrs chosen _ _ _)

theorem lookup_generateLegacySecretKey {keyType : UInt64}
    (made : generateLegacySecretKey slots slotId seed mechanism keyLen keyType attrs =
      .ok generated) :
    generated.attrs.lookup type = attrs.lookup type := by
  rcases bind_eq_ok.mp made with ⟨e, _, generating⟩
  rcases bind_eq_ok.mp generating with ⟨keyRef, _, done⟩
  cases done
  exact lookup_secretKeyAttrs chosen _ _ _

theorem lookup_generateChacha20Key
    (made : generateChacha20Key slots slotId seed attrs = .ok generated) :
    generated.attrs.lookup type = attrs.lookup type := by
  rcases bind_eq_ok.mp made with ⟨e, _, generating⟩
  rcases bind_eq_ok.mp generating with ⟨keyRef, _, done⟩
  cases done
  exact lookup_secretKeyAttrs chosen _ _ _

theorem lookup_generated
    (made : generateKeyWith slots slotId seed idSeed mechanism attrs = .ok generated) :
    generated.attrs.lookup type = attrs.lookup type := by
  rw [generateKeyWith] at made
  split_ifs at made
  · exact lookup_generateAesKey chosen made
  · exact lookup_generateLegacySecretKey chosen made
  · exact lookup_generateLegacySecretKey chosen made
  · exact lookup_generateChacha20Key chosen made
  · exact lookup_generateGenericSecretKey chosen made

def KeepsTemplates (type : AttributeType) (pubAttrs privAttrs : Attributes)
    (pair : GeneratedKey × GeneratedKey) : Prop :=
  pair.2.attrs.lookup type = pubAttrs.lookup type ∧ pair.1.attrs.lookup type = privAttrs.lookup type

theorem lookup_keyPairAttrs (keyType : UInt64) {common publicOnly : List (AttributeType × Bytes)}
    (others : ∀ entry ∈ common ++ publicOnly, entry.1 ≠ type) (pubAttrs privAttrs : Attributes) :
    (keyPairAttrs keyType common publicOnly pubAttrs privAttrs).1.lookup type = pubAttrs.lookup type ∧
      (keyPairAttrs keyType common publicOnly pubAttrs privAttrs).2.lookup type =
        privAttrs.lookup type := by
  constructor
  · refine Attributes.lookup_foldl_insert _ _ fun entry member => ?_
    grind [chosen.objectClass, chosen.keyType]
  · refine Attributes.lookup_foldl_insert _ _ fun entry member => ?_
    grind [chosen.objectClass, chosen.keyType]

variable {pair : GeneratedKey × GeneratedKey} {pubAttrs privAttrs : Attributes}

theorem lookup_generateRsaKeyPair {bits : UInt32}
    (made : generateRsaKeyPair slots slotId seed bits pubAttrs privAttrs = .ok pair) :
    KeepsTemplates type pubAttrs privAttrs pair := by
  rcases bind_eq_ok.mp (ok_of_unless made) with ⟨e, _, generating⟩
  rcases bind_eq_ok.mp generating with ⟨keys, _, done⟩
  cases done
  exact lookup_keyPairAttrs chosen _ (by
    simp [chosen.modulus.symm, chosen.publicExponent.symm, chosen.modulusBits.symm]) _ _

theorem lookup_generateEcKeyPair {curve : EcCurve}
    (made : generateEcKeyPair slots slotId seed curve pubAttrs privAttrs = .ok pair) :
    KeepsTemplates type pubAttrs privAttrs pair := by
  rcases bind_eq_ok.mp made with ⟨e, _, generating⟩
  rcases bind_eq_ok.mp generating with ⟨keys, _, done⟩
  cases done
  exact lookup_keyPairAttrs chosen _ (by simp [chosen.ecParams.symm, chosen.ecPoint.symm]) _ _

theorem lookup_generateEdKeyPair {curve : EdwardsCurve}
    (made : generateEdKeyPair slots slotId seed curve pubAttrs privAttrs = .ok pair) :
    KeepsTemplates type pubAttrs privAttrs pair := by
  rcases bind_eq_ok.mp made with ⟨e, _, generating⟩
  rcases bind_eq_ok.mp generating with ⟨keys, _, done⟩
  cases done
  exact lookup_keyPairAttrs chosen _ (by simp [chosen.ecParams.symm, chosen.ecPoint.symm]) _ _

theorem lookup_generatedPair
    (made : generateKeyPairWith slots slotId seed mechanism pubAttrs privAttrs = .ok pair) :
    KeepsTemplates type pubAttrs privAttrs pair := by
  have unmapped {result : Except Pkcs11Error (GeneratedKey × GeneratedKey)}
      (mapped : result.mapError Pkcs11Error.toCkr = .ok pair) : result = .ok pair := by
    cases result <;> cases mapped
    rfl
  simp only [generateKeyPairWith] at made
  split_ifs at made
  · exact lookup_generateRsaKeyPair chosen (unmapped made)
  · exact lookup_generateEcKeyPair chosen (unmapped made)
  · exact lookup_generateEdKeyPair chosen (unmapped made)

end Generated

/-! ### The objects themselves -/

/-- The object has the attributes it was asked to have, as far as they were left to choose. -/
def KeyObject.MadeOf (object : KeyObject) (attrs : Attributes) : Prop :=
  ∀ type, Chosen type → object.attributes.lookup type = (attrs.orInsert ckaToken [ckFalse]).lookup type

namespace KeyObject.MadeOf

variable {object : KeyObject} {attrs : Attributes} (made : object.MadeOf attrs)

include made

theorem isTokenObject_eq : object.isTokenObject = attrs.asksForToken := by
  rw [KeyObject.isTokenObject, KeyObject.boolAttrTrue, made ckaToken chosen_token]
  exact Attributes.reads_orInsert attrs ckaToken (by decide)

theorem lookup_eq {type : AttributeType} (chosen : Chosen type) (other : type ≠ ckaToken) :
    object.attributes.lookup type = attrs.lookup type := by
  rw [made type chosen, Attributes.lookup_orInsert_of_ne _ _ other]

end KeyObject.MadeOf

theorem madeOf_new (handle : ObjectHandle) (slotId : SlotId) (keyType : KeyType) (keyRef : Bytes)
    (attrs : Attributes) : (KeyObject.new handle slotId keyType keyRef attrs).MadeOf attrs :=
  fun _ _ => rfl

variable {attrs : Attributes}

theorem madeOf_of_lookup {object : KeyObject} {filled : Attributes}
    (same : ∀ type, Chosen type → filled.lookup type = attrs.lookup type)
    (made : object.MadeOf filled) : object.MadeOf attrs := by
  intro type chosen
  rw [made type chosen, Attributes.lookup_orInsert, Attributes.lookup_orInsert, same type chosen,
    same ckaToken chosen_token]

theorem madeOf_generated {slots : List CryptoProvider} {slotId : SlotId} {seed idSeed : Nat}
    {mechanism : MechanismType} {generated : GeneratedKey}
    (made : generateKeyWith slots slotId seed idSeed mechanism attrs = .ok generated)
    (handle : ObjectHandle) (alwaysSensitive neverExtractable alwaysAuthenticate : Bool) :
    (generated.object handle slotId alwaysSensitive neverExtractable alwaysAuthenticate).MadeOf
      attrs :=
  madeOf_of_lookup (fun _ chosen => lookup_generated chosen made)
    (madeOf_new handle slotId generated.keyType generated.keyRef generated.attrs)

theorem madeOf_pair {slots : List CryptoProvider} {slotId : SlotId} {seed : Nat}
    {mechanism : MechanismType} {pubAttrs privAttrs : Attributes}
    {generated : GeneratedKey × GeneratedKey}
    (made : generateKeyPairWith slots slotId seed mechanism pubAttrs privAttrs = .ok generated)
    (pub priv : ObjectHandle) (alwaysSensitive neverExtractable alwaysAuthenticate : Bool) :
    (generated.2.publicObject pub slotId).MadeOf pubAttrs ∧
      (generated.1.object priv slotId alwaysSensitive neverExtractable alwaysAuthenticate).MadeOf
        privAttrs :=
  ⟨madeOf_of_lookup (fun _ chosen => (lookup_generatedPair chosen made).1)
      (madeOf_new pub slotId generated.2.keyType generated.2.keyRef generated.2.attrs),
    madeOf_of_lookup (fun _ chosen => (lookup_generatedPair chosen made).2)
      (madeOf_new priv slotId generated.1.keyType generated.1.keyRef generated.1.attrs)⟩

theorem madeOf_unwrapped (handle : ObjectHandle) (slotId : SlotId) (keyBytes : Bytes)
    (attrs : Attributes) (mechanism : MechanismType) :
    (unwrappedObject handle slotId keyBytes attrs mechanism).MadeOf attrs :=
  madeOf_of_lookup (fun _ chosen => by
    rw [Finmap.lookup_insert_of_ne _ chosen.valueLen,
      Attributes.lookup_orInsert_of_ne _ _ chosen.keyType,
      Attributes.lookup_orInsert_of_ne _ _ chosen.objectClass])
    (madeOf_new handle slotId .aesSecret keyBytes _)

theorem madeOf_derived (handle : ObjectHandle) (slotId : SlotId) (base : KeyObject)
    (derivedBytes uniqueId : Bytes) (okmLen : UInt64) (attrs : Attributes)
    (mechanism : MechanismType) :
    (derivedObject handle slotId base derivedBytes uniqueId okmLen attrs mechanism).MadeOf attrs :=
  madeOf_of_lookup (fun _ chosen => by
    rw [Finmap.lookup_insert_of_ne _ chosen.uniqueId, Finmap.lookup_insert_of_ne _ chosen.valueLen,
      Attributes.lookup_orInsert_of_ne _ _ chosen.keyType,
      Attributes.lookup_orInsert_of_ne _ _ chosen.objectClass])
    (madeOf_new handle slotId .aesSecret derivedBytes _)

theorem foldl_derived {α : Type} (field : KeyObject → α)
    (same : ∀ object type, field (updateDerivedAttributes object type) = field object)
    (changed : List AttributeType) (object : KeyObject) :
    field (changed.foldl updateDerivedAttributes object) = field object := by
  induction changed generalizing object with
  | nil => rfl
  | cons type rest ih => exact (ih _).trans (same object type)

section Copy

variable (source : KeyObject) (handle : ObjectHandle) (slotId : SlotId) (attrs : Attributes)
  (overridden : List AttributeType)

@[simp] theorem copyOf_slotId : (copyOf source handle slotId attrs overridden).slotId = slotId :=
  foldl_derived KeyObject.slotId updateDerivedAttributes_slotId overridden _

@[simp] theorem copyOf_creatingSession :
    (copyOf source handle slotId attrs overridden).creatingSession = none :=
  foldl_derived KeyObject.creatingSession updateDerivedAttributes_creatingSession overridden _

end Copy

theorem madeOf_copy (source : KeyObject) (handle : ObjectHandle) (slotId : SlotId)
    (attrs : Attributes) (overridden : List AttributeType) :
    (copyOf source handle slotId attrs overridden).MadeOf attrs := by
  intro type _
  rw [copyOf_attributes]

theorem lookup_applyOverrides_of_order {overrides copied : Attributes}
    {order : List AttributeType} (applied : applyOverrides overrides attrs order = .ok copied)
    (type : AttributeType) :
    copied.lookup type =
      if type ∈ order then (overrides.lookup type).or (attrs.lookup type) else attrs.lookup type := by
  fun_induction applyOverrides overrides attrs order with
  | case1 attrs =>
    cases applied
    simp
  | case2 attrs first rest missing ih =>
    rw [ih applied]
    by_cases same : type = first
    · subst same
      simp [missing]
    · simp [same]
  | case3 attrs first rest value found error refused => cases applied
  | case4 attrs first rest value found allowed ih =>
    rw [ih applied]
    by_cases same : type = first
    · subst same
      simp [found]
    · simp [same, Finmap.lookup_insert_of_ne]

theorem lookup_applyOverrides {overrides copied : Attributes} {order : List AttributeType}
    (each : ∀ type, type ∈ order ↔ type ∈ overrides.keys)
    (applied : applyOverrides overrides attrs order = .ok copied) (type : AttributeType) :
    copied.lookup type = (overrides.lookup type).or (attrs.lookup type) := by
  rw [lookup_applyOverrides_of_order applied type]
  split_ifs with member
  · rfl
  · have missing : overrides.lookup type = none := by
      rw [Finmap.lookup_eq_none, ← Finmap.mem_keys, ← each type]
      exact member
    rw [missing, Option.none_or]

end ScoreCrypto.Cryptoki
