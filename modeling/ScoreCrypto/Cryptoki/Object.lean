import ScoreCrypto.Cryptoki.Engine
import ScoreCrypto.Lib.Table

/-!
The objects of the library: their attributes, the policy for changing and reading them, and the
store that files every object under its own handle.
-/

namespace ScoreCrypto.Cryptoki

inductive KeyType where
  | rsaPrivate
  | rsaPublic
  | ecPrivate
  | ecPublic
  | aesSecret
  | genericSecret
  | edPrivate
  | edPublic
  | chaCha20Secret
  | profile
  deriving DecidableEq, Repr

structure KeyObject where
  handle : ObjectHandle
  slotId : SlotId
  keyType : KeyType
  keyRef : Bytes
  attributes : Attributes
  creatingSession : Option SessionHandle := none
  alwaysAuthenticate : Bool := false
  isLocal : Bool := false
  alwaysSensitive : Bool := false
  neverExtractable : Bool := false
  keyGenMechanism : MechanismType := ckUnavailableInformation
  deriving DecidableEq

namespace KeyObject

def new (handle : ObjectHandle) (slotId : SlotId) (keyType : KeyType) (keyRef : Bytes)
    (attrs : Attributes) : KeyObject :=
  { handle, slotId, keyType, keyRef, attributes := attrs.orInsert ckaToken [ckFalse] }

variable (object : KeyObject)

def boolAttrTrue (type : AttributeType) : Bool :=
  reads ckTrue (object.attributes.lookup type)

def isPrivateObject : Bool := object.boolAttrTrue ckaPrivate

def isTokenObject : Bool := object.boolAttrTrue ckaToken

def isSessionObject : Bool := !object.isTokenObject

def objectClass : Option UInt64 :=
  (object.attributes.lookup ckaClass).map bytesToUlong

def isRsa : Bool :=
  object.keyType = .rsaPublic || object.keyType = .rsaPrivate

def getModulusLen : Except Pkcs11Error Nat :=
  match object.attributes.lookup ckaModulus with
  | some modulus => .ok modulus.length
  | none => .error .invalidAttributeType

def matchesTemplate (template : List (AttributeType × Bytes)) : Bool :=
  template.all fun entry => object.attributes.lookup entry.1 = some entry.2

def size : Nat :=
  object.keyRef.length + (object.attributes.entries.map fun entry => entry.2.length + 16).sum

end KeyObject

/-! ### Templates -/

/-- What a pointer with a length gives: nothing, with a length all the same, or bytes. -/
inductive Span where
  | null (len : UInt64)
  | bytes (value : Bytes)
  deriving DecidableEq, Repr

def Span.contents : Span → Bytes
  | .null _ => []
  | .bytes value => value

def Span.missing : Span → Bool
  | .null len => len ≠ 0
  | .bytes _ => false

structure TemplateEntry where
  type : AttributeType
  value : Span
  deriving DecidableEq, Repr

def TemplateEntry.collected (entry : TemplateEntry) : Option Bytes :=
  if entry.value.missing then none else some entry.value.contents

def collectTemplate (template : List TemplateEntry) : Attributes :=
  template.foldl
    (fun map entry => match entry.collected with
      | some value => map.insert entry.type value
      | none => map) ∅

def collectTemplateVec (template : List TemplateEntry) : List (AttributeType × Bytes) :=
  template.filterMap fun entry => entry.collected.map fun value => (entry.type, value)

/-! ### The attribute policy -/

def validateAttributeChange (type : AttributeType) (oldVal : Option Bytes) (newVal : Bytes) :
    Except Pkcs11Error Unit :=
  if type = ckaSensitive ∨ type = ckaWrapWithTrusted then
    let wasTrue := reads ckTrue oldVal
    let goingFalse := reads ckFalse (some newVal)
    if wasTrue && goingFalse then .error .attributeReadOnly else .ok ()
  else if type = ckaExtractable then
    -- an empty value counts as false here, and as neither true nor false elsewhere
    let wasFalse := oldVal = some [] || reads ckFalse oldVal
    let goingTrue := reads ckTrue (some newVal)
    if wasFalse && goingTrue then .error .attributeReadOnly else .ok ()
  else if type = ckaClass ∨ type = ckaKeyType ∨ type = ckaModulus ∨ type = ckaEcParams ∨
      type = ckaModulusBits ∨ type = ckaValueLen then
    .error .attributeReadOnly
  else .ok ()

def isSecretAttribute (type : AttributeType) : Bool :=
  type = ckaValue || type = ckaPrivateExponent || type = ckaPrime1 || type = ckaPrime2 ||
    type = ckaExponent1 || type = ckaExponent2 || type = ckaCoefficient

def isPrivateComponentAttr (type : AttributeType) : Bool :=
  type = ckaPrivateExponent || type = ckaPrime1 || type = ckaPrime2 || type = ckaExponent1 ||
    type = ckaExponent2 || type = ckaCoefficient

def checkAttributeAccess (type : AttributeType) (object : KeyObject) : Except Pkcs11Error Unit :=
  if !isSecretAttribute type then .ok ()
  else if object.objectClass = some ckoData ∨ object.objectClass = some ckoPublicKey then .ok ()
  else if object.boolAttrTrue ckaSensitive then .error .attributeSensitive
  else if !object.boolAttrTrue ckaExtractable then .error .attributeSensitive
  else .ok ()

def updateDerivedAttributes (object : KeyObject) (changed : AttributeType) : KeyObject :=
  if changed = ckaSensitive then
    if reads ckFalse (object.attributes.lookup ckaSensitive) then
      { object with alwaysSensitive := false }
    else object
  else if changed = ckaExtractable then
    if reads ckTrue (object.attributes.lookup ckaExtractable) then
      { object with neverExtractable := false }
    else object
  else object

section UpdateDerivedAttributes

variable (object : KeyObject) (changed : AttributeType)

@[simp] theorem updateDerivedAttributes_attributes :
    (updateDerivedAttributes object changed).attributes = object.attributes := by
  grind [updateDerivedAttributes]

@[simp] theorem updateDerivedAttributes_handle :
    (updateDerivedAttributes object changed).handle = object.handle := by
  grind [updateDerivedAttributes]

@[simp] theorem updateDerivedAttributes_slotId :
    (updateDerivedAttributes object changed).slotId = object.slotId := by
  grind [updateDerivedAttributes]

@[simp] theorem updateDerivedAttributes_creatingSession :
    (updateDerivedAttributes object changed).creatingSession = object.creatingSession := by
  grind [updateDerivedAttributes]

end UpdateDerivedAttributes

def KeyObject.withAttribute (object : KeyObject) (type : AttributeType) (value : Bytes) : KeyObject :=
  updateDerivedAttributes { object with attributes := object.attributes.insert type value } type

/-- The loop of `C_SetAttributeValue`: an entry that is refused ends it, and those before it stay
written. -/
def writeAttributes (object : KeyObject) : List TemplateEntry → Except Pkcs11Error Unit × KeyObject
  | [] => (.ok (), object)
  | entry :: rest =>
    match entry.value with
    | .null _ => writeAttributes object rest
    | .bytes value =>
      match validateAttributeChange entry.type (object.attributes.lookup entry.type) value with
      | .error error => (.error error, object)
      | .ok () => writeAttributes (object.withAttribute entry.type value) rest

theorem writeAttributes_keeps {inv : KeyObject → Prop}
    (keeps : ∀ object type value, inv object →
      validateAttributeChange type (object.attributes.lookup type) value = .ok () →
      inv (object.withAttribute type value))
    (object : KeyObject) (template : List TemplateEntry) (start : inv object) :
    inv (writeAttributes object template).2 := by
  fun_induction writeAttributes object template with
  | case1 object => exact start
  | case2 object entry rest ulValueLen null ih => exact ih start
  | case3 object entry rest value bytes error refused => exact start
  | case4 object entry rest value bytes allowed ih => exact ih (keeps object _ _ start allowed)

theorem writeAttributes_field {α : Type} (field : KeyObject → α)
    (same : ∀ object type value, field (KeyObject.withAttribute object type value) = field object)
    (object : KeyObject) (template : List TemplateEntry) :
    field (writeAttributes object template).2 = field object :=
  writeAttributes_keeps (fun object type value holds _ => (same object type value).trans holds)
    object template rfl

/-! ### Templates laid over the attributes

What a template asks for, read off the attributes before the call.
-/

variable (attributes : Attributes)

/-- The attributes with the values of the template in their places, the last one of each. -/
def Attributes.overlay (template : List TemplateEntry) : Attributes :=
  template.foldl
    (fun map entry => match entry.value with
      | .null _ => map
      | .bytes value => map.insert entry.type value) attributes

theorem Attributes.lookup_overlay_of_forall_ne
    {template : List TemplateEntry} {type : AttributeType}
    (others : ∀ entry ∈ template, entry.type ≠ type) :
    (attributes.overlay template).lookup type = attributes.lookup type := by
  induction template generalizing attributes with
  | nil => rfl
  | cons entry rest ih =>
    have later := fun other member => others other (List.mem_cons_of_mem entry member)
    rw [overlay, List.foldl_cons, ← overlay, ih _ later]
    cases entry.value with
    | null len => rfl
    | bytes value =>
      exact Finmap.lookup_insert_of_ne _ (Ne.symm (others entry List.mem_cons_self))

/-- The policy does not let the entry replace what the entries before it leave under its type. -/
def Attributes.Refuses (earlier : List TemplateEntry) (entry : TemplateEntry) : Prop :=
  ∃ value, entry.value = .bytes value ∧
    validateAttributeChange entry.type ((attributes.overlay earlier).lookup entry.type) value ≠ .ok ()

def Attributes.Accepts (template : List TemplateEntry) : Prop :=
  ∀ earlier entry later, template = earlier ++ entry :: later → ¬attributes.Refuses earlier entry

def TemplateEntry.sets (entry : TemplateEntry) (type : AttributeType) (flag : UInt8) : Bool :=
  entry.type = type && match entry.value with
    | .null _ => false
    | .bytes value => reads flag (some value)

/-- The object with the whole template written, the histories of CKA_SENSITIVE and CKA_EXTRACTABLE
with it. -/
def KeyObject.overlaid (object : KeyObject) (template : List TemplateEntry) : KeyObject :=
  { object with
    attributes := object.attributes.overlay template
    alwaysSensitive := object.alwaysSensitive && !template.any (·.sets ckaSensitive ckFalse)
    neverExtractable := object.neverExtractable && !template.any (·.sets ckaExtractable ckTrue) }

theorem Attributes.accepts_cons (entry : TemplateEntry) (rest : List TemplateEntry) :
    attributes.Accepts (entry :: rest) ↔
      ¬attributes.Refuses [] entry ∧ (attributes.overlay [entry]).Accepts rest := by
  constructor
  · intro accepts
    refine ⟨accepts [] entry rest rfl, fun earlier other later split => ?_⟩
    exact accepts (entry :: earlier) other later (by rw [split, List.cons_append])
  · rintro ⟨first, others⟩ earlier other later split
    cases earlier with
    | nil =>
      cases split
      exact first
    | cons head earlier =>
      cases split
      exact others earlier other later rfl

section Overlaid

variable (object : KeyObject) {entry : TemplateEntry} (rest : List TemplateEntry)

theorem KeyObject.overlaid_nil : object.overlaid [] = object := by
  simp [overlaid, Attributes.overlay]

theorem KeyObject.overlaid_null {len : UInt64} (null : entry.value = .null len) :
    object.overlaid (entry :: rest) = object.overlaid rest := by
  simp [overlaid, Attributes.overlay, TemplateEntry.sets, null]

theorem KeyObject.overlaid_bytes {value : Bytes} (bytes : entry.value = .bytes value) :
    object.overlaid (entry :: rest) = (object.withAttribute entry.type value).overlaid rest := by
  have differ : ckaSensitive ≠ ckaExtractable := by decide
  rw [KeyObject.withAttribute, updateDerivedAttributes]
  by_cases sensitive : entry.type = ckaSensitive
  · cases clears : reads ckFalse (some value) <;>
      simp [overlaid, Attributes.overlay, TemplateEntry.sets, bytes, sensitive, clears, differ]
  by_cases extractable : entry.type = ckaExtractable
  · cases clears : reads ckTrue (some value) <;>
      simp [overlaid, Attributes.overlay, TemplateEntry.sets, bytes, extractable, clears, differ.symm]
  · simp [overlaid, Attributes.overlay, TemplateEntry.sets, bytes, sensitive, extractable]

end Overlaid

theorem writeAttributes_ok_iff (object : KeyObject) (template : List TemplateEntry) :
    ((writeAttributes object template).1 = .ok () ↔ object.attributes.Accepts template) ∧
      ((writeAttributes object template).1 = .ok () →
        (writeAttributes object template).2 = object.overlaid template) := by
  fun_induction writeAttributes object template with
  | case1 object =>
    refine ⟨iff_of_true rfl fun earlier entry later split => ?_, fun _ => object.overlaid_nil.symm⟩
    simp at split
  | case2 object entry rest len null ih =>
    rw [object.overlaid_null rest null, Attributes.accepts_cons]
    simpa [Attributes.Refuses, Attributes.overlay, null] using ih
  | case3 object entry rest value bytes error refused =>
    rw [Attributes.accepts_cons]
    simp [Attributes.Refuses, Attributes.overlay, bytes, refused]
  | case4 object entry rest value bytes allowed ih =>
    rw [object.overlaid_bytes rest bytes, Attributes.accepts_cons]
    simpa [Attributes.Refuses, Attributes.overlay, KeyObject.withAttribute, bytes, allowed] using ih

structure Attributes.Writes (attributes : Attributes) (template written : List TemplateEntry) : Prop where
  accepted : attributes.Accepts written
  stops : ∃ later, template = written ++ later ∧
    ∀ entry, later.head? = some entry → attributes.Refuses written entry

theorem writeAttributes_writes (object : KeyObject) (template : List TemplateEntry) :
    ∃ written, object.attributes.Writes template written ∧
      (writeAttributes object template).2 = object.overlaid written ∧
      ((writeAttributes object template).1 = .ok () ↔ written = template) := by
  have stopped : ∃ written later, template = written ++ later ∧
      writeAttributes object written = (.ok (), (writeAttributes object template).2) ∧
      (∀ entry, later.head? = some entry → ∃ value, entry.value = .bytes value ∧
        validateAttributeChange entry.type
          ((writeAttributes object template).2.attributes.lookup entry.type) value ≠ .ok ()) ∧
      ((writeAttributes object template).1 = .ok () ↔ later = []) := by
    fun_induction writeAttributes object template with
    | case1 object => exact ⟨[], [], rfl, rfl, nofun, iff_of_true rfl rfl⟩
    | case2 object entry rest len null ih =>
      rcases ih with ⟨written, later, rfl, wrote, refuses, ends⟩
      refine ⟨entry :: written, later, rfl, ?_, refuses, ends⟩
      rw [writeAttributes, null]
      exact wrote
    | case3 object entry rest value bytes error refused =>
      refine ⟨[], entry :: rest, rfl, rfl, ?_, by simp⟩
      rintro _ ⟨⟩
      exact ⟨value, bytes, by simp [refused]⟩
    | case4 object entry rest value bytes allowed ih =>
      rcases ih with ⟨written, later, rfl, wrote, refuses, ends⟩
      refine ⟨entry :: written, later, rfl, ?_, refuses, ends⟩
      rw [writeAttributes, bytes]
      simp only [allowed]
      exact wrote
  rcases stopped with ⟨written, later, rfl, wrote, refuses, ends⟩
  have loop := writeAttributes_ok_iff object written
  rw [wrote] at loop
  rw [loop.2 rfl] at refuses
  refine ⟨written, ⟨loop.1.mp rfl, later, rfl, refuses⟩, loop.2 rfl, ends.trans ?_⟩
  simp

/-! ### Reading an attribute -/

def keyObjectFieldAttr (object : KeyObject) (type : AttributeType) : Option Bytes :=
  let boolByte (flag : Bool) : Bytes := [if flag then ckTrue else ckFalse]
  if type = ckaLocal then some (boolByte object.isLocal)
  else if type = ckaAlwaysSensitive then some (boolByte object.alwaysSensitive)
  else if type = ckaNeverExtractable then some (boolByte object.neverExtractable)
  else if type = ckaAlwaysAuthenticate then some (boolByte object.alwaysAuthenticate)
  else if type = ckaKeyGenMechanism then some (ulongBytes object.keyGenMechanism)
  else none

/-- The attribute that the engine is asked for; only the lower half of the number is looked at. -/
def engineAttribute (type : AttributeType) : Option EngineAttribute :=
  EngineAttribute.fromU32 type.toUInt32

def getAttribute (engine : Option CryptoProvider) (object : KeyObject) (type : AttributeType) :
    Except Pkcs11Error Bytes := do
  let some e := engine | throw .invalidSlotId
  let some asked := engineAttribute type | throw .invalidAttributeType
  let value ← match object.keyType with
    | .rsaPrivate => ofEngine (e.rsaAttribute object.keyRef true asked)
    | .rsaPublic => ofEngine (e.rsaAttribute object.keyRef false asked)
    | .ecPrivate => ofEngine (e.ecAttribute object.keyRef true asked)
    | .ecPublic => ofEngine (e.ecAttribute object.keyRef false asked)
    | .aesSecret => ofEngine (e.aesAttribute object.keyRef asked)
    | .edPrivate => ofEngine (e.edAttribute object.keyRef true asked)
    | .edPublic => ofEngine (e.edAttribute object.keyRef false asked)
    | .chaCha20Secret => ofEngine (e.aesAttribute object.keyRef asked)
    | .genericSecret => ofEngine (e.aesAttribute object.keyRef asked)
    | .profile => throw .invalidAttributeType
  return value.toBytes

inductive Reading where
  | value (bytes : Bytes)
  | sensitive
  | unavailable
  | failed (error : Pkcs11Error)
  deriving DecidableEq, Repr

def KeyObject.isPrivateKeyObject (object : KeyObject) : Bool :=
  object.keyType = .rsaPrivate || object.objectClass = some ckoPrivateKey

def readAttribute (engine : Option CryptoProvider) (object : KeyObject) (type : AttributeType) :
    Reading :=
  if checkAttributeAccess type object = .error .attributeSensitive then .sensitive
  else
    match keyObjectFieldAttr object type with
    | some bytes => .value bytes
    | none =>
      match object.attributes.lookup type with
      | some cached => .value cached
      | none =>
        if object.isPrivateKeyObject && isPrivateComponentAttr type then .sensitive
        else
          match getAttribute engine object type with
          | .ok bytes => .value bytes
          | .error .attributeSensitive => .sensitive
          | .error .invalidAttributeType => .unavailable
          | .error error => .failed error

structure Query where
  type : AttributeType
  room : Option UInt64
  deriving DecidableEq, Repr

structure Answer where
  ulValueLen : UInt64
  bytes : Option Bytes
  deriving DecidableEq, Repr

structure Marks where
  tooSmall : Bool := false
  sensitive : Bool := false
  unavailable : Bool := false
  deriving DecidableEq, Repr

def Marks.rv (marks : Marks) : Rv :=
  if marks.sensitive then .attributeSensitive
  else if marks.unavailable then .attributeTypeInvalid
  else if marks.tooSmall then .bufferTooSmall
  else .ok

def Answer.none : Answer := ⟨ckUnavailableInformation, Option.none⟩

def fillValue (query : Query) (value : Bytes) (marks : Marks) : Answer × Marks :=
  let len := UInt64.ofNat value.length
  match query.room with
  | none => (⟨len, none⟩, marks)
  | some room =>
    if room.toNat < value.length then (.none, { marks with tooSmall := true })
    else (⟨len, some value⟩, marks)

/-- The loop of `C_GetAttributeValue`; an engine that fails otherwise ends it. -/
def answerQueries (engine : Option CryptoProvider) (object : KeyObject) (marks : Marks) :
    List Query → List Answer × Except Pkcs11Error Marks
  | [] => ([], .ok marks)
  | query :: rest =>
    match readAttribute engine object query.type with
    | .failed error => ([], .error error)
    | .sensitive =>
      let later := answerQueries engine object { marks with sensitive := true } rest
      (.none :: later.1, later.2)
    | .unavailable =>
      let later := answerQueries engine object { marks with unavailable := true } rest
      (.none :: later.1, later.2)
    | .value value =>
      let filled := fillValue query value marks
      let later := answerQueries engine object filled.2 rest
      (filled.1 :: later.1, later.2)

/-! ### The store -/

structure ObjectStore where
  objects : Finmap fun _ : ObjectHandle => KeyObject
  filed : ∀ handle object, objects.lookup handle = some object → object.handle = handle

namespace ObjectStore

variable (store : ObjectStore)

def get (handle : ObjectHandle) : Option KeyObject := store.objects.lookup handle

def handles : Finset ObjectHandle := store.objects.keys

def empty : ObjectStore where
  objects := ∅
  filed := by
    intro handle object found
    cases found.symm.trans (Finmap.lookup_empty handle)

def insert (object : KeyObject) : ObjectStore where
  objects := store.objects.insert object.handle object
  filed := by
    intro handle found stored
    rcases eq_or_ne handle object.handle with rfl | differ
    · rw [Finmap.lookup_insert] at stored
      rw [← Option.some.inj stored]
    · rw [Finmap.lookup_insert_of_ne _ differ] at stored
      exact store.filed handle found stored

def erase (handle : ObjectHandle) : ObjectStore where
  objects := store.objects.erase handle
  filed := by
    intro other object found
    rcases eq_or_ne other handle with rfl | differ
    · cases found.symm.trans (Finmap.lookup_erase _ _)
    · exact store.filed other object ((Finmap.lookup_erase_ne differ).symm.trans found)

def retain (keep : KeyObject → Bool) : ObjectStore where
  objects := ScoreCrypto.retain store.objects fun _ object => keep object
  filed := by
    intro handle object found
    rw [lookup_retain] at found
    exact store.filed handle object (Option.filter_eq_some_iff.mp found).1

@[simp] theorem get_empty (handle : ObjectHandle) : empty.get handle = none :=
  Finmap.lookup_empty handle

theorem get_insert (object : KeyObject) (handle : ObjectHandle) :
    (store.insert object).get handle =
      if handle = object.handle then some object else store.get handle := by
  split
  · subst handle
    exact Finmap.lookup_insert _
  · exact Finmap.lookup_insert_of_ne _ ‹_›

theorem get_erase (handle other : ObjectHandle) :
    (store.erase handle).get other = if other = handle then none else store.get other := by
  split
  · subst other
    exact Finmap.lookup_erase _ _
  · exact Finmap.lookup_erase_ne ‹_›

@[simp] theorem get_retain (keep : KeyObject → Bool) (handle : ObjectHandle) :
    (store.retain keep).get handle = (store.get handle).filter keep :=
  lookup_retain _ _

variable {store} in
theorem ext_get {other : ObjectStore} (same : ∀ handle, store.get handle = other.get handle) :
    store = other := by
  have objects : store.objects = other.objects := Finmap.ext_lookup same
  cases store
  cases other
  cases objects
  rfl

theorem mem_handles (handle : ObjectHandle) :
    handle ∈ store.handles ↔ ∃ object, store.get handle = some object := by
  rw [handles, Finmap.mem_keys, get, ← Option.isSome_iff_exists, Finmap.lookup_isSome]

theorem handle_of_get {handle : ObjectHandle} {object : KeyObject}
    (found : store.get handle = some object) : object.handle = handle :=
  store.filed handle object found

end ObjectStore

end ScoreCrypto.Cryptoki
