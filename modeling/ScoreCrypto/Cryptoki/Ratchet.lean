import ScoreCrypto.Cryptoki.ObjectView

/-!
The protection of a key as a ratchet: what writing and copying attributes can make of
`CKA_SENSITIVE` and `CKA_EXTRACTABLE`, and what can be read of the key afterwards.
-/

namespace ScoreCrypto.Cryptoki

open Fallible ObjectStore

/-! ### Attributes that are only tightened -/

structure Attributes.TightenedTo (before after : Attributes) : Prop where
  sensitive : reads ckTrue (before.lookup ckaSensitive) = true →
    reads ckTrue (after.lookup ckaSensitive) = true
  extractable : reads ckTrue (after.lookup ckaExtractable) = true →
    reads ckTrue (before.lookup ckaExtractable) = true
  objectClass : after.lookup ckaClass = before.lookup ckaClass

namespace Attributes.TightenedTo

theorem refl (attributes : Attributes) : attributes.TightenedTo attributes := ⟨id, id, rfl⟩

theorem trans {first second third : Attributes} (one : first.TightenedTo second)
    (two : second.TightenedTo third) : first.TightenedTo third :=
  ⟨two.sensitive ∘ one.sensitive, one.extractable ∘ two.extractable,
    two.objectClass.trans one.objectClass⟩

theorem insert_other (attributes : Attributes) {type : AttributeType} (value : Bytes)
    (sensitive : type ≠ ckaSensitive) (extractable : type ≠ ckaExtractable)
    (objectClass : type ≠ ckaClass) : attributes.TightenedTo (attributes.insert type value) := by
  constructor
  · rw [Finmap.lookup_insert_of_ne _ sensitive.symm]
    exact id
  · rw [Finmap.lookup_insert_of_ne _ extractable.symm]
    exact id
  · exact Finmap.lookup_insert_of_ne _ objectClass.symm

end Attributes.TightenedTo

/-! ### What the policy refuses -/

theorem validate_sensitive (old : Option Bytes) (new : Bytes) :
    validateAttributeChange ckaSensitive old new = .ok () ↔
      ¬(reads ckTrue old = true ∧ reads ckFalse (some new) = true) := by
  rw [validateAttributeChange, if_pos (Or.inl rfl)]
  simp

theorem validate_extractable (old : Option Bytes) (new : Bytes) :
    validateAttributeChange ckaExtractable old new = .ok () ↔
      ¬((old = some [] ∨ reads ckFalse old = true) ∧ reads ckTrue (some new) = true) := by
  rw [validateAttributeChange, if_neg (by decide), if_pos rfl]
  simp [imp_iff_not_or]

theorem validate_class (old : Option Bytes) (new : Bytes) :
    validateAttributeChange ckaClass old new = .error .attributeReadOnly := by
  rw [validateAttributeChange, if_neg (by decide), if_neg (by decide), if_pos (Or.inl rfl)]

/-- The writes that the policy judges by their first byte: a true `CKA_SENSITIVE` meets a value that
is true or false, and `CKA_EXTRACTABLE` is made true only where it is there and empty, false or
true. -/
structure PlainWrite (type : AttributeType) (old : Option Bytes) (new : Bytes) : Prop where
  sensitive : type = ckaSensitive → reads ckTrue old = true →
    reads ckTrue (some new) = true ∨ reads ckFalse (some new) = true
  extractable : type = ckaExtractable → reads ckTrue (some new) = true →
    old = some [] ∨ reads ckFalse old = true ∨ reads ckTrue old = true

variable {attributes : Attributes} {type : AttributeType}

theorem PlainWrite.tightens {value : Bytes} (plain : PlainWrite type (attributes.lookup type) value)
    (allowed : validateAttributeChange type (attributes.lookup type) value = .ok ()) :
    attributes.TightenedTo (attributes.insert type value) := by
  by_cases sensitive : type = ckaSensitive
  · subst sensitive
    refine ⟨fun wasTrue => ?_, ?_, ?_⟩
    · rw [Finmap.lookup_insert]
      rcases plain.sensitive rfl wasTrue with isTrue | isFalse
      · exact isTrue
      · exact absurd ⟨wasTrue, isFalse⟩ ((validate_sensitive _ _).mp allowed)
    · rw [Finmap.lookup_insert_of_ne _ (by decide)]
      exact id
    · exact Finmap.lookup_insert_of_ne _ (by decide)
  · by_cases extractable : type = ckaExtractable
    · subst extractable
      refine ⟨?_, fun isTrue => ?_, ?_⟩
      · rw [Finmap.lookup_insert_of_ne _ (by decide)]
        exact id
      · rw [Finmap.lookup_insert] at isTrue
        have refused := (validate_extractable _ _).mp allowed
        rcases plain.extractable rfl isTrue with empty | wasFalse | wasTrue
        · exact absurd ⟨.inl empty, isTrue⟩ refused
        · exact absurd ⟨.inr wasFalse, isTrue⟩ refused
        · exact wasTrue
      · exact Finmap.lookup_insert_of_ne _ (by decide)
    · refine .insert_other attributes value sensitive extractable ?_
      intro isClass
      subst isClass
      cases (validate_class _ _).symm.trans allowed

/-! ### The loops over a template -/

def PlainWrites (attributes : Attributes) : List TemplateEntry → Prop
  | [] => True
  | entry :: rest =>
    match entry.value with
    | .null _ => PlainWrites attributes rest
    | .bytes value =>
      validateAttributeChange entry.type (attributes.lookup entry.type) value = .ok () →
        PlainWrite entry.type (attributes.lookup entry.type) value ∧
          PlainWrites (attributes.insert entry.type value) rest

variable (object : KeyObject)

@[simp] theorem KeyObject.withAttribute_attributes (type : AttributeType)
    (value : Bytes) : (object.withAttribute type value).attributes = object.attributes.insert type value :=
  updateDerivedAttributes_attributes _ _

theorem writeAttributes_tightens (template : List TemplateEntry)
    (plain : PlainWrites object.attributes template) :
    object.attributes.TightenedTo (writeAttributes object template).2.attributes := by
  fun_induction writeAttributes object template with
  | case1 object => exact .refl _
  | case2 object entry rest len null ih =>
    simp only [PlainWrites, null] at plain
    exact ih plain
  | case3 object entry rest value bytes error refused => exact .refl _
  | case4 object entry rest value bytes allowed ih =>
    simp only [PlainWrites, bytes] at plain
    rcases plain allowed with ⟨first, plain⟩
    have later := ih (by simpa using plain)
    rw [KeyObject.withAttribute_attributes] at later
    exact (first.tightens allowed).trans later

def PlainOverrides (overrides attributes : Attributes) : Prop :=
  ∀ type value, overrides.lookup type = some value → PlainWrite type (attributes.lookup type) value

theorem applyOverrides_tightens {overrides attributes copied : Attributes}
    {order : List AttributeType} (distinct : order.Nodup)
    (plain : ∀ type ∈ order, ∀ value, overrides.lookup type = some value →
      PlainWrite type (attributes.lookup type) value)
    (applied : applyOverrides overrides attributes order = .ok copied) :
    attributes.TightenedTo copied := by
  fun_induction applyOverrides overrides attributes order with
  | case1 attributes =>
    cases applied
    exact .refl _
  | case2 attributes type rest none ih =>
    exact ih distinct.tail (fun other member => plain other (List.mem_cons_of_mem _ member)) applied
  | case3 attributes type rest value found error refused => cases applied
  | case4 attributes type rest value found allowed ih =>
    have first := (plain type List.mem_cons_self value found).tightens allowed
    refine first.trans (ih distinct.tail ?_ applied)
    -- a later override meets the value that the source has
    intro other member later there
    have differ : other ≠ type := fun same => (List.nodup_cons.mp distinct).1 (same ▸ member)
    rw [Finmap.lookup_insert_of_ne _ differ]
    exact plain other (List.mem_cons_of_mem _ member) later there

/-! ### The two calls that write attributes -/

theorem setAttributeValue_view (hSession : SessionHandle) (hObject : ObjectHandle)
    (template : Template) (store : ObjectStore) :
    Conforms view
      (fun after _ => after = store ∨ ∃ object, store.get hObject = some object ∧
        after = store.insert (writeAttributes object template.list).2)
      store (cSetAttributeValue hSession hObject template) := by
  simp [cSetAttributeValue, requireRwSession, conforms_persistIfNeeded, gives, next]
  grind

def storedCopy (session : SessionHandle) (copy : KeyObject) : KeyObject :=
  if copy.isTokenObject then copy else { copy with creatingSession := some session }

theorem copyObject_view (hSession : SessionHandle) (hObject : ObjectHandle) (template : Template)
    (given : Bool) (store : ObjectStore) :
    Conforms view
      (fun after result => match result with
        | .error _ => after = store
        | .ok reply => ∃ source handle slotId attributes order,
            store.get hObject = some source ∧ order.Nodup ∧
            applyOverrides template.collect source.attributes order = .ok attributes ∧
            reply = .ok (.handle handle) ∧
            after = store.insert (storedCopy hSession (copyOf source handle slotId attributes order)))
      store (cCopyObject hSession hObject template given) := by
  simp [cCopyObject, sessionSlot, requireRwSession, conforms_storeObject, gives, next,
    storedCopy]
  grind

/-! ### The two calls that the protection is for -/

theorem getAttributeValue_view (hSession : SessionHandle) (hObject : ObjectHandle)
    (queries : List Query) (store : ObjectStore) :
    Conforms view
      (fun _ result => ∀ reply, result = .ok reply → ∃ object engine,
        store.get hObject = some object ∧
          reply.output = .answers (answerQueries engine object {} queries).1)
      store (cGetAttributeValue hSession hObject (some queries)) := by
  simp [cGetAttributeValue, sessionSlot, gives, next, answersReply]
  grind

theorem wrapKey_view (hSession : SessionHandle) (mechanism : Option Mechanism)
    (hWrappingKey hKey : ObjectHandle) (out : Destination) (store : ObjectStore) :
    Conforms view
      (fun _ result => match result with
        | .error rv => rv ≠ .ok
        | .ok _ => ∃ object, store.get hKey = some object ∧
            object.boolAttrTrue ckaExtractable = true)
      store (cWrapKey hSession mechanism hWrappingKey hKey out) := by
  simp [cWrapKey, sessionSlot, gives, next, Pkcs11Error.toCkrFor]
  grind

/-! ### A key and its copies along a run -/

/-- A call that writes attributes, in some session. -/
inductive Change where
  | set (hSession : SessionHandle) (hObject : ObjectHandle) (template : Template)
  | copy (hSession : SessionHandle) (hObject : ObjectHandle) (template : Template) (given : Bool)

def Change.call : Change → Call
  | .set hSession hObject template => .inSession hSession (.setAttributeValue hObject template)
  | .copy hSession hObject template given =>
    .inSession hSession (.copyObject hObject template given)

structure Tracked where
  state : State
  family : Finset ObjectHandle

/-- A copy of a member is a new member; a copy of another object takes its handle away. -/
def Change.extend (change : Change) (reply : Reply) (family : Finset ObjectHandle) :
    Finset ObjectHandle :=
  match change, reply with
  | .copy _ hObject _ _, ⟨.ok, .handle handle⟩ =>
    if hObject ∈ family then insert handle family else family.erase handle
  | _, _ => family

theorem Change.extend_none (change : Change) (rv : Rv) (family : Finset ObjectHandle) :
    change.extend ⟨rv, .none⟩ family = family := by
  cases change <;> cases rv <;> rfl

def track (world : World) (tracked : Tracked) (change : Change) : Tracked where
  state := step world tracked.state change.call
  family := change.extend (change.call.reply world tracked.state) tracked.family

/-- The change writes plainly where it concerns the family, if it is not refused. -/
def Change.Plain (world : World) (tracked : Tracked) (change : Change) : Prop :=
  match change with
  | .set _ hObject template =>
    (step world tracked.state change.call).objects ≠ tracked.state.objects →
      hObject ∈ tracked.family → ∀ object, tracked.state.objects.get hObject = some object →
        PlainWrites object.attributes template.list
  | .copy _ hObject template _ => (change.call.reply world tracked.state).rv = .ok →
      hObject ∈ tracked.family → ∀ object, tracked.state.objects.get hObject = some object →
        PlainOverrides template.collect object.attributes

def Tracked.Tight (attributes : Attributes) (tracked : Tracked) : Prop :=
  ∀ handle ∈ tracked.family, ∀ object, tracked.state.objects.get handle = some object →
    attributes.TightenedTo object.attributes

@[simp] theorem writeAttributes_handle (template : List TemplateEntry) :
    (writeAttributes object template).2.handle = object.handle :=
  writeAttributes_field KeyObject.handle (fun _ _ _ => updateDerivedAttributes_handle _ _) _ _

@[simp] theorem writeAttributes_slotId (template : List TemplateEntry) :
    (writeAttributes object template).2.slotId = object.slotId := by
  refine writeAttributes_field KeyObject.slotId (fun object type value => ?_) _ _
  simp only [KeyObject.withAttribute, updateDerivedAttributes]
  split_ifs <;> rfl

@[simp] theorem storedCopy_handle (session : SessionHandle) (copy : KeyObject) :
    (storedCopy session copy).handle = copy.handle := by
  rw [storedCopy]
  split <;> rfl

@[simp] theorem storedCopy_attributes (session : SessionHandle) (copy : KeyObject) :
    (storedCopy session copy).attributes = copy.attributes := by
  rw [storedCopy]
  split <;> rfl

theorem foldl_updateDerivedAttributes (changed : List AttributeType) :
    (changed.foldl updateDerivedAttributes object).attributes = object.attributes ∧
      (changed.foldl updateDerivedAttributes object).handle = object.handle := by
  induction changed generalizing object with
  | nil => exact ⟨rfl, rfl⟩
  | cons type rest ih => simpa using ih (updateDerivedAttributes object type)

@[simp] theorem copyOf_handle (source : KeyObject) (handle : ObjectHandle) (slotId : SlotId)
    (attrs : Attributes) (overridden : List AttributeType) :
    (copyOf source handle slotId attrs overridden).handle = handle :=
  (foldl_updateDerivedAttributes _ _).2

@[simp] theorem copyOf_attributes (source : KeyObject) (handle : ObjectHandle) (slotId : SlotId)
    (attrs : Attributes) (overridden : List AttributeType) :
    (copyOf source handle slotId attrs overridden).attributes = attrs.orInsert ckaToken [ckFalse] :=
  (foldl_updateDerivedAttributes _ _).1

theorem Attributes.TightenedTo.orInsert_token (attributes : Attributes) (value : Bytes) :
    attributes.TightenedTo (attributes.orInsert ckaToken value) := by
  rw [Attributes.orInsert]
  split
  · exact .refl _
  · exact .insert_other _ _ (by decide) (by decide) (by decide)

theorem step_copy (world : World) (s : State) (hSession : SessionHandle) (hObject : ObjectHandle)
    (template : Template) (given : Bool) :
    let call := Call.inSession hSession (.copyObject hObject template given)
    ((∃ rv, call.reply world s = ⟨rv, .none⟩) ∧ (step world s call).objects = s.objects) ∨
      ∃ source handle slotId attributes order,
        s.objects.get hObject = some source ∧ order.Nodup ∧
        applyOverrides template.collect source.attributes order = .ok attributes ∧
        call.reply world s = .ok (.handle handle) ∧
        (step world s call).objects =
          s.objects.insert (storedCopy hSession (copyOf source handle slotId attributes order)) := by
  intro call
  have spec := exec_view world
    (copyObject_view hSession hObject template given s.objects)
  change match (call.exec world s).1 with
    | .error _ => _
    | .ok reply => _ at spec
  rw [Call.reply]
  cases result : (call.exec world s).1 with
  | error rv =>
    rw [result] at spec
    exact .inl ⟨⟨rv, rfl⟩, spec⟩
  | ok reply =>
    rw [result] at spec
    exact .inr spec

variable {world : World} {tracked : Tracked}

theorem track_set_tight {hSession : SessionHandle} {hObject : ObjectHandle} {template : Template}
    (tight : tracked.Tight attributes)
    (plain : (Change.set hSession hObject template).Plain world tracked) :
    (track world tracked (.set hSession hObject template)).Tight attributes := by
  intro handle member object found
  change (step world tracked.state _).objects.get handle = some object at found
  by_cases same : (step world tracked.state (Change.set hSession hObject template).call).objects =
      tracked.state.objects
  · rw [same] at found
    exact tight handle member object found
  · rcases (exec_view world (setAttributeValue_view hSession hObject template _)).resolve_left same with
      ⟨before, there, written⟩
    change (step world tracked.state (Change.set hSession hObject template).call).objects = _ at written
    rw [written, get_insert, writeAttributes_handle,
      tracked.state.objects.handle_of_get there] at found
    split at found
    · next isWritten =>
        subst isWritten
        cases found
        exact (tight handle member before there).trans
          (writeAttributes_tightens before template.list (plain same member before there))
    · exact tight handle member object found

theorem track_copy_tight {hSession : SessionHandle} {hObject : ObjectHandle} {template : Template}
    {given : Bool} (tight : tracked.Tight attributes)
    (plain : (Change.copy hSession hObject template given).Plain world tracked) :
    (track world tracked (.copy hSession hObject template given)).Tight attributes := by
  intro handle member object found
  change (step world tracked.state _).objects.get handle = some object at found
  change handle ∈ Change.extend _ _ tracked.family at member
  rcases step_copy world tracked.state hSession hObject template given with
    ⟨⟨rv, refused⟩, same⟩ | ⟨source, new, slotId, copied, order, there, distinct, applied, reply, stored⟩
  · rw [Change.call, same] at found
    rw [Change.call, refused, Change.extend_none] at member
    exact tight handle member object found
  · rw [Change.call, stored, get_insert, storedCopy_handle, copyOf_handle] at found
    rw [Change.call, reply] at member
    simp only [Change.extend, Reply.ok] at member
    by_cases isNew : handle = new
    · rw [if_pos isNew] at found
      cases found
      -- the new handle is in the family only if the source is
      have parent : hObject ∈ tracked.family := by
        by_contra outside
        rw [if_neg outside, isNew] at member
        exact Finset.notMem_erase new _ member
      have overridden := applyOverrides_tightens distinct
        (fun type _ value => plain (congrArg Reply.rv reply) parent source there type value) applied
      simp only [storedCopy_attributes, copyOf_attributes]
      exact ((tight hObject parent source there).trans overridden).trans (.orInsert_token _ _)
    · rw [if_neg isNew] at found
      refine tight handle ?_ object found
      split at member
      · exact (Finset.mem_insert.mp member).resolve_left isNew
      · exact Finset.mem_of_mem_erase member

theorem track_tight {change : Change} (tight : tracked.Tight attributes)
    (plain : change.Plain world tracked) :
    (track world tracked change).Tight attributes := by
  cases change with
  | set hSession hObject template => exact track_set_tight tight plain
  | copy hSession hObject template given => exact track_copy_tight tight plain

/-! ### What can be read of a protected key -/

/-- The question is for a part of the key that is secret: by its number, or because the engine is
asked for the key's value. -/
def asksForSecret (object : KeyObject) (type : AttributeType) : Prop :=
  isSecretAttribute type = true ∨
    object.attributes.lookup type = none ∧ engineAttribute type = some .value

def Reveals (object : KeyObject) (queries : List Query) (reply : Reply) : Prop :=
  ∃ answers, reply.output = .answers answers ∧
    ∃ pair ∈ queries.zip answers, asksForSecret object pair.1.type ∧ pair.2.bytes ≠ none

def KeyObject.IsKey (object : KeyObject) : Prop :=
  object.objectClass = some ckoSecretKey ∨ object.objectClass = some ckoPrivateKey

instance decidableIsKey (object : KeyObject) : Decidable object.IsKey :=
  inferInstanceAs (Decidable (_ ∨ _))

theorem engineAttribute_value (small : type.toNat < 2 ^ 32)
    (value : engineAttribute type = some .value) : type = ckaValue := by
  rw [engineAttribute, EngineAttribute.fromU32, UInt64.toNat_toUInt32, Nat.mod_eq_of_lt small] at value
  split at value <;> cases value
  next number => exact UInt64.toNat_inj.mp number

variable {object : KeyObject}

theorem checkAttributeAccess_protected (key : object.IsKey)
    (guarded : object.boolAttrTrue ckaSensitive = true ∨ object.boolAttrTrue ckaExtractable = false)
    (secret : isSecretAttribute type = true) :
    checkAttributeAccess type object = .error .attributeSensitive := by
  have notPublic : ¬(object.objectClass = some ckoData ∨ object.objectClass = some ckoPublicKey) := by
    rcases key with isSecret | isPrivate
    · rw [isSecret]
      decide
    · rw [isPrivate]
      decide
  rw [checkAttributeAccess, if_neg (by simp [secret]), if_neg notPublic]
  rcases guarded with sensitive | unextractable
  · rw [if_pos sensitive]
  · simp [unextractable]

theorem answerQueries_hides {engine : Option CryptoProvider} (key : object.IsKey)
    (guarded : object.boolAttrTrue ckaSensitive = true ∨ object.boolAttrTrue ckaExtractable = false)
    (marks : Marks) (queries : List Query) (small : ∀ query ∈ queries, query.type.toNat < 2 ^ 32) :
    ∀ pair ∈ queries.zip (answerQueries engine object marks queries).1,
      asksForSecret object pair.1.type → pair.2.bytes = none := by
  induction queries generalizing marks with
  | nil => exact nofun
  | cons query rest ih =>
    have hidden (asks : asksForSecret object query.type) :
        readAttribute engine object query.type = .sensitive := by
      have secret : isSecretAttribute query.type = true := by
        rcases asks with secret | ⟨_, value⟩
        · exact secret
        · rw [engineAttribute_value (small query List.mem_cons_self) value]
          decide
      rw [readAttribute, if_pos (checkAttributeAccess_protected key guarded secret)]
    have later (marks : Marks) := ih marks fun other member => small other (List.mem_cons_of_mem _ member)
    rw [answerQueries]
    cases read : readAttribute engine object query.type with
    | failed error => exact nofun
    | sensitive | unavailable =>
      intro pair member asks
      rcases List.mem_cons.mp member with rfl | member
      · rfl
      · exact later _ pair member asks
    | value bytes =>
      intro pair member asks
      rcases List.mem_cons.mp member with rfl | member
      · cases read.symm.trans (hidden asks)
      · exact later _ pair member asks

theorem getAttributeValue_hides (s : State) (hSession : SessionHandle) {handle : ObjectHandle}
    (found : s.objects.get handle = some object) (key : object.IsKey)
    (guarded : object.boolAttrTrue ckaSensitive = true ∨ object.boolAttrTrue ckaExtractable = false)
    {queries : List Query} (small : ∀ query ∈ queries, query.type.toNat < 2 ^ 32) :
    ¬Reveals object queries
      ((Call.inSession hSession (.getAttributeValue handle (some queries))).reply world s) := by
  rintro ⟨answers, output, pair, member, asks, revealed⟩
  have spec := exec_view world (getAttributeValue_view hSession handle queries s.objects)
  rw [Call.reply] at output
  cases result : ((Call.inSession hSession (.getAttributeValue handle (some queries))).exec world s).1 with
  | error rv =>
    rw [result] at output
    cases output
  | ok reply =>
    rw [result] at output
    rcases spec reply result with ⟨other, engine, there, answered⟩
    cases there.symm.trans found
    cases answered.symm.trans output
    exact revealed (answerQueries_hides key guarded {} queries small pair member asks)

theorem wrapKey_refuses (s : State) (hSession : SessionHandle) {handle : ObjectHandle}
    (found : s.objects.get handle = some object)
    (unextractable : object.boolAttrTrue ckaExtractable = false) (mechanism : Option Mechanism)
    (hWrappingKey : ObjectHandle) (out : Destination) :
    ((Call.inSession hSession (.wrapKey mechanism hWrappingKey handle out)).reply world s).rv ≠ .ok :=
    by
  have spec := exec_view world
    (wrapKey_view hSession mechanism hWrappingKey handle out s.objects)
  change match ((Call.inSession hSession (.wrapKey mechanism hWrappingKey handle out)).exec world s).1 with
    | .error _ => _
    | .ok _ => _ at spec
  rw [Call.reply]
  cases result :
      ((Call.inSession hSession (.wrapKey mechanism hWrappingKey handle out)).exec world s).1 with
  | error rv =>
    rw [result] at spec
    exact spec
  | ok reply =>
    rw [result] at spec
    rcases spec with ⟨other, there, extractable⟩
    cases there.symm.trans found
    cases unextractable.symm.trans extractable

/-! ### The ratchet -/

/-- What holds of a key that read as given by `before`, in the state that a run has led to: for the
key and its copies the protection is what it was or tighter, and holds when they are read or
wrapped. -/
structure Protected (world : World) (before : KeyObject) (tracked : Tracked) : Prop where
  sensitive : before.boolAttrTrue ckaSensitive = true →
    ∀ handle ∈ tracked.family, ∀ object, tracked.state.objects.get handle = some object →
      object.boolAttrTrue ckaSensitive = true
  unextractable : before.boolAttrTrue ckaExtractable = false →
    ∀ handle ∈ tracked.family, ∀ object, tracked.state.objects.get handle = some object →
      object.boolAttrTrue ckaExtractable = false
  hidden : before.boolAttrTrue ckaSensitive = true ∨ before.boolAttrTrue ckaExtractable = false →
    ∀ handle ∈ tracked.family, ∀ object, tracked.state.objects.get handle = some object →
      ∀ hSession queries, (∀ query ∈ queries, query.type.toNat < 2 ^ 32) →
        ¬Reveals object queries
          ((Call.inSession hSession (.getAttributeValue handle (some queries))).reply world
            tracked.state)
  unwrapped : before.boolAttrTrue ckaExtractable = false →
    ∀ handle ∈ tracked.family, ∀ object, tracked.state.objects.get handle = some object →
      ∀ hSession mechanism hWrappingKey out,
        ((Call.inSession hSession (.wrapKey mechanism hWrappingKey handle out)).reply world
          tracked.state).rv ≠ .ok

theorem Tracked.Tight.protected {before : KeyObject} (key : before.IsKey)
    (tight : tracked.Tight before.attributes) : Protected world before tracked := by
  have unextractable (wasFalse : before.boolAttrTrue ckaExtractable = false) :
      ∀ handle ∈ tracked.family, ∀ object, tracked.state.objects.get handle = some object →
        object.boolAttrTrue ckaExtractable = false := by
    intro handle member object found
    rw [← Bool.not_eq_true] at wasFalse ⊢
    exact fun isTrue => wasFalse ((tight handle member object found).extractable isTrue)
  refine ⟨fun sensitive handle member object found => ?_, unextractable, ?_, ?_⟩
  · exact (tight handle member object found).sensitive sensitive
  · intro guarded handle member object found hSession queries small
    have kept := tight handle member object found
    refine getAttributeValue_hides tracked.state hSession found ?_ ?_ small
    · rwa [KeyObject.IsKey, KeyObject.objectClass, kept.objectClass]
    · exact guarded.imp kept.sensitive fun wasFalse => unextractable wasFalse handle member object found
  · intro wasFalse handle member object found hSession mechanism hWrappingKey out
    exact wrapKey_refuses tracked.state hSession found
      (unextractable wasFalse handle member object found) mechanism hWrappingKey out

/-- The ratchet holds along every run of plain changes, from any state. -/
theorem protected_of_plain (world : World) (s : State) (handle : ObjectHandle) (before : KeyObject)
    (found : s.objects.get handle = some before) (key : before.IsKey) (changes : List Change)
    (plain : Run.Meets (track world) (fun tracked change => change.Plain world tracked) ⟨s, {handle}⟩
      changes) :
    Protected world before (Run.run (track world) ⟨s, {handle}⟩ changes) := by
  refine Tracked.Tight.protected key (Run.run_invariant_of_meets (Tracked.Tight before.attributes)
    (fun _ _ tight plain => track_tight tight plain) _ changes ?_ plain)
  intro member isMember object there
  rw [Finset.mem_singleton.mp isMember] at there
  cases there.symm.trans found
  exact .refl _

def withSecretKey (template : List TemplateEntry) : State :=
  Run.run (step plainWorld) (State.loaded none)
    [.initializeLibrary none, .openSession 0 6 true,
      .inSession 1 (.createObject (.entries
        (⟨ckaClass, .bytes (ulongBytes ckoSecretKey)⟩ :: ⟨ckaValue, .bytes [1, 2, 3]⟩ :: template))
        true)]

def markedKey : State := withSecretKey [⟨ckaSensitive, .bytes [1]⟩]

def copyThenSet : List Change :=
  [.copy 1 2 (.entries [⟨ckaSensitive, .bytes [1]⟩]) true,
    .set 1 3 (.entries [⟨ckaSensitive, .bytes [1, 0]⟩])]

theorem protected_marked : ∃ before, markedKey.objects.get 2 = some before ∧ before.IsKey ∧
    3 ∈ (Run.run (track plainWorld) ⟨markedKey, {2}⟩ copyThenSet).family ∧
    Protected plainWorld before (Run.run (track plainWorld) ⟨markedKey, {2}⟩ copyThenSet) := by
  obtain ⟨before, found, key⟩ := (Option.any_eq_true _ _).mp (by decide +kernel :
    (markedKey.objects.get 2).any (fun o => decide o.IsKey) = true)
  refine ⟨before, found, of_decide_eq_true key, by decide +kernel, ?_⟩
  refine protected_of_plain plainWorld _ 2 before found (of_decide_eq_true key) _ ⟨?_, ?_, trivial⟩
  · intro _ _ object _ type value given
    obtain ⟨rfl, rfl⟩ : type = ckaSensitive ∧ value = [1] := by
      by_cases same : type = ckaSensitive
      · subst same
        exact ⟨rfl, (Option.some.inj ((Finmap.lookup_insert _).symm.trans given)).symm⟩
      · cases (Finmap.lookup_insert_of_ne _ same).symm.trans given
    exact ⟨fun _ _ => .inl rfl, fun other => absurd other (by decide)⟩
  · intro _ _ object _ _
    exact ⟨⟨fun _ _ => .inl rfl, fun other => absurd other (by decide)⟩, trivial⟩

/-- A key that was created without `CKA_EXTRACTABLE` does not read as extractable, and can be made
so: the policy looks for a false value and not for one that is not true. -/
theorem unmarked_key_made_extractable :
    ∃ before, (withSecretKey []).objects.get 2 = some before ∧ before.IsKey ∧
      ((Change.set 1 2 (.entries [⟨ckaExtractable, .bytes [1]⟩])).call.reply plainWorld
        (withSecretKey [])).rv = .ok ∧
      ¬Protected plainWorld before (Run.run (track plainWorld) ⟨withSecretKey [], {2}⟩
        [.set 1 2 (.entries [⟨ckaExtractable, .bytes [1]⟩])]) := by
  obtain ⟨before, found, facts⟩ := (Option.any_eq_true _ _).mp (by decide +kernel :
    ((withSecretKey []).objects.get 2).any (fun o =>
      decide (o.IsKey ∧ o.boolAttrTrue ckaExtractable = false)) = true)
  have wasFalse := of_decide_eq_true facts
  refine ⟨before, found, wasFalse.1, by decide +kernel, fun holds => ?_⟩
  obtain ⟨after, still, isTrue⟩ := (Option.any_eq_true _ _).mp (by decide +kernel :
    ((Run.run (track plainWorld) ⟨withSecretKey [], {2}⟩
      [.set 1 2 (.entries [⟨ckaExtractable, .bytes [1]⟩])]).state.objects.get 2).any (fun o =>
        o.boolAttrTrue ckaExtractable) = true)
  have isFalse := holds.unextractable wasFalse.2 2 (by decide +kernel) after still
  cases isFalse.symm.trans isTrue

end ScoreCrypto.Cryptoki
