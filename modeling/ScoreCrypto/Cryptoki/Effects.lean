import ScoreCrypto.Cryptoki.Births
import ScoreCrypto.Cryptoki.Quiet

/-!
What a call in a session can do to the stores: create an object or a pair of them, change one,
destroy one, or leave them alone.
-/

namespace ScoreCrypto.Cryptoki

open Fallible SessionCall

@[simp] def SessionCall.May (call : SessionCall) (h : SessionHandle) (session : Session)
    (start sight : Sight) : Action → Prop
  | .session handle | .updateSession handle _ => handle = h
  | .object handle => call.unchecked session = some handle
  | .objectForSlot _ slotId => slotId = session.slotId
  | .setAttributes handle _ => call.unchecked session = some handle
  | .insertObject object =>
    object.slotId = session.slotId ∧ object.handle ∈ call.takes start.nextHandle
  | .removeObject handle =>
    ∃ object, sight.objects.get handle = some object ∧ object.slotId = session.slotId
  | .findObjects slotId _ loggedIn => slotId = session.slotId ∧ loggedIn = session.loggedIn
  | .checkInit | .registry | .nextHandle | .readNextHandle | .token _ | .saveState _ _ | .iterate _
  | .random => True
  | .closeSession handle => call = .closeSession ∧ handle = h
  | .sessionsOnSlot slotId | .updateSessions slotId _ | .updateToken slotId _ =>
    call.ordinary = false ∧ slotId = session.slotId
  | .retainObjects keep =>
    (call = .closeSession ∧ keep = fun object : KeyObject => object.creatingSession ≠ some h) ∨
    (call = .logout ∧ keep = fun object : KeyObject =>
      !(object.slotId = session.slotId && object.isSessionObject && object.isPrivateObject))
  | _ => False

section May

variable {call : SessionCall} {h : SessionHandle} {session : Session} {start sight : Sight}

theorem saves_may : Sight.Saves (call.May h session start) :=
  ⟨fun _ => trivial, fun _ _ => trivial, fun _ => trivial, fun _ _ _ => trivial⟩

theorem may_of_calm {act : Action} (calm : call.Calm h session start sight act) :
    call.May h session start sight act := by
  cases act <;> first | exact calm.1 | exact calm | cases calm

end May

inductive Birth (session : Session) (start : Sight) : SessionCall → KeyObject → Prop
  | generateKey {mech : Mechanism} {template : Template} {seed idSeed : Nat}
      {generated : GeneratedKey}
      (made : generateKeyWith start.slots session.slotId seed idSeed mech.mechanism
        template.collect.withSecurityDefaults = .ok generated) :
      Birth session start (.generateKey (some mech) template true)
        (generated.object start.nextHandle session.slotId
          template.collect.withSecurityDefaults.startsSensitive
          template.collect.withSecurityDefaults.startsUnextractable false)
  | createObject {template : Template} (objectClass : UInt64) (keyType : Option UInt64)
      (keyBytes : Bytes) :
      Birth session start (.createObject template true)
        (KeyObject.new start.nextHandle session.slotId (keyTypeFor objectClass keyType) keyBytes
          template.collect)
  | copyObject {hObject : ObjectHandle} {template : Template} {source : KeyObject}
      {attrs : Attributes} {order : List AttributeType}
      (found : start.objects.get hObject = some source) (own : source.slotId = session.slotId)
      (once : order.Nodup) (each : ∀ type, type ∈ order ↔ type ∈ template.collect.keys)
      (applied : applyOverrides template.collect source.attributes order = .ok attrs) :
      Birth session start (.copyObject hObject template true)
        (copyOf source start.nextHandle session.slotId attrs order)
  | unwrapKey {mech : Mechanism} {hUnwrappingKey : ObjectHandle} {wrapped : Bytes}
      {template : Template} {key : KeyObject} (keyBytes : Bytes)
      (found : start.objects.get hUnwrappingKey = some key) (own : key.slotId = session.slotId)
      (authorized : session.requireContextAuth key = .ok ()) :
      Birth session start (.unwrapKey (some mech) hUnwrappingKey (some wrapped) template true)
        (unwrappedObject start.nextHandle session.slotId keyBytes template.collect mech.mechanism)
  | deriveKey {mech : Mechanism} {hBaseKey : ObjectHandle} {template : Template} {base : KeyObject}
      (derivedBytes uniqueId : Bytes) (okmLen : UInt64)
      (found : start.objects.get hBaseKey = some base)
      (authorized : session.requireContextAuth base = .ok ()) :
      Birth session start (.deriveKey (some mech) hBaseKey template true)
        (derivedObject start.nextHandle session.slotId base derivedBytes uniqueId okmLen
          template.collect mech.mechanism)

inductive PairBirth (session : Session) (start : Sight) : SessionCall → KeyObject → KeyObject → Prop
  | generateKeyPair {mech : Mechanism} {pubTemplate privTemplate : Template} {seed : Nat}
      {generated : GeneratedKey × GeneratedKey} (pubGiven : pubTemplate.missing = false)
      (privGiven : privTemplate.missing = false)
      (made : generateKeyPairWith start.slots session.slotId seed mech.mechanism pubTemplate.collect
        (privTemplate.collect.withSecurityDefaults.erase ckaAlwaysAuthenticate) = .ok generated) :
      PairBirth session start (.generateKeyPair (some mech) pubTemplate privTemplate true)
        (generated.2.publicObject start.nextHandle session.slotId)
        (generated.1.object (start.nextHandle + 1) session.slotId
          privTemplate.collect.withSecurityDefaults.startsSensitive
          privTemplate.collect.withSecurityDefaults.startsUnextractable
          (reads ckTrue (privTemplate.collect.withSecurityDefaults.lookup ckaAlwaysAuthenticate)))

variable {call : SessionCall} {session : Session} {start : Sight} {object : KeyObject}

theorem Birth.handle_eq (born : Birth session start call object) :
    object.handle = start.nextHandle := by
  cases born with
  | copyObject => exact copyOf_handle _ _ _ _ _
  | _ => rfl

theorem Birth.slotId_eq (born : Birth session start call object) :
    object.slotId = session.slotId := by
  cases born with
  | copyObject => exact copyOf_slotId _ _ _ _ _
  | _ => rfl

theorem Birth.creatingSession_eq (born : Birth session start call object) :
    object.creatingSession = none := by
  cases born with
  | copyObject => exact copyOf_creatingSession _ _ _ _ _
  | _ => rfl

variable {pub priv : KeyObject}

theorem PairBirth.handle_eq (born : PairBirth session start call pub priv) :
    pub.handle = start.nextHandle ∧ priv.handle = start.nextHandle + 1 := by
  cases born
  exact ⟨rfl, rfl⟩

theorem PairBirth.slotId_eq (born : PairBirth session start call pub priv) :
    pub.slotId = session.slotId ∧ priv.slotId = session.slotId := by
  cases born
  exact ⟨rfl, rfl⟩

theorem PairBirth.creatingSession_eq
    (born : PairBirth session start call pub priv) :
    pub.creatingSession = none ∧ priv.creatingSession = none := by
  cases born
  exact ⟨rfl, rfl⟩

theorem Stores.objects_of_written {slots : List CryptoProvider} {saves : Bool} {before after : Stores}
    (written : if saves then before.Written slots after else after = before) :
    after.objects = before.objects := by
  split at written
  · rcases written with ⟨tokens, _, rfl⟩
    rfl
  · rw [written]

theorem Stores.Filed.objects_eq {h : SessionHandle} {slots : List CryptoProvider}
    {before after : Stores} (filed : before.Filed h slots object after) :
    after.objects = before.objects.insert (storedCopy h object) :=
  Stores.objects_of_written filed

inductive Effect (h : SessionHandle) (session : Session) (start : Sight) :
    SessionCall → Stores → Except Rv Reply → Prop
  | kept {call : SessionCall} {result : Except Rv Reply}
      (fails : call.changes = true → ∃ rv, rv ≠ .ok ∧ result = .error rv) :
      Effect h session start call start.toStores result
  | created {call : SessionCall} {object : KeyObject} {after : Stores}
      (born : Birth session start call object)
      (writable : object.isTokenObject = true → session.isRw = true)
      (filed : start.Filed h start.slots object after) :
      Effect h session start call after (.ok (.ok (.handle start.nextHandle)))
  | paired {call : SessionCall} {pub priv : KeyObject} {middle after : Stores}
      (born : PairBirth session start call pub priv)
      (writable : pub.isTokenObject = true ∨ priv.isTokenObject = true → session.isRw = true)
      (first : start.Filed h start.slots pub middle) (second : middle.Filed h start.slots priv after) :
      Effect h session start call after
        (.ok (.ok (.keyPair start.nextHandle (start.nextHandle + 1))))
  | refused {hObject : ObjectHandle} {template : Template} {object : KeyObject}
      (writable : session.isRw = true) (found : start.objects.get hObject = some object)
      {error : Pkcs11Error} (refused : (writeAttributes object template.list).1 = .error error) :
      Effect h session start (.setAttributeValue hObject template)
        { start.toStores with
          objects := start.objects.insert (writeAttributes object template.list).2 }
        (.error error.toCkr)
  | written {hObject : ObjectHandle} {template : Template} {object : KeyObject} {after : Stores}
      (writable : session.isRw = true) (found : start.objects.get hObject = some object)
      (allowed : (writeAttributes object template.list).1 = .ok ())
      (stored : let changed := (writeAttributes object template.list).2
        let stores := { start.toStores with objects := start.objects.insert changed }
        if changed.isTokenObject then stores.Written start.slots after else after = stores) :
      Effect h session start (.setAttributeValue hObject template) after (.ok (.ok .none))
  | destroyed {hObject : ObjectHandle} {object : KeyObject} {after : Stores}
      (found : start.objects.get hObject = some object) (own : object.slotId = session.slotId)
      (visible : object.isPrivateObject = true → session.loggedIn = true)
      (writable : object.isTokenObject = true → session.isRw = true)
      (stored : let stores := { start.toStores with objects := start.objects.erase hObject }
        if object.isTokenObject then stores.Written start.slots after else after = stores) :
      Effect h session start (.destroyObject hObject) after (.ok (.ok .none))

/-! ### The calls, one by one -/

@[simp] theorem Session.requireRw_eq_ok (session : Session) (done : Unit) :
    session.requireRw = .ok done ↔ session.isRw = true := by
  rw [Session.requireRw]
  split <;> simp_all

@[simp] theorem asksForToken_withSecurityDefaults (attrs : Attributes) :
    attrs.withSecurityDefaults.asksForToken = attrs.asksForToken := by
  rw [Attributes.asksForToken, Attributes.withSecurityDefaults,
    Attributes.lookup_orInsert_of_ne _ _ (by decide), Attributes.lookup_orInsert_of_ne _ _ (by decide)]
  rfl

theorem Attributes.asksForToken_erase (attrs : Attributes) :
    Attributes.asksForToken (attrs.erase ckaAlwaysAuthenticate) = attrs.asksForToken := by
  rw [Attributes.asksForToken, Finmap.lookup_erase_ne (by decide)]
  rfl

section Performs

def Performs (world : World) (h : SessionHandle) (session : Session) (start : Sight)
    (call : SessionCall) : Prop :=
  Conforms (Sight.contract h (call.May h session start))
    (fun sight result => Effect h session start call sight.toStores result ∧
      ∃ after, sight.session = some after ∧ session.Within (start.Listed session) after)
    start (call.program world h)

variable {world : World} {h : SessionHandle} {session : Session} {start : Sight} {call : SessionCall}

@[simp] theorem effect_error {rv : Rv} (fails : rv ≠ .ok) :
    Effect h session start call start.toStores (.error rv) :=
  .kept fun _ => ⟨rv, fails, rfl⟩

variable (opened : start.session = some session)

include opened

omit opened in
theorem files_created (h : SessionHandle) (start : Sight) {object : KeyObject}
    (takes : call.takes start.nextHandle = [start.nextHandle])
    (born : Birth session start call object)
    (writable : object.isTokenObject = true → session.isRw = true) :
    (object.slotId = session.slotId ∧ object.handle ∈ call.takes start.nextHandle) ∧
      ∀ after, start.Filed h start.slots object after →
        Effect h session start call after (.ok (.ok (.handle start.nextHandle))) := by
  refine ⟨⟨born.slotId_eq, ?_⟩, fun _ filed => .created born writable filed⟩
  rw [takes, born.handle_eq]
  exact List.mem_singleton_self _

theorem performs_generateKey (mechanism : Option Mechanism) (template : Template) (given : Bool) :
    Performs world h session start (.generateKey mechanism template given) := by
  simp [Performs, program, cGenerateKey, sessionSlot, requireRwSession, opened,
    Sight.conforms_store saves_may]
  rintro mech rfl rfl _
  have creates {seed idSeed : Nat} {generated : GeneratedKey}
      (made : generateKeyWith start.slots session.slotId seed idSeed mech.mechanism
        template.collect.withSecurityDefaults = .ok generated)
      (writable : template.collect.asksForToken = true → session.isRw = true) :=
    files_created h start rfl (.generateKey made) (by
      rwa [(madeOf_generated made _ _ _ _).isTokenObject_eq, asksForToken_withSecurityDefaults])
  exact ⟨fun _ rw _ _ _ _ seed idSeed generated made => creates made fun _ => rw,
    fun session _ _ _ _ seed idSeed generated made => creates made (by simp [session])⟩

theorem performs_createObject (template : Template) (given : Bool) :
    Performs world h session start (.createObject template given) := by
  simp [Performs, program, cCreateObject, sessionSlot, requireRwSession, opened,
    Sight.conforms_store saves_may]
  rintro rfl _
  have creates (objectClass : UInt64) (keyType : Option UInt64) (keyBytes : Bytes)
      (writable : template.collect.asksForToken = true → session.isRw = true) :=
    files_created h start rfl (.createObject objectClass keyType keyBytes) (by
      rwa [(madeOf_new _ _ _ _ _).isTokenObject_eq])
  refine ⟨fun _ rw value _ _ => ⟨fun _ keyBytes _ => ?_, fun _ _ => ?_⟩,
    fun session value _ _ => ⟨fun _ keyBytes _ => ?_, fun _ _ => ?_⟩⟩
  · exact creates _ _ keyBytes fun _ => rw
  · exact creates _ _ [] fun _ => rw
  · exact creates _ _ keyBytes (by simp [session])
  · exact creates _ _ [] (by simp [session])

theorem performs_copyObject (hObject : ObjectHandle) (template : Template) (given : Bool) :
    Performs world h session start (.copyObject hObject template given) := by
  simp [Performs, program, cCopyObject, sessionSlot, requireRwSession, opened,
    Sight.conforms_store saves_may]
  rintro rfl _ source found own
  have creates {order : List AttributeType} {attrs : Attributes} (once : order.Nodup)
      (each : ∀ type, type ∈ order ↔ type ∈ template.collect.keys)
      (applied : applyOverrides template.collect source.attributes order = .ok attrs)
      (writable : attrs.asksForToken = true → session.isRw = true) :
      start.nextHandle ∈ takes start.nextHandle (.copyObject hObject template true) ∧ ∀ after,
        start.Filed h start.slots (copyOf source start.nextHandle session.slotId attrs order) after →
          Effect h session start (.copyObject hObject template true) after
            (.ok (.ok (.handle start.nextHandle))) :=
    ⟨List.mem_singleton_self _, fun after filed => .created (.copyObject found own once each applied)
      (by rwa [(madeOf_copy _ _ _ _ _).isTokenObject_eq]) filed⟩
  refine ⟨fun _ rw order once each attrs applied => creates once each applied fun _ => rw,
    fun session order once each attrs applied => creates once each applied fun token => ?_⟩
  -- the copy is a token object as the override says, or else as the source does
  rw [Attributes.asksForToken, lookup_applyOverrides each applied] at token
  cases asked : template.collect.lookup ckaToken <;>
    simp_all [KeyObject.boolAttrTrue]

theorem performs_unwrapKey (mechanism : Option Mechanism) (hUnwrappingKey : ObjectHandle)
    (wrappedKey : Option Bytes) (template : Template) (given : Bool) :
    Performs world h session start (.unwrapKey mechanism hUnwrappingKey wrappedKey template given) := by
  simp [Performs, program, cUnwrapKey, sessionSlot, requireRwSession, opened,
    Sight.conforms_store saves_may, Pkcs11Error.toCkrFor, Session.burnTicket]
  rintro mech rfl wrapped rfl rfl _
  have writable (keyBytes : Bytes) (rw : template.collect.asksForToken = true → session.isRw = true) :
      (unwrappedObject start.nextHandle session.slotId keyBytes template.collect
        mech.mechanism).isTokenObject = true → session.isRw = true := by
    rwa [(madeOf_unwrapped _ _ _ _ _).isTokenObject_eq]
  refine ⟨fun _ rw key found own _ _ authorized _ _ _ _ keyBytes _ _ => ?_,
    fun session key found own _ _ authorized _ _ _ _ keyBytes _ _ => ?_⟩
  · exact files_created h start rfl (.unwrapKey keyBytes found own authorized)
      (writable keyBytes fun _ => rw)
  · exact files_created h start rfl (.unwrapKey keyBytes found own authorized)
      (writable keyBytes (by simp [session]))

theorem performs_deriveKey (mechanism : Option Mechanism) (hBaseKey : ObjectHandle)
    (template : Template) (given : Bool) :
    Performs world h session start (.deriveKey mechanism hBaseKey template given) := by
  simp [Performs, program, cDeriveKey, sessionSlot, requireRwSession, opened,
    Sight.conforms_store saves_may, Session.burnTicket]
  rintro mech rfl rfl
  have writable (base : KeyObject) (derivedBytes uniqueId : Bytes) (okmLen : UInt64)
      (rw : template.collect.asksForToken = true → session.isRw = true) :
      (derivedObject start.nextHandle session.slotId base derivedBytes uniqueId okmLen
        template.collect mech.mechanism).isTokenObject = true → session.isRw = true := by
    rwa [(madeOf_derived _ _ _ _ _ _ _ _).isTokenObject_eq]
  have looks (rw : template.collect.asksForToken = true → session.isRw = true) :
      unchecked session (.deriveKey (some mech) hBaseKey template true) = some hBaseKey := by
    simp only [unchecked, Option.isSome_some, true_and]
    exact if_pos rw
  refine ⟨fun token rw => ⟨looks fun _ => rw, fun base found _ _ authorized _ _ _ _ _ =>
      ⟨looks fun _ => rw, fun _ _ derivedBytes _ _ uniqueId _ => ?_⟩⟩,
    fun session => ⟨looks (by simp [session]), fun base found _ _ authorized _ _ _ _ _ =>
      ⟨looks (by simp [session]), fun _ _ derivedBytes _ _ uniqueId _ => ?_⟩⟩⟩
  · exact files_created h start rfl (.deriveKey derivedBytes uniqueId _ found authorized)
      (writable base _ _ _ fun _ => rw)
  · exact files_created h start rfl (.deriveKey derivedBytes uniqueId _ found authorized)
      (writable base _ _ _ (by simp [session]))

theorem performs_destroyObject (hObject : ObjectHandle) :
    Performs world h session start (.destroyObject hObject) := by
  simp [Performs, program, cDestroyObject, destroyObject, requireRwSession, opened,
    Sight.conforms_persist saves_may, Sight.Follows, Sight.gives, ObjectStore.gives, Sight.next,
    ObjectStore.next, Sight.nextSession, Sight.nextTokens]
  refine ⟨rfl, fun object found => ?_⟩
  have destroys (own : object.slotId = session.slotId)
      (visible : object.isPrivateObject = false ∨ session.loggedIn = true)
      (writable : object.isTokenObject = true → session.isRw = true) {after : Stores}
      (stored : if object.isTokenObject then
          Stores.Written start.slots { start.toStores with objects := start.objects.erase hObject } after
        else after = { start.toStores with objects := start.objects.erase hObject }) :
      Effect h session start (.destroyObject hObject) after (.ok (.ok .none)) :=
    .destroyed found own (by simpa [or_iff_not_imp_left] using visible) writable stored
  simp only [found, Option.some.injEq, reduceCtorEq, forall_eq', false_implies, true_and]
  grind

theorem performs_setAttributeValue (hObject : ObjectHandle) (template : Template) :
    Performs world h session start (.setAttributeValue hObject template) := by
  simp [Performs, program, cSetAttributeValue, requireRwSession, opened,
    Sight.conforms_persist saves_may, Sight.Follows, Sight.gives, ObjectStore.gives, Sight.next,
    ObjectStore.next, Sight.nextSession, Sight.nextTokens]
  rintro rw given
  refine ⟨by simp [unchecked, rw, given], fun missing => ?_, fun object found => ?_⟩
  · rw [missing]
    exact effect_error (Pkcs11Error.toCkr_ne_ok _)
  simp only [found]
  refine ⟨fun _ allowed => ?_, ?_⟩
  · refine ⟨fun token after written => ?_, fun session => ?_⟩
    · exact .written rw found allowed (by simpa [token] using written)
    · exact .written rw found allowed (by simp [session])
  · intro error refused
    exact .refused rw found refused

omit opened in
theorem generateKeyPairWith_ne_ok {slots : List CryptoProvider} {slotId : SlotId} {seed : Nat}
    {mechanism : MechanismType} {pubAttrs privAttrs : Attributes} {rv : Rv}
    (failed : generateKeyPairWith slots slotId seed mechanism pubAttrs privAttrs = .error rv) :
    rv ≠ .ok := by
  have mapped {result : Except Pkcs11Error (GeneratedKey × GeneratedKey)}
      (failed : result.mapError Pkcs11Error.toCkr = .error rv) : rv ≠ .ok := by
    cases result with
    | ok pair => cases failed
    | error error =>
      cases failed
      exact error.toCkr_ne_ok
  simp only [generateKeyPairWith] at failed
  split_ifs at failed
  · cases failed
    decide
  · exact mapped failed
  · exact mapped failed
  · exact mapped failed
  · cases failed
    decide

omit opened in
theorem files_paired (h : SessionHandle) (start : Sight) {pub priv : KeyObject}
    (takes : call.takes start.nextHandle = [start.nextHandle, start.nextHandle + 1])
    (born : PairBirth session start call pub priv)
    (writable : pub.isTokenObject = true ∨ priv.isTokenObject = true → session.isRw = true) :
    (pub.slotId = session.slotId ∧ pub.handle ∈ call.takes start.nextHandle) ∧
      ∀ middle, start.Filed h start.slots pub middle →
        (priv.slotId = session.slotId ∧ priv.handle ∈ call.takes start.nextHandle) ∧
          ∀ after, middle.Filed h start.slots priv after →
            Effect h session start call after
              (.ok (.ok (.keyPair start.nextHandle (start.nextHandle + 1)))) := by
  rw [takes, born.handle_eq.1, born.handle_eq.2]
  refine ⟨⟨born.slotId_eq.1, List.mem_cons_self⟩, fun _ filed =>
    ⟨⟨born.slotId_eq.2, List.mem_cons_of_mem _ List.mem_cons_self⟩, fun _ filedToo => ?_⟩⟩
  exact .paired born writable filed filedToo

theorem performs_generateKeyPair (mechanism : Option Mechanism)
    (pubTemplate privTemplate : Template) (given : Bool) :
    Performs world h session start (.generateKeyPair mechanism pubTemplate privTemplate given) := by
  simp [Performs, program, cGenerateKeyPair, sessionSlot, requireRwSession, opened,
    Sight.conforms_store saves_may]
  rintro mech rfl rfl pubGiven privGiven
  have creates {seed : Nat} {generated : GeneratedKey × GeneratedKey}
      (made : generateKeyPairWith start.slots session.slotId seed mech.mechanism pubTemplate.collect
        (privTemplate.collect.withSecurityDefaults.erase ckaAlwaysAuthenticate) = .ok generated)
      (writable : pubTemplate.collect.asksForToken = true ∨ privTemplate.collect.asksForToken = true →
        session.isRw = true) :=
    files_paired h start rfl (.generateKeyPair pubGiven privGiven made) (by
      have made := madeOf_pair made start.nextHandle (start.nextHandle + 1)
      rwa [(made true true true).1.isTokenObject_eq, (made _ _ _).2.isTokenObject_eq,
        Attributes.asksForToken_erase, asksForToken_withSecurityDefaults])
  refine ⟨fun _ rw seed => ⟨fun priv pub made => ?_, fun rv failed => ?_⟩,
    fun pubSession privSession seed => ⟨fun priv pub made => ?_, fun rv failed => ?_⟩⟩
  · exact creates made fun _ => rw
  · exact effect_error (generateKeyPairWith_ne_ok failed)
  · exact creates made (by simp [pubSession, privSession])
  · exact effect_error (generateKeyPairWith_ne_ok failed)

omit opened in
theorem calm_next {sight : Sight} {act : Action} (answer : act.Res)
    (calm : call.Calm h session start sight act) (stores : sight.toStores = start.toStores)
    (within : ∃ after, sight.session = some after ∧ session.Within (start.Listed session) after) :
    (Sight.next h sight act answer).toStores = start.toStores ∧
      ∃ after, (Sight.next h sight act answer).session = some after ∧
        session.Within (start.Listed session) after := by
  cases act with
  | updateSession handle change =>
    rcases calm with ⟨rfl, bounded⟩
    rcases within with ⟨current, here, _⟩
    rw [Sight.next_updateSession, here]
    exact ⟨stores, change current, rfl, bounded current here⟩
  | checkInit | registry | session | object | objectForSlot | findObjects | random =>
    exact ⟨stores, within⟩
  | _ => cases calm

theorem performs_quiet (unchanging : call.changes = false)
    (quiet : Quiet h session start call (call.program world h)) :
    Performs world h session start call := by
  have keeps (sight : Sight) (act : Action) (answer : act.Res)
      (allowed : (Sight.contract h (call.Calm h session start)).may sight act)
      (_ : Sight.gives h sight act answer)
      (here : sight.toStores = start.toStores ∧
        ∃ after, sight.session = some after ∧ session.Within (start.Listed session) after) :=
    calm_next answer allowed.2 here.1 here.2
  have bounded := Program.Conforms.strengthen _ keeps quiet
    ⟨rfl, session, opened, session.within_refl⟩
  have wider (sight : Sight) (act : Action)
      (allowed : (Sight.contract h (call.Calm h session start)).may sight act) :
      (Sight.contract h (call.May h session start)).may sight act :=
    ⟨allowed.1, may_of_calm allowed.2⟩
  refine bounded.weaken wider rfl rfl fun sight result ends => ⟨?_, ends.1.2⟩
  rw [ends.1.1]
  exact .kept (by simp [unchanging])

theorem performs_program (world : World) (ordinary : call.ordinary = true) :
    Performs world h session start call := by
  cases changing : call.changes with
  | false => exact performs_quiet opened changing (quiet_program opened world ordinary changing)
  | true =>
    cases call with
    | generateKeyPair mechanism pubTemplate privTemplate given =>
      exact performs_generateKeyPair opened mechanism pubTemplate privTemplate given
    | generateKey mechanism template given =>
      exact performs_generateKey opened mechanism template given
    | createObject template given => exact performs_createObject opened template given
    | copyObject hObject template given => exact performs_copyObject opened hObject template given
    | destroyObject hObject => exact performs_destroyObject opened hObject
    | setAttributeValue hObject template =>
      exact performs_setAttributeValue opened hObject template
    | unwrapKey mechanism hUnwrappingKey wrappedKey template given =>
      exact performs_unwrapKey opened mechanism hUnwrappingKey wrappedKey template given
    | deriveKey mechanism hBaseKey template given =>
      exact performs_deriveKey opened mechanism hBaseKey template given
    | _ => cases changing

end Performs

/-! ### The state after a call -/

structure State.Framed (h : SessionHandle) (before after : State) : Prop where
  initialized : after.initialized = before.initialized
  slots : after.slots = before.slots
  nextSession : after.nextSession = before.nextSession
  others : ∀ other, other ≠ h → after.sessions.lookup other = before.sessions.lookup other

structure Stores.Behind (stores : Stores) (world : World) (before after : State) : Prop where
  objects : after.objects = stores.objects
  tokens : after.tokens = stores.tokens
  untouched : stores.saved = none → after.disk = before.disk
  file : ∀ snapshot, stores.saved = some snapshot → (∀ choice, world.saves choice = true) →
    ∃ file, after.disk = some file ∧ snapshot.IsFile world after.slots file

section Exec

variable {world : World} {s : State} {h : SessionHandle} {session : Session} {call : SessionCall}
  {start : Sight}

theorem framed_handle (ordinary : call.ordinary = true) {sight : Sight} {act : Action}
    {s' : State} (follows : sight.Follows act) (allowed : call.May h session start sight act)
    (framed : s.Framed h s') : s.Framed h (handle world act s').2 := by
  cases act with
  | updateSession other change =>
    cases (allowed : other = h)
    cases found : s'.sessions.lookup h with
    | none => simpa [handle, found] using framed
    | some current =>
      simp only [handle, found]
      refine ⟨framed.initialized, framed.slots, framed.nextSession, fun another differ => ?_⟩
      exact (Finmap.lookup_insert_of_ne _ differ).trans (framed.others another differ)
  | setAttributes handle template =>
    cases found : s'.objects.get handle <;> simp only [Cryptoki.handle, found] <;>
      exact ⟨framed.initialized, framed.slots, framed.nextSession, framed.others⟩
  | updateSessions slotId change => cases ordinary.symm.trans allowed.1
  | closeSession handle =>
    cases allowed.1
    cases ordinary
  | setInit | registerEngine | resetRegistry | openSession | retainSessions => cases allowed
  | _ => exact ⟨framed.initialized, framed.slots, framed.nextSession, framed.others⟩

theorem exec_ordinary (world : World) (opened : s.sessions.lookup h = some session)
    (ordinary : call.ordinary = true) :
    ∃ stores after, Effect h session (.of h s) call stores ((Call.inSession h call).exec world s).1 ∧
      stores.Behind world s (step world s (.inSession h call)) ∧
      (step world s (.inSession h call)).sessions.lookup h = some after ∧
      session.Within ((Sight.of h s).Listed session) after ∧
      s.Framed h (step world s (.inSession h call)) := by
  have keeps (sight : Sight) (act : Action) (answer : act.Res)
      (allowed : (Sight.contract h (call.May h session (.of h s))).may sight act)
      (_ : Sight.gives h sight act answer) (complete : sight.complete = true) :
      (Sight.next h sight act answer).complete = true := by
    cases act with
    | updateToken slotId change => cases ordinary.symm.trans allowed.2.1
    | _ => exact complete
  have conforms := Program.Conforms.strengthen (fun sight => sight.complete = true) keeps
    (performs_program opened world ordinary) rfl
  rcases Sight.exec_contract (fun s' => s.Framed h s')
    (fun sight act s' follows allowed framed => framed_handle ordinary follows allowed framed) conforms
    ⟨rfl, rfl, rfl, fun _ _ => rfl⟩ with ⟨sight, looks, ⟨complete, effect, after, here, within⟩, framed⟩
  refine ⟨sight.toStores, after, effect, ⟨looks.objects, looks.complete complete, looks.untouched, ?_⟩,
    looks.session.trans here, within, framed⟩
  intro snapshot saved writes
  have slots : (step world s (.inSession h call)).slots = sight.slots := looks.slots
  rw [slots]
  exact looks.file snapshot saved writes

/-! ### Calls in a session that is not there -/

@[simp] def Bare (h : SessionHandle) (_ : Sight) : Action → Prop
  | .checkInit => True
  | .session handle | .updateSession handle _ | .closeSession handle => handle = h
  | _ => False

def Refusal (result : Except Rv Reply) : Prop := ∃ rv, rv ≠ .ok ∧ result = .error rv

@[simp] theorem refusal_error {rv : Rv} : Refusal (.error rv) ↔ rv ≠ .ok := by simp [Refusal]

theorem refuses_program (world : World) (call : SessionCall)
    (closed : start.session = none) :
    Conforms (Sight.contract h (Bare h)) (fun _ result => Refusal result) start
      (call.program world h) := by
  cases call
  all_goals simp only [SessionCall.program, closed, conforms_bind, conforms_adapt, conforms_ite,
    conforms_require, conforms_ensure, conforms_throw, Sight.conforms_checkInit,
    Sight.conforms_withSession, Sight.conforms_withSessionMut, Sight.conforms_touchSession,
    conforms_closeSession, Looks, Sight.contract_may, Sight.contract_gives, Sight.gives, Sight.Follows,
    forall_const, false_implies, Bare, refusal_error, ne_eq, Pkcs11Error.toCkr_ne_ok, not_false_eq_true,
    reduceCtorEq, implies_true, and_self, true_and, and_true,
    sessionSlot, requireRwSession, requireMessageContext, refuseInSession, cGenerateRandom,
    cGetObjectSize, cGetAttributeValue, cFindObjectsInit, cFindObjects, cFindObjectsFinal, cWrapKey,
    cSignInit, cSign, cSignUpdate, cSignFinal, cVerifyInit, cVerify, cVerifyUpdate, cVerifyFinal,
    cEncryptInit, cEncrypt, cEncryptUpdate, cEncryptFinal, cDecryptInit, cDecrypt, cDecryptUpdate,
    cDecryptFinal, cDigestInit, cDigest, cDigestUpdate, cDigestKey, cDigestFinal,
    cMessageEncryptInit, cEncryptMessage, cEncryptMessageBegin, cMessageEncryptFinal,
    cMessageDecryptInit, cDecryptMessage, cDecryptMessageBegin, cMessageDecryptFinal, cSignMessage,
    cSignMessageBegin, cMessageSignFinal, cVerifyMessage, cVerifyMessageBegin, cMessageVerifyFinal,
    cGetSessionInfo, cSessionCancel, cSeedRandom, cGenerateKeyPair, cGenerateKey, cCreateObject,
    cCopyObject, cDestroyObject, cSetAttributeValue, cUnwrapKey, cDeriveKey, cInitPin, cSetPin,
    cCloseSession, cLogin, cLoginUser, cLogout]

theorem bare_handle {sight : Sight} {act : Action} {s' : State} (allowed : Bare h sight act)
    (closed : s'.sessions.lookup h = none) : (handle world act s').2 = s' := by
  cases act with
  | checkInit => rfl
  | session handle => rfl
  | updateSession handle change =>
    cases (allowed : handle = h)
    simp [Cryptoki.handle, closed]
  | closeSession handle =>
    cases (allowed : handle = h)
    have same : s'.sessions.erase h = s'.sessions := by
      refine Finmap.ext_lookup fun other => ?_
      rcases eq_or_ne other h with rfl | differ
      · rw [Finmap.lookup_erase, closed]
      · rw [Finmap.lookup_erase_ne differ]
    simp [Cryptoki.handle, same]
  | _ => cases allowed

theorem exec_closed (world : World) (call : SessionCall) (closed : s.sessions.lookup h = none) :
    Refusal ((Call.inSession h call).exec world s).1 ∧ step world s (.inSession h call) = s := by
  have keeps (sight : Sight) (act : Action) (s' : State) (_ : sight.Follows act)
      (allowed : Bare h sight act) (same : s' = s) : (handle world act s').2 = s := by
    subst same
    exact bare_handle allowed closed
  rcases Sight.exec_contract (fun s' => s' = s) keeps (refuses_program world call closed) rfl with
    ⟨sight, _, refused, same⟩
  exact ⟨refused, same⟩

/-! ### Calls before the library is initialized -/

/-- Every call starts by asking whether the library is initialized, or is refused in any case. -/
theorem program_starts (world : World) (call : SessionCall) :
    (∃ rest, call.program world h = ckTry checkInit >>= fun _ => rest) ∨
      ∃ rv, rv ≠ .ok ∧ call.program world h = throw rv := by
  cases call with
  | notSupported => exact .inr ⟨_, by decide, rfl⟩
  | notParallel => exact .inr ⟨_, by decide, rfl⟩
  | _ => exact .inl ⟨_, rfl⟩

theorem exec_uninitialized (world : World) (call : SessionCall) (unready : s.initialized = false) :
    Refusal ((Call.inSession h call).exec world s).1 ∧ step world s (.inSession h call) = s := by
  rcases program_starts world call (h := h) with ⟨rest, starts⟩ | ⟨rv, fails, starts⟩
  · have ran : (Call.inSession h call).exec world s = (.error Pkcs11Error.notInitialised.toCkr, s) := by
      simp [Call.exec, Call.program, starts, checkInit, ensure, handle, unready, Except.mapError]
    rw [step, ran]
    exact ⟨⟨_, Pkcs11Error.toCkr_ne_ok _, rfl⟩, rfl⟩
  · have ran : (Call.inSession h call).exec world s = (.error rv, s) := by
      simp [Call.exec, Call.program, starts]
    rw [step, ran]
    exact ⟨⟨_, fails, rfl⟩, rfl⟩

/-! ### Calls that create objects -/

def Reply.handles (reply : Reply) : List ObjectHandle :=
  match reply.output with
  | .handle handle => [handle]
  | .keyPair pub priv => [pub, priv]
  | _ => []

theorem ordinary_of_takes {next handle : ObjectHandle} (member : handle ∈ call.takes next) :
    call.ordinary = true ∧ call.changes = true := by
  cases call <;> first | exact ⟨rfl, rfl⟩ | cases member

theorem Birth.takes_eq {object : KeyObject} (born : Birth session start call object)
    (next : ObjectHandle) : call.takes next = [next] := by
  cases born <;> rfl

theorem PairBirth.takes_eq {pub priv : KeyObject}
    (born : PairBirth session start call pub priv) (next : ObjectHandle) :
    call.takes next = [next, next + 1] := by
  cases born
  rfl

/-- A call that creates objects fails and files none, or it files objects of its session and slot
under the handles that it replies with. -/
theorem takes_cases (world : World) (opened : s.sessions.lookup h = some session)
    {taken : ObjectHandle} (member : taken ∈ call.takes s.nextHandle) :
    let reply := (Call.inSession h call).reply world s
    let after := step world s (.inSession h call)
    (reply.rv ≠ .ok ∧ reply.handles = [] ∧ after.objects = s.objects) ∨
      (reply.rv = .ok ∧ reply.handles = call.takes s.nextHandle ∧
        (∀ handle ∈ call.takes s.nextHandle, ∃ object,
          after.objects.get handle = some (storedCopy h object) ∧
            object.slotId = session.slotId ∧ object.creatingSession = none) ∧
        ∀ handle ∉ call.takes s.nextHandle, after.objects.get handle = s.objects.get handle) := by
  intro reply after
  rcases exec_ordinary world opened (ordinary_of_takes member).1 with ⟨stores, _, effect, behind, -⟩
  have answered : reply = Reply.ofResult ((Call.inSession h call).exec world s).1 := rfl
  generalize ((Call.inSession h call).exec world s).1 = result at effect answered
  rw [answered, (behind.objects : after.objects = stores.objects)]
  cases effect with
  | kept fails =>
    rcases fails (ordinary_of_takes member).2 with ⟨rv, bad, rfl⟩
    exact .inl ⟨bad, rfl, rfl⟩
  | @created _ object _ born _ filed =>
    have handle : (storedCopy h object).handle = s.nextHandle :=
      (storedCopy_handle h object).trans born.handle_eq
    rw [born.takes_eq]
    refine .inr ⟨rfl, rfl, fun other taken => ?_, fun other free => ?_⟩
    · refine ⟨object, ?_, born.slotId_eq, born.creatingSession_eq⟩
      rw [filed.objects_eq, ObjectStore.get_insert, handle, if_pos (List.mem_singleton.mp taken)]
    · rw [filed.objects_eq, ObjectStore.get_insert, handle, if_neg (fun same => free (by simp [same]))]
      rfl
  | @paired _ pub priv _ _ born _ first second =>
    have handles : (storedCopy h pub).handle = s.nextHandle ∧
        (storedCopy h priv).handle = s.nextHandle + 1 :=
      ⟨(storedCopy_handle h pub).trans born.handle_eq.1,
        (storedCopy_handle h priv).trans born.handle_eq.2⟩
    rw [born.takes_eq]
    refine .inr ⟨rfl, rfl, fun other taken => ?_, fun other free => ?_⟩
    · rw [second.objects_eq, first.objects_eq, ObjectStore.get_insert, ObjectStore.get_insert,
        handles.1, handles.2]
      by_cases last : other = s.nextHandle + 1
      · exact ⟨priv, by rw [if_pos last], born.slotId_eq.2, born.creatingSession_eq.2⟩
      · have earlier : other = s.nextHandle := by simpa [last] using taken
        exact ⟨pub, by rw [if_neg last, if_pos earlier], born.slotId_eq.1, born.creatingSession_eq.1⟩
    · rw [second.objects_eq, first.objects_eq, ObjectStore.get_insert, ObjectStore.get_insert,
        handles.1, handles.2, if_neg fun same => free (by simp [same]),
        if_neg fun same => free (by simp [same])]
      rfl
  | refused | written | destroyed => cases member

end Exec

end ScoreCrypto.Cryptoki
