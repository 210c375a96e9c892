import ScoreCrypto.Cryptoki.Effects

/-!
Slots among themselves. Two states that differ only in the objects of other slots answer a call alike,
and the call leaves those objects alone, unless it names one of them where the slot is not asked for.
-/

namespace ScoreCrypto.Cryptoki

open Fallible SessionCall

/-! ### What the remaining calls may do -/

theorem allowed_program (world : World) {h : SessionHandle} {session : Session} {start : Sight}
    (opened : start.session = some session) (call : SessionCall) :
    Conforms (Sight.contract h (call.May h session start)) (fun _ _ => True) start
      (call.program world h) := by
  cases login : call.ordinary with
  | true =>
    exact (performs_program opened world login).weaken (fun _ _ allowed => allowed) rfl rfl
      fun _ _ _ => trivial
  | false =>
    cases call with
    | initPin pin =>
      simp [SessionCall.program, cInitPin, requireRwSession, opened, ordinary, Sight.Follows,
        Sight.conforms_persist saves_may]
    | setPin oldPin newPin =>
      simp [SessionCall.program, cSetPin, requireRwSession, opened, ordinary, Sight.Follows,
        Sight.next, Sight.nextSession, Sight.conforms_persist saves_may]
    | closeSession => simp [SessionCall.program, cCloseSession, Sight.Follows, Sight.gives]
    | login | loginUser =>
      simp [SessionCall.program, cLogin, cLoginUser, checkLogin, checkContextLogin,
        loginStateForSlot, sessionSlot, opened, ordinary, Sight.Follows, Sight.gives, Sight.next,
        Sight.nextSession]
    | logout =>
      simp [SessionCall.program, cLogout, loginStateForSlot, opened, ordinary, Sight.Follows,
        Sight.gives, Sight.next, Sight.nextSession]
    | _ => cases login

/-! ### States that differ in the objects of other slots -/

def ObjectStore.Foreign (store : ObjectStore) (slotId : SlotId) (handle : ObjectHandle) : Prop :=
  ∃ object, store.get handle = some object ∧ object.slotId ≠ slotId

def SameOrForeign (slotId : SlotId) (first second : ObjectStore) (handle : ObjectHandle) : Prop :=
  first.get handle = second.get handle ∨ first.Foreign slotId handle ∧ second.Foreign slotId handle

structure State.Alike (slotId : SlotId) (s t : State) : Prop where
  initialized : t.initialized = s.initialized
  slots : t.slots = s.slots
  sessions : t.sessions = s.sessions
  nextSession : t.nextSession = s.nextSession
  nextHandle : t.nextHandle = s.nextHandle
  tokens : t.tokens = s.tokens
  choices : t.choices = s.choices
  objects : ∀ handle, SameOrForeign slotId s.objects t.objects handle

def ObjectStore.SameForeign (slotId : SlotId) (before after : ObjectStore) : Prop :=
  ∀ handle object, object.slotId ≠ slotId →
    (after.get handle = some object ↔ before.get handle = some object)

namespace State.Alike

variable {slotId : SlotId} {s t : State} (alike : s.Alike slotId t)

include alike

theorem get_forSlot (handle : ObjectHandle) :
    ((s.objects.get handle).filter fun object => object.slotId = slotId) =
      (t.objects.get handle).filter fun object => object.slotId = slotId := by
  rcases alike.objects handle with same | ⟨⟨mine, here, foreign⟩, ⟨yours, there, foreignToo⟩⟩
  · rw [same]
  · simp [here, there, Option.filter, foreign, foreignToo]

theorem handles_eq : s.objects.handles = t.objects.handles := by
  ext handle
  rw [s.objects.mem_handles, t.objects.mem_handles]
  rcases alike.objects handle with same | ⟨⟨mine, here, _⟩, ⟨yours, there, _⟩⟩
  · rw [same]
  · simp [here, there]

theorem findObjects_eq (world : World) (template : List (AttributeType × Bytes)) (loggedIn : Bool) :
    s.findObjects world slotId template loggedIn = t.findObjects world slotId template loggedIn := by
  rw [State.findObjects, State.findObjects, State.allObjects, State.allObjects, alike.handles_eq,
    alike.choices]
  congr 1
  generalize world.order s.choices t.objects.handles = order
  induction order with
  | nil => rfl
  | cons handle rest ih =>
    rcases alike.objects handle with same | ⟨⟨mine, here, foreign⟩, ⟨yours, there, foreignToo⟩⟩
    · cases found : t.objects.get handle <;> simp [same, found, List.filter_cons, ih]
    · simp [here, there, foreign, foreignToo, ih]

end State.Alike

theorem State.alike_iff {slotId : SlotId} {s t : State} :
    s.Alike slotId t ↔ ∃ objects disk, t = { s with objects, disk } ∧
      ∀ handle, SameOrForeign slotId s.objects objects handle := by
  constructor
  · intro alike
    refine ⟨t.objects, t.disk, ?_, alike.objects⟩
    cases s
    cases t
    simpa using ⟨alike.initialized, alike.slots, alike.sessions, alike.nextSession, alike.nextHandle,
      alike.tokens, alike.choices⟩
  · intro made
    rcases made with ⟨objects, disk, rfl, same⟩
    exact ⟨rfl, rfl, rfl, rfl, rfl, rfl, rfl, same⟩

/-! ### Changes of the objects of one slot -/

section Changes

variable {slotId : SlotId} {first second : ObjectStore} {handle : ObjectHandle}

section

variable (same : SameOrForeign slotId first second handle)

include same

theorem SameOrForeign.insert (object : KeyObject) :
    SameOrForeign slotId (first.insert object) (second.insert object) handle := by
  rw [SameOrForeign, ObjectStore.Foreign, ObjectStore.Foreign, ObjectStore.get_insert,
    ObjectStore.get_insert]
  split
  · exact .inl rfl
  · exact same

theorem SameOrForeign.erase (erased : ObjectHandle) :
    SameOrForeign slotId (first.erase erased) (second.erase erased) handle := by
  rw [SameOrForeign, ObjectStore.Foreign, ObjectStore.Foreign, ObjectStore.get_erase,
    ObjectStore.get_erase]
  split
  · exact .inl rfl
  · exact same

theorem SameOrForeign.retain {keep : KeyObject → Bool}
    (kept : ∀ object, first.get handle = some object → object.slotId ≠ slotId → keep object = true)
    (keptToo : ∀ object, second.get handle = some object → object.slotId ≠ slotId →
      keep object = true) :
    SameOrForeign slotId (first.retain keep) (second.retain keep) handle := by
  rcases same with same | ⟨⟨mine, here, foreign⟩, ⟨yours, there, foreignToo⟩⟩
  · exact .inl (by rw [ObjectStore.get_retain, ObjectStore.get_retain, same])
  · refine .inr ⟨⟨mine, ?_, foreign⟩, ⟨yours, ?_, foreignToo⟩⟩
    · simp [here, kept mine here foreign]
    · simp [there, keptToo yours there foreignToo]

theorem SameOrForeign.foreign_iff : first.Foreign slotId handle ↔ second.Foreign slotId handle := by
  rcases same with same | ⟨foreign, foreignToo⟩
  · rw [ObjectStore.Foreign, ObjectStore.Foreign, same]
  · exact iff_of_true foreign foreignToo

theorem SameOrForeign.get_eq
    (own : ¬first.Foreign slotId handle) : first.get handle = second.get handle :=
  same.resolve_right fun foreign => own foreign.1

end

theorem ObjectStore.sameForeign_insert (store : ObjectStore) {object : KeyObject}
    (own : object.slotId = slotId) (free : ¬store.Foreign slotId object.handle) :
    store.SameForeign slotId (store.insert object) := by
  intro handle other foreign
  rw [ObjectStore.get_insert]
  split
  case isTrue here =>
    subst here
    constructor
    · intro same
      cases same
      exact absurd own foreign
    · intro stored
      exact absurd ⟨other, stored, foreign⟩ free
  case isFalse => rfl

theorem ObjectStore.sameForeign_erase (store : ObjectStore) (own : ¬store.Foreign slotId handle) :
    store.SameForeign slotId (store.erase handle) := by
  intro other object foreign
  rw [ObjectStore.get_erase]
  split
  case isTrue here =>
    subst here
    exact ⟨nofun, fun stored => absurd ⟨object, stored, foreign⟩ own⟩
  case isFalse => rfl

theorem ObjectStore.sameForeign_retain (store : ObjectStore) {keep : KeyObject → Bool}
    (kept : ∀ handle object, store.get handle = some object → object.slotId ≠ slotId →
      keep object = true) : store.SameForeign slotId (store.retain keep) := by
  intro handle object foreign
  rw [ObjectStore.get_retain, Option.filter_eq_some_iff]
  exact ⟨And.left, fun stored => ⟨stored, kept handle object stored foreign⟩⟩

theorem ObjectStore.SameForeign.foreign_iff {before after : ObjectStore}
    (same : before.SameForeign slotId after) (handle : ObjectHandle) :
    after.Foreign slotId handle ↔ before.Foreign slotId handle := by
  constructor
  · intro foreign
    rcases foreign with ⟨object, stored, foreign⟩
    exact ⟨object, (same handle object foreign).mp stored, foreign⟩
  · intro foreign
    rcases foreign with ⟨object, stored, foreign⟩
    exact ⟨object, (same handle object foreign).mpr stored, foreign⟩

end Changes

/-! ### Calls that keep to the objects of their slot -/

/-- The call does not come across an object of another slot unasked: not under the handle that it
looks up without the slot, and not as the creator of one. -/
structure ObjectStore.Apart (store : ObjectStore) (h : SessionHandle) (session : Session)
    (call : SessionCall) : Prop where
  named : ∀ handle, call.unchecked session = some handle → ¬store.Foreign session.slotId handle
  created : call = .closeSession → ∀ handle object, store.get handle = some object →
    object.slotId ≠ session.slotId → object.creatingSession ≠ some h

/-- The objects of other slots were there before, where they are. -/
def ObjectStore.OldForeign (slotId : SlotId) (before after : ObjectStore) : Prop :=
  ∀ handle object, object.slotId ≠ slotId → after.get handle = some object →
    before.get handle = some object

section Apart

variable {world : World} {h : SessionHandle} {session : Session} {call : SessionCall}

theorem ObjectStore.OldForeign.foreign {slotId : SlotId} {before after : ObjectStore}
    (old : before.OldForeign slotId after) {handle : ObjectHandle}
    (foreign : after.Foreign slotId handle) : before.Foreign slotId handle := by
  rcases foreign with ⟨object, stored, other⟩
  exact ⟨object, old handle object other stored, other⟩

theorem ObjectStore.Apart.of_oldForeign {before after : ObjectStore}
    (apart : before.Apart h session call) (old : before.OldForeign session.slotId after) :
    after.Apart h session call where
  named handle looked foreign := apart.named handle looked (old.foreign foreign)
  created closing handle object stored foreign :=
    apart.created closing handle object (old handle object foreign stored) foreign

variable {start sight : Sight}

theorem ObjectStore.Apart.kept {store : ObjectStore} (apart : store.Apart h session call)
    {keep : KeyObject → Bool} (allowed : call.May h session start sight (.retainObjects keep))
    {handle : ObjectHandle} {object : KeyObject} (stored : store.get handle = some object)
    (foreign : object.slotId ≠ session.slotId) : keep object = true := by
  rcases allowed with ⟨closing, rfl⟩ | ⟨_, rfl⟩
  · simpa using apart.created closing handle object stored foreign
  · simp [foreign]

theorem ObjectStore.Apart.named_own {store : ObjectStore} (apart : store.Apart h session call)
    {handle : ObjectHandle} (looked : call.unchecked session = some handle) {object : KeyObject}
    (found : store.get handle = some object) : object.slotId = session.slotId := by
  by_contra foreign
  exact apart.named handle looked ⟨object, found, foreign⟩

theorem ObjectStore.sameForeign_refl (store : ObjectStore) (slotId : SlotId) :
    store.SameForeign slotId store := fun _ _ _ => Iff.rfl

theorem not_foreign_removed {handle : ObjectHandle}
    (allowed : call.May h session start sight (.removeObject handle)) :
    ¬sight.objects.Foreign session.slotId handle := by
  intro foreign
  rcases allowed with ⟨object, stored, own⟩
  rcases foreign with ⟨other, here, foreign⟩
  rw [stored] at here
  cases here
  exact foreign own

theorem ObjectStore.oldForeign_insert (store : ObjectStore) {object : KeyObject} {slotId : SlotId}
    (own : object.slotId = slotId) : store.OldForeign slotId (store.insert object) := by
  intro handle other foreign stored
  rw [ObjectStore.get_insert] at stored
  split at stored
  · cases stored
    exact absurd own foreign
  · exact stored

theorem ObjectStore.OldForeign.trans {slotId : SlotId} {first second third : ObjectStore}
    (earlier : first.OldForeign slotId second) (later : second.OldForeign slotId third) :
    first.OldForeign slotId third :=
  fun handle object foreign stored => earlier handle object foreign
    (later handle object foreign stored)

theorem oldForeign_handle {act : Action} {s : State} (apart : s.objects.Apart h session call)
    (follows : sight.Follows act) (allowed : call.May h session start sight act) :
    s.objects.OldForeign session.slotId (handle world act s).2.objects := by
  rw [(ObjectStore.view_handle world act s).2]
  cases act with
  | setAttributes handle template =>
    cases found : s.objects.get handle with
    | none =>
      simp only [ObjectStore.next, found]
      exact fun _ _ _ stored => stored
    | some object =>
      simp only [ObjectStore.next, found]
      refine s.objects.oldForeign_insert ?_
      rw [writeAttributes_slotId, apart.named_own allowed found]
  | insertObject object => exact s.objects.oldForeign_insert allowed.1
  | removeObject handle =>
    intro other object _ stored
    simp only [ObjectStore.next, ObjectStore.get_erase] at stored
    split at stored
    · cases stored
    · exact stored
  | retainObjects keep =>
    intro other object _ stored
    simp only [ObjectStore.next, ObjectStore.get_retain, Option.filter_eq_some_iff] at stored
    exact stored.1
  | loadObjects objects nextHandle => cases follows
  | _ => exact fun _ _ _ stored => stored

theorem sameForeign_handle {act : Action} {s : State} (apart : s.objects.Apart h session call)
    (taken : ∀ handle ∈ call.takes start.nextHandle, ¬s.objects.Foreign session.slotId handle)
    (removed : ∀ handle, act = .removeObject handle → ¬s.objects.Foreign session.slotId handle)
    (follows : sight.Follows act) (allowed : call.May h session start sight act) :
    s.objects.SameForeign session.slotId (handle world act s).2.objects := by
  rw [(ObjectStore.view_handle world act s).2]
  cases act with
  | setAttributes handle template =>
    cases found : s.objects.get handle with
    | none => simpa [ObjectStore.next, found] using s.objects.sameForeign_refl _
    | some object =>
      simp only [ObjectStore.next, found]
      refine s.objects.sameForeign_insert ?_ ?_
      · rw [writeAttributes_slotId, apart.named_own allowed found]
      · rw [writeAttributes_handle, s.objects.handle_of_get found]
        exact apart.named handle allowed
  | insertObject object => exact s.objects.sameForeign_insert allowed.1 (taken _ allowed.2)
  | removeObject handle => exact s.objects.sameForeign_erase (removed handle rfl)
  | retainObjects keep =>
    exact s.objects.sameForeign_retain fun _ _ stored foreign => apart.kept allowed stored foreign
  | loadObjects objects nextHandle => cases follows
  | _ => exact s.objects.sameForeign_refl _

theorem ObjectStore.SameForeign.trans {slotId : SlotId} {first second third : ObjectStore}
    (earlier : first.SameForeign slotId second) (later : second.SameForeign slotId third) :
    first.SameForeign slotId third :=
  fun handle object foreign => (later handle object foreign).trans (earlier handle object foreign)

theorem alike_handle (world : World) {act : Action} {s t : State} (alike : s.Alike session.slotId t)
    (apart : s.objects.Apart h session call) (apartToo : t.objects.Apart h session call)
    (looks : s.objects = sight.objects) (follows : sight.Follows act)
    (allowed : call.May h session start sight act) :
    (handle world act s).1 = (handle world act t).1 ∧
      (handle world act s).2.Alike session.slotId (handle world act t).2 := by
  have found (slotId : SlotId) (own : slotId = session.slotId) := own ▸ alike.findObjects_eq world
  have forSlot (handle : ObjectHandle) := alike.get_forSlot handle
  simp only [State.alike_iff] at alike ⊢
  rcases alike with ⟨objects, disk, rfl, same⟩
  cases act with
  | updateSession handle change =>
    cases here : s.sessions.lookup handle <;> simp only [Cryptoki.handle, here]
    · exact ⟨trivial, objects, disk, rfl, same⟩
    · exact ⟨trivial, objects, disk, rfl, same⟩
  | object handle => exact ⟨(same handle).get_eq (apart.named handle allowed), objects, disk, rfl, same⟩
  | objectForSlot handle slotId =>
    cases (allowed : slotId = session.slotId)
    exact ⟨forSlot handle, objects, disk, rfl, same⟩
  | findObjects slotId template loggedIn =>
    exact ⟨found slotId allowed.1 template loggedIn, objects, disk, rfl, same⟩
  | setAttributes handle template =>
    have equal := (same handle).get_eq (apart.named handle allowed)
    cases here : objects.get handle with
    | none =>
      simp only [Cryptoki.handle, equal, here]
      exact ⟨trivial, objects, disk, rfl, same⟩
    | some object =>
      simp only [Cryptoki.handle, equal, here]
      exact ⟨trivial, _, disk, rfl, fun other => (same other).insert _⟩
  | insertObject object => exact ⟨rfl, _, disk, rfl, fun other => (same other).insert object⟩
  | removeObject handle =>
    have own := not_foreign_removed allowed
    rw [← looks] at own
    exact ⟨(same handle).get_eq own, _, disk, rfl, fun other => (same other).erase handle⟩
  | retainObjects keep =>
    refine ⟨rfl, _, disk, rfl, fun other => (same other).retain ?_ ?_⟩
    · exact fun _ stored foreign => apart.kept allowed stored foreign
    · exact fun _ stored foreign => apartToo.kept allowed stored foreign
  | saveState tokens nextHandle => exact ⟨rfl, objects, _, rfl, same⟩
  | openSession | loadObjects | profileOn | loadState => cases follows
  | _ => exact ⟨rfl, objects, disk, rfl, same⟩

/-- Neither the reply nor the state after the call tells the objects of other slots in the two states
apart, and the call leaves those objects as they are. -/
structure Isolates (world : World) (h : SessionHandle) (session : Session) (call : SessionCall)
    (s t : State) : Prop where
  reply : (Call.inSession h call).reply world s = (Call.inSession h call).reply world t
  after : (step world s (.inSession h call)).Alike session.slotId (step world t (.inSession h call))
  unchanged : s.objects.SameForeign session.slotId (step world s (.inSession h call)).objects
  unchangedToo : t.objects.SameForeign session.slotId (step world t (.inSession h call)).objects

/-- The handles for new objects are not those of objects of other slots. -/
def State.TakesOwn (s : State) (session : Session) (call : SessionCall) : Prop :=
  ∀ handle ∈ call.takes s.nextHandle, ¬s.objects.Foreign session.slotId handle

theorem alike_of_apart (world : World) {s t : State} (opened : s.sessions.lookup h = some session)
    (alike : s.Alike session.slotId t) (apart : s.objects.Apart h session call)
    (apartToo : t.objects.Apart h session call) :
    (Call.inSession h call).reply world s = (Call.inSession h call).reply world t ∧
      (step world s (.inSession h call)).Alike session.slotId (step world t (.inSession h call)) ∧
      (s.TakesOwn session call →
        s.objects.SameForeign session.slotId (step world s (.inSession h call)).objects) ∧
      (t.TakesOwn session call →
        t.objects.SameForeign session.slotId (step world t (.inSession h call)).objects) := by
  -- through the run the two states stay alike, and their foreign objects are among those of the start
  let same (sight : Sight) (s' t' : State) : Prop :=
    Sight.Shows h world s.disk sight s' ∧ s'.Alike session.slotId t' ∧
      (s.objects.OldForeign session.slotId s'.objects ∧
        t.objects.OldForeign session.slotId t'.objects) ∧
      (s.TakesOwn session call → s.objects.SameForeign session.slotId s'.objects) ∧
      (t.TakesOwn session call → t.objects.SameForeign session.slotId t'.objects)
  have steps (sight : Sight) (act : Action) (s' t' : State)
      (allowed : (Sight.contract h (call.May h session (.of h s))).may sight act)
      (here : same sight s' t') :
      (handle world act s').1 = (handle world act t').1 ∧
        Sight.gives h sight act (handle world act s').1 ∧
        same (Sight.next h sight act (handle world act s').1) (handle world act s').2
          (handle world act t').2 := by
    rcases here with ⟨looks, alike', ⟨old, oldToo⟩, mine, yours⟩
    have apartNow := apart.of_oldForeign old
    have apartTooNow := apartToo.of_oldForeign oldToo
    have removed (handle : ObjectHandle) (removes : act = .removeObject handle) :
        ¬s'.objects.Foreign session.slotId handle := by
      subst removes
      rw [looks.objects]
      exact not_foreign_removed allowed.2
    have removedToo (handle : ObjectHandle) (removes : act = .removeObject handle) :
        ¬t'.objects.Foreign session.slotId handle :=
      (alike'.objects handle).foreign_iff.not.mp (removed handle removes)
    have acts := alike_handle world alike' apartNow apartTooNow looks.objects allowed.1 allowed.2
    refine ⟨acts.1, looks.gives act, looks.next allowed.1, acts.2, ⟨?_, ?_⟩, ?_, ?_⟩
    · exact old.trans (oldForeign_handle apartNow allowed.1 allowed.2)
    · exact oldToo.trans (oldForeign_handle apartTooNow allowed.1 allowed.2)
    · intro taken
      refine (mine taken).trans (sameForeign_handle apartNow ?_ removed allowed.1 allowed.2)
      exact fun handle member foreign => taken handle member (old.foreign foreign)
    · intro taken
      refine (yours taken).trans (sameForeign_handle apartTooNow ?_ removedToo allowed.1 allowed.2)
      refine fun handle member foreign => taken handle ?_ (oldToo.foreign foreign)
      rw [alike.nextHandle]
      exact member
  have start : same (.of h s) s t :=
    ⟨Sight.shows_of h world s, alike, ⟨fun _ _ _ stored => stored, fun _ _ _ stored => stored⟩,
      fun _ => s.objects.sameForeign_refl _, fun _ => t.objects.sameForeign_refl _⟩
  rcases Program.Conforms.alike same steps (allowed_program world opened call) start with
    ⟨result, sight, _, after, _, mine, yours⟩
  exact ⟨congrArg Reply.ofResult result, after, mine, yours⟩

/-! ### Calls that reach other slots -/

theorem exec_destroyObject_foreign (world : World) {s : State} {hObject : ObjectHandle}
    (opened : s.sessions.lookup h = some session) (writable : session.isRw = true)
    (foreign : s.objects.Foreign session.slotId hObject) :
    (Call.inSession h (.destroyObject hObject)).exec world s =
      (.error (if s.initialized then Pkcs11Error.invalidObjectHandle.toCkr
        else Pkcs11Error.notInitialised.toCkr), s) := by
  rcases foreign with ⟨object, found, foreign⟩
  cases ready : s.initialized with
  | false =>
    simp [Call.exec, Call.program, SessionCall.program, cDestroyObject, checkInit, ensure, handle,
      ready, Except.mapError]
  | true =>
    have hidden : (some object).filter (fun object => object.slotId = session.slotId) = none := by
      simp [foreign]
    cases token : object.isTokenObject <;>
      simp [Call.exec, Call.program, SessionCall.program, cDestroyObject, checkInit, withSession,
        withObject, withObjectForSlot, requireRwSession, require, ensure, handle, ready, opened,
        found, hidden, token, Session.requireRw, writable, Except.mapError]

theorem objects_closeSession (world : World) {s : State} (ready : s.initialized = true)
    (opened : s.sessions.lookup h = some session) :
    (step world s (.inSession h .closeSession)).objects =
      s.objects.retain fun object => object.creatingSession ≠ some h := by
  simp [step, Call.exec, Call.program, SessionCall.program, cCloseSession, checkInit, ensure, handle,
    closeSession, require, retainObjects, ready, opened, Except.mapError]

/-- The object that a call makes use of without asking for its slot. What C_DestroyObject asks first,
whether it is a token object, does not matter in a read-write session. -/
def SessionCall.usesUnchecked (session : Session) : SessionCall → Option ObjectHandle
  | .destroyObject hObject => if session.isRw = true then none else some hObject
  | call => call.unchecked session

def State.UsesOwn (s : State) (session : Session) (call : SessionCall) : Prop :=
  s.initialized = true →
    ∀ handle, call.usesUnchecked session = some handle → ¬s.objects.Foreign session.slotId handle

/-- A call that succeeds in creating objects does not get the handle of an object of another slot for
one of them, and none is removed with the session. -/
structure State.OutOfTheWay (world : World) (s : State) (h : SessionHandle) (session : Session)
    (call : SessionCall) : Prop where
  taken : ((Call.inSession h call).reply world s).rv = .ok → s.TakesOwn session call
  created : s.initialized = true → call = .closeSession → ∀ handle object,
    s.objects.get handle = some object → object.slotId ≠ session.slotId →
      object.creatingSession ≠ some h

section OutOfTheWay

variable {s t : State}

theorem State.UsesOwn.apart (uses : s.UsesOwn session call) (ready : s.initialized = true)
    (away : s.OutOfTheWay world h session call)
    (destroys : ∀ hObject, call = .destroyObject hObject → session.isRw = true →
      ¬s.objects.Foreign session.slotId hObject) :
    s.objects.Apart h session call := by
  refine ⟨fun handle looked => ?_, away.created ready⟩
  cases call with
  | destroyObject hObject =>
    cases looked
    cases writable : session.isRw with
    | true => exact destroys handle rfl writable
    | false => exact uses ready handle (by simp [usesUnchecked, writable])
  | _ => exact uses ready handle looked

theorem State.Alike.usesOwn (alike : s.Alike session.slotId t) (uses : s.UsesOwn session call) :
    t.UsesOwn session call := fun ready handle used =>
  (alike.objects handle).foreign_iff.not.mp (uses (alike.initialized ▸ ready) handle used)

theorem State.OutOfTheWay.unchanged (opened : s.sessions.lookup h = some session)
    (away : s.OutOfTheWay world h session call)
    (same : s.TakesOwn session call →
      s.objects.SameForeign session.slotId (step world s (.inSession h call)).objects) :
    s.objects.SameForeign session.slotId (step world s (.inSession h call)).objects := by
  by_cases succeeds : ((Call.inSession h call).reply world s).rv = .ok
  · exact same (away.taken succeeds)
  · cases creates : call.takes s.nextHandle with
    | nil => exact same (by simp [State.TakesOwn, creates])
    | cons handle rest =>
      have member : handle ∈ call.takes s.nextHandle := by simp [creates]
      rcases takes_cases world opened member with ⟨-, -, kept⟩ | ⟨ok, -⟩
      · rw [kept]
        exact s.objects.sameForeign_refl _
      · exact absurd ok succeeds

theorem isolates_of_unchanged (alike : s.Alike session.slotId t)
    (reply : (Call.inSession h call).reply world s = (Call.inSession h call).reply world t)
    (stays : step world s (.inSession h call) = s) (staysToo : step world t (.inSession h call) = t) :
    Isolates world h session call s t := by
  refine ⟨reply, ?_, ?_, ?_⟩
  · rwa [stays, staysToo]
  · rw [stays]
    exact s.objects.sameForeign_refl _
  · rw [staysToo]
    exact t.objects.sameForeign_refl _

theorem isolates_uninitialized (world : World) (call : SessionCall) (unready : s.initialized = false)
    (alike : s.Alike session.slotId t) : Isolates world h session call s t := by
  have unreadyToo : t.initialized = false := alike.initialized.trans unready
  refine isolates_of_unchanged alike ?_ (exec_uninitialized world call unready).2
    (exec_uninitialized world call unreadyToo).2
  rw [Call.reply, Call.reply]
  rcases program_starts world call (h := h) with ⟨rest, starts⟩ | ⟨rv, -, starts⟩ <;>
    simp [Call.exec, Call.program, starts, checkInit, ensure, handle, unready, unreadyToo,
      Except.mapError]

theorem isolates_of_outOfTheWay (world : World) (call : SessionCall)
    (opened : s.sessions.lookup h = some session) (alike : s.Alike session.slotId t)
    (uses : s.UsesOwn session call) (away : s.OutOfTheWay world h session call)
    (awayToo : t.OutOfTheWay world h session call) : Isolates world h session call s t := by
  cases ready : s.initialized with
  | false => exact isolates_uninitialized world call ready alike
  | true =>
    have openedToo : t.sessions.lookup h = some session := by rw [alike.sessions, opened]
    have readyToo : t.initialized = true := alike.initialized.trans ready
    by_cases destroys : ∃ hObject, call = .destroyObject hObject ∧ session.isRw = true ∧
        s.objects.Foreign session.slotId hObject
    · rcases destroys with ⟨hObject, rfl, writable, foreign⟩
      have foreignToo := (alike.objects hObject).foreign_iff.mp foreign
      have ran := exec_destroyObject_foreign world opened writable foreign
      have ranToo := exec_destroyObject_foreign world openedToo writable foreignToo
      rw [alike.initialized] at ranToo
      refine isolates_of_unchanged alike ?_ (congrArg Prod.snd ran) (congrArg Prod.snd ranToo)
      rw [Call.reply, Call.reply, ran, ranToo]
    · have own (hObject : ObjectHandle) (same : call = .destroyObject hObject)
          (writable : session.isRw = true) : ¬s.objects.Foreign session.slotId hObject :=
        fun foreign => destroys ⟨hObject, same, writable, foreign⟩
      have ownToo (hObject : ObjectHandle) (same : call = .destroyObject hObject)
          (writable : session.isRw = true) : ¬t.objects.Foreign session.slotId hObject :=
        (alike.objects hObject).foreign_iff.not.mp (own hObject same writable)
      rcases alike_of_apart world opened alike (uses.apart ready away own)
        ((alike.usesOwn uses).apart readyToo awayToo ownToo) with ⟨reply, after, mine, yours⟩
      exact ⟨reply, after, away.unchanged opened mine, awayToo.unchanged openedToo yours⟩

theorem outOfTheWay_of_unchanged (world : World) (opened : s.sessions.lookup h = some session)
    (same : s.objects.SameForeign session.slotId (step world s (.inSession h call)).objects) :
    s.OutOfTheWay world h session call where
  taken succeeds handle member := by
    rcases takes_cases world opened member with ⟨failed, -⟩ | ⟨-, -, filed, -⟩
    · exact absurd succeeds failed
    · rcases filed handle member with ⟨object, stored, own, -⟩
      rw [← same.foreign_iff handle]
      rintro ⟨other, there, foreign⟩
      rw [stored] at there
      cases there
      exact foreign ((storedCopy_slotId h object).trans own)
  created ready closing handle object stored foreign made := by
    subst closing
    have kept := (same handle object foreign).mpr stored
    rw [objects_closeSession world ready opened, ObjectStore.get_retain,
      Option.filter_eq_some_iff] at kept
    simp [made] at kept

/-- A call that uses no object of another slot keeps to the objects of its slot exactly when those of
other slots are out of its way. -/
theorem isolates_iff (world : World) (call : SessionCall)
    (opened : s.sessions.lookup h = some session) (alike : s.Alike session.slotId t)
    (uses : s.UsesOwn session call) :
    Isolates world h session call s t ↔
      s.OutOfTheWay world h session call ∧ t.OutOfTheWay world h session call := by
  have openedToo : t.sessions.lookup h = some session := by rw [alike.sessions, opened]
  constructor
  · intro isolates
    exact ⟨outOfTheWay_of_unchanged world opened isolates.unchanged,
      outOfTheWay_of_unchanged world openedToo isolates.unchangedToo⟩
  · rintro ⟨away, awayToo⟩
    exact isolates_of_outOfTheWay world call opened alike uses away awayToo

end OutOfTheWay

end Apart

def onTwoSlots : State :=
  Run.run (step plainWorld) (State.loaded none)
    [.initializeLibrary none, .registerEngine plainEngine, .openSession 0 6 true,
      .inSession 1 (.createObject (.entries [⟨ckaClass, .bytes (ulongBytes ckoData)⟩,
        ⟨ckaValue, .bytes [1, 2, 3]⟩]) true),
      .openSession 1 6 true]

theorem onTwoSlots_session : ∃ session, onTwoSlots.sessions.lookup 2 = some session ∧
    session.slotId = 1 ∧ session.isRw = true := by
  have found := (Option.any_eq_true _ _).mp (by decide +kernel :
    (onTwoSlots.sessions.lookup 2).any (fun session => session.slotId = 1 && session.isRw) = true)
  rcases found with ⟨session, here, fits⟩
  exact ⟨session, here, by simpa using fits⟩

theorem onTwoSlots_object : ∃ object, onTwoSlots.objects.get 2 = some object ∧ object.slotId = 0 ∧
    object.attributes.lookup ckaValue = some [1, 2, 3] := by
  have found := (Option.any_eq_true _ _).mp (by decide +kernel :
    (onTwoSlots.objects.get 2).any (fun object => object.slotId = 0 &&
      object.attributes.lookup ckaValue = some [1, 2, 3]) = true)
  rcases found with ⟨object, here, fits⟩
  exact ⟨object, here, by simpa using fits⟩

/-- The second slot's session does not read the first slot's object, whatever is in it. -/
theorem foreign_value_not_read : ∃ session object, onTwoSlots.sessions.lookup 2 = some session ∧
    onTwoSlots.objects.get 2 = some object ∧
    Isolates plainWorld 2 session (.getAttributeValue 2 (some [⟨ckaValue, some 3⟩])) onTwoSlots
      { onTwoSlots with objects := onTwoSlots.objects.insert { object with keyRef := [7] } } := by
  rcases onTwoSlots_session with ⟨session, opened, slot, _⟩
  rcases onTwoSlots_object with ⟨object, found, home, _⟩
  have handle : object.handle = 2 := onTwoSlots.objects.handle_of_get found
  have foreign : object.slotId ≠ session.slotId := by
    rw [home, slot]
    decide
  have away (s : State) : s.OutOfTheWay plainWorld 2 session
      (.getAttributeValue 2 (some [⟨ckaValue, some 3⟩])) := by
    refine ⟨fun _ handle taken => ?_, fun _ closes => ?_⟩
    · cases taken
    · cases closes
  refine ⟨session, object, opened, found,
    (isolates_iff plainWorld _ opened ?_ ?_).mpr ⟨away _, away _⟩⟩
  · refine State.alike_iff.mpr ⟨_, _, rfl, fun other => ?_⟩
    rcases eq_or_ne other 2 with rfl | differ
    · refine .inr ⟨⟨object, found, foreign⟩, ⟨{ object with keyRef := [7] }, ?_, foreign⟩⟩
      rw [ObjectStore.get_insert, if_pos handle.symm]
    · refine .inl ?_
      rw [ObjectStore.get_insert, if_neg (by rwa [handle])]
  · exact fun _ _ used => absurd used (by simp [usesUnchecked, unchecked])

/-- C_SetAttributeValue in the second slot's session changes the first slot's object. -/
theorem foreign_value_changed : ∃ session, onTwoSlots.sessions.lookup 2 = some session ∧
    ¬Isolates plainWorld 2 session (.setAttributeValue 2 (.entries [⟨ckaValue, .bytes [9]⟩]))
      onTwoSlots onTwoSlots := by
  rcases onTwoSlots_session with ⟨session, opened, slot, _⟩
  rcases onTwoSlots_object with ⟨object, found, home, before⟩
  refine ⟨session, opened, fun isolates => ?_⟩
  have kept := (isolates.unchanged 2 object (by rw [home, slot]; decide)).mpr found
  have after : ((step plainWorld onTwoSlots (.inSession 2 (.setAttributeValue 2
      (.entries [⟨ckaValue, .bytes [9]⟩])))).objects.get 2).any
        (fun object => object.attributes.lookup ckaValue = some [9]) = true := by
    decide +kernel
  rw [kept, Option.any_some, before] at after
  exact absurd after (by decide)

end ScoreCrypto.Cryptoki
