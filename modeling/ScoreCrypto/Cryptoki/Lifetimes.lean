import ScoreCrypto.Cryptoki.Origins

/-!
How long objects live. A session object is tagged with the session that creates it, and goes with
that session; the tag is set when the object is filed, and C_SetAttributeValue can change what is
tagged. Which session created an object is followed along the run by the replies that the callers
get, and compared with the tags.
-/

namespace ScoreCrypto.Cryptoki

open Fallible SessionCall

/-! ### Who created an object -/

def SessionCall.creates : SessionCall → Bool
  | .generateKeyPair _ _ _ _ | .generateKey _ _ _ | .createObject _ _ | .copyObject _ _ _
  | .unwrapKey _ _ _ _ _ | .deriveKey _ _ _ _ => true
  | _ => false

def Call.created (world : World) (s : State) : Call → List ObjectHandle
  | .inSession h call =>
    if call.creates = true then ((Call.inSession h call).reply world s).handles else []
  | _ => []

def Call.session : Call → Option SessionHandle
  | .inSession h _ => some h
  | _ => none

/-- The library, and for each object handle the session of the call that last gave it to its caller
for a new object. -/
structure Recorded where
  state : State
  creators : ObjectHandle → Option SessionHandle

def Recorded.loaded (disk : Option StoredState) : Recorded := ⟨.loaded disk, fun _ => none⟩

def Recorded.next (world : World) (r : Recorded) (call : Call) : Recorded where
  state := step world r.state call
  creators handle :=
    if handle ∈ call.created world r.state then call.session else r.creators handle

/-! ### The tags -/

def KeyObject.TaggedAmong (object : KeyObject) (creator : Option SessionHandle)
    (sessions : Finmap fun _ : SessionHandle => Session) : Prop :=
  if object.isTokenObject = true then object.creatingSession = none
  else ∃ c session, creator = some c ∧ object.creatingSession = some c ∧
    sessions.lookup c = some session ∧ session.slotId = object.slotId

/-- Session objects are tagged with their creators, which are open, and token objects are not
tagged. -/
def Recorded.Tagged (r : Recorded) : Prop :=
  ∀ handle object, r.state.objects.get handle = some object →
    object.TaggedAmong (r.creators handle) r.state.sessions

section Tagged

variable {r : Recorded} (tagged : r.Tagged) {handle : ObjectHandle} {object : KeyObject}
  (stored : r.state.objects.get handle = some object)

include tagged stored

theorem Recorded.Tagged.session (lives : object.isTokenObject = false) :
    ∃ c session, r.creators handle = some c ∧ object.creatingSession = some c ∧
      r.state.sessions.lookup c = some session ∧ session.slotId = object.slotId := by
  simpa [KeyObject.TaggedAmong, lives] using tagged handle object stored

theorem Recorded.Tagged.token (token : object.isTokenObject = true) :
    object.creatingSession = none := by
  simpa [KeyObject.TaggedAmong, token] using tagged handle object stored

end Tagged

/-! ### The condition on the calls -/

/-- What is written of the template leaves the object a token object or a session object. -/
def KeyObject.KeepsToken (object : KeyObject) (template : List TemplateEntry) : Prop :=
  ∀ written, object.attributes.Writes template written →
    (object.overlaid written).isTokenObject = object.isTokenObject

/-- The call leaves the tags in step, if it gets as far as a change. -/
def Call.KeepsTags (world : World) (s : State) : Call → Prop
  | .openSession slotId flags given =>
    ((Call.openSession slotId flags given).reply world s).rv = .ok →
      s.sessions.lookup s.nextSession = none
  | .initializeLibrary args => ((Call.initializeLibrary args).reply world s).rv = .ok →
      ∀ stored, s.disk = some stored →
        ∀ object ∈ restoredObjects (startedSlots world s) stored.objects, object.isTokenObject = true
  | .inSession h (.setAttributeValue hObject template) => s.initialized = true →
      ∀ session object, s.sessions.lookup h = some session → session.isRw = true →
        s.objects.get hObject = some object → object.KeepsToken template.list
  | _ => True

theorem writeAttributes_isTokenObject {object : KeyObject} {template : List TemplateEntry}
    (keeps : object.KeepsToken template) :
    (writeAttributes object template).2.isTokenObject = object.isTokenObject := by
  rcases writeAttributes_writes object template with ⟨written, writes, wrote, -⟩
  rw [wrote, keeps written writes]

theorem writeAttributes_creatingSession (object : KeyObject) (template : List TemplateEntry) :
    (writeAttributes object template).2.creatingSession = object.creatingSession :=
  writeAttributes_field KeyObject.creatingSession
    (fun _ _ _ => updateDerivedAttributes_creatingSession _ _) _ _

/-! ### Keeping the tags -/

section Steps

variable {world : World} {s : State} {r : Recorded} {object : KeyObject} {handle : ObjectHandle}
  {session : Session}

theorem taggedAmong_storedCopy {h : SessionHandle}
    {sessions : Finmap fun _ : SessionHandle => Session} (untagged : object.creatingSession = none)
    (opened : sessions.lookup h = some session) (slot : session.slotId = object.slotId) :
    (storedCopy h object).TaggedAmong (some h) sessions := by
  rw [storedCopy]
  split
  · next token => simpa [KeyObject.TaggedAmong, token] using untagged
  · next other =>
      have same : KeyObject.isTokenObject { object with creatingSession := some h } =
          object.isTokenObject := rfl
      rw [KeyObject.TaggedAmong, same, if_neg other]
      exact ⟨h, session, rfl, rfl, opened, slot⟩

theorem isTokenObject_baselineProfile (number : ObjectHandle) (slotId : SlotId) :
    (baselineProfile number slotId).isTokenObject = true := rfl

variable {result : Except Rv Reply}

theorem Turn.creator_stays {call : Call} {s' : State}
    (turn : Turn world s call result s') (replied : call.reply world s = Reply.ofResult result)
    (keeps : call.KeepsTags world s) (stored : s'.objects.get handle = some object)
    (lives : object.isTokenObject = false) {c : SessionHandle}
    (made : object.creatingSession = some c) (opened : s.sessions.lookup c = some session)
    (slot : session.slotId = object.slotId) :
    ∃ later, s'.sessions.lookup c = some later ∧ later.slotId = session.slotId := by
  by_cases ends : call.ends s c session
  · cases call with
    | inSession h call =>
      cases call with
      | closeSession =>
        cases (ends : h = c)
        rcases turn.of_closeSession with ⟨choices, rfl⟩ | ⟨current, here, rfl⟩
        · exact ⟨session, opened, rfl⟩
        · simp [Option.filter_eq_some_iff, made] at stored
      | _ => cases ends
    | closeAllSessions slotId =>
      rcases turn.of_closeAllSessions with ⟨choices, rfl⟩ | rfl
      · exact ⟨session, opened, rfl⟩
      · have here : object.slotId = slotId := slot.symm.trans ends
        simp [Option.filter_eq_some_iff, here, KeyObject.isSessionObject, lives] at stored
    | finalize reserved =>
      cases turn with
      | refused choices fails => exact ⟨session, opened, rfl⟩
      | finalized ready => cases stored
    | openSession slotId flags given =>
      cases turn with
      | refused choices fails => exact ⟨session, opened, rfl⟩
      | opened choices ready valid writable =>
        have free : s.sessions.lookup s.nextSession = none := keeps (by rw [replied]; rfl)
        have same : s.nextSession = c := ends
        rw [same, opened] at free
        cases free
    | initializeLibrary | registerEngine | initToken => cases ends
  · exact turn.session_stays opened ends

theorem taggedAmong_kept {call : Call} {s' : State}
    (turn : Turn world s call result s') (replied : call.reply world s = Reply.ofResult result)
    (keeps : call.KeepsTags world s) (stored : s'.objects.get handle = some object)
    {creator : Option SessionHandle} (tagged : object.TaggedAmong creator s.sessions) :
    object.TaggedAmong creator s'.sessions := by
  cases token : object.isTokenObject with
  | true => simpa [KeyObject.TaggedAmong, token] using tagged
  | false =>
    simp only [KeyObject.TaggedAmong, token, Bool.false_eq_true, if_false] at tagged ⊢
    rcases tagged with ⟨c, session, creates, made, opened, slot⟩
    rcases turn.creator_stays replied keeps stored token made opened slot with ⟨later, still, same⟩
    exact ⟨c, later, creates, made, still, same.trans slot⟩

theorem Turn.of_initializeLibrary {args : Option InitializeArgs}
    {s' : State} (turn : Turn world s (.initializeLibrary args) result s') :
    (∃ choices, s' = { s with choices := choices }) ∨ result = .ok (.ok .none) := by
  cases turn with
  | refused choices fails => exact .inl ⟨choices, rfl⟩
  | started idle => exact .inr rfl

theorem creates_of_takes {call : SessionCall} {next : ObjectHandle} (member : handle ∈ call.takes next) :
    call.creates = true := by
  cases call <;> first | rfl | cases member

theorem get_of_not_created {h : SessionHandle} {call : SessionCall}
    (opened : s.sessions.lookup h = some session)
    (others : handle ∉ (Call.inSession h call).created world s)
    (taken : handle ∈ call.takes s.nextHandle) :
    (step world s (.inSession h call)).objects.get handle = s.objects.get handle := by
  rcases takes_cases world opened taken with ⟨-, -, kept⟩ | ⟨-, named, -, -⟩
  · rw [kept]
  · rw [Call.created, if_pos (creates_of_takes taken), named] at others
    exact absurd taken others

theorem tagged_created {call : Call} (created : handle ∈ call.created world s)
    (stored : (step world s call).objects.get handle = some object) :
    object.TaggedAmong call.session (step world s call).sessions := by
  have turn := turn_exec world s call
  cases call with
  | inSession h call =>
    rw [Call.created] at created
    split at created
    case isFalse => cases created
    case isTrue creates =>
      cases opened : s.sessions.lookup h with
      | none =>
        rcases (exec_closed world call opened).1 with ⟨rv, -, refused⟩
        rw [Call.reply, refused] at created
        cases created
      | some session =>
        have member : s.nextHandle ∈ call.takes s.nextHandle := by
          cases call <;> first | exact List.mem_cons_self | cases creates
        rcases takes_cases world opened member with ⟨-, none, -⟩ | ⟨-, named, filed, -⟩
        · rw [none] at created
          cases created
        · rcases filed handle (named ▸ created) with ⟨new, here, slot, untagged⟩
          rw [stored] at here
          cases here
          have stays : ¬(Call.inSession h call).ends s h session := by
            cases call <;> first | exact id | cases creates
          rcases turn.session_stays opened stays with ⟨later, still, same⟩
          exact taggedAmong_storedCopy untagged still (same.trans slot.symm)
  | _ => cases created

theorem tagged_step (world : World) (call : Call) (tagged : r.Tagged)
    (keeps : call.KeepsTags world r.state) : (r.next world call).Tagged := by
  intro handle object stored
  change (step world r.state call).objects.get handle = some object at stored
  have turn := turn_exec world r.state call
  simp only [Recorded.next]
  split
  case isTrue created => exact tagged_created created stored
  case isFalse others =>
    -- what is not new is there with its creator
    have kept (before : object.TaggedAmong (r.creators handle) r.state.sessions) :
        object.TaggedAmong (r.creators handle) (step world r.state call).sessions :=
      taggedAmong_kept turn rfl keeps stored before
    have untagged (token : object.isTokenObject = true) (none : object.creatingSession = none) :
        object.TaggedAmong (r.creators handle) (step world r.state call).sessions := by
      rwa [KeyObject.TaggedAmong, if_pos token]
    have filed {h : SessionHandle} {session : Session} {sessionCall : SessionCall}
        (same : call = .inSession h sessionCall) (opened : r.state.sessions.lookup h = some session)
        (taken : handle ∈ sessionCall.takes r.state.nextHandle) :
        object.TaggedAmong (r.creators handle) (step world r.state call).sessions := by
      subst same
      rw [get_of_not_created opened others taken] at stored
      exact kept (tagged handle object stored)
    have here : handle = object.handle := ((step world r.state call).objects.handle_of_get stored).symm
    cases turn.origin stored with
    | kept earlier =>
      rw [← here] at earlier
      exact kept (tagged handle object earlier)
    | created opened born =>
      refine filed rfl opened ?_
      rw [born.takes_eq, here, storedCopy_handle, born.handle_eq]
      exact List.mem_singleton_self _
    | pairPublic opened born =>
      refine filed rfl opened ?_
      rw [born.takes_eq, here, storedCopy_handle, born.handle_eq.1]
      exact List.mem_cons_self
    | pairPrivate opened born =>
      refine filed rfl opened ?_
      rw [born.takes_eq, here, storedCopy_handle, born.handle_eq.2]
      exact List.mem_cons_of_mem _ (List.mem_singleton_self _)
    | @changed h session hObject template before opened writable found =>
      rw [writeAttributes_handle, r.state.objects.handle_of_get found] at here
      subst here
      cases ready : r.state.initialized with
      | false =>
        rw [(exec_uninitialized world _ ready).2] at stored
        exact kept (tagged handle _ stored)
      | true =>
        have same := tagged handle before found
        refine kept ?_
        rwa [KeyObject.TaggedAmong, writeAttributes_creatingSession, writeAttributes_slotId,
          writeAttributes_isTokenObject (keeps ready session before opened writable found)]
    | profile number slotId => exact untagged (isTokenObject_baselineProfile number slotId) rfl
    | @loaded args file object disk restored =>
      rcases turn.of_initializeLibrary with ⟨choices, refused⟩ | starts
      · rw [refused] at stored
        exact kept (tagged handle object stored)
      · have token := keeps (by rw [Call.reply, starts]; rfl) file disk object restored
        rcases mem_restoredObjects_attributes restored with ⟨entry, member, keyRef, rfl⟩
        exact untagged token rfl

theorem tagged_loaded (disk : Option StoredState) : (Recorded.loaded disk).Tagged := by
  intro handle object stored
  cases stored

end Steps

/-! ### Lifetimes -/

def Call.closes : Call → Bool
  | .inSession _ .closeSession | .closeAllSessions _ => true
  | _ => false

def Call.logsOut : Call → Bool
  | .inSession _ .logout => true
  | _ => false

def Closed (before after : State) (c : SessionHandle) : Prop :=
  before.sessions.lookup c ≠ none ∧ after.sessions.lookup c = none

/-- The lifetimes of the objects follow CKA_TOKEN: the creators of session objects are open, and of
the calls that close sessions each removes the session objects that the closed ones created and no
others; no token object goes with a session or a login. -/
structure Recorded.LifetimesFollow (world : World) (r : Recorded) : Prop where
  creator : ∀ handle object, r.state.objects.get handle = some object →
    object.isSessionObject = true →
      ∃ c, r.creators handle = some c ∧ r.state.sessions.lookup c ≠ none
  removed : ∀ call, call.closes = true → ∀ handle object,
    (step world r.state call).objects.get handle = some object ↔
      r.state.objects.get handle = some object ∧ ¬(object.isSessionObject = true ∧
        ∃ c, r.creators handle = some c ∧ Closed r.state (step world r.state call) c)
  spared : ∀ call, call.closes = true ∨ call.logsOut = true → ∀ handle object,
    r.state.objects.get handle = some object → object.isTokenObject = true →
      (step world r.state call).objects.get handle = some object

section Lifetimes

variable {world : World} {r : Recorded}

theorem removed_iff_of_same {after : State} (objects : after.objects = r.state.objects)
    (sessions : after.sessions = r.state.sessions) (handle : ObjectHandle) (object : KeyObject) :
    after.objects.get handle = some object ↔ r.state.objects.get handle = some object ∧
      ¬(object.isSessionObject = true ∧
        ∃ c, r.creators handle = some c ∧ Closed r.state after c) := by
  have none (c : SessionHandle) : ¬Closed r.state after c := by
    rw [Closed, sessions]
    exact fun closed => closed.1 closed.2
  simp [objects, none]

theorem removed_iff_closeSession (tagged : r.Tagged) (h : SessionHandle) (handle : ObjectHandle)
    (object : KeyObject) :
    (step world r.state (.inSession h .closeSession)).objects.get handle = some object ↔
      r.state.objects.get handle = some object ∧ ¬(object.isSessionObject = true ∧
        ∃ c, r.creators handle = some c ∧
          Closed r.state (step world r.state (.inSession h .closeSession)) c) := by
  rcases (turn_exec world r.state (.inSession h .closeSession)).of_closeSession with
    ⟨choices, after⟩ | ⟨session, opened, after⟩
  · rw [after]
    exact removed_iff_of_same rfl rfl handle object
  · have closed (c : SessionHandle) :
        Closed r.state (step world r.state (.inSession h .closeSession)) c ↔ c = h := by
      rw [Closed, after]
      rcases eq_or_ne c h with rfl | differ
      · simp [opened]
      · simp [differ, Finmap.lookup_erase_ne]
    simp only [closed, exists_eq_right]
    rw [after, ObjectStore.get_retain, Option.filter_eq_some_iff]
    refine and_congr_right fun stored => ?_
    -- the call goes by the tag, which a token object does not have
    cases token : object.isTokenObject with
    | true => simp [KeyObject.isSessionObject, token, tagged.token stored token]
    | false =>
      rcases tagged.session stored token with ⟨c, _, creator, made, -⟩
      simp [KeyObject.isSessionObject, token, creator, made]

theorem removed_iff_closeAllSessions (tagged : r.Tagged) (slotId : SlotId) (handle : ObjectHandle)
    (object : KeyObject) :
    (step world r.state (.closeAllSessions slotId)).objects.get handle = some object ↔
      r.state.objects.get handle = some object ∧ ¬(object.isSessionObject = true ∧
        ∃ c, r.creators handle = some c ∧
          Closed r.state (step world r.state (.closeAllSessions slotId)) c) := by
  rcases (turn_exec world r.state (.closeAllSessions slotId)).of_closeAllSessions with
    ⟨choices, after⟩ | after
  · rw [after]
    exact removed_iff_of_same rfl rfl handle object
  · have closed {c : SessionHandle} {session : Session}
        (opened : r.state.sessions.lookup c = some session) :
        Closed r.state (step world r.state (.closeAllSessions slotId)) c ↔
          session.slotId = slotId := by
      rw [Closed, after]
      simp [opened]
    rw [after, ObjectStore.get_retain, Option.filter_eq_some_iff, ← after]
    refine and_congr_right fun stored => ?_
    cases token : object.isTokenObject with
    | true => simp [KeyObject.isSessionObject, token]
    | false =>
      rcases tagged.session stored token with ⟨c, session, creator, -, opened, slot⟩
      simp [KeyObject.isSessionObject, token, creator, closed opened, slot]

theorem Recorded.Tagged.lifetimesFollow (tagged : r.Tagged) : r.LifetimesFollow world where
  creator handle object stored lives := by
    have session : object.isTokenObject = false := by simpa [KeyObject.isSessionObject] using lives
    rcases tagged.session stored session with ⟨c, session, creator, -, opened, -⟩
    exact ⟨c, creator, by simp [opened]⟩
  removed call closes handle object := by
    cases call with
    | closeAllSessions slotId => exact removed_iff_closeAllSessions tagged slotId handle object
    | inSession h call =>
      cases call with
      | closeSession => exact removed_iff_closeSession tagged h handle object
      | _ => cases closes
    | _ => cases closes
  spared call ends handle object stored token := by
    have other : object.isSessionObject = false := by simp [KeyObject.isSessionObject, token]
    cases call with
    | closeAllSessions slotId =>
      exact (removed_iff_closeAllSessions tagged slotId handle object).mpr ⟨stored, by simp [other]⟩
    | inSession h call =>
      cases call with
      | closeSession =>
        exact (removed_iff_closeSession tagged h handle object).mpr ⟨stored, by simp [other]⟩
      | logout =>
        rcases (turn_exec world r.state (.inSession h .logout)).of_logout with ⟨choices, after⟩ |
          ⟨session, choices, opened, after⟩
        · rwa [after]
        · simp [after, stored, other]
      | _ => exact absurd ends (by simp [Call.closes, Call.logsOut])
    | _ => exact absurd ends (by simp [Call.closes, Call.logsOut])

end Lifetimes

/-- In every run of calls that keep the tags in step, the lifetimes follow CKA_TOKEN. -/
theorem lifetimesFollow_run (world : World) (disk : Option StoredState) (calls : List Call)
    (keeps : Run.Meets (Recorded.next world) (fun r call => call.KeepsTags world r.state)
      (Recorded.loaded disk) calls) :
    (Run.run (Recorded.next world) (Recorded.loaded disk) calls).LifetimesFollow world :=
  (Run.run_invariant_of_meets Recorded.Tagged
    (fun _ call tagged keeps => tagged_step world call tagged keeps) _ calls (tagged_loaded disk)
    keeps).lifetimesFollow

/-- Two sessions; the second copies the first's object, which is changed before the first is closed. -/
def copyChangeClose : List Call :=
  [.initializeLibrary none, .openSession 0 6 true, .openSession 0 6 true,
    .inSession 1 (.createObject (.entries [⟨ckaClass, .bytes (ulongBytes ckoData)⟩,
      ⟨ckaValue, .bytes [1, 2, 3]⟩]) true),
    .inSession 2 (.copyObject 2 (.entries []) true),
    .inSession 2 (.setAttributeValue 2 (.entries [⟨ckaValue, .bytes [9]⟩])),
    .inSession 1 .closeSession]

theorem lifetimesFollow_copyChangeClose :
    let after := Run.run (Recorded.next plainWorld) (Recorded.loaded none) copyChangeClose
    after.creators 3 = some 2 ∧ after.state.objects.get 2 = none ∧
      (after.state.objects.get 3).isSome ∧ after.LifetimesFollow plainWorld := by
  refine ⟨by decide +kernel, by decide +kernel, by decide +kernel,
    lifetimesFollow_run plainWorld none copyChangeClose
      ⟨?_, ?_, ?_, trivial, trivial, ?_, trivial, trivial⟩⟩
  · intro _ stored found
    cases found
  · intro _
    decide +kernel
  · intro _
    decide +kernel
  · intro _ session object _ _ _ written writes
    rcases writes.stops with ⟨later, split, -⟩
    have others : ∀ entry ∈ written, entry.type ≠ ckaToken := by
      intro entry member
      have there := List.mem_append_left later member
      rw [← split] at there
      cases List.mem_singleton.mp there
      decide
    rw [KeyObject.isTokenObject, KeyObject.boolAttrTrue, KeyObject.overlaid,
      object.attributes.lookup_overlay_of_forall_ne others]
    rfl

def openFlip : List Call :=
  [.initializeLibrary none, .openSession 0 6 true,
    .inSession 1 (.createObject (.entries [⟨ckaClass, .bytes (ulongBytes ckoData)⟩,
      ⟨ckaValue, .bytes [1, 2, 3]⟩]) true),
    .inSession 1 (.setAttributeValue 2 (.entries [⟨ckaToken, .bytes [ckTrue]⟩]))]

/-- The token object is removed with the session that created it as a session object. -/
theorem flipped_object_removed :
    ¬(Run.run (Recorded.next plainWorld) (Recorded.loaded none) openFlip).LifetimesFollow
      plainWorld := by
  intro follow
  have found := (Option.any_eq_true _ _).mp (by decide +kernel :
    ((Run.run (Recorded.next plainWorld) (Recorded.loaded none) openFlip).state.objects.get 2).any
      KeyObject.isTokenObject = true)
  rcases found with ⟨object, stored, token⟩
  have kept := follow.spared (.inSession 1 .closeSession) (.inl rfl) 2 object stored token
  have gone : (step plainWorld
      (Run.run (Recorded.next plainWorld) (Recorded.loaded none) openFlip).state
      (.inSession 1 .closeSession)).objects.get 2 = none := by decide +kernel
  rw [gone] at kept
  cases kept

end ScoreCrypto.Cryptoki
