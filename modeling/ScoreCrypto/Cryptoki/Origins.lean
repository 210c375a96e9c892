import ScoreCrypto.Cryptoki.Turns

/-!
Where the objects and the sessions come from that are there after a call.
-/

namespace ScoreCrypto.Cryptoki

open Fallible SessionCall

/-! ### The parts of the longer calls -/

section Parts

variable (world : World)

theorem profiled_cases (s : State) (slotId : SlotId) :
    (∃ choices, profiled world s slotId = { s with choices := choices }) ∨
      ∃ choices, profiled world s slotId =
        { s with
          objects := s.objects.insert (baselineProfile s.nextHandle slotId)
          nextHandle := s.nextHandle + 1
          choices := choices } := by
  simp only [profiled, ensureBaselineProfile, nextHandle, insertObject, exec_bind, exec_perform, handle]
  by_cases missing : s.profileOn world slotId = none
  · exact .inr ⟨s.choices + 1, by simp [missing, handle]⟩
  · exact .inl ⟨s.choices + 1, by simp [missing]⟩

theorem profiled_sessions (s : State) (slotId : SlotId) :
    (profiled world s slotId).sessions = s.sessions := by
  rcases profiled_cases world s slotId with ⟨_, same⟩ | ⟨_, same⟩ <;> rw [same]

theorem profiled_objects {s : State} {slotId : SlotId} {handle : ObjectHandle} {object : KeyObject}
    (stored : (profiled world s slotId).objects.get handle = some object) :
    s.objects.get handle = some object ∨ ∃ number, object = baselineProfile number slotId := by
  rcases profiled_cases world s slotId with ⟨_, same⟩ | ⟨_, same⟩
  · rw [same] at stored
    exact .inl stored
  · rw [same, ObjectStore.get_insert] at stored
    split at stored
    · cases stored
      exact .inr ⟨_, rfl⟩
    · exact .inl stored

theorem profiledAll_frame (slots : List SlotId) (s : State) :
    ∃ objects nextHandle choices, profiledAll world s slots = { s with objects, nextHandle, choices } ∧
      ∀ handle object, objects.get handle = some object → s.objects.get handle = some object ∨
        ∃ number slotId, slotId ∈ slots ∧ object = baselineProfile number slotId := by
  induction slots generalizing s with
  | nil => exact ⟨s.objects, s.nextHandle, s.choices, rfl, fun _ _ stored => .inl stored⟩
  | cons slotId rest ih =>
    rcases ih (profiled world s slotId) with ⟨objects, nextHandle, choices, same, from_⟩
    have later : profiledAll world s (slotId :: rest) =
        profiledAll world (profiled world s slotId) rest := rfl
    refine ⟨objects, nextHandle, choices, ?_, fun handle object stored => ?_⟩
    · rcases profiled_cases world s slotId with ⟨_, frame⟩ | ⟨_, frame⟩ <;> rw [later, same, frame]
    · rcases from_ handle object stored with earlier | ⟨number, other, member, made⟩
      · rcases profiled_objects world earlier with before | ⟨number, made⟩
        · exact .inl before
        · exact .inr ⟨number, slotId, List.mem_cons_self, made⟩
      · exact .inr ⟨number, other, List.mem_cons_of_mem _ member, made⟩

theorem replaced_frame (stored : List (SlotId × StoredToken)) (s : State) :
    ∃ tokens choices, replaced world s stored = { s with tokens, choices } := by
  induction stored generalizing s with
  | nil => exact ⟨s.tokens, s.choices, rfl⟩
  | cons entry rest ih =>
    rcases ih (handle world (.replaceToken entry.1 (entry.2.applyTo world.argon2)) s).2 with
      ⟨tokens, choices, same⟩
    exact ⟨tokens, choices, same⟩

theorem loadedFrom_none {s : State} (missing : s.disk = none) : loadedFrom world s = s := by
  simp [loadedFrom, loadPersistedObjects, handle, missing]

theorem loadedFrom_some {s : State} {stored : StoredState} (found : s.disk = some stored) :
    ∃ tokens nextHandle choices, loadedFrom world s =
      { s with
        objects := (restoredObjects s.slots stored.objects).foldl ObjectStore.insert s.objects
        nextHandle, tokens, choices } := by
  have answer : (handle world .loadState s).1 = some stored := found
  have kept : (handle world .loadState s).2 = s := rfl
  simp only [loadedFrom, loadPersistedObjects, registry, exec_bind, exec_perform, answer, kept]
  have replaces (entries : List (SlotId × StoredToken)) :
      ∃ tokens nextHandle choices,
        (exec (handle world) (replaceTokens world entries)
          (handle world (.loadObjects (restoredObjects s.slots stored.objects) stored.nextHandle) s).2).2 =
        { s with
          objects := (restoredObjects s.slots stored.objects).foldl ObjectStore.insert s.objects
          nextHandle, tokens, choices } := by
    rw [exec_replaceTokens]
    rcases replaced_frame world entries
      (handle world (.loadObjects (restoredObjects s.slots stored.objects) stored.nextHandle) s).2 with
      ⟨tokens, choices, same⟩
    exact ⟨tokens, _, choices, same⟩
  split
  · exact replaces _
  · exact replaces _

def startedSlots (s : State) : List CryptoProvider :=
  s.slots ++ List.replicate world.openSslEngine.slotCount world.openSslEngine

theorem get_foldl_insert {objects : List KeyObject} {store : ObjectStore} {handle : ObjectHandle}
    {object : KeyObject} (stored : (objects.foldl ObjectStore.insert store).get handle = some object) :
    store.get handle = some object ∨ object ∈ objects := by
  induction objects generalizing store with
  | nil => exact .inl stored
  | cons first rest ih =>
    rcases ih stored with earlier | member
    · rw [ObjectStore.get_insert] at earlier
      split at earlier
      · cases earlier
        exact .inr List.mem_cons_self
      · exact .inl earlier
    · exact .inr (List.mem_cons_of_mem _ member)

theorem loadedFrom_frame (s : State) :
    ∃ objects tokens nextHandle choices,
      loadedFrom world s = { s with objects, nextHandle, tokens, choices } ∧
        ∀ handle object, objects.get handle = some object → s.objects.get handle = some object ∨
          ∃ stored, s.disk = some stored ∧ object ∈ restoredObjects s.slots stored.objects := by
  rcases Option.eq_none_or_eq_some s.disk with missing | ⟨stored, found⟩
  · refine ⟨s.objects, s.tokens, s.nextHandle, s.choices, ?_, fun _ _ stored => .inl stored⟩
    exact loadedFrom_none world missing
  · rcases loadedFrom_some world found with ⟨tokens, nextHandle, choices, same⟩
    refine ⟨_, tokens, nextHandle, choices, same, fun handle object loaded => ?_⟩
    exact (get_foldl_insert loaded).imp_right fun member => ⟨stored, found, member⟩

theorem started_frame (s : State) :
    ∃ objects tokens nextHandle choices,
      started world s =
        { s with
          initialized := true, slots := startedSlots world s, objects, tokens, nextHandle, choices } ∧
        ∀ handle object, objects.get handle = some object → s.objects.get handle = some object ∨
          (∃ stored, s.disk = some stored ∧
            object ∈ restoredObjects (startedSlots world s) stored.objects) ∨
          ∃ number slotId, object = baselineProfile number slotId := by
  have parts : ∃ slots, started world s =
      { profiledAll world (ensured world (loadedFrom world { s with slots := startedSlots world s }) slots)
          slots with initialized := true } := ⟨_, rfl⟩
  rcases parts with ⟨slots, parts⟩
  rcases loadedFrom_frame world { s with slots := startedSlots world s } with
    ⟨objects, tokens, nextHandle, choices, loaded, fromDisk⟩
  rcases ensured_frame world slots (loadedFrom world _) with ⟨tokens', ensures⟩
  rcases profiledAll_frame world slots (ensured world _ slots) with
    ⟨objects', nextHandle', choices', profiles, fromProfiles⟩
  refine ⟨objects', tokens', nextHandle', choices', ?_, fun handle object stored => ?_⟩
  · rw [parts, profiles, ensures, loaded]
  · rcases fromProfiles handle object stored with earlier | ⟨number, slotId, _, made⟩
    · rw [ensures, loaded] at earlier
      rcases fromDisk handle object earlier with before | restored
      · exact .inl before
      · exact .inr (.inl restored)
    · exact .inr (.inr ⟨number, slotId, made⟩)

end Parts

/-! ### Objects -/

theorem mem_restoredObjects_attributes {slots : List CryptoProvider} {stored : List StoredObject}
    {object : KeyObject} (restored : object ∈ restoredObjects slots stored) :
    ∃ entry ∈ stored, ∃ keyRef, object =
      KeyObject.new entry.handle entry.slotId entry.keyType.keyType keyRef entry.attributes := by
  rcases List.mem_filterMap.mp restored with ⟨entry, member, made⟩
  rcases Option.bind_eq_some_iff.mp made with ⟨engine, _, made⟩
  rw [StoredObject.intoKeyObjectWithEngine] at made
  split at made
  · cases made
    exact ⟨entry, member, _, rfl⟩
  · cases made

inductive Origin (world : World) (s : State) : Call → KeyObject → Prop
  | kept {call : Call} {object : KeyObject} (stored : s.objects.get object.handle = some object) :
      Origin world s call object
  | created {h : SessionHandle} {session : Session} {call : SessionCall} {object : KeyObject}
      (opened : s.sessions.lookup h = some session) (born : Birth session (.of h s) call object) :
      Origin world s (.inSession h call) (storedCopy h object)
  | pairPublic {h : SessionHandle} {session : Session} {call : SessionCall} {pub priv : KeyObject}
      (opened : s.sessions.lookup h = some session) (born : PairBirth session (.of h s) call pub priv) :
      Origin world s (.inSession h call) (storedCopy h pub)
  | pairPrivate {h : SessionHandle} {session : Session} {call : SessionCall} {pub priv : KeyObject}
      (opened : s.sessions.lookup h = some session) (born : PairBirth session (.of h s) call pub priv) :
      Origin world s (.inSession h call) (storedCopy h priv)
  | changed {h : SessionHandle} {session : Session} {hObject : ObjectHandle} {template : Template}
      {object : KeyObject} (opened : s.sessions.lookup h = some session)
      (writable : session.isRw = true) (stored : s.objects.get hObject = some object) :
      Origin world s (.inSession h (.setAttributeValue hObject template))
        (writeAttributes object template.list).2
  | profile {call : Call} (number : ObjectHandle) (slotId : SlotId) :
      Origin world s call (baselineProfile number slotId)
  | loaded {args : Option InitializeArgs} {stored : StoredState} {object : KeyObject}
      (disk : s.disk = some stored)
      (restored : object ∈ restoredObjects (startedSlots world s) stored.objects) :
      Origin world s (.initializeLibrary args) object

section Origin

variable {world : World} {s : State} {object : KeyObject} {handle : ObjectHandle} {call : Call}

theorem origin_kept (stored : s.objects.get handle = some object) : Origin world s call object :=
  .kept (by rw [s.objects.handle_of_get stored, stored])

theorem origin_of_effect {h : SessionHandle} {session : Session} {call : SessionCall}
    {stores : Stores} {result : Except Rv Reply} (opened : s.sessions.lookup h = some session)
    (effect : Effect h session (.of h s) call stores result)
    (stored : stores.objects.get handle = some object) :
    Origin world s (.inSession h call) object := by
  have inserted {store : ObjectStore} {new : KeyObject}
      (stored : (store.insert new).get handle = some object) :
      object = new ∨ store.get handle = some object := by
    rw [ObjectStore.get_insert] at stored
    split at stored
    · cases stored
      exact .inl rfl
    · exact .inr stored
  cases effect with
  | kept fails => exact origin_kept stored
  | created born writable filed =>
    rw [filed.objects_eq] at stored
    rcases inserted stored with rfl | earlier
    · exact .created opened born
    · exact origin_kept earlier
  | paired born writable first second =>
    rw [second.objects_eq, first.objects_eq] at stored
    rcases inserted stored with rfl | earlier
    · exact .pairPrivate opened born
    · rcases inserted earlier with rfl | before
      · exact .pairPublic opened born
      · exact origin_kept before
  | refused writable found refused =>
    rcases inserted stored with rfl | earlier
    · exact .changed opened writable found
    · exact origin_kept earlier
  | @written hObject template before after writable found allowed written =>
    have objects : stores.objects = s.objects.insert (writeAttributes before template.list).2 :=
      Stores.objects_of_written written
    rw [objects] at stored
    rcases inserted stored with rfl | earlier
    · exact .changed opened writable found
    · exact origin_kept earlier
  | @destroyed hObject before after found own visible writable written =>
    have objects : stores.objects = s.objects.erase hObject := Stores.objects_of_written written
    rw [objects, ObjectStore.get_erase] at stored
    split at stored
    · cases stored
    · exact origin_kept stored

theorem origin_of_retain {keep : KeyObject → Bool}
    (stored : (s.objects.retain keep).get handle = some object) :
    Origin world s call object := by
  rw [ObjectStore.get_retain, Option.filter_eq_some_iff] at stored
  exact origin_kept stored.1

theorem Turn.origin {result : Except Rv Reply} {s' : State} (turn : Turn world s call result s')
    (stored : s'.objects.get handle = some object) : Origin world s call object := by
  cases turn with
  | refused | pinRefused | opened | registered | tokenRefused => exact origin_kept stored
  | ordinary ready opened ordinary effect behind here within framed =>
    rw [behind.objects] at stored
    exact origin_of_effect opened effect stored
  | pinChanged =>
    rw [(saved_frame world _).2.2.2.2.1] at stored
    exact origin_kept stored
  | loginRefused ready opened asks check | contextRefused ready opened asks check =>
    cases check <;> exact origin_kept stored
  | loggedIn ready opened asks check burnt | contextIdle ready opened asks check
  | contextLoggedIn ready opened asks check =>
    cases check
    exact origin_kept stored
  | loggedOut | closed | closedAll => exact origin_of_retain stored
  | tokenInitialized =>
    rw [(saved_frame world _).2.2.2.2.1] at stored
    rcases profiled_objects world stored with earlier | ⟨number, rfl⟩
    · rw [(saved_frame world _).2.2.2.2.1] at earlier
      exact origin_of_retain earlier
    · exact .profile _ _
  | started idle =>
    rcases started_frame world s with ⟨objects, tokens, nextHandle, choices, same, origins⟩
    rw [same] at stored
    rcases origins handle object stored with earlier | ⟨file, disk, restored⟩ | ⟨number, slotId, rfl⟩
    · exact origin_kept earlier
    · exact .loaded disk restored
    · exact .profile number slotId
  | finalized => cases stored

end Origin

/-! ### Sessions -/

def Call.ends (s : State) (c : SessionHandle) (session : Session) : Call → Prop
  | .inSession h .closeSession => h = c
  | .closeAllSessions slotId => session.slotId = slotId
  | .finalize _ => True
  | .openSession _ _ _ => s.nextSession = c
  | _ => False

section Sessions

variable {world : World} {s : State} {sessions sessions' : Finmap fun _ : SessionHandle => Session}
  {c h : SessionHandle} {session after : Session} {slotId : SlotId}

def Session.bare (session : Session) : Session :=
  { slotId := session.slotId, flags := session.flags, loginState := session.loginState }

def logins (sessions : Finmap fun _ : SessionHandle => Session) (c : SessionHandle) : Option Session :=
  (sessions.lookup c).map Session.bare

def Session.told (slotId : SlotId) (target : LoginState) (session : Session) : Session :=
  if session.slotId = slotId then { session with loginState := target } else session

inductive LoginTurn (world : World) (s : State) (call : Call) (after : SessionHandle → Option Session) :
    Prop
  | ended (earlier : ∀ c session, after c = some session → logins s.sessions c = some session)
      (stays : ∀ c session, logins s.sessions c = some session → ¬call.ends s c session →
        after c = some session)
  | told (slotId : SlotId) (target : LoginState)
      (told : ∀ c, after c = (logins s.sessions c).map (Session.told slotId target))
      (writable : target = .soLoggedIn → ∀ c session, s.sessions.lookup c = some session →
        session.slotId = slotId → session.isRw = true)
  | opened {slotId : SlotId} {flags : Flags} (opens : call = .openSession slotId flags true)
      (added : after = Function.update (logins s.sessions) s.nextSession
        (some { slotId, flags, loginState := s.slotLogin world slotId }))
      (writable : s.slotLogin world slotId = .soLoggedIn → flags &&& ckfRwSession ≠ 0)

theorem logins_insert : logins (sessions.insert h after) =
    Function.update (logins sessions) h (some after.bare) := by
  funext c
  rcases eq_or_ne c h with rfl | differ
  · simp [logins]
  · simp [logins, differ]

theorem logins_burnt (opened : sessions.lookup h = some session)
    (burnt : MayBurn h session sessions sessions') : logins sessions' = logins sessions := by
  rcases burnt with rfl | rfl
  · rfl
  · rw [logins_insert, Function.update_eq_self_iff, logins, opened]
    rfl

theorem logins_onSlot {target : LoginState} {change : Session → Session}
    (same : ∀ session, (change session).bare = { session.bare with loginState := target })
    (c : SessionHandle) : logins (onSlot sessions slotId change) c =
      (logins sessions c).map (Session.told slotId target) := by
  simp only [logins, onSlot, lookup_mapValues, Option.map_map]
  congr 1
  funext session
  simp only [Function.comp_apply, apply_ite Session.bare, same]
  rfl

theorem Turn.loginTurn {call : Call} {result : Except Rv Reply} {s' : State}
    (turn : Turn world s call result s') : LoginTurn world s call (logins s'.sessions) := by
  have kept {sessions : Finmap fun _ : SessionHandle => Session}
      (same : logins sessions = logins s.sessions) : LoginTurn world s call (logins sessions) :=
    same ▸ .ended (fun _ _ here => here) fun _ _ here _ => here
  cases turn with
  | refused | pinRefused | registered | tokenRefused => exact kept rfl
  | @ordinary h session after _ _ _ _ ready opened ordinary effect behind here within framed =>
    refine kept (funext fun c => ?_)
    rcases eq_or_ne c h with rfl | differ
    · simp [logins, here, opened, Session.bare, within.slotId, within.flags, within.loginState]
    · simp [logins, framed.others c differ]
  | pinChanged seed choices ready opened writable pin found changed burnt =>
    exact kept (logins_burnt opened burnt)
  | loginRefused ready opened asks check | contextRefused ready opened asks check
  | contextIdle ready opened asks check => exact kept (by rw [check.sessions])
  | contextLoggedIn ready opened asks check =>
    refine kept ?_
    rw [logins_insert, Function.update_eq_self_iff, logins, opened]
    rfl
  | loggedIn ready opened asks check burnt =>
    cases check with
    | right _ _ _ _ writable _ =>
      refine .told _ _ (fun c => ?_) writable
      rw [logins_onSlot fun _ => rfl, logins_burnt opened burnt]
  | loggedOut => exact .told _ _ (logins_onSlot fun _ => rfl) nofun
  | @closed h =>
    have others {c : SessionHandle} (differ : c ≠ h) :
        logins (s.sessions.erase h) c = logins s.sessions c := by simp [logins, differ]
    refine .ended (fun c session here => ?_) fun c session here stays =>
      (others (Ne.symm stays)).trans here
    rcases eq_or_ne c h with rfl | differ
    · simp [logins] at here
    · exact (others differ).symm.trans here
  | @closedAll slotId =>
    refine .ended (fun c session here => ?_) fun c session here stays => ?_
    all_goals
      simp only [logins, lookup_retain, Option.map_eq_some_iff, Option.filter_eq_some_iff] at here ⊢
    · rcases here with ⟨a, ⟨found, _⟩, same⟩
      exact ⟨a, found, same⟩
    · rcases here with ⟨a, found, rfl⟩
      exact ⟨a, ⟨found, decide_eq_true stays⟩, rfl⟩
  | opened choices ready valid writable => exact .opened rfl logins_insert writable
  | tokenInitialized =>
    refine kept ?_
    rw [(saved_frame world _).2.2.1, profiled_sessions, (saved_frame world _).2.2.1]
  | started =>
    rcases started_frame world s with ⟨_, _, _, _, same, _⟩
    rw [same]
    exact kept rfl
  | finalized =>
    rw [(saved_frame world _).2.2.1]
    refine .ended (fun c session here => ?_) fun _ _ _ stays => absurd trivial stays
    cases here

theorem Turn.session_stays {call : Call} {result : Except Rv Reply} {s' : State}
    (turn : Turn world s call result s') (opened : s.sessions.lookup c = some session)
    (stays : ¬call.ends s c session) :
    ∃ later, s'.sessions.lookup c = some later ∧ later.slotId = session.slotId := by
  have here : logins s.sessions c = some session.bare := by rw [logins, opened, Option.map_some]
  have after : ∃ later, logins s'.sessions c = some later ∧ later.slotId = session.slotId := by
    cases turn.loginTurn with
    | ended earlier kept => exact ⟨_, kept c _ here stays, rfl⟩
    | told slotId target told =>
      refine ⟨session.bare.told slotId target, by rw [told, here, Option.map_some], ?_⟩
      rw [Session.told]
      split <;> rfl
    | opened opens added =>
      subst opens
      exact ⟨session.bare, by rw [added, Function.update_of_ne (Ne.symm stays), here], rfl⟩
  rcases after with ⟨_, found, same⟩
  rcases Option.map_eq_some_iff.mp found with ⟨later, there, rfl⟩
  exact ⟨later, there, same⟩

end Sessions

end ScoreCrypto.Cryptoki
