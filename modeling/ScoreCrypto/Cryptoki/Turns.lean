import ScoreCrypto.Cryptoki.Effects
import ScoreCrypto.Cryptoki.Restart

/-!
What each call makes of the state, with the calls for logins, tokens and the library's life spelled
out.
-/

namespace ScoreCrypto.Cryptoki

open Fallible SessionCall

/-! ### Parts of the longer calls -/

section Parts

variable (world : World)

def profiled (s : State) (slotId : SlotId) : State :=
  (exec (handle world) (ensureBaselineProfile slotId) s).2

def profiledAll (s : State) (slots : List SlotId) : State := slots.foldl (profiled world) s

def loadedFrom (s : State) : State := (exec (handle world) (loadPersistedObjects world) s).2

def started (s : State) : State :=
  let slots := s.slots ++ List.replicate world.openSslEngine.slotCount world.openSslEngine
  let assigned := (slotIds slots).drop s.slots.length
  let loaded := loadedFrom world { s with slots := slots }
  { profiledAll world (ensured world loaded assigned) assigned with initialized := true }

theorem exec_persistIfNeeded (s : State) :
    exec (handle world) (persistIfNeeded : Api Unit) s = (.ok (), saved world s) := by
  rw [saved]
  simp only [persistIfNeeded, registry, saveState, exec_bind, exec_perform, exec_storedTokens]

theorem exec_ensureBaselineProfile (slotId : SlotId) (s : State) :
    exec (handle world) (ensureBaselineProfile slotId) s = (.ok (), profiled world s slotId) := by
  rw [profiled]
  simp only [ensureBaselineProfile, nextHandle, insertObject, exec_bind, exec_perform]
  split <;> rfl

theorem exec_ensureBaselineProfiles (slots : List SlotId) (s : State) :
    exec (handle world) (ensureBaselineProfiles slots) s = (.ok (), profiledAll world s slots) := by
  induction slots generalizing s with
  | nil => rfl
  | cons slotId rest ih =>
    rw [ensureBaselineProfiles, exec_bind, exec_ensureBaselineProfile]
    exact ih _

theorem exec_ensureTokens (slots : List SlotId) (s : State) :
    exec (handle world) (ensureTokens slots) s = (.ok (), ensured world s slots) := by
  induction slots generalizing s with
  | nil => rfl
  | cons slotId rest ih =>
    rw [ensureTokens, exec_bind, withToken, exec_perform]
    exact ih _

theorem exec_loadPersistedObjects (s : State) :
    exec (handle world) (loadPersistedObjects world) s = (.ok (), loadedFrom world s) := by
  rw [loadedFrom]
  simp only [loadPersistedObjects, exec_bind, exec_perform]
  split
  · rfl
  · simp only [registry, exec_bind, exec_perform]
    split <;> rw [exec_replaceTokens]

end Parts

/-! ### Logins -/

def State.Finds (s : State) (world : World) (slotId : SlotId) (token : Token) : Prop :=
  ∃ choice, token = (s.tokens.lookup slotId).getD (Token.newDefault world.argon2 choice)

def State.slotLogin (s : State) (world : World) (slotId : SlotId) : LoginState :=
  State.loginStateOf (s.sessionsOn world slotId)

section Logins

variable (world : World) (s : State) (slotId : SlotId)

variable {world s} in
theorem asks_exactly {E : Type} {act : Action} {post : State → Except E act.Res → Prop} :
    Asks (.exactly (handle world)) s act post ↔
      post (handle world act s).2 (.ok (handle world act s).1) := by
  simp [Asks]

inductive LoginCheck (userType : UserType) (pin : Bytes) : Except Rv LoginState → State → Prop
  | refused {rv : Rv} (choices : Nat) (fails : rv ≠ .ok) :
      LoginCheck userType pin (.error rv) { s with choices := choices }
  | noPin {token : Token} (choices : Nat) (found : s.Finds world slotId token) :
      LoginCheck userType pin (.error .userPinNotInitialized)
        { s with tokens := s.tokens.insert slotId token, choices := choices }
  | wrong {token : Token} {error : Pkcs11Error} (choices : Nat) (found : s.Finds world slotId token)
      (wrong : (Token.verifyPin world.argon2 userType pin token).1 = .error error) :
      LoginCheck userType pin (.error error.toCkr)
        { s with
          tokens := s.tokens.insert slotId (Token.verifyPin world.argon2 userType pin token).2
          choices := choices }
  | right {token : Token} {target : LoginState} (choices : Nat) (found : s.Finds world slotId token)
      (asked : loginTarget userType = some target)
      (before : s.slotLogin world slotId = .notLoggedIn)
      (writable : target = .soLoggedIn →
        ∀ h session, s.sessions.lookup h = some session → session.slotId = slotId →
          session.isRw = true)
      (right : (Token.verifyPin world.argon2 userType pin token).1 = .ok ()) :
      LoginCheck userType pin (.ok target)
        { s with
          tokens := s.tokens.insert slotId (Token.verifyPin world.argon2 userType pin token).2
          choices := choices }

theorem mem_sessionsOn {session : Session} :
    session ∈ s.sessionsOn world slotId ↔
      ∃ h, s.sessions.lookup h = some session ∧ session.slotId = slotId := by
  simp only [State.sessionsOn, List.mem_filter, List.mem_filterMap, decide_eq_true_eq]
  constructor
  · rintro ⟨⟨h, _, found⟩, here⟩
    exact ⟨h, found, here⟩
  · rintro ⟨h, found, here⟩
    refine ⟨⟨h, (world.mem_order _ _ _).mpr ?_, found⟩, here⟩
    exact Finmap.mem_keys.mpr (Finmap.mem_of_lookup_eq_some found)

theorem loginTarget_eq_some {userType : UserType} {target : LoginState} :
    loginTarget userType = some target ↔
      (userType = ckuUser ∧ target = .userLoggedIn) ∨ (userType = ckuSo ∧ target = .soLoggedIn) := by
  rw [loginTarget]
  split_ifs with user so
  · subst user
    simp [eq_comm, ckuUser, ckuSo]
  · subst so
    simp [eq_comm, ckuUser, ckuSo]
  · simp [user, so]

theorem conforms_checkLogin (userType : UserType) (pin : Bytes) :
    Conforms (.exactly (handle world)) (fun s' result => LoginCheck world s slotId userType pin result s')
      s (checkLogin world slotId userType pin) := by
  have again (token after : Token) :
      (s.tokens.insert slotId token).insert slotId after = s.tokens.insert slotId after :=
    Finmap.insert_insert _
  simp only [checkLogin, loginStateForSlot, conforms_bind, conforms_require, conforms_sessionsOnSlot,
    conforms_pure, conforms_ensure, asks_exactly]
  refine ⟨fun _ => .refused s.choices (by decide), fun target asked => ⟨fun _ => ?_, fun _ => ?_⟩⟩
  · refine ⟨fun before => ?_, fun _ => .refused (s.choices + 1) (by decide)⟩
    rcases loginTarget_eq_some.mp asked with ⟨rfl, rfl⟩ | ⟨rfl, rfl⟩
    · simp only [show ckuUser ≠ ckuSo by decide, conforms_bind, conforms_withToken, asks_exactly,
      conforms_withTokenMut, conforms_ensure, conforms_adapt, conforms_pure, exactly_may,
      exactly_gives, exactly_next, handle, State.tokenOf, Finmap.lookup_insert, Option.getD_some,
      again, if_true, if_false, true_and]
      refine ⟨fun _ => ⟨fun _ right => ?_, fun error wrong => ?_⟩, fun _ => ?_⟩
      · exact .right _ ⟨_, rfl⟩ asked before (by simp) right
      · exact .wrong _ ⟨_, rfl⟩ wrong
      · exact .noPin _ ⟨_, rfl⟩
    · simp only [show ckuSo ≠ ckuUser by decide, conforms_bind, conforms_sessionsOnSlot, asks_exactly,
        conforms_withTokenMut, conforms_ensure, conforms_adapt, conforms_pure, exactly_may,
        exactly_gives, exactly_next, handle, State.tokenOf, if_true, if_false, true_and]
      refine ⟨fun writable => ⟨fun _ right => ?_, fun error wrong => ?_⟩, fun _ => ?_⟩
      · refine .right _ ⟨_, rfl⟩ asked before (fun _ h session found here => ?_) right
        exact writable session ((mem_sessionsOn world _ slotId).mpr ⟨h, found, here⟩)
      · exact .wrong _ ⟨_, rfl⟩ wrong
      · exact .refused _ (by decide)
  · exact .refused (s.choices + 1) (by decide)

inductive ContextCheck (pin : Bytes) : Except Rv Unit → State → Prop
  | refused {rv : Rv} (choices : Nat) (fails : rv ≠ .ok) :
      ContextCheck pin (.error rv) { s with choices := choices }
  | wrong {token : Token} (choices : Nat) (found : s.Finds world slotId token)
      (before : s.slotLogin world slotId = .userLoggedIn)
      (wrong : Token.pinMatches world.argon2 token.userPin pin = false) :
      ContextCheck pin (.error Pkcs11Error.pinIncorrect.toCkr)
        { s with tokens := s.tokens.insert slotId token, choices := choices }
  | right {token : Token} (choices : Nat) (found : s.Finds world slotId token)
      (before : s.slotLogin world slotId = .userLoggedIn)
      (right : Token.pinMatches world.argon2 token.userPin pin = true) :
      ContextCheck pin (.ok ())
        { s with tokens := s.tokens.insert slotId token, choices := choices }

theorem conforms_checkContextLogin (pin : Bytes) :
    Conforms (.exactly (handle world)) (fun s' result => ContextCheck world s slotId pin result s') s
      (checkContextLogin world slotId pin) := by
  simp only [checkContextLogin, loginStateForSlot, conforms_bind, conforms_sessionsOnSlot,
    conforms_pure, conforms_ensure, conforms_withToken, conforms_adapt, conforms_attempt, asks_exactly,
    Token.verifyUserPinNoLockout, ite_eq_ok, ite_eq_error]
  refine ⟨fun before => ⟨fun _ right => ?_, fun error wrong => ?_⟩, fun _ => .refused _ (by decide)⟩
  · exact .right _ ⟨_, rfl⟩ before right
  · rcases wrong with ⟨wrong, rfl⟩
    exact .wrong _ ⟨_, rfl⟩ before (Bool.eq_false_iff.mpr wrong)

end Logins

/-! ### What a call can do -/

def SessionCall.presents : SessionCall → Option (UserType × Bytes)
  | .login userType pin | .loginUser userType pin => some (userType, pin.contents)
  | _ => none

inductive PinChange (world : World) (session : Session) :
    SessionCall → (Nat → Token → Except Pkcs11Error Unit × Token) → Prop
  | initPin {pin : Span} (officer : session.loginState = .soLoggedIn) :
      PinChange world session (.initPin pin) (Token.initPin world.argon2 pin.contents)
  | setPin {oldPin newPin : Span} :
      PinChange world session (.setPin oldPin newPin)
        (Token.changePin world.argon2 session.loginState.pinOwner oldPin.contents newPin.contents)

def onSlot (sessions : Finmap fun _ : SessionHandle => Session) (slotId : SlotId)
    (change : Session → Session) : Finmap fun _ : SessionHandle => Session :=
  mapValues sessions fun _ session => if session.slotId = slotId then change session else session

def MayBurn (h : SessionHandle) (session : Session)
    (before after : Finmap fun _ : SessionHandle => Session) : Prop :=
  after = before ∨ after = before.insert h session.burnTicket

inductive Turn (world : World) (s : State) : Call → Except Rv Reply → State → Prop
  | refused {call : Call} {rv : Rv} (choices : Nat) (fails : rv ≠ .ok) :
      Turn world s call (.error rv) { s with choices := choices }
  | ordinary {h : SessionHandle} {session after : Session} {call : SessionCall} {stores : Stores}
      {result : Except Rv Reply} {s' : State} (ready : s.initialized = true)
      (opened : s.sessions.lookup h = some session) (ordinary : call.ordinary = true)
      (effect : Effect h session (.of h s) call stores result) (behind : stores.Behind world s s')
      (here : s'.sessions.lookup h = some after)
      (within : session.Within ((Sight.of h s).Listed session) after) (framed : s.Framed h s') :
      Turn world s (.inSession h call) result s'
  | pinRefused {h : SessionHandle} {session : Session} {call : SessionCall}
      {change : Nat → Token → Except Pkcs11Error Unit × Token} {token : Token} {error : Pkcs11Error}
      (seed choices : Nat) (ready : s.initialized = true)
      (opened : s.sessions.lookup h = some session) (writable : session.isRw = true)
      (pin : PinChange world session call change) (found : s.Finds world session.slotId token)
      (refused : (change seed token).1 = .error error) :
      Turn world s (.inSession h call) (.error error.toCkr)
        { s with
          tokens := s.tokens.insert session.slotId (change seed token).2, choices := choices }
  | pinChanged {h : SessionHandle} {session : Session} {call : SessionCall}
      {change : Nat → Token → Except Pkcs11Error Unit × Token} {token : Token}
      {sessions : Finmap fun _ : SessionHandle => Session} (seed choices : Nat)
      (ready : s.initialized = true) (opened : s.sessions.lookup h = some session)
      (writable : session.isRw = true) (pin : PinChange world session call change)
      (found : s.Finds world session.slotId token) (changed : (change seed token).1 = .ok ())
      (burnt : MayBurn h session s.sessions sessions) :
      Turn world s (.inSession h call) (.ok (.ok .none))
        { saved world
            { s with
              tokens := s.tokens.insert session.slotId (change seed token).2, choices := choices } with
          sessions := sessions }
  | loginRefused {h : SessionHandle} {session : Session} {call : SessionCall} {userType : UserType}
      {pin : Bytes} {rv : Rv} {s' : State} (ready : s.initialized = true)
      (opened : s.sessions.lookup h = some session) (asks : call.presents = some (userType, pin))
      (check : LoginCheck world s session.slotId userType pin (.error rv) s') :
      Turn world s (.inSession h call) (.error rv) s'
  | loggedIn {h : SessionHandle} {session : Session} {call : SessionCall} {userType : UserType}
      {pin : Bytes} {target : LoginState} {s' : State}
      {sessions : Finmap fun _ : SessionHandle => Session} (ready : s.initialized = true)
      (opened : s.sessions.lookup h = some session) (asks : call.presents = some (userType, pin))
      (check : LoginCheck world s session.slotId userType pin (.ok target) s')
      (burnt : MayBurn h session s.sessions sessions) :
      Turn world s (.inSession h call) (.ok (.ok .none))
        { s' with
          sessions := onSlot sessions session.slotId fun other => { other with loginState := target } }
  | contextRefused {h : SessionHandle} {session : Session} {call : SessionCall} {pin : Bytes} {rv : Rv}
      {s' : State} (ready : s.initialized = true) (opened : s.sessions.lookup h = some session)
      (asks : call.presents = some (ckuContextSpecific, pin))
      (check : ContextCheck world s session.slotId pin (.error rv) s') :
      Turn world s (.inSession h call) (.error rv) s'
  | contextIdle {h : SessionHandle} {session : Session} {call : SessionCall} {pin : Bytes} {s' : State}
      (ready : s.initialized = true) (opened : s.sessions.lookup h = some session)
      (asks : call.presents = some (ckuContextSpecific, pin))
      (check : ContextCheck world s session.slotId pin (.ok ()) s') :
      Turn world s (.inSession h call) (.error Pkcs11Error.operationNotInitialised.toCkr) s'
  | contextLoggedIn {h : SessionHandle} {session : Session} {call : SessionCall} {pin : Bytes}
      {s' : State} (ready : s.initialized = true) (opened : s.sessions.lookup h = some session)
      (asks : call.presents = some (ckuContextSpecific, pin))
      (check : ContextCheck world s session.slotId pin (.ok ()) s') :
      Turn world s (.inSession h call) (.ok (.ok .none))
        { s' with sessions := s.sessions.insert h { session with contextSpecificAuthed := true } }
  | loggedOut {h : SessionHandle} {session : Session} (choices : Nat) (ready : s.initialized = true)
      (opened : s.sessions.lookup h = some session)
      (before : s.slotLogin world session.slotId ≠ .notLoggedIn) :
      Turn world s (.inSession h .logout) (.ok (.ok .none))
        { s with
          sessions := onSlot s.sessions session.slotId fun other =>
            { other with findCtx := none, loginState := .notLoggedIn }
          objects := s.objects.retain fun object =>
            !(object.slotId = session.slotId && object.isSessionObject && object.isPrivateObject)
          choices := choices }
  | closed {h : SessionHandle} {session : Session} (ready : s.initialized = true)
      (opened : s.sessions.lookup h = some session) :
      Turn world s (.inSession h .closeSession) (.ok (.ok .none))
        { s with
          sessions := s.sessions.erase h
          objects := s.objects.retain fun object => object.creatingSession ≠ some h }
  | closedAll {slotId : SlotId} (ready : s.initialized = true)
      (valid : isValidSlot s.slots slotId = true) :
      Turn world s (.closeAllSessions slotId) (.ok (.ok .none))
        { s with
          sessions := retain s.sessions fun _ session => session.slotId ≠ slotId
          objects := s.objects.retain fun object =>
            !(object.slotId = slotId && object.isSessionObject) }
  | opened {slotId : SlotId} {flags : Flags} (choices : Nat) (ready : s.initialized = true)
      (valid : isValidSlot s.slots slotId = true)
      (writable : s.slotLogin world slotId = .soLoggedIn → flags &&& ckfRwSession ≠ 0) :
      Turn world s (.openSession slotId flags true) (.ok (.ok (.handle s.nextSession)))
        { s with
          nextSession := s.nextSession + 1
          sessions := s.sessions.insert s.nextSession
            { slotId, flags, loginState := s.slotLogin world slotId }
          choices := choices }
  | registered {engine : CryptoProvider} (assigned : List SlotId) :
      Turn world s (.registerEngine engine) (.ok (.ok (.handles assigned)))
        { s with slots := s.slots ++ List.replicate engine.slotCount engine }
  | tokenRefused {slotId : SlotId} {pin : Bytes} {label : Vector UInt8 32} {token : Token}
      {error : Pkcs11Error} (seed choices : Nat) (ready : s.initialized = true)
      (valid : isValidSlot s.slots slotId = true)
      (closed : ∀ h session, s.sessions.lookup h = some session → session.slotId ≠ slotId)
      (found : s.Finds world slotId token)
      (refused : (Token.initToken world.argon2 pin label seed token).1 = .error error) :
      Turn world s (.initToken slotId (some pin) (some label)) (.error error.toCkr)
        { s with
          tokens := s.tokens.insert slotId (Token.initToken world.argon2 pin label seed token).2
          choices := choices }
  | tokenInitialized {slotId : SlotId} {pin : Bytes} {label : Vector UInt8 32} {token : Token}
      (seed choices : Nat) (ready : s.initialized = true)
      (valid : isValidSlot s.slots slotId = true)
      (closed : ∀ h session, s.sessions.lookup h = some session → session.slotId ≠ slotId)
      (found : s.Finds world slotId token)
      (changed : (Token.initToken world.argon2 pin label seed token).1 = .ok ()) :
      Turn world s (.initToken slotId (some pin) (some label)) (.ok (.ok .none))
        (saved world (profiled world (saved world
          { s with
            tokens := s.tokens.insert slotId (Token.initToken world.argon2 pin label seed token).2
            objects := s.objects.retain fun object => object.slotId ≠ slotId
            choices := choices }) slotId))
  | started {args : Option InitializeArgs} (idle : s.initialized = false) :
      Turn world s (.initializeLibrary args) (.ok (.ok .none)) (started world s)
  | finalized (ready : s.initialized = true) :
      Turn world s (.finalize false) (.ok (.ok .none))
        { saved world { s with sessions := ∅ } with
          objects := .empty, tokens := ∅, slots := [], initialized := false }

section Turns

variable {world : World} {s : State}

abbrev Follows (world : World) (s : State) (call : Call) : Prop :=
  Conforms (.exactly (handle world)) (fun s' result => Turn world s call result s') s
    (call.program world)

theorem Follows.turn {call : Call} (follows : Follows world s call) :
    Turn world s call (call.exec world s).1 (step world s call) :=
  conforms_exactly.mp follows

theorem Turn.unchanged {call : Call} {rv : Rv} (fails : rv ≠ .ok) : Turn world s call (.error rv) s :=
  .refused s.choices fails

theorem openSession_cases (world : World) (s : State) (slotId : SlotId) (flags : Flags) :
    (∃ choices error, s.openSession world slotId flags = (.error error, { s with choices := choices })) ∨
      (s.slotLogin world slotId = .soLoggedIn → flags &&& ckfRwSession ≠ 0) ∧
        s.openSession world slotId flags = (.ok s.nextSession,
          { s with
            nextSession := s.nextSession + 1
            sessions := s.sessions.insert s.nextSession
              { slotId, flags, loginState := s.slotLogin world slotId }
            choices := s.choices + 1 }) := by
  simp only [State.openSession]
  split_ifs with parallel busy
  · exact .inl ⟨s.choices, _, rfl⟩
  · exact .inl ⟨s.choices + 1, _, rfl⟩
  · exact .inr ⟨fun officer readOnly => busy ⟨officer, readOnly⟩, rfl⟩

theorem follows_openSession (slotId : SlotId) (flags : Flags) (given : Bool) :
    Follows world s (.openSession slotId flags given) := by
  simp only [Follows, Call.program, cOpenSession, conforms_bind, conforms_adapt, conforms_checkInit,
    conforms_registry, asks_exactly, conforms_ensure, conforms_openSession, conforms_pure,
    exactly_may, exactly_gives, exactly_next, true_and]
  refine ⟨fun ready => ⟨fun valid => ⟨?_, fun _ => .unchanged (by decide)⟩,
    fun _ => .unchanged (by decide)⟩, fun _ => .unchanged (by decide)⟩
  intro present
  subst present
  rcases openSession_cases world s slotId flags with ⟨choices, error, refused⟩ | ⟨writable, done⟩
  · simp only [handle, refused]
    exact ⟨by simp, fun error _ => .refused choices error.toCkr_ne_ok⟩
  · simp only [handle, done, Except.ok.injEq, forall_eq', reduceCtorEq, false_implies, implies_true,
      and_true]
    exact .opened _ ready valid writable

theorem follows_closeAllSessions (slotId : SlotId) : Follows world s (.closeAllSessions slotId) := by
  simp only [Follows, Call.program, cCloseAllSessions, conforms_bind, conforms_adapt,
    conforms_checkInit, conforms_registry, asks_exactly, conforms_ensure, conforms_retainSessions,
    conforms_retainObjects, conforms_pure, exactly_may, exactly_gives, exactly_next, true_and]
  exact ⟨fun ready => ⟨fun valid _ _ => .closedAll ready valid, fun _ => .unchanged (by decide)⟩,
    fun _ => .unchanged (by decide)⟩

/-! Accesses that find what they look for -/

section Accesses

variable {E : Type}

theorem ends_checkInit {post : State → Except Pkcs11Error Unit → Prop} (ready : s.initialized = true) :
    Conforms (.exactly (handle world)) post s checkInit ↔ post s (.ok ()) := by
  simp [handle, ready]

variable {post : State → Except Pkcs11Error Session → Prop} {h : SessionHandle} {session : Session}

section

variable (opened : s.sessions.lookup h = some session)

include opened

theorem ends_withSession :
    Conforms (.exactly (handle world)) post s (withSession h) ↔ post s (.ok session) := by
  simp [handle, opened]

theorem ends_withSessionMut (change : Session → Session) :
    Conforms (.exactly (handle world)) post s (withSessionMut h change) ↔
      post { s with sessions := s.sessions.insert h (change session) } (.ok session) := by
  simp [handle, opened]

theorem ends_closeSession :
    Conforms (.exactly (handle world)) post s (closeSession h) ↔
      post { s with sessions := s.sessions.erase h } (.ok session) := by
  simp [handle, opened]

theorem ends_requireRwSession {post : State → Except Pkcs11Error Unit → Prop} :
    Conforms (.exactly (handle world)) post s (requireRwSession h) ↔
      (session.isRw = true → post s (.ok ())) ∧
        (session.isRw ≠ true → post s (.error .sessionReadOnly)) := by
  simp only [requireRwSession, conforms_bind, ends_withSession opened, conforms_attempt,
    Session.requireRw, ite_eq_ok, ite_eq_error]
  exact and_congr ⟨fun ends => ends (), fun ends _ => ends⟩
    ⟨fun ends readOnly => ends _ ⟨readOnly, rfl⟩, fun ends error refused => refused.2 ▸ ends refused.1⟩

end

theorem ends_sessionsOnSlot {post : State → Except E (List Session) → Prop} (slotId : SlotId) :
    Conforms (.exactly (handle world)) post s (sessionsOnSlot slotId) ↔
      post { s with choices := s.choices + 1 } (.ok (s.sessionsOn world slotId)) := by
  simp [handle]

theorem ends_updateSessions {post : State → Except E Unit → Prop} (slotId : SlotId)
    (change : Session → Session) :
    Conforms (.exactly (handle world)) post s (updateSessions slotId change) ↔
      post { s with sessions := onSlot s.sessions slotId change } (.ok ()) := by
  simp [handle, onSlot]

theorem ends_retainObjects {post : State → Except E Unit → Prop} (keep : KeyObject → Bool) :
    Conforms (.exactly (handle world)) post s (retainObjects keep) ↔
      post { s with objects := s.objects.retain keep } (.ok ()) := by
  simp [handle]

theorem ends_of_exec {α : Type} {program : Api α} {result : Except Rv α} {s' : State}
    {post : State → Except Rv α → Prop} (ends : exec (handle world) program s = (result, s')) :
    Conforms (.exactly (handle world)) post s program ↔ post s' result := by
  rw [conforms_exactly, ends]

end Accesses

theorem onSlot_onSlot (sessions : Finmap fun _ : SessionHandle => Session) (slotId : SlotId)
    (first second : Session → Session) (same : ∀ session, (first session).slotId = session.slotId) :
    onSlot (onSlot sessions slotId first) slotId second =
      onSlot sessions slotId fun session => second (first session) := by
  refine Finmap.ext_lookup fun h => ?_
  simp only [onSlot, lookup_mapValues, Option.map_map]
  congr 1
  funext session
  by_cases here : session.slotId = slotId <;> simp [here, same]

theorem saved_frame (world : World) (s : State) :
    (saved world s).initialized = s.initialized ∧ (saved world s).slots = s.slots ∧
      (saved world s).sessions = s.sessions ∧ (saved world s).nextSession = s.nextSession ∧
      (saved world s).objects = s.objects ∧ (saved world s).nextHandle = s.nextHandle := by
  rcases ensured_frame world (slotIds s.slots) s with ⟨tokens, frame⟩
  simp [saved, persistIfNeeded, registry, saveState, exec_storedTokens, handle, frame]

theorem saved_with_sessions (world : World) (s : State) :
    { saved world s with sessions := s.sessions } = saved world s := by
  rw [← (saved_frame world s).2.2.1]

variable {slotId : SlotId}

theorem LoginCheck.sessions {userType : UserType} {pin : Bytes} {result : Except Rv LoginState}
    {s' : State} (check : LoginCheck world s slotId userType pin result s') :
    s'.sessions = s.sessions := by
  cases check <;> rfl

theorem ContextCheck.sessions {pin : Bytes} {result : Except Rv Unit} {s' : State}
    (check : ContextCheck world s slotId pin result s') : s'.sessions = s.sessions := by
  cases check <;> rfl

section InSession

variable {h : SessionHandle} {session : Session} (ready : s.initialized = true)
  (opened : s.sessions.lookup h = some session)

include ready opened

theorem follows_closeSession : Follows world s (.inSession h .closeSession) := by
  simp only [Follows, Call.program, SessionCall.program, cCloseSession, conforms_bind,
    conforms_adapt, ends_checkInit ready, ends_closeSession opened, ends_retainObjects,
    conforms_pure]
  exact .closed ready opened

theorem follows_logout : Follows world s (.inSession h .logout) := by
  simp only [Follows, Call.program, SessionCall.program, cLogout, loginStateForSlot, conforms_bind,
    conforms_adapt, ends_checkInit ready, ends_withSession opened, ends_sessionsOnSlot,
    conforms_ensure, ends_updateSessions, ends_retainObjects, conforms_pure]
  refine ⟨fun before => ?_, fun _ => .refused _ (by decide)⟩
  rw [onSlot_onSlot]
  · exact .loggedOut _ ready opened before
  · exact fun _ => rfl

theorem follows_initPin (pin : Span) : Follows world s (.inSession h (.initPin pin)) := by
  simp only [Follows, Call.program, SessionCall.program, cInitPin, conforms_bind, conforms_adapt,
    ends_checkInit ready, ends_requireRwSession opened, ends_withSession opened, conforms_ensure,
    conforms_withTokenMut, ends_of_exec (exec_persistIfNeeded ..), conforms_pure, exactly_may,
    exactly_gives, exactly_next, true_and]
  refine ⟨fun writable => ⟨fun officer => ⟨fun _ changed => ?_, fun error refused => ?_⟩,
    fun _ => .unchanged (Pkcs11Error.toCkr_ne_ok _)⟩, fun _ => .unchanged (Pkcs11Error.toCkr_ne_ok _)⟩
  · rw [← saved_with_sessions]
    exact .pinChanged _ _ ready opened writable (.initPin officer) ⟨_, rfl⟩ changed (.inl rfl)
  · exact .pinRefused _ _ ready opened writable (.initPin officer) ⟨_, rfl⟩ refused

theorem follows_setPin (oldPin newPin : Span) :
    Follows world s (.inSession h (.setPin oldPin newPin)) := by
  have still (s' : State) (same : s'.sessions = s.sessions) :
      (saved world s').sessions.lookup h = some session := by
    rw [(saved_frame world s').2.2.1, same, opened]
  simp only [Follows, Call.program, SessionCall.program, cSetPin, conforms_bind, conforms_adapt,
    ends_checkInit ready, ends_requireRwSession opened, ends_withSession opened,
    conforms_withTokenMut, ends_of_exec (exec_persistIfNeeded ..), conforms_pure, exactly_may,
    exactly_gives, exactly_next, true_and]
  refine ⟨fun writable => ⟨fun _ changed => ?_, fun error refused => ?_⟩,
    fun _ => .unchanged (Pkcs11Error.toCkr_ne_ok _)⟩
  · refine (ends_withSessionMut (still _ ?_) _).mpr ?_
    · rfl
    rw [(saved_frame world _).2.2.1]
    exact .pinChanged _ _ ready opened writable .setPin ⟨_, rfl⟩ changed (.inr rfl)
  · exact .pinRefused _ _ ready opened writable .setPin ⟨_, rfl⟩ refused

theorem follows_login (userType : UserType) (pin : Span) :
    Follows world s (.inSession h (.login userType pin)) := by
  simp only [Follows, Call.program, SessionCall.program, cLogin, conforms_bind, conforms_adapt,
    ends_checkInit ready, ends_withSession opened, conforms_ensure, conforms_ite]
  refine ⟨fun _ => ⟨fun context => ?_, fun _ => ?_⟩, fun _ => .unchanged (by decide)⟩
  · subst context
    refine (conforms_checkContextLogin world s session.slotId pin.contents).mono fun s' result check => ?_
    have opened' : s'.sessions.lookup h = some session := by rw [check.sessions, opened]
    cases result with
    | error rv => exact .contextRefused ready opened rfl check
    | ok done =>
      simp only [ends_withSessionMut opened', conforms_pure, check.sessions]
      refine ⟨fun active => ?_, fun idle => ?_⟩
      · rw [if_pos active]
        exact .contextLoggedIn ready opened rfl check
      · rw [if_neg idle, ← check.sessions, insert_of_lookup opened']
        exact .contextIdle ready opened rfl check
  · refine (conforms_checkLogin world s session.slotId userType pin.contents).mono fun s' result check => ?_
    have opened' : s'.sessions.lookup h = some session := by rw [check.sessions, opened]
    cases result with
    | error rv => exact .loginRefused ready opened rfl check
    | ok target =>
      simp only [ends_withSessionMut opened', ends_updateSessions, conforms_pure, check.sessions]
      exact .loggedIn ready opened rfl check (.inr rfl)

theorem follows_loginUser (userType : UserType) (pin : Span) :
    Follows world s (.inSession h (.loginUser userType pin)) := by
  simp only [Follows, Call.program, SessionCall.program, cLoginUser, sessionSlot, conforms_bind,
    conforms_adapt, ends_checkInit ready, ends_withSession opened, conforms_pure, conforms_ite]
  refine ⟨fun context => ?_, fun _ => ?_⟩
  · subst context
    refine (conforms_checkContextLogin world s session.slotId pin.contents).mono fun s' result check => ?_
    have opened' : s'.sessions.lookup h = some session := by rw [check.sessions, opened]
    cases result with
    | error rv => exact .contextRefused ready opened rfl check
    | ok done =>
      simp only [ends_withSessionMut opened', check.sessions]
      exact .contextLoggedIn ready opened rfl check
  · refine (conforms_checkLogin world s session.slotId userType pin.contents).mono fun s' result check => ?_
    cases result with
    | error rv => exact .loginRefused ready opened rfl check
    | ok target =>
      simp only [ends_updateSessions, check.sessions]
      exact .loggedIn ready opened rfl check (.inl rfl)

end InSession

theorem follows_initToken (slotId : SlotId) (pin : Option Bytes) (label : Option (Vector UInt8 32)) :
    Follows world s (.initToken slotId pin label) := by
  simp only [Follows, Call.program, cInitToken, conforms_bind, conforms_adapt, conforms_checkInit,
    conforms_registry, asks_exactly, conforms_ensure, conforms_require, ends_sessionsOnSlot,
    conforms_withTokenMut, ends_retainObjects, ends_of_exec (exec_persistIfNeeded ..),
    ends_of_exec (exec_ensureBaselineProfile ..), conforms_pure, exactly_may, exactly_gives,
    exactly_next, true_and]
  refine ⟨fun ready => ⟨fun valid => ⟨fun _ => .unchanged (by decide), fun pin given =>
      ⟨fun _ => .unchanged (by decide), fun label labelled => ?_⟩⟩, fun _ => .unchanged (by decide)⟩,
    fun _ => .unchanged (by decide)⟩
  subst given labelled
  refine ⟨fun none => ?_, fun _ => .refused _ (by decide)⟩
  have closed (h : SessionHandle) (session : Session) (opened : s.sessions.lookup h = some session) :
      session.slotId ≠ slotId := by
    intro here
    have empty : s.sessionsOn world slotId = [] := none
    have listed := (mem_sessionsOn world s slotId).mpr ⟨h, opened, here⟩
    rw [empty] at listed
    cases listed
  refine ⟨fun _ changed => ?_, fun error refused => ?_⟩
  · exact .tokenInitialized _ _ ready valid closed ⟨_, rfl⟩ changed
  · exact .tokenRefused _ _ ready valid closed ⟨_, rfl⟩ refused

theorem follows_initializeLibrary (args : Option InitializeArgs) :
    Follows world s (.initializeLibrary args) := by
  rw [Follows, conforms_exactly]
  simp only [Call.program, cInitialize, ensure, exec_bind, exec_attempt, exec_perform, handle]
  split_ifs
  · by_cases idle : s.initialized = false
    · simp only [if_pos idle, exec_loadPersistedObjects, exec_ensureTokens,
        exec_ensureBaselineProfiles, exec_pure]
      exact .started idle
    · simp only [if_neg idle]
      exact .unchanged (by decide)
  all_goals exact .unchanged (by decide)

theorem follows_finalize (reserved : Bool) : Follows world s (.finalize reserved) := by
  have sessions : (retain s.sessions fun _ _ => false) = ∅ := Finmap.ext_lookup fun h => by simp
  have objects (store : ObjectStore) : store.retain (fun _ => false) = .empty :=
    ObjectStore.ext_get fun handle => by simp
  rw [Follows, conforms_exactly]
  simp only [Call.program, cFinalize, ensure, exec_bind, exec_attempt, exec_perform, handle,
    retainSessions, retainObjects, objects]
  split_ifs with given
  · subst given
    by_cases ready : s.initialized = true
    · simp only [if_pos ready, exec_persistIfNeeded, exec_pure, sessions]
      exact .finalized ready
    · simp only [if_neg ready]
      exact .unchanged (by decide)
  · exact .unchanged (by decide)

theorem turn_inSession (h : SessionHandle) (call : SessionCall) :
    Turn world s (.inSession h call) ((Call.inSession h call).exec world s).1
      (step world s (.inSession h call)) := by
  have refused (refusal : Refusal ((Call.inSession h call).exec world s).1 ∧
      step world s (.inSession h call) = s) :
      Turn world s (.inSession h call) ((Call.inSession h call).exec world s).1
        (step world s (.inSession h call)) := by
    rcases refusal with ⟨⟨rv, fails, same⟩, kept⟩
    rw [same, kept]
    exact .unchanged fails
  cases ready : s.initialized with
  | false => exact refused (exec_uninitialized world call ready)
  | true =>
    cases opened : s.sessions.lookup h with
    | none => exact refused (exec_closed world call opened)
    | some session =>
      cases ordinary : call.ordinary with
      | true =>
        rcases exec_ordinary world opened ordinary with
          ⟨stores, after, effect, behind, here, within, framed⟩
        exact .ordinary ready opened ordinary effect behind here within framed
      | false =>
        refine Follows.turn ?_
        cases call with
        | initPin pin => exact follows_initPin ready opened pin
        | setPin oldPin newPin => exact follows_setPin ready opened oldPin newPin
        | closeSession => exact follows_closeSession ready opened
        | login userType pin => exact follows_login ready opened userType pin
        | loginUser userType pin => exact follows_loginUser ready opened userType pin
        | logout => exact follows_logout ready opened
        | _ => cases ordinary

theorem turn_exec (world : World) (s : State) (call : Call) :
    Turn world s call (call.exec world s).1 (step world s call) := by
  cases call with
  | initializeLibrary args => exact (follows_initializeLibrary args).turn
  | finalize reserved => exact (follows_finalize reserved).turn
  | registerEngine engine => exact .registered _
  | initToken slotId pin label => exact (follows_initToken slotId pin label).turn
  | openSession slotId flags given => exact (follows_openSession slotId flags given).turn
  | closeAllSessions slotId => exact (follows_closeAllSessions slotId).turn
  | inSession h call => exact turn_inSession h call

/-! The turns of single calls -/

variable {h : SessionHandle} {result : Except Rv Reply} {s' : State}

theorem Turn.of_closeSession (turn : Turn world s (.inSession h .closeSession) result s') :
    (∃ choices, s' = { s with choices := choices }) ∨
      ∃ session, s.sessions.lookup h = some session ∧
        s' = { s with
          sessions := s.sessions.erase h
          objects := s.objects.retain fun object => object.creatingSession ≠ some h } := by
  cases turn with
  | refused choices fails => exact .inl ⟨choices, rfl⟩
  | closed ready opened => exact .inr ⟨_, opened, rfl⟩
  | ordinary _ _ other | pinRefused _ _ _ _ _ other | pinChanged _ _ _ _ _ other
  | loginRefused _ _ other | loggedIn _ _ other | contextRefused _ _ other | contextIdle _ _ other
  | contextLoggedIn _ _ other => cases other

theorem Turn.of_logout (turn : Turn world s (.inSession h .logout) result s') :
    (∃ choices, s' = { s with choices := choices }) ∨
      ∃ session choices, s.sessions.lookup h = some session ∧
        s' = { s with
          sessions := onSlot s.sessions session.slotId fun other =>
            { other with findCtx := none, loginState := .notLoggedIn }
          objects := s.objects.retain fun object =>
            !(object.slotId = session.slotId && object.isSessionObject && object.isPrivateObject)
          choices := choices } := by
  cases turn with
  | refused choices fails => exact .inl ⟨choices, rfl⟩
  | loggedOut choices ready opened before => exact .inr ⟨_, choices, opened, rfl⟩
  | ordinary _ _ other | pinRefused _ _ _ _ _ other | pinChanged _ _ _ _ _ other
  | loginRefused _ _ other | loggedIn _ _ other | contextRefused _ _ other | contextIdle _ _ other
  | contextLoggedIn _ _ other => cases other

theorem Turn.of_closeAllSessions (turn : Turn world s (.closeAllSessions slotId) result s') :
    (∃ choices, s' = { s with choices := choices }) ∨
      s' = { s with
        sessions := retain s.sessions fun _ session => session.slotId ≠ slotId
        objects := s.objects.retain fun object =>
          !(object.slotId = slotId && object.isSessionObject) } := by
  cases turn with
  | refused choices fails => exact .inl ⟨choices, rfl⟩
  | closedAll ready valid => exact .inr rfl

end Turns

end ScoreCrypto.Cryptoki
