import ScoreCrypto.Cryptoki.Origins

/-!
The login states. Every session keeps a copy of the login state of its slot, and the library reads
the state of a slot off the first session that it finds there.
-/

namespace ScoreCrypto.Cryptoki

def Show (sessions : SessionHandle → Option Session) (login : SlotId → LoginState) : Prop :=
  ∀ h session, sessions h = some session → session.loginState = login session.slotId ∧
    (session.loginState = .soLoggedIn → session.isRw = true)

section Logins

variable {world : World} {s : State} {login : SlotId → LoginState}

theorem Show.lookup (shows : Show (logins s.sessions) login) {h : SessionHandle} {session : Session}
    (opened : s.sessions.lookup h = some session) : session.loginState = login session.slotId ∧
      (session.loginState = .soLoggedIn → session.isRw = true) :=
  shows h session.bare (by rw [logins, opened, Option.map_some])

theorem slotLogin_eq (shows : Show (logins s.sessions) login) {h : SessionHandle} {session : Session}
    (opened : s.sessions.lookup h = some session) :
    s.slotLogin world session.slotId = session.loginState := by
  have listed := (mem_sessionsOn world s session.slotId).mpr ⟨h, opened, rfl⟩
  cases found : s.sessionsOn world session.slotId with
  | nil =>
    rw [found] at listed
    cases listed
  | cons first rest =>
    have member : first ∈ s.sessionsOn world session.slotId := found ▸ List.mem_cons_self
    rcases (mem_sessionsOn world s session.slotId).mp member with ⟨c, other, own⟩
    rw [State.slotLogin, found, (shows.lookup opened).1, ← own]
    exact (shows.lookup other).1

theorem LoginTurn.shows {call : Call} {after : SessionHandle → Option Session}
    (turn : LoginTurn world s call after) (shows : Show (logins s.sessions) login) :
    ∃ login, Show after login := by
  cases turn with
  | ended earlier => exact ⟨login, fun c session here => shows c session (earlier c session here)⟩
  | told slotId target told writable =>
    refine ⟨Function.update login slotId target, fun c session here => ?_⟩
    rw [told] at here
    rcases Option.map_eq_some_iff.mp here with ⟨before, found, rfl⟩
    rw [Session.told]
    split
    · next own =>
        rw [own, Function.update_self]
        rcases Option.map_eq_some_iff.mp found with ⟨opened, there, rfl⟩
        exact ⟨rfl, fun officer => writable officer c opened there own⟩
    · next other =>
        rw [Function.update_of_ne other]
        exact shows c before found
  | @opened slotId flags opens added writable =>
    -- the sessions of the slot show what the new one copies
    refine ⟨Function.update login slotId (s.slotLogin world slotId), fun c session here => ?_⟩
    rw [added] at here
    rcases eq_or_ne c s.nextSession with rfl | differ
    · rw [Function.update_self] at here
      cases here
      rw [Function.update_self]
      exact ⟨rfl, fun officer => decide_eq_true (writable officer)⟩
    · rw [Function.update_of_ne differ] at here
      refine ⟨?_, (shows c session here).2⟩
      rcases eq_or_ne session.slotId slotId with rfl | other
      · rcases Option.map_eq_some_iff.mp here with ⟨session, opened, rfl⟩
        rw [Function.update_self]
        exact (slotLogin_eq shows opened).symm
      · rw [Function.update_of_ne other]
        exact (shows c session here).1

end Logins

/-- Every session has the login state that the library finds for its slot, and is not read-only while
a security officer is logged in. -/
def State.LoginsAgree (world : World) (s : State) : Prop :=
  ∀ h session, s.sessions.lookup h = some session →
    s.slotLogin world session.slotId = session.loginState ∧
      (session.loginState = .soLoggedIn → session.isRw = true)

/-- Between two calls, all sessions of a slot agree on the login state. -/
theorem run_loginsAgree (world : World) (disk : Option StoredState) (calls : List Call) :
    (Run.run (step world) (State.loaded disk) calls).LoginsAgree world := by
  have shows := Run.run_invariant (fun s => ∃ login, Show (logins s.sessions) login)
    (fun s call ⟨_, shows⟩ => (turn_exec world s call).loginTurn.shows shows) (State.loaded disk) calls
    ⟨fun _ => .notLoggedIn, by simp [Show, State.loaded, logins]⟩
  rcases shows with ⟨login, shows⟩
  exact fun h session opened => ⟨slotLogin_eq shows opened, (shows.lookup opened).2⟩

end ScoreCrypto.Cryptoki
