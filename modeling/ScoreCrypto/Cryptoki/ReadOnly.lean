import ScoreCrypto.Cryptoki.Effects

/-!
Read-only sessions and the token. No call in such a session creates, changes or destroys a token
object; what can still happen is that a new session object takes the handle of one.
-/

namespace ScoreCrypto.Cryptoki

open Fallible SessionCall

def SessionCall.manages : SessionCall → Bool
  | .initPin _ | .setPin _ _ => true
  | call => call.changes

def ObjectStore.tokenObject (store : ObjectStore) (handle : ObjectHandle) : Option KeyObject :=
  (store.get handle).filter KeyObject.isTokenObject

/-- The token objects and the tokens with their PINs are the same in both states. -/
def State.SameToken (before after : State) : Prop :=
  (∀ handle, after.objects.tokenObject handle = before.objects.tokenObject handle) ∧
    after.tokens = before.tokens

namespace ObjectStore

variable (store : ObjectStore)

theorem tokenObject_eq_none_iff (handle : ObjectHandle) :
    store.tokenObject handle = none ↔
      ∀ object, store.get handle = some object → object.isTokenObject = false := by
  simp [tokenObject, Option.filter_eq_none_iff]

theorem tokenObject_insert {object : KeyObject} (session : object.isTokenObject = false)
    (handle : ObjectHandle) :
    (store.insert object).tokenObject handle =
      if handle = object.handle then none else store.tokenObject handle := by
  rw [tokenObject, get_insert]
  split
  · simp [Option.filter, session]
  · rfl

theorem tokenObject_erase {handle : ObjectHandle} (free : store.tokenObject handle = none)
    (other : ObjectHandle) : (store.erase handle).tokenObject other = store.tokenObject other := by
  rw [tokenObject, get_erase]
  split
  · subst other
    exact free.symm
  · rfl

end ObjectStore

theorem storedCopy_isTokenObject (h : SessionHandle) (object : KeyObject) :
    (storedCopy h object).isTokenObject = object.isTokenObject := by
  rw [KeyObject.isTokenObject, KeyObject.boolAttrTrue, storedCopy_attributes]
  rfl

theorem tokenObject_filed {h : SessionHandle} {slots : List CryptoProvider} {object : KeyObject}
    {before after : Stores} (session : object.isTokenObject = false)
    (filed : before.Filed h slots object after) :
    (∀ handle, after.objects.tokenObject handle =
      if handle = object.handle then none else before.objects.tokenObject handle) ∧
      after.tokens = before.tokens := by
  rw [Stores.Filed, session] at filed
  subst filed
  refine ⟨fun handle => ?_, rfl⟩
  rw [before.objects.tokenObject_insert ((storedCopy_isTokenObject h object).trans session),
    storedCopy_handle]

variable {world : World} {s : State} {h : SessionHandle} {session : Session}

def dataTemplate : Template :=
  .entries [⟨ckaClass, .bytes (ulongBytes ckoData)⟩, ⟨ckaValue, .bytes []⟩]

section ReadOnly

variable (opened : s.sessions.lookup h = some session) (readOnly : session.isRw = false)

include opened readOnly

variable {call : SessionCall}

theorem step_pin (manages : call.manages = true)
    (pin : call.changes = false) : step world s (.inSession h call) = s := by
  cases ready : s.initialized with
  | false => exact (exec_uninitialized world call ready).2
  | true =>
    cases call with
    | initPin | setPin =>
      simp [step, Call.exec, Call.program, SessionCall.program, cInitPin, cSetPin, checkInit,
        requireRwSession, withSession, require, ensure, handle, ready, opened, Session.requireRw,
        readOnly, Except.mapError]
    | _ => cases pin.symm.trans manages

/-- A call that manages objects, keys or PINs takes the handles of its new objects, if it
succeeds, from any token objects that have them, and leaves the token as it is otherwise. -/
theorem step_token (world : World) (manages : call.manages = true) :
    let after := step world s (.inSession h call)
    (∀ handle, after.objects.tokenObject handle =
      if ((Call.inSession h call).reply world s).rv = .ok ∧ handle ∈ call.takes s.nextHandle then
        none
      else s.objects.tokenObject handle) ∧ after.tokens = s.tokens := by
  intro after
  cases changes : call.changes with
  | false =>
    have same : after = s := step_pin opened readOnly manages changes
    rw [same]
    refine ⟨fun handle => (if_neg fun taken => ?_).symm, rfl⟩
    cases changes.symm.trans (ordinary_of_takes taken.2).2
  | true =>
    have ordinary : call.ordinary = true := by
      cases call <;> first | rfl | cases changes
    rcases exec_ordinary world opened ordinary with ⟨stores, _, effect, behind, _, _, _⟩
    have kind {object : KeyObject} (writable : object.isTokenObject = true → session.isRw = true) :
        object.isTokenObject = false := by
      rw [← Bool.not_eq_true]
      intro token
      cases readOnly.symm.trans (writable token)
    have answered : (Call.inSession h call).reply world s =
      Reply.ofResult ((Call.inSession h call).exec world s).1 := rfl
    generalize ((Call.inSession h call).exec world s).1 = result at effect answered
    rw [answered, (behind.objects : after.objects = _), (behind.tokens : after.tokens = _)]
    cases effect with
    | kept fails =>
      rcases fails changes with ⟨rv, bad, rfl⟩
      exact ⟨fun handle => (if_neg fun done => bad done.1).symm, rfl⟩
    | created born writable filed =>
      have one := tokenObject_filed (kind fun token => writable token) filed
      refine ⟨fun handle => ?_, one.2⟩
      simp [one.1, born.takes_eq, born.handle_eq, Reply.ofResult, Reply.ok, Sight.of]
    | paired born writable first second =>
      have one := tokenObject_filed (kind fun token => writable (.inl token)) first
      have two := tokenObject_filed (kind fun token => writable (.inr token)) second
      refine ⟨fun handle => ?_, two.2.trans one.2⟩
      rw [two.1, one.1, ← ite_or]
      simp [born.takes_eq, born.handle_eq, Reply.ofResult, Reply.ok, Sight.of, or_comm]
    | refused writable => cases readOnly.symm.trans writable
    | written writable => cases readOnly.symm.trans writable
    | @destroyed hObject object _ found own visible writable stored =>
      have kind := kind writable
      rw [kind] at stored
      subst stored
      refine ⟨fun handle => (s.objects.tokenObject_erase ?_ handle).trans (by simp [takes]), rfl⟩
      rw [ObjectStore.tokenObject_eq_none_iff]
      intro other same
      cases found.symm.trans same
      exact kind

/-- A call in a read-only session leaves the token as it is, if and only if it fails or takes no
handle of a token object for an object that it creates. -/
theorem readOnly_sameToken_iff (manages : call.manages = true) :
    s.SameToken (step world s (.inSession h call)) ↔
      (((Call.inSession h call).reply world s).rv = .ok →
        ∀ handle ∈ call.takes s.nextHandle, s.objects.tokenObject handle = none) := by
  rcases step_token opened readOnly world manages with ⟨objects, tokens⟩
  constructor
  · rintro ⟨same, -⟩ done handle taken
    rw [← same handle, objects, if_pos ⟨done, taken⟩]
  · refine fun free => ⟨fun handle => ?_, tokens⟩
    rw [objects]
    split
    next taken => exact (free taken.1 handle taken.2).symm
    next => rfl

end ReadOnly

def fromFile (nextHandle : ObjectHandle) : State :=
  Run.run (step plainWorld)
    (State.loaded (some
      { tokens := []
        token := none
        objects := [⟨1, 0, .genericSecret, [7], ((∅ : Attributes).insert ckaClass
          (ulongBytes ckoData)).insert ckaToken [ckTrue]⟩]
        nextHandle }))
    [.initializeLibrary none, .openSession 0 4 true, .inSession 1 (.createObject dataTemplate true)]

/-- With the counter past all objects the token is safe. -/
theorem readOnly_sameToken_fromFile :
    ∃ session, (fromFile 2).sessions.lookup 1 = some session ∧ session.isRw = false ∧
      (fromFile 2).objects.tokenObject 1 ≠ none ∧
      ∀ call : SessionCall, call.manages = true →
        (fromFile 2).SameToken (step plainWorld (fromFile 2) (.inSession 1 call)) := by
  obtain ⟨session, opened, readOnly⟩ := (Option.any_eq_true _ _).mp (by decide +kernel :
    ((fromFile 2).sessions.lookup 1).any (fun session => decide (session.isRw = false)) = true)
  refine ⟨session, opened, of_decide_eq_true readOnly, by decide +kernel, ?_⟩
  refine fun call manages =>
    (readOnly_sameToken_iff opened (of_decide_eq_true readOnly) manages).mpr fun _ handle taken => ?_
  have next : handle = (fromFile 2).nextHandle ∨ handle = (fromFile 2).nextHandle + 1 := by
    cases call <;> simp_all [takes]
  rcases next with rfl | rfl
  · decide +kernel
  · decide +kernel

/-- A counter that has come round gives a session object the handle of a token object. -/
theorem readOnly_session_replaces_token_object :
    (∃ session, (fromFile 18446744073709551615).sessions.lookup 1 = some session ∧
        session.isRw = false) ∧
      ((Call.inSession 1 (.createObject dataTemplate true)).reply plainWorld
        (fromFile 18446744073709551615)).rv = .ok ∧
      (SessionCall.createObject dataTemplate true).manages = true ∧
      ¬(fromFile 18446744073709551615).SameToken
        (step plainWorld (fromFile 18446744073709551615)
          (.inSession 1 (.createObject dataTemplate true))) := by
  obtain ⟨session, opened, readOnly⟩ := (Option.any_eq_true _ _).mp (by decide +kernel :
    ((fromFile 18446744073709551615).sessions.lookup 1).any (fun session =>
      decide (session.isRw = false)) = true)
  refine ⟨⟨session, opened, of_decide_eq_true readOnly⟩, by decide +kernel, rfl, fun same => ?_⟩
  have before : (fromFile 18446744073709551615).objects.tokenObject 1 ≠ none := by decide +kernel
  rw [← same.1 1] at before
  exact absurd before (by decide +kernel)

end ScoreCrypto.Cryptoki
