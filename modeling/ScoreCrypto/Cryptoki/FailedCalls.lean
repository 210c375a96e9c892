import ScoreCrypto.Cryptoki.Effects

/-!
What a call that fails leaves behind. All of them leave the stores as they were, but for a change of
attributes that is refused after a part of it was made.
-/

namespace ScoreCrypto.Cryptoki

open Fallible SessionCall

/-- The attribute policy refuses an entry of the template, and those before it, all of which it
accepts, ask for another object than the one there is. -/
def KeyObject.StopsMidway (object : KeyObject) (template : List TemplateEntry) : Prop :=
  ∃ earlier entry later, template = earlier ++ entry :: later ∧
    object.attributes.Accepts earlier ∧ object.attributes.Refuses earlier entry ∧
    object.overlaid earlier ≠ object

theorem writeAttributes_append (object : KeyObject) (earlier later : List TemplateEntry)
    (allowed : (writeAttributes object earlier).1 = .ok ()) :
    writeAttributes object (earlier ++ later) =
      writeAttributes (writeAttributes object earlier).2 later := by
  fun_induction writeAttributes object earlier with
  | case1 object => rfl
  | case2 object entry rest len null ih =>
    rw [List.cons_append, writeAttributes, null]
    exact ih allowed
  | case3 object entry rest value bytes error refused => cases allowed
  | case4 object entry rest value bytes valid ih =>
    rw [List.cons_append, writeAttributes, bytes]
    simp only [valid]
    exact ih allowed

theorem stopsMidway_iff (object : KeyObject) (template : List TemplateEntry) :
    object.StopsMidway template ↔ (writeAttributes object template).1 ≠ .ok () ∧
      (writeAttributes object template).2 ≠ object := by
  constructor
  · intro stops
    rcases stops with ⟨earlier, entry, later, rfl, accepts, ⟨value, here, invalid⟩, changed⟩
    have loop := writeAttributes_ok_iff object earlier
    have allowed := loop.1.mpr accepts
    rw [writeAttributes_append object earlier _ allowed, loop.2 allowed, writeAttributes, here]
    cases checked : validateAttributeChange entry.type
      ((object.overlaid earlier).attributes.lookup entry.type) value with
    | ok done => exact absurd checked invalid
    | error error => simpa [checked] using changed
  · intro stopped
    rcases writeAttributes_writes object template with
      ⟨written, ⟨accepted, later, split, refuses⟩, wrote, whole⟩
    rw [wrote] at stopped
    cases later with
    | nil => exact absurd (whole.mpr (by simp [split])) stopped.1
    | cons entry rest =>
      exact ⟨written, entry, rest, split, accepted, refuses entry rfl, stopped.2⟩

/-- The call is one that changes attributes, gets as far as that, and is stopped midway. -/
def State.StopsMidway (s : State) (h : SessionHandle) (call : SessionCall) : Prop :=
  ∃ session hObject template object, s.initialized = true ∧ s.sessions.lookup h = some session ∧
    session.isRw = true ∧ call = .setAttributeValue hObject template ∧ template.isNull = false ∧
    s.objects.get hObject = some object ∧ object.StopsMidway template.list

def State.SameStores (before after : State) : Prop :=
  after.objects = before.objects ∧ after.disk = before.disk ∧ after.tokens = before.tokens

theorem insert_eq_self_iff (store : ObjectStore) {object changed : KeyObject}
    (found : store.get changed.handle = some object) :
    store.insert changed = store ↔ changed = object := by
  constructor
  · intro same
    have stored := store.get_insert changed changed.handle
    rw [if_pos rfl, same, found] at stored
    exact (Option.some.inj stored).symm
  · rintro rfl
    refine ObjectStore.ext_get fun handle => ?_
    rw [store.get_insert]
    split
    · subst handle
      exact found.symm
    · rfl

variable (world : World) (s : State) (h : SessionHandle) (call : SessionCall)

/-- A call that manages objects and fails leaves everything as it was. -/
def State.FailsCleanly : Prop :=
  ((Call.inSession h call).reply world s).rv ≠ .ok → s.SameStores (step world s (.inSession h call))

theorem reply_error {rv : Rv} (failed : ((Call.inSession h call).exec world s).1 = .error rv) :
    ((Call.inSession h call).reply world s).rv = rv := by
  rw [Call.reply, failed]
  rfl

theorem not_failsCleanly_of_stopsMidway (stops : s.StopsMidway h call) :
    ¬s.FailsCleanly world h call := by
  intro clean
  rcases stops with ⟨session, hObject, template, object, initialized, opened, writable, rfl, given,
    found, stops⟩
  have stopped := (stopsMidway_iff object template.list).mp stops
  cases refused : (writeAttributes object template.list).1 with
  | ok done => exact stopped.1 refused
  | error error =>
    have ran : (Call.inSession h (.setAttributeValue hObject template)).exec world s =
        (.error error.toCkr,
          { s with objects := s.objects.insert (writeAttributes object template.list).2 }) := by
      simp [Call.exec, Call.program, SessionCall.program, cSetAttributeValue, checkInit,
        requireRwSession, withSession, withObjectMut, require, ensure, handle, initialized, opened,
        Session.requireRw, writable, given, found, refused, Except.mapError]
    have same := (clean (by
      rw [reply_error world s h _ (congrArg Prod.fst ran)]
      exact error.toCkr_ne_ok)).1
    rw [step, ran] at same
    refine stopped.2 ((insert_eq_self_iff s.objects ?_).mp same)
    rwa [writeAttributes_handle, s.objects.handle_of_get found]

/-- In every state and for every call that manages objects: it fails cleanly unless it is stopped
midway through a change of attributes. -/
theorem failsCleanly_iff (changes : call.changes = true) :
    s.FailsCleanly world h call ↔ ¬s.StopsMidway h call := by
  refine ⟨fun clean stops => not_failsCleanly_of_stopsMidway world s h call stops clean, ?_⟩
  intro whole failed
  cases ready : s.initialized with
  | false =>
    rw [(exec_uninitialized world call ready).2]
    exact ⟨rfl, rfl, rfl⟩
  | true =>
    cases opened : s.sessions.lookup h with
    | none =>
      rw [(exec_closed world call opened).2]
      exact ⟨rfl, rfl, rfl⟩
    | some session =>
      have ordinary : call.ordinary = true := by
        cases call <;> first | rfl | cases changes
      rcases exec_ordinary world opened ordinary with ⟨stores, after, effect, behind, _, _, _⟩
      rw [Call.reply] at failed
      generalize ((Call.inSession h call).exec world s).1 = result at effect failed
      cases effect with
      | kept fails => exact ⟨behind.objects, behind.untouched rfl, behind.tokens⟩
      | @refused hObject template object writable found error refused =>
        refine ⟨behind.objects.trans ?_, behind.untouched rfl, behind.tokens⟩
        have handle : (writeAttributes object template.list).2.handle = hObject :=
          (writeAttributes_handle object _).trans (s.objects.handle_of_get found)
        refine (insert_eq_self_iff s.objects (by rwa [handle])).mpr (not_not.mp fun changed => ?_)
        refine whole ⟨session, hObject, template, object, ready, opened, writable, rfl, ?_, found,
          (stopsMidway_iff object template.list).mpr ⟨by simp [refused], changed⟩⟩
        -- without a template there would be nothing to refuse
        cases template with
        | null => cases refused
        | entries list => rfl
      | created | paired | written | destroyed => exact absurd rfl failed

def withDataObject : State :=
  Run.run (step plainWorld) (State.loaded none)
    [.initializeLibrary none, .openSession 0 6 true,
      .inSession 1 (.createObject (.entries [⟨ckaClass, .bytes (ulongBytes ckoData)⟩,
        ⟨ckaValue, .bytes [1, 2, 3]⟩]) true)]

/-- A missing value and the one that the object has already, before the class is refused and another
value is left. -/
def sameValueThenClass : List TemplateEntry :=
  [⟨ckaPrivate, .null 1⟩, ⟨ckaValue, .bytes [1, 2, 3]⟩, ⟨ckaClass, .bytes [0]⟩, ⟨ckaValue, .bytes [9]⟩]

theorem failsCleanly_sameValueThenClass :
    ((Call.inSession 1 (.setAttributeValue 2 (.entries sameValueThenClass))).reply plainWorld
        withDataObject).rv = .attributeReadOnly ∧
      withDataObject.FailsCleanly plainWorld 1 (.setAttributeValue 2 (.entries sameValueThenClass)) := by
  refine ⟨by decide +kernel, (failsCleanly_iff plainWorld withDataObject 1 _ rfl).mpr ?_⟩
  intro stops
  rcases stops with ⟨session, hObject, template, object, _, _, _, same, _, found, stops⟩
  cases same
  have value : (withDataObject.objects.get 2).map (fun object => object.attributes.lookup ckaValue) =
      some (some [1, 2, 3]) := by decide +kernel
  rw [found, Option.map_some, Option.some.injEq] at value
  have kept : object.withAttribute ckaValue [1, 2, 3] = object := by
    have same : object.attributes.insert ckaValue [1, 2, 3] = object.attributes := by
      refine Finmap.ext_lookup fun type => ?_
      rcases eq_or_ne type ckaValue with rfl | other
      · rw [Finmap.lookup_insert, value]
      · rw [Finmap.lookup_insert_of_ne _ other]
    rw [KeyObject.withAttribute, same]
    rfl
  have written : writeAttributes object sameValueThenClass = writeAttributes
      (object.withAttribute ckaValue [1, 2, 3]) (sameValueThenClass.drop 2) := rfl
  refine ((stopsMidway_iff object _).mp stops).2 ((congrArg Prod.snd written).trans ?_)
  rw [kept]
  rfl

/-- The value is changed before the class is refused. -/
theorem value_changed_by_failed_call :
    ((Call.inSession 1 (.setAttributeValue 2 (.entries [⟨ckaValue, .bytes [9]⟩,
        ⟨ckaClass, .bytes [0]⟩]))).reply plainWorld withDataObject).rv = .attributeReadOnly ∧
      ¬withDataObject.FailsCleanly plainWorld 1 (.setAttributeValue 2 (.entries
        [⟨ckaValue, .bytes [9]⟩, ⟨ckaClass, .bytes [0]⟩])) := by
  refine ⟨by decide +kernel, fun clean => ?_⟩
  have same := (clean (by decide +kernel)).1
  have before : (withDataObject.objects.get 2).map (fun o => o.attributes.lookup ckaValue) =
      some (some [1, 2, 3]) := by decide +kernel
  rw [← same] at before
  exact absurd before (by decide +kernel)

end ScoreCrypto.Cryptoki
