import ScoreCrypto.Cryptoki.Calls

/-! The calls as they look from the object store: what they find there and what they leave there. -/

namespace ScoreCrypto.Cryptoki

open Fallible

namespace ObjectStore

def gives (store : ObjectStore) : (act : Action) → act.Res → Prop
  | .object handle, answer => store.get handle = answer
  | .objectForSlot handle slotId, answer =>
    ((store.get handle).filter fun object => object.slotId = slotId) = answer
  | .setAttributes handle _, answer => store.get handle = answer
  | .removeObject handle, answer => store.get handle = answer
  | .iterate keys, answer => answer.Nodup ∧ ∀ type, type ∈ answer ↔ type ∈ keys
  | _, _ => True

def next (store : ObjectStore) : (act : Action) → act.Res → ObjectStore
  | .setAttributes handle template, _ =>
    match store.get handle with
    | some object => store.insert (writeAttributes object template).2
    | none => store
  | .insertObject object, _ => store.insert object
  | .removeObject handle, _ => store.erase handle
  | .retainObjects keep, _ => store.retain keep
  | .loadObjects objects _, _ => objects.foldl ObjectStore.insert store
  | _, _ => store

def view : Contract Action Action.Res ObjectStore where
  may _ _ := True
  gives := gives
  next := next

@[simp] theorem view_may (store : ObjectStore) (act : Action) : view.may store act ↔ True := Iff.rfl

@[simp] theorem view_gives : view.gives = gives := rfl

@[simp] theorem view_next : view.next = next := rfl

/-! Saving leaves the objects alone. -/

section Saving

variable {E : Type} {store : ObjectStore}

theorem conforms_storedTokens (slots : List SlotId)
    {post : ObjectStore → Except E (List (SlotId × StoredToken)) → Prop}
    (ends : ∀ tokens, post store (.ok tokens)) : Conforms view post store (storedTokens slots) := by
  induction slots generalizing post with
  | nil => exact ends []
  | cons slotId rest ih =>
    simp only [storedTokens, conforms_bind]
    exact ⟨trivial, fun token _ => ih fun tokens => ends _⟩

theorem conforms_persistIfNeeded {post : ObjectStore → Except E Unit → Prop} :
    Conforms view post store persistIfNeeded ↔ post store (.ok ()) := by
  have saved (tokens : List (SlotId × StoredToken)) :
      Conforms view post store (saveState tokens) ↔ post store (.ok ()) :=
    ⟨fun holds => (holds.2 (0 : ObjectHandle) trivial).2 () trivial,
      fun ends => ⟨trivial, fun _ _ => ⟨trivial, fun _ _ => ends⟩⟩⟩
  simp only [persistIfNeeded, conforms_bind]
  constructor
  · intro holds
    exact (saved []).mp (holds.2 [] trivial)
  · intro ends
    exact ⟨trivial, fun slots _ => conforms_storedTokens _ fun tokens => (saved tokens).mpr ends⟩

theorem conforms_storeObject (object : KeyObject) (session : SessionHandle)
    {post : ObjectStore → Except E Unit → Prop} :
    Conforms view post store (storeObject object session) ↔
      post (store.insert (if object.isTokenObject then object
        else { object with creatingSession := some session })) (.ok ()) := by
  rw [storeObject]
  cases object.isTokenObject <;> simp [conforms_persistIfNeeded, gives, next]

end Saving

variable (world : World)

theorem view_handle (act : Action) (s : State) :
    gives s.objects act (handle world act s).1 ∧
      (handle world act s).2.objects = next s.objects act (handle world act s).1 := by
  cases act with
  | updateSession h change => cases found : s.sessions.lookup h <;> simp [handle, gives, next, found]
  | openSession slotId flags =>
    simp only [handle, gives, next, true_and, State.openSession]
    split
    · rfl
    · split <;> rfl
  | setAttributes h template =>
    cases found : s.objects.get h <;> simp [handle, gives, next, found]
  | iterate keys =>
    exact ⟨⟨world.order_nodup _ _, world.mem_order _ _⟩, rfl⟩
  | _ => exact ⟨by trivial, rfl⟩

variable {E α : Type}

theorem exec_view {p : Access E α} {s : State} {post : ObjectStore → Except E α → Prop}
    (conforms : Conforms view post s.objects p) :
    post (exec (handle world) p s).2.objects (exec (handle world) p s).1 := by
  have keeps : ∀ store act s, view.may store act → s.objects = store →
      view.gives store act (handle world act s).1 ∧
        (handle world act s).2.objects = view.next store act (handle world act s).1 := by
    intro store act s _ same
    subst same
    exact view_handle world act s
  rcases Program.Conforms.exec (fun store (s : State) => s.objects = store) keeps conforms rfl with
    ⟨store, same, holds⟩
  rw [← same] at holds
  exact holds

end ObjectStore

end ScoreCrypto.Cryptoki
