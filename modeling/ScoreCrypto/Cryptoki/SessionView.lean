import ScoreCrypto.Cryptoki.Ratchet

/-!
The calls as they look from one session: the session itself, the stores, the counter that gives the
handles of new objects, and what was last written to disk.
-/

namespace ScoreCrypto.Cryptoki

open Fallible

def ObjectStore.Lists (store : ObjectStore) (slotId : SlotId) (loggedIn : Bool)
    (handle : ObjectHandle) : Prop :=
  ∃ object, store.get handle = some object ∧ object.slotId = slotId ∧
    (loggedIn = true ∨ object.isPrivateObject = false)

abbrev Tokens := Finmap fun _ : SlotId => Token

structure Snapshot where
  objects : ObjectStore
  tokens : Tokens

def storedAs (tokens : Tokens) (slots : List SlotId) : List (SlotId × StoredToken) :=
  slots.filterMap fun slotId =>
    (tokens.lookup slotId).map fun token => (slotId, StoredToken.from token)

def Snapshot.IsFile (snapshot : Snapshot) (world : World) (slots : List CryptoProvider)
    (file : StoredState) : Prop :=
  file.tokens = storedAs snapshot.tokens (slotIds slots) ∧ file.token = none ∧
    ∃ s : State, s.objects = snapshot.objects ∧ s.slots = slots ∧ file.objects = s.storedObjects world

structure Stores where
  objects : ObjectStore
  tokens : Tokens
  saved : Option Snapshot

structure Sight extends Stores where
  session : Option Session
  nextHandle : ObjectHandle
  slots : List CryptoProvider
  complete : Bool

def TokensRead : Tokens → List SlotId → Tokens → Prop
  | before, [], after => before = after
  | before, slotId :: rest, after =>
    ∃ token, (∀ known, before.lookup slotId = some known → known = token) ∧
      TokensRead (before.insert slotId token) rest after

theorem TokensRead.lookup {before after : Tokens} {slots : List SlotId}
    (read : TokensRead before slots after) {slotId : SlotId} {token : Token}
    (found : before.lookup slotId = some token) : after.lookup slotId = some token := by
  induction slots generalizing before with
  | nil =>
    cases read
    exact found
  | cons first rest ih =>
    rcases read with ⟨given, known, later⟩
    apply ih later
    rcases eq_or_ne slotId first with rfl | differ
    · rw [Finmap.lookup_insert, known token found]
    · rw [Finmap.lookup_insert_of_ne _ differ, found]

@[simp] theorem storedCopy_slotId (session : SessionHandle) (copy : KeyObject) :
    (storedCopy session copy).slotId = copy.slotId := by
  rw [storedCopy]
  split <;> rfl

namespace Stores

def Written (slots : List CryptoProvider) (before after : Stores) : Prop :=
  ∃ tokens, TokensRead before.tokens (slotIds slots) tokens ∧
    after = { before with tokens, saved := some ⟨before.objects, tokens⟩ }

def Filed (h : SessionHandle) (slots : List CryptoProvider) (object : KeyObject)
    (before after : Stores) : Prop :=
  let filed := { before with objects := before.objects.insert (storedCopy h object) }
  if object.isTokenObject then filed.Written slots after else after = filed

end Stores

namespace Sight

variable (h : SessionHandle)

def of (s : State) : Sight where
  session := s.sessions.lookup h
  objects := s.objects
  nextHandle := s.nextHandle
  slots := s.slots
  tokens := s.tokens
  complete := true
  saved := none

def gives (sight : Sight) : (act : Action) → act.Res → Prop
  | .registry, answer => sight.slots = answer
  | .session handle, answer => handle = h → sight.session = answer
  | .updateSession handle _, answer => handle = h → sight.session = answer
  | .closeSession handle, answer => handle = h → sight.session = answer
  | .nextHandle, answer => sight.nextHandle = answer
  | .findObjects slotId _ loggedIn, answer =>
    ∀ handle ∈ answer, sight.objects.Lists slotId loggedIn handle
  | .token slotId, answer =>
    ∀ known, sight.tokens.lookup slotId = some known → known = answer
  | act, answer => sight.objects.gives act answer

def nextSession (session : Option Session) : Action → Option Session
  | .updateSession handle change => if handle = h then session.map change else session
  | .closeSession handle => if handle = h then none else session
  | .updateSessions slotId change =>
    session.map fun s => if s.slotId = slotId then change s else s
  | .retainSessions keep => session.filter keep
  | _ => session

def nextTokens (tokens : Tokens) : (act : Action) → act.Res → Tokens
  | .token slotId, answer => tokens.insert slotId answer
  | .updateToken slotId _, _ => tokens.erase slotId
  | _, _ => tokens

def next (sight : Sight) (act : Action) (answer : act.Res) : Sight where
  session := nextSession h sight.session act
  objects := sight.objects.next act answer
  nextHandle := match act with
    | .nextHandle => sight.nextHandle + 1
    | _ => sight.nextHandle
  slots := sight.slots
  tokens := nextTokens sight.tokens act answer
  complete := match act with
    | .updateToken _ _ => false
    | _ => sight.complete
  saved := match act with
    | .saveState _ _ => some ⟨sight.objects, sight.tokens⟩
    | _ => sight.saved

/-- The actions that a program in a session performs. What it writes to disk are the tokens as they
are then. -/
def Follows (sight : Sight) : Action → Prop
  | .setInit _ | .registerEngine _ | .resetRegistry | .openSession _ _ | .loadObjects _ _
  | .replaceToken _ _ | .clearTokens | .loadState | .profileOn _ => False
  | .saveState tokens _ => tokens = storedAs sight.tokens (slotIds sight.slots)
  | _ => True

def contract (may : Sight → Action → Prop) : Contract Action Action.Res Sight where
  may sight act := Follows sight act ∧ may sight act
  gives := gives h
  next := next h

variable {may : Sight → Action → Prop}

@[simp] theorem contract_may (sight : Sight) (act : Action) :
    (contract h may).may sight act ↔ Follows sight act ∧ may sight act := Iff.rfl

@[simp] theorem contract_gives :
    (contract h may).gives = gives h := rfl

@[simp] theorem contract_next : (contract h may).next = next h := rfl

/-! ### The state behind the sight -/

structure Shows (world : World) (disk : Option StoredState) (sight : Sight) (s : State) : Prop where
  session : s.sessions.lookup h = sight.session
  objects : s.objects = sight.objects
  nextHandle : s.nextHandle = sight.nextHandle
  slots : s.slots = sight.slots
  tokens : ∀ slotId token, sight.tokens.lookup slotId = some token →
    s.tokens.lookup slotId = some token
  complete : sight.complete = true → s.tokens = sight.tokens
  untouched : sight.saved = none → s.disk = disk
  file : ∀ snapshot, sight.saved = some snapshot → (∀ choice, world.saves choice = true) →
    ∃ file, s.disk = some file ∧ snapshot.IsFile world sight.slots file

theorem shows_of (world : World) (s : State) : Shows h world s.disk (of h s) s :=
  ⟨rfl, rfl, rfl, rfl, fun _ _ found => found, fun _ => rfl, fun _ => rfl, by simp [of]⟩

variable {s : State}

theorem lists_of_mem_findObjects (world : World) {slotId : SlotId}
    {template : List (AttributeType × Bytes)} {loggedIn : Bool} {handle : ObjectHandle}
    (found : handle ∈ s.findObjects world slotId template loggedIn) :
    s.objects.Lists slotId loggedIn handle := by
  rcases List.mem_map.mp found with ⟨object, listed, rfl⟩
  rcases List.mem_filter.mp listed with ⟨stored, conditions⟩
  rcases List.mem_filterMap.mp stored with ⟨handle, _, here⟩
  rw [s.objects.handle_of_get here]
  simp only [Bool.and_eq_true, decide_eq_true_eq, Bool.or_eq_true, Bool.not_eq_true'] at conditions
  exact ⟨object, here, conditions.1.1, conditions.2⟩

variable {h} {sight : Sight} {disk : Option StoredState} {world : World}

theorem Shows.gives (looks : Shows h world disk sight s) (act : Action) :
    Sight.gives h sight act (handle world act s).1 := by
  have objects := (ObjectStore.view_handle world act s).1
  rw [looks.objects] at objects
  cases act with
  | registry => exact looks.slots.symm
  | session | closeSession =>
    intro same
    subst same
    exact looks.session.symm
  | updateSession handle change =>
    intro same
    subst same
    rw [← looks.session]
    cases found : s.sessions.lookup handle <;> simp [Cryptoki.handle, found]
  | nextHandle => exact looks.nextHandle.symm
  | findObjects slotId template loggedIn =>
    intro handle found
    rw [← looks.objects]
    exact lists_of_mem_findObjects world found
  | token slotId =>
    intro known found
    simp [Cryptoki.handle, State.tokenOf, looks.tokens slotId known found]
  | _ => exact objects

variable {act : Action}

theorem handle_session (world : World) (s : State) (follows : Follows sight act) :
    (handle world act s).2.sessions.lookup h = nextSession h (s.sessions.lookup h) act := by
  cases act with
  | openSession slotId flags => cases follows
  | updateSession handle change =>
    rcases eq_or_ne h handle with rfl | differ
    · cases found : s.sessions.lookup h <;>
        simp [Cryptoki.handle, nextSession, found, Finmap.lookup_insert]
    · cases found : s.sessions.lookup handle <;>
        simp [Cryptoki.handle, nextSession, found, differ.symm,
          Finmap.lookup_insert_of_ne _ differ]
  | closeSession handle =>
    rcases eq_or_ne h handle with rfl | differ
    · simp [Cryptoki.handle, nextSession]
    · simp [Cryptoki.handle, nextSession, differ.symm, Finmap.lookup_erase_ne differ]
  | updateSessions slotId change => exact lookup_mapValues _ _
  | retainSessions keep => exact lookup_retain _ _
  | setAttributes handle template =>
    cases found : s.objects.get handle <;> simp [Cryptoki.handle, nextSession, found]
  | _ => rfl

theorem handle_frame (h : SessionHandle) (world : World) (s : State) (follows : Follows sight act) :
    (∃ slotId, act = .token slotId) ∨ (∃ slotId change, act = .updateToken slotId change) ∨
      (∃ tokens nextHandle, act = .saveState tokens nextHandle) ∨ act = .nextHandle ∨
      (∃ sessions objects choices, (handle world act s).2 = { s with sessions, objects, choices }) ∧
        ∀ answer, ∃ session objects, next h sight act answer = { sight with session, objects } := by
  cases act with
  | token slotId => exact .inl ⟨slotId, rfl⟩
  | updateToken slotId change => exact .inr (.inl ⟨slotId, change, rfl⟩)
  | saveState tokens nextHandle => exact .inr (.inr (.inl ⟨tokens, nextHandle, rfl⟩))
  | nextHandle => exact .inr (.inr (.inr (.inl rfl)))
  | setInit | registerEngine | resetRegistry | openSession | loadObjects | replaceToken | clearTokens
  | loadState | profileOn => cases follows
  | updateSession handle change =>
    refine .inr (.inr (.inr (.inr ⟨?_, fun _ => ⟨_, _, rfl⟩⟩)))
    cases found : s.sessions.lookup handle <;> simp only [Cryptoki.handle, found] <;>
      exact ⟨_, _, _, rfl⟩
  | setAttributes handle template =>
    refine .inr (.inr (.inr (.inr ⟨?_, fun _ => ⟨_, _, rfl⟩⟩)))
    cases found : s.objects.get handle <;> simp only [Cryptoki.handle, found] <;>
      exact ⟨_, _, _, rfl⟩
  | _ => exact .inr (.inr (.inr (.inr ⟨⟨_, _, _, rfl⟩, fun _ => ⟨_, _, rfl⟩⟩)))

theorem Shows.next (looks : Shows h world disk sight s) (follows : Follows sight act) :
    Shows h world disk (Sight.next h sight act (handle world act s).1) (handle world act s).2 := by
  have session : (handle world act s).2.sessions.lookup h =
      (Sight.next h sight act (handle world act s).1).session := by
    rw [handle_session world s follows, looks.session]
    rfl
  have objects : (handle world act s).2.objects =
      (Sight.next h sight act (handle world act s).1).objects := by
    rw [(ObjectStore.view_handle world act s).2, looks.objects]
    rfl
  rcases handle_frame h world s follows with ⟨slotId, rfl⟩ | ⟨slotId, change, rfl⟩ |
    ⟨tokens, nextHandle, rfl⟩ | rfl | ⟨⟨sessions, objects', choices, after⟩, same⟩
  · refine ⟨session, objects, looks.nextHandle, looks.slots, fun other token known => ?_,
      fun complete => ?_, looks.untouched, looks.file⟩
    · change (sight.tokens.insert slotId (s.tokenOf world slotId)).lookup other = some token at known
      change (s.tokens.insert slotId (s.tokenOf world slotId)).lookup other = some token
      rcases eq_or_ne other slotId with rfl | differ
      · rwa [Finmap.lookup_insert] at known ⊢
      · rw [Finmap.lookup_insert_of_ne _ differ] at known ⊢
        exact looks.tokens other token known
    · exact congrArg (Finmap.insert slotId _) (looks.complete complete)
  · refine ⟨session, objects, looks.nextHandle, looks.slots, fun other token known => ?_, nofun,
      looks.untouched, looks.file⟩
    change (sight.tokens.erase slotId).lookup other = some token at known
    change (s.tokens.insert slotId _).lookup other = some token
    rcases eq_or_ne other slotId with rfl | differ
    · cases known.symm.trans (Finmap.lookup_erase _ _)
    · rw [Finmap.lookup_erase_ne differ] at known
      rw [Finmap.lookup_insert_of_ne _ differ]
      exact looks.tokens other token known
  · refine ⟨session, objects, looks.nextHandle, looks.slots, looks.tokens, looks.complete, nofun,
      fun snapshot saved writes => ?_⟩
    cases saved
    exact ⟨_, if_pos (writes _), follows, rfl, s, looks.objects, looks.slots, rfl⟩
  · exact ⟨session, objects, congrArg (· + 1) looks.nextHandle, looks.slots, looks.tokens,
      looks.complete, looks.untouched, looks.file⟩
  · rcases same (handle world act s).1 with ⟨session', objects'', same⟩
    rw [same, after] at session objects ⊢
    exact ⟨session, objects, looks.nextHandle, looks.slots, looks.tokens, looks.complete,
      looks.untouched, looks.file⟩

/-- A program that keeps to its contract ends in a state that looks as promised; what every action
of the contract keeps holds there too. -/
theorem exec_contract {E α : Type} {post : Sight → Except E α → Prop} {p : Access E α}
    (inv : State → Prop)
    (keeps : ∀ sight act s, Follows sight act → may sight act → inv s → inv (handle world act s).2)
    (conforms : Conforms (contract h may) post (of h s) p) (start : inv s) :
    ∃ sight, Shows h world s.disk sight (exec (handle world) p s).2 ∧
      post sight (exec (handle world) p s).1 ∧ inv (exec (handle world) p s).2 := by
  have steps : ∀ sight act s', (contract h may).may sight act →
      Shows h world s.disk sight s' ∧ inv s' →
      (contract h may).gives sight act (handle world act s').1 ∧
        Shows h world s.disk ((contract h may).next sight act (handle world act s').1)
          (handle world act s').2 ∧ inv (handle world act s').2 := by
    intro sight act s' allowed here
    exact ⟨here.1.gives act, here.1.next allowed.1, keeps sight act s' allowed.1 allowed.2 here.2⟩
  rcases Program.Conforms.exec (fun sight s' => Shows h world s.disk sight s' ∧ inv s') steps conforms
    ⟨shows_of h world s, start⟩ with ⟨sight, here, ends⟩
  exact ⟨sight, here.1, ends, here.2⟩

/-! ### What an access asks of a contract in a session -/

section Accesses

variable {E : Type} {may : Sight → Action → Prop} {sight : Sight}

theorem may_and {act : Action} {rest : Prop} (follows : Follows sight act) :
    (contract h may).may sight act ∧ rest ↔ may sight act ∧ rest :=
  and_congr_left fun _ => and_iff_right follows

theorem may_and_gives {act : Action} {rest : act.Res → Prop} (follows : Follows sight act)
    (free : ∀ answer, Sight.gives h sight act answer) :
    ((contract h may).may sight act ∧
        ∀ answer, (contract h may).gives sight act answer → rest answer) ↔
      may sight act ∧ ∀ answer, rest answer :=
  (may_and follows).trans (and_congr_right fun _ => forall_congr' fun answer =>
    ⟨fun ends => ends (free answer), fun ends _ => ends⟩)

@[simp high] theorem conforms_checkInit {post : Sight → Except Pkcs11Error Unit → Prop} :
    Conforms (contract h may) post sight checkInit ↔
      may sight .checkInit ∧ post sight (.ok ()) ∧ post sight (.error .notInitialised) := by
  refine Cryptoki.conforms_checkInit.trans ⟨fun ends => ?_, fun ends => ?_⟩
  · exact ⟨ends.1.2, ends.2.1 trivial, ends.2.2 trivial⟩
  · exact ⟨⟨trivial, ends.1⟩, fun _ => ends.2.1, fun _ => ends.2.2⟩

@[simp high] theorem conforms_registry {post : Sight → Except E (List CryptoProvider) → Prop} :
    Conforms (contract h may) post sight registry ↔
      may sight .registry ∧ post sight (.ok sight.slots) := by
  refine Cryptoki.conforms_registry.trans ⟨fun ends => ?_, fun ends => ?_⟩
  · exact ⟨ends.1.2, ends.2 sight.slots rfl⟩
  · exact ⟨⟨trivial, ends.1⟩, fun slots same => same ▸ ends.2⟩

@[simp high] theorem conforms_drawSeed {post : Sight → Except E Nat → Prop} :
    Conforms (contract h may) post sight drawSeed ↔
      may sight .random ∧ ∀ seed, post sight (.ok seed) :=
  Cryptoki.conforms_drawSeed.trans (may_and_gives trivial fun _ => trivial)

@[simp high] theorem conforms_nextHandle {post : Sight → Except E ObjectHandle → Prop} :
    Conforms (contract h may) post sight Cryptoki.nextHandle ↔
      may sight .nextHandle ∧
        post { sight with nextHandle := sight.nextHandle + 1 } (.ok sight.nextHandle) := by
  refine Cryptoki.conforms_nextHandle.trans ⟨fun ends => ?_, fun ends => ?_⟩
  · exact ⟨ends.1.2, ends.2 sight.nextHandle rfl⟩
  · exact ⟨⟨trivial, ends.1⟩, fun handle same => same ▸ ends.2⟩

@[simp high] theorem conforms_iterate (keys : Finset AttributeType)
    {post : Sight → Except E (List AttributeType) → Prop} :
    Conforms (contract h may) post sight (iterate keys) ↔
      may sight (.iterate keys) ∧ ∀ order : List AttributeType, order.Nodup →
        (∀ type, type ∈ order ↔ type ∈ keys) → post sight (.ok order) := by
  refine (Cryptoki.conforms_iterate keys).trans ⟨fun ends => ?_, fun ends => ?_⟩
  · exact ⟨ends.1.2, fun order nodup members => ends.2 order ⟨nodup, members⟩⟩
  · exact ⟨⟨trivial, ends.1⟩, fun order given => ends.2 order given.1 given.2⟩

variable {post : Sight → Except Pkcs11Error KeyObject → Prop}

@[simp high] theorem conforms_withObject (handle : ObjectHandle) :
    Conforms (contract h may) post sight (withObject handle) ↔
      may sight (.object handle) ∧
        (sight.objects.get handle = none → post sight (.error .invalidObjectHandle)) ∧
        ∀ object, sight.objects.get handle = some object → post sight (.ok object) :=
  (Cryptoki.conforms_withObject handle).trans (may_and trivial)

@[simp high] theorem conforms_withObjectForSlot (handle : ObjectHandle) (slotId : SlotId) :
    Conforms (contract h may) post sight (withObjectForSlot handle slotId) ↔
      may sight (.objectForSlot handle slotId) ∧
        ((∀ object, sight.objects.get handle = some object → object.slotId ≠ slotId) →
          post sight (.error .invalidObjectHandle)) ∧
        ∀ object, sight.objects.get handle = some object → object.slotId = slotId →
          post sight (.ok object) := by
  refine (Cryptoki.conforms_withObjectForSlot handle slotId).trans
    ⟨fun ends => ⟨ends.1.2, fun missing => ends.2.1 ?_, fun object found own => ends.2.2 object ?_⟩,
      fun ends => ⟨⟨trivial, ends.1⟩, fun missing => ends.2.1 ?_, fun object found => ?_⟩⟩
  · exact Option.filter_eq_none_iff.mpr fun object found => by simpa using missing object found
  · exact Option.filter_eq_some_iff.mpr ⟨found, by simpa using own⟩
  · intro object found
    simpa using Option.filter_eq_none_iff.mp missing object found
  · have both := Option.filter_eq_some_iff.mp found
    exact ends.2.2 object both.1 (by simpa using both.2)

@[simp high] theorem conforms_withSession {post : Sight → Except Pkcs11Error Session → Prop} :
    Conforms (contract h may) post sight (withSession h) ↔
      may sight (.session h) ∧ match sight.session with
        | none => post sight (.error .invalidSessionHandle)
        | some session => post sight (.ok session) := by
  refine (Cryptoki.conforms_withSession h).trans ⟨fun ends => ⟨ends.1.2, ?_⟩,
    fun ends => ⟨⟨trivial, ends.1⟩, fun found => ?_, fun session found => ?_⟩⟩
  · cases found : sight.session with
    | none => exact ends.2.1 fun _ => found
    | some session => exact ends.2.2 session fun _ => found
  · have done := ends.2
    rwa [found rfl] at done
  · have done := ends.2
    rwa [found rfl] at done

theorem next_updateSession (change : Session → Session) (before : Option Session) :
    next h sight (.updateSession h change) before =
      { sight with session := sight.session.map change } := by
  simp [next, nextSession, nextTokens, ObjectStore.next]

@[simp high] theorem conforms_withSessionMut (change : Session → Session)
    {post : Sight → Except Pkcs11Error Session → Prop} :
    Conforms (contract h may) post sight (withSessionMut h change) ↔
      may sight (.updateSession h change) ∧ match sight.session with
        | none => post sight (.error .invalidSessionHandle)
        | some session => post { sight with session := some (change session) } (.ok session) := by
  simp only [Cryptoki.conforms_withSessionMut, Looks, contract_may, contract_gives, contract_next,
    next_updateSession, Follows, true_and]
  refine and_congr_right fun _ => ⟨fun ends => ?_, fun ends => ⟨fun found => ?_, fun session found => ?_⟩⟩
  · cases found : sight.session with
    | none =>
      have done := ends.1 fun _ => found
      rwa [found, Option.map_none, ← found] at done
    | some session =>
      have done := ends.2 session fun _ => found
      rwa [found] at done
  · rw [found rfl] at ends
    rwa [found rfl, Option.map_none, ← found rfl]
  · rw [found rfl] at ends
    rwa [found rfl]

@[simp high] theorem conforms_touchSession (change : Session → Session)
    {post : Sight → Except E Unit → Prop} :
    Conforms (contract h may) post sight (touchSession h change) ↔
      may sight (.updateSession h change) ∧
        post { sight with session := sight.session.map change } (.ok ()) := by
  simp only [Cryptoki.conforms_touchSession, contract_may, contract_gives, contract_next,
    next_updateSession, Follows, true_and]
  exact and_congr_right fun _ => ⟨fun ends => ends _ fun _ => rfl, fun ends _ _ => ends⟩

@[simp high] theorem conforms_withToken (slotId : SlotId) {post : Sight → Except E Token → Prop} :
    Conforms (contract h may) post sight (withToken slotId) ↔
      may sight (.token slotId) ∧ ∀ token,
        (∀ known, sight.tokens.lookup slotId = some known → known = token) →
          post { sight with tokens := sight.tokens.insert slotId token } (.ok token) :=
  (Cryptoki.conforms_withToken slotId).trans (may_and trivial)

end Accesses

/-! ### Saving -/

structure Saves (may : Sight → Action → Prop) : Prop where
  registry : ∀ sight, may sight .registry
  token : ∀ sight slotId, may sight (.token slotId)
  readNextHandle : ∀ sight, may sight .readNextHandle
  saveState : ∀ sight tokens nextHandle, may sight (.saveState tokens nextHandle)

section Conforms

variable {E : Type} {may : Sight → Action → Prop} {sight : Sight}

theorem conforms_readTokens (saves : Saves may) (slots : List SlotId)
    {post : Sight → Except E (List (SlotId × StoredToken)) → Prop} :
    Conforms (contract h may) post sight (storedTokens slots) ↔
      ∀ tokens, TokensRead sight.tokens slots tokens →
        post { sight with tokens := tokens } (.ok (storedAs tokens slots)) := by
  induction slots generalizing sight post with
  | nil =>
    constructor
    · rintro ends tokens rfl
      exact ends
    · exact fun ends => ends sight.tokens rfl
  | cons slotId rest ih =>
    simp only [storedTokens, conforms_bind, conforms_withToken, saves.token, true_and, ih,
      conforms_pure]
    -- both sides go through the token that is found first and the tokens after it
    have written (token : Token) (tokens : Tokens)
        (read : TokensRead (sight.tokens.insert slotId token) rest tokens) :
        storedAs tokens (slotId :: rest) = (slotId, StoredToken.from token) :: storedAs tokens rest := by
      simp [storedAs, read.lookup (Finmap.lookup_insert _)]
    constructor
    · intro ends tokens read
      rcases read with ⟨token, known, later⟩
      rw [written token tokens later]
      exact ends token known tokens later
    · intro ends token known tokens later
      have done := ends tokens ⟨token, known, later⟩
      rwa [written token tokens later] at done

theorem conforms_persist (saves : Saves may) {post : Sight → Except E Unit → Prop} :
    Conforms (contract h may) post sight persistIfNeeded ↔
      ∀ after, sight.Written sight.slots after → post { sight with toStores := after } (.ok ()) := by
  have saved (sight : Sight) (tokens : List (SlotId × StoredToken))
      (current : tokens = storedAs sight.tokens (slotIds sight.slots)) :
      Conforms (contract h may) post sight (saveState tokens) ↔
        post { sight with saved := some ⟨sight.objects, sight.tokens⟩ } (.ok ()) := by
    refine (conforms_perform_bind _ _).trans ?_
    simp only [contract_may, Follows, saves.readNextHandle, true_and]
    constructor
    · intro ends
      exact (ends (0 : ObjectHandle) trivial).2 () trivial
    · intro ends nextHandle _
      exact ⟨⟨current, saves.saveState _ _ _⟩, fun _ _ => ends⟩
  simp only [persistIfNeeded, conforms_bind, conforms_registry, saves.registry, true_and,
    conforms_readTokens saves]
  constructor
  · intro ends after written
    rcases written with ⟨tokens, read, rfl⟩
    exact (saved { sight with tokens := tokens } _ rfl).mp (ends tokens read)
  · intro ends tokens read
    exact (saved { sight with tokens := tokens } _ rfl).mpr (ends _ ⟨tokens, read, rfl⟩)

theorem conforms_store (saves : Saves may) (object : KeyObject) (session : SessionHandle)
    {post : Sight → Except E Unit → Prop} :
    Conforms (contract h may) post sight (storeObject object session) ↔
      may sight (.insertObject (storedCopy session object)) ∧
        ∀ after, sight.Filed session sight.slots object after →
          post { sight with toStores := after } (.ok ()) := by
  rw [storeObject]
  cases token : object.isTokenObject with
  | true =>
    simp only [if_true, conforms_bind, conforms_insertObject, contract_may, contract_gives,
      contract_next, Follows, true_and, conforms_persist saves, storedCopy, token, Stores.Filed]
    refine and_congr_right fun _ => ?_
    constructor
    · intro ends after written
      exact ends trivial after written
    · intro ends _ after written
      exact ends after written
  | false =>
    simp only [Bool.false_eq_true, if_false, conforms_insertObject, contract_may, contract_gives,
      contract_next, Follows, true_and, storedCopy, token, Stores.Filed]
    refine and_congr_right fun _ => ?_
    constructor
    · intro ends after filed
      subst filed
      exact ends trivial
    · intro ends _
      exact ends _ rfl

end Conforms

end Sight

end ScoreCrypto.Cryptoki
