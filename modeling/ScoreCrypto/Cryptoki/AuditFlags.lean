import ScoreCrypto.Cryptoki.Origins

/-!
The audit flags CKA_NEVER_EXTRACTABLE and CKA_ALWAYS_SENSITIVE, with which an object tells of its past:
how they are reported, what writing attributes makes of them, and what created objects start with.
-/

namespace ScoreCrypto.Cryptoki

open Fallible SessionCall ObjectStore

inductive AuditFlag where
  | neverExtractable
  | alwaysSensitive
  deriving DecidableEq, Repr

namespace AuditFlag

def reported : AuditFlag → AttributeType
  | neverExtractable => ckaNeverExtractable
  | alwaysSensitive => ckaAlwaysSensitive

def watched : AuditFlag → AttributeType
  | neverExtractable => ckaExtractable
  | alwaysSensitive => ckaSensitive

def raised (flag : AuditFlag) (object : KeyObject) : Bool :=
  match flag with
  | neverExtractable => object.neverExtractable
  | alwaysSensitive => object.alwaysSensitive

/-- The watched attribute speaks against the flag: CKA_EXTRACTABLE is true, or CKA_SENSITIVE is not. -/
def denies (flag : AuditFlag) (value : Option Bytes) : Bool :=
  match flag with
  | neverExtractable => reads ckTrue value
  | alwaysSensitive => !reads ckTrue value

def belied (flag : AuditFlag) (object : KeyObject) : Bool :=
  flag.denies (object.attributes.lookup flag.watched)

end AuditFlag

/-! ### What is reported -/

/-- An answer of C_GetAttributeValue says that the attribute of the object is true. -/
def State.Reports (world : World) (s : State) (handle : ObjectHandle) (type : AttributeType) : Prop :=
  ∃ h queries answers,
    ((Call.inSession h (.getAttributeValue handle (some queries))).reply world s).output =
        .answers answers ∧
      ∃ pair ∈ queries.zip answers, pair.1.type = type ∧ pair.2.bytes = some [ckTrue]

theorem bytes_of_answerQueries {engine : Option CryptoProvider} {object : KeyObject} {marks : Marks}
    {queries : List Query} {pair : Query × Answer} {value : Bytes}
    (member : pair ∈ queries.zip (answerQueries engine object marks queries).1)
    (answered : pair.2.bytes = some value) : readAttribute engine object pair.1.type = .value value := by
  induction queries generalizing marks with
  | nil => cases member
  | cons query rest ih =>
    rw [answerQueries] at member
    cases read : readAttribute engine object query.type with
    | failed error =>
      rw [read] at member
      cases member
    | sensitive | unavailable =>
      simp only [read, List.zip_cons_cons, List.mem_cons] at member
      rcases member with rfl | later
      · cases answered
      · exact ih later
    | value bytes =>
      simp only [read, List.zip_cons_cons, List.mem_cons] at member
      rcases member with rfl | later
      · have same : bytes = value := by
          simp only [fillValue] at answered
          split at answered
          · cases answered
          · split at answered
            · cases answered
            · exact Option.some.inj answered
        rw [read, same]
      · exact ih later

theorem raised_of_reports {world : World} {s : State} {handle : ObjectHandle} {flag : AuditFlag}
    (reports : s.Reports world handle flag.reported) :
    ∃ object, s.objects.get handle = some object ∧ flag.raised object = true := by
  rcases reports with ⟨h, queries, answers, output, pair, member, type, told⟩
  have spec := exec_view world (getAttributeValue_view h handle queries s.objects)
  rw [Call.reply] at output
  cases result : ((Call.inSession h (.getAttributeValue handle (some queries))).exec world s).1 with
  | error rv =>
    rw [result] at output
    cases output
  | ok reply =>
    rw [result] at output
    rcases spec reply result with ⟨object, engine, found, answered⟩
    cases answered.symm.trans output
    have read := bytes_of_answerQueries member told
    have reported : readAttribute engine object flag.reported =
        .value [if flag.raised object then ckTrue else ckFalse] := by cases flag <;> rfl
    rw [type, reported] at read
    refine ⟨object, found, ?_⟩
    by_contra lowered
    rw [if_neg lowered] at read
    cases read

/-! ### Writing attributes -/

namespace AuditFlag

variable {flag : AuditFlag}

theorem denies_of_plain {old : Option Bytes} {new : Bytes} (before : flag.denies old = false)
    (plain : PlainWrite flag.watched old new)
    (allowed : validateAttributeChange flag.watched old new = .ok ()) :
    flag.denies (some new) = false := by
  cases flag with
  | neverExtractable =>
    have refused := (validate_extractable _ _).mp allowed
    have notTrue : reads ckTrue old ≠ true := by
      rw [show reads ckTrue old = false from before]
      decide
    refine Bool.eq_false_iff.mpr fun isTrue => ?_
    rcases plain.extractable rfl isTrue with empty | wasFalse | wasTrue
    · exact refused ⟨.inl empty, isTrue⟩
    · exact refused ⟨.inr wasFalse, isTrue⟩
    · exact notTrue wasTrue
  | alwaysSensitive =>
    have wasTrue : reads ckTrue old = true := by simpa [denies] using before
    have refused := (validate_sensitive _ _).mp allowed
    rcases plain.sensitive rfl wasTrue with isTrue | isFalse
    · simp [denies, isTrue]
    · exact absurd ⟨wasTrue, isFalse⟩ refused

def Spares (flag : AuditFlag) : Option Bytes → List TemplateEntry → Prop
  | _, [] => True
  | old, entry :: rest =>
    match entry.value with
    | .null _ => flag.Spares old rest
    | .bytes value =>
      if entry.type = flag.watched then
        validateAttributeChange flag.watched old value = .ok () →
          PlainWrite flag.watched old value ∧ flag.Spares (some value) rest
      else flag.Spares old rest

theorem raised_withAttribute {object : KeyObject} {type : AttributeType} {value : Bytes}
    (after : flag.raised (object.withAttribute type value) = true) : flag.raised object = true := by
  cases flag <;>
    · simp only [raised, KeyObject.withAttribute, updateDerivedAttributes] at after ⊢
      split_ifs at after <;> exact after

theorem raised_withAttribute_of_spared {object : KeyObject} {type : AttributeType} {value : Bytes}
    (before : flag.raised object = true)
    (spared : type = flag.watched → flag.denies (some value) = false) :
    flag.raised (object.withAttribute type value) = true := by
  have notFalse (isTrue : reads ckTrue (some value) = true) : reads ckFalse (some value) = false := by
    cases value with
    | nil => rfl
    | cons first rest =>
      have same : first = ckTrue := by simpa [reads] using isTrue
      rw [same]
      rfl
  cases flag with
  | neverExtractable =>
    simp only [raised, KeyObject.withAttribute, updateDerivedAttributes]
    split_ifs with sensitive lowered extractable isTrue
    · exact before
    · exact before
    · subst extractable
      rw [Finmap.lookup_insert] at isTrue
      cases isTrue.symm.trans (spared rfl)
    · exact before
    · exact before
  | alwaysSensitive =>
    simp only [raised, KeyObject.withAttribute, updateDerivedAttributes]
    split_ifs with sensitive lowered extractable isTrue
    · subst sensitive
      rw [Finmap.lookup_insert] at lowered
      have isTrue : reads ckTrue (some value) = true := by simpa [denies] using spared rfl
      cases lowered.symm.trans (notFalse isTrue)
    · exact before
    · exact before
    · exact before
    · exact before

theorem raised_writeAttributes (object : KeyObject) (template : List TemplateEntry)
    (after : flag.raised (writeAttributes object template).2 = true) : flag.raised object = true := by
  fun_induction writeAttributes object template with
  | case1 object => exact after
  | case2 object entry rest len null ih => exact ih after
  | case3 object entry rest value bytes error refused => exact after
  | case4 object entry rest value bytes allowed ih => exact raised_withAttribute (ih after)

theorem spared_writeAttributes (object : KeyObject) (template : List TemplateEntry)
    (before : flag.raised object = true) (kept : flag.belied object = false)
    (spares : flag.Spares (object.attributes.lookup flag.watched) template) :
    flag.raised (writeAttributes object template).2 = true ∧
      flag.belied (writeAttributes object template).2 = false := by
  fun_induction writeAttributes object template with
  | case1 object => exact ⟨before, kept⟩
  | case2 object entry rest len null ih =>
    simp only [Spares, null] at spares
    exact ih before kept spares
  | case3 object entry rest value bytes error refused => exact ⟨before, kept⟩
  | case4 object entry rest value bytes allowed ih =>
    simp only [Spares, bytes] at spares
    by_cases watches : entry.type = flag.watched
    · rw [if_pos watches] at spares
      rw [watches] at allowed
      rcases spares allowed with ⟨plain, spares⟩
      have still := denies_of_plain kept plain allowed
      refine ih (raised_withAttribute_of_spared before fun _ => still) ?_ ?_
      · rwa [belied, KeyObject.withAttribute_attributes, watches, Finmap.lookup_insert]
      · rw [KeyObject.withAttribute_attributes, watches, Finmap.lookup_insert]
        exact spares
    · rw [if_neg watches] at spares
      have same : (object.withAttribute entry.type value).attributes.lookup flag.watched =
          object.attributes.lookup flag.watched := by
        rw [KeyObject.withAttribute_attributes, Finmap.lookup_insert_of_ne _ (Ne.symm watches)]
      refine ih (raised_withAttribute_of_spared before fun type => absurd type watches) ?_ ?_
      · rwa [belied, same]
      · rwa [same]

/-- An object of its own keeps CKA_NEVER_EXTRACTABLE in step with CKA_EXTRACTABLE, whatever is written. -/
theorem unextractable_writeAttributes (object : KeyObject) (template : List TemplateEntry)
    (before : neverExtractable.raised object = true → neverExtractable.belied object = false) :
    neverExtractable.raised (writeAttributes object template).2 = true →
      neverExtractable.belied (writeAttributes object template).2 = false := by
  refine @writeAttributes_keeps (fun object => neverExtractable.raised object = true →
    neverExtractable.belied object = false) (fun object type value kept _ after => ?_) object template before
  rw [belied, KeyObject.withAttribute_attributes]
  by_cases watches : type = ckaExtractable
  · subst watches
    simp only [raised, KeyObject.withAttribute, updateDerivedAttributes] at after
    rw [if_neg (by decide), if_pos trivial] at after
    split_ifs at after with isTrue
    rw [Bool.not_eq_true] at isTrue
    exact isTrue
  · rw [watched, Finmap.lookup_insert_of_ne _ (Ne.symm watches)]
    exact kept (raised_withAttribute after)

end AuditFlag

/-! ### What a call leaves in the store -/

def Call.births (call : Call) (reply : Reply) : List ObjectHandle :=
  match call, reply.output with
  | .inSession _ (.generateKey _ _ _), .handle handle => [handle]
  | .inSession _ (.createObject _ _), .handle handle => [handle]
  | .inSession _ (.copyObject _ _ _), .handle handle => [handle]
  | .inSession _ (.unwrapKey _ _ _ _ _), .handle handle => [handle]
  | .inSession _ (.deriveKey _ _ _ _), .handle handle => [handle]
  | .inSession _ (.generateKeyPair _ _ _ _), .keyPair pub priv => [pub, priv]
  | _, _ => []

def Call.copied : Call → Option ObjectHandle
  | .inSession _ (.copyObject hObject _ _) => some hObject
  | _ => none

inductive Yield (s : State) : Call → List ObjectHandle → ObjectStore → Prop
  | created {h : SessionHandle} {session : Session} {call : SessionCall} {object : KeyObject}
      (born : Birth session (.of h s) call object) :
      Yield s (.inSession h call) [s.nextHandle] (s.objects.insert (storedCopy h object))
  | paired {h : SessionHandle} {session : Session} {call : SessionCall} {pub priv : KeyObject}
      (born : PairBirth session (.of h s) call pub priv) :
      Yield s (.inSession h call) [s.nextHandle, s.nextHandle + 1]
        ((s.objects.insert (storedCopy h pub)).insert (storedCopy h priv))
  | changed {h : SessionHandle} {hObject : ObjectHandle} {template : Template} {object : KeyObject}
      (found : s.objects.get hObject = some object) :
      Yield s (.inSession h (.setAttributeValue hObject template)) []
        (s.objects.insert (writeAttributes object template.list).2)
  | fewer {h : SessionHandle} {call : SessionCall} {after : ObjectStore}
      (kept : ∀ handle object, after.get handle = some object → s.objects.get handle = some object) :
      Yield s (.inSession h call) [] after
  | outside {call : Call} {after : ObjectStore} (outside : ∀ h inner, call ≠ .inSession h inner)
      (kept : ∀ handle object, after.get handle = some object →
        s.objects.get handle = some object ∨ ∀ flag, AuditFlag.raised flag object = false) :
      Yield s call [] after

section Yield

variable {world : World} {s : State}

theorem births_of_not_handle {call : Call} {reply : Reply} (plain : ∀ handle, reply.output ≠ .handle handle)
    (single : ∀ pub priv, reply.output ≠ .keyPair pub priv) : call.births reply = [] := by
  unfold Call.births
  split <;> first | rfl | exact absurd ‹_› (plain _) | exact absurd ‹_› (single _ _)

theorem births_of_error (call : Call) (rv : Rv) : call.births (Reply.ofResult (.error rv)) = [] :=
  births_of_not_handle (fun _ => by simp [Reply.ofResult]) (fun _ _ => by simp [Reply.ofResult])

theorem births_of_done (call : Call) : call.births (Reply.ofResult (.ok (.ok .none))) = [] :=
  births_of_not_handle (fun _ => by simp [Reply.ofResult, Reply.ok])
    (fun _ _ => by simp [Reply.ofResult, Reply.ok])

variable {call : SessionCall} {h : SessionHandle} {session : Session}

theorem births_of_unchanging (reply : Reply) (unchanging : call.changes = false) :
    (Call.inSession h call).births reply = [] := by
  cases call <;> first | rfl | cases unchanging

theorem yield_of_effect {stores : Stores} {result : Except Rv Reply}
    (effect : Effect h session (.of h s) call stores result) :
    Yield s (.inSession h call) ((Call.inSession h call).births (Reply.ofResult result))
      stores.objects := by
  cases effect with
  | kept fails =>
    have none : (Call.inSession h call).births (Reply.ofResult result) = [] := by
      cases changing : call.changes with
      | true =>
        rcases fails changing with ⟨rv, _, rfl⟩
        exact births_of_error _ rv
      | false => exact births_of_unchanging _ changing
    rw [none]
    exact .fewer fun _ _ stored => stored
  | created born writable filed =>
    have births : ∀ handle, (Call.inSession h call).births (Reply.ofResult (.ok (.ok (.handle handle)))) =
        [handle] := by cases born <;> exact fun _ => rfl
    rw [filed.objects_eq, births]
    exact .created born
  | paired born writable first second =>
    have births : ∀ pub priv, (Call.inSession h call).births
        (Reply.ofResult (.ok (.ok (.keyPair pub priv)))) = [pub, priv] := by
      cases born
      exact fun _ _ => rfl
    rw [second.objects_eq, first.objects_eq, births]
    exact .paired born
  | refused writable found refused => exact .changed found
  | @written hObject template before after writable found allowed written =>
    have objects : stores.objects = s.objects.insert (writeAttributes before template.list).2 :=
      Stores.objects_of_written written
    rw [objects]
    exact .changed found
  | @destroyed hObject before after found own visible writable written =>
    have objects : stores.objects = s.objects.erase hObject := Stores.objects_of_written written
    rw [objects]
    refine .fewer fun handle object stored => ?_
    rw [get_erase] at stored
    split at stored
    · cases stored
    · exact stored

theorem raised_baselineProfile (flag : AuditFlag) (number : ObjectHandle) (slotId : SlotId) :
    flag.raised (baselineProfile number slotId) = false := by
  cases flag <;> rfl

theorem raised_restored {slots : List CryptoProvider} {stored : List StoredObject} {object : KeyObject}
    (restored : object ∈ restoredObjects slots stored) (flag : AuditFlag) :
    flag.raised object = false := by
  rcases mem_restoredObjects_attributes restored with ⟨entry, _, keyRef, rfl⟩
  cases flag <;> rfl

theorem Turn.yield {call : Call} {result : Except Rv Reply} {s' : State}
    (turn : Turn world s call result s') : Yield s call (call.births (Reply.ofResult result)) s'.objects := by
  -- a call outside of sessions leaves what was there, or objects without flags
  have outside {result : Except Rv Reply} (turn : Turn world s call result s')
      (notIn : ∀ h inner, call ≠ .inSession h inner) :
      Yield s call (call.births (Reply.ofResult result)) s'.objects := by
    have none (reply : Reply) : call.births reply = [] := by
      cases call with
      | inSession h inner => exact absurd rfl (notIn h inner)
      | _ => rfl
    rw [none]
    refine .outside notIn fun handle object stored => ?_
    cases turn.origin stored with
    | kept earlier =>
      rw [s'.objects.handle_of_get stored] at earlier
      exact .inl earlier
    | created | pairPublic | pairPrivate | changed => exact absurd rfl (notIn _ _)
    | profile number slotId => exact .inr fun flag => raised_baselineProfile flag number slotId
    | loaded disk restored => exact .inr (raised_restored restored)
  have retained {h : SessionHandle} {inner : SessionCall} (keep : KeyObject → Bool) :
      Yield s (.inSession h inner) [] (s.objects.retain keep) := by
    refine .fewer fun handle object stored => ?_
    rw [get_retain, Option.filter_eq_some_iff] at stored
    exact stored.1
  have same {h : SessionHandle} {inner : SessionCall} : Yield s (.inSession h inner) [] s.objects :=
    .fewer fun _ _ stored => stored
  cases turn with
  | refused choices fails =>
    rw [births_of_error]
    cases call with
    | inSession h inner => exact same
    | _ => exact .outside (by simp) fun _ _ stored => .inl stored
  | ordinary ready opened ordinary effect behind here within framed =>
    rw [behind.objects]
    exact yield_of_effect effect
  | pinRefused =>
    rw [births_of_error]
    exact same
  | pinChanged =>
    rw [births_of_done, (saved_frame world _).2.2.2.2.1]
    exact same
  | loginRefused ready opened asks check | contextRefused ready opened asks check =>
    rw [births_of_error]
    cases check <;> exact same
  | loggedIn ready opened asks check burnt | contextLoggedIn ready opened asks check =>
    rw [births_of_done]
    cases check
    exact same
  | contextIdle ready opened asks check =>
    rw [births_of_error]
    cases check
    exact same
  | loggedOut | closed =>
    rw [births_of_done]
    exact retained _
  | closedAll ready valid => exact outside (.closedAll ready valid) (by simp)
  | opened choices ready valid writable => exact outside (.opened choices ready valid writable) (by simp)
  | registered assigned => exact outside (.registered assigned) (by simp)
  | tokenRefused seed choices ready valid closed found refused =>
    exact outside (.tokenRefused seed choices ready valid closed found refused) (by simp)
  | tokenInitialized seed choices ready valid closed found changed =>
    exact outside (.tokenInitialized seed choices ready valid closed found changed) (by simp)
  | started idle => exact outside (.started idle) (by simp)
  | finalized ready => exact outside (.finalized ready) (by simp)

end Yield

/-! ### The flags of what is created -/

section Births

variable {flag : AuditFlag}

theorem chosen_watched (flag : AuditFlag) : Chosen flag.watched ∧ flag.watched ≠ ckaToken := by
  cases flag with
  | neverExtractable => exact ⟨chosen_extractable, by decide⟩
  | alwaysSensitive => exact ⟨chosen_sensitive, by decide⟩

variable {attrs : Attributes}

theorem KeyObject.MadeOf.belied_eq {object : KeyObject} (made : object.MadeOf attrs)
    (flag : AuditFlag) : flag.belied object = flag.denies (attrs.lookup flag.watched) := by
  rw [AuditFlag.belied, made.lookup_eq (chosen_watched flag).1 (chosen_watched flag).2]

def AuditFlag.starts (flag : AuditFlag) (attrs : Attributes) : Bool :=
  match flag with
  | .neverExtractable => attrs.startsUnextractable
  | .alwaysSensitive => attrs.startsSensitive

theorem denies_of_starts (starts : flag.starts attrs.withSecurityDefaults = true) :
    flag.denies (attrs.withSecurityDefaults.lookup flag.watched) = false := by
  cases flag with
  | neverExtractable =>
    have present : attrs.withSecurityDefaults.lookup ckaExtractable =
        some ((Finmap.lookup ckaExtractable (attrs.orInsert ckaSensitive [ckTrue])).getD [ckFalse]) := by
      rw [Attributes.withSecurityDefaults, Attributes.lookup_orInsert, if_pos rfl]
    simp only [AuditFlag.starts, Attributes.startsUnextractable, present] at starts
    rw [AuditFlag.watched, present]
    generalize (Finmap.lookup ckaExtractable (attrs.orInsert ckaSensitive [ckTrue])).getD [ckFalse] =
      value at starts
    cases value with
    | nil => rfl
    | cons first rest =>
      have same : first = ckFalse := by simpa [reads] using starts
      rw [same]
      rfl
  | alwaysSensitive =>
    have present : attrs.withSecurityDefaults.lookup ckaSensitive =
        some ((Finmap.lookup ckaSensitive attrs).getD [ckTrue]) := by
      rw [Attributes.withSecurityDefaults, Attributes.lookup_orInsert_of_ne _ _ (by decide),
        Attributes.lookup_orInsert, if_pos rfl]
    simp only [AuditFlag.starts, Attributes.startsSensitive, present] at starts
    rw [AuditFlag.watched, present]
    simp [AuditFlag.denies, starts]

theorem validated_of_applyOverrides {overrides copied : Attributes} {order : List AttributeType}
    (once : order.Nodup) (applied : applyOverrides overrides attrs order = .ok copied)
    {type : AttributeType} (member : type ∈ order) {value : Bytes}
    (found : overrides.lookup type = some value) :
    validateAttributeChange type (attrs.lookup type) value = .ok () := by
  fun_induction applyOverrides overrides attrs order with
  | case1 attrs => cases member
  | case2 attrs first rest missing ih =>
    rcases List.mem_cons.mp member with rfl | later
    · rw [missing] at found
      cases found
    · exact ih once.tail applied later
  | case3 attrs first rest value found error refused => cases applied
  | case4 attrs first rest other there allowed ih =>
    rcases List.mem_cons.mp member with rfl | later
    · cases there.symm.trans found
      exact allowed
    · have differ : type ≠ first := fun same => (List.nodup_cons.mp once).1 (same ▸ later)
      have validated := ih once.tail applied later
      rwa [Finmap.lookup_insert_of_ne _ differ] at validated

theorem raised_copyOf (source : KeyObject) (handle : ObjectHandle) (slotId : SlotId)
    (attrs : Attributes) (overridden : List AttributeType) :
    flag.raised (copyOf source handle slotId attrs overridden) = flag.raised source := by
  cases flag <;> rfl

theorem raised_storedCopy (h : SessionHandle) (object : KeyObject) :
    flag.raised (storedCopy h object) = flag.raised object := by
  rw [storedCopy]
  split
  · rfl
  · cases flag <;> rfl

theorem belied_storedCopy (h : SessionHandle) (object : KeyObject) :
    flag.belied (storedCopy h object) = flag.belied object := by
  rw [AuditFlag.belied, storedCopy_attributes]
  rfl

variable {session : Session} {call : SessionCall}

theorem PairBirth.agrees {start : Sight} {pub priv : KeyObject}
    (born : PairBirth session start call pub priv) (h : SessionHandle) (flag : AuditFlag) :
    flag.raised pub = false ∧ (flag.raised priv = true → flag.belied priv = false) ∧
      (Call.inSession h call).copied = none := by
  cases born with
  | @generateKeyPair mech pubTemplate privTemplate seed generated pubGiven privGiven made =>
    refine ⟨by cases flag <;> rfl, fun raised => ?_, rfl⟩
    rw [(madeOf_pair made 0 _ _ _ _).2.belied_eq flag, Finmap.lookup_erase_ne (by cases flag <;> decide)]
    refine denies_of_starts ?_
    cases flag <;> exact raised

end Births

end ScoreCrypto.Cryptoki
