import ScoreCrypto.Cryptoki.AuditFlags

/-!
A record of the objects' past, kept beside the library: from when the object under a handle has been
there, what it was copied from, and which objects have spoken against a flag. With it, what the audit
flags report can be compared with what was.
-/

namespace ScoreCrypto.Cryptoki

open Fallible SessionCall ObjectStore

/-! ### The record -/

/-- An object, by its handle and the time from which it has been there. -/
abbrev Identity := ObjectHandle × Nat

structure Audited where
  state : State
  time : Nat
  since : ObjectHandle → Nat
  source : ObjectHandle → Option Identity
  belied : AuditFlag → Identity → Bool

namespace Audited

def start (disk : Option StoredState) : Audited where
  state := State.loaded disk
  time := 1
  since _ := 0
  source _ := none
  belied _ _ := false

def identity (audited : Audited) (handle : ObjectHandle) : Identity := (handle, audited.since handle)

def moved (audited : Audited) (after : State) (copied : ObjectHandle → Option ObjectHandle)
    (new : ObjectHandle → Bool) : Audited :=
  let since (handle : ObjectHandle) : Nat := if new handle then audited.time else audited.since handle
  { state := after
    time := audited.time + 1
    since
    source := fun handle =>
      if new handle then (copied handle).map audited.identity else audited.source handle
    belied := fun flag identity => audited.belied flag identity ||
      since identity.1 = identity.2 && (after.objects.get identity.1).any flag.belied }

end Audited

/-- The handles under which there is another object than before: those created in a session, and
what is different after a call outside of sessions. -/
def Call.renews (call : Call) (before after : State) (reply : Reply) (handle : ObjectHandle) : Bool :=
  match call with
  | .inSession _ _ => handle ∈ call.births reply
  | _ => before.objects.get handle ≠ after.objects.get handle

def audit (world : World) (audited : Audited) (call : Call) : Audited :=
  let after := step world audited.state call
  audited.moved after (fun _ => call.copied)
    (call.renews audited.state after (call.reply world audited.state))

/-- What is reported is true of the object's past and of the past of the one it was copied from. -/
def Audited.Truthful (world : World) (audited : Audited) : Prop :=
  ∀ handle flag, audited.state.Reports world handle (AuditFlag.reported flag) →
    audited.belied flag (audited.identity handle) = false ∧
      ∀ source, audited.source handle = some source → audited.belied flag source = false

/-! ### The flags along a run -/

namespace Audited

def Copied (audited : Audited) (flag : AuditFlag) (handle : ObjectHandle) : Prop :=
  ∃ copy object, audited.state.objects.get copy = some object ∧ flag.raised object = true ∧
    audited.source copy = some (audited.identity handle)

/-- The calls that keep the flags honest. C_SetAttributeValue and C_CopyObject are plain about the
attribute that a raised flag watches; where no copy shows the flag, CKA_NEVER_EXTRACTABLE follows by
itself. A key is derived from one with a flag only with attributes that agree with the flag. -/
def Honest (audited : Audited) : Call → Prop
  | .inSession _ (.setAttributeValue hObject template) =>
    ∀ object, audited.state.objects.get hObject = some object → ∀ flag : AuditFlag,
      flag.raised object = true → flag = .alwaysSensitive ∨ audited.Copied flag hObject →
        flag.Spares (object.attributes.lookup flag.watched) template.list
  | .inSession _ (.copyObject hObject template _) =>
    ∀ source, audited.state.objects.get hObject = some source → ∀ flag : AuditFlag,
      flag.raised source = true → ∀ value, template.collect.lookup flag.watched = some value →
        PlainWrite flag.watched (source.attributes.lookup flag.watched) value
  | .inSession _ (.deriveKey _ hBaseKey template _) =>
    ∀ base, audited.state.objects.get hBaseKey = some base → ∀ flag : AuditFlag,
      flag.raised base = true → flag.denies (template.collect.lookup flag.watched) = false
  | _ => True

/-- A call that is not refused: it creates an object, or changes what is stored. -/
def Acts (world : World) (audited : Audited) (call : Call) : Prop :=
  call.births (call.reply world audited.state) ≠ [] ∨
    (step world audited.state call).objects ≠ audited.state.objects

structure Sound (audited : Audited) : Prop where
  since : ∀ handle, audited.since handle < audited.time
  past : ∀ flag identity, audited.belied flag identity = true → identity.2 < audited.time
  earlier : ∀ handle source, audited.source handle = some source → source.2 < audited.time
  agrees : ∀ handle object flag, audited.state.objects.get handle = some object →
    AuditFlag.raised flag object = true → flag.belied object = false
  own : ∀ handle object flag, audited.state.objects.get handle = some object →
    AuditFlag.raised flag object = true → audited.belied flag (audited.identity handle) = false
  source : ∀ handle object flag, audited.state.objects.get handle = some object →
    AuditFlag.raised flag object = true → ∀ source, audited.source handle = some source →
      audited.belied flag source = false
  shown : ∀ handle object flag, audited.state.objects.get handle = some object →
    AuditFlag.raised flag object = true → ∀ other, audited.source handle = some (audited.identity other) →
      ∀ parent, audited.state.objects.get other = some parent → flag.raised parent = true

theorem sound_start (disk : Option StoredState) : (start disk).Sound where
  since _ := Nat.one_pos
  past _ _ seen := by cases seen
  earlier _ _ copied := by cases copied
  agrees _ _ _ stored := by cases stored
  own _ _ _ stored := by cases stored
  source _ _ _ stored := by cases stored
  shown _ _ _ stored := by cases stored

section Moved

variable {audited : Audited} {after : State} {copied : ObjectHandle → Option ObjectHandle}
  {new : ObjectHandle → Bool}

theorem since_moved (handle : ObjectHandle) : (audited.moved after copied new).since handle =
    if new handle then audited.time else audited.since handle := rfl

theorem source_moved (handle : ObjectHandle) : (audited.moved after copied new).source handle =
    if new handle then (copied handle).map audited.identity else audited.source handle := rfl

theorem Sound.since_moved_lt (sound : audited.Sound) (handle : ObjectHandle) :
    (audited.moved after copied new).since handle < audited.time + 1 := by
  rw [since_moved]
  split
  · exact Nat.lt_succ_self _
  · exact Nat.lt_succ_of_lt (sound.since handle)

theorem belied_moved {flag : AuditFlag} {identity : Identity} :
    (audited.moved after copied new).belied flag identity = true ↔
      audited.belied flag identity = true ∨
        (audited.moved after copied new).since identity.1 = identity.2 ∧
          ∃ object, after.objects.get identity.1 = some object ∧ flag.belied object = true := by
  simp [moved, Option.any_eq_true]

theorem not_belied_moved {flag : AuditFlag} {identity : Identity} (before : identity.2 < audited.time)
    (spared : audited.belied flag identity = false)
    (still : ∀ object, after.objects.get identity.1 = some object → new identity.1 = false →
      audited.identity identity.1 = identity → flag.belied object = false) :
    (audited.moved after copied new).belied flag identity = false := by
  refine Bool.eq_false_iff.mpr fun seen => ?_
  rcases belied_moved.mp seen with earlier | ⟨time, object, stored, speaks⟩
  · rw [spared] at earlier
    cases earlier
  · rw [since_moved] at time
    split at time
    · exact absurd time before.ne'
    · have same : audited.identity identity.1 = identity := Prod.ext rfl time
      rw [still object stored (Bool.not_eq_true _ ▸ ‹_›) same] at speaks
      cases speaks

theorem Sound.moved (sound : audited.Sound)
    (newborn : ∀ handle object flag, after.objects.get handle = some object → new handle = true →
      AuditFlag.raised flag object = true → flag.belied object = false ∧
        ∀ other, copied handle = some other → ∃ parent,
          audited.state.objects.get other = some parent ∧ flag.raised parent = true)
    (old : ∀ handle object flag, after.objects.get handle = some object → new handle = false →
      AuditFlag.raised flag object = true → ∃ before,
        audited.state.objects.get handle = some before ∧ flag.raised before = true ∧
          flag.belied object = false)
    (parents : ∀ handle object flag, after.objects.get handle = some object → new handle = false →
      audited.Copied flag handle ∨ (∃ copy, new copy = true ∧ copied copy = some handle) →
      ∃ before, audited.state.objects.get handle = some before ∧ (AuditFlag.raised flag before = true →
        flag.raised object = true ∧ flag.belied object = false)) :
    (audited.moved after copied new).Sound := by
  have agrees (handle object flag) (stored : after.objects.get handle = some object)
      (raised : AuditFlag.raised flag object = true) : flag.belied object = false := by
    cases isNew : new handle with
    | true => exact (newborn handle object flag stored isNew raised).1
    | false => exact (old handle object flag stored isNew raised).choose_spec.2.2
  -- what an object was copied from shows the flag before the call
  have parent {handle object flag source} (stored : after.objects.get handle = some object)
      (raised : AuditFlag.raised flag object = true)
      (from_ : (audited.moved after copied new).source handle = some source) :
      source.2 < audited.time ∧ audited.belied flag source = false ∧
        ∀ now, after.objects.get source.1 = some now → new source.1 = false →
          audited.identity source.1 = source → flag.raised now = true ∧ flag.belied now = false := by
    rw [source_moved] at from_
    cases isNew : new handle with
    | true =>
      rw [isNew, if_pos rfl] at from_
      rcases Option.map_eq_some_iff.mp from_ with ⟨other, copies, rfl⟩
      rcases (newborn handle object flag stored isNew raised).2 other copies with
        ⟨parent, found, shows⟩
      refine ⟨sound.since other, sound.own other parent flag found shows, fun now there isOld _ => ?_⟩
      rcases parents other now flag there isOld (.inr ⟨handle, isNew, copies⟩) with ⟨same, here, keeps⟩
      cases here.symm.trans found
      exact keeps shows
    | false =>
      rw [isNew, if_neg Bool.false_ne_true] at from_
      rcases old handle object flag stored isNew raised with ⟨before, found, shows, _⟩
      refine ⟨sound.earlier handle source from_, sound.source handle before flag found shows source from_,
        fun now there isOld same => ?_⟩
      rw [← same] at from_
      rcases parents source.1 now flag there isOld (.inl ⟨handle, before, found, shows, from_⟩) with
        ⟨parent, here, keeps⟩
      exact keeps (sound.shown handle before flag found shows source.1 from_ parent here)
  refine ⟨sound.since_moved_lt, ?_, ?_, agrees, ?_, ?_, ?_⟩
  · intro flag identity seen
    rcases belied_moved.mp seen with earlier | ⟨time, _⟩
    · exact Nat.lt_succ_of_lt (sound.past flag identity earlier)
    · exact time ▸ sound.since_moved_lt identity.1
  · intro handle source from_
    rw [source_moved] at from_
    split at from_
    · rcases Option.map_eq_some_iff.mp from_ with ⟨other, _, rfl⟩
      exact Nat.lt_succ_of_lt (sound.since other)
    · exact Nat.lt_succ_of_lt (sound.earlier handle source from_)
  · intro handle object flag stored raised
    refine Bool.eq_false_iff.mpr fun seen => ?_
    rcases belied_moved.mp seen with earlier | ⟨_, other, there, speaks⟩
    · have before := sound.past flag _ earlier
      rw [identity, since_moved] at earlier before
      cases isNew : new handle with
      | true => simp [isNew] at before
      | false =>
        rcases old handle object flag stored isNew raised with ⟨before, found, shows, _⟩
        rw [isNew] at earlier
        cases earlier.symm.trans (sound.own handle before flag found shows)
    · cases there.symm.trans stored
      rw [agrees handle object flag stored raised] at speaks
      cases speaks
  · intro handle object flag stored raised source from_
    rcases parent stored raised from_ with ⟨before, spared, now⟩
    exact not_belied_moved before spared fun object there isOld same => (now object there isOld same).2
  · intro handle object flag stored raised other from_ now there
    rcases parent stored raised from_ with ⟨before, _, shows⟩
    cases isNew : new other with
    | true => simp [identity, since_moved, isNew] at before
    | false => exact (shows now there isNew (by simp [identity, since_moved, isNew])).1

end Moved

end Audited

section Births

variable {flag : AuditFlag} {audited : Audited} {h : SessionHandle} {session : Session} {call : SessionCall}

theorem Birth.agrees (sound : audited.Sound) {object : KeyObject}
    (born : Birth session (.of h audited.state) call object)
    (honest : audited.Honest (.inSession h call)) (raised : flag.raised object = true) :
    flag.belied object = false ∧ ∀ other, (Call.inSession h call).copied = some other →
      ∃ parent, audited.state.objects.get other = some parent ∧ flag.raised parent = true := by
  cases born with
  | @generateKey mech template seed idSeed generated made =>
    refine ⟨?_, fun other copies => by cases copies⟩
    rw [(madeOf_generated made _ _ _ _).belied_eq flag]
    refine denies_of_starts ?_
    cases flag <;> exact raised
  | createObject => cases flag <;> cases raised
  | @copyObject hObject template source attrs order found own once each applied =>
    rw [raised_copyOf] at raised
    refine ⟨?_, fun other copies => ?_⟩
    · have before := sound.agrees hObject source flag found raised
      rw [(madeOf_copy _ _ _ _ _).belied_eq flag, lookup_applyOverrides each applied]
      cases asked : template.collect.lookup flag.watched with
      | none => exact before
      | some value =>
        have member : flag.watched ∈ order := by
          rw [each, Finmap.mem_keys, Finmap.mem_iff]
          exact ⟨value, asked⟩
        exact AuditFlag.denies_of_plain before (honest source found flag raised value asked)
          (validated_of_applyOverrides once applied member asked)
    · cases copies
      exact ⟨source, found, raised⟩
  | unwrapKey => cases flag <;> cases raised
  | @deriveKey mech hBaseKey template base derivedBytes uniqueId okmLen found authorized =>
    have shown : flag.raised base = true := by cases flag <;> exact raised
    refine ⟨?_, fun other copies => by cases copies⟩
    rw [(madeOf_derived _ _ _ _ _ _ _ _).belied_eq flag]
    exact honest base found flag shown

end Births

/-! ### One call -/

section Steps

variable {audited : Audited} {after : State} {births : List ObjectHandle}

theorem Audited.Sound.created (sound : audited.Sound) {copied : Option ObjectHandle}
    (kept : ∀ handle object, handle ∉ births → after.objects.get handle = some object →
      audited.state.objects.get handle = some object)
    (newborn : ∀ handle object flag, after.objects.get handle = some object → handle ∈ births →
      AuditFlag.raised flag object = true → flag.belied object = false ∧
        ∀ other, copied = some other → ∃ parent,
          audited.state.objects.get other = some parent ∧ flag.raised parent = true) :
    (audited.moved after (fun _ => copied) fun handle => decide (handle ∈ births)).Sound := by
  refine sound.moved (fun handle object flag stored isNew => ?_) (fun handle object flag stored isOld => ?_)
    fun handle object flag stored isOld _ => ?_
  · exact newborn handle object flag stored (of_decide_eq_true isNew)
  · have same := kept handle object (of_decide_eq_false isOld) stored
    exact fun raised => ⟨object, same, raised, sound.agrees handle object flag same raised⟩
  · have same := kept handle object (of_decide_eq_false isOld) stored
    exact ⟨object, same, fun raised => ⟨raised, sound.agrees handle object flag same raised⟩⟩

theorem Audited.Sound.changed (sound : audited.Sound) {h : SessionHandle} {hObject : ObjectHandle}
    {template : Template} (honest : audited.Honest (.inSession h (.setAttributeValue hObject template)))
    {object : KeyObject} (found : audited.state.objects.get hObject = some object)
    (objects : after.objects = audited.state.objects.insert (writeAttributes object template.list).2)
    {copied : ObjectHandle → Option ObjectHandle} :
    (audited.moved after copied fun handle => decide (handle ∈ ([] : List ObjectHandle))).Sound := by
  have handle_eq : (writeAttributes object template.list).2.handle = hObject := by
    rw [writeAttributes_handle, audited.state.objects.handle_of_get found]
  -- the object itself, under both of the flags
  have written (flag : AuditFlag) (raised : flag.raised (writeAttributes object template.list).2 = true) :
      flag.raised object = true ∧ flag.belied (writeAttributes object template.list).2 = false := by
    have before := AuditFlag.raised_writeAttributes object template.list raised
    refine ⟨before, ?_⟩
    cases flag with
    | neverExtractable =>
      exact AuditFlag.unextractable_writeAttributes object template.list
        (sound.agrees hObject object _ found) raised
    | alwaysSensitive =>
      exact (AuditFlag.spared_writeAttributes object template.list before
        (sound.agrees hObject object _ found before)
        (honest object found .alwaysSensitive before (.inl rfl))).2
  have cases_ {handle : ObjectHandle} {now : KeyObject} (stored : after.objects.get handle = some now) :
      (handle = hObject ∧ now = (writeAttributes object template.list).2) ∨
        audited.state.objects.get handle = some now := by
    rw [objects, get_insert, handle_eq] at stored
    split at stored
    · exact .inl ⟨‹_›, (Option.some.inj stored).symm⟩
    · exact .inr stored
  refine sound.moved (fun handle now flag stored isNew => by cases isNew)
    (fun handle now flag stored _ raised => ?_) fun handle now flag stored _ copies => ?_
  · rcases cases_ stored with ⟨rfl, rfl⟩ | same
    · exact ⟨object, found, written flag raised⟩
    · exact ⟨now, same, raised, sound.agrees handle now flag same raised⟩
  · have copies : audited.Copied flag handle := copies.resolve_right fun fresh => by
      rcases fresh with ⟨copy, isNew, _⟩
      cases isNew
    rcases cases_ stored with ⟨rfl, rfl⟩ | same
    · exact ⟨object, found, fun before => AuditFlag.spared_writeAttributes object template.list before
        (sound.agrees handle object flag found before)
        (honest object found flag before (.inr copies))⟩
    · exact ⟨now, same, fun raised => ⟨raised, sound.agrees handle now flag same raised⟩⟩

theorem Audited.Sound.outside (sound : audited.Sound)
    (kept : ∀ handle object, after.objects.get handle = some object →
      audited.state.objects.get handle = some object ∨ ∀ flag, AuditFlag.raised flag object = false) :
    (audited.moved after (fun _ => none) fun handle =>
      decide (audited.state.objects.get handle ≠ after.objects.get handle)).Sound := by
  refine sound.moved (fun handle object flag stored isNew raised => ?_)
    (fun handle object flag stored isOld raised => ?_) fun handle object flag stored isOld _ => ?_
  · rcases kept handle object stored with same | lowered
    · rw [same, stored] at isNew
      exact absurd rfl (of_decide_eq_true isNew)
    · rw [lowered flag] at raised
      cases raised
  · have same := not_not.mp (of_decide_eq_false isOld)
    rw [stored] at same
    exact ⟨object, same, raised, sound.agrees handle object flag same raised⟩
  · have same := not_not.mp (of_decide_eq_false isOld)
    rw [stored] at same
    exact ⟨object, same, fun raised => ⟨raised, sound.agrees handle object flag same raised⟩⟩

end Steps

theorem sound_audit (world : World) {audited : Audited} (call : Call) (sound : audited.Sound)
    (honest : audited.Acts world call → audited.Honest call) : (audit world audited call).Sound := by
  have yield := (turn_exec world audited.state call).yield
  change Yield _ _ (call.births (call.reply world audited.state)) _ at yield
  generalize stored : (step world audited.state call).objects = store at yield
  generalize reported : call.births (call.reply world audited.state) = births at yield
  -- the new handles of a call in a session are those that it reports
  have inside {h : SessionHandle} {inner : SessionCall} (same : call = .inSession h inner) :
      audit world audited call = audited.moved (step world audited.state call) (fun _ => call.copied)
        fun handle => decide (handle ∈ births) := by
    subst same
    rw [← reported]
    rfl
  cases yield with
  | @created h session inner object born =>
    rw [inside rfl]
    have handle_eq : (storedCopy h object).handle = audited.state.nextHandle := by
      rw [storedCopy_handle, born.handle_eq]
      rfl
    refine sound.created (fun handle object other there => ?_)
      fun handle object flag there member raised => ?_
    · rwa [stored, get_insert, handle_eq, if_neg (by simpa using other)] at there
    · rw [stored, get_insert, handle_eq, if_pos (List.mem_singleton.mp member)] at there
      cases there
      rw [raised_storedCopy] at raised
      rw [belied_storedCopy]
      exact born.agrees sound (honest (.inl (by simp [reported]))) raised
  | @paired h session inner pub priv born =>
    rw [inside rfl]
    have pub_eq : (storedCopy h pub).handle = audited.state.nextHandle := by
      rw [storedCopy_handle, born.handle_eq.1]
      rfl
    have priv_eq : (storedCopy h priv).handle = audited.state.nextHandle + 1 := by
      rw [storedCopy_handle, born.handle_eq.2]
      rfl
    refine sound.created (fun handle object other there => ?_)
      fun handle object flag there member raised => ?_
    · simp only [List.mem_cons, List.not_mem_nil, or_false, not_or] at other
      rwa [stored, get_insert, priv_eq, if_neg other.2, get_insert, pub_eq, if_neg other.1] at there
    · rcases born.agrees h flag with ⟨lowered, agrees, alone⟩
      rw [stored, get_insert, priv_eq] at there
      split at there
      · cases there
        rw [raised_storedCopy] at raised
        rw [belied_storedCopy, alone]
        exact ⟨agrees raised, fun other copies => by cases copies⟩
      · have first : handle = audited.state.nextHandle := by
          rcases List.mem_cons.mp member with first | second
          · exact first
          · exact absurd (List.mem_singleton.mp second) ‹_›
        rw [get_insert, pub_eq, if_pos first] at there
        cases there
        rw [raised_storedCopy, lowered] at raised
        cases raised
  | @changed h hObject template object found =>
    rw [inside rfl]
    by_cases same : (step world audited.state (.inSession h (.setAttributeValue hObject template))).objects =
        audited.state.objects
    · exact sound.created (fun handle object _ there => same ▸ there) fun _ _ _ _ member => by cases member
    · exact sound.changed (honest (.inr same)) found stored
  | fewer kept =>
    rw [inside rfl]
    exact sound.created (fun handle object _ there => kept handle object (stored ▸ there))
      fun _ _ _ _ member => by cases member
  | outside notIn kept =>
    cases call with
    | inSession h inner => exact absurd rfl (notIn h inner)
    | _ => exact sound.outside fun handle object there => kept handle object (stored ▸ there)

/-- In every run of honest calls, the audit flags that are reported are true. -/
theorem truthful_run (world : World) (disk : Option StoredState) (calls : List Call)
    (honest : Run.Meets (audit world)
      (fun audited call => audited.Acts world call → audited.Honest call) (.start disk) calls) :
    (Run.run (audit world) (.start disk) calls).Truthful world := by
  have sound : (Run.run (audit world) (.start disk) calls).Sound :=
    Run.run_invariant_of_meets Audited.Sound
      (fun _ call sound honest => sound_audit world call sound honest) _ calls
    (Audited.sound_start disk) honest
  intro handle flag reports
  rcases raised_of_reports reports with ⟨object, stored, raised⟩
  exact ⟨sound.own handle object flag stored raised, sound.source handle object flag stored raised⟩

def generateCopyChange : List Call :=
  [.initializeLibrary none, .openSession 0 6 true,
    .inSession 1 (.generateKey (some ⟨ckmAesKeyGen, none⟩) (.entries []) true),
    .inSession 1 (.copyObject 2 (.entries []) true),
    .inSession 1 (.setAttributeValue 2 (.entries [⟨ckaSensitive, .bytes [ckTrue]⟩]))]

theorem truthful_generateCopyChange :
    (Run.run (audit plainWorld) (.start none) generateCopyChange).Truthful plainWorld := by
  refine truthful_run plainWorld none generateCopyChange
    ⟨fun _ => trivial, fun _ => trivial, fun _ => trivial, fun _ => ?_, fun _ => ?_, trivial⟩
  · intro source _ flag _ value asked
    cases asked
  · intro object _ flag _ _
    cases flag with
    | neverExtractable => exact trivial
    | alwaysSensitive =>
      exact fun _ => ⟨⟨fun _ _ => .inl rfl, fun other => absurd other (by decide)⟩, trivial⟩

def derivingWorld : World :=
  { plainWorld with
    openSslEngine := { plainEngine with hkdfDerive := fun _ key _ _ _ => .ok key } }

def generateDerive : List Call :=
  [.initializeLibrary none, .openSession 0 6 true,
    .inSession 1 (.generateKey (some ⟨ckmAesKeyGen, none⟩)
      (.entries [⟨ckaDerive, .bytes [ckTrue]⟩]) true),
    .inSession 1 (.deriveKey
      (some ⟨ckmHkdfDerive, some ⟨[], ⟨none, none, 0⟩, ⟨ckmSha256, none, none⟩⟩⟩) 2
      (.entries [⟨ckaExtractable, .bytes [ckTrue]⟩]) true)]

/-- The derived key is extractable and reports CKA_NEVER_EXTRACTABLE. -/
theorem derived_key_never_extractable :
    ¬(Run.run (audit derivingWorld) (.start none) generateDerive).Truthful derivingWorld := by
  intro truthful
  have reports : (Run.run (audit derivingWorld) (.start none) generateDerive).state.Reports derivingWorld 3
      ckaNeverExtractable :=
    ⟨1, [⟨ckaNeverExtractable, some 1⟩], [⟨1, some [ckTrue]⟩], by decide +kernel, _,
      List.mem_singleton_self _, rfl, rfl⟩
  have seen : (Run.run (audit derivingWorld) (.start none) generateDerive).belied .neverExtractable
      ((Run.run (audit derivingWorld) (.start none) generateDerive).identity 3) = true := by decide +kernel
  rw [(truthful 3 .neverExtractable reports).1] at seen
  cases seen

end ScoreCrypto.Cryptoki
