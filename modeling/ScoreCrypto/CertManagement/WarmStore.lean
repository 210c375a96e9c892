import ScoreCrypto.CertManagement.SoundStore
import ScoreCrypto.CertManagement.StoreBackend

/-!
A warm trust store against its slots: while every file operation succeeds, the cache shows of each
member what its state and its slot give, and the state file says what the memory does.
-/

namespace ScoreCrypto.CertManagement

open Storage Stateful

structure SlotContent.Readable (content : SlotContent) : Prop where
  certificate : ∀ e, content.certificate = .error e → TrustStore.isEmptySlotError e = true
  crl : ∃ data, content.crl.data = .ok data

namespace StoreAction

variable {registry : CertSlotRegistry} {readBack : SlotContent → CrlData → CrlData}
  {handler : TrustStoreHandler} {files : Files} {due : Due} {slot : SlotIndex}

abbrev PlainPost (α : Type) := α → TrustStoreHandler → Files × Due → Prop

abbrev Plain {α : Type} (registry : CertSlotRegistry) (readBack : SlotContent → CrlData → CrlData)
    (post : PlainPost α) (p : StoreProg α) (handler : TrustStoreHandler) (files : Files) : Prop :=
  Ensures (Plainly registry readBack) post p handler (files, .nothing)

theorem ensures_plainly {act : StoreAction} {post : PlainPost act.Res}
    (admits : due.Admits registry act) :
    Ensures (Plainly registry readBack) post (StoreProg.perform act) handler (files, due) ↔
      post (act.plain readBack files).1 handler ((act.plain readBack files).2, act.owes) := by
  refine ⟨fun all => all _ (_, _) fun _ => ⟨rfl, rfl⟩, ?_⟩
  rintro holds answer ⟨files', due'⟩ acts
  rcases acts admits with ⟨served, owed⟩
  dsimp only at served owed
  rwa [served, ← owed] at holds

namespace Plainly

@[simp] theorem ensures_hasHandler {post : PlainPost Bool} :
    Plain registry readBack post (StoreProg.perform (.hasHandler slot)) handler files ↔
      post true handler (files, .nothing) :=
  ensures_plainly trivial

section Certificates

variable {post : PlainPost (Expected CertObject)}

@[simp] theorem ensures_loadCertificate
    (known : ∃ config, registry.getConfig slot = .ok config) :
    Plain registry readBack post (StoreProg.perform (.loadCertificate slot)) handler files ↔
      post (files.content slot).certificate handler (files, .nothing) :=
  ensures_plainly known

@[simp] theorem ensures_readCertificate :
    Plain registry readBack post (StoreProg.perform (.readCertificate slot)) handler files ↔
      post (files.content slot).certificate handler (files, .nothing) :=
  ensures_plainly trivial

end Certificates

@[simp] theorem ensures_loadCrlData {post : PlainPost (Expected (Option CrlData))}
    (known : ∃ config, registry.getConfig slot = .ok config) :
    Plain registry readBack post (StoreProg.perform (.loadCrlData slot)) handler files ↔
      post (files.content slot).crl.data handler (files, .nothing) :=
  ensures_plainly known

@[simp] theorem ensures_readSlotState {post : PlainPost (Expected CertificateSlotState)} :
    Plain registry readBack post (StoreProg.perform (.readSlotState slot)) handler files ↔
      post (.ok (files.content slot).slotState) handler (files, .nothing) :=
  ensures_plainly trivial

section Writes

variable {post : PlainPost (Expected Unit)}

@[simp] theorem ensures_storeCertificate {certificate : CertObject} :
    Plain registry readBack post (StoreProg.perform (.storeCertificate slot certificate)) handler
        files ↔
      post (.ok ()) handler
        (files.put slot { certificate := .ok certificate, crl := .none }, .caches slot) :=
  ensures_plainly trivial

@[simp] theorem ensures_clearSlot :
    Plain registry readBack post (StoreProg.perform (.clearSlot slot)) handler files ↔
      post (.ok ()) handler (files.put slot
        { certificate := .error .resourceNotAllocated, crl := .none }, .caches slot) :=
  ensures_plainly trivial

@[simp] theorem ensures_storeCrl {crl : CrlData} :
    Plain registry readBack post (StoreProg.perform (.storeCrl slot crl)) handler files ↔
      post (.ok ()) handler (files.put slot { files.content slot with
        crl := .some (readBack (files.content slot) crl) }, .crl slot) :=
  ensures_plainly trivial

@[simp] theorem ensures_clearCrl :
    Plain registry readBack post (StoreProg.perform (.clearCrl slot)) handler files ↔
      post (.ok ()) handler
        (files.put slot { files.content slot with crl := .none }, .crl slot) :=
  ensures_plainly trivial

@[simp] theorem ensures_writeDescriptor {descriptor : DeploymentDescriptor} :
    Plain registry readBack post (StoreProg.perform (.writeDescriptor descriptor)) handler files ↔
      post (.ok ()) handler ({ files with file := some descriptor }, .nothing) :=
  ensures_plainly trivial

end Writes

section Invalidations

variable {post : PlainPost Unit}

@[simp] theorem ensures_invalidateSlotCaches :
    Plain registry readBack post (StoreProg.perform (.invalidateSlotCaches slot)) handler files ↔
      post () handler (files, .nothing) :=
  ensures_plainly trivial

@[simp] theorem ensures_invalidateSlotCaches_due :
    Ensures (Plainly registry readBack) post (StoreProg.perform (.invalidateSlotCaches slot)) handler
        (files, .caches slot) ↔
      post () handler (files, .nothing) :=
  ensures_plainly rfl

@[simp] theorem ensures_invalidateCrl_due :
    Ensures (Plainly registry readBack) post (StoreProg.perform (.invalidateCrl slot)) handler
        (files, .crl slot) ↔
      post () handler (files, .nothing) :=
  ensures_plainly rfl

end Invalidations

end Plainly

end StoreAction

namespace StoreSetup

variable {setup : StoreSetup} {member : TrustStoreMemberConfig} {slot : SlotIndex}

section Few

variable (few : setup.registry.registry.length < 2 ^ 32) (found : setup.slotOf member = .ok slot)

include few found

theorem isValidHandle_of_slotOf : setup.registry.isValidHandle slot = true := by
  have bound : slot < setup.registry.registry.length := by
    by_contra outside
    have named := slotName_of_slotOf found
    rw [List.getElem?_eq_none (Nat.le_of_not_lt outside)] at named
    cases named
  have index : slot ≠ 4294967295 := Nat.ne_of_lt (Nat.lt_of_lt_of_le bound (by omega))
  unfold CertSlotRegistry.isValidHandle
  rw [Nat.mod_eq_of_lt few]
  simp [index, bound]

theorem getConfig_of_slotOf : ∃ config, setup.registry.getConfig slot = .ok config := by
  have named := slotName_of_slotOf found
  unfold CertSlotRegistry.getConfig
  rw [if_pos (isValidHandle_of_slotOf few found)]
  cases configured : setup.registry.registry[slot]? with
  | none =>
    rw [configured] at named
    cases named
  | some config => exact ⟨config, rfl⟩

end Few

theorem findMember_of (distinct : setup.validateMembers = true)
    (listed : member ∈ setup.config.members) (found : setup.slotOf member = .ok slot) :
    setup.findMember slot = some member := by
  cases first : setup.findMember slot with
  | none => exact absurd (refersTo_iff.mpr found) (List.find?_eq_none.mp first member listed)
  | some other =>
    rcases findMember_some first with ⟨listed', found'⟩
    rw [validateFrom_unique distinct listed listed' found found']

end StoreSetup

namespace TrustStore

open StoreAction (Plain PlainPost)
open TrustStoreHandler StoreSetup

variable {setup : StoreSetup} {readBack : SlotContent → CrlData → CrlData}
  {handler handler' : TrustStoreHandler} {files files' : Files}
  {member : TrustStoreMemberConfig} {slot : SlotIndex} {state next : MemberState}
  {content : SlotContent}

/-! ### What a member contributes -/

def trusted (content : SlotContent) (certificate : CertObject) : MemberContent where
  anchor := some certificate
  crl := content.crl.data.toOption.getD none

def shown (state : MemberState) (content : SlotContent) : MemberContent :=
  if state.enabled then
    match content.certificate with
    | .ok certificate => trusted content certificate
    | .error _ => {}
  else {}

theorem shown_trusted {certificate : CertObject} (on : state.enabled = true)
    (held : content.certificate = .ok certificate) :
    shown state content = trusted content certificate := by
  simp [shown, on, held]

theorem shown_disabled (off : state.enabled = false) : shown state content = {} := by
  simp [shown, off]

theorem shown_vacant {e : DaemonErrorCode} (vacant : content.certificate = .error e) :
    shown state content = {} := by
  simp [shown, vacant]

/-- An enabled conditional member has the accepted certificate in its slot, if it has one. -/
def Acknowledged (member : TrustStoreMemberConfig) (state : MemberState) (content : SlotContent) :
    Prop :=
  member.kind = .conditionalExternal → state.enabled = true →
    ∀ certificate, content.certificate = .ok certificate →
      state.acceptedFingerprint = some certificate.fingerprint

theorem acknowledged_disabled (off : state.enabled = false) : Acknowledged member state content := by
  intro _ on
  cases off.symm.trans on

def settle (setup : StoreSetup) (member : TrustStoreMemberConfig) (state : MemberState)
    (content : SlotContent) : MemberState :=
  match content.certificate with
  | .error _ => state
  | .ok certificate =>
    if state.enabled = true ∧ member.kind = .conditionalExternal then
      ((conditionalGate setup state certificate).map Prod.fst).getD state
    else state

theorem settle_cases (setup : StoreSetup) (member : TrustStoreMemberConfig) (state : MemberState)
    (content : SlotContent) :
    settle setup member state content = state ∧ Acknowledged member state content ∨
      state.enabled = true ∧ ¬ Acknowledged member state content ∧
        (settle setup member state content = { state with enabled := false } ∨
          state.acceptedFingerprint = none ∧ ∃ certificate, content.certificate = .ok certificate ∧
            settle setup member state content =
              { state with acceptedFingerprint := some certificate.fingerprint }) := by
  unfold settle Acknowledged
  cases content.certificate with
  | error e => simp
  | ok certificate =>
    by_cases open_ : state.enabled = true ∧ member.kind = .conditionalExternal
    · rcases conditionalGate_cases setup state certificate with passes | first | stopped
      · simp [open_, passes]
      · simp [open_, first]
      · simp [open_, stopped]
    · simp only [if_neg open_]
      exact .inl ⟨trivial, fun external on => absurd ⟨on, external⟩ open_⟩

theorem settle_acknowledged : Acknowledged member (settle setup member state content) content := by
  rcases settle_cases setup member state content with ⟨same, already⟩ | ⟨-, -, off | first⟩
  · rwa [same]
  · rw [off]
    exact acknowledged_disabled rfl
  · rcases first with ⟨-, certificate, held, accepted⟩
    rw [accepted]
    intro _ _ other held'
    cases held.symm.trans held'
    rfl

theorem settle_of_acknowledged (acknowledged : Acknowledged member state content) :
    settle setup member state content = state := by
  rcases settle_cases setup member state content with ⟨same, -⟩ | ⟨-, open_, -⟩
  · exact same
  · exact absurd acknowledged open_

theorem settle_default (new : settle setup member state content = {}) : state = {} := by
  rcases settle_cases setup member state content with ⟨same, -⟩ | ⟨-, -, off | first⟩
  · exact same.symm.trans new
  · cases off.symm.trans new
  · rcases first with ⟨-, certificate, -, accepted⟩
    cases congrArg MemberState.acceptedFingerprint (accepted.symm.trans new)

theorem settle_unaccepted (nothing : (settle setup member state content).acceptedFingerprint = none) :
    state.acceptedFingerprint = none := by
  rcases settle_cases setup member state content with ⟨same, -⟩ | ⟨-, -, off | ⟨first, -⟩⟩
  · rwa [same] at nothing
  · rwa [off] at nothing
  · exact first

/-! ### Resolving a member -/

@[simp] theorem setState_touch : (handler.touch slot).setState slot next = handler.setState slot next := by
  simp [touch, setState, Finmap.insert_insert]

theorem ensures_resolveSlot_plain {post : PlainPost Bool} :
    Plain setup.registry readBack post (resolveSlot setup slot) handler files ↔
      post (setup.registry.isValidHandle slot) handler (files, .nothing) := by
  cases valid : setup.registry.isValidHandle slot <;> simp [resolveSlot, valid]

theorem ensures_resolveMember_plain (few : setup.registry.registry.length < 2 ^ 32)
    {post : PlainPost (Option SlotIndex)} :
    Plain setup.registry readBack post (resolveMember setup member) handler files ↔
      post (setup.slotOf member).toOption handler (files, .nothing) := by
  unfold resolveMember
  cases found : setup.slotOf member with
  | error e => rfl
  | ok slot =>
    simp [ensures_resolveSlot_plain, isValidHandle_of_slotOf few found, Except.toOption]

theorem ensures_resolveMemberContentLocked
    (known : ∃ config, setup.registry.getConfig slot = .ok config)
    (readable : (files.content slot).Readable)
    (next_eq : settle setup member (handler.state slot) (files.content slot) = next)
    {post : PlainPost (Expected MemberContent × Bool)} :
    Plain setup.registry readBack post (resolveMemberContentLocked setup member slot) handler files ↔
      post (.ok (shown next (files.content slot)), next ≠ handler.state slot)
        (handler.setState slot next) (files, .nothing) := by
  subst next_eq
  rcases readable.crl with ⟨data, crl⟩
  cases on : (handler.state slot).enabled with
  | false =>
    cases held : (files.content slot).certificate <;>
      simp [resolveMemberContentLocked, settle, shown, on, held, touch]
  | true =>
    cases held : (files.content slot).certificate with
    | error e =>
      simp [resolveMemberContentLocked, settle, shown, on, held, known,
        readable.certificate e held, touch]
    | ok certificate =>
      by_cases external : member.kind = .conditionalExternal
      · rcases conditionalGate_cases setup (handler.state slot) certificate with
          passes | first | stopped
        · simp [resolveMemberContentLocked, settle, shown, on, held, known, external, passes.1,
            trustedContent, trusted, crl, Except.toOption, touch]
        · have differs : ⟨true, some certificate.fingerprint⟩ ≠ handler.state slot := by
            intro same
            cases first.2.symm.trans (congrArg MemberState.acceptedFingerprint same).symm
          simp [resolveMemberContentLocked, settle, shown, on, held, known, external, first.1,
            trustedContent, trusted, crl, Except.toOption, differs]
        · have differs : { handler.state slot with enabled := false } ≠ handler.state slot := by
            intro same
            cases on.symm.trans (congrArg MemberState.enabled same).symm
          simp [resolveMemberContentLocked, settle, shown, on, held, known, external, stopped.1,
            differs]
      · simp [resolveMemberContentLocked, settle, shown, on, held, known, external,
          trustedContent, trusted, crl, Except.toOption, touch]

/-! ### The state file -/

def Exact (setup : StoreSetup) (file : Option DeploymentDescriptor)
    (state : SlotIndex → MemberState) : Prop :=
  ∀ slot member, setup.findMember slot = some member →
    persistedState (file.getD ∅) member = some (state slot)

def saved (setup : StoreSetup) (handler : TrustStoreHandler) (files : Files) : Files :=
  { files with file := some (writeMembers setup handler (files.file.getD ∅) setup.config.members) }

theorem exact_saved {state : SlotIndex → MemberState} (exact : Exact setup files.file state)
    (absent : ∀ slot, handler.states.lookup slot = none → state slot = {})
    (unaccepted : ∀ slot, (handler.state slot).acceptedFingerprint = none →
      (state slot).acceptedFingerprint = none) :
    Exact setup (saved setup handler files).file handler.state := by
  intro slot member known
  rcases findMember_some known with ⟨listed, found⟩
  have recorded := exact slot member known
  apply persistedState_writeMembers listed found
  · intro missing
    rw [recorded, absent slot missing]
  · intro nothing
    have read := (readState_some.mp recorded).2
    rw [unaccepted slot nothing] at read
    exact readFingerprint_none.mp read

theorem exact_committed (exact : Exact setup files.file handler.state)
    (accepted : next.acceptedFingerprint = none → (handler.state slot).acceptedFingerprint = none) :
    Exact setup (saved setup (handler.setState slot next) files).file
      (handler.setState slot next).state := by
  refine exact_saved exact (fun other => missing_setState) ?_
  intro other nothing
  rw [state_setState] at nothing
  split at nothing
  case isTrue same => exact same ▸ accepted nothing
  case isFalse => exact nothing

@[simp] theorem saved_setAnchorLocked (certificate : Option CertObject) :
    saved setup (handler.setAnchorLocked slot certificate) files = saved setup handler files := by
  unfold saved writeMembers writeMemberOf
  simp only [states_setAnchorLocked]

@[simp] theorem saved_setCrlLocked (data : Option CrlData) :
    saved setup (handler.setCrlLocked slot data) files = saved setup handler files := by
  unfold saved writeMembers writeMemberOf
  simp only [states_setCrlLocked]

section Saving

variable (somewhere : setup.config.deploymentPath ≠ [])
  {post : PlainPost (Expected Unit)}

include somewhere

theorem ensures_persistStateLocked :
    Plain setup.registry readBack post (persistStateLocked setup) handler files ↔
      post (.ok ()) handler (saved setup handler files, .nothing) := by
  unfold persistStateLocked
  rw [if_neg somewhere]
  refine (ensures_bind.trans (StoreAction.ensures_plainly ?_)).trans ?_
  · trivial
  cases file : files.file <;> simp [StoreAction.plain, StoreAction.owes, saved, file, Except.toOption]

theorem ensures_commitStateLocked :
    Plain setup.registry readBack post (commitStateLocked setup slot next) handler files ↔
      post (.ok ()) (handler.setState slot next)
        (saved setup (handler.setState slot next) files, .nothing) := by
  simp [commitStateLocked, ensures_persistStateLocked somewhere]

theorem ensures_enableAndPublish {certificate : Option CertObject} :
    Plain setup.registry readBack post (enableAndPublish setup slot next certificate) handler files ↔
      post (.ok ()) ((handler.setState slot next).setAnchorLocked slot certificate)
        (saved setup (handler.setState slot next) files, .nothing) := by
  simp [enableAndPublish, ensures_commitStateLocked somewhere]

end Saving

/-! ### The cache of one slot -/

def entry (handler : TrustStoreHandler) (slot : SlotIndex) : MemberContent where
  anchor := handler.slots.lookup slot
  crl := handler.crls.lookup slot

section Entries

variable (handler)

@[simp] theorem entry_setState : entry (handler.setState slot next) = entry handler := rfl

theorem entry_setAnchorLocked (warm : handler.loaded = true) (certificate : Option CertObject) :
    entry (handler.setAnchorLocked slot certificate) =
      Function.update (entry handler) slot { entry handler slot with anchor := certificate } := by
  funext other
  rcases eq_or_ne other slot with rfl | differ
  · simp [entry, handler.lookup_setAnchorLocked other certificate warm]
  · simp [entry, handler.lookup_setAnchorLocked slot certificate warm, differ]

theorem entry_setCrlLocked (warm : handler.loaded = true) (data : Option CrlData) :
    entry (handler.setCrlLocked slot data) =
      Function.update (entry handler) slot { entry handler slot with crl := data } := by
  funext other
  rcases eq_or_ne other slot with rfl | differ
  · simp [entry, handler.lookup_setCrlLocked other data warm]
  · simp [entry, handler.lookup_setCrlLocked slot data warm, differ]

end Entries

structure ChangedAt (slot : SlotIndex) (next : MemberState) (shows : MemberContent)
    (handler handler' : TrustStoreHandler) : Prop where
  valid : handler'.valid = handler.valid
  loaded : handler'.loaded = handler.loaded
  state : handler'.state = Function.update handler.state slot next
  cache : handler.loaded = true → entry handler' = Function.update (entry handler) slot shows

theorem state_setState_eq :
    (handler.setState slot next).state = Function.update handler.state slot next := by
  funext other
  simp [Function.update_apply]

variable {shows : MemberContent}

theorem ChangedAt.unchanged (same : handler.loaded = true → shows = entry handler slot) :
    ChangedAt slot (handler.state slot) shows handler handler :=
  ⟨rfl, rfl, (Function.update_eq_self _ _).symm, fun warm => by
    rw [same warm, Function.update_eq_self]⟩

theorem ChangedAt.setAnchor {certificate : Option CertObject}
    (before : ChangedAt slot next shows handler handler') :
    ChangedAt slot next { shows with anchor := certificate } handler
      (handler'.setAnchorLocked slot certificate) where
  valid := by simp [before.valid]
  loaded := by simp [before.loaded]
  state := by simp [before.state]
  cache warm := by simp [entry_setAnchorLocked _ (before.loaded.trans warm), before.cache warm]

theorem ChangedAt.setCrl {data : Option CrlData}
    (before : ChangedAt slot next shows handler handler') :
    ChangedAt slot next { shows with crl := data } handler (handler'.setCrlLocked slot data) where
  valid := by simp [before.valid]
  loaded := by simp [before.loaded]
  state := by simp [before.state]
  cache warm := by simp [entry_setCrlLocked _ (before.loaded.trans warm), before.cache warm]

theorem ChangedAt.setState :
    ChangedAt slot next (entry handler slot) handler (handler.setState slot next) :=
  ⟨rfl, rfl, state_setState_eq, fun _ => (Function.update_eq_self _ _).symm⟩

/-! ### A warm store -/

def MirrorsAt (setup : StoreSetup) (slot : SlotIndex) (state : MemberState) (shows : MemberContent)
    (content : SlotContent) : Prop :=
  match setup.findMember slot with
  | some member => shows = shown state content ∧ Acknowledged member state content
  | none => shows = {}

structure Tracks (setup : StoreSetup) (handler : TrustStoreHandler) (files : Files) : Prop where
  valid : handler.valid = true
  distinct : setup.validateMembers = true
  exact : Exact setup files.file handler.state
  readable : ∀ slot, (files.content slot).Readable
  mirrors : handler.loaded = true → ∀ slot,
    MirrorsAt setup slot (handler.state slot) (entry handler slot) (files.content slot)

def Tracking (setup : StoreSetup) (handler : TrustStoreHandler) (state : Files × Due) : Prop :=
  ∃ files, state = (files, .nothing) ∧ Tracks setup handler files

theorem Tracks.now (tracks : Tracks setup handler files) : Tracking setup handler (files, .nothing) :=
  ⟨files, rfl, tracks⟩

theorem Tracks.change {file : Option DeploymentDescriptor} (tracks : Tracks setup handler files)
    (changed : ChangedAt slot next shows handler handler') (readable : content.Readable)
    (exact : Exact setup file handler'.state)
    (mirrors : handler.loaded = true → MirrorsAt setup slot next shows content) :
    Tracks setup handler' { files.put slot content with file := file } where
  valid := changed.valid.trans tracks.valid
  distinct := tracks.distinct
  exact := exact
  readable other := by
    rcases eq_or_ne other slot with rfl | differ
    · simpa [Files.put] using readable
    · simpa [Files.put, differ] using tracks.readable other
  mirrors warm other := by
    have before := changed.loaded.symm.trans warm
    rw [changed.state, changed.cache before]
    rcases eq_or_ne other slot with rfl | differ
    · simpa [Files.put] using mirrors before
    · simpa [Files.put, differ] using tracks.mirrors before other

theorem Tracks.touch (tracks : Tracks setup handler files) (slot : SlotIndex) :
    Tracks setup (handler.touch slot) files := by
  have state : (handler.touch slot).state = handler.state :=
    funext fun other => handler.state_touch slot other
  refine { tracks with exact := ?_, mirrors := ?_ }
  · rw [state]
    exact tracks.exact
  · rw [state]
    exact tracks.mirrors

theorem Tracks.clearCache (tracks : Tracks setup handler files) :
    Tracks setup handler.clearCacheLocked files :=
  { tracks with mirrors := fun warm => nomatch warm }

end TrustStore

end ScoreCrypto.CertManagement
