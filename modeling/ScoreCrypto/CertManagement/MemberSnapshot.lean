import ScoreCrypto.CertManagement.StoreHistory

/-! What the store reports of a member, against what a resolution of its members makes of it. -/

namespace ScoreCrypto.CertManagement

open Storage Stateful

inductive MemberStatus where
  | enabled
  | disabled
  | fingerprintMismatch
  | awaitingAcknowledgement
  deriving DecidableEq, Repr

structure MemberSnapshot where
  slotHandle : SlotIndex
  slotName : Bytes
  kind : TrustStoreMemberKind
  fingerprint : Fingerprint
  status : MemberStatus

namespace TrustStore

open StoreProg

variable (setup : StoreSetup)

def snapshotCertificate (member : TrustStoreMemberConfig) (slot : SlotIndex) :
    StoreProg (Expected CertObject) :=
  if member.kind = .conditionalExternal then do
    if ← resolveSlot setup slot then perform (.readCertificate slot)
    else pure (.error .resourceNotFound)
  else perform (.loadCertificate slot)

def memberStatus (member : TrustStoreMemberConfig) (state : MemberState) (fingerprint : Fingerprint) :
    MemberStatus :=
  let status := if state.enabled then .enabled else .disabled
  if member.kind = .conditionalExternal then
    match state.acceptedFingerprint with
    | some accepted => if accepted = fingerprint then status else .fingerprintMismatch
    | none =>
      if setup.config.conditionalSlotInitialization = .disableUntilAccepted then
        .awaitingAcknowledgement
      else status
  else status

def getMemberSnapshot (slot : SlotIndex) : StoreProg (Expected MemberSnapshot) :=
  match setup.findMember slot with
  | none => pure (.error .invalidResourceId)
  | some member => do
    match ← snapshotCertificate setup member slot with
    -- an empty slot reads as absent
    | .error e => pure (.error (if isEmptySlotError e then .resourceNotFound else e))
    | .ok certificate => do
      let handler ← get
      pure (.ok
        { slotHandle := slot
          slotName := member.slotName
          kind := member.kind
          fingerprint := certificate.fingerprint
          status := memberStatus setup member (handler.state slot) certificate.fingerprint })

def snapshotThenResolve (slot : SlotIndex) :
    StoreProg (Expected MemberSnapshot ×
      Expected (Multiset (SlotIndex × CertObject))) := do
  let snapshot ← getMemberSnapshot setup slot
  clearCache
  let anchors ← readMembers setup TrustStoreHandler.slots MemberContent.anchor
  pure (snapshot, anchors)

def Readable (slot : SlotIndex) (certificate : CertObject) (crl : Option CrlData) :
    (act : StoreAction) → act.Res → Prop
  | .hasHandler own, answer => own = slot → answer = true
  | .loadCertificate own, answer => own = slot → answer = .ok certificate
  | .readCertificate own, answer => own = slot → answer = .ok certificate
  | .loadCrlData own, answer => own = slot → answer = .ok crl
  | _, _ => True

/-- What the store meets outside while one of its slots can be read. -/
def Serves (slot : SlotIndex) (certificate : CertObject) (crl : Option CrlData) (act : StoreAction)
    (world : StoreWorld) (answer : act.Res) (world' : StoreWorld) : Prop :=
  act.May world answer world' ∧ Readable slot certificate crl act answer

def Contributes (member : TrustStoreMemberConfig) (state : MemberState) (certificate : CertObject) :
    Prop :=
  state.enabled = true ∧ (member.kind = .conditionalExternal →
    ∀ next, conditionalGate setup state certificate ≠ some (next, false))

variable {setup} {member : TrustStoreMemberConfig} {slot : SlotIndex} {certificate : CertObject}
  {crl : Option CrlData} {handler : TrustStoreHandler} {world : StoreWorld}

theorem memberStatus_enabled {state : MemberState} :
    memberStatus setup member state certificate.fingerprint = .enabled ↔
      Contributes setup member state certificate := by
  rcases state with ⟨enabled, accepted⟩
  cases enabled <;> cases accepted <;> cases init : setup.config.conditionalSlotInitialization <;>
    simp [memberStatus, Contributes, conditionalGate, init] <;> grind

/-! ### One member -/

theorem ensures_loadOwn {post : StoreAction.Post (Expected CertObject)} :
    Ensures (Serves slot certificate crl) post (StoreProg.perform (.loadCertificate slot)) handler world ↔
      post (.ok certificate) handler world :=
  ⟨fun holds => holds _ world ⟨rfl, fun _ => rfl⟩, fun holds _ _ served => served.1 ▸ served.2 rfl ▸ holds⟩

theorem ensures_loadOwnCrl {post : StoreAction.Post (Expected (Option CrlData))} :
    Ensures (Serves slot certificate crl) post (StoreProg.perform (.loadCrlData slot)) handler world ↔
      post (.ok crl) handler world :=
  ⟨fun holds => holds _ world ⟨rfl, fun _ => rfl⟩, fun holds _ _ served => served.1 ▸ served.2 rfl ▸ holds⟩

theorem resolveMemberContentLocked_own :
    Ensures (Serves slot certificate crl)
      (fun result _ _ => ∃ content, result.1 = .ok content ∧
        (content.anchor = some certificate ↔
          Contributes setup member (handler.state slot) certificate))
      (resolveMemberContentLocked setup member slot) handler world := by
  simp [resolveMemberContentLocked, trustedContent, ensures_loadOwn, ensures_loadOwnCrl, Contributes]
  refine ⟨by simp_all, fun enabled => ⟨fun external => ?_, by simp_all⟩⟩
  rcases conditionalGate setup (handler.state slot) certificate with _ | ⟨next, _ | _⟩ <;>
    simp [ensures_loadOwnCrl, enabled, external]

theorem resolveMemberContentLocked_other {other : SlotIndex} (differ : other ≠ slot) :
    Ensures (Serves slot certificate crl)
      (fun _ handler' _ => handler'.state slot = handler.state slot)
      (resolveMemberContentLocked setup member other) handler world := by
  refine (resolveMemberContentLocked_spec.narrow fun _ _ _ _ => And.left).mono ?_
  rintro result handler' world' ⟨-, next, at_, -⟩
  rw [at_.state, Function.update_of_ne differ.symm]

/-! ### All members -/

def Shows (slot : SlotIndex) (certificate : CertObject) (all : List (SlotIndex × MemberContent)) :
    Prop :=
  ∃ content, (slot, content) ∈ all ∧ content.anchor = some certificate

theorem shows_append {all : List (SlotIndex × MemberContent)} {other : SlotIndex}
    {content : MemberContent} : Shows slot certificate (all ++ [(other, content)]) ↔
      Shows slot certificate all ∨ other = slot ∧ content.anchor = some certificate := by
  simp only [Shows, List.mem_append, List.mem_singleton, Prod.mk.injEq, or_and_right, exists_or]
  apply or_congr_right
  constructor
  · rintro ⟨_, ⟨rfl, rfl⟩, anchor⟩
    exact ⟨rfl, anchor⟩
  · rintro ⟨rfl, anchor⟩
    exact ⟨content, ⟨rfl, rfl⟩, anchor⟩

section Members

variable {resolution : Resolution} {rest : List TrustStoreMemberConfig} {seen : List SlotIndex}

theorem resolveMembers_apart (apart : ∀ other ∈ rest, setup.slotOf other ≠ .ok slot) :
    Ensures (Serves slot certificate crl)
      (fun resolution' _ _ => ∀ all, resolution'.result = .ok all →
        (Shows slot certificate all ↔ Shows slot certificate resolution.all))
      (resolveMembers setup rest resolution) handler world := by
  induction rest generalizing resolution handler world with
  | nil => exact fun all ok => by rw [Resolution.result_ok ok]
  | cons member rest ih =>
    rcases List.forall_mem_cons.mp apart with ⟨differ, later⟩
    unfold resolveMembers
    split
    · exact fun all failed => by cases failed
    · next other found =>
      rw [found, ne_eq, Except.ok.injEq] at differ
      apply Ensures.get_bind
      refine Ensures.bind ((resolveMemberContentLocked_other differ).mono ?_)
      rintro ⟨content | content, changed⟩ handler' world' -
      · exact fun all failed => by cases failed
      · refine (ih later).mono fun resolution' _ _ same all ok => (same all ok).trans ?_
        simp [shows_append, differ]

theorem resolveMembers_shows (distinct : setup.validateFrom seen rest = true) (listed : member ∈ rest)
    (own : setup.slotOf member = .ok slot) (fresh : ¬ Shows slot certificate resolution.all) :
    Ensures (Serves slot certificate crl)
      (fun resolution' _ _ => ∀ all, resolution'.result = .ok all →
        (Shows slot certificate all ↔ Contributes setup member (handler.state slot) certificate))
      (resolveMembers setup rest resolution) handler world := by
  induction rest generalizing resolution handler world seen with
  | nil => cases listed
  | cons first rest ih =>
    rcases StoreSetup.validateFrom_apart distinct with ⟨other, found, distinct', apart⟩
    simp only [resolveMembers, found]
    apply Ensures.get_bind
    rcases List.mem_cons.mp listed with rfl | later
    · cases own.symm.trans found
      refine Ensures.bind (resolveMemberContentLocked_own.mono ?_)
      rintro ⟨_, changed⟩ handler' world' ⟨content, rfl, anchor⟩
      refine (resolveMembers_apart apart).mono fun resolution' _ _ same all ok => (same all ok).trans ?_
      simp [shows_append, fresh, anchor]
    · have differ : other ≠ slot := fun same => apart member later (same ▸ own)
      refine .bind ((resolveMemberContentLocked_other differ).mono ?_)
      rintro ⟨content | content, changed⟩ handler' world' same
      · exact fun all failed => by cases failed
      · rw [← same]
        exact ih distinct' later (by simpa [shows_append, differ] using fresh)

theorem resolveAllLocked_shows (distinct : setup.validateMembers = true)
    (listed : member ∈ setup.config.members) (own : setup.slotOf member = .ok slot) :
    Ensures (Serves slot certificate crl)
      (fun result _ _ => ∀ all, result = .ok all →
        (Shows slot certificate all ↔ Contributes setup member (handler.state slot) certificate))
      (resolveAllLocked setup) handler world := by
  refine Ensures.bind ((resolveMembers_shows distinct listed own (by simp [Shows])).mono ?_)
  intro resolution handler' world' shows
  split
  · refine .bind (.of_forall fun persisted _ _ => ?_)
    cases persisted with
    | ok _ => exact shows
    | error e =>
      refine .bind (.of_forall fun undone _ _ => ?_)
      cases undone with
      | true => exact fun _ failed => by cases failed
      | false => exact shows
  · exact shows

end Members

theorem snapshotCertificate_reads (valid : setup.registry.isValidHandle slot = true) :
    Ensures (Serves slot certificate crl)
      (fun read handler' _ => read = .ok certificate ∧ handler' = handler)
      (snapshotCertificate setup member slot) handler world := by
  unfold snapshotCertificate
  split
  · simp only [resolveSlot, valid, if_true]
    refine .perform_bind fun answer world' served => ?_
    rw [served.2 rfl]
    exact fun answer _ served => ⟨served.2 rfl, rfl⟩
  · exact fun answer _ served => ⟨served.2 rfl, rfl⟩

theorem snapshotThenResolve_shows (distinct : setup.validateMembers = true)
    (found : setup.findMember slot = some member)
    (valid : setup.registry.isValidHandle slot = true) :
    Ensures (Serves slot certificate crl)
      (fun outcome _ _ => ∃ snapshot, outcome.1 = .ok snapshot ∧ ∀ anchors, outcome.2 = .ok anchors →
        (snapshot.status = .enabled ↔ (slot, certificate) ∈ anchors))
      (snapshotThenResolve setup slot) handler world := by
  rcases StoreSetup.findMember_some found with ⟨listed, own⟩
  simp only [snapshotThenResolve, getMemberSnapshot, found]
  refine .bind (.bind ((snapshotCertificate_reads valid).mono ?_))
  rintro read handler world ⟨rfl, rfl⟩
  refine Ensures.get_bind (Ensures.pure (Ensures.modify_bind (Ensures.bind ?_)))
  unfold readMembers
  apply Ensures.get_bind
  split
  · exact ⟨_, rfl, fun _ failed => by cases failed⟩
  · refine .bind ((resolveAllLocked_shows distinct listed own).mono ?_)
    intro result handler' world' shows
    cases result with
    | error e => exact ⟨_, rfl, fun _ failed => by cases failed⟩
    | ok all =>
      refine ⟨_, rfl, fun anchors ok => ?_⟩
      cases ok
      refine memberStatus_enabled.trans ((shows all rfl).symm.trans ?_)
      simp [Shows]

/-! ### A resolution that succeeds -/

/-- The slots can be read or are empty, and the state file can be written. -/
def Unfailing : (act : StoreAction) → act.Res → Prop
  | .loadCertificate _, answer => ∀ e, answer = .error e → isEmptySlotError e = true
  | .loadCrlData _, answer => ∃ crl, answer = .ok crl
  | .writeDescriptor _, answer => answer = .ok ()
  | _, _ => True

section Unfailing

variable {may : (act : StoreAction) → StoreWorld → act.Res → StoreWorld → Prop}
  (unfailing : ∀ act world answer world', may act world answer world' → Unfailing act answer)

include unfailing

theorem trustedContent_ok :
    Ensures may (fun result _ _ => ∃ content, result = .ok content)
      (trustedContent slot certificate) handler world := by
  refine .perform_bind fun answer world' allowed => ?_
  rcases unfailing _ _ _ _ allowed with ⟨crl, rfl⟩
  exact ⟨_, rfl⟩

theorem resolveMemberContentLocked_ok :
    Ensures may (fun result _ _ => ∃ content, result.1 = .ok content)
      (resolveMemberContentLocked setup member slot) handler world := by
  refine Ensures.modify_bind (Ensures.get_bind ?_)
  split
  · exact ⟨_, rfl⟩
  · refine .perform_bind fun answer world' allowed => ?_
    cases answer with
    | error e =>
      simp only [unfailing _ _ _ _ allowed e rfl, if_true]
      exact ⟨_, rfl⟩
    | ok certificate =>
      simp only
      split
      · split
        · exact .bind (trustedContent_ok unfailing)
        · exact .modify_bind (.bind (trustedContent_ok unfailing))
        · exact .modify_bind ⟨_, rfl⟩
      · exact .bind (trustedContent_ok unfailing)

theorem resolveMembers_ok {rest : List TrustStoreMemberConfig} {seen : List SlotIndex}
    {resolution : Resolution} (distinct : setup.validateFrom seen rest = true)
    (soFar : resolution.failure = none) :
    Ensures may (fun resolution' _ _ => resolution'.failure = none)
      (resolveMembers setup rest resolution) handler world := by
  induction rest generalizing resolution handler world seen with
  | nil => exact soFar
  | cons first rest ih =>
    rcases StoreSetup.validateFrom_apart distinct with ⟨other, found, distinct', -⟩
    simp only [resolveMembers, found]
    refine .get_bind (.bind ((resolveMemberContentLocked_ok unfailing).mono ?_))
    rintro ⟨_, changed⟩ handler' world' ⟨content, rfl⟩
    exact ih distinct' soFar

theorem persistStateLocked_ok :
    Ensures may (fun result _ _ => result = .ok ()) (persistStateLocked setup) handler world := by
  unfold persistStateLocked
  split
  · exact .pure rfl
  · exact .perform_bind fun _ _ _ => .get_bind fun _ _ allowed => unfailing _ _ _ _ allowed

theorem resolveAllLocked_ok (distinct : setup.validateMembers = true) :
    Ensures may (fun result _ _ => ∃ all, result = .ok all) (resolveAllLocked setup) handler
      world := by
  refine .bind ((resolveMembers_ok unfailing distinct rfl).mono ?_)
  intro resolution handler' world' complete
  have result : resolution.result = .ok resolution.all := by rw [Resolution.result, complete]
  split
  · refine .bind ((persistStateLocked_ok unfailing).mono ?_)
    rintro persisted _ _ rfl
    exact ⟨_, result⟩
  · exact ⟨_, result⟩

theorem readAnchors_ok (distinct : setup.validateMembers = true) (usable : handler.valid = true)
    (cold : handler.loaded = false) :
    Ensures may (fun result _ _ => ∃ anchors, result = .ok anchors)
      (readMembers setup TrustStoreHandler.slots MemberContent.anchor) handler world := by
  unfold readMembers
  apply Ensures.get_bind
  simp only [usable, cold, Bool.true_eq_false, Bool.false_eq_true, if_false]
  refine .bind ((resolveAllLocked_ok unfailing distinct).mono ?_)
  rintro result _ _ ⟨all, rfl⟩
  exact ⟨_, rfl⟩

end Unfailing

/-- What the store meets while all of its slots can be read and its state can be written. -/
def ServesAll (slot : SlotIndex) (certificate : CertObject) (crl : Option CrlData) (act : StoreAction)
    (world : StoreWorld) (answer : act.Res) (world' : StoreWorld) : Prop :=
  Serves slot certificate crl act world answer world' ∧ Unfailing act answer

theorem snapshotThenResolve_ok (distinct : setup.validateMembers = true)
    (found : setup.findMember slot = some member)
    (valid : setup.registry.isValidHandle slot = true) (usable : handler.valid = true) :
    Ensures (ServesAll slot certificate crl) (fun outcome _ _ => ∃ anchors, outcome.2 = .ok anchors)
      (snapshotThenResolve setup slot) handler world := by
  simp only [snapshotThenResolve, getMemberSnapshot, found]
  refine .bind (.bind (((snapshotCertificate_reads valid).narrow fun _ _ _ _ => And.left).mono ?_))
  rintro read handler world ⟨rfl, rfl⟩
  refine .get_bind (.pure (.modify_bind (.bind ?_)))
  exact readAnchors_ok (fun _ _ _ _ => And.right) distinct usable rfl

/-- The certificate of a member is among the anchors of a cold resolution that succeeds if and only
if the snapshot reports the member as enabled. The resolution of a valid store succeeds while its
slots can be read or are empty and its state can be written. -/
theorem snapshot_truthful (distinct : setup.validateMembers = true)
    (found : setup.findMember slot = some member)
    (valid : setup.registry.isValidHandle slot = true) :
    Ensures (Serves slot certificate crl)
      (fun outcome _ _ => ∃ snapshot, outcome.1 = .ok snapshot ∧ ∀ anchors, outcome.2 = .ok anchors →
        (snapshot.status = .enabled ↔ (slot, certificate) ∈ anchors))
      (snapshotThenResolve setup slot) handler world ∧
    (handler.valid = true → Ensures (ServesAll slot certificate crl)
      (fun outcome _ _ => ∃ snapshot anchors, outcome = (.ok snapshot, .ok anchors) ∧
        (snapshot.status = .enabled ↔ (slot, certificate) ∈ anchors))
      (snapshotThenResolve setup slot) handler world) := by
  refine ⟨snapshotThenResolve_shows distinct found valid, fun usable => ?_⟩
  refine Ensures.mono (((snapshotThenResolve_shows distinct found valid).narrow
    fun _ _ _ _ => And.left).and (snapshotThenResolve_ok distinct found valid usable)) ?_
  rintro ⟨_, _⟩ handler' world' ⟨⟨snapshot, rfl, truthful⟩, anchors, rfl⟩
  exact ⟨snapshot, anchors, rfl, truthful anchors rfl⟩

section Sample

def twoMembers : StoreSetup where
  config := { members := [{ slotName := ascii "ca" }, { slotName := ascii "sub" }] }
  registry := (CertSlotRegistry.empty.registerSlot
    { slotName := ascii "ca", allowedWriteUids := [] }).registerSlot
      { slotName := ascii "sub", allowedWriteUids := [] }

theorem twoMembers_truthful :
    Ensures (ServesAll 0 sampleCertificate none)
      (fun outcome _ _ => ∃ snapshot anchors, outcome = (.ok snapshot, .ok anchors) ∧
        (snapshot.status = .enabled ↔ (0, sampleCertificate) ∈ anchors))
      (snapshotThenResolve twoMembers 0) { valid := true } ⟨none⟩ :=
  (snapshot_truthful (by decide) rfl (by decide)).2 rfl

/-- The slot of another member cannot be read, so the store has no anchors for now. -/
theorem otherMember_fails :
    twoMembers.validateMembers = true ∧ twoMembers.findMember 0 = some { slotName := ascii "ca" } ∧
      ¬ Ensures (Serves 0 sampleCertificate none)
        (fun outcome _ _ => ∃ snapshot, outcome.1 = .ok snapshot ∧
          (snapshot.status = .enabled ↔
            ∃ anchors, outcome.2 = .ok anchors ∧ (0, sampleCertificate) ∈ anchors))
        (snapshotThenResolve twoMembers 0) { valid := true } ⟨none⟩ := by
  refine ⟨by decide, rfl, fun always => ?_⟩
  have loads : Serves 0 sampleCertificate none (.loadCertificate 0) ⟨none⟩
      (.ok sampleCertificate) ⟨none⟩ := ⟨rfl, fun _ => rfl⟩
  have ends := always _ _ loads _ _ loads (.ok none) ⟨none⟩ ⟨rfl, fun _ => rfl⟩
    (.error .certificateParsingFailed) ⟨none⟩ ⟨rfl, fun same => absurd same (by decide)⟩
  rcases ends with ⟨snapshot, same, enabled⟩
  cases same
  rcases enabled.mp rfl with ⟨anchors, ok, -⟩
  cases ok

end Sample

end TrustStore

end ScoreCrypto.CertManagement
