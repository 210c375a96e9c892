import ScoreCrypto.CertManagement.WarmCalls

/-!
The mutations of a trust store while every file operation succeeds. Those that enable a member publish
its certificate but do not read its CRL.
-/

namespace ScoreCrypto.CertManagement

open Storage Stateful
open StoreAction (Plainly Plain PlainPost)

namespace TrustStore

open TrustStoreHandler StoreSetup

variable {setup : StoreSetup} {readBack : SlotContent → CrlData → CrlData}
  {handler : TrustStoreHandler} {files : Files}
  {member : TrustStoreMemberConfig} {slot : SlotIndex} {content : SlotContent}

/-! ### CRLs -/

theorem Tracks.newCrl {data : Option CrlData} (tracks : Tracks setup handler files)
    (readable : content.Readable) (same : content.certificate = (files.content slot).certificate)
    (given : handler.loaded = true →
      data = (handler.slots.lookup slot).bind fun _ => content.crl.data.toOption.getD none) :
    Tracks setup (handler.setCrlLocked slot data) (files.put slot content) := by
  refine tracks.change (ChangedAt.unchanged fun _ => rfl).setCrl readable ?_ fun warm => ?_
  · rw [state_setCrlLocked]
    exact tracks.exact
  · have mirrors := tracks.mirrors warm slot
    have anchored : handler.slots.lookup slot = (entry handler slot).anchor := rfl
    rw [given warm, anchored]
    unfold MirrorsAt at mirrors ⊢
    cases known : setup.findMember slot with
    | none =>
      rw [known] at mirrors
      rw [mirrors]
      rfl
    | some member =>
      rw [known] at mirrors
      rw [mirrors.1]
      refine ⟨?_, fun external on certificate held => mirrors.2 external on certificate (same ▸ held)⟩
      cases on : (handler.state slot).enabled with
      | false => rw [shown_disabled on, shown_disabled on]; rfl
      | true =>
        cases held : (files.content slot).certificate with
        | error e => rw [shown_vacant held, shown_vacant (same.trans held)]; rfl
        | ok certificate => rw [shown_trusted on held, shown_trusted on (same.trans held)]; rfl

theorem ensures_refreshMemberCrlLocked {post : PlainPost Unit} {data : Option CrlData}
    (known : ∃ config, setup.registry.getConfig slot = .ok config)
    (held : (files.content slot).crl.data = .ok data) :
    Plain setup.registry readBack post (refreshMemberCrlLocked slot true) handler files ↔
      post () (handler.setCrlLocked slot data) (files, .nothing) := by
  cases warm : handler.loaded <;>
    simp [refreshMemberCrlLocked, warm, known, held, setCrlLocked]

theorem refreshActiveMemberCrlLocked_tracks (few : setup.registry.registry.length < 2 ^ 32)
    (tracks : Tracks setup handler files) (readable : content.Readable)
    (same : content.certificate = (files.content slot).certificate) :
    Plain setup.registry readBack (fun _ => Tracking setup) (refreshActiveMemberCrlLocked slot)
      handler (files.put slot content) := by
  rcases readable.crl with ⟨data, held⟩
  have done : Tracks setup
      (handler.setCrlLocked slot ((handler.slots.lookup slot).bind fun _ => data))
      (files.put slot content) := by
    refine tracks.newCrl readable same fun _ => ?_
    rw [held]
    rfl
  cases warm : handler.loaded with
  | false =>
    rw [setCrlLocked.eq_def, if_neg (by simp [warm])] at done
    simpa [refreshActiveMemberCrlLocked, warm] using done.now
  | true =>
    cases anchored : handler.slots.lookup slot with
    | none =>
      rw [anchored] at done
      simpa [refreshActiveMemberCrlLocked, refreshMemberCrlLocked, warm, anchored] using done.now
    | some certificate =>
      have mirrors := tracks.mirrors warm slot
      unfold MirrorsAt at mirrors
      cases known : setup.findMember slot with
      | none =>
        rw [known] at mirrors
        cases anchored.symm.trans (congrArg MemberContent.anchor mirrors)
      | some member =>
        have found := (findMember_some known).2
        rw [anchored] at done
        simpa [refreshActiveMemberCrlLocked, warm, anchored, ensures_refreshMemberCrlLocked
          (getConfig_of_slotOf few found) ((files.content_put slot content).symm ▸ held)]
          using done.now

def withCrl (readBack : SlotContent → CrlData → CrlData) (content : SlotContent) (crl : CrlData) :
    SlotContent :=
  { content with crl := .some (readBack content crl) }

theorem ensures_putCrl {post : PlainPost (Expected Unit)} (crl : CrlData) :
    Plain setup.registry readBack post (putCrl slot crl) handler files ↔
      post (.ok ()) handler
        (files.put slot (withCrl readBack (files.content slot) crl), .nothing) := by
  simp [putCrl, withCrl]

def withGivenCrl (readBack : SlotContent → CrlData → CrlData) (content : SlotContent) :
    Option CrlData → SlotContent
  | none => content
  | some crl => withCrl readBack content crl

theorem ensures_putGivenCrl {post : PlainPost (Expected Unit)}
    (crl : Option CrlData) :
    Plain setup.registry readBack post (putGivenCrl slot crl) handler (files.put slot content) ↔
      post (.ok ()) handler (files.put slot (withGivenCrl readBack content crl), .nothing) := by
  cases crl <;> simp [putGivenCrl, ensures_putCrl, withGivenCrl]

theorem tracking_valid (handler : TrustStoreHandler) (state : Files × Due)
    (tracking : Tracking setup handler state) : handler.valid = true := by
  rcases tracking with ⟨files, -, tracks⟩
  exact tracks.valid

section Mutations

variable (somewhere : setup.config.deploymentPath ≠ [])
  (few : setup.registry.registry.length < 2 ^ 32)

section Few

include few

theorem withExclusiveMember_tracks {change : StoreProg (Expected Unit)}
    (changes : Keeps (Plainly setup.registry readBack) (Tracking setup) change)
    (members : List TrustStoreMemberConfig) :
    Keeps (Plainly setup.registry readBack) (Tracking setup)
      (withExclusiveMember setup slot change members) := by
  induction members with
  | nil => exact .pure _
  | cons member rest ih =>
    rintro handler state ⟨files, rfl, tracks⟩
    simp only [withExclusiveMember, ensures_bind, ensures_resolveMember_plain few, ensures_ite]
    exact ⟨fun _ => ⟨fun _ => changes _ _ tracks.now, fun _ => tracks.now⟩, fun _ => ih _ _ tracks.now⟩

theorem storeCrlForMember_tracks (crl : CrlData) :
    Keeps (Plainly setup.registry readBack) (Tracking setup) (storeCrlForMember setup slot crl) := by
  refine Keeps.guarded tracking_valid (withExclusiveMember_tracks few ?_ _)
  rintro handler state ⟨files, rfl, tracks⟩
  simp only [ensures_bind, ensures_putCrl, ensures_pure]
  exact refreshActiveMemberCrlLocked_tracks few tracks
    ⟨(tracks.readable slot).certificate, _, rfl⟩ rfl

theorem clearCrlForMember_tracks :
    Keeps (Plainly setup.registry readBack) (Tracking setup) (clearCrlForMember setup slot) := by
  refine Keeps.guarded tracking_valid (withExclusiveMember_tracks few ?_ _)
  rintro handler state ⟨files, rfl, tracks⟩
  simp only [ensures_bind, Plainly.ensures_clearCrl, Plainly.ensures_invalidateCrl_due, ensures_modify,
    ensures_pure]
  refine Tracks.now (tracks.newCrl ⟨(tracks.readable slot).certificate, none, rfl⟩ rfl fun _ => ?_)
  cases handler.slots.lookup slot <;> rfl

end Few

/-! ### Disabling -/

section Member

variable (known : setup.findMember slot = some member)

include known

theorem mirrorsAt_member {state : MemberState} {shows : MemberContent} (same : shows = shown state content)
    (acknowledged : Acknowledged member state content) : MirrorsAt setup slot state shows content := by
  unfold MirrorsAt
  rw [known]
  exact ⟨same, acknowledged⟩

include somewhere in
theorem withdraw_tracks (tracks : Tracks setup handler files) (readable : content.Readable) :
    Plain setup.registry readBack (fun _ => Tracking setup) (withdraw setup slot) handler
      (files.put slot content) := by
  simp only [withdraw, ensures_bind, ensures_modify, ensures_persistStateLocked somewhere,
    saved_setAnchorLocked, saved_setCrlLocked]
  refine Tracks.now (tracks.change ChangedAt.setState.setAnchor.setCrl readable ?_ fun _ => ?_)
  · rw [state_setCrlLocked, state_setAnchorLocked]
    exact exact_committed tracks.exact id
  · exact mirrorsAt_member known (shown_disabled rfl).symm (acknowledged_disabled rfl)

/-! ### Enabling -/

omit known in
def CrlCurrent (handler : TrustStoreHandler) (contents : SlotIndex → SlotContent)
    (slot : SlotIndex) : Prop :=
  handler.loaded = true → (handler.state slot).enabled = true ∨
    (contents slot).crl.data = .ok none

omit known in
theorem exclusive_acknowledged {state : MemberState} (exclusive : member.kind = .exclusiveMutable) :
    Acknowledged member state content := by
  intro external
  rw [exclusive] at external
  cases external

theorem Tracks.enables {next : MemberState} {certificate : Option CertObject}
    (tracks : Tracks setup handler files)
    (accepted : next.acceptedFingerprint = none → (handler.state slot).acceptedFingerprint = none)
    (on : next.enabled = true)
    (held : certificate = (files.content slot).certificate.toOption)
    (acknowledged : Acknowledged member next (files.content slot))
    (current : CrlCurrent handler files.content slot) :
    Tracks setup ((handler.setState slot next).setAnchorLocked slot certificate)
      (saved setup (handler.setState slot next) files) := by
  rw [← files.put_self slot]
  refine tracks.change ChangedAt.setState.setAnchor (tracks.readable slot) ?_ fun warm => ?_
  · rw [state_setAnchorLocked]
    exact exact_committed tracks.exact accepted
  have mirrors := tracks.mirrors warm slot
  unfold MirrorsAt at mirrors
  rw [known] at mirrors
  rw [mirrors.1, held]
  refine mirrorsAt_member known ?_ acknowledged
  cases content : (files.content slot).certificate with
  | error e =>
    rw [shown_vacant content, shown_vacant content]
    rfl
  | ok certificate =>
    rw [shown_trusted on content]
    cases enabled : (handler.state slot).enabled with
    | true =>
      rw [shown_trusted enabled content]
      rfl
    | false =>
      have none := (current warm).resolve_left (by simp [enabled])
      rw [shown_disabled enabled, trusted, none]
      rfl

omit known in
theorem setCrlLocked_setState {next : MemberState} (data : Option CrlData) :
    (handler.setCrlLocked slot data).setState slot next =
      (handler.setState slot next).setCrlLocked slot data := by
  unfold setCrlLocked setState
  split
  · cases data <;> rfl
  · rfl

variable {certificate : CertObject}

theorem Tracks.fills {data : Option CrlData}
    (tracks : Tracks setup handler files) (exclusive : member.kind = .exclusiveMutable)
    (held : content.certificate = .ok certificate) (crl : content.crl.data = .ok data) :
    Tracks setup
      (((handler.setState slot { handler.state slot with enabled := true }).setCrlLocked slot
        data).setAnchorLocked slot (some certificate))
      (saved setup (handler.setState slot { handler.state slot with enabled := true })
        (files.put slot content)) := by
  refine tracks.change ChangedAt.setState.setCrl.setAnchor ⟨by simp [held], data, crl⟩ ?_ fun _ => ?_
  · rw [state_setAnchorLocked, state_setCrlLocked]
    exact exact_committed tracks.exact id
  · refine mirrorsAt_member known ?_ (exclusive_acknowledged exclusive)
    rw [shown_trusted rfl held, trusted, crl]
    rfl

include somewhere few

theorem upsertMember_tracks {crl : Option CrlData}
    (tracks : Tracks setup handler files) (exclusive : member.kind = .exclusiveMutable)
    (held : (files.content slot).certificate = .ok certificate) :
    Plain setup.registry readBack
      (fun result handler' state' =>
        (result = .ok () → crl = none → CrlCurrent handler files.content slot) →
          Tracking setup handler' state')
      (upsertMember setup slot certificate crl) handler files := by
  cases crl with
  | none =>
    simp only [upsertMember, putGivenCrl, refreshGivenCrl, Option.isSome_none, Bool.false_eq_true,
      if_false, ensures_bind, ensures_pure, ensures_modify, ensures_get,
      ensures_enableAndPublish somewhere, setState_touch, state_touch]
    exact fun current => Tracks.now (tracks.enables known id rfl (by rw [held]; rfl)
      (exclusive_acknowledged exclusive) (current trivial trivial))
  | some crl =>
    have found := (findMember_some known).2
    have stored : ((files.put slot (withCrl readBack (files.content slot) crl)).content
        slot).crl.data = .ok (some (readBack (files.content slot) crl)) := by
      simp [withCrl, CrlContent.some]
    simp only [upsertMember, putGivenCrl, refreshGivenCrl, Option.isSome_some, if_true,
      ensures_bind, ensures_putCrl,
      ensures_refreshMemberCrlLocked (getConfig_of_slotOf few found) stored, ensures_modify,
      ensures_get, ensures_enableAndPublish somewhere, setState_touch, state_touch,
      state_setCrlLocked, setCrlLocked_setState, saved_setCrlLocked]
    exact fun _ => Tracks.now (tracks.fills known exclusive held rfl)

theorem storeMember_tracks {crl : Option CrlData}
    (exclusive : member.kind = .exclusiveMutable) :
    Keeps (Plainly setup.registry readBack) (Tracking setup)
      (storeMember setup slot certificate crl) := by
  rintro handler state ⟨files, rfl, tracks⟩
  have found := (findMember_some known).2
  have stored (handler : TrustStoreHandler) : ((saved setup handler (files.put slot (withGivenCrl
      readBack { certificate := .ok certificate, crl := .none } crl))).content slot).crl.data =
        .ok (crl.map (readBack { certificate := .ok certificate, crl := .none })) := by
    cases crl <;> simp [saved, withGivenCrl, withCrl, CrlContent.none, CrlContent.some]
  simp only [storeMember, ensures_bind, Plainly.ensures_storeCertificate,
    Plainly.ensures_invalidateSlotCaches_due, ensures_putGivenCrl, ensures_pure, ensures_modify,
    ensures_get, ensures_commitStateLocked somewhere,
    ensures_refreshMemberCrlLocked (getConfig_of_slotOf few found) (stored _), setState_touch,
    state_touch]
  refine Tracks.now (tracks.fills known exclusive ?_ ?_)
  · cases crl <;> rfl
  · cases crl <;> rfl

end Member

def holds (setup : StoreSetup) (certificate : CertObject) (contents : SlotIndex → SlotContent)
    (member : TrustStoreMemberConfig) : Bool :=
  match setup.slotOf member with
  | .ok slot => (contents slot).certificate.toOption = some certificate
  | .error _ => false

/-- The first member that holds the certificate, if it is an exclusive one, is enabled already, or
its slot has no CRL. -/
def HolderCurrent (setup : StoreSetup) (certificate : CertObject) (handler : TrustStoreHandler)
    (contents : SlotIndex → SlotContent) (members : List TrustStoreMemberConfig) : Prop :=
  ∀ member, members.find? (holds setup certificate contents) = some member →
    member.kind = .exclusiveMutable → ∀ slot, setup.slotOf member = .ok slot →
      CrlCurrent handler contents slot

include somewhere few

section Members

variable {certificate : CertObject} {crl : Option CrlData} (rest : List TrustStoreMemberConfig)
  (listed : ∀ member ∈ rest, member ∈ setup.config.members)

include listed

theorem addToHolder_tracks (tracks : Tracks setup handler files) :
    Plain setup.registry readBack
      (fun result handler' state' => match result with
        | none => Tracking setup handler' state'
        | some result => (result = .ok () → crl = none →
            HolderCurrent setup certificate handler files.content rest) →
              Tracking setup handler' state')
      (addToHolder setup certificate crl rest) handler files := by
  induction rest with
  | nil => exact tracks.now
  | cons member rest ih =>
    have later := ih fun other inside => listed other (List.mem_cons_of_mem _ inside)
    have passed (other : holds setup certificate files.content member = false) :
        HolderCurrent setup certificate handler files.content rest =
          HolderCurrent setup certificate handler files.content (member :: rest) := by
      simp only [HolderCurrent, List.find?_cons, other]
    have inside := listed member List.mem_cons_self
    simp only [addToHolder, ensures_bind, ensures_resolveMember_plain few]
    cases found : setup.slotOf member with
    | error e => exact passed (by simp [holds, found]) ▸ later
    | ok slot =>
      simp only [Except.toOption, ensures_bind, Plainly.ensures_readCertificate]
      cases held : (files.content slot).certificate with
      | error e =>
        refine ensures_ite.mpr ⟨fun _ => ?_, fun _ _ => tracks.now⟩
        exact passed (by simp [holds, found, held, Except.toOption]) ▸ later
      | ok present =>
        simp only [ensures_ite, ensures_bind, ensures_pure]
        refine ⟨fun same => ⟨fun exclusive => ?_, fun _ => ⟨fun _ _ => tracks.now, fun _ _ => tracks.now⟩⟩,
          fun differs => ?_⟩
        · obtain rfl : present = certificate := by
            cases present
            cases certificate
            exact congrArg CertObject.mk same
          refine (upsertMember_tracks somewhere few (findMember_of tracks.distinct inside found) tracks
            exclusive held).mono fun result handler' state' tracking current => tracking ?_
          refine fun done without => current done without member ?_ exclusive slot found
          simp [holds, found, held, Except.toOption]
        · refine passed ?_ ▸ later
          simpa [holds, found, held, Except.toOption] using fun same => differs (congrArg _ same)

theorem addToEmpty_tracks :
    Keeps (Plainly setup.registry readBack) (Tracking setup) (addToEmpty setup certificate crl rest) := by
  induction rest with
  | nil => exact .pure _
  | cons member rest ih =>
    have later := ih fun other inside => listed other (List.mem_cons_of_mem _ inside)
    rintro handler state ⟨files, rfl, tracks⟩
    simp only [addToEmpty, ensures_ite, ensures_bind, ensures_resolveMember_plain few]
    refine ⟨fun exclusive => ?_, fun _ => later _ _ tracks.now⟩
    cases found : setup.slotOf member with
    | error e => exact later _ _ tracks.now
    | ok slot =>
      simp only [Except.toOption, ensures_bind, Plainly.ensures_readSlotState]
      split
      · exact storeMember_tracks somewhere few (findMember_of tracks.distinct
          (listed member List.mem_cons_self) found) exclusive _ _ tracks.now
      · exact later _ _ tracks.now

theorem removeFrom_tracks (fingerprint : Bytes) :
    Keeps (Plainly setup.registry readBack) (Tracking setup) (removeFrom setup fingerprint rest) := by
  induction rest with
  | nil => exact .pure _
  | cons member rest ih =>
    have later := ih fun other inside => listed other (List.mem_cons_of_mem _ inside)
    rintro handler state ⟨files, rfl, tracks⟩
    simp only [removeFrom, ensures_ite, ensures_bind, ensures_resolveMember_plain few]
    refine ⟨fun _ => ?_, fun _ => later _ _ tracks.now⟩
    cases found : setup.slotOf member with
    | error e => exact later _ _ tracks.now
    | ok slot =>
      simp only [Except.toOption, ensures_bind, Plainly.ensures_readCertificate]
      cases (files.content slot).certificate with
      | error e => exact later _ _ tracks.now
      | ok present =>
        simp only [ensures_ite, ensures_bind, Plainly.ensures_clearSlot,
          Plainly.ensures_invalidateSlotCaches_due]
        refine ⟨fun _ => withdraw_tracks somewhere (findMember_of tracks.distinct
          (listed member List.mem_cons_self) found) tracks ⟨?_, none, rfl⟩, fun _ => later _ _ tracks.now⟩
        rintro e ⟨⟩
        rfl

end Members

theorem addMember_tracks {certificate : CertObject} {crl : Option CrlData}
    (tracks : Tracks setup handler files) :
    Plain setup.registry readBack
      (fun result handler' state' =>
        (result = .ok () → (crl.filter fun crl => crl.bytes ≠ []) = none →
          HolderCurrent setup certificate handler files.content setup.config.members) →
            Tracking setup handler' state')
      (addMember setup certificate crl) handler files := by
  refine Ensures.guarded tracks.valid (Ensures.bind
    ((addToHolder_tracks somewhere few _ (fun _ => id) tracks).mono ?_))
  intro held handler' state' tracking
  cases held with
  | none =>
    refine (addToEmpty_tracks somewhere few _ (fun _ => id) _ _ tracking).mono ?_
    exact fun _ _ _ tracking _ => tracking
  | some result => exact tracking

theorem removeMember_tracks (fingerprint : Bytes) :
    Keeps (Plainly setup.registry readBack) (Tracking setup) (removeMember setup fingerprint) :=
  Keeps.guarded tracking_valid (removeFrom_tracks somewhere few _ (fun _ => id) _)

/-! ### The member of a slot -/

omit few in
theorem disableMember_tracks :
    Keeps (Plainly setup.registry readBack) (Tracking setup) (disableMember setup slot) := by
  refine Keeps.guarded tracking_valid ?_
  cases known : setup.findMember slot with
  | none => exact Keeps.pure _
  | some member =>
    rintro handler state ⟨files, rfl, tracks⟩
    rw [← files.put_self slot]
    exact withdraw_tracks somewhere known tracks (tracks.readable slot)

theorem enableMember_tracks (tracks : Tracks setup handler files) :
    Plain setup.registry readBack
      (fun result handler' state' => (result = .ok () → CrlCurrent handler files.content slot) →
        Tracking setup handler' state')
      (enableMember setup slot) handler files := by
  refine Ensures.guarded tracks.valid ?_
  cases known : setup.findMember slot with
  | none => exact fun _ => tracks.now
  | some member =>
    have found := (findMember_some known).2
    simp only [enableConditional, ensures_ite, ensures_bind, ensures_resolveSlot_plain,
      Plainly.ensures_loadCertificate (getConfig_of_slotOf few found),
      Plainly.ensures_readCertificate, ensures_modify, ensures_get,
      ensures_enableAndPublish somewhere, setState_touch, state_touch]
    refine ⟨fun external => ⟨fun _ => ?_, fun _ _ => tracks.now⟩, fun internal current => Tracks.now
      (tracks.enables known id rfl rfl (fun external => absurd external internal) (current trivial))⟩
    cases held : (files.content slot).certificate with
    | error e => exact fun _ => tracks.now
    | ok certificate =>
      simp only [ensures_bind, ensures_modify, ensures_get, ensures_ite,
        Plainly.ensures_invalidateSlotCaches, ensures_enableAndPublish somewhere, setState_touch,
        state_touch]
      refine ⟨fun accepted current => Tracks.now (tracks.enables known id rfl
        (congrArg Except.toOption held).symm ?_ (current trivial)), fun _ _ => (tracks.touch slot).now⟩
      intro _ _ other held'
      cases held.symm.trans held'
      exact accepted

omit few in
theorem acknowledgeMemberUpdate_tracks (expected : Bytes) (tracks : Tracks setup handler files) :
    Plain setup.registry readBack
      (fun result handler' state' => (result = .ok () → CrlCurrent handler files.content slot) →
        Tracking setup handler' state')
      (acknowledgeMemberUpdate setup slot expected) handler files := by
  refine ensures_ite.mpr ⟨fun _ _ => tracks.now, fun _ => Ensures.guarded tracks.valid ?_⟩
  cases known : setup.findMember slot with
  | none => exact fun _ => tracks.now
  | some member =>
    simp only [acknowledgeConditional, ensures_ite, ensures_bind, ensures_resolveSlot_plain,
      Plainly.ensures_readCertificate]
    refine ⟨fun external => ⟨fun _ => ?_, fun _ _ => tracks.now⟩, fun _ _ => tracks.now⟩
    cases held : (files.content slot).certificate with
    | error e => exact fun _ => tracks.now
    | ok certificate =>
      simp only [ensures_ite, ensures_bind, Plainly.ensures_invalidateSlotCaches, ensures_modify,
        ensures_enableAndPublish somewhere, setState_touch]
      refine ⟨fun _ current => Tracks.now (tracks.enables known (by simp) rfl
        (congrArg Except.toOption held).symm ?_ (current trivial)), fun _ _ => tracks.now⟩
      intro _ _ other held'
      cases held.symm.trans held'
      rfl

end Mutations

end TrustStore

end ScoreCrypto.CertManagement
