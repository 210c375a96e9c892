import ScoreCrypto.CertManagement.SlotManager

/-!
What the manager has cached of a slot agrees with what the slot holds, as long as no write is on
its way. A load that overlaps a write may return what it read before the write; it does not leave it
in the cache, because the generation it left its first section with is not the one it finds in its
last.
-/

namespace ScoreCrypto.CertManagement

open Program Run

/-! ### The two parts of a slot -/

/-- The certificate and the CRL are cached and invalidated independently. -/
inductive SlotPart where
  | certificate
  | crl
  deriving DecidableEq, Repr

instance (p : SlotPart → Prop) [DecidablePred p] : Decidable (∀ part, p part) :=
  decidable_of_iff (p .certificate ∧ p .crl) ⟨fun both part => by cases part <;> simp [both],
    fun all => ⟨all _, all _⟩⟩

namespace Slot

def generation (slot : Slot) : SlotPart → UInt64
  | .certificate => slot.cache.certificateGeneration
  | .crl => slot.cache.crlGeneration

def SamePart (first second : Slot) : SlotPart → Prop
  | .certificate => first.content.certificate = second.content.certificate
  | .crl => first.content.crl = second.content.crl

def Agrees (slot : Slot) : SlotPart → Prop
  | .certificate => ∀ certificate, slot.cache.certificate = some certificate →
      slot.content.certificate = .ok certificate
  | .crl =>
    (∀ state, slot.cache.crlState = some state → slot.content.crl.state = .ok state) ∧
      ∀ crl, slot.cache.crlSnapshot = some crl → slot.content.crl.data = .ok (some crl)

end Slot

namespace CrlContent

variable {crl : CrlContent}

theorem state_absent (absent : crl.hasCrl = .ok false) : crl.state = .ok {} := by
  simp [state, absent]

theorem state_present {metadata : Option CrlMetadata} (present : crl.hasCrl = .ok true)
    (described : crl.metadata = .ok metadata) : crl.state = .ok ⟨true, metadata⟩ := by
  simp [state, present, described]

theorem hasCrl_of_state {known : CrlState} (held : crl.state = .ok known)
    (missing : known.hasCrl = false) : crl.hasCrl = .ok false := by
  unfold state at held
  split at held
  case h_1 => cases held
  case h_2 absent => exact absent
  case h_3 =>
    split at held
    · cases held
    · cases held
      cases missing

theorem state_of_data {snapshot : Option CrlData} (loaded : crl.data = .ok snapshot) :
    crl.state = .ok (Slot.crlStateOf snapshot) := by
  cases snapshot with
  | none => exact state_absent (crl.absent.mpr loaded)
  | some data =>
    rcases crl.present data loaded with ⟨present, described⟩
    exact state_present present described

end CrlContent

def SlotWrite.touches : SlotWrite → SlotPart → Bool
  | .certificate _ _, _ => true
  | .crl _ _, part => part = .crl

namespace SlotAction

def stains : SlotAction → SlotPart → Bool
  | write _ operation, part => operation.touches part
  | _, _ => false

def clears : SlotAction → SlotPart → Bool
  | invalidateSlotCaches _, _ => true
  | invalidateCrl _, part => part = .crl
  | _, _ => false

end SlotAction

/-! ### What an action leaves of a slot -/

namespace Slot

variable (slot : Slot) (created : Expected Unit)

@[mk_iff]
structure Finds {α : Type} (cached : α → Prop) (generation : UInt64)
    (answer : Expected (Lookup α)) : Prop where
  error : ∀ e, answer = .error e → created = .error e
  hit : ∀ value, answer = .ok (.hit value) → cached value
  miss : ∀ left, answer = .ok (.miss left) → generation = left

theorem getOrCreate_spec :
    (slot.getOrCreate created).2.content = slot.content ∧
      (slot.getOrCreate created).2.cache = slot.cache ∧
      ∀ e, (slot.getOrCreate created).1 = .error e → created = .error e := by
  unfold getOrCreate
  split
  · simp
  · cases created <;> simp

theorem findCertificate_spec :
    (slot.findCertificate created).2.content = slot.content ∧
      (slot.findCertificate created).2.cache = slot.cache ∧
      Finds created (fun certificate => slot.cache.certificate = some certificate)
        slot.cache.certificateGeneration (slot.findCertificate created).1 := by
  unfold findCertificate
  cases cached : slot.cache.certificate with
  | some certificate => simp [finds_iff]
  | none =>
    have spec := slot.getOrCreate_spec created
    rcases made : slot.getOrCreate created with ⟨e | _, left⟩ <;>
      simpa [made, finds_iff] using spec

theorem findCrlState_spec :
    (∀ state, slot.findCrlState = .hit state → slot.cache.crlState = some state) ∧
      ∀ generation, slot.findCrlState = .miss generation → slot.cache.crlGeneration = generation := by
  unfold findCrlState
  cases slot.cache.crlState <;> simp

theorem findCrlData_spec :
    (slot.findCrlData created).2.content = slot.content ∧
      (slot.findCrlData created).2.cache = slot.cache ∧
      Finds created (fun snapshot => (∀ crl, snapshot = some crl → slot.cache.crlSnapshot = some crl) ∧
        (snapshot = none → ∃ state, slot.cache.crlState = some state ∧ state.hasCrl = false))
        slot.cache.crlGeneration (slot.findCrlData created).1 := by
  unfold findCrlData
  split
  case isTrue absence => simpa [finds_iff, Option.any_eq_true] using absence
  case isFalse =>
    cases cached : slot.cache.crlSnapshot with
    | some snapshot => simp [finds_iff]
    | none =>
      have spec := slot.getOrCreate_spec created
      rcases made : slot.getOrCreate created with ⟨e | _, left⟩ <;>
        simpa [made, finds_iff] using spec

end Slot

namespace SlotAction

def looks : SlotAction → Bool
  | getOrCreate _ _ => true
  | findCertificate _ _ => true
  | readCertificate _ => true
  | findCrlState _ => true
  | readHasCrl _ => true
  | readCrlMetadata _ => true
  | findCrlData _ _ => true
  | readCrlData _ => true
  | _ => false

theorem onSlot_kept (act : SlotAction) (slot : Slot) (looks : act.looks = true) :
    (act.onSlot slot).2.content = slot.content ∧ (act.onSlot slot).2.cache = slot.cache := by
  cases act with
  | getOrCreate _ created => exact ⟨(slot.getOrCreate_spec created).1, (slot.getOrCreate_spec created).2.1⟩
  | findCertificate _ created => simp [onSlot, slot.findCertificate_spec created]
  | findCrlData _ created => simp [onSlot, slot.findCrlData_spec created]
  | readCertificate | findCrlState | readHasCrl | readCrlMetadata | readCrlData => exact ⟨rfl, rfl⟩
  | _ => cases looks

variable (act : SlotAction) (slot : Slot) (part : SlotPart)

theorem generation_onSlot :
    (act.onSlot slot).2.generation part =
      if act.clears part then slot.generation part + 1 else slot.generation part := by
  by_cases looks : act.looks = true
  · have clears : act.clears part = false := by
      cases act <;> first | rfl | cases looks
    rw [clears]
    cases part <;> simp [Slot.generation, (act.onSlot_kept slot looks).2]
  · cases act <;> first | exact absurd rfl looks | skip
    all_goals
      cases part <;> simp [onSlot, clears, Slot.generation, Slot.cacheCertificate,
        Slot.cacheCrlState, Slot.cacheCrlData, Slot.write, Slot.invalidateSlotCaches,
        Slot.invalidateCrl, Slot.expireCertificate, Slot.expireCrlSnapshot,
        SlotCache.resetCertificate, SlotCache.resetCrl, apply_ite]

theorem samePart_onSlot (clean : act.stains part = false) :
    slot.SamePart (act.onSlot slot).2 part := by
  by_cases looks : act.looks = true
  · cases part <;> simp [Slot.SamePart, (act.onSlot_kept slot looks).1]
  · cases act with
    | write _ operation =>
      cases operation <;> cases part <;> first | rfl | cases clean
    | cacheCertificate _ _ _ =>
      cases part <;> simp [Slot.SamePart, onSlot, Slot.cacheCertificate, apply_ite]
    | cacheCrlState _ _ _ =>
      cases part <;> simp [Slot.SamePart, onSlot, Slot.cacheCrlState, apply_ite]
    | cacheCrlData _ _ _ =>
      cases part <;> simp [Slot.SamePart, onSlot, Slot.cacheCrlData, apply_ite]
    | _ => first | exact absurd rfl looks | (cases part <;> rfl)

end SlotAction

/-! ### Coherent caches -/

/-- A slot, and the parts whose content may have changed since they were last invalidated. -/
structure Monitored extends Slot where
  stale : SlotPart → Bool := fun _ => false

def SlotAction.onMonitored (act : SlotAction) (slot : Monitored) : act.Res × Monitored :=
  ((act.onSlot slot.toSlot).1,
    { toSlot := (act.onSlot slot.toSlot).2
      stale := fun part =>
        if act.stains part then true else if act.clears part then false else slot.stale part })

namespace Monitored

def Coherent (slot : Monitored) : Prop :=
  ∀ part, slot.stale part = false → slot.Agrees part

/-- As long as no generation passes, a part that is not stale has not been so and is unchanged. -/
def Later (before after : Monitored) : Prop :=
  ∀ part, (before.generation part).toNat ≤ (after.generation part).toNat ∧
    (before.generation part = after.generation part → after.stale part = false →
      before.stale part = false ∧ before.SamePart after.toSlot part)

def Room (slot : Monitored) (act : SlotAction) : Prop :=
  ∀ part, act.clears part = true → (slot.generation part).toNat + 1 < 2 ^ 64

instance (slot : Monitored) (act : SlotAction) : Decidable (slot.Room act) :=
  inferInstanceAs (Decidable (∀ _, _))

theorem samePart_trans {first second third : Slot} {part : SlotPart}
    (before : first.SamePart second part) (after : second.SamePart third part) :
    first.SamePart third part := by
  cases part <;> exact before.trans after

theorem Later.refl (slot : Monitored) : Later slot slot := by
  intro part
  refine ⟨Nat.le_refl _, fun _ clean => ⟨clean, ?_⟩⟩
  cases part <;> rfl

theorem Later.trans {first second third : Monitored} (before : Later first second)
    (after : Later second third) : Later first third := by
  intro part
  refine ⟨(before part).1.trans (after part).1, fun same clean => ?_⟩
  have between : second.generation part = third.generation part := by
    apply UInt64.toNat.inj
    have lower := (before part).1
    have upper := (after part).1
    rw [same] at lower
    omega
  have second' := (after part).2 between clean
  have first' := (before part).2 (same.trans between.symm) second'.1
  exact ⟨first'.1, samePart_trans first'.2 second'.2⟩

theorem generation_succ {generation : UInt64} (room : generation.toNat + 1 < 2 ^ 64) :
    (generation + 1).toNat = generation.toNat + 1 := by
  rw [UInt64.toNat_add, UInt64.toNat_one]
  exact Nat.mod_eq_of_lt room

theorem later_onMonitored {act : SlotAction} {slot : Monitored} (room : Room slot act) :
    Later slot (act.onMonitored slot).2 := by
  intro part
  have moved := act.generation_onSlot slot.toSlot part
  change _ ≤ ((act.onSlot slot.toSlot).2.generation part).toNat ∧
    (slot.generation part = (act.onSlot slot.toSlot).2.generation part → _)
  rw [moved]
  by_cases clears : act.clears part = true
  · rw [if_pos clears]
    have next := generation_succ (room part clears)
    refine ⟨by omega, fun same => ?_⟩
    rw [← same] at next
    omega
  · rw [if_neg clears]
    refine ⟨Nat.le_refl _, fun _ clean => ?_⟩
    have untouched : act.stains part = false := by
      by_contra stained
      simp [SlotAction.onMonitored, Bool.not_eq_false _ ▸ stained] at clean
    simp only [SlotAction.onMonitored, untouched, clears] at clean
    exact ⟨by simpa using clean, act.samePart_onSlot slot.toSlot part untouched⟩

/-- What is put into the cache under the current generation is what the storage holds. -/
def Justified (slot : Monitored) (act : SlotAction) : Prop :=
  match act with
  | .cacheCertificate _ generation certificate =>
    slot.cache.certificateGeneration = generation → slot.stale .certificate = false →
      slot.content.certificate = .ok certificate
  | .cacheCrlState _ generation state =>
    slot.cache.crlGeneration = generation → slot.stale .crl = false →
      slot.content.crl.state = .ok state
  | .cacheCrlData _ generation snapshot =>
    slot.cache.crlGeneration = generation → slot.stale .crl = false →
      slot.content.crl.data = .ok snapshot
  | _ => True

theorem agrees_of_eq {first second : Slot} (content : second.content = first.content)
    (cache : second.cache = first.cache) {part : SlotPart} (agrees : first.Agrees part) :
    second.Agrees part := by
  cases part <;> simpa only [Slot.Agrees, content, cache] using agrees

open SlotAction in
theorem coherent_onMonitored {act : SlotAction} {slot : Monitored} (coherent : Coherent slot)
    (justified : Justified slot act) : Coherent (act.onMonitored slot).2 := by
  intro part clean
  have before := coherent part
  by_cases looks : act.looks = true
  · have kept := act.onSlot_kept slot.toSlot looks
    apply agrees_of_eq kept.1 kept.2
    apply before
    cases act <;> first | exact clean | cases looks
  · cases act with
    | cacheCertificate | cacheCrlState | cacheCrlData =>
      simp only [onMonitored, onSlot, Slot.cacheCertificate, Slot.cacheCrlState, Slot.cacheCrlData]
      split
      case isTrue same =>
        cases part <;>
          simp_all [Slot.Agrees, Justified, onMonitored, stains, clears, CrlContent.state_of_data]
      case isFalse => exact before clean
    | write _ operation =>
      cases operation <;> cases part <;> first | cases clean | exact before clean
    | invalidateSlotCaches | invalidateCrl | expireCertificate | expireCrlSnapshot =>
      simp only [onMonitored, onSlot, Slot.invalidateSlotCaches, Slot.invalidateCrl,
        Slot.expireCertificate, Slot.expireCrlSnapshot]
      cases part <;>
        simp_all [Slot.Agrees, onMonitored, stains, clears, SlotCache.resetCertificate,
          SlotCache.resetCrl]
    | _ => exact absurd rfl looks

end Monitored

/-! ### Loads that overlap writes -/

abbrev MonitoredSlots := SlotIndex → Monitored

def SlotAction.monitor (act : SlotAction) (slots : MonitoredSlots) : act.Res × MonitoredSlots :=
  ((act.onMonitored (slots act.slot)).1,
    Function.update slots act.slot (act.onMonitored (slots act.slot)).2)

namespace MonitoredSlots

def Coherent (slots : MonitoredSlots) : Prop :=
  ∀ index, (slots index).Coherent

def Later (before after : MonitoredSlots) : Prop :=
  ∀ index, (before index).Later (after index)

def Room (slots : MonitoredSlots) (act : SlotAction) : Prop :=
  (slots act.slot).Room act

instance (slots : MonitoredSlots) (act : SlotAction) : Decidable (slots.Room act) :=
  inferInstanceAs (Decidable ((slots act.slot).Room act))

theorem Later.refl (slots : MonitoredSlots) : Later slots slots :=
  fun index => Monitored.Later.refl (slots index)

theorem Later.trans {first second third : MonitoredSlots} (before : Later first second)
    (after : Later second third) : Later first third :=
  fun index => (before index).trans (after index)

theorem later_monitor {act : SlotAction} {slots : MonitoredSlots} (room : Room slots act) :
    Later slots (act.monitor slots).2 := by
  intro index
  by_cases own : index = act.slot
  · subst own
    simpa [SlotAction.monitor] using Monitored.later_onMonitored room
  · simpa [SlotAction.monitor, own] using Monitored.Later.refl (slots index)

theorem coherent_monitor {act : SlotAction} {slots : MonitoredSlots} (coherent : Coherent slots)
    (justified : (slots act.slot).Justified act) : Coherent (act.monitor slots).2 := by
  intro index
  by_cases own : index = act.slot
  · subst own
    simpa [SlotAction.monitor] using Monitored.coherent_onMonitored (coherent act.slot) justified
  · simpa [SlotAction.monitor, own] using coherent index

end MonitoredSlots

abbrev Guarded {α : Type} (p : SlotProg α) (slots : MonitoredSlots) : Prop :=
  Safe SlotAction.monitor MonitoredSlots.Later MonitoredSlots.Coherent MonitoredSlots.Room
    (fun _ _ => True) p slots

namespace Guarded

open MonitoredSlots

variable {α β : Type} {slots : MonitoredSlots}

theorem pure (value : α) : Guarded (pure value : SlotProg α) slots :=
  Safe.pure fun _ _ _ => trivial

theorem bind {p : SlotProg α} {f : α → SlotProg β} (first : Guarded p slots)
    (rest : ∀ value after, Guarded (f value) after) : Guarded (p >>= f) slots := by
  refine Safe.bind ?_ first Later.refl fun value after _ _ => rest value after
  intro _ _ _ before after
  exact Later.trans before after

theorem perform_bind {act : SlotAction} {f : act.Res → SlotProg α}
    (justified : ∀ during, Later slots during → (during act.slot).Justified act)
    (rest : ∀ during, Later slots during → Later during (act.monitor during).2 →
      Guarded (f (act.monitor during).1) (act.monitor during).2) :
    Guarded (SlotProg.perform act >>= f) slots := by
  refine Safe.perform_bind fun during after coherent room => ?_
  have moved := later_monitor room
  exact ⟨coherent_monitor coherent (justified during after), moved, rest during after moved⟩

end Guarded

section Loads

open MonitoredSlots

variable (registry : CertSlotRegistry) (slot : SlotIndex) (client : ClientId)
  (created : Expected Unit)

theorem checkReadAccess_ok {config : CertSlotConfig} (found : registry.getConfig slot = .ok config) :
    registry.checkReadAccess slot client = .ok () := by
  unfold CertSlotRegistry.getConfig at found
  unfold CertSlotRegistry.checkReadAccess
  split at found
  case isTrue valid => rw [if_pos valid]
  case isFalse => cases found

theorem loadCertificate_eq : loadCertificate registry slot client created =
    loadCertificateForTrustStore registry slot created := by
  unfold loadCertificate loadCertificateForTrustStore
  cases found : registry.getConfig slot with
  | error e => rfl
  | ok config => rw [checkReadAccess_ok registry slot client found]

theorem loadCrlData_eq : loadCrlData registry slot client created =
    loadCrlDataForTrustStore registry slot created := by
  unfold loadCrlData loadCrlDataForTrustStore
  cases found : registry.getConfig slot with
  | error e => rfl
  | ok config => rw [checkReadAccess_ok registry slot client found]

/-- A part that still has the generation of an earlier section, and is not stale, holds what has
been read of it in the meantime. -/
theorem samePart_of_generation {first read last : MonitoredSlots} {part : SlotPart}
    (before : Later first read) (after : Later read last)
    (same : (last slot).generation part = (first slot).generation part)
    (clean : (last slot).stale part = false) :
    (read slot).SamePart (last slot).toSlot part := by
  have between : (read slot).generation part = (last slot).generation part := by
    apply UInt64.toNat.inj
    have lower := (before slot part).1
    have upper := (after slot part).1
    rw [same] at upper ⊢
    omega
  exact ((after slot part).2 between clean).2

/-- What has been read since a section may be cached under the generation of that section. -/
theorem loadCertificateCached_guarded (slots : MonitoredSlots) :
    Guarded (loadCertificateCached slot created) slots := by
  refine .perform_bind (fun _ _ => trivial) fun first _ moved => ?_
  rcases found : (SlotAction.monitor (.findCertificate slot created) first).1
    with e | ⟨certificate | generation⟩
  · exact .pure _
  · exact .pure _
  · have own := ((first slot).findCertificate_spec created).2.2.miss _ found
    refine .perform_bind (fun _ _ => trivial) fun read before read' => ?_
    rcases held : (SlotAction.monitor (.readCertificate slot) read).1 with e | certificate
    · exact .pure _
    · refine .perform_bind (fun last after same clean => ?_) fun _ _ _ => .pure _
      have part : (read slot).SamePart (last slot).toSlot .certificate :=
        samePart_of_generation slot (moved.trans before) (read'.trans after)
          (same.trans own.symm) clean
      exact part.symm.trans held

theorem getOrLoadCrlState_guarded (slots : MonitoredSlots) :
    Guarded (getOrLoadCrlState slot) slots := by
  refine .perform_bind (fun _ _ => trivial) fun first _ moved => ?_
  rcases found : (SlotAction.monitor (.findCrlState slot) first).1 with state | generation
  · exact .pure _
  · have own := (first slot).findCrlState_spec.2 generation found
    refine .perform_bind (fun _ _ => trivial) fun read before read' => ?_
    rcases held : (SlotAction.monitor (.readHasCrl slot) read).1 with e | _ | _
    · exact .pure _
    · refine .perform_bind (fun last after same clean => ?_) fun _ _ _ => .pure _
      have part : (read slot).SamePart (last slot).toSlot .crl :=
        samePart_of_generation slot (moved.trans before) (read'.trans after)
          (same.trans own.symm) clean
      have absent : (last slot).content.crl.hasCrl = .ok false := part ▸ held
      exact CrlContent.state_absent absent
    · refine .perform_bind (fun _ _ => trivial) fun again between again' => ?_
      rcases metadata : (SlotAction.monitor (.readCrlMetadata slot) again).1 with e | described
      · exact .pure _
      · refine .perform_bind (fun last after same clean => ?_) fun _ _ _ => .pure _
        have part : (read slot).SamePart (last slot).toSlot .crl :=
          samePart_of_generation slot (moved.trans before)
            ((read'.trans between).trans (again'.trans after)) (same.trans own.symm) clean
        have part' : (again slot).SamePart (last slot).toSlot .crl :=
          samePart_of_generation slot ((moved.trans before).trans (read'.trans between))
            (again'.trans after) (same.trans own.symm) clean
        have present : (last slot).content.crl.hasCrl = .ok true := part ▸ held
        have described' : (last slot).content.crl.metadata = .ok described := part' ▸ metadata
        exact CrlContent.state_present present described'

theorem getOrLoadCrlData_guarded (slots : MonitoredSlots) :
    Guarded (getOrLoadCrlData slot created) slots := by
  refine .perform_bind (fun _ _ => trivial) fun first _ moved => ?_
  rcases found : (SlotAction.monitor (.findCrlData slot created) first).1
    with e | ⟨snapshot | generation⟩
  · exact .pure _
  · exact .pure _
  · have own := ((first slot).findCrlData_spec created).2.2.miss _ found
    refine .perform_bind (fun _ _ => trivial) fun read before read' => ?_
    rcases held : (SlotAction.monitor (.readCrlData slot) read).1 with e | snapshot
    · exact .pure _
    · refine .perform_bind (fun last after same clean => ?_) fun _ _ _ => .pure _
      have part : (read slot).SamePart (last slot).toSlot .crl :=
        samePart_of_generation slot (moved.trans before) (read'.trans after)
          (same.trans own.symm) clean
      have held' : (last slot).content.crl.data = .ok snapshot := part ▸ held
      exact held'

theorem getCrlStateChecked_guarded (slots : MonitoredSlots) :
    Guarded (getCrlStateChecked registry slot client created) slots := by
  unfold getCrlStateChecked
  rcases registry.getConfig slot with e | config
  · exact .pure _
  · rcases registry.checkReadAccess slot client with e | _
    · exact .pure _
    · refine .perform_bind (fun _ _ => trivial) fun during _ _ => ?_
      split
      · exact .pure _
      · exact getOrLoadCrlState_guarded slot _

theorem writeSlot_guarded (operation : SlotWrite) (slots : MonitoredSlots) :
    Guarded (writeSlot registry slot client created operation) slots := by
  unfold writeSlot
  rcases registry.getConfig slot with e | config
  · exact .pure _
  · rcases registry.checkWriteAccess slot client with e | _
    · exact .pure _
    · refine .perform_bind (fun _ _ => trivial) fun during _ _ => ?_
      split
      · exact .pure _
      · refine .perform_bind (fun _ _ => trivial) fun during _ _ => ?_
        refine .perform_bind (fun _ _ => ?_) fun during _ _ => .pure _
        cases operation <;> trivial

theorem checked_guarded {α : Type} {load : SlotProg (Expected α)}
    {slots : MonitoredSlots} (guarded : Guarded load slots) :
    Guarded (match registry.getConfig slot with
      | .error e => pure (.error e)
      | .ok _ => load) slots := by
  cases registry.getConfig slot with
  | error e => exact .pure _
  | ok config => exact guarded

theorem SlotLoad.program_guarded (what : SlotLoad) (slots : MonitoredSlots) :
    Guarded (what.program registry slot created) slots := by
  have certificate := checked_guarded registry slot (loadCertificateCached_guarded slot created slots)
  have data := checked_guarded registry slot (getOrLoadCrlData_guarded slot created slots)
  cases what <;> refine .bind ?_ fun _ _ => .pure _
  case certificate client => exact loadCertificate_eq registry slot client created ▸ certificate
  case certificateForTrustStore => exact certificate
  case crlData client => exact loadCrlData_eq registry slot client created ▸ data
  case crlDataForTrustStore => exact data
  all_goals
    refine .bind (getCrlStateChecked_guarded registry slot _ created slots) fun state _ => ?_
    cases state <;> exact .pure _

theorem SlotRequest.program_guarded (request : SlotRequest) (slots : MonitoredSlots) :
    Guarded (request.program registry) slots := by
  cases request with
  | load slot created what => exact what.program_guarded registry slot created slots
  | update slot created client what result =>
    refine .bind ?_ fun _ _ => .pure _
    cases what <;> exact writeSlot_guarded registry slot client created _ slots
  | _ => exact .perform_bind (fun _ _ => trivial) fun _ _ _ => .pure _

end Loads

end ScoreCrypto.CertManagement
