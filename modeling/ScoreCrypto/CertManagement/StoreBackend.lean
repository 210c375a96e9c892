import ScoreCrypto.CertManagement.SlotCoherence
import ScoreCrypto.CertManagement.StoreState

/-!
The slots and the state file of a trust store while every file operation succeeds. As long as the
slot manager's caches agree with the slots, and what is written can be read again, the store reads
what it has written.
-/

namespace ScoreCrypto.CertManagement

open Storage Stateful Program

structure Backend where
  slots : SlotManager
  file : Option Bytes

namespace Backend

variable (backend : Backend) (slot : SlotIndex)

def content : SlotContent :=
  (backend.slots slot).content

def setContent (content : SlotContent) : Backend :=
  { backend with
    slots := Function.update backend.slots slot { backend.slots slot with content := content } }

def viaManager {α : Type} (program : SlotProg α) : α × Backend :=
  let result := exec SlotAction.handle program backend.slots
  (result.1, { backend with slots := result.2 })

end Backend

def SlotContent.slotState (content : SlotContent) : CertificateSlotState :=
  match content.certificate with
  | .ok _ => .occupied
  | .error e => if TrustStore.isEmptySlotError e then .empty else .occupied

/-- What becomes of what is written. After a certificate is stored, `fetch` gives the `cert_hash` of
the slot's descriptor if that and the file can be read, and `parse` what is parsed of the file; a
stored CRL leaves the slot as `storedCrl`, which is as it was with `crl` if it can be read. -/
structure Medium where
  order : HashOrder
  fetch : SlotIndex → CertObject → Expected Bytes
  parse : CertObject → Expected CertObject
  crl : SlotContent → CrlData → CrlData
  storedCrl : SlotIndex → SlotContent → CrlData → SlotContent

/-- `LoadCertificateUnlocked` after a certificate was stored, which never writes a hash. -/
def Medium.loadStored (medium : Medium) (registry : CertSlotRegistry) (slot : SlotIndex)
    (certificate : CertObject) : Expected CertObject := do
  let config ← registry.getConfig slot
  let certHash ← medium.fetch slot certificate
  if config.integrityPolicy = .required ∧ certHash = [] then throw .invalidArgument
  medium.parse certificate

/-- What an action answers and does. A certificate replaces the CRL of the one before. -/
def StoreAction.serve (registry : CertSlotRegistry) (medium : Medium) :
    (act : StoreAction) → Backend → act.Res × Backend
  | .hasHandler slot, backend =>
    (true, (backend.viaManager (SlotProg.perform (.getOrCreate slot (.ok ())))).2)
  | .loadCertificate slot, backend =>
    backend.viaManager (loadCertificateForTrustStore registry slot (.ok ()))
  | .loadCrlData slot, backend =>
    backend.viaManager (loadCrlDataForTrustStore registry slot (.ok ()))
  | .readCertificate slot, backend => ((backend.content slot).certificate, backend)
  | .readSlotState slot, backend => (.ok (backend.content slot).slotState, backend)
  | .storeCertificate slot certificate, backend =>
    (.ok (), backend.setContent slot
      { certificate := medium.loadStored registry slot certificate, crl := .none })
  | .clearSlot slot, backend =>
    (.ok (), backend.setContent slot { certificate := .error .resourceNotAllocated, crl := .none })
  | .storeCrl slot crl, backend =>
    (.ok (), backend.setContent slot (medium.storedCrl slot (backend.content slot) crl))
  | .clearCrl slot, backend =>
    (.ok (), backend.setContent slot { backend.content slot with crl := .none })
  | .invalidateSlotCaches slot, backend =>
    ((), (backend.viaManager (SlotProg.perform (.invalidateSlotCaches slot))).2)
  | .invalidateCrl slot, backend =>
    ((), (backend.viaManager (SlotProg.perform (.invalidateCrl slot))).2)
  | .fileExists, backend => (.ok backend.file.isSome, backend)
  | .loadDescriptor, backend => (load backend.file, backend)
  | .writeDescriptor descriptor, backend =>
    match write medium.order descriptor with
    | .ok bytes => (.ok (), { backend with file := some bytes })
    | .error e => (.error e, backend)

/-- What the action writes can be read again as it was written. -/
def StoreAction.ReadsBack (registry : CertSlotRegistry) (medium : Medium) (act : StoreAction)
    (backend : Backend) : Prop :=
  match act with
  | .storeCertificate slot certificate =>
    medium.loadStored registry slot certificate = .ok certificate
  | .storeCrl slot crl => medium.storedCrl slot (backend.content slot) crl =
      { backend.content slot with crl := .some (medium.crl (backend.content slot) crl) }
  | .writeDescriptor descriptor =>
    ∃ bytes, write medium.order descriptor = .ok bytes ∧ load (some bytes) = .ok descriptor
  | _ => True

def Slot.Coherent (slot : Slot) : Prop :=
  ∀ part, slot.Agrees part

structure SameContent (slots slots' : SlotManager) : Prop where
  content : ∀ slot, (slots' slot).content = (slots slot).content
  coherent : ∀ slot, (slots slot).Coherent → (slots' slot).Coherent

/-! ### Actions of the store -/

def StoreAction.Acts (registry : CertSlotRegistry) (medium : Medium) (act : StoreAction)
    (backend : Backend) (answer : act.Res) (backend' : Backend) : Prop :=
  act.serve registry medium backend = (answer, backend')

def Backend.Coherent (backend : Backend) : Prop :=
  ∀ slot, (backend.slots slot).Coherent

/-! ### Without the caches -/

structure Files where
  content : SlotIndex → SlotContent
  file : Option DeploymentDescriptor

structure Backend.Reads (backend : Backend) (files : Files) : Prop where
  content : backend.content = files.content
  file : match files.file with
    | none => backend.file = none
    | some descriptor => load backend.file = .ok descriptor

variable {backend : Backend} {files : Files}

theorem Backend.Reads.isSome_file (reads : backend.Reads files) :
    backend.file.isSome = files.file.isSome := by
  have file := reads.file
  split at file
  · simp_all
  · cases there : backend.file with
    | none =>
      rw [there] at file
      cases file
    | some bytes => simp_all

theorem Backend.Reads.load_file (reads : backend.Reads files) :
    load backend.file = match files.file with
      | none => .error .resourceNotAllocated
      | some descriptor => .ok descriptor := by
  have file := reads.file
  split at file
  · rw [file]
    rfl
  · exact file

theorem Backend.Reads.file_eq {backend' : Backend} {files' : Files}
    (reads : backend.Reads files) (reads' : backend'.Reads files')
    (same : backend'.file = backend.file) : files'.file = files.file := by
  have loads := reads'.load_file
  rw [same, reads.load_file] at loads
  split at loads <;> split at loads <;> simp_all

def Files.put (files : Files) (slot : SlotIndex) (content : SlotContent) : Files :=
  { files with content := Function.update files.content slot content }

@[simp] theorem Files.put_put (files : Files) (slot : SlotIndex) (content content' : SlotContent) :
    (files.put slot content).put slot content' = files.put slot content' := by
  simp [put]

@[simp] theorem Files.put_self (files : Files) (slot : SlotIndex) :
    files.put slot (files.content slot) = files := by
  simp [put]

@[simp] theorem Files.content_put (files : Files) (slot : SlotIndex) (content : SlotContent) :
    (files.put slot content).content slot = content := by
  simp [put]

/-- What an action would answer and do if the manager cached nothing and everything could be read
again. -/
def StoreAction.plain (readBack : SlotContent → CrlData → CrlData) :
    (act : StoreAction) → Files → act.Res × Files
  | .hasHandler _, files => (true, files)
  | .loadCertificate slot, files => ((files.content slot).certificate, files)
  | .loadCrlData slot, files => ((files.content slot).crl.data, files)
  | .readCertificate slot, files => ((files.content slot).certificate, files)
  | .readSlotState slot, files => (.ok (files.content slot).slotState, files)
  | .storeCertificate slot certificate, files =>
    (.ok (), files.put slot { certificate := .ok certificate, crl := .none })
  | .clearSlot slot, files =>
    (.ok (), files.put slot { certificate := .error .resourceNotAllocated, crl := .none })
  | .storeCrl slot crl, files =>
    (.ok (), files.put slot
      { files.content slot with crl := .some (readBack (files.content slot) crl) })
  | .clearCrl slot, files => (.ok (), files.put slot { files.content slot with crl := .none })
  | .invalidateSlotCaches _, files => ((), files)
  | .invalidateCrl _, files => ((), files)
  | .fileExists, files => (.ok files.file.isSome, files)
  | .loadDescriptor, files =>
    (match files.file with
      | none => .error .resourceNotAllocated
      | some descriptor => .ok descriptor, files)
  | .writeDescriptor descriptor, files => (.ok (), { files with file := some descriptor })

/-- What a write leaves to be invalidated; `anything` after an action that should have waited. -/
inductive Due where
  | nothing
  | caches (slot : SlotIndex)
  | crl (slot : SlotIndex)
  | anything

namespace Due

def stale : Due → SlotIndex → SlotPart → Bool
  | nothing, _, _ => false
  | caches slot, other, _ => other = slot
  | crl slot, other, part => other = slot && part = .crl
  | anything, _, _ => true

def Admits (registry : CertSlotRegistry) : Due → StoreAction → Prop
  | nothing, .loadCertificate slot => ∃ config, registry.getConfig slot = .ok config
  | nothing, .loadCrlData slot => ∃ config, registry.getConfig slot = .ok config
  | nothing, _ => True
  | caches slot, act => act = .invalidateSlotCaches slot
  | crl slot, act => act = .invalidateCrl slot
  | anything, _ => False

end Due

def StoreAction.owes : StoreAction → Due
  | .storeCertificate slot _ => .caches slot
  | .clearSlot slot => .caches slot
  | .storeCrl slot _ => .crl slot
  | .clearCrl slot => .crl slot
  | _ => .nothing

structure Lags (due : Due) (files : Files) (backend : Backend) : Prop where
  reads : backend.Reads files
  fresh : ∀ slot, Monitored.Coherent ⟨backend.slots slot, due.stale slot⟩

section Lags

variable {registry : CertSlotRegistry} {medium : Medium} {due due' : Due} {files : Files}
  {backend backend' : Backend} {slot : SlotIndex} {config : CertSlotConfig}

theorem Lags.coherent (lags : Lags .nothing files backend) : backend.Coherent :=
  fun slot part => lags.fresh slot part rfl

theorem Backend.Coherent.lags (coherent : backend.Coherent) (reads : backend.Reads files) :
    Lags .nothing files backend :=
  ⟨reads, fun slot part _ => coherent slot part⟩

theorem Lags.update {after : Slot} (lags : Lags due files backend)
    (others : ∀ other part, other ≠ slot → due.stale other part = false)
    (fresh : Monitored.Coherent ⟨after, due'.stale slot⟩) :
    Lags due' (files.put slot after.content)
      { backend with slots := Function.update backend.slots slot after } := by
  refine ⟨⟨?_, lags.reads.file⟩, fun other part clean => ?_⟩
  · rw [Files.put, ← lags.reads.content]
    exact Function.comp_update Slot.content backend.slots slot after
  · rcases eq_or_ne other slot with rfl | differ
    · simpa using fresh part clean
    · simpa [differ] using lags.fresh other part (others other part differ)

theorem Lags.content (lags : Lags due files backend) (slot : SlotIndex) :
    (backend.slots slot).content = files.content slot :=
  congrFun lags.reads.content slot

theorem Lags.manager (act : SlotAction) (lags : Lags due files backend)
    (clean : ∀ part, act.stains part = false)
    (done : ∀ slot part, due.stale slot part = true → slot = act.slot ∧ act.clears part = true)
    (justified : Monitored.Justified ⟨backend.slots act.slot, due.stale act.slot⟩ act) :
    Lags .nothing files { backend with slots := (act.handle backend.slots).2 } := by
  have same (part : SlotPart) := act.samePart_onSlot (backend.slots act.slot) part (clean part)
  have content : files.content act.slot = (act.onSlot (backend.slots act.slot)).2.content := by
    rw [← lags.content]
    exact congrArg₂ SlotContent.mk (same .certificate) (same .crl)
  rw [← files.put_self act.slot, content]
  refine lags.update (fun other part differ => ?_) fun part _ => ?_
  · by_contra stale
    exact differ (done other part (by simpa using stale)).1
  · refine Monitored.coherent_onMonitored (lags.fresh act.slot) justified part ?_
    have cleared := done act.slot part
    cases stale : due.stale act.slot part <;> simp_all [SlotAction.onMonitored]

theorem Lags.manage (act : SlotAction) (lags : Lags .nothing files backend)
    (clean : ∀ part, act.stains part = false)
    (justified : Monitored.Justified { toSlot := backend.slots act.slot } act) :
    Lags .nothing files { backend with slots := (act.handle backend.slots).2 } :=
  lags.manager act clean (by simp [Due.stale]) justified

section Loads

variable (lags : Lags .nothing files backend) (known : registry.getConfig slot = .ok config)

include lags known

theorem Lags.loadCertificate :
    (backend.viaManager (loadCertificateForTrustStore registry slot (.ok ()))).1 =
        (files.content slot).certificate ∧
      Lags .nothing files
        (backend.viaManager (loadCertificateForTrustStore registry slot (.ok ()))).2 := by
  have left := lags.manage (.findCertificate slot (.ok ())) (fun _ => rfl) trivial
  have found : Slot.Finds _ _ _ ((SlotAction.findCertificate slot (.ok ())).handle backend.slots).1 :=
    ((backend.slots slot).findCertificate_spec (.ok ())).2.2
  simp only [Backend.viaManager, loadCertificateForTrustStore, known, loadCertificateCached, exec_bind,
    exec_perform]
  generalize (SlotAction.findCertificate slot (.ok ())).handle backend.slots = result at found left ⊢
  rcases result with ⟨e | certificate | generation, slots⟩
  · cases found.error e rfl
  · rw [← lags.content]
    exact ⟨(lags.coherent slot .certificate certificate (found.hit certificate rfl)).symm, left⟩
  · have held := left.content slot
    simp only [exec_bind, exec_perform, SlotAction.handle, SlotAction.onSlot, SlotAction.slot,
      Function.update_eq_self]
    rw [← held]
    cases read : (slots slot).content.certificate with
    | error e => exact ⟨rfl, left⟩
    | ok certificate =>
      exact ⟨rfl, left.manage (.cacheCertificate slot generation certificate) (fun _ => rfl)
        fun _ _ => read⟩

theorem Lags.loadCrlData :
    (backend.viaManager (loadCrlDataForTrustStore registry slot (.ok ()))).1 =
        (files.content slot).crl.data ∧
      Lags .nothing files
        (backend.viaManager (loadCrlDataForTrustStore registry slot (.ok ()))).2 := by
  have left := lags.manage (.findCrlData slot (.ok ())) (fun _ => rfl) trivial
  have found : Slot.Finds _ _ _ ((SlotAction.findCrlData slot (.ok ())).handle backend.slots).1 :=
    ((backend.slots slot).findCrlData_spec (.ok ())).2.2
  simp only [Backend.viaManager, loadCrlDataForTrustStore, known, getOrLoadCrlData, exec_bind,
    exec_perform]
  generalize (SlotAction.findCrlData slot (.ok ())).handle backend.slots = result at found left ⊢
  rcases result with ⟨e | snapshot | generation, slots⟩
  · cases found.error e rfl
  · rw [← lags.content]
    refine ⟨Eq.symm ?_, left⟩
    cases snapshot with
    | some crl => exact (lags.coherent slot .crl).2 crl ((found.hit _ rfl).1 crl rfl)
    | none =>
      rcases (found.hit _ rfl).2 rfl with ⟨state, cached, missing⟩
      exact ((backend.slots slot).content.crl.absent.mp
        (CrlContent.hasCrl_of_state ((lags.coherent slot .crl).1 state cached) missing))
  · have held := left.content slot
    simp only [exec_bind, exec_perform, SlotAction.handle, SlotAction.onSlot, SlotAction.slot,
      Function.update_eq_self]
    rw [← held]
    cases read : (slots slot).content.crl.data with
    | error e => exact ⟨rfl, left⟩
    | ok snapshot =>
      exact ⟨rfl, left.manage (.cacheCrlData slot generation snapshot) (fun _ => rfl)
        fun _ _ => read⟩

end Loads

theorem Lags.setContent {content : SlotContent} (lags : Lags .nothing files backend)
    (fresh : ∀ part, due.stale slot part = false →
      Slot.Agrees { backend.slots slot with content := content } part) :
    Lags due (files.put slot content) (backend.setContent slot content) :=
  lags.update (fun _ _ _ => rfl) fresh

theorem Lags.step {act : StoreAction} {answer : act.Res} (lags : Lags due files backend)
    (admits : due.Admits registry act) (back : act.ReadsBack registry medium backend)
    (acts : StoreAction.Acts registry medium act backend answer backend') :
    answer = (act.plain medium.crl files).1 ∧
      Lags act.owes (act.plain medium.crl files).2 backend' := by
  cases due with
  | anything => exact admits.elim
  | caches slot =>
    subst admits
    cases acts
    exact ⟨rfl, lags.manager (.invalidateSlotCaches slot) (fun _ => rfl)
      (by simp [Due.stale, SlotAction.slot, SlotAction.clears]) trivial⟩
  | crl slot =>
    subst admits
    cases acts
    exact ⟨rfl, lags.manager (.invalidateCrl slot) (fun _ => rfl)
      (by simp [Due.stale, SlotAction.slot, SlotAction.clears]) trivial⟩
  | nothing =>
    have crls (slot : SlotIndex) (crl : CrlContent) : ∀ part, (Due.crl slot).stale slot part = false →
        Slot.Agrees { backend.slots slot with
          content := { backend.content slot with crl := crl } } part := by
      intro part clean
      cases part with
      | certificate => exact lags.coherent slot .certificate
      | crl => simp [Due.stale] at clean
    cases act with
    | loadCertificate slot =>
      rcases admits with ⟨config, known⟩
      cases acts
      exact lags.loadCertificate known
    | loadCrlData slot =>
      rcases admits with ⟨config, known⟩
      cases acts
      exact lags.loadCrlData known
    | hasHandler slot =>
      cases acts
      exact ⟨rfl, lags.manage (.getOrCreate slot (.ok ())) (fun _ => rfl) trivial⟩
    | invalidateSlotCaches slot =>
      cases acts
      exact ⟨rfl, lags.manage (.invalidateSlotCaches slot) (fun _ => rfl) trivial⟩
    | invalidateCrl slot =>
      cases acts
      exact ⟨rfl, lags.manage (.invalidateCrl slot) (fun _ => rfl) trivial⟩
    | storeCertificate slot certificate =>
      cases acts
      rw [(back : _ = _)]
      exact ⟨rfl, lags.setContent fun part clean => by simp [StoreAction.owes, Due.stale] at clean⟩
    | clearSlot slot =>
      cases acts
      exact ⟨rfl, lags.setContent fun part clean => by simp [StoreAction.owes, Due.stale] at clean⟩
    | storeCrl slot crl =>
      cases acts
      rw [(back : _ = _), StoreAction.plain, ← lags.content]
      exact ⟨rfl, lags.setContent (crls slot _)⟩
    | clearCrl slot =>
      cases acts
      rw [StoreAction.plain, ← lags.content]
      exact ⟨rfl, lags.setContent (crls slot _)⟩
    | readCertificate | readSlotState =>
      cases acts
      rw [StoreAction.plain, ← lags.content]
      exact ⟨rfl, lags.reads, lags.fresh⟩
    | fileExists =>
      cases acts
      refine ⟨?_, lags.reads, lags.fresh⟩
      rw [StoreAction.plain, lags.reads.isSome_file]
    | loadDescriptor =>
      cases acts
      refine ⟨?_, lags.reads, lags.fresh⟩
      rw [StoreAction.plain, lags.reads.load_file]
    | writeDescriptor descriptor =>
      rcases back with ⟨bytes, written, read⟩
      simp only [StoreAction.Acts, StoreAction.serve, written] at acts
      cases acts
      exact ⟨rfl, ⟨lags.reads.content, read⟩, lags.fresh⟩

theorem Backend.Reads.serve {act : StoreAction} {answer : act.Res} (reads : backend.Reads files)
    (back : act.ReadsBack registry medium backend)
    (acts : StoreAction.Acts registry medium act backend answer backend') :
    ∃ file, backend'.Reads ⟨backend'.content, file⟩ := by
  cases act with
  | writeDescriptor descriptor =>
    rcases back with ⟨bytes, written, read⟩
    simp only [StoreAction.Acts, StoreAction.serve, written] at acts
    cases acts
    exact ⟨some descriptor, rfl, read⟩
  | _ =>
    cases acts
    exact ⟨files.file, rfl, reads.file⟩

end Lags

def StoreAction.Plainly (registry : CertSlotRegistry) (readBack : SlotContent → CrlData → CrlData)
    (act : StoreAction) (state : Files × Due) (answer : act.Res) (state' : Files × Due) : Prop :=
  state.2.Admits registry act → act.plain readBack state.1 = (answer, state'.1) ∧ state'.2 = act.owes

/-- A program does over the manager's caches what it does without them, as long as what it writes
can be read again. -/
theorem surely_of_plain {registry : CertSlotRegistry} {medium : Medium}
    {α : Type} {due : Due} {p : Program StoreAction StoreAction.Res α} {post : α → Files × Due → Prop}
    (lags : Lags due files backend)
    (holds : Surely (StoreAction.Plainly registry medium.crl) post p (files, due)) :
    Surely (fun act backend answer backend' => act.ReadsBack registry medium backend ∧
        act.Acts registry medium backend answer backend')
      (fun value backend' => ∃ state, Lags state.2 state.1 backend' ∧ post value state) p backend := by
  induction p generalizing due files backend with
  | done value => exact ⟨_, lags, holds⟩
  | call act next ih =>
    rintro answer backend' ⟨back, acts⟩
    by_cases admits : due.Admits registry act
    · rcases lags.step admits back acts with ⟨rfl, lags'⟩
      exact ih _ lags' (holds _ (_, _) fun _ => ⟨rfl, rfl⟩)
    · rcases lags.reads.serve back acts with ⟨file, reads⟩
      have lags' : Lags .anything _ backend' := ⟨reads, fun _ _ clean => by cases clean⟩
      exact ih _ lags' (holds _ (_, _) fun admitted => absurd admitted admits)

end ScoreCrypto.CertManagement
