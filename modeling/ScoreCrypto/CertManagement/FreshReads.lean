import ScoreCrypto.CertManagement.SlotCoherence

/-! What a load of a certificate slot returns while no write to the slot is in flight. -/

namespace ScoreCrypto.CertManagement

open Program Run Storage

/-! ### Loads while no write is on its way -/

def SlotLoad.uncached (content : SlotContent) : SlotLoad → SlotResponse
  | .certificate _ => .certificate content.certificate
  | .certificateForTrustStore => .certificate content.certificate
  | .hasCrl _ => .presence (content.crl.state.map CrlState.hasCrl)
  | .crlMetadata _ => .metadata (content.crl.state.map CrlState.metadata)
  | .crlNextUpdate _ => .nextUpdate (content.crl.state.bind nextUpdateOf)
  | .crlData _ => .crl content.crl.data
  | .crlDataForTrustStore => .crl content.crl.data

def SlotLoad.failure (e : DaemonErrorCode) : SlotLoad → SlotResponse
  | .certificate _ => .certificate (.error e)
  | .certificateForTrustStore => .certificate (.error e)
  | .hasCrl _ => .presence (.error e)
  | .crlMetadata _ => .metadata (.error e)
  | .crlNextUpdate _ => .nextUpdate (.error e)
  | .crlData _ => .crl (.error e)
  | .crlDataForTrustStore => .crl (.error e)

/-- The slot is not configured, or it has no handler and none can be made. -/
def Refuses (registry : CertSlotRegistry) (slot : SlotIndex) (created : Expected Unit)
    (e : DaemonErrorCode) : Prop :=
  registry.getConfig slot = .error e ∨ created = .error e

/-- The load returns what the storage holds, unless it is refused. -/
def Fresh (registry : CertSlotRegistry) (slot : SlotIndex) (created : Expected Unit)
    (what : SlotLoad) (content : SlotContent) (response : SlotResponse) : Prop :=
  response = what.uncached content ∨
    ∃ e, Refuses registry slot created e ∧ response = what.failure e

def Answered (slot : SlotIndex) (content : SlotContent) (act : SlotAction) (_ : Unit)
    (answer : act.Res) (_ : Unit) : Prop :=
  act.slot = slot → ∃ current : Slot, current.content = content ∧
    (∀ part, current.Agrees part) ∧ (act.onSlot current).1 = answer

section Undisturbed

variable (registry : CertSlotRegistry) (slot : SlotIndex) (client : ClientId)
  (created : Expected Unit) (content : SlotContent)

def Yields {α : Type} (held : Expected α) (load : SlotProg (Expected α)) :
    Prop :=
  Surely (Answered slot content)
    (fun loaded _ => loaded = held ∨ ∃ e, Refuses registry slot created e ∧ loaded = .error e) load ()

theorem loadCertificateCached_yields :
    Yields registry slot created content content.certificate (loadCertificateCached slot created) := by
  refine .perform_bind fun found _ may => ?_
  rcases may rfl with ⟨current, rfl, agrees, answer⟩
  have finds := (current.findCertificate_spec created).2.2
  rcases found with e | ⟨certificate | generation⟩
  · exact .inr ⟨e, .inr (finds.error e answer), rfl⟩
  · exact .inl (agrees .certificate certificate (finds.hit certificate answer)).symm
  · refine .perform_bind fun read _ may => ?_
    rcases may rfl with ⟨later, same, -, answer⟩
    rw [← same, show later.content.certificate = read from answer]
    cases read with
    | error e => exact .inl rfl
    | ok certificate => exact fun _ _ _ => .inl rfl

theorem getOrLoadCrlState_yields :
    Yields registry slot created content content.crl.state (getOrLoadCrlState slot) := by
  refine .perform_bind fun found _ may => ?_
  rcases may rfl with ⟨current, same, agrees, answer⟩
  cases found with
  | hit state =>
    subst same
    exact .inl ((agrees .crl).1 state (current.findCrlState_spec.1 state answer)).symm
  | miss generation =>
    refine .perform_bind fun present _ may => ?_
    rcases may rfl with ⟨current, same, -, answer⟩
    change current.content.crl.hasCrl = present at answer
    rw [same] at answer
    rcases present with e | _ | _
    · exact Or.inl (by simp [CrlContent.state, answer])
    · exact fun _ _ _ => .inl (CrlContent.state_absent answer).symm
    · refine .perform_bind fun metadata _ may => ?_
      rcases may rfl with ⟨current, same, -, described⟩
      change current.content.crl.metadata = metadata at described
      rw [same] at described
      cases metadata with
      | error e => exact Or.inl (by simp [CrlContent.state, answer, described])
      | ok metadata => exact fun _ _ _ => .inl (CrlContent.state_present answer described).symm

theorem getOrLoadCrlData_yields :
    Yields registry slot created content content.crl.data (getOrLoadCrlData slot created) := by
  refine .perform_bind fun found _ may => ?_
  rcases may rfl with ⟨current, rfl, agrees, answer⟩
  have finds := (current.findCrlData_spec created).2.2
  rcases found with e | ⟨snapshot | generation⟩
  · exact .inr ⟨e, .inr (finds.error e answer), rfl⟩
  · rcases finds.hit snapshot answer with ⟨held, absent⟩
    left
    cases snapshot with
    | some crl => exact ((agrees .crl).2 crl (held crl rfl)).symm
    | none =>
      rcases absent rfl with ⟨state, cached, missing⟩
      exact (current.content.crl.absent.mp
        (CrlContent.hasCrl_of_state ((agrees .crl).1 state cached) missing)).symm
  · refine .perform_bind fun read _ may => ?_
    rcases may rfl with ⟨later, same, -, answer⟩
    rw [← same, show later.content.crl.data = read from answer]
    cases read with
    | error e => exact .inl rfl
    | ok snapshot => exact fun _ _ _ => .inl rfl

variable {slot content registry created} {α : Type} {held : Expected α}
  {load : SlotProg (Expected α)}

theorem Yields.checked (yields : Yields registry slot created content held load) :
    Yields registry slot created content held (match registry.getConfig slot with
      | .error e => pure (.error e)
      | .ok _ => load) := by
  cases found : registry.getConfig slot with
  | error e => exact .inr ⟨e, .inl found, rfl⟩
  | ok config => exact yields

theorem getCrlStateChecked_yields :
    Yields registry slot created content content.crl.state
      (getCrlStateChecked registry slot client created) := by
  unfold getCrlStateChecked
  cases found : registry.getConfig slot with
  | error e => exact .inr ⟨e, .inl found, rfl⟩
  | ok config =>
    rw [checkReadAccess_ok registry slot client found]
    refine .perform_bind fun made _ may => ?_
    rcases may rfl with ⟨current, -, -, answer⟩
    cases made with
    | error e => exact .inr ⟨e, .inr ((current.getOrCreate_spec created).2.2 e answer), rfl⟩
    | ok _ => exact getOrLoadCrlState_yields registry slot created content

theorem Yields.fresh {what : SlotLoad} {respond : Expected α → SlotResponse}
    (yields : Yields registry slot created content held load)
    (uncached : what.uncached content = respond held)
    (failure : ∀ e, what.failure e = respond (.error e)) :
    Surely (Answered slot content) (fun response _ => Fresh registry slot created what content response)
      (load >>= fun answer => pure (respond answer)) () := by
  refine surely_bind.mpr (yields.mono fun answer _ meaning => .pure ?_)
  rcases meaning with same | ⟨e, refused, same⟩
  · left
    rw [same, uncached]
  · refine .inr ⟨e, refused, ?_⟩
    rw [same, failure]

theorem ofState_yields (part : CrlState → Expected α) :
    Yields registry slot created content (content.crl.state.bind part)
      (getCrlStateChecked registry slot client created >>= fun state =>
        match state with
        | .error e => pure (.error e)
        | .ok state => pure (part state)) := by
  refine surely_bind.mpr ((getCrlStateChecked_yields client).mono fun loaded _ meaning => ?_)
  rcases meaning with same | ⟨e, refused, same⟩
  · subst same
    cases content.crl.state <;> exact .pure (.inl rfl)
  · subst same
    exact .inr ⟨e, refused, rfl⟩

theorem map_eq_bind (part : CrlState → α) (state : Expected CrlState) :
    state.map part = state.bind fun known => .ok (part known) := by
  cases state <;> rfl

theorem SlotLoad.program_fresh (what : SlotLoad) :
    Surely (Answered slot content) (fun response _ => Fresh registry slot created what content response)
      (what.program registry slot created) () := by
  have certificate : Yields registry slot created content _
      (loadCertificateForTrustStore registry slot created) :=
    (loadCertificateCached_yields registry slot created content).checked
  have data : Yields registry slot created content _ (loadCrlDataForTrustStore registry slot created) :=
    (getOrLoadCrlData_yields registry slot created content).checked
  cases what with
  | certificate client =>
    rw [← loadCertificate_eq registry slot client created] at certificate
    exact certificate.fresh rfl fun _ => rfl
  | certificateForTrustStore => exact certificate.fresh rfl fun _ => rfl
  | hasCrl client =>
    exact (ofState_yields client fun state => .ok state.hasCrl).fresh
      (congrArg SlotResponse.presence (map_eq_bind _ _)) fun _ => rfl
  | crlMetadata client =>
    exact (ofState_yields client fun state => .ok state.metadata).fresh
      (congrArg SlotResponse.metadata (map_eq_bind _ _)) fun _ => rfl
  | crlNextUpdate client => exact (ofState_yields client nextUpdateOf).fresh rfl fun _ => rfl
  | crlData client =>
    rw [← loadCrlData_eq registry slot client created] at data
    exact data.fresh rfl fun _ => rfl
  | crlDataForTrustStore => exact data.fresh rfl fun _ => rfl

end Undisturbed

/-! ### Writes settle what they change -/

def SlotRequest.writes (slot : SlotIndex) : SlotRequest → Bool
  | .update own _ _ _ _ => own = slot
  | _ => false

/-- A write is one of the request's slot, and the next action invalidates what it changed. -/
def Orderly (request : SlotRequest) {α : Type} : SlotProg α → Prop
  | .done _ => True
  | .call act next =>
    (∀ slot operation, act = .write slot operation → request.writes slot = true ∧
      ∀ answer, ∃ rest, next answer = .call (operation.invalidation slot) rest) ∧
    ∀ answer, Orderly request (next answer)

namespace Orderly

variable {α β : Type} {request : SlotRequest}

theorem pure (value : α) : Orderly request (pure value : SlotProg α) := trivial

theorem bind {p : SlotProg α} {f : α → SlotProg β} (first : Orderly request p)
    (rest : ∀ value, Orderly request (f value)) : Orderly request (p >>= f) := by
  change Orderly request (p.bind f)
  induction p with
  | done value => exact rest value
  | call act next ih =>
    refine ⟨fun slot operation same => ?_, fun answer => ih answer (first.2 answer)⟩
    rcases first.1 slot operation same with ⟨own, closed⟩
    refine ⟨own, fun answer => ?_⟩
    rcases closed answer with ⟨left, next'⟩
    exact ⟨_, congrArg (fun p => Program.bind p f) next'⟩

theorem perform_bind {act : SlotAction} {f : act.Res → SlotProg α}
    (reads : ∀ slot operation, act ≠ .write slot operation)
    (rest : ∀ answer, Orderly request (f answer)) :
    Orderly request (SlotProg.perform act >>= f) :=
  ⟨fun slot operation same => absurd same (reads slot operation), rest⟩

end Orderly

section Requests

variable (registry : CertSlotRegistry) (slot : SlotIndex) (client : ClientId)
  (created : Expected Unit) (request : SlotRequest)

theorem SlotLoad.program_orderly (what : SlotLoad) :
    Orderly request (what.program registry slot created) := by
  cases what <;>
    simp only [SlotLoad.program, loadCertificate, loadCertificateForTrustStore,
      CertManagement.hasCrl, getCrlMetadata, getCrlNextUpdate, loadCrlData,
      loadCrlDataForTrustStore, loadCertificateCached, getCrlStateChecked, getOrLoadCrlState,
      getOrLoadCrlData]
  all_goals
    repeat' first
      | exact Orderly.pure _
      | refine Orderly.perform_bind (fun _ _ => nofun) fun _ => ?_
      | refine Orderly.bind ?_ fun _ => ?_
      | split

theorem writeSlot_orderly (operation : SlotWrite) (own : request.writes slot = true) :
    Orderly request (writeSlot registry slot client created operation) := by
  unfold writeSlot
  split
  · exact Orderly.pure _
  · split
    · exact Orderly.pure _
    · refine Orderly.perform_bind (fun _ _ => nofun) fun made => ?_
      cases made with
      | error e => exact Orderly.pure _
      | ok _ =>
        refine ⟨fun written op same => ?_, fun result => ?_⟩
        · cases same
          exact ⟨own, fun answer => ⟨_, rfl⟩⟩
        · refine Orderly.perform_bind (fun _ _ => ?_) fun _ => Orderly.pure _
          cases operation <;> nofun

theorem SlotRequest.program_orderly : Orderly request (request.program registry) := by
  cases request with
  | load slot created what => exact what.program_orderly registry slot created _
  | update slot created client what result =>
    refine Orderly.bind ?_ fun _ => Orderly.pure _
    cases what <;> exact writeSlot_orderly registry slot client created _ _ (decide_eq_true rfl)
  | _ => exact Orderly.perform_bind (fun _ _ => nofun) fun _ => Orderly.pure _

end Requests

/-! ### Requests that take turns -/

def SlotRequest.slot : SlotRequest → SlotIndex
  | .load slot _ _ => slot
  | .update slot _ _ _ _ => slot
  | .invalidateSlotCaches slot => slot
  | .invalidateCrl slot => slot
  | .expireCertificate slot => slot
  | .expireCrlSnapshot slot => slot

/-- A request, what its slot held when it was made, and whether no write to the slot has been in
flight since then. -/
structure Watched where
  request : SlotRequest
  content : SlotContent
  undisturbed : Bool

abbrev SlotPool := Pool SlotAction SlotAction.Res MonitoredSlots Watched SlotResponse

namespace SlotPool

def init (contents : SlotIndex → SlotContent) : SlotPool where
  state slot := { content := contents slot }
  threads := []

def quiet (pool : SlotPool) (slot : SlotIndex) : Bool :=
  pool.threads.all fun thread => thread.2.finished || !thread.1.request.writes slot

def disturb (pool : SlotPool) (request : SlotRequest) : SlotPool :=
  { pool with
    threads := pool.threads.map fun thread =>
      if thread.2.finished || !request.writes thread.1.request.slot then thread
      else ({ thread.1 with undisturbed := false }, thread.2) }

def step (registry : CertSlotRegistry) (pool : SlotPool) : Turn SlotRequest → SlotPool
  | .start request =>
    Pool.step SlotAction.monitor (fun watched => watched.request.program registry)
      (pool.disturb request)
      (.start ⟨request, (pool.state request.slot).content, pool.quiet request.slot⟩)
  | .advance i =>
    Pool.step SlotAction.monitor (fun watched => watched.request.program registry) pool (.advance i)

/-- The generations that a turn advances do not start over. -/
def Bounded (pool : SlotPool) : Turn SlotRequest → Prop
  | .start _ => True
  | .advance i => pool.Permits MonitoredSlots.Room (.advance i)

instance (pool : SlotPool) (turn : Turn SlotRequest) : Decidable (pool.Bounded turn) := by
  unfold Bounded
  split <;> infer_instance

end SlotPool

namespace SlotPool

structure Sane (registry : CertSlotRegistry) (pool : SlotPool)
    (thread : Watched × SlotProg SlotResponse) : Prop where
  guarded : Guarded thread.2 pool.state
  orderly : Orderly thread.1.request thread.2
  watched : ∀ slot created what, thread.1.request = .load slot created what →
    thread.1.undisturbed = true →
    (thread.2.finished = false →
      pool.quiet slot = true ∧ (pool.state slot).content = thread.1.content) ∧
    Surely (Answered slot thread.1.content)
      (fun response _ => Fresh registry slot created what thread.1.content response) thread.2 ()

def Owes (pool : SlotPool) (slot : SlotIndex) (part : SlotPart) : Prop :=
  ∃ thread ∈ pool.threads, thread.1.request.writes slot = true ∧
    ∃ act next, thread.2 = .call act next ∧ act.slot = slot ∧ act.clears part = true

structure Sound (registry : CertSlotRegistry) (pool : SlotPool) : Prop where
  coherent : pool.state.Coherent
  owed : ∀ slot part, (pool.state slot).stale part = true → pool.Owes slot part
  threads : ∀ thread ∈ pool.threads, Sane registry pool thread

variable {registry : CertSlotRegistry} {pool : SlotPool}

theorem quiet_iff (slot : SlotIndex) : pool.quiet slot = true ↔
    ∀ thread ∈ pool.threads, thread.2.finished = false → thread.1.request.writes slot = false := by
  unfold quiet
  rw [List.all_eq_true]
  refine forall₂_congr fun thread _ => ?_
  cases thread.2.finished <;> cases thread.1.request.writes slot <;> simp

theorem Sound.agrees (sound : Sound registry pool) {slot : SlotIndex} (quiet : pool.quiet slot = true)
    (part : SlotPart) : (pool.state slot).Agrees part := by
  apply sound.coherent slot part
  by_contra stale
  rcases sound.owed slot part (by simpa using stale) with ⟨thread, member, writes, act, next, left, -⟩
  have silent := (quiet_iff slot).mp quiet thread member (by rw [left]; rfl)
  rw [silent] at writes
  cases writes

theorem init_sound (contents : SlotIndex → SlotContent) : Sound registry (init contents) where
  coherent slot part _ := by
    cases part with
    | certificate =>
      intro certificate cached
      cases cached
    | crl => refine ⟨fun state cached => ?_, fun crl cached => ?_⟩ <;> cases cached
  owed slot part stale := by cases stale
  threads thread member := absurd member List.not_mem_nil

theorem mem_disturb {request : SlotRequest} {thread : Watched × SlotProg SlotResponse}
    (member : thread ∈ (pool.disturb request).threads) :
    ∃ before ∈ pool.threads, thread.1.request = before.1.request ∧
      thread.1.content = before.1.content ∧ thread.2 = before.2 ∧
      (thread.1.undisturbed = true → before.1.undisturbed = true ∧
        (before.2.finished = false → request.writes before.1.request.slot = false)) := by
  rcases List.mem_map.mp member with ⟨before, old, rfl⟩
  refine ⟨before, old, ?_⟩
  split
  case isTrue spared =>
    refine ⟨rfl, rfl, rfl, fun undisturbed => ⟨undisturbed, fun running => ?_⟩⟩
    simpa [running] using spared
  case isFalse => exact ⟨rfl, rfl, rfl, nofun⟩

theorem disturb_mem (request : SlotRequest) {before : Watched × SlotProg SlotResponse}
    (member : before ∈ pool.threads) : ∃ thread ∈ (pool.disturb request).threads,
      thread.1.request = before.1.request ∧ thread.2 = before.2 := by
  refine ⟨_, List.mem_map.mpr ⟨before, member, rfl⟩, ?_⟩
  split <;> exact ⟨rfl, rfl⟩

theorem quiet_start {request : SlotRequest} {slot : SlotIndex} (before : pool.quiet slot = true)
    (other : request.writes slot = false) :
    quiet (pool.step registry (.start request)) slot = true := by
  rw [quiet_iff] at before ⊢
  intro thread member running
  rcases List.mem_append.mp member with old | new
  · rcases mem_disturb old with ⟨earlier, member', same, -, same', -⟩
    rw [same]
    exact before earlier member' (by rw [← same']; exact running)
  · rw [List.mem_singleton.mp new]
    exact other

theorem Sound.start (sound : Sound registry pool) (request : SlotRequest) :
    Sound registry (pool.step registry (.start request)) where
  coherent := sound.coherent
  owed slot part stale := by
    rcases sound.owed slot part stale with ⟨before, member, owes⟩
    rcases disturb_mem request member with ⟨thread, member', same, same'⟩
    exact ⟨thread, List.mem_append_left _ member', by rwa [same, same']⟩
  threads thread member := by
    rcases List.mem_append.mp member with old | new
    · rcases mem_disturb old with ⟨before, member', same, content, same', spared⟩
      have sane := sound.threads before member'
      refine ⟨same' ▸ sane.guarded, by rw [same, same']; exact sane.orderly, ?_⟩
      intro slot created what load undisturbed
      rw [same] at load
      rcases spared undisturbed with ⟨undisturbed', silent⟩
      rcases sane.watched slot created what load undisturbed' with ⟨running, fresh⟩
      rw [content, same']
      refine ⟨fun unfinished => ?_, fresh⟩
      refine ⟨quiet_start (running unfinished).1 ?_, (running unfinished).2⟩
      have own := silent unfinished
      rwa [load] at own
    · rw [List.mem_singleton.mp new]
      refine ⟨request.program_guarded registry pool.state, request.program_orderly registry, ?_⟩
      intro slot created what load undisturbed
      change request = .load slot created what at load
      subst load
      exact ⟨fun _ => ⟨quiet_start undisturbed rfl, rfl⟩, what.program_fresh⟩

section Advance

variable {i : Nat} {watched : Watched} {act : SlotAction}
  {next : act.Res → SlotProg SlotResponse}

theorem step_advance (found : pool.threads[i]? = some (watched, .call act next)) :
    pool.step registry (.advance i) =
      { state := (act.monitor pool.state).2
        threads := pool.threads.set i (watched, next (act.monitor pool.state).1) } := by
  simp [step, Pool.step, found]

theorem Owes.set {slot : SlotIndex} {part : SlotPart} (owes : pool.Owes slot part)
    (found : pool.threads[i]? = some (watched, .call act next))
    (other : act.slot = slot → act.clears part = false) (after : Watched × SlotProg SlotResponse)
    (state : MonitoredSlots) :
    Owes { state := state, threads := pool.threads.set i after } slot part := by
  rcases owes with ⟨thread, member, writes, act', next', left, own, clears⟩
  rcases List.getElem?_of_mem member with ⟨j, at_j⟩
  have different : i ≠ j := by
    intro same
    subst same
    cases found.symm.trans at_j
    cases left
    cases clears.symm.trans (other own)
  refine ⟨thread, ?_, writes, act', next', left, own, clears⟩
  apply List.mem_of_getElem? (i := j)
  rw [List.getElem?_set_ne different]
  exact at_j

theorem clears_invalidation (operation : SlotWrite) (slot : SlotIndex) (part : SlotPart) :
    (operation.invalidation slot).clears part = operation.touches part := by
  cases operation <;> rfl

theorem slot_invalidation (operation : SlotWrite) (slot : SlotIndex) :
    (operation.invalidation slot).slot = slot := by
  cases operation <;> rfl

theorem Sound.owed_advance (sound : Sound registry pool)
    (found : pool.threads[i]? = some (watched, .call act next)) (slot : SlotIndex)
    (part : SlotPart) (stale : ((act.monitor pool.state).2 slot).stale part = true) :
    Owes { state := (act.monitor pool.state).2
           threads := pool.threads.set i (watched, next (act.monitor pool.state).1) } slot part := by
  have orderly := (sound.threads _ (List.mem_of_getElem? found)).orderly
  by_cases own : act.slot = slot
  · subst own
    simp only [SlotAction.monitor, Function.update_self, SlotAction.onMonitored] at stale
    cases stained : act.stains part with
    | true =>
      -- the write has just run: its own thread owes the invalidation
      cases act with
      | write slot operation =>
        rcases orderly.1 slot operation rfl with ⟨writes, closed⟩
        rcases closed (SlotAction.monitor (.write slot operation) pool.state).1 with ⟨rest, left⟩
        refine ⟨_, List.mem_set (List.getElem?_eq_some_iff.mp found).1 _, writes, _, rest, left,
          slot_invalidation operation slot, ?_⟩
        rw [clears_invalidation]
        exact stained
      | _ => cases stained
    | false =>
      cases cleared : act.clears part with
      | true => simp [stained, cleared] at stale
      | false =>
        refine (sound.owed act.slot part ?_).set found (fun _ => cleared) _ _
        simpa [stained, cleared] using stale
  · refine (sound.owed slot part ?_).set found (fun same => absurd same own) _ _
    simpa [SlotAction.monitor, Function.update_of_ne (Ne.symm own)] using stale

theorem content_monitor (slots : MonitoredSlots) (slot : SlotIndex)
    (reads : ∀ operation, act ≠ .write slot operation) :
    ((act.monitor slots).2 slot).content = (slots slot).content := by
  by_cases own : act.slot = slot
  · have clean : ∀ part, act.stains part = false := by
      intro part
      cases act with
      | write written operation =>
        change written = slot at own
        subst own
        exact absurd rfl (reads operation)
      | _ => rfl
    subst own
    have certificate := act.samePart_onSlot (slots act.slot).toSlot .certificate (clean _)
    have crl := act.samePart_onSlot (slots act.slot).toSlot .crl (clean _)
    simp only [SlotAction.monitor, Function.update_self, SlotAction.onMonitored]
    exact (congrArg₂ SlotContent.mk certificate crl).symm
  · simp [SlotAction.monitor, Function.update_of_ne (Ne.symm own)]

theorem quiet_advance (found : pool.threads[i]? = some (watched, .call act next))
    {slot : SlotIndex} (before : pool.quiet slot = true) (state : MonitoredSlots)
    (left : SlotProg SlotResponse) :
    quiet { state := state, threads := pool.threads.set i (watched, left) } slot = true := by
  rw [quiet_iff] at before ⊢
  intro thread member running
  rcases List.mem_or_eq_of_mem_set member with old | new
  · exact before thread old running
  · rw [new]
    exact before (watched, .call act next) (List.mem_of_getElem? found) rfl

theorem Sound.advance (sound : Sound registry pool)
    (found : pool.threads[i]? = some (watched, .call act next))
    (room : pool.state.Room act) : Sound registry (pool.step registry (.advance i)) := by
  have own := List.mem_of_getElem? found
  have sane := sound.threads _ own
  rcases sane.guarded pool.state (MonitoredSlots.Later.refl _) sound.coherent room
    with ⟨coherent, later, guarded⟩
  -- while no write is in flight, the action that has run was none
  have settled : ∀ slot, pool.quiet slot = true →
      ((act.monitor pool.state).2 slot).content = (pool.state slot).content := by
    intro slot quiet
    apply content_monitor
    intro operation written
    have writes := (sane.orderly.1 slot operation written).1
    cases writes.symm.trans ((quiet_iff slot).mp quiet _ own rfl)
  rw [step_advance found]
  refine ⟨coherent, sound.owed_advance found, fun thread member => ?_⟩
  rcases List.mem_or_eq_of_mem_set member with old | new
  · have other := sound.threads thread old
    refine ⟨Safe.mono (fun _ _ _ before after => before.trans after) other.guarded later,
      other.orderly, fun slot created what load undisturbed => ?_⟩
    rcases other.watched slot created what load undisturbed with ⟨running, fresh⟩
    refine ⟨fun unfinished => ?_, fresh⟩
    rcases running unfinished with ⟨quiet, held⟩
    exact ⟨quiet_advance found quiet _ _, (settled slot quiet).trans held⟩
  · rw [new]
    refine ⟨guarded, sane.orderly.2 _, fun slot created what load undisturbed => ?_⟩
    rcases sane.watched slot created what load undisturbed with ⟨running, fresh⟩
    rcases running rfl with ⟨quiet, held⟩
    refine ⟨fun _ => ⟨quiet_advance found quiet _ _, (settled slot quiet).trans held⟩, ?_⟩
    apply fresh
    intro same
    subst same
    exact ⟨(pool.state act.slot).toSlot, held, sound.agrees quiet, rfl⟩

end Advance

theorem Sound.step (sound : Sound registry pool) {turn : Turn SlotRequest}
    (bounded : pool.Bounded turn) : Sound registry (pool.step registry turn) := by
  cases turn with
  | start request => exact sound.start request
  | advance i =>
    cases found : pool.threads[i]? with
    | none => simpa [SlotPool.step, Pool.step, found] using sound
    | some thread =>
      rcases thread with ⟨watched, value | ⟨act, next⟩⟩
      · simpa [SlotPool.step, Pool.step, found] using sound
      · simp only [Bounded, Pool.Permits, found] at bounded
        exact sound.advance found bounded

end SlotPool

theorem run_freshReads (registry : CertSlotRegistry) (contents : SlotIndex → SlotContent)
    (turns : List (Turn SlotRequest))
    (bounded : Meets (SlotPool.step registry) SlotPool.Bounded (SlotPool.init contents) turns) :
    ∀ thread ∈ (run (SlotPool.step registry) (SlotPool.init contents) turns).threads,
      ∀ slot created what response,
        thread.1.request = .load slot created what → thread.1.undisturbed = true →
        thread.2 = .done response →
        Fresh registry slot created what thread.1.content response := by
  have sound := run_invariant_of_meets (SlotPool.Sound registry)
    (fun pool turn sound bounded => SlotPool.Sound.step sound bounded) (SlotPool.init contents) turns
    (SlotPool.init_sound contents) bounded
  intro thread member slot created what response load undisturbed done
  have fresh := ((sound.threads thread member).watched slot created what load undisturbed).2
  rw [done] at fresh
  exact fresh

/-- In every interleaving: while no write to a slot is in flight, whatever is cached of the slot is
what its storage holds. -/
theorem run_cacheAgrees (registry : CertSlotRegistry) (contents : SlotIndex → SlotContent)
    (turns : List (Turn SlotRequest))
    (bounded : Meets (SlotPool.step registry) SlotPool.Bounded (SlotPool.init contents) turns)
    (slot : SlotIndex)
    (quiet : (run (SlotPool.step registry) (SlotPool.init contents) turns).quiet slot = true) :
    ∀ part, ((run (SlotPool.step registry) (SlotPool.init contents) turns).state slot).Agrees part := by
  have sound := run_invariant_of_meets (SlotPool.Sound registry)
    (fun _ _ sound bounded => SlotPool.Sound.step sound bounded) (SlotPool.init contents) turns
    (SlotPool.init_sound contents) bounded
  exact sound.agrees quiet

/-! ### A slow load -/

section SlowLoad

def oneSlot : CertSlotRegistry :=
  CertSlotRegistry.empty.registerSlot { slotName := ascii "root", allowedWriteUids := [0] }

def certificateOf (byte : UInt8) : CertObject :=
  ⟨⟨List.replicate 32 byte, List.length_replicate⟩⟩

def holding (byte : UInt8) : SlotContent where
  certificate := .ok (certificateOf byte)
  crl := .none

def replacedTurns : List (Turn SlotRequest) :=
  [.start (.load 0 (.ok ()) (.certificate 0)), .advance 0, .advance 0,
    .start (.update 0 (.ok ()) 0 (.storeCertificate (holding 2)) (.ok ())),
    .advance 1, .advance 1, .advance 1, .advance 0,
    .start (.load 0 (.ok ()) (.certificate 0)), .advance 2, .advance 2, .advance 2]

theorem replacedTurns_fresh :
    ∃ thread ∈ (run (SlotPool.step oneSlot) (SlotPool.init fun _ => holding 1) replacedTurns).threads,
      thread.2 = .done (.certificate (.ok (certificateOf 2))) ∧
        Fresh oneSlot 0 (.ok ()) (.certificate 0) (holding 2)
          (.certificate (.ok (certificateOf 2))) := by
  refine ⟨(⟨.load 0 (.ok ()) (.certificate 0), holding 2, true⟩,
    .done (.certificate (.ok (certificateOf 2)))), ?_, rfl, ?_⟩
  · exact List.mem_of_getElem? (i := 2) rfl
  · exact run_freshReads oneSlot (fun _ => holding 1) replacedTurns (by decide) _
      (List.mem_of_getElem? (i := 2) rfl) 0 (.ok ()) (.certificate 0) _ rfl rfl rfl

theorem replacedTurns_agrees :
    ((run (SlotPool.step oneSlot) (SlotPool.init fun _ => holding 1) replacedTurns).state 0).Agrees
      .certificate :=
  run_cacheAgrees oneSlot (fun _ => holding 1) replacedTurns (by decide) 0 (by decide) .certificate

def invalidations (first n : Nat) : List (Turn SlotRequest) :=
  (List.range n).flatMap fun k => [.start (.invalidateCrl 0), .advance (first + k)]

structure Emptied (before after : SlotPool) (n : Nat) : Prop where
  content : (after.state 0).content = (before.state 0).content
  crlState : (after.state 0).cache.crlState = none
  crlSnapshot : (after.state 0).cache.crlSnapshot = none
  generation : (after.state 0).cache.crlGeneration =
    (before.state 0).cache.crlGeneration + UInt64.ofNat n
  threads : ∃ rest : List (Watched × SlotProg SlotResponse),
    after.threads = before.threads ++ rest ∧ rest.length = n ∧
      ∀ thread ∈ rest, thread.2.finished = true

theorem step_start {registry : CertSlotRegistry} {pool : SlotPool} {request : SlotRequest}
    (silent : ∀ slot, request.writes slot = false) :
    pool.step registry (.start request) =
      { state := pool.state
        threads := pool.threads ++ [(⟨request, (pool.state request.slot).content,
          pool.quiet request.slot⟩, request.program registry)] } := by
  have spared : pool.disturb request = pool := by simp [SlotPool.disturb, silent]
  simp only [SlotPool.step, Pool.step, spared]

theorem step_last {registry : CertSlotRegistry} {state : MonitoredSlots}
    {threads : List (Watched × SlotProg SlotResponse)} {watched : Watched} {act : SlotAction}
    {next : act.Res → SlotProg SlotResponse} :
    SlotPool.step registry { state := state, threads := threads ++ [(watched, .call act next)] }
        (.advance threads.length) =
      { state := (act.monitor state).2
        threads := threads ++ [(watched, next (act.monitor state).1)] } := by
  rw [SlotPool.step_advance List.getElem?_concat_length]
  simp

theorem run_invalidations (registry : CertSlotRegistry) (pool : SlotPool)
    (crlState : (pool.state 0).cache.crlState = none)
    (crlSnapshot : (pool.state 0).cache.crlSnapshot = none) (n : Nat) :
    Emptied pool (run (SlotPool.step registry) pool (invalidations pool.threads.length n)) n := by
  induction n with
  | zero =>
    refine ⟨rfl, crlState, crlSnapshot, ?_, [], ?_, rfl, ?_⟩
    · exact (UInt64.add_zero _).symm
    · exact (List.append_nil _).symm
    · exact fun thread member => absurd member List.not_mem_nil
  | succ n ih =>
    have split : invalidations pool.threads.length (n + 1) =
        invalidations pool.threads.length n ++
          [.start (.invalidateCrl 0), .advance (pool.threads.length + n)] := by
      simp [invalidations, List.range_succ]
    rw [split, run_append]
    generalize run (SlotPool.step registry) pool (invalidations pool.threads.length n) = before at ih
    rcases ih with ⟨content, -, -, generation, rest, threads, length, finished⟩
    have index : pool.threads.length + n = before.threads.length := by
      rw [threads, List.length_append, length]
    have program : SlotRequest.program registry (.invalidateCrl 0) =
        .call (.invalidateCrl 0) fun _ => .done .done := rfl
    rw [run_cons, run_cons, run_nil, index, step_start fun _ => rfl, program, step_last]
    refine ⟨content, rfl, rfl, ?_, rest ++ [(⟨.invalidateCrl 0, (before.state 0).content,
      before.quiet 0⟩, .done .done)], ?_, ?_, ?_⟩
    · change (before.state 0).cache.crlGeneration + 1 = _
      rw [generation, UInt64.add_assoc, UInt64.ofNat_add]
      rfl
    · rw [← List.append_assoc, ← threads]
      rfl
    · rw [List.length_append, length]
      rfl
    · intro thread member
      rcases List.mem_append.mp member with old | new
      · exact finished thread old
      · rw [List.mem_singleton.mp new]
        rfl

theorem findCrlData_absent {slot : Slot} (created : Expected Unit)
    (absent : slot.cache.crlState = some {}) : (slot.findCrlData created).1 = .ok (.hit none) := by
  simp [Slot.findCrlData, absent]

theorem cacheCrlData_current {slots : MonitoredSlots}
    (current : (slots 0).cache.crlGeneration = 0) :
    ((SlotAction.monitor (.cacheCrlData 0 0 none) slots).2 0).cache.crlState = some {} := by
  change ((slots 0).cacheCrlData 0 none).cache.crlState = _
  unfold Slot.cacheCrlData
  rw [if_pos current]
  rfl

def storedCrl : CrlData where
  bytes := [48]
  format := .der
  metadata := none

def overtakenTurns : List (Turn SlotRequest) :=
  [.start (.load 0 (.ok ()) .crlDataForTrustStore), .advance 0, .advance 0,
    .start (.update 0 (.ok ()) 0 (.storeCrl (.some storedCrl)) (.ok ())),
    .advance 1, .advance 1, .advance 1]

/-- Before the load comes to its last section, the CRL is invalidated a number of times; a second
load follows. -/
def wrappedTurns (n : Nat) : List (Turn SlotRequest) :=
  overtakenTurns ++ invalidations 2 n ++
    [.advance 0, .start (.load 0 (.ok ()) .crlDataForTrustStore), .advance (2 + n)]

def ServesStale (turns : List (Turn SlotRequest)) : Prop :=
  ∃ thread ∈ (run (SlotPool.step oneSlot) (SlotPool.init fun _ => holding 1) turns).threads,
    thread.1.request = .load 0 (.ok ()) .crlDataForTrustStore ∧ thread.1.undisturbed = true ∧
      thread.1.content.crl.data = .ok (some storedCrl) ∧ thread.2 = .done (.crl (.ok none))

theorem servesStale_of_wrap (n : Nat) (wraps : 1 + UInt64.ofNat n = 0) :
    ServesStale (wrappedTurns n) := by
  unfold ServesStale wrappedTurns
  rw [run_append, run_append]
  have overtaken : (run (SlotPool.step oneSlot) (SlotPool.init fun _ => holding 1)
      overtakenTurns).threads.length = 2 := rfl
  have emptied := run_invalidations oneSlot (run (SlotPool.step oneSlot)
    (SlotPool.init fun _ => holding 1) overtakenTurns) rfl rfl n
  rw [overtaken] at emptied
  generalize run (SlotPool.step oneSlot) (run (SlotPool.step oneSlot)
    (SlotPool.init fun _ => holding 1) overtakenTurns) (invalidations 2 n) = before
    at emptied ⊢
  rcases emptied with ⟨content, -, -, generation, rest, threads, length, finished⟩
  have wrapped : (before.state 0).cache.crlGeneration = 0 := generation.trans wraps
  have found : before.threads[0]? = some (⟨.load 0 (.ok ()) .crlDataForTrustStore, holding 1, false⟩,
      .call (.cacheCrlData 0 0 none) fun _ => .done (.crl (.ok none))) := by
    rw [threads]
    rfl
  have last : (before.threads.set 0 (⟨.load 0 (.ok ()) .crlDataForTrustStore, holding 1, false⟩,
      .done (.crl (.ok none)))).length = 2 + n := by
    rw [List.length_set, threads, List.length_append, length, overtaken]
  have cached := cacheCrlData_current wrapped
  have held : ((SlotAction.monitor (.cacheCrlData 0 0 none) before.state).2 0).content =
      (before.state 0).content := SlotPool.content_monitor before.state 0 fun _ => nofun
  have program : ∃ next, SlotRequest.program oneSlot (.load 0 (.ok ()) .crlDataForTrustStore) =
      .call (.findCrlData 0 (.ok ())) next ∧ next (.ok (.hit none)) = .done (.crl (.ok none)) :=
    ⟨_, rfl, rfl⟩
  rcases program with ⟨next, program, answer⟩
  have published : SlotPool.step oneSlot before (.advance 0) =
      { state := (SlotAction.monitor (.cacheCrlData 0 0 none) before.state).2
        threads := before.threads.set 0 (⟨.load 0 (.ok ()) .crlDataForTrustStore, holding 1, false⟩,
          .done (.crl (.ok none))) } :=
    SlotPool.step_advance found
  rw [run_cons, run_cons, run_cons, run_nil, published, step_start fun _ => rfl, program, ← last,
    step_last]
  refine ⟨_, List.mem_append_right _ (List.mem_singleton.mpr rfl), rfl, ?_, ?_, ?_⟩
  · rw [SlotPool.quiet_iff]
    intro thread member running
    rcases List.mem_or_eq_of_mem_set member with old | new
    · rw [threads] at old
      rcases List.mem_append.mp old with early | late
      · rcases List.mem_cons.mp early with rfl | second
        · rfl
        · rw [List.mem_singleton.mp second] at running
          cases running
      · rw [finished thread late] at running
        cases running
    · rw [new]
      rfl
  · change ((SlotAction.monitor (.cacheCrlData 0 0 none) before.state).2 0).content.crl.data = _
    rw [held, content]
    rfl
  · rw [← answer]
    exact congrArg next (findCrlData_absent _ cached)

theorem wrappedTurns_stale : ServesStale (wrappedTurns (2 ^ 64 - 1)) := by
  apply servesStale_of_wrap
  decide +kernel

end SlowLoad

end ScoreCrypto.CertManagement
