import ScoreCrypto.CertManagement.TrustStoreManager

/-!
How long the cache of a trust store stays warm: the references that calls have been granted and
have given back, and the calls that are still on their way, account for every count.
-/

namespace ScoreCrypto.CertManagement

open Program Run

/-! ### Counts after each section -/

namespace RefCounts

theorem perStore_insert (counts : RefCounts) (c other : ClientId)
    (row : Finmap fun _ : TrustStoreId => Nat) :
    perStore (counts.insert c row) other = if other = c then row else counts.perStore other := by
  unfold perStore
  by_cases same : other = c
  · subst same
    simp
  · simp [same]

theorem perStore_erase (counts : RefCounts) (c other : ClientId) :
    perStore (counts.erase c) other = if other = c then ∅ else counts.perStore other := by
  unfold perStore
  by_cases same : other = c
  · subst same
    simp
  · simp [same]

theorem active_iff (counts : RefCounts) (store : TrustStoreId) :
    counts.Active store ↔ ∃ c, (counts.entry c store).isSome := by
  constructor
  · rintro ⟨c, -, held⟩
    exact ⟨c, held⟩
  · rintro ⟨c, held⟩
    refine ⟨c, ?_, held⟩
    rw [Finmap.mem_keys]
    by_contra absent
    have empty : counts.perStore c = ∅ := by
      simp [perStore, Finmap.lookup_eq_none.mpr absent]
    simp [entry, empty] at held

theorem entry_insert (counts : RefCounts) (c other : ClientId) (store otherStore : TrustStoreId)
    (n : Nat) :
    entry (counts.insert c ((counts.perStore c).insert store n)) other otherStore =
      if other = c ∧ otherStore = store then some n else counts.entry other otherStore := by
  unfold entry
  rw [perStore_insert]
  by_cases same : other = c
  · subst same
    by_cases sameStore : otherStore = store
    · subst sameStore
      simp
    · simp [sameStore]
  · simp [same]

theorem entry_eraseCount (counts : RefCounts) (c other : ClientId)
    (store otherStore : TrustStoreId) :
    entry (TrustStoreManager.eraseCount counts c store) other otherStore =
      if other = c ∧ otherStore = store then none else counts.entry other otherStore := by
  have row : perStore (TrustStoreManager.eraseCount counts c store) other =
      if other = c then (counts.perStore c).erase store else counts.perStore other := by
    unfold TrustStoreManager.eraseCount
    split
    case isTrue last => rw [perStore_erase, last]
    case isFalse => rw [perStore_insert]
  unfold entry
  rw [row]
  by_cases same : other = c
  · subst same
    by_cases sameStore : otherStore = store
    · subst sameStore
      simp
    · simp [sameStore]
  · simp [same]

def lower : Option Nat → Option Nat
  | none => none
  | some 0 => some 0
  | some 1 => none
  | some (n + 2) => some (n + 1)

theorem getD_lower (entry : Option Nat) : (lower entry).getD 0 = entry.getD 0 - 1 := by
  rcases entry with _ | _ | _ | n <;> rfl

theorem lower_ne_zero {entry : Option Nat} (positive : entry ≠ some 0) : lower entry ≠ some 0 := by
  rcases entry with _ | _ | _ | n <;> simp_all [lower]

end RefCounts

namespace TrustStoreManager

open RefCounts

variable (manager : TrustStoreManager) (store : TrustStoreId) (c : ClientId)

theorem entry_addCount (room : manager.refCounts.count c store + 1 < 2 ^ 32) (other : ClientId)
    (otherStore : TrustStoreId) :
    (manager.addCount store c).refCounts.entry other otherStore =
      if other = c ∧ otherStore = store then some (manager.refCounts.count c store + 1)
      else manager.refCounts.entry other otherStore := by
  unfold addCount
  rw [entry_insert, Nat.mod_eq_of_lt room]

theorem entry_releaseCount (other : ClientId) (otherStore : TrustStoreId) :
    (manager.releaseCount store c).refCounts.entry other otherStore =
      if other = c ∧ otherStore = store then lower (manager.refCounts.entry other otherStore)
      else manager.refCounts.entry other otherStore := by
  by_cases same : other = c ∧ otherStore = store
  · rcases same with ⟨rfl, rfl⟩
    rw [if_pos ⟨rfl, rfl⟩, releaseCount, count]
    cases found : manager.refCounts.entry other otherStore with
    | none => simp [found, lower]
    | some n => rcases n with _ | _ | n <;> simp [maybeEvict, entry_eraseCount, entry_insert, found, lower]
  · rw [if_neg same, releaseCount]
    split <;> simp [maybeEvict, entry_eraseCount, entry_insert, same]

theorem entry_cleanupClient (other : ClientId) (otherStore : TrustStoreId) :
    (manager.cleanupClient c).refCounts.entry other otherStore =
      if other = c then none else manager.refCounts.entry other otherStore := by
  unfold cleanupClient maybeEvict entry
  rw [perStore_erase]
  split
  · rfl
  · rfl

theorem refCounts_loadCache (resolved : Expected Unit) :
    (manager.loadCache store resolved).2.refCounts = manager.refCounts := by
  unfold loadCache
  split
  · rfl
  split
  · rfl
  split
  · rfl
  split <;> rfl

/-! ### Stores that stay warm -/

def Warm : Prop :=
  ∀ store, manager.loaded store = true → ∃ c, (manager.refCounts.entry c store).isSome

variable {manager}

theorem Warm.of_counts {manager' : TrustStoreManager} (warm : manager.Warm)
    (stores : manager'.stores = manager.stores)
    (kept : ∀ c store, (manager.refCounts.entry c store).isSome →
      (manager'.refCounts.entry c store).isSome) : manager'.Warm := by
  intro store loaded
  rw [TrustStoreManager.loaded, stores] at loaded
  rcases warm store loaded with ⟨c, held⟩
  exact ⟨c, kept c store held⟩

theorem Warm.maybeEvict {affected : Finset TrustStoreId} {counts : RefCounts} (warm : manager.Warm)
    (kept : ∀ c store, store ∉ affected → (manager.refCounts.entry c store).isSome →
      (counts.entry c store).isSome) :
    (maybeEvict affected { manager with refCounts := counts }).Warm := by
  intro store loaded
  simp only [TrustStoreManager.loaded, TrustStoreManager.maybeEvict, List.getElem?_mapIdx,
    Option.any_map] at loaded
  by_cases evicted : store ∈ affected ∧ ¬ counts.Active store
  · simp [evicted] at loaded
  · rw [not_and, not_not] at evicted
    by_cases member : store ∈ affected
    · exact (active_iff _ _).mp (evicted member)
    · rcases warm store (by simpa [TrustStoreManager.loaded, member] using loaded) with ⟨c, held⟩
      exact ⟨c, kept c store member held⟩

theorem Warm.addCount (warm : manager.Warm) : (manager.addCount store c).Warm := by
  refine warm.of_counts rfl fun other otherStore held => ?_
  unfold TrustStoreManager.addCount
  rw [entry_insert]
  split
  · rfl
  · exact held

theorem Warm.releaseCount (warm : manager.Warm) : (manager.releaseCount store c).Warm := by
  unfold TrustStoreManager.releaseCount
  split
  · exact warm
  · refine warm.maybeEvict fun other otherStore apart held => ?_
    rw [Finset.mem_singleton] at apart
    rwa [entry_eraseCount, if_neg fun same => apart same.2]
  · refine warm.of_counts rfl fun other otherStore held => ?_
    rw [entry_insert]
    split
    · rfl
    · exact held

theorem Warm.cleanupClient (warm : manager.Warm) : (manager.cleanupClient c).Warm := by
  refine warm.maybeEvict fun other otherStore apart held => ?_
  rw [Finmap.mem_keys, ← Finmap.lookup_isSome] at apart
  rw [entry, perStore_erase, if_neg]
  · exact held
  · rintro rfl
    exact apart held

theorem Warm.loadCache (warm : manager.Warm) (resolved : Expected Unit)
    (held : (manager.loadCache store resolved).1 = .ok () →
      ∃ c, (manager.refCounts.entry c store).isSome) :
    (manager.loadCache store resolved).2.Warm := by
  unfold TrustStoreManager.loadCache at held ⊢
  split
  · exact warm
  · next found =>
    simp only [found] at held ⊢
    split
    · exact warm
    · split
      · exact warm
      · next valid cold =>
        rw [if_neg valid, if_neg cold] at held
        cases resolved with
        | error e => exact warm
        | ok _ =>
          intro other now
          rcases eq_or_ne other store with rfl | differ
          · exact held rfl
          · exact warm other (by simpa [loaded, List.getElem?_set, differ.symm] using now)

end TrustStoreManager

/-! ### What accounts for the counts -/

/-- The references that `AddRef` granted to each client and those that it gave back, since the
client was last cleaned up. -/
structure Accounts where
  granted : ClientId → TrustStoreId → Nat := fun _ _ => 0
  released : ClientId → TrustStoreId → Nat := fun _ _ => 0

def bump (table : ClientId → TrustStoreId → Nat) (c : ClientId) (store : TrustStoreId) :
    ClientId → TrustStoreId → Nat :=
  fun other otherStore =>
    table other otherStore + if other = c ∧ otherStore = store then 1 else 0

def Accounts.forget (accounts : Accounts) (c : ClientId) : Accounts where
  granted other store := if other = c then 0 else accounts.granted other store
  released other store := if other = c then 0 else accounts.released other store

/-- An entry against what was granted and released; `pending` is the number of references that running
calls of `AddRef` have counted so far. -/
structure Fits (entry : Option Nat) (granted released pending : Nat) : Prop where
  positive : entry ≠ some 0
  balanced : entry.getD 0 + released = granted + pending
  covered : pending ≤ entry.getD 0

structure Books (manager : TrustStoreManager) (accounts : Accounts)
    (pending : ClientId → TrustStoreId → Nat) : Prop where
  fits : ∀ c store, Fits (manager.refCounts.entry c store) (accounts.granted c store)
    (accounts.released c store) (pending c store)
  warm : manager.Warm

namespace Books

open TrustStoreManager

variable {manager : TrustStoreManager} {accounts : Accounts}
  {pending pending' : ClientId → TrustStoreId → Nat} {store : TrustStoreId} {c : ClientId}

section

variable (books : Books manager accounts pending)

include books

theorem addCount (room : manager.refCounts.count c store + 1 < 2 ^ 32)
    (started : pending' = bump pending c store) :
    Books (manager.addCount store c) accounts pending' := by
  subst started
  refine ⟨fun other otherStore => ?_, books.warm.addCount store c⟩
  have fits := books.fits other otherStore
  rw [entry_addCount manager store c room, bump]
  split
  case isTrue same =>
    rw [← same.1, ← same.2]
    refine ⟨by simp, ?_, ?_⟩
    · have before := fits.balanced
      rw [Option.getD_some, RefCounts.count]
      omega
    · exact Nat.succ_le_succ fits.covered
  case isFalse => exact fits

theorem granted (resolved : Expected Unit) (ended : pending = bump pending' c store) :
    Books (manager.loadCache store resolved).2
      { accounts with granted := bump accounts.granted c store } pending' := by
  subst ended
  refine ⟨fun other otherStore => ?_, books.warm.loadCache store resolved fun _ => ⟨c, ?_⟩⟩
  · have fits := books.fits other otherStore
    have before := fits.balanced
    have covered := fits.covered
    rw [refCounts_loadCache]
    simp only [bump] at before covered ⊢
    exact ⟨fits.positive, by omega, by omega⟩
  · have own := (books.fits c store).covered
    cases found : manager.refCounts.entry c store with
    | none => simp [bump, found] at own
    | some n => rfl

theorem refused (resolved : Expected Unit)
    (failed : (manager.loadCache store resolved).1 ≠ .ok ()) :
    Books (manager.loadCache store resolved).2 accounts pending := by
  refine ⟨?_, books.warm.loadCache store resolved fun ok => absurd ok failed⟩
  rw [refCounts_loadCache]
  exact books.fits

theorem rollback (ended : pending = bump pending' c store) :
    Books (manager.releaseCount store c) accounts pending' := by
  subst ended
  refine ⟨fun other otherStore => ?_, books.warm.releaseCount store c⟩
  have fits := books.fits other otherStore
  rw [entry_releaseCount]
  rw [bump] at fits
  split
  case isTrue same =>
    rw [if_pos same] at fits
    have before := fits.balanced
    have covered := fits.covered
    refine ⟨RefCounts.lower_ne_zero fits.positive, ?_, ?_⟩ <;> rw [RefCounts.getD_lower] <;> omega
  case isFalse different => rwa [if_neg different] at fits

theorem released (held : pending c store < manager.refCounts.count c store) :
    Books (manager.releaseCount store c)
      { accounts with released := bump accounts.released c store } pending := by
  refine ⟨fun other otherStore => ?_, books.warm.releaseCount store c⟩
  have fits := books.fits other otherStore
  rw [entry_releaseCount]
  simp only [bump]
  split
  case isTrue same =>
    rw [RefCounts.count, ← same.1, ← same.2] at held
    have before := fits.balanced
    refine ⟨RefCounts.lower_ne_zero fits.positive, ?_, ?_⟩ <;> rw [RefCounts.getD_lower] <;> omega
  case isFalse => exact fits

theorem forgotten (none : ∀ store, pending c store = 0) :
    Books (manager.cleanupClient c) (accounts.forget c) pending := by
  refine ⟨fun other otherStore => ?_, books.warm.cleanupClient c⟩
  rw [entry_cleanupClient]
  simp only [Accounts.forget]
  split
  case isTrue same =>
    rw [same, none]
    exact ⟨by simp, rfl, Nat.zero_le _⟩
  case isFalse => exact books.fits other otherStore

end

end Books

/-! ### Calls that take turns -/

abbrev RefThread := RefCall × RefProg (Expected Unit)

abbrev RefPool :=
  Pool RefAction RefAction.Res TrustStoreManager RefCall (Expected Unit)

/-- The reference that a running `AddRef` has counted and has neither granted nor taken back. -/
def bindingOf : RefThread → Option (ClientId × TrustStoreId)
  | (.addRef store c _, .call (.loadCache _ _) _) => some (c, store)
  | (.addRef store c _, .call (.releaseCount _ _) _) => some (c, store)
  | _ => none

def pendingRefs (threads : List RefThread) (c : ClientId) (store : TrustStoreId) : Nat :=
  threads.countP fun thread => bindingOf thread = some (c, store)

def Accounts.note (accounts : Accounts) : RefCall → (act : RefAction) → act.Res → Accounts
  | .addRef store c _, .loadCache _ _, .ok _ =>
    { accounts with granted := bump accounts.granted c store }
  | .releaseRef store c, .releaseCount _ _, _ =>
    { accounts with released := bump accounts.released c store }
  | .cleanupClient c, .cleanupClient _, _ => accounts.forget c
  | _, _, _ => accounts

structure Tracked where
  pool : RefPool
  accounts : Accounts := {}

def Tracked.init (valid : List Bool) : Tracked where
  pool := { state := { stores := valid.map fun usable => { valid := usable } }, threads := [] }

def trackedStep (tracked : Tracked) (turn : Turn RefCall) : Tracked where
  pool := Pool.step RefAction.handle RefCall.program tracked.pool turn
  accounts :=
    match turn with
    | .start _ => tracked.accounts
    | .advance i =>
      match tracked.pool.threads[i]? with
      | some (request, .call act _) =>
        tracked.accounts.note request act (act.handle tracked.pool.state).1
      | _ => tracked.accounts

/-- The threads between whose sections another one runs: a count has room for one more, a client
releases what a finished `AddRef` has granted, and is cleaned up when none of its calls of
`AddRef` is on its way. -/
def Disciplined (tracked : Tracked) : Turn RefCall → Prop
  | .start _ => True
  | .advance i =>
    match tracked.pool.threads[i]? with
    | some (.addRef store c _, .call (.addCount _ _) _) =>
      tracked.pool.state.refCounts.count c store + 1 < 2 ^ 32
    | some (.releaseRef store c, .call _ _) =>
      pendingRefs tracked.pool.threads c store < tracked.pool.state.refCounts.count c store
    | some (.cleanupClient c, .call _ _) =>
      ∀ thread ∈ tracked.pool.threads, (bindingOf thread).map Prod.fst ≠ some c
    | _ => True

instance (tracked : Tracked) (turn : Turn RefCall) : Decidable (Disciplined tracked turn) := by
  unfold Disciplined
  split
  · infer_instance
  · split <;> infer_instance

theorem addRef_eq (store : TrustStoreId) (c : ClientId) (resolved : Expected Unit) :
    addRef store c resolved = .call (.findStore store) fun found =>
      if found then .call (.addCount store c) fun _ => bindStore store c resolved
      else .done (.error .invalidArgument) := by
  refine congrArg (Program.call (RefAction.findStore store)) (funext fun found => ?_)
  cases found <;> rfl

theorem bindStore_eq (store : TrustStoreId) (c : ClientId)
    (resolved : Expected Unit) :
    bindStore store c resolved = .call (.loadCache store resolved) fun loaded =>
      match loaded with
      | .ok _ => .done (.ok ())
      | .error e => .call (.releaseCount store c) fun _ => .done (.error e) := by
  refine congrArg (Program.call (RefAction.loadCache store resolved)) (funext fun loaded => ?_)
  cases loaded <;> rfl

inductive Phase : RefThread → Prop
  | start (request : RefCall) : Phase (request, request.program)
  | counting (store c resolved) : Phase (.addRef store c resolved,
      .call (.addCount store c) fun _ => bindStore store c resolved)
  | loading (store c resolved) : Phase (.addRef store c resolved, bindStore store c resolved)
  | failing (store c resolved e) : Phase (.addRef store c resolved,
      .call (.releaseCount store c) fun _ => .done (.error e))
  | finished (request value) : Phase (request, .done value)

variable {threads : List RefThread} {i : Nat}

theorem pendingRefs_set {thread : RefThread} (found : threads[i]? = some thread) (next : RefThread)
    (c : ClientId) (store : TrustStoreId) :
    pendingRefs (threads.set i next) c store + (if bindingOf thread = some (c, store) then 1 else 0) =
      pendingRefs threads c store + if bindingOf next = some (c, store) then 1 else 0 := by
  rcases List.getElem?_eq_some_iff.mp found with ⟨inside, same⟩
  have changed := List.countP_set (p := fun thread => decide (bindingOf thread = some (c, store)))
    (a := next) inside
  have counted : (if bindingOf thread = some (c, store) then 1 else 0) ≤
      pendingRefs threads c store := by
    split
    case isTrue own =>
      exact List.countP_pos_iff.mpr ⟨thread, List.mem_of_getElem? found, by simpa using own⟩
    case isFalse => exact Nat.zero_le _
  unfold pendingRefs at counted ⊢
  rw [changed, same]
  simp only [decide_eq_true_eq]
  omega

variable {tracked : Tracked}

theorem step_advance {request : RefCall} {act : RefAction}
    {next : act.Res → RefProg (Expected Unit)}
    (found : tracked.pool.threads[i]? = some (request, .call act next)) :
    trackedStep tracked (.advance i) =
      { pool :=
          { state := (act.handle tracked.pool.state).2
            threads := tracked.pool.threads.set i
              (request, next (act.handle tracked.pool.state).1) }
        accounts := tracked.accounts.note request act (act.handle tracked.pool.state).1 } := by
  simp [trackedStep, Pool.step, found]

structure Kept (tracked : Tracked) : Prop where
  phases : ∀ thread ∈ tracked.pool.threads, Phase thread
  books : Books tracked.pool.state tracked.accounts (pendingRefs tracked.pool.threads)

theorem phases_set {next : RefThread} (phases : ∀ thread ∈ threads, Phase thread)
    (phase : Phase next) :
    ∀ thread ∈ threads.set i next, Phase thread := by
  intro thread member
  rcases List.mem_or_eq_of_mem_set member with old | new
  · exact phases thread old
  · rw [new]
    exact phase

variable {thread next : RefThread}

theorem pendingRefs_same (found : threads[i]? = some thread)
    (same : bindingOf next = bindingOf thread) :
    pendingRefs (threads.set i next) = pendingRefs threads := by
  funext c store
  have changed := pendingRefs_set found next c store
  rw [same] at changed
  exact Nat.add_right_cancel changed

theorem pendingRefs_started {c : ClientId} {store : TrustStoreId}
    (found : threads[i]? = some thread) (before : bindingOf thread = none)
    (after : bindingOf next = some (c, store)) :
    pendingRefs (threads.set i next) = bump (pendingRefs threads) c store := by
  funext other otherStore
  have changed := pendingRefs_set found next other otherStore
  simpa [before, after, bump, eq_comm] using changed

theorem pendingRefs_ended {c : ClientId} {store : TrustStoreId} (found : threads[i]? = some thread)
    (before : bindingOf thread = some (c, store)) (after : bindingOf next = none) :
    pendingRefs threads = bump (pendingRefs (threads.set i next)) c store := by
  funext other otherStore
  have changed := pendingRefs_set found next other otherStore
  simpa [before, after, bump, eq_comm] using changed.symm

section Advance

variable {tracked : Tracked} {i : Nat} {store : TrustStoreId} {c : ClientId}
  {resolved : Expected Unit}

section

variable (kept : Kept tracked)

include kept

theorem Kept.sameBinding {request : RefCall} {act : RefAction}
    {next : act.Res → RefProg (Expected Unit)}
    (found : tracked.pool.threads[i]? = some (request, .call act next))
    (phase : Phase (request, next (act.handle tracked.pool.state).1))
    (same : bindingOf (request, next (act.handle tracked.pool.state).1) =
      bindingOf (request, .call act next))
    (books : Books (act.handle tracked.pool.state).2
      (tracked.accounts.note request act (act.handle tracked.pool.state).1)
      (pendingRefs tracked.pool.threads)) :
    Kept (trackedStep tracked (.advance i)) := by
  rw [step_advance found]
  refine ⟨phases_set kept.phases phase, ?_⟩
  rw [pendingRefs_same found same]
  exact books

theorem Kept.findStore (found : tracked.pool.threads[i]? =
      some (.addRef store c resolved, addRef store c resolved)) :
    Kept (trackedStep tracked (.advance i)) := by
  rw [addRef_eq] at found
  refine kept.sameBinding found ?_ ?_ kept.books
  · split
    · exact Phase.counting store c resolved
    · exact Phase.finished _ _
  · split <;> rfl

theorem Kept.counting (found : tracked.pool.threads[i]? = some (.addRef store c resolved,
      .call (.addCount store c) fun _ => bindStore store c resolved))
    (room : tracked.pool.state.refCounts.count c store + 1 < 2 ^ 32) :
    Kept (trackedStep tracked (.advance i)) := by
  rw [step_advance found]
  refine ⟨phases_set kept.phases (Phase.loading store c resolved), ?_⟩
  exact kept.books.addCount room (pendingRefs_started found rfl (by rw [bindStore_eq]; rfl))

theorem Kept.loading (found : tracked.pool.threads[i]? =
      some (.addRef store c resolved, bindStore store c resolved)) :
    Kept (trackedStep tracked (.advance i)) := by
  rw [bindStore_eq] at found
  cases answer : (tracked.pool.state.loadCache store resolved).1 with
  | ok _ =>
    rw [step_advance found]
    simp only [RefAction.handle, answer]
    refine ⟨phases_set kept.phases (Phase.finished _ _), ?_⟩
    exact kept.books.granted resolved (pendingRefs_ended found rfl rfl)
  | error e =>
    refine kept.sameBinding found ?_ ?_ ?_ <;> simp only [RefAction.handle, answer]
    · exact Phase.failing store c resolved e
    · rfl
    · exact kept.books.refused resolved (by rw [answer]; simp)

theorem Kept.failing {e : DaemonErrorCode}
    (found : tracked.pool.threads[i]? = some (.addRef store c resolved,
      .call (.releaseCount store c) fun _ => .done (.error e))) :
    Kept (trackedStep tracked (.advance i)) := by
  rw [step_advance found]
  refine ⟨phases_set kept.phases (Phase.finished _ _), ?_⟩
  exact kept.books.rollback (pendingRefs_ended found rfl rfl)

theorem Kept.releaseRef (found : tracked.pool.threads[i]? =
      some (.releaseRef store c, RefCall.program (.releaseRef store c)))
    (held : pendingRefs tracked.pool.threads c store <
      tracked.pool.state.refCounts.count c store) :
    Kept (trackedStep tracked (.advance i)) := by
  have found' : tracked.pool.threads[i]? =
      some (.releaseRef store c, .call (.releaseCount store c) fun _ => .done (.ok ())) := found
  exact kept.sameBinding found' (Phase.finished _ _) rfl (kept.books.released held)

theorem Kept.cleanupClient (found : tracked.pool.threads[i]? =
      some (.cleanupClient c, RefCall.program (.cleanupClient c)))
    (none : ∀ thread ∈ tracked.pool.threads, (bindingOf thread).map Prod.fst ≠ some c) :
    Kept (trackedStep tracked (.advance i)) := by
  have found' : tracked.pool.threads[i]? =
      some (.cleanupClient c, .call (.cleanupClient c) fun _ => .done (.ok ())) := found
  refine kept.sameBinding found' (Phase.finished _ _) rfl (kept.books.forgotten ?_)
  intro store
  refine List.countP_eq_zero.mpr fun thread member => ?_
  intro own
  exact none thread member (by simp [of_decide_eq_true own])

theorem Kept.advance (disciplined : Disciplined tracked (.advance i)) :
    Kept (trackedStep tracked (.advance i)) := by
  cases found : tracked.pool.threads[i]? with
  | none => simpa [trackedStep, Pool.step, found] using kept
  | some thread =>
    have phase := kept.phases thread (List.mem_of_getElem? found)
    simp only [Disciplined, found] at disciplined
    cases phase with
    | start request =>
      cases request with
      | addRef store c resolved => exact kept.findStore found
      | releaseRef store c => exact kept.releaseRef found disciplined
      | cleanupClient c => exact kept.cleanupClient found disciplined
    | counting store c resolved => exact kept.counting found disciplined
    | loading store c resolved => exact kept.loading found
    | failing store c resolved e => exact kept.failing found
    | finished request value => simpa [trackedStep, Pool.step, found] using kept

end

end Advance

theorem Kept.step {turn : Turn RefCall} (kept : Kept tracked)
    (disciplined : Disciplined tracked turn) : Kept (trackedStep tracked turn) := by
  cases turn with
  | advance i => exact kept.advance disciplined
  | start request =>
    have outside : bindingOf (request, request.program) = none := by
      cases request with
      | addRef store c resolved => simp [RefCall.program, addRef_eq, bindingOf]
      | releaseRef store c => rfl
      | cleanupClient c => rfl
    refine ⟨?_, ?_⟩
    · intro thread member
      rcases List.mem_append.mp member with old | new
      · exact kept.phases thread old
      · rw [List.mem_singleton.mp new]
        exact Phase.start request
    · have same : pendingRefs (tracked.pool.threads ++ [(request, request.program)]) =
          pendingRefs tracked.pool.threads := by
        funext c store
        simp [pendingRefs, outside]
      change Books _ _ (pendingRefs (tracked.pool.threads ++ [(request, request.program)]))
      rw [same]
      exact kept.books

theorem init_kept (valid : List Bool) : Kept (Tracked.init valid) := by
  refine ⟨fun thread member => absurd member List.not_mem_nil, fun c store => ?_, ?_⟩
  · have nothing : (Tracked.init valid).pool.state.refCounts.entry c store = none := by
      simp [Tracked.init, RefCounts.entry, RefCounts.perStore]
    rw [nothing]
    exact ⟨by simp, rfl, Nat.le_refl 0⟩
  · intro store warm
    exfalso
    simp only [Tracked.init, TrustStoreManager.loaded, List.getElem?_map] at warm
    cases found : valid[store]? <;> simp [found] at warm

/-! ### The lifetime of the cache -/

/-- A warm store is held by a client. A count is what the client was granted and has not given
back, and the calls of `AddRef` on their way; one that failed has left nothing behind. -/
structure CacheLifetime (tracked : Tracked) : Prop where
  warm : ∀ store, tracked.pool.state.loaded store = true →
    ∃ c, 0 < tracked.pool.state.refCounts.count c store
  running : ∀ c store, tracked.pool.state.refCounts.count c store + tracked.accounts.released c store =
    tracked.accounts.granted c store + pendingRefs tracked.pool.threads c store
  idle : tracked.pool.Idle → ∀ c store,
    tracked.pool.state.refCounts.count c store + tracked.accounts.released c store =
      tracked.accounts.granted c store

theorem pendingRefs_idle {pool : RefPool} (idle : pool.Idle) (c : ClientId)
    (store : TrustStoreId) : pendingRefs pool.threads c store = 0 := by
  refine List.countP_eq_zero.mpr fun thread member => ?_
  have finished := idle thread member
  rcases thread with ⟨request, value | ⟨act, next⟩⟩
  · cases request <;> simp [bindingOf]
  · cases finished

theorem Kept.cacheLifetime (kept : Kept tracked) : CacheLifetime tracked where
  warm store loaded := by
    rcases kept.books.warm store loaded with ⟨c, held⟩
    refine ⟨c, Nat.pos_of_ne_zero fun zero => (kept.books.fits c store).positive ?_⟩
    rcases Option.isSome_iff_exists.mp held with ⟨n, found⟩
    rw [RefCounts.count, found] at zero
    rw [found, ← zero, Option.getD_some]
  running c store := (kept.books.fits c store).balanced
  idle idle c store := by
    have balanced := (kept.books.fits c store).balanced
    rw [pendingRefs_idle idle] at balanced
    exact balanced

theorem run_cacheLifetime (valid : List Bool) (turns : List (Turn RefCall))
    (disciplined : Meets trackedStep Disciplined (.init valid) turns) :
    CacheLifetime (run trackedStep (.init valid) turns) := by
  have kept := run_invariant_of_meets Kept (fun tracked turn kept ok => Kept.step kept ok)
    (.init valid) turns (init_kept valid) disciplined
  exact kept.cacheLifetime

def refusedTurns : List (Turn RefCall) :=
  [.start (.addRef 0 7 (.ok ())), .start (.addRef 1 7 (.ok ())), .advance 0, .advance 1,
    .advance 0, .advance 1, .advance 1, .advance 0, .advance 1]

theorem refusedTurns_cacheLifetime :
    CacheLifetime (run trackedStep (.init [true, false]) refusedTurns) := by
  apply run_cacheLifetime
  decide

def cleanupTurns : List (Turn RefCall) :=
  [.start (.addRef 0 7 (.ok ())), .advance 0, .advance 0, .start (.cleanupClient 7), .advance 1,
    .advance 0]

theorem cleanupTurns_leak :
    (run trackedStep (.init [true]) cleanupTurns).pool.Idle ∧
      (run trackedStep (.init [true]) cleanupTurns).pool.state.loaded 0 = true ∧
      (run trackedStep (.init [true]) cleanupTurns).pool.state.refCounts = ∅ := by
  decide

end ScoreCrypto.CertManagement
