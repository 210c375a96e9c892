import Mathlib.Algebra.Ring.Nat
import ScoreCrypto.Lib.Bitmap
import ScoreCrypto.Lib.Run

/-!
The PoolAllocator of the client library: sectors of a shared memory pool, handed out in runs by first
fit and taken back by address.
-/

namespace ScoreCrypto.Api

open Bitmap

/-! ### The allocator -/

inductive AllocationError where
  | quotaExhausted
  | concurrentLimitHit
  | fragmentationError
  | poolNotInitialized
  | activationFailed
  | invalidArgument
  deriving DecidableEq, Repr

/-- A region of memory: no object is larger than `PTRDIFF_MAX`, and it ends inside the address
space. -/
structure ReadWriteMemory where
  data : Nat
  size : Nat
  size_lt : size < 2 ^ 63
  end_lt : data + size < 2 ^ 64

structure Span where
  data : Nat
  size : Nat
  deriving DecidableEq, Repr

def dynamicExtent : Nat := 2 ^ 64 - 1

/-- The span type, which is not part of the library: what `subspan` gives for an offset and a count that
reach beyond the end is left open. -/
structure SpanLibrary where
  subspan : ReadWriteMemory → (offset count : Nat) → Span
  subspan_inside : ∀ memory offset count, count ≠ dynamicExtent → offset + count ≤ memory.size →
    subspan memory offset count = ⟨memory.data + offset, count⟩
  subspan_dynamicExtent : ∀ memory offset, offset ≤ memory.size →
    subspan memory offset dynamicExtent = ⟨memory.data + offset, memory.size - offset⟩

/-- Set bits are free sectors. -/
structure PoolAllocator where
  chunkSize : Nat
  poolMemory : ReadWriteMemory
  freeSectors : List Bool
  chunkSize_pos : 0 < chunkSize
  chunkSize_le : chunkSize ≤ poolMemory.size
  sectors : freeSectors.length = poolMemory.size / chunkSize

namespace PoolAllocator

def create (pool : Option ReadWriteMemory) (slotSize : Nat) : Except AllocationError PoolAllocator :=
  if positive : slotSize = 0 then .error .invalidArgument
  else
    match pool with
    | none => .error .poolNotInitialized
    | some memory =>
      if memory.size = 0 then .error .invalidArgument
      else if small : memory.size < slotSize then .error .invalidArgument
      else
        .ok
          { chunkSize := slotSize
            poolMemory := memory
            freeSectors := List.replicate (memory.size / slotSize) true
            chunkSize_pos := Nat.pos_of_ne_zero positive
            chunkSize_le := Nat.le_of_not_lt small
            sectors := List.length_replicate }

variable (spans : SpanLibrary) (pool : PoolAllocator)

def markSectors (free : Bool) (start count : Nat) : PoolAllocator :=
  { pool with
    freeSectors := mark free pool.freeSectors start count
    sectors := (length_mark _ _ _ _).trans pool.sectors }

/-- `(size + m_chunk_size - 1U) / m_chunk_size` in `size_t`. -/
def sectorsFor (size : Nat) : Nat :=
  (size + pool.chunkSize - 1) % 2 ^ 64 / pool.chunkSize

def allocateContiguousChunks (sectorsNeeded : Nat) : Except AllocationError Nat :=
  if pool.freeSectors.length < sectorsNeeded then .error .fragmentationError
  else
    match firstFit pool.freeSectors sectorsNeeded 0 with
    | some start => .ok start
    | none => .error .fragmentationError

def allocate (size : Nat) : Except AllocationError Span × PoolAllocator :=
  if size = 0 then (.error .invalidArgument, pool)
  else
    match pool.allocateContiguousChunks (pool.sectorsFor size) with
    | .error _ => (.error .fragmentationError, pool)
    | .ok start =>
      (.ok (spans.subspan pool.poolMemory (start * pool.chunkSize) size),
        pool.markSectors false start (pool.sectorsFor size))

def releaseChunks (offset size : Nat) : PoolAllocator :=
  if pool.freeSectors.length < offset / pool.chunkSize + pool.sectorsFor size then pool
  else pool.markSectors true (offset / pool.chunkSize) (pool.sectorsFor size)

def deallocate (slot : Span) : PoolAllocator :=
  if slot.data < pool.poolMemory.data ∨
      pool.poolMemory.data + pool.poolMemory.size < slot.data + slot.size then pool
  else if pool.chunkSize = 0 ∨ (slot.data - pool.poolMemory.data) % pool.chunkSize ≠ 0 then pool
  else pool.releaseChunks (slot.data - pool.poolMemory.data) slot.size

/-! ### Sectors -/

/-- The sector shares a byte with the span. -/
def Belongs (sector : Nat) (span : Span) : Prop :=
  span.data < pool.poolMemory.data + (sector + 1) * pool.chunkSize ∧
    pool.poolMemory.data + sector * pool.chunkSize < span.data + span.size

def Used (sector : Nat) : Prop :=
  pool.freeSectors[sector]? = some false

end PoolAllocator

def Span.Disjoint (first second : Span) : Prop :=
  first.data + first.size ≤ second.data ∨ second.data + second.size ≤ first.data

/-- A span that starts with a sector and has those it reaches into to itself. -/
structure PoolAllocator.Holds (pool : PoolAllocator) (start : Nat) (span : Span) : Prop where
  data : span.data = pool.poolMemory.data + start * pool.chunkSize
  positive : 0 < span.size
  size_le : span.size ≤ pool.poolMemory.size
  bound : start + pool.sectorsFor span.size ≤ pool.freeSectors.length

namespace PoolAllocator

variable {spans : SpanLibrary} {pool : PoolAllocator} {span : Span} {start : Nat} {size : Nat}

theorem safe_of_le (within : size ≤ pool.poolMemory.size) : size + pool.chunkSize ≤ 2 ^ 64 := by
  have chunk := pool.chunkSize_le
  have fits := pool.poolMemory.size_lt
  omega

theorem sectorsFor_eq (safe : size + pool.chunkSize ≤ 2 ^ 64) :
    pool.sectorsFor size = (size + pool.chunkSize - 1) / pool.chunkSize := by
  have chunk := pool.chunkSize_pos
  unfold sectorsFor
  rw [Nat.mod_eq_of_lt (by omega)]

theorem sectorsFor_bounds (positive : 0 < size) (safe : size + pool.chunkSize ≤ 2 ^ 64) :
    size ≤ pool.sectorsFor size * pool.chunkSize ∧
      pool.sectorsFor size * pool.chunkSize < size + pool.chunkSize := by
  have chunk := pool.chunkSize_pos
  have division := Nat.div_add_mod (size + pool.chunkSize - 1) pool.chunkSize
  have rest := Nat.mod_lt (size + pool.chunkSize - 1) chunk
  rw [sectorsFor_eq safe, Nat.mul_comm]
  omega

theorem sectors_inside {count : Nat} (bound : count ≤ pool.freeSectors.length) :
    count * pool.chunkSize ≤ pool.poolMemory.size :=
  calc
    _ ≤ pool.freeSectors.length * pool.chunkSize := Nat.mul_le_mul_right _ bound
    _ = pool.poolMemory.size / pool.chunkSize * pool.chunkSize := by rw [pool.sectors]
    _ ≤ pool.poolMemory.size := Nat.div_mul_le_self _ _

section

variable (holds : pool.Holds start span)

include holds

theorem Holds.bounds :
    span.size ≤ pool.sectorsFor span.size * pool.chunkSize ∧
      pool.sectorsFor span.size * pool.chunkSize < span.size + pool.chunkSize :=
  sectorsFor_bounds holds.positive (safe_of_le holds.size_le)

theorem Holds.belongs_iff (sector : Nat) :
    pool.Belongs sector span ↔ start ≤ sector ∧ sector < start + pool.sectorsFor span.size := by
  have chunk := pool.chunkSize_pos
  have bounds := holds.bounds
  unfold Belongs
  rw [holds.data]
  constructor
  · rintro ⟨above, below⟩
    have first : start * pool.chunkSize < (sector + 1) * pool.chunkSize := by omega
    have last : sector * pool.chunkSize < (start + pool.sectorsFor span.size) * pool.chunkSize := by
      rw [Nat.add_mul]
      omega
    exact ⟨Nat.lt_succ_iff.mp (Nat.lt_of_mul_lt_mul_right first), Nat.lt_of_mul_lt_mul_right last⟩
  · rintro ⟨above, below⟩
    have first : start * pool.chunkSize ≤ sector * pool.chunkSize := Nat.mul_le_mul_right _ above
    have last : (sector + 1) * pool.chunkSize ≤
        (start + pool.sectorsFor span.size) * pool.chunkSize := Nat.mul_le_mul_right _ below
    rw [Nat.add_mul] at last
    rw [Nat.add_mul, Nat.one_mul] at *
    constructor
    · omega
    · omega

theorem Holds.first_belongs : pool.Belongs start span := by
  have bounds := holds.bounds
  have positive := holds.positive
  have some : pool.sectorsFor span.size ≠ 0 := by
    intro none
    rw [none] at bounds
    omega
  exact (holds.belongs_iff start).mpr ⟨Nat.le_refl _, by omega⟩

theorem Holds.disjoint {other : Span} {start' : Nat} (holds' : pool.Holds start' other)
    (apart : ∀ sector, ¬ (pool.Belongs sector span ∧ pool.Belongs sector other)) :
    span.Disjoint other := by
  have step := pool.chunkSize_pos
  unfold Span.Disjoint
  by_contra meet
  rcases Nat.le_total start start' with before | before
  · refine apart start' ⟨(holds.belongs_iff start').mpr ⟨before, ?_⟩, holds'.first_belongs⟩
    have bounds := holds.bounds
    have below : start' * pool.chunkSize < (start + pool.sectorsFor span.size) * pool.chunkSize := by
      rw [holds.data, holds'.data] at meet
      rw [Nat.add_mul]
      omega
    exact Nat.lt_of_mul_lt_mul_right below
  · refine apart start ⟨holds.first_belongs, (holds'.belongs_iff start).mpr ⟨before, ?_⟩⟩
    have bounds := holds'.bounds
    have below : start * pool.chunkSize <
        (start' + pool.sectorsFor other.size) * pool.chunkSize := by
      rw [holds.data, holds'.data] at meet
      rw [Nat.add_mul]
      omega
    exact Nat.lt_of_mul_lt_mul_right below

theorem Holds.inside :
    pool.poolMemory.data ≤ span.data ∧
      span.data + span.size ≤ pool.poolMemory.data + pool.poolMemory.size := by
  have bounds := holds.bounds
  have last := sectors_inside holds.bound
  rw [Nat.add_mul] at last
  rw [holds.data]
  omega

end

/-! ### Live allocations -/

/-- The bitmap against the spans that have been handed out and not taken back. -/
structure Consistent (pool : PoolAllocator) (live : List Span) : Prop where
  held : ∀ span ∈ live, ∃ start, pool.Holds start span
  apart : live.Pairwise fun span other =>
    ∀ sector, ¬ (pool.Belongs sector span ∧ pool.Belongs sector other)
  used : ∀ sector, pool.Used sector ↔ ∃ span ∈ live, pool.Belongs sector span

variable {live : List Span}

theorem used_markSectors (free : Bool) (start count sector : Nat) :
    (pool.markSectors free start count).Used sector ↔
      if start ≤ sector ∧ sector < start + count then sector < pool.freeSectors.length ∧ free = false
      else pool.Used sector := by
  unfold Used markSectors
  rw [getElem?_mark]
  split
  · by_cases inside : sector < pool.freeSectors.length
    · simp [inside]
    · simp [inside]
  · rfl

theorem Holds.marked (holds : pool.Holds start span) (free : Bool) (start' count : Nat) :
    (pool.markSectors free start' count).Holds start span :=
  ⟨holds.data, holds.positive, holds.size_le, by
    rw [show (pool.markSectors free start' count).freeSectors.length = pool.freeSectors.length from
      length_mark _ _ _ _]
    exact holds.bound⟩

variable {pool' : PoolAllocator}

theorem allocateContiguousChunks_eq (needed : Nat) :
    pool.allocateContiguousChunks needed =
      match firstFit pool.freeSectors needed 0 with
      | some start => .ok start
      | none => .error .fragmentationError := by
  unfold allocateContiguousChunks
  split
  · rw [firstFit_of_short (by omega)]
  · rfl

theorem allocate_found (nonempty : 0 < size) (safe : size + pool.chunkSize ≤ 2 ^ 64)
    (fits : firstFit pool.freeSectors (pool.sectorsFor size) 0 = some start) :
    pool.allocate spans size = (.ok ⟨pool.poolMemory.data + start * pool.chunkSize, size⟩,
      pool.markSectors false start (pool.sectorsFor size)) ∧
    pool.Holds start ⟨pool.poolMemory.data + start * pool.chunkSize, size⟩ := by
  have found := (firstFit_some fits).2.1
  have within := sectors_inside (Nat.le_trans (Nat.le_add_left _ _) found)
  have whole : size ≤ pool.poolMemory.size :=
    Nat.le_trans (sectorsFor_bounds nonempty safe).1 within
  have small := pool.poolMemory.size_lt
  have last := sectors_inside found
  rw [Nat.add_mul] at last
  refine ⟨?_, rfl, nonempty, whole, found⟩
  rw [allocate, if_neg (by omega), allocateContiguousChunks_eq, fits]
  simp only
  rw [spans.subspan_inside]
  · unfold dynamicExtent
    omega
  · have rounded := (sectorsFor_bounds nonempty safe).1
    omega

theorem allocate_refused (nonempty : 0 < size)
    (none : firstFit pool.freeSectors (pool.sectorsFor size) 0 = none) :
    pool.allocate spans size = (.error .fragmentationError, pool) := by
  rw [allocate, if_neg (by omega), allocateContiguousChunks_eq, none]

theorem allocate_ok (safe : size + pool.chunkSize ≤ 2 ^ 64)
    (allocated : pool.allocate spans size = (.ok span, pool')) :
    ∃ start, pool.Holds start span ∧ pool' = pool.markSectors false start (pool.sectorsFor span.size) ∧
      ∀ sector, pool.Belongs sector span → ¬ pool.Used sector := by
  rcases Nat.eq_zero_or_pos size with rfl | nonempty
  · cases allocated
  · cases fits : firstFit pool.freeSectors (pool.sectorsFor size) 0 with
    | none => cases (allocate_refused nonempty fits).symm.trans allocated
    | some start =>
      rcases allocate_found nonempty safe fits with ⟨same, holds⟩
      cases same.symm.trans allocated
      refine ⟨start, holds, rfl, fun sector belongs used => ?_⟩
      rcases (holds.belongs_iff sector).mp belongs with ⟨above, below⟩
      cases used.symm.trans ((firstFit_some fits).2.2 sector above below)

theorem allocate_error {e : AllocationError} (refused : pool.allocate spans size = (.error e, pool')) :
    pool' = pool := by
  unfold allocate at refused
  split at refused
  · exact (congrArg Prod.snd refused).symm
  · split at refused
    · exact (congrArg Prod.snd refused).symm
    · cases refused

theorem Consistent.allocate (consistent : pool.Consistent live)
    (within : size ≤ pool.poolMemory.size) (allocated : pool.allocate spans size = (.ok span, pool')) :
    pool'.Consistent (span :: live) := by
  rcases allocate_ok (safe_of_le within) allocated with ⟨start, holds, rfl, free⟩
  refine ⟨?_, ?_, ?_⟩
  · intro other inside
    rcases List.mem_cons.mp inside with rfl | old
    · exact ⟨start, holds.marked _ _ _⟩
    · rcases consistent.held other old with ⟨start', holds'⟩
      exact ⟨start', holds'.marked _ _ _⟩
  · refine List.pairwise_cons.mpr ⟨?_, consistent.apart⟩
    rintro other old sector ⟨belongs, belongs'⟩
    exact free sector belongs ((consistent.used sector).mpr ⟨other, old, belongs'⟩)
  · intro sector
    rw [used_markSectors]
    split
    case isTrue inside =>
      have bound := holds.bound
      refine ⟨fun _ => ⟨span, List.mem_cons_self, (holds.belongs_iff sector).mpr inside⟩, fun _ => ?_⟩
      exact ⟨by omega, rfl⟩
    case isFalse outside =>
      rw [consistent.used sector]
      constructor
      · rintro ⟨other, old, belongs⟩
        exact ⟨other, List.mem_cons_of_mem _ old, belongs⟩
      · rintro ⟨other, inside, belongs⟩
        rcases List.mem_cons.mp inside with rfl | old
        · exact absurd ((holds.belongs_iff sector).mp belongs) outside
        · exact ⟨other, old, belongs⟩

theorem Holds.deallocate (holds : pool.Holds start span) :
    pool.deallocate span = pool.markSectors true start (pool.sectorsFor span.size) := by
  have inside := holds.inside
  have offset : span.data - pool.poolMemory.data = start * pool.chunkSize := by
    rw [holds.data, Nat.add_sub_cancel_left]
  have positive := pool.chunkSize_pos
  unfold PoolAllocator.deallocate releaseChunks
  rw [offset, if_neg (by omega), if_neg (by simp; omega), Nat.mul_div_cancel _ positive,
    if_neg (Nat.not_lt.mpr holds.bound)]

theorem Consistent.deallocate (consistent : pool.Consistent live) (handed : span ∈ live) :
    (pool.deallocate span).Consistent (live.erase span) := by
  rcases consistent.held span handed with ⟨start, holds⟩
  rw [holds.deallocate]
  have rest : ∀ other ∈ live.erase span, ∀ sector,
      ¬ (pool.Belongs sector span ∧ pool.Belongs sector other) := by
    have first : (span :: live.erase span).Pairwise fun span other =>
        ∀ sector, ¬ (pool.Belongs sector span ∧ pool.Belongs sector other) := by
      refine (List.perm_cons_erase handed).pairwise consistent.apart ?_
      intro first second apart sector both
      exact apart sector both.symm
    exact (List.pairwise_cons.mp first).1
  refine ⟨?_, ?_, ?_⟩
  · intro other inside
    rcases consistent.held other (List.mem_of_mem_erase inside) with ⟨start', holds'⟩
    exact ⟨start', holds'.marked _ _ _⟩
  · exact consistent.apart.sublist List.erase_sublist
  · intro sector
    rw [used_markSectors]
    split
    case isTrue inside =>
      have belongs := (holds.belongs_iff sector).mpr inside
      constructor
      · rintro ⟨-, ⟨⟩⟩
      · rintro ⟨other, later, belongs'⟩
        exact absurd ⟨belongs, belongs'⟩ (rest other later sector)
    case isFalse outside =>
      rw [consistent.used sector]
      constructor
      · rintro ⟨other, old, belongs⟩
        refine ⟨other, (List.mem_erase_of_ne ?_).mpr old, belongs⟩
        rintro rfl
        exact outside ((holds.belongs_iff sector).mp belongs)
      · rintro ⟨other, later, belongs⟩
        exact ⟨other, List.mem_of_mem_erase later, belongs⟩

/-! ### Runs -/

structure State where
  pool : PoolAllocator
  live : List Span := []

inductive Call where
  | allocate (size : Nat)
  | deallocate (slot : Span)

def State.step (spans : SpanLibrary) (state : State) : Call → State
  | .allocate size =>
    match state.pool.allocate spans size with
    | (.ok span, pool) => { pool := pool, live := span :: state.live }
    | (.error _, pool) => { state with pool := pool }
  | .deallocate slot => { pool := state.pool.deallocate slot, live := state.live.erase slot }

/-- Requests are not larger than the pool, and what is freed is live. -/
def State.Proper (state : State) : Call → Prop
  | .allocate size => size ≤ state.pool.poolMemory.size
  | .deallocate slot => slot ∈ state.live

instance (state : State) (call : Call) : Decidable (state.Proper call) :=
  match call with
  | .allocate size => inferInstanceAs (Decidable (size ≤ _))
  | .deallocate slot => inferInstanceAs (Decidable (slot ∈ _))

theorem State.step_consistent (state : State) (call : Call)
    (consistent : state.pool.Consistent state.live) (proper : state.Proper call) :
    (state.step spans call).pool.Consistent (state.step spans call).live := by
  cases call with
  | allocate size =>
    cases answer : state.pool.allocate spans size with
    | mk result pool' =>
      cases result with
      | ok span =>
        simp only [step, answer]
        exact consistent.allocate proper answer
      | error e =>
        simp only [step, answer]
        rw [allocate_error answer]
        exact consistent
  | deallocate slot => exact consistent.deallocate proper

theorem allocate_geometry (spans : SpanLibrary) (pool : PoolAllocator) (size : Nat) :
    (pool.allocate spans size).2.poolMemory = pool.poolMemory ∧
      (pool.allocate spans size).2.chunkSize = pool.chunkSize := by
  unfold PoolAllocator.allocate
  split
  · exact ⟨rfl, rfl⟩
  · split <;> exact ⟨rfl, rfl⟩

theorem deallocate_geometry (pool : PoolAllocator) (slot : Span) :
    (pool.deallocate slot).poolMemory = pool.poolMemory ∧
      (pool.deallocate slot).chunkSize = pool.chunkSize := by
  unfold PoolAllocator.deallocate releaseChunks
  split
  · exact ⟨rfl, rfl⟩
  · split
    · exact ⟨rfl, rfl⟩
    · split <;> exact ⟨rfl, rfl⟩

theorem State.step_geometry (spans : SpanLibrary) (state : State) (call : Call) :
    (state.step spans call).pool.poolMemory = state.pool.poolMemory ∧
      (state.step spans call).pool.chunkSize = state.pool.chunkSize := by
  cases call with
  | allocate size =>
    have kept := allocate_geometry spans state.pool size
    cases answer : state.pool.allocate spans size with
    | mk result pool' =>
      rw [answer] at kept
      cases result with
      | ok | error => simpa only [step, answer] using kept
  | deallocate slot => exact deallocate_geometry state.pool slot

theorem create_ok {memory : Option ReadWriteMemory} {slotSize : Nat}
    (created : create memory slotSize = .ok pool) :
    memory = some pool.poolMemory ∧ pool.chunkSize = slotSize ∧ pool.Consistent [] := by
  unfold create at created
  split at created
  case isTrue => cases created
  case isFalse =>
    split at created
    case h_1 => cases created
    case h_2 =>
      split at created
      case isTrue => cases created
      case isFalse =>
        split at created
        case isTrue => cases created
        case isFalse =>
          cases created
          refine ⟨rfl, rfl, by simp, List.Pairwise.nil, fun sector => ?_⟩
          simp [Used, List.getElem?_replicate]

/-- Whatever is allocated and freed, the live spans lie inside the pool and apart from each other, and
the bitmap marks their sectors and no others. -/
theorem run_consistent (spans : SpanLibrary) {memory : ReadWriteMemory} {slotSize : Nat}
    {pool : PoolAllocator}
    (created : create (some memory) slotSize = .ok pool) (calls : List Call)
    (proper : Run.Meets (State.step spans) State.Proper { pool := pool } calls) :
    (Run.run (State.step spans) { pool := pool } calls).live.Pairwise Span.Disjoint ∧
      (∀ span ∈ (Run.run (State.step spans) { pool := pool } calls).live,
        memory.data ≤ span.data ∧ span.data + span.size ≤ memory.data + memory.size) ∧
      (∀ sector, (Run.run (State.step spans) { pool := pool } calls).pool.Used sector ↔
        ∃ span ∈ (Run.run (State.step spans) { pool := pool } calls).live, pool.Belongs sector span) ∧
      ((Run.run (State.step spans) { pool := pool } calls).live = [] →
        ∀ sector, ¬ (Run.run (State.step spans) { pool := pool } calls).pool.Used sector) := by
  rcases create_ok created with ⟨⟨⟩, -, start⟩
  have geometry :
      (Run.run (State.step spans) { pool := pool } calls).pool.poolMemory = pool.poolMemory ∧
      (Run.run (State.step spans) { pool := pool } calls).pool.chunkSize = pool.chunkSize := by
    refine Run.run_invariant (fun state : State => state.pool.poolMemory = pool.poolMemory ∧
      state.pool.chunkSize = pool.chunkSize) ?_ _ calls ⟨rfl, rfl⟩
    intro state call same
    have kept := state.step_geometry spans call
    exact ⟨kept.1.trans same.1, kept.2.trans same.2⟩
  have consistent : (Run.run (State.step spans) { pool := pool } calls).pool.Consistent
      (Run.run (State.step spans) { pool := pool } calls).live :=
    Run.run_invariant_of_meets (fun state : State => state.pool.Consistent state.live)
      State.step_consistent _ calls start proper
  generalize Run.run (State.step spans) { pool := pool } calls = state at geometry consistent
  have belongs : ∀ sector span, pool.Belongs sector span ↔ state.pool.Belongs sector span := by
    intro sector span
    unfold Belongs
    rw [geometry.1, geometry.2]
  refine ⟨?_, ?_, ?_, ?_⟩
  · refine consistent.apart.imp_of_mem ?_
    intro span other inside inside' apart
    rcases consistent.held span inside with ⟨first, holds⟩
    rcases consistent.held other inside' with ⟨first', holds'⟩
    exact holds.disjoint holds' apart
  · intro span inside
    rcases consistent.held span inside with ⟨first, holds⟩
    rw [← geometry.1]
    exact holds.inside
  · intro sector
    simp only [belongs]
    exact consistent.used sector
  · intro empty sector used
    rcases (consistent.used sector).mp used with ⟨span, inside, -⟩
    rw [empty] at inside
    cases inside

/-! ### The search -/

def FreeRun (pool : PoolAllocator) (start count : Nat) : Prop :=
  start + count ≤ pool.freeSectors.length ∧
    ∀ sector, start ≤ sector → sector < start + count → pool.freeSectors[sector]? = some true

theorem not_freeRun {start needed : Nat}
    (before : ∀ found, firstFit pool.freeSectors needed 0 = some found → start < found) :
    ¬ pool.FreeRun start needed := by
  rintro ⟨bound, free⟩
  rcases firstFit_before (Nat.zero_le start) bound before with ⟨sector, above, below, used⟩
  exact used (free sector above below)

/-- The request fails if and only if there is no run for it, and is otherwise served from the lowest
one; the search reads no sector twice. -/
theorem allocate_complete (spans : SpanLibrary) (pool : PoolAllocator) (size : Nat)
    (nonempty : 0 < size) (within : size ≤ pool.poolMemory.size) :
    ((∃ e pool', pool.allocate spans size = (.error e, pool')) ↔
        ¬ ∃ start, pool.FreeRun start ((size + pool.chunkSize - 1) / pool.chunkSize)) ∧
      (∀ span pool', pool.allocate spans size = (.ok span, pool') →
        ∃ start, pool.FreeRun start ((size + pool.chunkSize - 1) / pool.chunkSize) ∧
          (∀ other < start, ¬ pool.FreeRun other ((size + pool.chunkSize - 1) / pool.chunkSize)) ∧
          span = ⟨pool.poolMemory.data + start * pool.chunkSize, size⟩) ∧
      (visited pool.freeSectors (pool.sectorsFor size) 0).Nodup ∧
      ∀ sector ∈ visited pool.freeSectors (pool.sectorsFor size) 0,
        sector < pool.freeSectors.length := by
  have safe := safe_of_le within
  have forward := visited_forward pool.freeSectors (pool.sectorsFor size) 0
  rw [← sectorsFor_eq safe, ← and_assoc]
  refine ⟨?_, forward.1.imp Nat.ne_of_lt, fun sector read => (forward.2 sector read).2⟩
  cases fits : firstFit pool.freeSectors (pool.sectorsFor size) 0 with
  | none =>
    rw [allocate_refused nonempty fits]
    refine ⟨iff_of_true ⟨_, _, rfl⟩ ?_, fun span pool' served => by cases served⟩
    rintro ⟨start, run⟩
    exact not_freeRun (by simp [fits]) run
  | some start =>
    have run : pool.FreeRun start (pool.sectorsFor size) := (firstFit_some fits).2
    rw [(allocate_found nonempty safe fits).1]
    refine ⟨iff_of_false ?_ (not_not.mpr ⟨start, run⟩), fun span pool' served => ?_⟩
    · rintro ⟨e, pool', ⟨⟩⟩
    · cases served
      exact ⟨start, run, fun other before => not_freeRun (by simpa [fits] using before), rfl⟩

/-! ### Sizes that wrap -/

/-- The span lies in the pool, and the call has reserved its sectors. -/
def Reserves (pool pool' : PoolAllocator) (span : Span) : Prop :=
  (pool.poolMemory.data ≤ span.data ∧
      span.data + span.size ≤ pool.poolMemory.data + pool.poolMemory.size) ∧
    ∀ sector, pool.Belongs sector span → ¬ pool.Used sector ∧ pool'.Used sector

theorem sectorsFor_wraps (word : size < 2 ^ 64) (wraps : 2 ^ 64 < size + pool.chunkSize) :
    pool.sectorsFor size = 0 := by
  have chunk := pool.chunkSize_le
  have fits := pool.poolMemory.size_lt
  unfold sectorsFor
  rw [Nat.mod_eq_sub_mod (by omega), Nat.mod_eq_of_lt (by omega), Nat.div_eq_of_lt (by omega)]

/-- A size that wraps is served without a sector. -/
theorem allocate_wraps (word : size < 2 ^ 64) (wraps : 2 ^ 64 < size + pool.chunkSize) :
    pool.allocate spans size = (.ok (spans.subspan pool.poolMemory 0 size), pool) := by
  have chunk := pool.chunkSize_le
  have fits := pool.poolMemory.size_lt
  rw [allocate, if_neg (by omega), allocateContiguousChunks_eq, sectorsFor_wraps word wraps,
    firstFit_zero]
  simp only [Nat.zero_mul]
  rfl

theorem not_reserves_self {sector : Nat} (belongs : pool.Belongs sector span) :
    ¬ pool.Reserves pool span := fun reserves =>
  (reserves.2 sector belongs).1 (reserves.2 sector belongs).2

def uncheckedSpans : SpanLibrary where
  subspan memory offset count :=
    ⟨memory.data + offset, if count = dynamicExtent then memory.size - offset else count⟩
  subspan_inside memory offset count counted _ := by rw [if_neg counted]
  subspan_dynamicExtent memory offset _ := by rw [if_pos rfl]

theorem subspan_dynamicExtent_belongs (spans : SpanLibrary) (pool : PoolAllocator) :
    pool.Belongs 0 (spans.subspan pool.poolMemory 0 dynamicExtent) := by
  have chunk := pool.chunkSize_pos
  have small := pool.chunkSize_le
  rw [spans.subspan_dynamicExtent _ _ (Nat.zero_le _)]
  simp only [Belongs]
  omega

/-- The sizes whose spans lie in the pool and have their sectors reserved whatever the span type does
are those that can be rounded up in a machine word. The others are served without a sector, and the
largest of them with the whole pool. -/
theorem allocate_reserves_iff (pool : PoolAllocator) (size : Nat) (word : size < 2 ^ 64) :
    ((∀ (spans : SpanLibrary) span pool', pool.allocate spans size = (.ok span, pool') →
        pool.Reserves pool' span) ↔
      size + pool.chunkSize ≤ 2 ^ 64) ∧
    (2 ^ 64 < size + pool.chunkSize → ∀ spans : SpanLibrary,
      ∃ span, pool.allocate spans size = (.ok span, pool) ∧
        (size = dynamicExtent → ¬ pool.Reserves pool span)) := by
  refine ⟨⟨fun reserves => ?_, ?_⟩, fun wraps spans => ⟨_, allocate_wraps word wraps, ?_⟩⟩
  · by_contra wraps
    have wraps := Nat.lt_of_not_le wraps
    have small := pool.chunkSize_le
    have fits := pool.poolMemory.size_lt
    have served := reserves uncheckedSpans _ _ (allocate_wraps word wraps)
    by_cases whole : size = dynamicExtent
    · exact not_reserves_self (whole ▸ subspan_dynamicExtent_belongs uncheckedSpans pool) served
    · have inside := served.1.2
      simp only [uncheckedSpans, if_neg whole] at inside
      omega
  · intro safe spans span pool' allocated
    rcases allocate_ok safe allocated with ⟨start, holds, rfl, free⟩
    refine ⟨holds.inside, fun sector belongs => ⟨free sector belongs, ?_⟩⟩
    have inside := (holds.belongs_iff sector).mp belongs
    have bound := holds.bound
    rw [used_markSectors, if_pos inside]
    exact ⟨by omega, rfl⟩
  · rintro rfl
    exact not_reserves_self (subspan_dynamicExtent_belongs spans pool)

/-! ### Two pools -/

def tenBytes : PoolAllocator where
  chunkSize := 4
  poolMemory := ⟨4096, 10, by decide, by decide⟩
  freeSectors := [true, true]
  chunkSize_pos := by decide
  chunkSize_le := by decide
  sectors := rfl

def reuse : List Call := [.allocate 3, .allocate 4, .deallocate ⟨4096, 3⟩, .allocate 2]

theorem tenBytes_consistent :
    create (some tenBytes.poolMemory) 4 = .ok tenBytes ∧
      Run.Meets (State.step uncheckedSpans) State.Proper { pool := tenBytes } reuse ∧
      (Run.run (State.step uncheckedSpans) { pool := tenBytes } reuse).live =
        [⟨4096, 2⟩, ⟨4100, 4⟩] ∧
      (Run.run (State.step uncheckedSpans) { pool := tenBytes } reuse).live.Pairwise Span.Disjoint ∧
      (∀ span ∈ (Run.run (State.step uncheckedSpans) { pool := tenBytes } reuse).live,
        4096 ≤ span.data ∧ span.data + span.size ≤ 4096 + 10) ∧
      (∀ sector, (Run.run (State.step uncheckedSpans) { pool := tenBytes } reuse).pool.Used sector ↔
        ∃ span ∈ (Run.run (State.step uncheckedSpans) { pool := tenBytes } reuse).live,
          tenBytes.Belongs sector span) ∧
      ((Run.run (State.step uncheckedSpans) { pool := tenBytes } reuse).live = [] →
        ∀ sector,
          ¬ (Run.run (State.step uncheckedSpans) { pool := tenBytes } reuse).pool.Used sector) := by
  have created : create (some tenBytes.poolMemory) 4 = .ok tenBytes := rfl
  have proper : Run.Meets (State.step uncheckedSpans) State.Proper { pool := tenBytes } reuse :=
    ⟨by decide +kernel, by decide +kernel, by decide +kernel, by decide +kernel, trivial⟩
  exact ⟨created, proper, by decide +kernel, run_consistent uncheckedSpans created reuse proper⟩

def blocked : PoolAllocator where
  chunkSize := 4
  poolMemory := ⟨4096, 20, by decide, by decide⟩
  freeSectors := [true, false, true, true, true]
  chunkSize_pos := by decide
  chunkSize_le := by decide
  sectors := rfl

theorem blocked_complete :
    (0 < 7 ∧ 7 ≤ blocked.poolMemory.size) ∧
      (blocked.allocate uncheckedSpans 7).1 = .ok ⟨4104, 7⟩ ∧
      visited blocked.freeSectors 2 0 = [0, 1, 2, 3] ∧
      ((∃ e pool', blocked.allocate uncheckedSpans 7 = (.error e, pool')) ↔
        ¬ ∃ start, blocked.FreeRun start 2) ∧
      ∀ span pool', blocked.allocate uncheckedSpans 7 = (.ok span, pool') →
        ∃ start, blocked.FreeRun start 2 ∧ (∀ other < start, ¬ blocked.FreeRun other 2) ∧
          span = ⟨4096 + start * 4, 7⟩ := by
  have complete := allocate_complete uncheckedSpans blocked 7 (by decide) (by decide)
  exact ⟨by decide, by decide +kernel, by decide +kernel, complete.1, complete.2.1⟩

/-- A request of no bytes is refused although it needs no sector. -/
theorem tenBytes_nothing :
    (∀ spans : SpanLibrary, tenBytes.allocate spans 0 = (.error .invalidArgument, tenBytes)) ∧
      tenBytes.FreeRun 0 ((0 + tenBytes.chunkSize - 1) / tenBytes.chunkSize) :=
  ⟨fun _ => rfl, by decide, fun sector _ below => absurd below (Nat.not_lt_zero sector)⟩

theorem tenBytes_reserves :
    5 < 2 ^ 64 ∧ ((∀ (spans : SpanLibrary) span pool',
        tenBytes.allocate spans 5 = (.ok span, pool') → tenBytes.Reserves pool' span) ↔
      5 + tenBytes.chunkSize ≤ 2 ^ 64) :=
  ⟨by decide, (allocate_reserves_iff tenBytes 5 (by decide)).1⟩

/-- The whole pool is handed out, and every sector of it stays free. -/
theorem tenBytes_wraps :
    (∀ spans : SpanLibrary,
      tenBytes.allocate spans (2 ^ 64 - 1) = (.ok ⟨4096, 10⟩, tenBytes)) ∧
      tenBytes.Belongs 0 ⟨4096, 10⟩ ∧ tenBytes.freeSectors[0]? = some true := by
  refine ⟨fun spans => ?_, ⟨by decide, by decide⟩, rfl⟩
  rw [allocate_wraps (by decide) (by decide)]
  exact congrArg (fun span => (Except.ok span, tenBytes))
    (spans.subspan_dynamicExtent tenBytes.poolMemory 0 (Nat.zero_le _))

end PoolAllocator

end ScoreCrypto.Api
