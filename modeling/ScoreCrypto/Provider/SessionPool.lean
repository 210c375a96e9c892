import Mathlib.Data.Finset.Image
import Mathlib.Data.Finset.Range
import ScoreCrypto.Common.Types
import ScoreCrypto.Lib.Run

/-!
The session pools of a PKCS#11 provider: sessions are reused while idle and opened when needed, and the
token is logged in as long as someone holds a session that requires it.
-/

namespace ScoreCrypto.Provider.Pkcs11

abbrev SessionHandle := Nat

/-! ### The token -/

/-- The return values that the provider tells apart, and the others by their code. -/
inductive ReturnValue where
  | ok
  | userAlreadyLoggedIn
  | sessionHandleInvalid
  | sessionClosed
  | sessionReadOnly
  | cryptokiNotInitialized
  | cryptokiAlreadyInitialized
  | operationNotInitialized
  | operationActive
  | functionNotSupported
  | argumentsBad
  | dataInvalid
  | dataLenRange
  | mechanismInvalid
  | mechanismParamInvalid
  | bufferTooSmall
  | hostMemory
  | deviceMemory
  | sessionCount
  | tokenNotPresent
  | pinIncorrect
  | pinLocked
  | userNotLoggedIn
  | other (code : UInt64)
  deriving DecidableEq, Repr

def mapErrorReturn : ReturnValue → DaemonErrorCode
  | .ok => .operationFailed
  | .sessionHandleInvalid | .sessionClosed | .sessionReadOnly => .invalidState
  | .cryptokiNotInitialized => .uninitializedStack
  | .cryptokiAlreadyInitialized => .alreadyInitialized
  | .operationNotInitialized => .streamNotInitialized
  | .operationActive => .operationInProgress
  | .functionNotSupported => .unsupportedOperation
  | .argumentsBad | .dataInvalid | .dataLenRange => .invalidArgument
  | .mechanismInvalid | .mechanismParamInvalid => .unsupportedAlgorithm
  | .bufferTooSmall => .insufficientBufferSize
  | .hostMemory | .deviceMemory => .allocationFailed
  | .sessionCount | .tokenNotPresent => .quotaExceeded
  | .pinIncorrect | .pinLocked | .userNotLoggedIn => .invalidContext
  | .userAlreadyLoggedIn | .other _ => .algorithmExecutionFailed

structure Token where
  sessions : Finset SessionHandle
  loggedIn : Bool
  deriving DecidableEq

namespace Token

def openSession (token : Token) (handle : SessionHandle) : Token :=
  { token with sessions := insert handle token.sessions }

def login (token : Token) (answer : ReturnValue) : Token :=
  { token with loggedIn := token.loggedIn || answer == .ok }

/-- `C_Logout` may fail. -/
def logout (token : Token) (ends : Bool) : Token :=
  { token with loggedIn := token.loggedIn && !ends }

/-- `C_CloseSession` may fail; with the last session the login ends. -/
def closeSession (token : Token) (handle : SessionHandle) (closes : Bool) : Token :=
  if closes then
    { sessions := token.sessions.erase handle
      loggedIn := token.loggedIn && (token.sessions.erase handle).Nonempty }
  else token

end Token

/-! ### The provider -/

inductive SessionType where
  | readOnly
  | readWrite
  deriving DecidableEq, Repr

inductive TokenAuthState where
  | publicAccess
  | user
  deriving DecidableEq, Repr

structure HandlerRequirements where
  sessionType : SessionType
  requiredAuth : TokenAuthState
  deriving DecidableEq, Repr

inductive SessionCleanupStrategy where
  | softCleanup
  | hardCleanup
  deriving DecidableEq, Repr

inductive SessionDisposition where
  | reusable
  | discard
  deriving DecidableEq, Repr

structure PooledSession where
  handle : SessionHandle
  inUse : Bool
  deriving DecidableEq, Repr

structure TokenAuthGuard where
  state : TokenAuthState
  activeUserCount : UInt32
  deriving DecidableEq, Repr

namespace TokenAuthGuard

/-- `answer` is what `C_Login` returns if it is called. -/
def ensureUserState (guard : TokenAuthGuard) (token : Token) (answer : ReturnValue) :
    Option DaemonErrorCode × TokenAuthGuard × Token :=
  if guard.state = .user then
    (none, { guard with activeUserCount := guard.activeUserCount + 1 }, token)
  else if answer ≠ .ok ∧ answer ≠ .userAlreadyLoggedIn then
    (some (mapErrorReturn answer), guard, token.login answer)
  else (none, { state := .user, activeUserCount := guard.activeUserCount + 1 }, token.login answer)

/-- `ends` tells whether a call of `C_Logout` ends the login. The handle 0 is `CK_INVALID_HANDLE`. -/
def onUserHandlerReleased (guard : TokenAuthGuard) (token : Token) (anySession : SessionHandle)
    (ends : Bool) : TokenAuthGuard × Token :=
  if guard.activeUserCount = 0 then (guard, token)
  else
    let count := guard.activeUserCount - 1
    if count = 0 then
      ({ state := .publicAccess, activeUserCount := count },
        if anySession ≠ 0 then token.logout ends else token)
    else ({ guard with activeUserCount := count }, token)

end TokenAuthGuard

structure Pkcs11Provider where
  cleanupStrategy : SessionCleanupStrategy
  pool : SessionType → List PooledSession
  maxSessions : SessionType → Nat
  authGuard : TokenAuthGuard

def resolveLimit (tokenVal override : Nat) : Nat :=
  if override ≠ 0 then override
  else if tokenVal = 0xFFFFFFFF ∨ tokenVal = 0 then 32
  else tokenVal

def claimIdle : List PooledSession → Option (SessionHandle × List PooledSession)
  | [] => none
  | entry :: rest =>
    if entry.inUse then (claimIdle rest).map fun (handle, rest) => (handle, entry :: rest)
    else some (entry.handle, { entry with inUse := true } :: rest)

/-- `answer` is what `C_OpenSession` gives if it is called. -/
def acquireFromPool (pool : List PooledSession) (hardLimit : Nat) (token : Token)
    (answer : Except ReturnValue SessionHandle) :
    Expected SessionHandle × List PooledSession × Token :=
  match claimIdle pool with
  | some (handle, pool) => (.ok handle, pool, token)
  | none =>
    if hardLimit ≤ pool.length then (.error .quotaExceeded, pool, token)
    else
      match answer with
      | .error rv => (.error (mapErrorReturn rv), pool, token)
      | .ok handle => (.ok handle, pool ++ [⟨handle, true⟩], token.openSession handle)

def giveBack (handle : SessionHandle) : List PooledSession → List PooledSession
  | [] => []
  | entry :: rest =>
    if entry.handle = handle then { entry with inUse := false } :: rest
    else entry :: giveBack handle rest

namespace Pkcs11Provider

variable (provider : Pkcs11Provider)

def setPool (type : SessionType) (pool : List PooledSession) : Pkcs11Provider :=
  { provider with pool := Function.update provider.pool type pool }

def acquireSession (token : Token) (requirements : HandlerRequirements)
    (openAnswer : Except ReturnValue SessionHandle) (loginAnswer : ReturnValue) :
    Expected SessionHandle × Pkcs11Provider × Token :=
  let type := requirements.sessionType
  match acquireFromPool (provider.pool type) (provider.maxSessions type) token openAnswer with
  | (.error error, pool, token) => (.error error, provider.setPool type pool, token)
  | (.ok handle, pool, token) =>
    if requirements.requiredAuth = .user then
      match provider.authGuard.ensureUserState token loginAnswer with
      | (some error, authGuard, token) =>
        (.error error, { provider.setPool type (giveBack handle pool) with authGuard := authGuard }, token)
      | (none, authGuard, token) =>
        (.ok handle, { provider.setPool type pool with authGuard := authGuard }, token)
    else (.ok handle, provider.setPool type pool, token)

/-- `ends` and `closes` tell whether calls of `C_Logout` and `C_CloseSession` take effect. -/
def releaseSession (token : Token) (session : SessionHandle) (usedRequirements : HandlerRequirements)
    (disposition : SessionDisposition) (ends closes : Bool) : Pkcs11Provider × Token :=
  let type := usedRequirements.sessionType
  let (authGuard, token) :=
    if usedRequirements.requiredAuth = .user then
      provider.authGuard.onUserHandlerReleased token session ends
    else (provider.authGuard, token)
  let provider := { provider with authGuard := authGuard }
  if (provider.pool type).any (·.handle == session) then
    if provider.cleanupStrategy = .hardCleanup ∨ disposition = .discard then
      (provider.setPool type ((provider.pool type).eraseP (·.handle == session)),
        token.closeSession session closes)
    else (provider.setPool type (giveBack session (provider.pool type)), token)
  else (provider, token)

end Pkcs11Provider

/-! ### Histories -/

structure State where
  provider : Pkcs11Provider
  token : Token
  held : List (SessionHandle × HandlerRequirements)

inductive Event where
  | acquire (requirements : HandlerRequirements) (openAnswer : Except ReturnValue SessionHandle)
      (loginAnswer : ReturnValue)
  | release (session : SessionHandle) (requirements : HandlerRequirements)
      (disposition : SessionDisposition) (ends closes : Bool)

namespace State

def seeded (strategy : SessionCleanupStrategy) (maxRo maxRw roOverride rwOverride : Nat)
    (seed : SessionHandle) (loggedIn : Bool) : State where
  provider :=
    { cleanupStrategy := strategy
      pool := fun
        | .readOnly => [⟨seed, false⟩]
        | .readWrite => []
      maxSessions := fun
        | .readOnly => resolveLimit maxRo roOverride
        | .readWrite => resolveLimit maxRw rwOverride
      authGuard := ⟨.publicAccess, 0⟩ }
  token := ⟨{seed}, loggedIn⟩
  held := []

def step (s : State) : Event → State
  | .acquire requirements openAnswer loginAnswer =>
    match s.provider.acquireSession s.token requirements openAnswer loginAnswer with
    | (.ok handle, provider, token) => ⟨provider, token, (handle, requirements) :: s.held⟩
    | (.error _, provider, token) => ⟨provider, token, s.held⟩
  | .release session requirements disposition ends closes =>
    let (provider, token) :=
      s.provider.releaseSession s.token session requirements disposition ends closes
    ⟨provider, token, s.held.erase (session, requirements)⟩

/-- What the token and the callers keep to: a session is opened under a handle that no open session
has, only a user who is logged in is reported as such, and a session is released by its holder. -/
def Admissible (s : State) : Event → Prop
  | .acquire _ openAnswer loginAnswer =>
    (∀ handle, openAnswer = .ok handle → handle ∉ s.token.sessions) ∧
      (loginAnswer = .userAlreadyLoggedIn → s.token.loggedIn = true)
  | .release session requirements _ _ _ => (session, requirements) ∈ s.held

def users (s : State) : Nat :=
  s.held.countP fun holder => holder.2.requiredAuth = .user

def Room (s : State) : Event → Prop
  | .acquire requirements _ _ => requirements.requiredAuth = .user → s.users + 1 < 2 ^ 32
  | .release _ _ _ _ _ => True

structure Consistent (s : State) : Prop where
  exclusive : (s.held.map (·.1)).Nodup
  limited : ∀ type, (s.provider.pool type).length ≤ s.provider.maxSessions type
  counted : s.provider.authGuard.activeUserCount.toNat = s.users
  elevated : s.provider.authGuard.state = .user ↔ 0 < s.provider.authGuard.activeUserCount.toNat
  loggedIn : s.provider.authGuard.state = .user → s.token.loggedIn = true

structure Sound (s : State) : Prop extends Consistent s where
  distinct : ∀ type, ((s.provider.pool type).map (·.handle)).Nodup
  apart : ∀ type other, type ≠ other → ∀ entry ∈ s.provider.pool type,
    ∀ entry' ∈ s.provider.pool other, entry.handle ≠ entry'.handle
  opened : ∀ type, ∀ entry ∈ s.provider.pool type, entry.handle ∈ s.token.sessions
  holders : ∀ holder ∈ s.held, ⟨holder.1, true⟩ ∈ s.provider.pool holder.2.sessionType

end State

/-! ### One pool -/

theorem claimIdle_some {pool claimed : List PooledSession} {handle : SessionHandle}
    (found : claimIdle pool = some (handle, claimed)) :
    ∃ ahead behind, pool = ahead ++ ⟨handle, false⟩ :: behind ∧
      claimed = ahead ++ ⟨handle, true⟩ :: behind := by
  induction pool generalizing claimed with
  | nil => exact absurd found (by simp [claimIdle])
  | cons entry rest ih =>
    obtain ⟨first, inUse⟩ := entry
    cases inUse with
    | false =>
      obtain ⟨rfl, rfl⟩ := Prod.mk.inj (Option.some.inj found)
      exact ⟨[], rest, rfl, rfl⟩
    | true =>
      obtain ⟨⟨_, tail⟩, further, same⟩ := Option.map_eq_some_iff.mp found
      obtain ⟨rfl, rfl⟩ := Prod.mk.inj same
      obtain ⟨ahead, behind, rfl, rfl⟩ := ih further
      exact ⟨⟨first, true⟩ :: ahead, behind, rfl, rfl⟩

theorem map_handle_giveBack (handle : SessionHandle) (pool : List PooledSession) :
    (giveBack handle pool).map (·.handle) = pool.map (·.handle) := by
  induction pool with
  | nil => rfl
  | cons entry rest ih => by_cases same : entry.handle = handle <;> simp [giveBack, same, ih]

theorem length_giveBack (handle : SessionHandle) (pool : List PooledSession) :
    (giveBack handle pool).length = pool.length := by
  simpa using congrArg List.length (map_handle_giveBack handle pool)

theorem mem_giveBack {handle : SessionHandle} {entry : PooledSession} (other : entry.handle ≠ handle)
    (pool : List PooledSession) : entry ∈ giveBack handle pool ↔ entry ∈ pool := by
  induction pool with
  | nil => rfl
  | cons first rest ih =>
    unfold giveBack
    by_cases same : first.handle = handle
    · have apart : ∀ inUse, entry ≠ ⟨first.handle, inUse⟩ := by
        rintro inUse rfl
        exact other same
      rw [if_pos same, List.mem_cons, List.mem_cons]
      simp [apart false, apart first.inUse]
    · rw [if_neg same, List.mem_cons, List.mem_cons, ih]

theorem handle_ne_of_mem_eraseP {session : SessionHandle} {pool : List PooledSession}
    (distinct : (pool.map (·.handle)).Nodup) {entry : PooledSession}
    (member : entry ∈ pool.eraseP (·.handle == session)) : entry.handle ≠ session := by
  induction pool with
  | nil => exact absurd member (by simp)
  | cons first rest ih =>
    obtain ⟨absent, distinct⟩ := List.nodup_cons.mp distinct
    by_cases same : first.handle = session
    · rw [List.eraseP_cons_of_pos (by simpa using same)] at member
      intro equal
      exact absent (List.mem_map.mpr ⟨entry, member, equal.trans same.symm⟩)
    · rw [List.eraseP_cons_of_neg (by simpa using same), List.mem_cons] at member
      rcases member with rfl | later
      · exact same
      · exact ih distinct later

theorem Pkcs11Provider.pool_setPool (provider : Pkcs11Provider) (type which : SessionType)
    (pool : List PooledSession) :
    (provider.setPool type pool).pool which = if which = type then pool else provider.pool which :=
  Function.update_apply ..

/-! ### What a step preserves -/

namespace State

variable {s : State} {type : SessionType} {token : Token} {handle : SessionHandle}
  {pool : List PooledSession}

theorem mem_setPool
    (others : ∀ entry : PooledSession, entry.handle ≠ handle →
      (entry ∈ pool ↔ entry ∈ s.provider.pool type))
    (elsewhere : ∀ other, other ≠ type → ∀ entry ∈ s.provider.pool other, entry.handle ≠ handle)
    {which : SessionType} {entry : PooledSession}
    (member : entry ∈ (s.provider.setPool type pool).pool which) :
    entry.handle ≠ handle ∧ entry ∈ s.provider.pool which ∨
      entry.handle = handle ∧ which = type ∧ entry ∈ pool := by
  rw [Pkcs11Provider.pool_setPool] at member
  split at member
  case isTrue same =>
    subst same
    by_cases changed : entry.handle = handle
    · exact .inr ⟨changed, rfl, member⟩
    · exact .inl ⟨changed, (others entry changed).mp member⟩
  case isFalse differs => exact .inl ⟨elsewhere which differs entry member, member⟩

theorem Sound.setPool (sound : s.Sound)
    (others : ∀ entry : PooledSession, entry.handle ≠ handle →
      (entry ∈ pool ↔ entry ∈ s.provider.pool type)) (distinct : (pool.map (·.handle)).Nodup)
    (limited : pool.length ≤ s.provider.maxSessions type) (unheld : handle ∉ s.held.map (·.1))
    (elsewhere : ∀ other, other ≠ type → ∀ entry ∈ s.provider.pool other, entry.handle ≠ handle)
    (kept : ∀ session ∈ s.token.sessions, session ≠ handle → session ∈ token.sessions)
    (opened : ∀ entry ∈ pool, entry.handle = handle → handle ∈ token.sessions)
    (loggedIn : s.provider.authGuard.state = .user → token.loggedIn = true) :
    Sound ⟨s.provider.setPool type pool, token, s.held⟩ where
  exclusive := sound.exclusive
  limited := (Function.forall_update_iff _ fun which (pool : List PooledSession) =>
    pool.length ≤ s.provider.maxSessions which).mpr ⟨limited, fun which _ => sound.limited which⟩
  counted := sound.counted
  elevated := sound.elevated
  loggedIn := loggedIn
  distinct := (Function.forall_update_iff _ fun _ (pool : List PooledSession) =>
    (pool.map (·.handle)).Nodup).mpr ⟨distinct, fun which _ => sound.distinct which⟩
  apart := by
    intro which other differs entry member entry' member' same
    rcases mem_setPool others elsewhere member with ⟨old, old'⟩ | ⟨new, rfl, -⟩
    · rcases mem_setPool others elsewhere member' with ⟨-, was⟩ | ⟨new, -, -⟩
      · exact sound.apart which other differs entry old' entry' was same
      · exact old (same.trans new)
    · rcases mem_setPool others elsewhere member' with ⟨old, -⟩ | ⟨-, rfl, -⟩
      · exact old (same.symm.trans new)
      · exact differs rfl
  opened := by
    intro which entry member
    rcases mem_setPool others elsewhere member with ⟨old, was⟩ | ⟨new, -, there⟩
    · exact kept _ (sound.opened which entry was) old
    · exact new ▸ opened entry there new
  holders := by
    intro holder member
    have differs : holder.1 ≠ handle := fun same => unheld (same ▸ List.mem_map_of_mem member)
    have held := sound.holders holder member
    rw [Pkcs11Provider.pool_setPool]
    split
    case isTrue same => exact (others _ differs).mpr (same ▸ held)
    case isFalse => exact held

theorem Sound.unheld_of_idle (sound : s.Sound) (idle : ⟨handle, false⟩ ∈ s.provider.pool type) :
    handle ∉ s.held.map (·.1) := by
  intro member
  obtain ⟨holder, held, rfl⟩ := List.mem_map.mp member
  have busy := sound.holders holder held
  by_cases same : holder.2.sessionType = type
  · rw [same] at busy
    exact absurd (List.inj_on_of_nodup_map (sound.distinct type) idle busy rfl) (by simp)
  · exact sound.apart _ _ same _ busy _ idle rfl

theorem Sound.unheld_of_closed (sound : s.Sound) (closed : handle ∉ s.token.sessions) :
    handle ∉ s.held.map (·.1) := by
  intro member
  obtain ⟨holder, held, rfl⟩ := List.mem_map.mp member
  exact closed (sound.opened _ _ (sound.holders holder held))

variable {entry : PooledSession}

theorem Sound.elsewhere (sound : s.Sound) (member : entry ∈ s.provider.pool type) :
    ∀ other, other ≠ type → ∀ entry' ∈ s.provider.pool other, entry'.handle ≠ entry.handle :=
  fun other differs entry' member' => sound.apart other type differs entry' member' entry member

theorem Sound.acquireFromPool (sound : s.Sound) {answer : Except ReturnValue SessionHandle}
    (fresh : ∀ handle, answer = .ok handle → handle ∉ s.token.sessions)
    {result : Expected SessionHandle}
    (granted : acquireFromPool (s.provider.pool type) (s.provider.maxSessions type) s.token answer =
      (result, pool, token)) :
    Sound ⟨s.provider.setPool type pool, token, s.held⟩ ∧ token.loggedIn = s.token.loggedIn ∧
      ∀ handle, result = .ok handle → ⟨handle, true⟩ ∈ pool ∧ handle ∉ s.held.map (·.1) := by
  have unchanged : Sound ⟨s.provider.setPool type (s.provider.pool type), s.token, s.held⟩ := by
    rw [Pkcs11Provider.setPool, Function.update_eq_self]
    exact sound
  unfold Pkcs11.acquireFromPool at granted
  split at granted
  case h_1 handle after claimed =>
    cases granted
    obtain ⟨ahead, behind, pool, rfl⟩ := claimIdle_some claimed
    have idle : ⟨handle, false⟩ ∈ s.provider.pool type := by simp [pool]
    have unheld := sound.unheld_of_idle idle
    refine ⟨sound.setPool ?_ ?_ ?_ unheld (sound.elsewhere idle) (fun _ opened _ => opened)
      (fun _ _ _ => sound.opened type _ idle) sound.loggedIn, rfl, by simpa using unheld⟩
    · intro entry other
      have apart : ∀ inUse, entry ≠ ⟨handle, inUse⟩ := by
        rintro inUse rfl
        exact other rfl
      simp [pool, apart]
    · simpa [pool] using sound.distinct type
    · simpa [pool] using sound.limited type
  case h_2 =>
    split at granted
    case isTrue =>
      cases granted
      exact ⟨unchanged, rfl, by simp⟩
    case isFalse room =>
      cases answer with
      | error rv =>
        cases granted
        exact ⟨unchanged, rfl, by simp⟩
      | ok handle =>
        cases granted
        have closed := fresh handle rfl
        have absent : ∀ which, ∀ entry ∈ s.provider.pool which, entry.handle ≠ handle :=
          fun which entry member same => closed (same ▸ sound.opened which entry member)
        have unheld := sound.unheld_of_closed closed
        refine ⟨sound.setPool ?_ ?_ ?_ unheld (fun other _ => absent other)
          (fun _ opened _ => Finset.mem_insert_of_mem opened)
          (fun _ _ _ => Finset.mem_insert_self handle _) sound.loggedIn, rfl, by simpa using unheld⟩
        · intro entry other
          have apart : entry ≠ ⟨handle, true⟩ := by
            rintro rfl
            exact other rfl
          simp [apart]
        · rw [List.map_append, List.map_singleton, List.nodup_append]
          refine ⟨sound.distinct type, by simp, ?_⟩
          intro a used b new
          obtain ⟨entry, member, rfl⟩ := List.mem_map.mp used
          rw [List.mem_singleton.mp new]
          exact absent type entry member
        · rw [List.length_append, List.length_singleton]
          omega

variable {authGuard : TokenAuthGuard}

theorem Sound.rehold (sound : s.Sound) {held : List (SessionHandle × HandlerRequirements)}
    (sessions : token.sessions = s.token.sessions) (exclusive : (held.map (·.1)).Nodup)
    (holders : ∀ holder ∈ held, ⟨holder.1, true⟩ ∈ s.provider.pool holder.2.sessionType)
    (counted : authGuard.activeUserCount.toNat = users ⟨s.provider, token, held⟩)
    (elevated : authGuard.state = .user ↔ 0 < authGuard.activeUserCount.toNat)
    (loggedIn : authGuard.state = .user → token.loggedIn = true) :
    Sound ⟨{ s.provider with authGuard := authGuard }, token, held⟩ :=
  { sound with
    exclusive, counted, elevated, loggedIn, holders
    opened := fun type entry member => sessions ▸ sound.opened type entry member }

variable {requirements : HandlerRequirements}

theorem Sound.hold (sound : s.Sound) (sessions : token.sessions = s.token.sessions)
    (busy : ⟨handle, true⟩ ∈ s.provider.pool requirements.sessionType)
    (unheld : handle ∉ s.held.map (·.1)) (counted : authGuard.activeUserCount.toNat =
      s.users + if requirements.requiredAuth = .user then 1 else 0)
    (elevated : authGuard.state = .user ↔ 0 < authGuard.activeUserCount.toNat)
    (loggedIn : authGuard.state = .user → token.loggedIn = true) :
    Sound ⟨{ s.provider with authGuard := authGuard }, token, (handle, requirements) :: s.held⟩ := by
  refine sound.rehold sessions (List.nodup_cons.mpr ⟨unheld, sound.exclusive⟩) ?_ ?_ elevated loggedIn
  · exact List.forall_mem_cons.mpr ⟨busy, sound.holders⟩
  · by_cases user : requirements.requiredAuth = .user <;> simp [counted, users, user]

theorem Sound.ensureUserState (sound : s.Sound) {answer : ReturnValue}
    (honest : answer = .userAlreadyLoggedIn → s.token.loggedIn = true) (room : s.users + 1 < 2 ^ 32)
    {error : Option DaemonErrorCode}
    (called : s.provider.authGuard.ensureUserState s.token answer = (error, authGuard, token)) :
    token.sessions = s.token.sessions ∧
      (error = none → authGuard.activeUserCount.toNat = s.users + 1 ∧ authGuard.state = .user ∧
        token.loggedIn = true) ∧
      (error ≠ none → authGuard = s.provider.authGuard ∧ token = s.token) := by
  have next : (s.provider.authGuard.activeUserCount + 1).toNat = s.users + 1 := by
    rw [UInt32.toNat_add, sound.counted]
    exact Nat.mod_eq_of_lt room
  unfold TokenAuthGuard.ensureUserState at called
  split at called
  case isTrue already =>
    cases called
    exact ⟨rfl, fun _ => ⟨next, already, sound.loggedIn already⟩, fun failed => absurd rfl failed⟩
  case isFalse =>
    split at called
    case isTrue refused =>
      cases called
      exact ⟨rfl, by simp, fun _ => ⟨rfl, by simp [Token.login, beq_eq_false_iff_ne.mpr refused.1]⟩⟩
    case isFalse accepted =>
      cases called
      refine ⟨rfl, fun _ => ⟨next, rfl, ?_⟩, fun failed => absurd rfl failed⟩
      by_cases ok : answer = .ok
      · simp [Token.login, ok]
      · have reported : answer = .userAlreadyLoggedIn := by
          by_contra other
          exact accepted ⟨ok, other⟩
        simp [Token.login, honest reported]

theorem Sound.giveBack (sound : s.Sound) (member : entry ∈ s.provider.pool type)
    (unheld : entry.handle ∉ s.held.map (·.1)) :
    Sound ⟨s.provider.setPool type (giveBack entry.handle (s.provider.pool type)), s.token, s.held⟩ := by
  refine sound.setPool ?_ ?_ ?_ unheld (sound.elsewhere member) ?_ ?_ sound.loggedIn
  · exact fun other differs => mem_giveBack differs _
  · rw [map_handle_giveBack]
    exact sound.distinct type
  · rw [length_giveBack]
    exact sound.limited type
  · exact fun session opened _ => opened
  · exact fun _ _ _ => sound.opened type entry member

theorem Sound.acquire (sound : s.Sound) {openAnswer : Except ReturnValue SessionHandle}
    {loginAnswer : ReturnValue}
    (admissible : s.Admissible (.acquire requirements openAnswer loginAnswer))
    (room : s.Room (.acquire requirements openAnswer loginAnswer)) :
    (s.step (.acquire requirements openAnswer loginAnswer)).Sound := by
  rcases granted : Pkcs11.acquireFromPool (s.provider.pool requirements.sessionType)
    (s.provider.maxSessions requirements.sessionType) s.token openAnswer with ⟨result, pool, token⟩
  obtain ⟨after, login, given⟩ := sound.acquireFromPool admissible.1 granted
  simp only [step, Pkcs11Provider.acquireSession, granted]
  cases result with
  | error error => exact after
  | ok handle =>
    obtain ⟨busy, unheld⟩ := given handle rfl
    have inPool : ⟨handle, true⟩ ∈
        (s.provider.setPool requirements.sessionType pool).pool requirements.sessionType := by
      rwa [Pkcs11Provider.pool_setPool, if_pos rfl]
    by_cases user : requirements.requiredAuth = .user
    · rcases called : s.provider.authGuard.ensureUserState token loginAnswer with
        ⟨error, authGuard, token'⟩
      obtain ⟨sessions, ok, failed⟩ := after.ensureUserState
        (fun reported => login.trans (admissible.2 reported)) (room user) called
      simp only [user, if_true, called]
      cases error with
      | none =>
        obtain ⟨counted, elevated, loggedIn⟩ := ok rfl
        have positive : 0 < authGuard.activeUserCount.toNat := by omega
        refine after.hold sessions inPool unheld ?_ ⟨fun _ => positive, fun _ => elevated⟩
          fun _ => loggedIn
        rw [counted, if_pos user]
      | some error =>
        obtain ⟨rfl, rfl⟩ := failed (by simp)
        -- The login failed, so the session goes back to the pool.
        have back := after.giveBack inPool unheld
        simpa only [Pkcs11Provider.setPool, Function.update_self, Function.update_idem] using back
    · simp only [user, if_false]
      refine after.hold rfl inPool unheld ?_ sound.elevated after.loggedIn
      rw [if_neg user]
      exact sound.counted

variable {session : SessionHandle}

theorem users_pos (held : (session, requirements) ∈ s.held)
    (user : requirements.requiredAuth = .user) :
    0 < s.users :=
  List.countP_pos_iff.mpr ⟨_, held, by simpa using user⟩

theorem Sound.letGo (sound : s.Sound) (held : (session, requirements) ∈ s.held)
    (sessions : token.sessions = s.token.sessions) (counted : authGuard.activeUserCount.toNat =
      s.users - if requirements.requiredAuth = .user then 1 else 0)
    (elevated : authGuard.state = .user ↔ 0 < authGuard.activeUserCount.toNat)
    (loggedIn : authGuard.state = .user → token.loggedIn = true) :
    Sound ⟨{ s.provider with authGuard := authGuard }, token, s.held.erase (session, requirements)⟩ := by
  refine sound.rehold sessions ?_ ?_ ?_ elevated loggedIn
  · exact sound.exclusive.sublist ((List.erase_sublist).map _)
  · exact fun holder member => sound.holders holder (List.mem_of_mem_erase member)
  · simp only [counted, users, List.countP_erase, held, true_and]
    by_cases user : requirements.requiredAuth = .user <;> simp [user]

theorem Sound.onUserHandlerReleased (sound : s.Sound) (held : (session, requirements) ∈ s.held)
    (user : requirements.requiredAuth = .user) {ends : Bool}
    (called : s.provider.authGuard.onUserHandlerReleased s.token session ends = (authGuard, token)) :
    Sound ⟨{ s.provider with authGuard := authGuard }, token, s.held.erase (session, requirements)⟩ := by
  have counted := sound.counted
  have positive := users_pos held user
  have nonzero : s.provider.authGuard.activeUserCount ≠ 0 := by
    intro zero
    rw [zero] at counted
    exact absurd counted (by simp; omega)
  have elevated := sound.elevated.mpr (by omega)
  have one : (1 : UInt32) ≤ s.provider.authGuard.activeUserCount :=
    UInt32.le_iff_toNat_le.mpr (counted.symm ▸ positive)
  have previous : (s.provider.authGuard.activeUserCount - 1).toNat = s.users - 1 := by
    rw [UInt32.toNat_sub_of_le _ _ one, counted]
    rfl
  rw [TokenAuthGuard.onUserHandlerReleased, if_neg nonzero] at called
  simp only at called
  split at called
  case isTrue last =>
    cases called
    refine sound.letGo held (by split <;> rfl) ?_ (by simp [last]) (by simp)
    rw [if_pos user, previous]
  case isFalse more =>
    cases called
    refine sound.letGo held rfl ?_ ⟨fun _ => ?_, fun _ => elevated⟩ sound.loggedIn
    · rw [if_pos user, previous]
    · exact Nat.pos_of_ne_zero fun zero => more (UInt32.toNat_inj.mp zero)

theorem Sound.discard (sound : s.Sound) (member : entry ∈ s.provider.pool type)
    (unheld : entry.handle ∉ s.held.map (·.1)) (closes : Bool) :
    Sound ⟨s.provider.setPool type ((s.provider.pool type).eraseP (·.handle == entry.handle)),
      s.token.closeSession entry.handle closes, s.held⟩ := by
  refine sound.setPool ?_ ?_ ?_ unheld (sound.elsewhere member) ?_ ?_ ?_
  · exact fun other differs => List.mem_eraseP_of_neg (by simpa using differs)
  · exact (sound.distinct type).sublist (List.eraseP_sublist.map _)
  · exact (List.length_eraseP_le).trans (sound.limited type)
  · intro session opened differs
    unfold Token.closeSession
    cases closes with
    | false => exact opened
    | true => exact Finset.mem_erase.mpr ⟨differs, opened⟩
  · intro other remains same
    exact absurd same (handle_ne_of_mem_eraseP (sound.distinct type) remains)
  · -- While a user is logged in, someone else's session stays open.
    intro elevated
    have positive : 0 < s.users := sound.counted ▸ sound.elevated.mp elevated
    obtain ⟨holder, held, _⟩ := List.countP_pos_iff.mp positive
    have differs : holder.1 ≠ entry.handle := fun same => unheld (same ▸ List.mem_map_of_mem held)
    have opened := sound.opened _ _ (sound.holders holder held)
    have remains : (s.token.sessions.erase entry.handle).Nonempty :=
      ⟨holder.1, Finset.mem_erase.mpr ⟨differs, opened⟩⟩
    unfold Token.closeSession
    cases closes with
    | false => exact sound.loggedIn elevated
    | true => simp [sound.loggedIn elevated, remains]

theorem Sound.release (sound : s.Sound) {disposition : SessionDisposition} {ends closes : Bool}
    (held : (session, requirements) ∈ s.held) :
    (s.step (.release session requirements disposition ends closes)).Sound := by
  have busy := sound.holders _ held
  have among : (s.provider.pool requirements.sessionType).any (·.handle == session) = true :=
    List.any_eq_true.mpr ⟨_, busy, by simp⟩
  have unheld : session ∉ (s.held.erase (session, requirements)).map (·.1) := by
    intro member
    obtain ⟨holder, remains, same⟩ := List.mem_map.mp member
    have equal : holder = (session, requirements) :=
      List.inj_on_of_nodup_map sound.exclusive (List.mem_of_mem_erase remains) held same
    exact sound.exclusive.of_map.not_mem_erase (equal ▸ remains)
  rcases called : (if requirements.requiredAuth = .user then
      s.provider.authGuard.onUserHandlerReleased s.token session ends
    else (s.provider.authGuard, s.token)) with ⟨authGuard, token⟩
  have after : Sound ⟨{ s.provider with authGuard := authGuard }, token,
      s.held.erase (session, requirements)⟩ := by
    by_cases user : requirements.requiredAuth = .user
    · rw [if_pos user] at called
      exact sound.onUserHandlerReleased held user called
    · rw [if_neg user] at called
      obtain ⟨rfl, rfl⟩ := called
      refine sound.letGo held rfl ?_ sound.elevated sound.loggedIn
      rw [if_neg user]
      exact sound.counted
  simp only [step, Pkcs11Provider.releaseSession, called, among, if_true]
  by_cases hard : s.provider.cleanupStrategy = .hardCleanup ∨ disposition = .discard
  · simp only [hard, if_true]
    exact after.discard busy unheld closes
  · simp only [hard, if_false]
    exact after.giveBack busy unheld

theorem Sound.step (sound : s.Sound) (event : Event) (admissible : s.Admissible event)
    (room : s.Room event) : (s.step event).Sound := by
  cases event with
  | acquire requirements openAnswer loginAnswer => exact sound.acquire admissible room
  | release session requirements disposition ends closes => exact sound.release admissible

/-! ### Whole histories -/

theorem resolveLimit_pos (tokenVal override : Nat) : 0 < resolveLimit tokenVal override := by
  unfold resolveLimit
  split
  · omega
  · split <;> omega

theorem seeded_sound (strategy : SessionCleanupStrategy) (maxRo maxRw roOverride rwOverride : Nat)
    (seed : SessionHandle) (loggedIn : Bool) :
    (seeded strategy maxRo maxRw roOverride rwOverride seed loggedIn).Sound where
  exclusive := List.nodup_nil
  limited := by
    rintro (_ | _)
    · exact resolveLimit_pos _ _
    · exact Nat.zero_le _
  counted := rfl
  elevated := by simp [seeded]
  loggedIn := by simp [seeded]
  distinct := by rintro (_ | _) <;> simp [seeded]
  apart := by rintro (_ | _) (_ | _) <;> simp [seeded]
  opened := by rintro (_ | _) <;> simp [seeded]
  holders := by simp [seeded]

theorem run_consistent_of_room (strategy : SessionCleanupStrategy)
    (maxRo maxRw roOverride rwOverride : Nat) (seed : SessionHandle) (loggedIn : Bool)
    (events : List Event)
    (admissible : Run.Meets State.step Admissible
      (seeded strategy maxRo maxRw roOverride rwOverride seed loggedIn) events)
    (room : Run.Meets State.step Room
      (seeded strategy maxRo maxRw roOverride rwOverride seed loggedIn) events) :
    (Run.run State.step (seeded strategy maxRo maxRw roOverride rwOverride seed loggedIn) events).Consistent :=
  (Run.run_invariant_of_meets Sound
    (fun _ event sound meets => sound.step event meets.1 meets.2) _ events
    (seeded_sound strategy maxRo maxRw roOverride rwOverride seed loggedIn)
    (admissible.and room)).toConsistent

/-- Two sessions for a user, one of them opened, the other one closed again. -/
theorem twoUsers_consistent :
    (Run.run State.step (seeded .softCleanup 4 4 0 0 1 false)
      [.acquire ⟨.readOnly, .user⟩ (.error .sessionCount) .ok,
        .acquire ⟨.readOnly, .user⟩ (.ok 2) (.other 5),
        .release 1 ⟨.readOnly, .user⟩ .discard true true]).Consistent :=
  run_consistent_of_room .softCleanup 4 4 0 0 1 false _
    ⟨⟨by simp, by simp⟩, ⟨by rintro _ ⟨⟩; decide, by simp⟩, List.mem_cons_of_mem _ List.mem_cons_self,
      trivial⟩
    ⟨fun _ => by decide, fun _ => by decide, trivial, trivial⟩

/-! The count is a `uint32_t`, and a token may allow more sessions than that. -/

/-- Sessions 1 to n of a token that allows 2^40, each held by a user. -/
def loaded (n : Nat) : State where
  provider :=
    { (seeded .softCleanup (2 ^ 40) 0 0 0 1 false).provider with
      pool := fun
        | .readOnly => (List.range n).map fun i => ⟨i + 1, true⟩
        | .readWrite => []
      authGuard := ⟨.user, UInt32.ofNat n⟩ }
  token := ⟨(Finset.range n).image (· + 1), true⟩
  held := ((List.range n).map fun i => (i + 1, ⟨.readOnly, .user⟩)).reverse

def openNext (n : Nat) : Event :=
  .acquire ⟨.readOnly, .user⟩ (.ok (n + 1)) .ok

theorem claimIdle_busy (pool : List PooledSession) (busy : ∀ entry ∈ pool, entry.inUse = true) :
    claimIdle pool = none := by
  induction pool with
  | nil => rfl
  | cons entry rest ih =>
    obtain ⟨first, later⟩ := List.forall_mem_cons.mp busy
    simp [claimIdle, first, ih later]

theorem step_loaded {n : Nat} (below : n < 2 ^ 40) : (loaded n).step (openNext n) = loaded (n + 1) := by
  have busy : claimIdle ((loaded n).provider.pool .readOnly) = none := by
    apply claimIdle_busy
    intro entry member
    obtain ⟨i, _, rfl⟩ := List.mem_map.mp member
    rfl
  have limit : ¬ (loaded n).provider.maxSessions .readOnly ≤ ((loaded n).provider.pool .readOnly).length := by
    have size : ((loaded n).provider.pool .readOnly).length = n := by simp [loaded]
    have allowed : (loaded n).provider.maxSessions .readOnly = 2 ^ 40 := rfl
    omega
  have granted : acquireFromPool ((loaded n).provider.pool .readOnly)
      ((loaded n).provider.maxSessions .readOnly) (loaded n).token (.ok (n + 1)) =
      (.ok (n + 1), (loaded n).provider.pool .readOnly ++ [⟨n + 1, true⟩],
        (loaded n).token.openSession (n + 1)) := by
    simp only [Pkcs11.acquireFromPool, busy, limit, if_false]
  have pool : Function.update (loaded n).provider.pool .readOnly
      ((loaded n).provider.pool .readOnly ++ [⟨n + 1, true⟩]) = (loaded (n + 1)).provider.pool := by
    funext type
    cases type with
    | readOnly => simp [loaded, List.range_succ]
    | readWrite => rfl
  have sessions : insert (n + 1) (loaded n).token.sessions = (loaded (n + 1)).token.sessions := by
    simp [loaded, Finset.range_add_one, Finset.image_insert]
  have count : UInt32.ofNat n + 1 = UInt32.ofNat (n + 1) := by
    rw [UInt32.ofNat_add]
    rfl
  have held : (n + 1, (⟨.readOnly, .user⟩ : HandlerRequirements)) :: (loaded n).held =
      (loaded (n + 1)).held := by
    simp [loaded, List.range_succ]
  have guard : (loaded n).provider.authGuard.ensureUserState ((loaded n).token.openSession (n + 1)) .ok =
      (none, ⟨.user, UInt32.ofNat n + 1⟩, (loaded n).token.openSession (n + 1)) := rfl
  simp only [openNext, step, Pkcs11Provider.acquireSession, granted, guard, if_true]
  simp only [held, count, Pkcs11Provider.setPool, pool, Token.openSession, sessions]
  rfl

theorem admissible_loaded (n : Nat) : (loaded n).Admissible (openNext n) := by
  refine ⟨?_, by simp⟩
  rintro _ ⟨⟩
  simp [loaded]

theorem users_loaded (n : Nat) : (loaded n).users = n := by
  have all : ((List.range n).map fun i => (i + 1, (⟨.readOnly, .user⟩ : HandlerRequirements))).countP
      (fun holder => holder.2.requiredAuth = .user) = n := by
    rw [List.countP_map, List.countP_eq_length.mpr (by simp), List.length_range]
  rw [users, loaded, List.countP_reverse]
  exact all

theorem run_loaded (n : Nat) (below : n < 2 ^ 40) :
    Run.Meets step Admissible (loaded 1) ((List.range n).map fun i => openNext (i + 1)) ∧
      Run.run step (loaded 1) ((List.range n).map fun i => openNext (i + 1)) = loaded (n + 1) := by
  induction n with
  | zero => exact ⟨trivial, rfl⟩
  | succ n ih =>
    obtain ⟨meets, reached⟩ := ih (by omega)
    rw [List.range_succ, List.map_append, Run.meets_append, Run.run_append, reached]
    exact ⟨⟨meets, admissible_loaded (n + 1), trivial⟩, step_loaded (by omega)⟩

theorem seeded_loaded :
    (seeded .softCleanup (2 ^ 40) 0 0 0 1 false).step
      (.acquire ⟨.readOnly, .user⟩ (.error .sessionCount) .ok) = loaded 1 := by
  have pool : Function.update (seeded .softCleanup (2 ^ 40) 0 0 0 1 false).provider.pool .readOnly
      [⟨1, true⟩] = (loaded 1).provider.pool := by
    funext type
    cases type <;> rfl
  show (⟨{ (seeded .softCleanup (2 ^ 40) 0 0 0 1 false).provider.setPool .readOnly [⟨1, true⟩] with
    authGuard := ⟨.user, 0 + 1⟩ }, _, _⟩ : State) = _
  simp only [Pkcs11Provider.setPool, pool]
  rfl

/-- With 2^32 users the count is 0 again. -/
theorem activeUserCount_wraps :
    ∃ events, Run.Meets step Admissible (seeded .softCleanup (2 ^ 40) 0 0 0 1 false) events ∧
      let s := Run.run step (seeded .softCleanup (2 ^ 40) 0 0 0 1 false) events
      s.users = 2 ^ 32 ∧ s.provider.authGuard = ⟨.user, 0⟩ := by
  obtain ⟨n, all⟩ : ∃ n, n + 1 = 2 ^ 32 := ⟨2 ^ 32 - 1, by omega⟩
  obtain ⟨meets, reached⟩ := run_loaded n (by omega)
  refine ⟨.acquire ⟨.readOnly, .user⟩ (.error .sessionCount) .ok ::
    (List.range n).map (fun i => openNext (i + 1)), ⟨⟨by simp, by simp⟩, ?_⟩, ?_⟩
  · rw [seeded_loaded]
    exact meets
  · rw [Run.run_cons, seeded_loaded, reached]
    refine ⟨(users_loaded (n + 1)).trans all, ?_⟩
    show (⟨.user, UInt32.ofNat (n + 1)⟩ : TokenAuthGuard) = _
    rw [all]
    rfl

end State

end ScoreCrypto.Provider.Pkcs11
