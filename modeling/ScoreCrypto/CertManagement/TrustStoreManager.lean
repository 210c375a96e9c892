import ScoreCrypto.Common.Types
import ScoreCrypto.Lib.Program
import ScoreCrypto.Lib.Table

/-!
The references that clients hold to trust stores. A call is a program whose actions are the
sections it runs under the manager's mutex and the call it makes to the store under the store's.
-/

namespace ScoreCrypto.CertManagement

abbrev TrustStoreId := Nat

abbrev RefCounts := Finmap fun _ : ClientId => Finmap fun _ : TrustStoreId => Nat

namespace RefCounts

def perStore (counts : RefCounts) (clientId : ClientId) : Finmap fun _ : TrustStoreId => Nat :=
  (counts.lookup clientId).getD ∅

def entry (counts : RefCounts) (clientId : ClientId) (store : TrustStoreId) : Option Nat :=
  (counts.perStore clientId).lookup store

def count (counts : RefCounts) (clientId : ClientId) (store : TrustStoreId) : Nat :=
  (counts.entry clientId store).getD 0

def Active (counts : RefCounts) (store : TrustStoreId) : Prop :=
  ∃ clientId ∈ counts.keys, (counts.entry clientId store).isSome

instance (counts : RefCounts) (store : TrustStoreId) : Decidable (counts.Active store) :=
  inferInstanceAs (Decidable (∃ _ ∈ _, _))

end RefCounts

structure StoreCache where
  valid : Bool := true
  loaded : Bool := false
  deriving DecidableEq, Repr

structure TrustStoreManager where
  stores : List StoreCache
  refCounts : RefCounts := ∅

namespace TrustStoreManager

variable (manager : TrustStoreManager) (store : TrustStoreId)

def hasStore : Bool :=
  store ≠ 2 ^ 32 - 1 && store < manager.stores.length

def loaded : Bool :=
  manager.stores[store]?.any StoreCache.loaded

def maybeEvict (affected : Finset TrustStoreId) (manager : TrustStoreManager) : TrustStoreManager :=
  { manager with
    stores := manager.stores.mapIdx fun store cache =>
      if store ∈ affected ∧ ¬ manager.refCounts.Active store then { cache with loaded := false }
      else cache }

/-- The first section of `AddRef`. -/
def addCount (clientId : ClientId) : TrustStoreManager :=
  { manager with
    refCounts := manager.refCounts.insert clientId
      ((manager.refCounts.perStore clientId).insert store
        ((manager.refCounts.count clientId store + 1) % 2 ^ 32)) }

def loadCache (resolved : Expected Unit) : Expected Unit × TrustStoreManager :=
  match manager.stores[store]? with
  | none => (.error .invalidArgument, manager)
  | some cache =>
    if cache.valid = false then (.error .trustStoreInvalid, manager)
    else if cache.loaded then (.ok (), manager)
    else
      match resolved with
      | .error e => (.error e, manager)
      | .ok _ =>
        (.ok (), { manager with
          stores := manager.stores.set store { cache with loaded := true } })

def eraseCount (counts : RefCounts) (clientId : ClientId) (store : TrustStoreId) : RefCounts :=
  if (counts.perStore clientId).erase store = ∅ then counts.erase clientId
  else counts.insert clientId ((counts.perStore clientId).erase store)

def releaseCount (clientId : ClientId) : TrustStoreManager :=
  match manager.refCounts.count clientId store with
  | 0 => manager
  | 1 => maybeEvict {store}
      { manager with refCounts := eraseCount manager.refCounts clientId store }
  | left + 2 =>
    { manager with
      refCounts := manager.refCounts.insert clientId
        ((manager.refCounts.perStore clientId).insert store (left + 1)) }

def cleanupClient (clientId : ClientId) : TrustStoreManager :=
  maybeEvict (manager.refCounts.perStore clientId).keys
    { manager with refCounts := manager.refCounts.erase clientId }

end TrustStoreManager

/-! ### Calls -/

inductive RefAction where
  | addCount (store : TrustStoreId) (clientId : ClientId)
  | loadCache (store : TrustStoreId) (resolved : Expected Unit)
  | releaseCount (store : TrustStoreId) (clientId : ClientId)
  | cleanupClient (clientId : ClientId)
  | findStore (store : TrustStoreId)

@[reducible] def RefAction.Res : RefAction → Type
  | .addCount _ _ => Unit
  | .loadCache _ _ => Expected Unit
  | .releaseCount _ _ => Unit
  | .cleanupClient _ => Unit
  | .findStore _ => Bool

def RefAction.handle : (act : RefAction) → TrustStoreManager → act.Res × TrustStoreManager
  | .addCount store c, manager => ((), manager.addCount store c)
  | .loadCache store resolved, manager => manager.loadCache store resolved
  | .releaseCount store c, manager => ((), manager.releaseCount store c)
  | .cleanupClient c, manager => ((), manager.cleanupClient c)
  | .findStore store, manager => (manager.hasStore store, manager)

abbrev RefProg := Program RefAction RefAction.Res

namespace RefProg

def findStore (store : TrustStoreId) : RefProg Bool :=
  Program.perform (RefAction.findStore store)

def addCount (store : TrustStoreId) (clientId : ClientId) : RefProg Unit :=
  Program.perform (RefAction.addCount store clientId)

def loadCache (store : TrustStoreId) (resolved : Expected Unit) :
    RefProg (Expected Unit) :=
  Program.perform (RefAction.loadCache store resolved)

end RefProg

def releaseRef (store : TrustStoreId) (clientId : ClientId) : RefProg Unit :=
  Program.perform (RefAction.releaseCount store clientId)

/-- `LoadCache` and what `AddRef` does about its failure. -/
def bindStore (store : TrustStoreId) (clientId : ClientId) (resolved : Expected Unit) :
    RefProg (Expected Unit) := do
  match ← RefProg.loadCache store resolved with
  | .ok _ => pure (.ok ())
  | .error e => do
    releaseRef store clientId
    pure (.error e)

def addRef (store : TrustStoreId) (clientId : ClientId) (resolved : Expected Unit) :
    RefProg (Expected Unit) := do
  if ← RefProg.findStore store then
    RefProg.addCount store clientId
    bindStore store clientId resolved
  else pure (.error .invalidArgument)

def cleanupClient (clientId : ClientId) : RefProg Unit :=
  Program.perform (RefAction.cleanupClient clientId)

inductive RefCall where
  | addRef (store : TrustStoreId) (clientId : ClientId) (resolved : Expected Unit)
  | releaseRef (store : TrustStoreId) (clientId : ClientId)
  | cleanupClient (clientId : ClientId)

def RefCall.program : RefCall → RefProg (Expected Unit)
  | .addRef store c resolved => CertManagement.addRef store c resolved
  | .releaseRef store c => do
    CertManagement.releaseRef store c
    pure (.ok ())
  | .cleanupClient c => do
    CertManagement.cleanupClient c
    pure (.ok ())

end ScoreCrypto.CertManagement
