import ScoreCrypto.Daemon.Calls
import ScoreCrypto.Daemon.Config

/-!
The part of the CertManagementService that makes and deletes nodes. The id that the CertRegistry
gave a certificate and the trust store a name resolves to come in as arguments.
-/

namespace ScoreCrypto.CertManagement

open DataManager Daemon

def registerCertificate (clientId : ClientId) (parentId : DataNodeId) (registryId : Nat) :
    Prog (Expected DataNodeId) := do
  if registryId = 0 then pure (.error .internalError)
  else
    match ← addChildNode clientId parentId (.certData registryId) with
    | .error _ => pure (.error .internalError)
    | .ok nodeId => pure (.ok nodeId)

def releaseCertificate (clientId : ClientId) (nodeId : DataNodeId) :
    Prog (Expected Unit) := do
  match ← deleteNode clientId nodeId with
  | .error _ => pure (.error .invalidResourceId)
  | .ok _ => pure (.ok ())

def resolveCertSlotHandle (config : Config) (slotHandle : Nat) (clientId : ClientId) :
    Prog (Expected DataNodeId) := do
  if config.certSlots.isValidHandle slotHandle = false then pure (.error .invalidResourceId)
  else
    match ← findCertSlotNode clientId slotHandle with
    | some nodeId => pure (.ok nodeId)
    | none =>
      match ← addNode clientId (.certSlot slotHandle) with
      | .error _ => pure (.error .internalError)
      | .ok nodeId => do
        cacheCertSlotNode clientId slotHandle nodeId
        pure (.ok nodeId)

def resolveCertSlotNode (config : Config) (resourceName : String) (clientId : ClientId) :
    Prog (Expected DataNodeId) :=
  match config.certSlots.resolveAppResource resourceName clientId with
  | .error e => pure (.error e)
  | .ok slotHandle => resolveCertSlotHandle config slotHandle clientId

/-- `store` is what the TrustStoreManager resolves the name to. -/
def resolveTrustStoreNode (store : Expected Nat) (clientId : ClientId) :
    Prog (Expected DataNodeId) :=
  match store with
  | .error e => pure (.error e)
  | .ok handle => do
    match ← findTrustStoreNode clientId handle with
    | some nodeId => pure (.ok nodeId)
    | none =>
      match ← addNode clientId (.trustStore handle) with
      | .error _ => pure (.error .internalError)
      | .ok nodeId => do
        cacheTrustStoreNode clientId handle nodeId
        pure (.ok nodeId)

end ScoreCrypto.CertManagement
