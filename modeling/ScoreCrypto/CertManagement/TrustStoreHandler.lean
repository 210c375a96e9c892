import ScoreCrypto.CertManagement.SlotManager
import ScoreCrypto.Common.Hex
import ScoreCrypto.Lib.Stateful

/-!
The TrustStoreHandler: the members of one trust store, their persisted state and the anchors and
CRLs it caches. Every call holds the handler's mutex, so its memory changes in one piece; what it
asks of the slots and of the state file comes back from outside.
-/

namespace ScoreCrypto.CertManagement

open Storage

/-! ### Configuration -/

inductive TrustStoreMemberKind where
  | sharedStatic
  | exclusiveMutable
  | conditionalExternal
  deriving DecidableEq, Repr

inductive ConditionalSlotInitialization where
  | enableAndAcceptCurrent
  | disableUntilAccepted
  deriving DecidableEq, Repr

structure TrustStoreMemberConfig where
  slotName : Bytes
  kind : TrustStoreMemberKind := .sharedStatic
  deriving DecidableEq, Repr

structure TrustStoreConfig where
  members : List TrustStoreMemberConfig
  conditionalSlotInitialization : ConditionalSlotInitialization := .disableUntilAccepted
  deploymentPath : Bytes := []
  deriving DecidableEq, Repr

structure StoreSetup where
  config : TrustStoreConfig
  registry : CertSlotRegistry

namespace StoreSetup

variable (setup : StoreSetup)

def slotOf (member : TrustStoreMemberConfig) : Expected SlotIndex :=
  setup.registry.resolveSlotInternal member.slotName

def refersTo (slot : SlotIndex) (member : TrustStoreMemberConfig) : Bool :=
  match setup.slotOf member with
  | .ok own => own = slot
  | .error _ => false

def findMember (slot : SlotIndex) : Option TrustStoreMemberConfig :=
  setup.config.members.find? (setup.refersTo slot)

/-- The loop of `ValidateMembers`, with the slots seen so far: every member has a slot of its own. -/
def validateFrom (seen : List SlotIndex) : List TrustStoreMemberConfig → Bool
  | [] => true
  | member :: rest =>
    match setup.slotOf member with
    | .error _ => false
    | .ok slot => if slot ∈ seen then false else validateFrom (slot :: seen) rest

def validateMembers : Bool :=
  setup.validateFrom [] setup.config.members

end StoreSetup

/-! ### Memory -/

structure MemberState where
  enabled : Bool := true
  acceptedFingerprint : Option Fingerprint := none
  deriving DecidableEq, Repr

structure MemberContent where
  anchor : Option CertObject := none
  crl : Option CrlData := none
  deriving DecidableEq, Repr

structure TrustStoreHandler where
  states : Finmap fun _ : SlotIndex => MemberState := ∅
  slots : Finmap fun _ : SlotIndex => CertObject := ∅
  crls : Finmap fun _ : SlotIndex => CrlData := ∅
  loaded : Bool := false
  valid : Bool := false

namespace TrustStoreHandler

variable (handler : TrustStoreHandler) (slot : SlotIndex)

def state : MemberState :=
  (handler.states.lookup slot).getD {}

def setState (next : MemberState) : TrustStoreHandler :=
  { handler with states := handler.states.insert slot next }

def touch : TrustStoreHandler :=
  handler.setState slot (handler.state slot)

def disable : TrustStoreHandler :=
  handler.setState slot { handler.state slot with enabled := false }

def accept (fingerprint : Option Fingerprint) : TrustStoreHandler :=
  handler.setState slot { handler.state slot with acceptedFingerprint := fingerprint }

def setAnchorLocked (certificate : Option CertObject) : TrustStoreHandler :=
  if handler.loaded then
    match certificate with
    | some certificate => { handler with slots := handler.slots.insert slot certificate }
    | none => { handler with slots := handler.slots.erase slot }
  else handler

def setCrlLocked (data : Option CrlData) : TrustStoreHandler :=
  if handler.loaded then
    match data with
    | some data => { handler with crls := handler.crls.insert slot data }
    | none => { handler with crls := handler.crls.erase slot }
  else handler

def clearCacheLocked : TrustStoreHandler :=
  { handler with slots := ∅, crls := ∅, loaded := false }

def restore (previous : Option MemberState) : TrustStoreHandler :=
  match previous with
  | some previous => handler.setState slot previous
  | none => { handler with states := handler.states.erase slot }

end TrustStoreHandler

/-! ### Actions -/

inductive CertificateSlotState where
  | empty
  | occupied
  deriving DecidableEq, Repr

inductive StoreAction where
  | hasHandler (slot : SlotIndex)
  | loadCertificate (slot : SlotIndex)
  | loadCrlData (slot : SlotIndex)
  | readCertificate (slot : SlotIndex)
  | readSlotState (slot : SlotIndex)
  | storeCertificate (slot : SlotIndex) (certificate : CertObject)
  | clearSlot (slot : SlotIndex)
  | storeCrl (slot : SlotIndex) (crl : CrlData)
  | clearCrl (slot : SlotIndex)
  | invalidateSlotCaches (slot : SlotIndex)
  | invalidateCrl (slot : SlotIndex)
  | fileExists
  | loadDescriptor
  | writeDescriptor (descriptor : DeploymentDescriptor)

@[reducible] def StoreAction.Res : StoreAction → Type
  | .hasHandler _ => Bool
  | .loadCertificate _ => Expected CertObject
  | .loadCrlData _ => Expected (Option CrlData)
  | .readCertificate _ => Expected CertObject
  | .readSlotState _ => Expected CertificateSlotState
  | .storeCertificate _ _ => Expected Unit
  | .clearSlot _ => Expected Unit
  | .storeCrl _ _ => Expected Unit
  | .clearCrl _ => Expected Unit
  | .invalidateSlotCaches _ => Unit
  | .invalidateCrl _ => Unit
  | .fileExists => Expected Bool
  | .loadDescriptor => Expected DeploymentDescriptor
  | .writeDescriptor _ => Expected Unit

abbrev StoreProg := Stateful TrustStoreHandler StoreAction StoreAction.Res

abbrev StoreProg.perform (act : StoreAction) : StoreProg act.Res := Stateful.perform act

namespace TrustStore

open StoreProg

variable (setup : StoreSetup)

/-! ### Persisted state -/

def stateSection : Bytes := ascii "trust_store_state"

def memberKey (member : TrustStoreMemberConfig) (suffix : String) : Bytes :=
  ascii "slot." ++ member.slotName ++ ascii "." ++ ascii suffix

def enabledKey (member : TrustStoreMemberConfig) : Bytes :=
  memberKey member "enabled"

def fingerprintKey (member : TrustStoreMemberConfig) : Bytes :=
  memberKey member "accepted_fingerprint"

def readEnabled : Option Bytes → Option Bool
  | none => some true
  | some value =>
    if value = ascii "true" then some true
    else if value = ascii "false" then some false
    else none

def readFingerprint : Option Bytes → Option (Option Fingerprint)
  | none => some none
  | some value =>
    match decodeHex value with
    | none => none
    | some bytes => if size : bytes.length = 32 then some (some ⟨bytes, size⟩) else none

def readState (enabled fingerprint : Option Bytes) : Option MemberState :=
  match readEnabled enabled, readFingerprint fingerprint with
  | some enabled, some fingerprint => some { enabled := enabled, acceptedFingerprint := fingerprint }
  | _, _ => none

def loadMembers (content : Section) : List TrustStoreMemberConfig → StoreProg Bool
  | [] => pure true
  | member :: rest =>
    match setup.slotOf member with
    | .error _ => loadMembers content rest
    | .ok slot =>
      match content.lookup (enabledKey member), content.lookup (fingerprintKey member) with
      | none, none => loadMembers content rest
      | enabled, fingerprint =>
        match readState enabled fingerprint with
        | none => pure false
        | some state => do
          modify fun handler => handler.setState slot state
          loadMembers content rest

def loadState : StoreProg Bool :=
  if setup.config.deploymentPath = [] then pure true
  else do
    match ← perform .fileExists with
    | .error _ => pure false
    | .ok false => pure true
    | .ok true =>
      match ← perform .loadDescriptor with
      | .error _ => pure false
      | .ok descriptor =>
        if descriptor.hasSection stateSection then
          loadMembers setup (descriptor.getSection stateSection) setup.config.members
        else pure true

def construct : StoreProg Unit :=
  if setup.validateMembers then do
    let usable ← loadState setup
    modify fun handler => { handler with valid := usable }
  else pure ()

def writeMember (descriptor : DeploymentDescriptor) (member : TrustStoreMemberConfig)
    (state : MemberState) : DeploymentDescriptor :=
  let described := descriptor.set stateSection (enabledKey member)
    (if state.enabled then ascii "true" else ascii "false")
  match state.acceptedFingerprint with
  | some accepted => described.set stateSection (fingerprintKey member) (encodeHex accepted)
  | none => described

/-- The body of the loop in `PersistStateLocked`: a member without a state is not written. -/
def writeMemberOf (handler : TrustStoreHandler) (descriptor : DeploymentDescriptor)
    (member : TrustStoreMemberConfig) : DeploymentDescriptor :=
  match setup.slotOf member with
  | .error _ => descriptor
  | .ok slot =>
    match handler.states.lookup slot with
    | none => descriptor
    | some state => writeMember descriptor member state

def writeMembers (handler : TrustStoreHandler) (descriptor : DeploymentDescriptor)
    (members : List TrustStoreMemberConfig) : DeploymentDescriptor :=
  members.foldl (writeMemberOf setup handler) descriptor

def persistStateLocked : StoreProg (Expected Unit) :=
  if setup.config.deploymentPath = [] then pure (.ok ())
  else do
    let existing ← perform .loadDescriptor
    let handler ← get
    perform (.writeDescriptor
      (writeMembers setup handler (existing.toOption.getD ∅) setup.config.members))

variable (slot : SlotIndex)

def commitStateLocked (next : MemberState) : StoreProg (Expected Unit) := do
  let handler ← get
  let previous := handler.states.lookup slot
  modify fun handler => handler.setState slot next
  match ← persistStateLocked setup with
  | .ok _ => pure (.ok ())
  | .error e => do
    modify fun handler => handler.restore slot previous
    pure (.error e)

/-! ### Members -/

def isEmptySlotError (e : DaemonErrorCode) : Bool :=
  e = .keySlotEmpty || e = .resourceNotAllocated

def resolveSlot : StoreProg Bool :=
  if setup.registry.isValidHandle slot then perform (.hasHandler slot) else pure false

variable (member : TrustStoreMemberConfig)

def resolveMember : StoreProg (Option SlotIndex) :=
  match setup.slotOf member with
  | .error _ => pure none
  | .ok slot => do
    if ← resolveSlot setup slot then pure (some slot) else pure none

/-- What a conditional member may contribute, given the certificate in its slot: `none` if it is
trusted as it is, otherwise the state it is left in and whether it is trusted in it. -/
def conditionalGate (state : MemberState) (certificate : CertObject) :
    Option (MemberState × Bool) :=
  match state.acceptedFingerprint with
  | some accepted =>
    if certificate.fingerprint = accepted then none
    else some ({ state with enabled := false }, false)
  | none =>
    match setup.config.conditionalSlotInitialization with
    | .enableAndAcceptCurrent =>
      some ({ state with acceptedFingerprint := some certificate.fingerprint }, true)
    | .disableUntilAccepted => some ({ state with enabled := false }, false)

variable (certificate : CertObject)

def trustedContent : StoreProg (Expected MemberContent) := do
  match ← perform (.loadCrlData slot) with
  | .error e => pure (.error e)
  | .ok crl => pure (.ok { anchor := some certificate, crl := crl })

def resolveMemberContentLocked (slot : SlotIndex) : StoreProg (Expected MemberContent × Bool) := do
  modify fun handler => handler.touch slot
  let handler ← get
  if (handler.state slot).enabled = false then pure (.ok {}, false)
  else
    match ← perform (.loadCertificate slot) with
    | .error e => if isEmptySlotError e then pure (.ok {}, false) else pure (.error e, false)
    | .ok certificate =>
      if member.kind = .conditionalExternal then
        match conditionalGate setup (handler.state slot) certificate with
        | none => do
          let content ← trustedContent slot certificate
          pure (content, false)
        | some (next, true) => do
          modify fun handler => handler.setState slot next
          let content ← trustedContent slot certificate
          pure (content, true)
        | some (next, false) => do
          modify fun handler => handler.setState slot next
          pure (.ok {}, true)
      else do
        let content ← trustedContent slot certificate
        pure (content, false)

structure Resolution where
  all : List (SlotIndex × MemberContent) := []
  stateChanged : Bool := false
  unaccepted : List SlotIndex := []
  failure : Option DaemonErrorCode := none

def resolveMembers : List TrustStoreMemberConfig → Resolution → StoreProg Resolution
  | [], resolution => pure resolution
  | member :: rest, resolution =>
    match setup.slotOf member with
    | .error _ => pure { resolution with failure := some .trustStoreInvalid }
    | .ok slot => do
      let handler ← get
      let unaccepted :=
        if member.kind = .conditionalExternal ∧
            (handler.state slot).acceptedFingerprint = none then
          resolution.unaccepted ++ [slot]
        else resolution.unaccepted
      let content ← resolveMemberContentLocked setup member slot
      match content with
      | (.error e, changed) =>
        pure { resolution with
          stateChanged := resolution.stateChanged || changed
          unaccepted := unaccepted
          failure := some e }
      | (.ok content, changed) =>
        resolveMembers rest { resolution with
          all := resolution.all ++ [(slot, content)]
          stateChanged := resolution.stateChanged || changed
          unaccepted := unaccepted }

def rollBack : List SlotIndex → StoreProg Bool
  | [] => pure false
  | slot :: rest => do
    modify fun handler => handler.touch slot
    let handler ← get
    if (handler.state slot).acceptedFingerprint = none then rollBack rest
    else do
      modify fun handler => handler.accept slot none
      let _ ← rollBack rest
      pure true

def Resolution.result (resolution : Resolution) :
    Expected (List (SlotIndex × MemberContent)) :=
  match resolution.failure with
  | some e => .error e
  | none => .ok resolution.all

def resolveAllLocked :
    StoreProg (Expected (List (SlotIndex × MemberContent))) := do
  let resolution ← resolveMembers setup setup.config.members {}
  if resolution.stateChanged then
    match ← persistStateLocked setup with
    | .ok _ => pure resolution.result
    | .error e => do
      if ← rollBack resolution.unaccepted then pure (.error e) else pure resolution.result
  else pure resolution.result

def refreshMemberLocked (slot : SlotIndex) : StoreProg Bool := do
  match ← resolveMemberContentLocked setup member slot with
  | (.error _, changed) => do
    modify TrustStoreHandler.clearCacheLocked
    pure changed
  | (.ok content, changed) => do
    modify fun handler => handler.setAnchorLocked slot content.anchor
    modify fun handler => handler.setCrlLocked slot content.crl
    pure changed

def refreshMemberCrlLocked (usable : Bool) : StoreProg Unit := do
  let handler ← get
  if handler.loaded then
    if usable then
      match ← perform (.loadCrlData slot) with
      | .error _ => modify TrustStoreHandler.clearCacheLocked
      | .ok data => modify fun handler => handler.setCrlLocked slot data
    else modify fun handler => handler.setCrlLocked slot none
  else pure ()

def refreshActiveMemberCrlLocked : StoreProg Unit := do
  let handler ← get
  if handler.loaded then refreshMemberCrlLocked slot (handler.slots.lookup slot).isSome else pure ()

/-! ### The cache -/

def cacheMember {α : Type} (part : MemberContent → Option α) (cache : Finmap fun _ : SlotIndex => α)
    (member : SlotIndex × MemberContent) : Finmap fun _ : SlotIndex => α :=
  match part member.2 with
  | some value => cache.insert member.1 value
  | none => cache

def cached {α : Type} (part : MemberContent → Option α) (all : List (SlotIndex × MemberContent)) :
    Finmap fun _ : SlotIndex => α :=
  all.foldl (cacheMember part) ∅

def loadCache : StoreProg (Expected Unit) := do
  let handler ← get
  if handler.valid = false then pure (.error .trustStoreInvalid)
  else if handler.loaded then pure (.ok ())
  else
    match ← resolveAllLocked setup with
    | .error e => pure (.error e)
    | .ok all => do
      modify fun handler =>
        { handler with
          slots := cached MemberContent.anchor all
          crls := cached MemberContent.crl all
          loaded := true }
      pure (.ok ())

def clearCache : StoreProg Unit :=
  modify TrustStoreHandler.clearCacheLocked

/-- What a warm store answers from its cache and a cold one from its members, with the slot that each
part is from. -/
def readMembers {α : Type} (cache : TrustStoreHandler → Finmap fun _ : SlotIndex => α)
    (part : MemberContent → Option α) :
    StoreProg (Expected (Multiset (SlotIndex × α))) := do
  let handler ← get
  if handler.valid = false then pure (.error .trustStoreInvalid)
  else if handler.loaded then pure (.ok ((cache handler).entries.map fun entry => (entry.1, entry.2)))
  else
    match ← resolveAllLocked setup with
    | .error e => pure (.error e)
    | .ok all =>
      pure (.ok (all.filterMap fun member => (part member.2).map fun value => (member.1, value)))

def getAnchors : StoreProg (Expected (Multiset CertObject)) := do
  let anchors ← readMembers setup TrustStoreHandler.slots MemberContent.anchor
  pure (anchors.map (Multiset.map Prod.snd))

def getCrls : StoreProg (Expected (Multiset CrlData)) := do
  let crls ← readMembers setup TrustStoreHandler.crls MemberContent.crl
  pure (crls.map (Multiset.map Prod.snd))

/-! ### Notifications -/

def acceptedFingerprintMatchesLocked : StoreProg Bool := do
  modify fun handler => handler.touch slot
  let handler ← get
  match (handler.state slot).acceptedFingerprint with
  | none => pure false
  | some accepted =>
    match ← perform (.loadCertificate slot) with
    | .error _ => pure false
    | .ok certificate => pure (certificate.fingerprint = accepted)

def memberChanged (slot : SlotIndex) : StoreProg Bool :=
  if member.kind = .conditionalExternal then do
    if ← acceptedFingerprintMatchesLocked slot then
      let handler ← get
      if handler.loaded then refreshMemberLocked setup member slot else pure false
    else do
      let handler ← get
      if (handler.state slot).enabled then modify fun handler => handler.disable slot
      else pure ⟨⟩
      modify fun handler => handler.setAnchorLocked slot none
      modify fun handler => handler.setCrlLocked slot none
      pure (handler.state slot).enabled
  else do
    let handler ← get
    if handler.loaded then refreshMemberLocked setup member slot else pure false

def membersChanged (slot : SlotIndex) : List TrustStoreMemberConfig → StoreProg Bool
  | [] => pure false
  | member :: rest =>
    if setup.refersTo slot member then do
      let changed ← memberChanged setup member slot
      let others ← membersChanged slot rest
      pure (changed || others)
    else membersChanged slot rest

def onSlotChanged : StoreProg Unit := do
  let handler ← get
  if handler.valid = false then pure ()
  else do
    perform (.invalidateSlotCaches slot)
    if ← membersChanged setup slot setup.config.members then do
      let _ ← persistStateLocked setup
      pure ()
    else pure ()

def onSlotCrlChanged : StoreProg Unit :=
  refreshActiveMemberCrlLocked slot

/-! ### Mutations -/

/-- A trust increase is persisted before it is published. -/
def enableAndPublish (next : MemberState) (certificate : Option CertObject) :
    StoreProg (Expected Unit) := do
  match ← commitStateLocked setup slot next with
  | .error e => pure (.error e)
  | .ok _ => do
    modify fun handler => handler.setAnchorLocked slot certificate
    pure (.ok ())

/-- A failed write may still have changed the slot, so its cached CRL goes either way. -/
def putCrl (crl : CrlData) : StoreProg (Expected Unit) := do
  let stored ← perform (.storeCrl slot crl)
  perform (.invalidateCrl slot)
  pure stored

def putGivenCrl : Option CrlData → StoreProg (Expected Unit)
  | none => pure (.ok ())
  | some crl => putCrl slot crl

def refreshGivenCrl (crl : Option CrlData) : StoreProg Unit :=
  if crl.isSome then refreshMemberCrlLocked slot true else pure ()

/-- `AddMember` for a certificate that an exclusive member holds already. -/
def upsertMember (crl : Option CrlData) : StoreProg (Expected Unit) := do
  match ← putGivenCrl slot crl with
  | .error e => pure (.error e)
  | .ok _ => do
    refreshGivenCrl slot crl
    modify fun handler => handler.touch slot
    let handler ← get
    enableAndPublish setup slot { handler.state slot with enabled := true } (some certificate)

/-- The first loop of `AddMember`: a member that holds the certificate already ends the call. -/
def addToHolder (certificate : CertObject) (crl : Option CrlData) :
    List TrustStoreMemberConfig → StoreProg (Option (Expected Unit))
  | [] => pure none
  | member :: rest => do
    match ← resolveMember setup member with
    | none => addToHolder certificate crl rest
    | some slot =>
      match ← perform (.readCertificate slot) with
      | .error e =>
        if isEmptySlotError e then addToHolder certificate crl rest
        else pure (some (.error e))
      | .ok current =>
        if current.fingerprint = certificate.fingerprint then
          if member.kind = .exclusiveMutable then do
            let result ← upsertMember setup slot certificate crl
            pure (some result)
          else if crl.isSome then pure (some (.error .unsupportedOperation))
          else pure (some (.ok ()))
        else addToHolder certificate crl rest

def clearAdded : StoreProg Unit := do
  let _ ← perform (.clearSlot slot)
  perform (.invalidateSlotCaches slot)

def storeMember (crl : Option CrlData) : StoreProg (Expected Unit) := do
  let stored ← perform (.storeCertificate slot certificate)
  perform (.invalidateSlotCaches slot)
  match stored with
  | .error e => pure (.error e)
  | .ok _ =>
    match ← putGivenCrl slot crl with
    | .error e => do
      clearAdded slot
      pure (.error e)
    | .ok _ => do
      modify fun handler => handler.touch slot
      let handler ← get
      match ← commitStateLocked setup slot { handler.state slot with enabled := true } with
      | .error e => do
        clearAdded slot
        pure (.error e)
      | .ok _ => do
        refreshMemberCrlLocked slot true
        modify fun handler => handler.setAnchorLocked slot (some certificate)
        pure (.ok ())

/-- The second loop of `AddMember`: the first empty exclusive slot takes the certificate. -/
def addToEmpty (certificate : CertObject) (crl : Option CrlData) :
    List TrustStoreMemberConfig → StoreProg (Expected Unit)
  | [] => pure (.error .trustStoreCapacityExceeded)
  | member :: rest =>
    if member.kind = .exclusiveMutable then do
      match ← resolveMember setup member with
      | none => addToEmpty certificate crl rest
      | some slot =>
        match ← perform (.readSlotState slot) with
        | .ok .empty => storeMember setup slot certificate crl
        | _ => addToEmpty certificate crl rest
    else addToEmpty certificate crl rest

def addMember (crl : Option CrlData) : StoreProg (Expected Unit) := do
  let handler ← get
  if handler.valid = false then pure (.error .trustStoreInvalid)
  else do
    let given := crl.filter fun crl => crl.bytes ≠ []
    match ← addToHolder setup certificate given setup.config.members with
    | some result => pure result
    | none => addToEmpty setup certificate given setup.config.members

/-- The loop of `StoreCrlForMember` and of `ClearCrlForMember` for the member with the slot. -/
def withExclusiveMember (slot : SlotIndex) (change : StoreProg (Expected Unit)) :
    List TrustStoreMemberConfig → StoreProg (Expected Unit)
  | [] => pure (.error .invalidResourceId)
  | member :: rest => do
    let resolved ← resolveMember setup member
    if resolved = some slot then
      if member.kind = .exclusiveMutable then change else pure (.error .unsupportedOperation)
    else withExclusiveMember slot change rest

def storeCrlForMember (crl : CrlData) : StoreProg (Expected Unit) := do
  let handler ← get
  if handler.valid = false then pure (.error .trustStoreInvalid)
  else
    let change : StoreProg (Expected Unit) := do
      match ← putCrl slot crl with
      | .error e => pure (.error e)
      | .ok _ => do
        refreshActiveMemberCrlLocked slot
        pure (.ok ())
    withExclusiveMember setup slot change setup.config.members

def clearCrlForMember : StoreProg (Expected Unit) := do
  let handler ← get
  if handler.valid = false then pure (.error .trustStoreInvalid)
  else
    let change : StoreProg (Expected Unit) := do
      let cleared ← perform (.clearCrl slot)
      perform (.invalidateCrl slot)
      match cleared with
      | .error e => pure (.error e)
      | .ok _ => do
        modify fun handler => handler.setCrlLocked slot none
        pure (.ok ())
    withExclusiveMember setup slot change setup.config.members

/-- A trust reduction takes effect whether or not the state can be persisted. -/
def withdraw : StoreProg (Expected Unit) := do
  modify fun handler => handler.disable slot
  modify fun handler => handler.setAnchorLocked slot none
  modify fun handler => handler.setCrlLocked slot none
  persistStateLocked setup

def removeFrom (fingerprint : Bytes) :
    List TrustStoreMemberConfig → StoreProg (Expected Unit)
  | [] => pure (.error .invalidArgument)
  | member :: rest =>
    if member.kind = .exclusiveMutable then do
      match ← resolveMember setup member with
      | none => removeFrom fingerprint rest
      | some slot =>
        match ← perform (.readCertificate slot) with
        | .error _ => removeFrom fingerprint rest
        | .ok current =>
          if current.fingerprint.1 = fingerprint then do
            let cleared ← perform (.clearSlot slot)
            perform (.invalidateSlotCaches slot)
            match cleared with
            | .error e => pure (.error e)
            | .ok _ => withdraw setup slot
          else removeFrom fingerprint rest
    else removeFrom fingerprint rest

def removeMember (fingerprint : Bytes) : StoreProg (Expected Unit) := do
  let handler ← get
  if handler.valid = false then pure (.error .trustStoreInvalid)
  else removeFrom setup fingerprint setup.config.members

/-- `EnableMember` for a conditional member: its content must be the accepted one. -/
def enableConditional : StoreProg (Expected Unit) := do
  if ← resolveSlot setup slot then
    match ← perform (.readCertificate slot) with
    | .error _ => pure (.error .invalidOperation)
    | .ok certificate => do
      modify fun handler => handler.touch slot
      let handler ← get
      if (handler.state slot).acceptedFingerprint = some certificate.fingerprint then do
        perform (.invalidateSlotCaches slot)
        enableAndPublish setup slot { handler.state slot with enabled := true } (some certificate)
      else pure (.error .invalidOperation)
  else pure (.error .invalidResourceId)

def enableMember : StoreProg (Expected Unit) := do
  let handler ← get
  if handler.valid = false then pure (.error .trustStoreInvalid)
  else
    match setup.findMember slot with
    | none => pure (.error .invalidArgument)
    | some member =>
      if member.kind = .conditionalExternal then enableConditional setup slot
      else do
        let loaded ← perform (.loadCertificate slot)
        modify fun handler => handler.touch slot
        let handler ← get
        enableAndPublish setup slot { handler.state slot with enabled := true } loaded.toOption

def disableMember : StoreProg (Expected Unit) := do
  let handler ← get
  if handler.valid = false then pure (.error .trustStoreInvalid)
  else
    match setup.findMember slot with
    | none => pure (.error .invalidArgument)
    | some _ => withdraw setup slot

def acknowledgeConditional (expected : Bytes) : StoreProg (Expected Unit) := do
  if ← resolveSlot setup slot then
    match ← perform (.readCertificate slot) with
    | .error _ => pure (.error .invalidOperation)
    | .ok certificate =>
      if certificate.fingerprint.1 = expected then do
        perform (.invalidateSlotCaches slot)
        modify fun handler => handler.touch slot
        enableAndPublish setup slot
          { enabled := true, acceptedFingerprint := some certificate.fingerprint }
          (some certificate)
      else pure (.error .invalidOperation)
  else pure (.error .invalidResourceId)

def acknowledgeMemberUpdate (expected : Bytes) : StoreProg (Expected Unit) :=
  if expected.length ≠ 32 then pure (.error .invalidArgument)
  else do
    let handler ← get
    if handler.valid = false then pure (.error .trustStoreInvalid)
    else
      match setup.findMember slot with
      | none => pure (.error .unsupportedOperation)
      | some member =>
        if member.kind = .conditionalExternal then acknowledgeConditional setup slot expected
        else pure (.error .unsupportedOperation)

/-! ### Calls -/

inductive Call where
  | loadCache
  | clearCache
  | getAnchors
  | getCrls
  | onSlotChanged (slot : SlotIndex)
  | onSlotCrlChanged (slot : SlotIndex)
  | addMember (certificate : CertObject) (crl : Option CrlData)
  | removeMember (fingerprint : Bytes)
  | enableMember (slot : SlotIndex)
  | disableMember (slot : SlotIndex)
  | acknowledgeMemberUpdate (slot : SlotIndex) (expected : Bytes)
  | storeCrlForMember (slot : SlotIndex) (crl : CrlData)
  | clearCrlForMember (slot : SlotIndex)

inductive Response where
  | done (result : Expected Unit)
  | anchors (result : Expected (Multiset CertObject))
  | crls (result : Expected (Multiset CrlData))

def Call.program : Call → StoreProg Response
  | .loadCache => do return .done (← TrustStore.loadCache setup)
  | .clearCache => do
    TrustStore.clearCache
    return .done (.ok ())
  | .getAnchors => do return .anchors (← TrustStore.getAnchors setup)
  | .getCrls => do return .crls (← TrustStore.getCrls setup)
  | .onSlotChanged slot => do
    TrustStore.onSlotChanged setup slot
    return .done (.ok ())
  | .onSlotCrlChanged slot => do
    TrustStore.onSlotCrlChanged slot
    return .done (.ok ())
  | .addMember certificate crl => do return .done (← TrustStore.addMember setup certificate crl)
  | .removeMember fingerprint => do return .done (← TrustStore.removeMember setup fingerprint)
  | .enableMember slot => do return .done (← TrustStore.enableMember setup slot)
  | .disableMember slot => do return .done (← TrustStore.disableMember setup slot)
  | .acknowledgeMemberUpdate slot expected => do
    return .done (← TrustStore.acknowledgeMemberUpdate setup slot expected)
  | .storeCrlForMember slot crl => do
    return .done (← TrustStore.storeCrlForMember setup slot crl)
  | .clearCrlForMember slot => do return .done (← TrustStore.clearCrlForMember setup slot)

end TrustStore

end ScoreCrypto.CertManagement
