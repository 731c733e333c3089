import Mathlib.Data.Finset.Card
import Mathlib.Tactic.Ring

/-!
The user plane resources of a UE in the CU-CP. Requests to set up, modify and release PDU
sessions are validated, turned into an update of the configuration, and the update is applied.
Every QoS flow gets a DRB of its own. The lookup tables lead from a DRB to its PDU session and
from a QoS flow identifier, of whichever session, to a DRB.
-/

namespace ProtoRu.Drb

open Std (TreeMap)

abbrev PduSessionId := Nat

abbrev QosFlowId := Nat

/-- The identities 1 to 29, and 30 for none. -/
abbrev DrbId := Nat

def drb1 : DrbId := 1

def invalidDrb : DrbId := 30

def maxNofDrbs : Nat := 29

inductive Fault where
  | assertion
  | outOfRange
deriving DecidableEq

/-- The 5QI, which a dynamic descriptor may lack, and what else there is of the parameters. -/
structure QosParams where
  fiveQi : Option Nat
  allocRetentionPrio : Nat

structure Config where
  fiveQis : List Nat
  maxNofDrbsPerUe : Nat

structure QosFlowContext where
  qfi : QosFlowId
  qosParams : QosParams

structure DrbContext where
  drbId : DrbId
  pduSessionId : PduSessionId
  defaultDrb : Bool := false
  qosParams : QosParams
  qosFlows : TreeMap QosFlowId QosFlowContext

structure PduSessionContext where
  id : PduSessionId
  drbs : TreeMap DrbId DrbContext := ∅

structure UpContext where
  pduSessions : TreeMap PduSessionId PduSessionContext := ∅
  drbMap : TreeMap DrbId PduSessionId := ∅
  qosFlowMap : TreeMap QosFlowId DrbId := ∅
  usedDrbIds : Finset Nat := ∅

structure SessionUpdate where
  id : PduSessionId
  drbToAdd : TreeMap DrbId DrbContext := ∅
  drbToModify : TreeMap DrbId DrbContext := ∅
  drbToRemove : List DrbId := []

/-- `notAllocated` is what the log says of flows that got no DRB. -/
structure ConfigUpdate where
  initialContextCreation : Bool := true
  pduSessionsToSetup : TreeMap PduSessionId SessionUpdate := ∅
  pduSessionsToModify : TreeMap PduSessionId SessionUpdate := ∅
  pduSessionsToRemove : List PduSessionId := []
  pduSessionsFailedToModify : List PduSessionId := []
  drbToRemove : List DrbId := []
  notAllocated : List (PduSessionId × QosFlowId) := []

structure ConfigUpdateResult where
  pduSessionsAdded : List SessionUpdate := []
  pduSessionsModified : List SessionUpdate := []
  pduSessionsRemoved : List PduSessionId := []

structure SlottedIdVector (α : Type) (id : α → Nat) where
  items : List α
  distinct : (items.map id).Nodup

structure QosFlowItem where
  qosFlowId : QosFlowId
  qosParams : QosParams

structure SetupItem where
  pduSessionId : PduSessionId
  qosFlows : SlottedIdVector QosFlowItem QosFlowItem.qosFlowId

structure ModifyItem where
  pduSessionId : PduSessionId
  qosFlowsToAddOrModify : SlottedIdVector QosFlowItem QosFlowItem.qosFlowId
  qosFlowsToRelease : SlottedIdVector QosFlowId id

abbrev SetupRequest := SlottedIdVector SetupItem SetupItem.pduSessionId

abbrev ModifyRequest := SlottedIdVector ModifyItem ModifyItem.pduSessionId

abbrev ReleaseCommand := SlottedIdVector PduSessionId id

section

variable (cfg : Config) (ctx : UpContext)

def getFiveQi (params : QosParams) : Option Nat :=
  params.fiveQi.filter fun fiveQi => cfg.fiveQis.contains fiveQi

def isValidSetup (request : SetupRequest) : Bool :=
  !request.items.isEmpty && request.items.all fun item =>
    !ctx.pduSessions.contains item.pduSessionId &&
      item.qosFlows.items.all fun flow => (getFiveQi cfg flow.qosParams).isSome

/-- The flows to release are looked up, and counted, among those of all sessions. -/
def isValidModify (request : ModifyRequest) : Bool :=
  !request.items.isEmpty && request.items.all fun item =>
    ctx.pduSessions.contains item.pduSessionId &&
      (item.qosFlowsToAddOrModify.items.all fun flow => (getFiveQi cfg flow.qosParams).isSome) &&
      (item.qosFlowsToRelease.items.all fun qfi => ctx.qosFlowMap.contains qfi) &&
      decide (item.qosFlowsToRelease.items.length < ctx.qosFlowMap.size)

def isValidRelease (command : ReleaseCommand) : Bool :=
  !command.items.isEmpty && command.items.all fun id => ctx.pduSessions.contains id

end

section

variable (cfg : Config) (ctx : UpContext)

def ConfigUpdate.containsDrb (update : ConfigUpdate) (drbId : DrbId) : Bool :=
  (update.pduSessionsToSetup.toList.any fun item => item.2.drbToAdd.contains drbId) ||
    update.pduSessionsToModify.toList.any fun item => item.2.drbToAdd.contains drbId

/-- From one identity to the next, up to the invalid one. -/
def nextFree (taken : DrbId → Bool) : Nat → DrbId → DrbId
  | 0, drbId => drbId
  | rounds + 1, drbId =>
    if taken drbId then
      if drbId + 1 = invalidDrb then invalidDrb else nextFree taken rounds (drbId + 1)
    else drbId

def takenDrb (session : SessionUpdate) (update : ConfigUpdate) (drbId : DrbId) : Bool :=
  ctx.drbMap.contains drbId || update.containsDrb drbId || session.drbToAdd.contains drbId ||
    decide (drbId - 1 ∈ ctx.usedDrbIds)

def allocateDrbId (session : SessionUpdate) (update : ConfigUpdate) : DrbId :=
  if cfg.maxNofDrbsPerUe ≤ ctx.drbMap.size then invalidDrb
  else nextFree (takenDrb ctx session update) maxNofDrbs drb1

def drbOfFlow (drbId : DrbId) (session : SessionUpdate) (defaultDrb : Bool) (flow : QosFlowItem) :
    DrbContext where
  drbId := drbId
  pduSessionId := session.id
  defaultDrb := defaultDrb
  qosParams := flow.qosParams
  qosFlows := (∅ : TreeMap QosFlowId QosFlowContext).insertIfNew flow.qosFlowId
    ⟨flow.qosFlowId, flow.qosParams⟩

def allocateQosFlow (session : SessionUpdate) (flow : QosFlowItem) (update : ConfigUpdate) :
    Except Fault (DrbId × SessionUpdate) :=
  if (getFiveQi cfg flow.qosParams).isNone then .error .assertion
  else if cfg.maxNofDrbsPerUe ≤ ctx.drbMap.size then .ok (invalidDrb, session)
  else
    let drbId := allocateDrbId cfg ctx session update
    if drbId = invalidDrb then .ok (drbId, session)
    else
      .ok (drbId, { session with
        drbToAdd := session.drbToAdd.insertIfNew drbId
          (drbOfFlow drbId session ctx.drbMap.isEmpty flow) })

/-- The DRB is that of the flow identifier, and need not be one of the session. -/
def modifyQosFlow (session : SessionUpdate) (flow : QosFlowItem) :
    Except Fault (DrbId × SessionUpdate) :=
  match ctx.qosFlowMap[flow.qosFlowId]? with
  | none => .ok (invalidDrb, session)
  | some drbId =>
    if (getFiveQi cfg flow.qosParams).isNone then .error .assertion
    else
      .ok (drbId, { session with
        drbToModify := session.drbToModify.insertIfNew drbId (drbOfFlow drbId session false flow) })

structure Progress where
  session : SessionUpdate
  notAllocated : List (PduSessionId × QosFlowId) := []

def Progress.allocate (update : ConfigUpdate) (progress : Progress) (flow : QosFlowItem) :
    Except Fault Progress :=
  (allocateQosFlow cfg ctx progress.session flow update).map fun allocated =>
    if allocated.1 = invalidDrb then
      { progress with
        notAllocated := progress.notAllocated ++ [(progress.session.id, flow.qosFlowId)] }
    else { progress with session := allocated.2 }

def setupSession (update : ConfigUpdate) (item : SetupItem) : Except Fault ConfigUpdate :=
  if ctx.pduSessions.contains item.pduSessionId then .error .assertion
  else
    (item.qosFlows.items.foldlM (Progress.allocate cfg ctx update)
        { session := { id := item.pduSessionId } }).map fun progress =>
      { update with
        notAllocated := update.notAllocated ++ progress.notAllocated
        pduSessionsToSetup :=
          if progress.session.drbToAdd.isEmpty then update.pduSessionsToSetup
          else update.pduSessionsToSetup.insertIfNew progress.session.id progress.session }

def calculateSetupUpdate (request : SetupRequest) : Except Fault ConfigUpdate :=
  request.items.foldlM (setupSession cfg ctx) { initialContextCreation := ctx.pduSessions.isEmpty }

/-- A flow whose identifier is known is modified, and any other one allocated. -/
def Progress.addOrModify (update : ConfigUpdate) (progress : Progress) (flow : QosFlowItem) :
    Except Fault Progress :=
  if ctx.qosFlowMap.contains flow.qosFlowId then
    (modifyQosFlow cfg ctx progress.session flow).map fun modified =>
      { progress with session := modified.2 }
  else Progress.allocate cfg ctx update progress flow

/-- The DRB of the flow identifier is looked for among those of the session. -/
def releaseFlow (sessionContext : PduSessionContext) (session : SessionUpdate) (qfi : QosFlowId) :
    Except Fault SessionUpdate :=
  match ctx.qosFlowMap[qfi]? with
  | none => .error .outOfRange
  | some drbId =>
    match sessionContext.drbs[drbId]? with
    | none => .error .outOfRange
    | some drb =>
      if !drb.qosFlows.contains qfi then .error .assertion
      else if drb.qosFlows.size = 1 then
        .ok { session with drbToRemove := session.drbToRemove ++ [drbId] }
      else .ok session

def modifySession (update : ConfigUpdate) (item : ModifyItem) : Except Fault ConfigUpdate :=
  match ctx.pduSessions[item.pduSessionId]? with
  | none => .error .assertion
  | some sessionContext =>
    (item.qosFlowsToAddOrModify.items.foldlM (Progress.addOrModify cfg ctx update)
        { session := { id := item.pduSessionId } }).bind fun progress =>
      (item.qosFlowsToRelease.items.foldlM (releaseFlow ctx sessionContext)
          progress.session).map fun session =>
        { update with
          notAllocated := update.notAllocated ++ progress.notAllocated
          pduSessionsFailedToModify := update.pduSessionsFailedToModify ++
            progress.notAllocated.map fun _ => item.pduSessionId
          pduSessionsToModify := update.pduSessionsToModify.insertIfNew session.id session }

def calculateModifyUpdate (request : ModifyRequest) : Except Fault ConfigUpdate :=
  request.items.foldlM (modifySession cfg ctx) { initialContextCreation := false }

def releaseSession (update : ConfigUpdate) (id : PduSessionId) : Except Fault ConfigUpdate :=
  match ctx.pduSessions[id]? with
  | none => .error .outOfRange
  | some sessionContext =>
    .ok { update with
      drbToRemove := update.drbToRemove ++ sessionContext.drbs.keys
      pduSessionsToRemove := update.pduSessionsToRemove ++ [id] }

def calculateReleaseUpdate (command : ReleaseCommand) : Except Fault ConfigUpdate :=
  command.items.foldlM (releaseSession ctx) {}

inductive Request where
  | setup (request : SetupRequest)
  | modify (request : ModifyRequest)
  | release (command : ReleaseCommand)

def isValid : Request → Bool
  | .setup request => isValidSetup cfg ctx request
  | .modify request => isValidModify cfg ctx request
  | .release command => isValidRelease ctx command

def calculateUpdate : Request → Except Fault ConfigUpdate
  | .setup request => calculateSetupUpdate cfg ctx request
  | .modify request => calculateModifyUpdate cfg ctx request
  | .release command => calculateReleaseUpdate ctx command

end

section

abbrev SessionState := PduSessionContext × UpContext

def getUsedDrbIndex (drbId : DrbId) : Option Nat :=
  if 1 ≤ drbId ∧ drbId - 1 < maxNofDrbs then some (drbId - 1) else none

def applyNewDrb (state : SessionState) (drb : DrbId × DrbContext) : Except Fault SessionState :=
  match getUsedDrbIndex drb.1 with
  | none => .error .assertion
  | some index =>
    .ok ({ state.1 with drbs := state.1.drbs.insertIfNew drb.1 drb.2 }, { state.2 with
        drbMap := state.2.drbMap.insertIfNew drb.1 state.1.id
        usedDrbIds := insert index state.2.usedDrbIds
        qosFlowMap := drb.2.qosFlows.keys.foldl (fun flows qfi => flows.insertIfNew qfi drb.1)
          state.2.qosFlowMap })

def applyUpdateForNewDrbs (state : SessionState) (drbToAdd : TreeMap DrbId DrbContext) :
    Except Fault SessionState :=
  drbToAdd.toList.foldlM applyNewDrb state

def eraseFlows (flows : TreeMap QosFlowId DrbId) (drb : DrbContext) : TreeMap QosFlowId DrbId :=
  drb.qosFlows.keys.foldl (fun flows qfi => flows.erase qfi) flows

def applyRemovedDrb (state : SessionState) (drbId : DrbId) : Except Fault SessionState :=
  match state.1.drbs[drbId]? with
  | none => .error .outOfRange
  | some drb =>
    .ok ({ state.1 with drbs := state.1.drbs.erase drbId }, { state.2 with
        qosFlowMap := eraseFlows state.2.qosFlowMap drb
        drbMap := state.2.drbMap.erase drbId })

def applyUpdateForRemovedDrbs (state : SessionState) (drbToRemove : List DrbId) :
    Except Fault SessionState :=
  drbToRemove.foldlM applyRemovedDrb state

def applyAddedSession (ctx : UpContext) (session : SessionUpdate) : Except Fault UpContext :=
  (applyUpdateForNewDrbs ({ id := session.id }, ctx) session.drbToAdd).map fun state =>
    { state.2 with pduSessions := state.2.pduSessions.insertIfNew state.1.id state.1 }

/-- DRBs are added and removed, and those to modify are left as they are. -/
def applyModifiedSession (ctx : UpContext) (session : SessionUpdate) : Except Fault UpContext :=
  match ctx.pduSessions[session.id]? with
  | none => .error .assertion
  | some sessionContext =>
    (applyUpdateForNewDrbs (sessionContext, ctx) session.drbToAdd).bind fun state =>
      (applyUpdateForRemovedDrbs state session.drbToRemove).map fun state =>
        { state.2 with pduSessions := state.2.pduSessions.insert session.id state.1 }

def forgetDrb (ctx : UpContext) (drb : DrbId × DrbContext) : UpContext :=
  { ctx with qosFlowMap := eraseFlows ctx.qosFlowMap drb.2, drbMap := ctx.drbMap.erase drb.1 }

def applyRemovedSession (ctx : UpContext) (id : PduSessionId) : Except Fault UpContext :=
  match ctx.pduSessions[id]? with
  | none => .error .assertion
  | some sessionContext =>
    let ctx := sessionContext.drbs.toList.foldl forgetDrb ctx
    .ok { ctx with pduSessions := ctx.pduSessions.erase id }

def applyConfigUpdate (ctx : UpContext) (result : ConfigUpdateResult) : Except Fault UpContext :=
  (result.pduSessionsAdded.foldlM applyAddedSession ctx).bind fun ctx =>
    (result.pduSessionsModified.foldlM applyModifiedSession ctx).bind fun ctx =>
      result.pduSessionsRemoved.foldlM applyRemovedSession ctx

def ConfigUpdate.result (update : ConfigUpdate) : ConfigUpdateResult where
  pduSessionsAdded := update.pduSessionsToSetup.toList.map Prod.snd
  pduSessionsModified := update.pduSessionsToModify.toList.map Prod.snd
  pduSessionsRemoved := update.pduSessionsToRemove

end

section

variable (cfg : Config) (ctx : UpContext)

def getNofDrbs : Nat := ctx.drbMap.size

def getNofUsedDrbIds : Nat := ctx.usedDrbIds.card

def getNofStaleDrbIds : Nat := getNofUsedDrbIds ctx - getNofDrbs ctx

def getNofAvailableDrbIds : Nat := maxNofDrbs - getNofUsedDrbIds ctx

/-- The identities of the current DRBs stay used. -/
def refreshDrbIdAfterKeyChange : UpContext :=
  { ctx with usedDrbIds := (ctx.drbMap.keys.map fun drbId => drbId - 1).toFinset }

end

end ProtoRu.Drb
