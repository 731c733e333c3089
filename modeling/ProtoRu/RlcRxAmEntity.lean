import ProtoRu.CircularArithmetic
import ProtoRu.CircularMaps
import ProtoRu.RlcSegments

namespace ProtoRu.Rlc

/-- The limit of the visited SNs of a report is checked when the entity is created. -/
structure RxConfig where
  snFieldLength : SnSize
  tStatusProhibit : Int
  maxSnPerStatus : Option Nat
  maxSnPerStatus_le : ∀ limit ∈ maxSnPerStatus, 0 < limit ∧ limit ≤ snFieldLength.windowSize

namespace RxConfig

variable (cfg : RxConfig)

def mod : Nat := cfg.snFieldLength.cardinality

def amWindowSize : Nat := cfg.snFieldLength.windowSize

def maxNofSnPerStatusReport : Nat := cfg.maxSnPerStatus.getD cfg.amWindowSize

lemma mod_dvd : cfg.mod ∣ 2 ^ 32 := cfg.snFieldLength.cardinality_dvd

lemma mod_eq : cfg.mod = 2 * cfg.amWindowSize := cfg.snFieldLength.cardinality_eq

lemma amWindowSize_pos : 0 < cfg.amWindowSize := by
  have hsize : 2 * 255 < cfg.amWindowSize := cfg.snFieldLength.two_mul_range_lt_windowSize
  omega

lemma mod_pos : 0 < cfg.mod := by
  have hmod := cfg.mod_eq
  have hsize := cfg.amWindowSize_pos
  omega

lemma maxNofSnPerStatusReport_le : cfg.maxNofSnPerStatusReport ≤ cfg.amWindowSize := by
  rw [maxNofSnPerStatusReport]
  rcases hlimit : cfg.maxSnPerStatus with _ | limit
  · exact Nat.le_refl _
  · exact (cfg.maxSnPerStatus_le limit hlimit).2

end RxConfig

/-- A full SDU comes in one piece. Once it is delivered, an empty piece is left. -/
inductive SduData where
  | slice (payload : Bytes)
  | segments (segments : List Segment)

structure RxSduInfo where
  fullyReceived : Bool := false
  hasGap : Bool := false
  sduData : SduData := .slice []

def RxSduInfo.segments (info : RxSduInfo) : List Segment :=
  match info.sduData with
  | .slice _ => []
  | .segments segments => segments

def reassembleSdu (info : RxSduInfo) : Bytes :=
  match info.sduData with
  | .slice payload => payload
  | .segments segments => chainSegments segments

def updateSegmentInventory (segments : List Segment) : RxSduInfo where
  fullyReceived := (segmentInventory 0 segments).fullyReceived
  hasGap := (segmentInventory 0 segments).hasGap
  sduData := .segments segments

structure RxEntity (cfg : RxConfig) where
  rxNext : Nat := 0
  rxNextStatusTrigger : Nat := 0
  rxHighestStatus : Nat := 0
  rxNextHighest : Nat := 0
  rxWindow : CircularMap cfg.snFieldLength.windowSize RxSduInfo := .empty _ _
  reassemblyTimerRunning : Bool := false
  statusReport : StatusPdu := { ackSn := 0, nacks := [] }
  doStatus : Bool := false
  statusProhibitTimerRunning : Bool := false

structure Delivery where
  sn : Nat
  sdu : Bytes

namespace RxEntity

variable {cfg : RxConfig} (entity : RxEntity cfg)

def rxModBase (sn : Nat) : Nat := unsignedOffset cfg.mod entity.rxNext sn

def insideRxWindow (sn : Nat) : Bool := entity.rxModBase sn < cfg.amWindowSize

def validAckSn (sn : Nat) : Bool :=
  decide (0 < entity.rxModBase sn) && decide (entity.rxModBase sn ≤ cfg.amWindowSize)

def isComplete (sn : Nat) : Bool := (entity.rxWindow.get? sn).any RxSduInfo.fullyReceived

def handleFullDataSdu (header : PduHeader) (payload : Bytes) : RxEntity cfg :=
  { entity with
    rxWindow := entity.rxWindow.overwrite header.sn
      { fullyReceived := true, sduData := .slice payload } }

/-- A new SN is added to the window. A discarded segment changes nothing, but the inventory is
made. -/
def handleSegmentDataSdu (header : PduHeader) (payload : Bytes) : RxEntity cfg × Bool :=
  let info := (entity.rxWindow.get? header.sn).getD {}
  let stored := storeSegment info.segments { si := header.si, so := header.so, payload }
  ({ entity with
      rxWindow := entity.rxWindow.overwrite header.sn
        (updateSegmentInventory (stored.getD info.segments)) },
    stored.isSome)

def placePdu (header : PduHeader) (payload : Bytes) : RxEntity cfg × Bool :=
  if header.si = .fullSdu then (entity.handleFullDataSdu header payload, true)
  else entity.handleSegmentDataSdu header payload

def updateNextHighest (sn : Nat) : RxEntity cfg :=
  if entity.rxModBase entity.rxNextHighest ≤ entity.rxModBase sn then
    { entity with rxNextHighest := (sn + 1) % cfg.mod }
  else entity

/-- The first SN from the given one on that is not fully received, or RX_Next_Highest, within
`mod` rounds. -/
def firstIncomplete : Nat → Nat → Nat
  | 0, sn => sn
  | rounds + 1, sn =>
    if entity.rxModBase sn < entity.rxModBase entity.rxNextHighest ∧ entity.isComplete sn then
      firstIncomplete rounds ((sn + 1) % cfg.mod)
    else sn

def releaseData (sn : Nat) : RxEntity cfg :=
  { entity with
    rxWindow := entity.rxWindow.modify sn fun info => { info with sduData := .slice [] } }

def updateHighestStatus (sn : Nat) : RxEntity cfg :=
  if entity.rxModBase sn = entity.rxModBase entity.rxHighestStatus then
    { entity with
      rxHighestStatus := entity.firstIncomplete cfg.mod ((entity.rxHighestStatus + 1) % cfg.mod) }
  else entity

def removeSn (sn : Nat) : RxEntity cfg := { entity with rxWindow := entity.rxWindow.erase sn }

def removeLoop : Nat → RxEntity cfg → Nat → RxEntity cfg
  | 0, entity, sn => { entity with rxNext := sn }
  | rounds + 1, entity, sn =>
    if entity.rxModBase sn < entity.rxModBase entity.rxNextHighest ∧ entity.isComplete sn then
      removeLoop rounds (entity.removeSn sn) ((sn + 1) % cfg.mod)
    else { entity with rxNext := sn }

def updateNext (sn : Nat) : RxEntity cfg :=
  if entity.rxModBase sn = entity.rxModBase entity.rxNext then
    removeLoop cfg.mod entity (entity.rxNext % cfg.mod)
  else entity

def deliverSdu (sn : Nat) : RxEntity cfg × Option Delivery :=
  match entity.rxWindow.get? sn with
  | none => (entity, none)
  | some info =>
    if info.fullyReceived then
      (((entity.releaseData sn).updateHighestStatus sn).updateNext sn,
        some { sn, sdu := reassembleSdu info })
    else (entity, none)

/-- Whether the reassembly timer is to be stopped, or none when it reads an SN outside the window.
-/
def stopsReassemblyTimer : Option Bool :=
  let outdated := decide (entity.rxNextStatusTrigger = entity.rxNext) ||
    !entity.insideRxWindow entity.rxNextStatusTrigger
  if entity.rxModBase entity.rxNextStatusTrigger = entity.rxModBase (entity.rxNext + 1) then
    (entity.rxWindow.get? entity.rxNext).map fun info => !info.hasGap || outdated
  else some outdated

/-- Something is missing before RX_Next_Highest, from the given SN on. -/
def missesData (sn : Nat) : Bool :=
  decide (entity.rxModBase (sn + 1) < entity.rxModBase entity.rxNextHighest) ||
    decide (entity.rxModBase entity.rxNextHighest = entity.rxModBase (sn + 1)) &&
      (entity.rxWindow.get? sn).any RxSduInfo.hasGap

def startReassemblyTimer (sn : Nat) : RxEntity cfg :=
  if entity.missesData sn then
    { entity with
      reassemblyTimerRunning := true
      rxNextStatusTrigger := entity.rxNextHighest }
  else entity

def updateReassemblyTimer : Option (RxEntity cfg) :=
  if entity.reassemblyTimerRunning then
    entity.stopsReassemblyTimer.map fun stops =>
      if stops then
        { entity with reassemblyTimerRunning := false }.startReassemblyTimer entity.rxNext
      else entity
  else some (entity.startReassemblyTimer entity.rxNext)

def snNacks (sn : Nat) : Option (List Nack) :=
  match entity.rxWindow.get? sn with
  | none => some [{ nackSn := sn }]
  | some info =>
    if info.fullyReceived then some []
    else
      match info.sduData with
      | .slice _ => none
      | .segments segments => segmentNacks sn 0 false segments

def stopSn : Nat :=
  let limit := (entity.rxNext + cfg.maxNofSnPerStatusReport) % cfg.mod
  if entity.rxModBase limit < entity.rxModBase entity.rxHighestStatus then limit
  else entity.rxHighestStatus

def snsUpTo (sn : Nat) : List Nat :=
  (List.range (entity.rxModBase sn)).map fun i => (entity.rxNext + i) % cfg.mod

def pushSnNacks (nacks : List Nack) (sn : Nat) : Option (List Nack) :=
  (entity.snNacks sn).map fun added => added.foldl (pushNack cfg.snFieldLength) nacks

/-- The status report of the state as it is. An assertion fails for `none`. -/
def buildStatusReport : Option StatusPdu :=
  ((entity.snsUpTo entity.stopSn).foldlM entity.pushSnNacks []).map fun nacks =>
    { ackSn := entity.stopSn, nacks }

def refreshStatusReport : Option (RxEntity cfg) :=
  entity.buildStatusReport.map fun statusReport => { entity with statusReport }

def finishDataPdu (changed requested : Bool) : Option (RxEntity cfg) :=
  if changed || requested then
    entity.refreshStatusReport.map fun refreshed =>
      { refreshed with doStatus := requested || refreshed.doStatus }
  else some entity

/-- The flag tells whether the status report has to be refreshed. -/
def receiveData (header : PduHeader) (payload : Bytes) :
    Option (RxEntity cfg × Bool × Option Delivery) :=
  if !entity.insideRxWindow header.sn || entity.isComplete header.sn then
    some (entity, false, none)
  else
    let placed := entity.placePdu header payload
    let advanced := (placed.1.updateNextHighest header.sn).deliverSdu header.sn
    advanced.1.updateReassemblyTimer.map fun timed => (timed, placed.2, advanced.2)

def handleDataPdu (pdu : Bytes) : Option (RxEntity cfg × Option Delivery) :=
  match readDataPduHeader cfg.snFieldLength pdu with
  | none => some (entity, none)
  | some header =>
    let headerLen := header.packedSize cfg.snFieldLength
    if pdu.length ≤ headerLen then some (entity, none)
    else
      (entity.receiveData header (pdu.drop headerLen)).bind fun (received, changed, delivery) =>
        (received.finishDataPdu changed header.p).map fun finished => (finished, delivery)

/-- Control PDUs are for the transmitting side. -/
def handlePdu (pdu : Bytes) : Option (RxEntity cfg × Option Delivery) :=
  match pdu with
  | [] => some (entity, none)
  | first :: _ =>
    if first.toNat >>> 7 &&& 0x01 = 0 then some (entity, none) else entity.handleDataPdu pdu

/-- The handler can be executed long after the timer has expired. -/
def onExpiredReassemblyTimer : Option (RxEntity cfg) :=
  if entity.reassemblyTimerRunning || !entity.validAckSn entity.rxNextStatusTrigger then
    some entity
  else
    let snUpd := entity.firstIncomplete cfg.mod entity.rxNextStatusTrigger
    if entity.validAckSn snUpd then
      let updated := { entity with rxHighestStatus := snUpd }
      (updated.startReassemblyTimer snUpd).refreshStatusReport.map fun refreshed =>
        { refreshed with doStatus := true }
    else none

def statusReportRequired : Bool := entity.doStatus && !entity.statusProhibitTimerRunning

def getStatusPdu : RxEntity cfg × StatusPdu :=
  ({ entity with
      doStatus := false
      statusProhibitTimerRunning :=
        decide (0 < cfg.tStatusProhibit) || entity.statusProhibitTimerRunning },
    entity.statusReport)

end RxEntity

inductive RxEvent where
  | handlePdu (pdu : Bytes)
  | stopReassemblyTimer
  | expiredReassemblyTimer
  | expiredStatusProhibitTimer
  | getStatusPdu

/-- An entity with the count of SNs before RX_Next and the SDUs delivered under their counts. -/
structure RxHistory (cfg : RxConfig) where
  entity : RxEntity cfg := {}
  nofDone : Nat := 0
  delivered : List (Nat × Bytes) := []

namespace RxHistory

variable {cfg : RxConfig} (history : RxHistory cfg)

def countOf (sn : Nat) : Nat := history.nofDone + history.entity.rxModBase sn

def follow (entity : RxEntity cfg) (delivery : Option Delivery) : RxHistory cfg where
  entity
  nofDone := history.countOf entity.rxNext
  delivered := history.delivered ++
    delivery.toList.map fun delivery => (history.countOf delivery.sn, delivery.sdu)

def step : RxEvent → Option (RxHistory cfg)
  | .handlePdu pdu =>
    (history.entity.handlePdu pdu).map fun (entity, delivery) => history.follow entity delivery
  | .stopReassemblyTimer =>
    some (history.follow { history.entity with reassemblyTimerRunning := false } none)
  | .expiredReassemblyTimer =>
    history.entity.onExpiredReassemblyTimer.map fun entity => history.follow entity none
  | .expiredStatusProhibitTimer =>
    some (history.follow { history.entity with statusProhibitTimerRunning := false } none)
  | .getStatusPdu => some (history.follow history.entity.getStatusPdu.1 none)

end RxHistory

end ProtoRu.Rlc
