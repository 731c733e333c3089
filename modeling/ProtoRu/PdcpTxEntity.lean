import ProtoRu.CircularArithmetic
import ProtoRu.CircularMaps
import ProtoRu.PdcpCounts

namespace ProtoRu.PdcpTx

open PdcpCounts

inductive DiscardTimer where
  | ms10 | ms20 | ms30 | ms40 | ms50 | ms60 | ms75 | ms100 | ms150 | ms200 | ms250 | ms300
  | ms500 | ms750 | ms1500 | infinity

def DiscardTimer.duration : DiscardTimer → Option Nat
  | ms10 => some 10
  | ms20 => some 20
  | ms30 => some 30
  | ms40 => some 40
  | ms50 => some 50
  | ms60 => some 60
  | ms75 => some 75
  | ms100 => some 100
  | ms150 => some 150
  | ms200 => some 200
  | ms250 => some 250
  | ms300 => some 300
  | ms500 => some 500
  | ms750 => some 750
  | ms1500 => some 1500
  | infinity => none

structure TxConfig where
  rbType : RbType
  rlcMode : RlcMode
  snSize : SnSize
  discardTimer : Option DiscardTimer
  integrityEnabled : Bool
  maxCountHard : Nat
  testMode : Bool
  maxCountHard_lt : maxCountHard < 2 ^ 32

namespace TxConfig

variable (cfg : TxConfig)

def duration : Option Nat := cfg.discardTimer.bind DiscardTimer.duration

/-- AM bearers with a discard timer keep a copy of the SDU for retransmissions. -/
def keepsCopy : Bool := cfg.discardTimer.isSome && decide (cfg.rlcMode = .am)

def macSize : Nat := if cfg.integrityEnabled then 4 else 0

def dataTrailerSize : Nat := if cfg.rbType = .srb then 4 else cfg.macSize

def getPduSize (sdu : Bytes) : Nat :=
  cfg.snSize.dataHeaderSize + sdu.length + cfg.macSize

end TxConfig

inductive Fault where
  | delivery (count : Nat)
  | oldest (count : Nat)

/-- A PDU on its way to a crypto worker, with the security configuration it was handed over in. -/
structure Task where
  isRetx : Bool
  retxId : Nat
  count : Nat
  buf : Bytes
  configured : Nat

structure Pdu where
  key : Nat
  task : Task

structure Element where
  sdu : Bytes
  tickPointOfArrival : Nat
  sduLength : Nat
  pdu : Option Pdu := none

/-- A PDU given to the lower layers, with the security configuration in use then. -/
structure Submission where
  count : Nat
  pdu : Pdu
  isRetx : Bool
  configured : Nat

structure TimerDiscard where
  count : Nat
  arrival : Nat
  time : Nat

/-- The entity, the clock, the tasks of the crypto workers and the PDUs on their way back.
Configurations, rounds and ticks are counted without wrap. -/
structure TxEntity (cfg : TxConfig) where
  txNext : Nat := 0
  txTransCrypto : Nat := 0
  txReordCrypto : Nat := 0
  txTrans : Nat := 0
  txNextAck : Nat := 0
  retransmitId : Nat := 0
  txWindow : CircularMap cfg.snSize.windowSize Element := .empty _ _
  sduBytes : Nat := 0
  nofSdus : Nat := 0
  desiredBufferSize : Nat := 0
  now : Nat := 0
  discardDeadline : Option Nat := none
  reorderingRunning : Bool := false
  key : Nat := 0
  tasks : List Task := []
  protectedPdus : List Pdu := []
  submitted : List Submission := []
  timerDiscards : List TimerDiscard := []

inductive EarlyDropReason where
  | noDrop
  | zeroDbs
  | fullRlcQueue
  | fullWindow
deriving DecidableEq

namespace TxEntity

variable {cfg : TxConfig} (e : TxEntity cfg)

def hasSn (count : Nat) : Bool := e.txWindow.contains count

/-- A timer runs for at least one tick. -/
def runDiscardTimer (timeout : Nat) : TxEntity cfg :=
  { e with discardDeadline := some (e.now + max timeout 1) }

def getPduBytes : Nat :=
  e.sduBytes + e.nofSdus * (cfg.snSize.dataHeaderSize + cfg.dataTrailerSize)

def checkEarlyDrop (sdu : Bytes) : EarlyDropReason :=
  if e.desiredBufferSize = 0 then .zeroDbs
  else if e.desiredBufferSize < e.getPduBytes + cfg.getPduSize sdu then .fullRlcQueue
  else if cfg.snSize.windowSize - 1 ≤ e.txNext - e.txNextAck then .fullWindow
  else .noDrop

def startDiscardTimer : TxEntity cfg :=
  match cfg.duration with
  | some ms => if e.discardDeadline.isNone then e.runDiscardTimer ms else e
  | none => e

/-- The window asserts that the place of the SDU is free. Here one that is still in it is
overwritten. -/
def addSdu (sdu : Bytes) : TxEntity cfg :=
  { e with
    txWindow := e.txWindow.overwrite e.txNext
      { sdu := if cfg.keepsCopy then sdu else []
        tickPointOfArrival := e.now
        sduLength := sdu.length }
    sduBytes := e.sduBytes + sdu.length
    nofSdus := e.nofSdus + 1 }

def submitTask (isRetx : Bool) (count : Nat) (payload : Bytes) : TxEntity cfg :=
  { e with
    tasks := e.tasks ++
      [{ isRetx := isRetx
         retxId := e.retransmitId
         count := count
         buf := dataPduHeader cfg.rbType cfg.snSize (cfg.snSize.computeSn count) ++ payload
         configured := e.key }] }

/-- A new SDU. When copying, header compression or the header's space fails it keeps its place,
without a payload to protect. -/
def handleSdu (sdu : Bytes) (copied : Bool) (payload : Option Bytes) : TxEntity cfg :=
  if cfg.rbType = .drb ∧ e.checkEarlyDrop sdu ≠ .noDrop then e
  else if cfg.maxCountHard ≤ e.txNext then e
  else if cfg.keepsCopy ∧ copied = false then e.startDiscardTimer
  else
    let added := e.startDiscardTimer.addSdu sdu
    payload.elim added fun payload =>
      { added.submitTask false added.txNext payload with txNext := added.txNext + 1 }

def removeSdu (count : Nat) : TxEntity cfg :=
  { e with
    txWindow := e.txWindow.erase count
    sduBytes := e.sduBytes - (e.txWindow.get? count).elim 0 Element.sduLength
    nofSdus := e.nofSdus - if e.hasSn count then 1 else 0 }

def raiseTxTrans : TxEntity cfg := { e with txTrans := max e.txTrans e.txNextAck }

/-- Removes the oldest SDUs, whether present or not. -/
def removeOldest : Nat → TxEntity cfg → TxEntity cfg
  | 0, e => e
  | rounds + 1, e =>
    removeOldest rounds { e.removeSdu e.txNextAck with txNextAck := e.txNextAck + 1 }

/-- Restart the discard timer for the oldest SDU, whose lookup is not guarded. -/
def rearmDiscardTimer : Except Fault (TxEntity cfg) :=
  match cfg.duration with
  | none => .ok e
  | some ms =>
    if e.txNextAck = e.txNext then .ok e
    else
      match e.txWindow.get? e.txNextAck with
      | none => .error (.oldest e.txNextAck)
      | some elem =>
        .ok (e.runDiscardTimer
          (unsignedOffset (2 ^ 32) (e.now % 2 ^ 32) (elem.tickPointOfArrival + ms)))

def stopDiscardTimer (highestCount : Nat) : Except Fault (TxEntity cfg) :=
  if cfg.discardTimer = none then .ok e
  else if highestCount < e.txNextAck ∨ e.txNext ≤ highestCount then .ok e
  else if e.hasSn e.txNextAck = false then .ok e
  else
    (removeOldest (highestCount + 1 - e.txNextAck)
      { e with discardDeadline := none }).raiseTxTrans.rearmDiscardTimer

/-- The lower edge is TX_NEXT_ACK if there is a discard timer, and TX_TRANS otherwise. -/
def notificationCountEstimation (notificationSn : Nat) : Nat :=
  estimateCount cfg.snSize (if cfg.discardTimer.isSome then e.txNextAck else e.txTrans)
    notificationSn

def handleTransmitNotification (notifSn : Nat) : Except Fault (TxEntity cfg) :=
  let notifCount := e.notificationCountEstimation notifSn
  if cfg.snSize.cardinality ≤ notifSn then .ok e
  else if e.txTransCrypto ≤ notifCount then .ok e
  else if notifCount < e.txTrans then .ok e
  else if e.txNext ≤ notifCount then .ok e
  else if cfg.discardTimer.isSome ∧ cfg.rlcMode = .um then
    ({ e with txTrans := notifCount + 1 } : TxEntity cfg).stopDiscardTimer notifCount
  else .ok { e with txTrans := notifCount + 1 }

def handleDeliveryNotification (notifSn : Nat) : Except Fault (TxEntity cfg) :=
  let notifCount := e.notificationCountEstimation notifSn
  if cfg.snSize.cardinality ≤ notifSn then .ok e
  else if e.txNext ≤ notifCount then .ok e
  else if cfg.keepsCopy then e.stopDiscardTimer notifCount
  else .ok e

/-- Notifications of retransmitted PDUs are for AM DRBs only. -/
def ifAmDrb (handle : TxEntity cfg → Except Fault (TxEntity cfg)) : Except Fault (TxEntity cfg) :=
  if cfg.rbType = .srb then .ok e
  else if cfg.rlcMode = .um then .ok e
  else handle e

def writeDataPdu (count : Nat) (pdu : Pdu) (isRetx : Bool) : TxEntity cfg :=
  { e with
    txWindow := e.txWindow.modify count fun elem => { elem with pdu := none }
    submitted := e.submitted ++ [⟨count, pdu, isRetx, e.key⟩]
    txTransCrypto := count + 1 }

/-- Deliver PDUs from TX_TRANS_CRYPTO on, up to the first one not protected yet. The lookup is not
guarded. -/
def deliverInOrder (isRetx : Bool) : Nat → TxEntity cfg → Except Fault (TxEntity cfg)
  | 0, e => .ok e
  | rounds + 1, e =>
    match e.txWindow.get? e.txTransCrypto with
    | none => .error (.delivery e.txTransCrypto)
    | some elem =>
      match elem.pdu with
      | none => .ok e
      | some pdu =>
        let delivered := e.writeDataPdu e.txTransCrypto pdu isRetx
        if cfg.testMode then
          (delivered.handleTransmitNotification
            (cfg.snSize.computeSn e.txTransCrypto)).bind (deliverInOrder isRetx rounds)
        else deliverInOrder isRetx rounds delivered

def storePdu (pdu : Pdu) : TxEntity cfg :=
  { e with
    txWindow := e.txWindow.modify pdu.task.count fun elem => { elem with pdu := some pdu } }

def stopReordering : TxEntity cfg :=
  if e.reorderingRunning ∧ e.txReordCrypto ≤ e.txTransCrypto then
    { e with reorderingRunning := false }
  else e

def startReordering : TxEntity cfg :=
  if e.reorderingRunning = false ∧ e.txTransCrypto < e.txNext then
    { e with txReordCrypto := e.txNext, reorderingRunning := true }
  else e

def applyReordering (pdu : Pdu) : Except Fault (TxEntity cfg) :=
  if pdu.task.retxId % 2 ^ 16 ≠ e.retransmitId % 2 ^ 16 then .ok e
  else if pdu.task.count < e.txNextAck then .ok e
  else if pdu.task.count < e.txTrans then .ok e
  else if e.hasSn pdu.task.count = false then .ok e
  else
    ((e.storePdu pdu).deliverInOrder pdu.task.isRetx (e.txNext - e.txTransCrypto)).map
      fun delivered => delivered.stopReordering.startReordering

/-- One COUNT of the catch-up with TX_REORD_CRYPTO, whose lookup is guarded. -/
def passCount : TxEntity cfg :=
  match (e.txWindow.get? e.txTransCrypto).bind Element.pdu with
  | some pdu => e.writeDataPdu e.txTransCrypto pdu false
  | none => { e with txTransCrypto := e.txTransCrypto + 1 }

def passCounts : Nat → TxEntity cfg → TxEntity cfg
  | 0, e => e
  | rounds + 1, e =>
    passCounts rounds
      { e.passCount with txTransCrypto := e.passCount.txTransCrypto % 2 ^ 32 }

/-- The catch-up ends at TX_REORD_CRYPTO, by wrapping around if TX_TRANS_CRYPTO is ahead of it. -/
def cryptoReorderingTimeout : Except Fault (TxEntity cfg) :=
  let passed := passCounts (unsignedOffset (2 ^ 32) (e.txTransCrypto % 2 ^ 32) e.txReordCrypto)
    { e with reorderingRunning := false }
  (passed.deliverInOrder false (passed.txNext - passed.txTransCrypto)).map startReordering

def skipMissing : Nat → TxEntity cfg → TxEntity cfg
  | 0, e => e
  | rounds + 1, e =>
    if e.hasSn e.txNextAck then e
    else skipMissing rounds { e with txNextAck := e.txNextAck + 1 }

def discardPdu (count : Nat) : TxEntity cfg :=
  if cfg.discardTimer = none then e
  else if count < e.txNextAck ∨ e.txNext ≤ count then e
  else if e.hasSn count = false then e
  else (skipMissing (e.txNext - e.txNextAck) (e.removeSdu count)).raiseTxTrans

def discardFirst : TxEntity cfg :=
  { e.discardPdu e.txNextAck with
    timerDiscards := e.timerDiscards ++
      (e.txWindow.get? e.txNextAck).toList.map fun elem =>
        TimerDiscard.mk e.txNextAck elem.tickPointOfArrival e.now }

/-- The discard timer's callback: discard SDUs while they arrived in the same tick as the oldest.
-/
def discardOldest (oldestTimepoint : Nat) : Nat → TxEntity cfg → TxEntity cfg
  | 0, e => e
  | rounds + 1, e =>
    let discarded := e.discardFirst
    match discarded.txWindow.get? discarded.txNextAck with
    | none => discarded
    | some elem =>
      if elem.tickPointOfArrival % 2 ^ 32 ≠ oldestTimepoint % 2 ^ 32 then
        discarded.runDiscardTimer (unsignedOffset (2 ^ 32) (oldestTimepoint % 2 ^ 32)
          elem.tickPointOfArrival)
      else if discarded.txNextAck = discarded.txNext then discarded
      else discardOldest oldestTimepoint rounds discarded

def discardCallback : TxEntity cfg :=
  let expired : TxEntity cfg := { e with discardDeadline := none }
  match e.txWindow.get? e.txNextAck with
  | none => expired
  | some elem => discardOldest elem.tickPointOfArrival (e.txNext - e.txNextAck) expired

def bits (bytes : Bytes) : List Bool :=
  bytes.flatMap fun byte => (List.range 8).map fun i => byte.toNat.testBit (7 - i)

/-- The value of the first bits, of which those beyond the end are read as zeros. -/
def unpackBits (width : Nat) (bits : List Bool) : Nat :=
  (List.range width).foldl (fun value i => 2 * value + if bits.getD i false then 1 else 0) 0

/-- Discard what the bitmap marks as received. The COUNT of the first bit is FMC + 1. -/
def discardReceived : TxEntity cfg → Nat → List Bool → TxEntity cfg
  | e, _, [] => e
  | e, fmc, bit :: rest =>
    let next := (fmc + 1) % 2 ^ 32
    discardReceived (if bit then e.discardPdu next else e) next rest

def handleStatusReport (status : Bytes) : TxEntity cfg :=
  let header := bits status
  if unpackBits 1 header ≠ 0 then e
  else if unpackBits 3 (header.drop 1) ≠ 0 then e
  else if unpackBits 4 (header.drop 4) ≠ 0 then e
  else
    let fmc := unpackBits 32 (header.drop 8)
    discardReceived
      ((List.range' e.txNextAck (fmc - e.txNextAck)).foldl discardPdu e) fmc (header.drop 40)

/-- New tasks for the SDUs of the window, up to the first one that cannot be prepared. -/
def retransmitFrom (prepare : Nat → Bytes → Option Bytes) :
    Nat → Nat → TxEntity cfg → TxEntity cfg
  | 0, _, e => e
  | rounds + 1, count, e =>
    match e.txWindow.get? count with
    | none => retransmitFrom prepare rounds (count + 1) e
    | some elem =>
      (prepare count elem.sdu).elim e fun payload =>
        retransmitFrom prepare rounds (count + 1) (e.submitTask true count payload)

def retransmitAllPdus (prepare : Nat → Bytes → Option Bytes) : TxEntity cfg :=
  if cfg.keepsCopy then
    retransmitFrom prepare (e.txNext - e.txNextAck) e.txNextAck
      { e with
        txTrans := e.txNextAck
        txTransCrypto := e.txNextAck
        retransmitId := e.retransmitId + 1 }
  else e

def reset : TxEntity cfg :=
  { e with
    txNext := 0
    txTransCrypto := 0
    txReordCrypto := 0
    txTrans := 0
    txNextAck := 0
    txWindow := .empty _ _
    sduBytes := 0
    nofSdus := 0 }

def configureSecurity : TxEntity cfg := { e with key := e.key + 1 }

def reestablish (prepare : Nat → Bytes → Option Bytes) : TxEntity cfg :=
  let emptied := if cfg.rbType = .srb ∨ cfg.rlcMode = .um then e.reset else e
  if cfg.rlcMode = .am then emptied.configureSecurity.retransmitAllPdus prepare
  else emptied.configureSecurity

/-- A crypto worker protects a PDU with the keys it finds. -/
def applySecurity (task : Task) : TxEntity cfg :=
  { e with protectedPdus := e.protectedPdus ++ [⟨e.key, task⟩] }

end TxEntity

/-- Tasks and protected PDUs are named by their place in their list, and may be lost there. -/
inductive Event where
  | sdu (sdu : Bytes) (copied : Bool) (payload : Option Bytes)
  | applySecurity (i : Nat)
  | dropTask (i : Nat)
  | applyReordering (i : Nat)
  | dropPdu (i : Nat)
  | cryptoReorderingTimeout
  | tick
  | discardCallback
  | transmitNotification (notifSn : Nat)
  | deliveryNotification (notifSn : Nat)
  | retransmitNotification (notifSn : Nat)
  | deliveryRetransmittedNotification (notifSn : Nat)
  | desiredBufferSize (desired : Nat)
  | statusReport (status : Bytes)
  | dataRecovery (prepare : Nat → Bytes → Option Bytes)
  | reestablish (prepare : Nat → Bytes → Option Bytes)

/-- Timer callbacks are events of their own, some time after the expiry of the timer. -/
def step {cfg : TxConfig} (e : TxEntity cfg) : Event → Except Fault (TxEntity cfg)
  | .sdu sdu copied payload => .ok (e.handleSdu sdu copied payload)
  | .applySecurity i =>
    .ok (e.tasks[i]?.elim e fun task =>
      ({ e with tasks := e.tasks.eraseIdx i } : TxEntity cfg).applySecurity task)
  | .dropTask i => .ok { e with tasks := e.tasks.eraseIdx i }
  | .applyReordering i =>
    e.protectedPdus[i]?.elim (.ok e) fun pdu =>
      ({ e with protectedPdus := e.protectedPdus.eraseIdx i } : TxEntity cfg).applyReordering pdu
  | .dropPdu i => .ok { e with protectedPdus := e.protectedPdus.eraseIdx i }
  | .cryptoReorderingTimeout => if e.reorderingRunning then e.cryptoReorderingTimeout else .ok e
  | .tick => .ok { e with now := e.now + 1 }
  | .discardCallback =>
    .ok (if ∃ deadline ∈ e.discardDeadline, deadline ≤ e.now then e.discardCallback else e)
  | .transmitNotification notifSn => e.handleTransmitNotification notifSn
  | .deliveryNotification notifSn => e.handleDeliveryNotification notifSn
  | .retransmitNotification notifSn => e.ifAmDrb (·.handleTransmitNotification notifSn)
  | .deliveryRetransmittedNotification notifSn =>
    e.ifAmDrb (·.handleDeliveryNotification notifSn)
  | .desiredBufferSize desired => .ok { e with desiredBufferSize := desired }
  | .statusReport status => .ok (e.handleStatusReport status)
  | .dataRecovery prepare => .ok (if cfg.rbType = .drb then e.retransmitAllPdus prepare else e)
  | .reestablish prepare => .ok (e.reestablish prepare)

def amDrb : TxConfig where
  rbType := .drb
  rlcMode := .am
  snSize := .size12bits
  discardTimer := some .ms10
  integrityEnabled := false
  maxCountHard := 0xfffffffe
  testMode := false
  maxCountHard_lt := by decide

end ProtoRu.PdcpTx
