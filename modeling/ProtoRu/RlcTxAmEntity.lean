import ProtoRu.CircularArithmetic
import ProtoRu.CircularMaps
import ProtoRu.RlcAmPdus

namespace ProtoRu.Rlc

structure RlcSdu where
  buf : Bytes
  pdcpSn : Option Nat

inductive SlotState where
  | free
  | discarded
  | held (pdcpSn : Nat)
deriving DecidableEq

/-- The SDUs, the state and size of each slot of PDCP SNs, and the totals over SDUs not discarded.
A discarded SDU stays in the queue until it reaches the front. -/
structure SduQueue where
  queue : List RlcSdu := []
  sduStates : Nat → SlotState := fun _ => .free
  sduSizes : Nat → Nat := fun _ => 0
  nSdus : Nat := 0
  nBytes : Nat := 0

namespace SduQueue

variable (capacity : Nat) (q : SduQueue)

def isEmpty : Bool := q.queue.isEmpty

def check (sdu : RlcSdu) : Bool :=
  sdu.pdcpSn.elim true fun pdcpSn => q.sduStates (pdcpSn % capacity) = .held pdcpSn

def setState (pdcpSn : Nat) (state : SlotState) : SduQueue :=
  { q with sduStates := Function.update q.sduStates (pdcpSn % capacity) state }

def stateAdd (sduSize : Nat) : SduQueue :=
  { q with nSdus := q.nSdus + 1, nBytes := q.nBytes + sduSize }

def stateSub (sduSize : Nat) : SduQueue :=
  { q with nSdus := q.nSdus - 1, nBytes := q.nBytes - sduSize }

def allocate (sduSize pdcpSn : Nat) : SduQueue :=
  { q.setState capacity pdcpSn (.held pdcpSn) with
    sduSizes := Function.update q.sduSizes (pdcpSn % capacity) sduSize }

def push (sdu : RlcSdu) : SduQueue :=
  { q with queue := q.queue ++ [sdu] }

def slotIsFree (sdu : RlcSdu) : Bool :=
  sdu.pdcpSn.elim true fun pdcpSn => q.sduStates (pdcpSn % capacity) = .free

/-- An SDU is refused at the byte limit, when its slot is in use and when the queue is
full. -/
def write (byteLimit : Nat) (sdu : RlcSdu) : Option SduQueue :=
  if byteLimit ≤ sdu.buf.length + q.nBytes ∨ ¬q.slotIsFree capacity sdu ∨
      capacity ≤ q.queue.length then none
  else
    let allocated := sdu.pdcpSn.elim q (q.allocate capacity sdu.buf.length)
    some ((allocated.push sdu).stateAdd sdu.buf.length)

def tryDiscard (pdcpSn : Nat) : Option SduQueue :=
  if q.sduStates (pdcpSn % capacity) = .held pdcpSn then
    some ((q.setState capacity pdcpSn .discarded).stateSub (q.sduSizes (pdcpSn % capacity)))
  else none

/-- The totals of a discarded SDU have been updated when it was discarded. -/
def checkAndRelease (pdcpSn : Nat) : SduQueue :=
  let released := q.setState capacity pdcpSn .free
  if q.sduStates (pdcpSn % capacity) = .discarded then released
  else released.stateSub (q.sduSizes (pdcpSn % capacity))

def release (sdu : RlcSdu) : SduQueue :=
  sdu.pdcpSn.elim (q.stateSub sdu.buf.length) (q.checkAndRelease capacity)

def readLoop : List RlcSdu → SduQueue → Option RlcSdu × SduQueue
  | [], q => (none, { q with queue := [] })
  | sdu :: rest, q =>
    let released := { q.release capacity sdu with queue := rest }
    if q.check capacity sdu then (some sdu, released) else readLoop rest released

def read : Option RlcSdu × SduQueue := readLoop capacity q.queue q

def frontLoop : List RlcSdu → SduQueue → SduQueue
  | [], q => { q with queue := [] }
  | sdu :: rest, q =>
    if q.check capacity sdu then { q with queue := sdu :: rest }
    else frontLoop rest { q.release capacity sdu with queue := rest }

def front : SduQueue := frontLoop capacity q.queue q

end SduQueue

structure TxConfig where
  snFieldLength : SnSize
  tPollRetx : Int
  maxRetxThresh : Nat
  pollPdu : Int
  pollByte : Int
  queueSize : Nat
  queueSizeBytes : Nat
  maxWindow : Nat

namespace TxConfig

variable (cfg : TxConfig)

def mod : Nat := cfg.snFieldLength.cardinality

def amWindowSize : Nat := cfg.snFieldLength.windowSize

def headMinSize : Nat := cfg.snFieldLength.pduHeaderMinSize

def headMaxSize : Nat := cfg.snFieldLength.pduHeaderMaxSize

end TxConfig

/-- An SDU in the window, with the offset of its first byte not sent and its retransmissions. -/
structure SduInfo where
  sdu : Bytes
  nextSo : Nat := 0
  retxCount : Option Nat := none

structure Retx where
  sn : Nat
  so : Nat
  length : Nat

structure TxEntity (cfg : TxConfig) where
  txNextAck : Nat := 0
  txNext : Nat := 0
  pollSn : Nat := 0
  pduWithoutPoll : Nat := 0
  byteWithoutPoll : Nat := 0
  sduQueue : SduQueue := {}
  snUnderSegmentation : Option Nat := none
  retxQueue : List Retx := []
  retxSn : Option Nat := none
  txWindow : CircularMap cfg.snFieldLength.windowSize SduInfo := .empty _ _
  pollRetransmitTimerRunning : Bool := false
  maxRetxReached : Bool := false

/-- What a pull returns. A header whose SDU has no bytes is written, but not sent. -/
inductive Pulled where
  | nothing
  | statusPdu (pdu : Bytes)
  | dataPdu (isRetx : Bool) (header : PduHeader) (payload : Bytes)
  | noPayload (isRetx : Bool) (header : PduHeader)
deriving DecidableEq

def slice (bytes : Bytes) (offset length : Nat) : Bytes :=
  (bytes.drop offset).take length

namespace TxEntity

variable {cfg : TxConfig} (entity : TxEntity cfg)

def txModBase (sn : Nat) : Nat := unsignedOffset cfg.mod entity.txNextAck sn

def insideTxWindow (sn : Nat) : Bool := entity.txModBase sn < cfg.amWindowSize

def isTxWindowFull : Bool :=
  entity.txWindow.full || (cfg.maxWindow != 0 && cfg.maxWindow < entity.txModBase entity.txNext)

def validAckSn (sn : Nat) : Bool :=
  decide (0 < entity.txModBase sn) && decide (entity.txModBase sn ≤ cfg.amWindowSize)

def buffersEmpty : Bool :=
  entity.sduQueue.isEmpty && entity.retxQueue.isEmpty && entity.snUnderSegmentation.isNone

def countPdu (isRetx : Bool) (payloadSize : Nat) : TxEntity cfg :=
  if isRetx then entity
  else
    { entity with
      pduWithoutPoll := entity.pduWithoutPoll + 1
      byteWithoutPoll := entity.byteWithoutPoll + payloadSize }

def pollDue : Bool :=
  decide (0 < cfg.pollPdu ∧ cfg.pollPdu ≤ entity.pduWithoutPoll) ||
    decide (0 < cfg.pollByte ∧ cfg.pollByte ≤ entity.byteWithoutPoll)

/-- The counters are those that count the PDU in question. -/
def includesPoll (isRetx : Bool) : Bool :=
  (!isRetx && entity.pollDue) || entity.buffersEmpty || entity.isTxWindowFull

def sendPoll (sn : Nat) (isRetx : Bool) : TxEntity cfg :=
  { entity with
    pduWithoutPoll := 0
    byteWithoutPoll := 0
    pollSn := if isRetx then entity.pollSn else sn
    pollRetransmitTimerRunning := decide (0 < cfg.tPollRetx) || entity.pollRetransmitTimerRunning }

def getPollingBit (sn : Nat) (isRetx : Bool) (payloadSize : Nat) : TxEntity cfg × Bool :=
  let counted := entity.countPdu isRetx payloadSize
  if counted.includesPoll isRetx then (counted.sendPoll sn isRetx, true) else (counted, false)

def segment (snUnderSegmentation : Option Nat) : TxEntity cfg :=
  { entity with snUnderSegmentation }

def setSduQueue (sduQueue : SduQueue) : TxEntity cfg := { entity with sduQueue }

def setRetxQueue (retxQueue : List Retx) : TxEntity cfg := { entity with retxQueue }

def updateNextSo (sn payloadLen : Nat) : TxEntity cfg :=
  { entity with
    txWindow := entity.txWindow.modify sn fun info =>
      { info with nextSo := info.nextSo + payloadLen } }

def advanceTxNext : TxEntity cfg :=
  { entity with txNext := (entity.txNext + 1) % cfg.mod }

def buildFirstSduSegment (grant : Nat) (info : SduInfo) : TxEntity cfg × Pulled :=
  let payloadLen := grant - cfg.headMinSize
  let polled :=
    (entity.segment (some entity.txNext)).getPollingBit entity.txNext false payloadLen
  let header : PduHeader :=
    { p := polled.2, si := .firstSegment, sn := entity.txNext, so := info.nextSo % 2 ^ 16 }
  (polled.1.updateNextSo entity.txNext payloadLen,
    .dataPdu false header (slice info.sdu header.so payloadLen))

/-- The size passed on for the poll is that of a buffer the SDU has been moved out of. -/
def buildFullSdu (sdu : Bytes) : TxEntity cfg × Pulled :=
  let polled := entity.getPollingBit entity.txNext false 0
  let header : PduHeader := { p := polled.2, si := .fullSdu, sn := entity.txNext, so := 0 }
  if sdu.isEmpty then (polled.1, .noPayload false header)
  else (polled.1.advanceTxNext, .dataPdu false header sdu)

/-- Builds with assertions stop when the SN is in the window already, others overwrite it. -/
def addSn (sdu : Bytes) : TxEntity cfg :=
  { entity with txWindow := entity.txWindow.overwrite entity.txNext { sdu } }

def buildNewPdu (grant : Nat) : TxEntity cfg × Pulled :=
  if grant ≤ cfg.headMinSize ∨ entity.isTxWindowFull then (entity, .nothing)
  else
    match entity.sduQueue.read cfg.queueSize with
    | (none, sduQueue) => (entity.setSduQueue sduQueue, .nothing)
    | (some sdu, sduQueue) =>
      let held := (entity.setSduQueue sduQueue).addSn sdu.buf
      if grant < sdu.buf.length + cfg.headMinSize then
        held.buildFirstSduSegment grant { sdu := sdu.buf }
      else held.buildFullSdu sdu.buf

def buildLastSegment (sn : Nat) (info : SduInfo) : TxEntity cfg × Pulled :=
  let payloadLen := info.sdu.length - info.nextSo
  let polled := (entity.segment none).getPollingBit entity.txNext false payloadLen
  let header : PduHeader :=
    { p := polled.2, si := .lastSegment, sn := entity.txNext, so := info.nextSo % 2 ^ 16 }
  ((polled.1.updateNextSo sn payloadLen).advanceTxNext,
    .dataPdu false header (slice info.sdu header.so payloadLen))

def buildMiddleSegment (grant sn : Nat) (info : SduInfo) : TxEntity cfg × Pulled :=
  let payloadLen := grant - cfg.headMaxSize
  let polled := entity.getPollingBit entity.txNext false payloadLen
  let header : PduHeader :=
    { p := polled.2, si := .middleSegment, sn := entity.txNext, so := info.nextSo % 2 ^ 16 }
  (polled.1.updateNextSo sn payloadLen, .dataPdu false header (slice info.sdu header.so payloadLen))

def buildContinuedSduSegment (grant sn : Nat) (info : SduInfo) : TxEntity cfg × Pulled :=
  if info.nextSo = 0 ∨ info.sdu.length ≤ info.nextSo then
    (entity.segment none, .nothing)
  else if grant ≤ cfg.headMaxSize then (entity, .nothing)
  else if grant < info.sdu.length - info.nextSo + cfg.headMaxSize then
    entity.buildMiddleSegment grant sn info
  else entity.buildLastSegment sn info

def frontRetx : List Retx → Option (Retx × SduInfo × List Retx)
  | [] => none
  | retx :: rest =>
    match entity.txWindow.get? retx.sn with
    | some info => some (retx, info, rest)
    | none => frontRetx rest

def retxExpectedHdrLen (cfg : TxConfig) (retx : Retx) : Nat :=
  if retx.so = 0 then cfg.headMinSize else cfg.headMaxSize

def retxSi (retx : Retx) (sduComplete : Bool) : SiField :=
  if retx.so = 0 then
    if sduComplete then .fullSdu else .firstSegment
  else if sduComplete then .lastSegment else .middleSegment

def consumeRetx (retx : Retx) (info : SduInfo) (rest : List Retx) (payloadLen : Nat) :
    TxEntity cfg :=
  if payloadLen = retx.length then
    { entity with
      retxQueue := rest
      maxRetxReached :=
        entity.maxRetxReached || decide (info.retxCount = some cfg.maxRetxThresh) }
  else
    let remainder : Retx :=
      { retx with so := retx.so + payloadLen, length := retx.length - payloadLen }
    entity.setRetxQueue (remainder :: rest)

def sendRetx (grant : Nat) (retx : Retx) (info : SduInfo) (rest : List Retx) :
    TxEntity cfg × Pulled :=
  let payloadLen := min retx.length (grant - retxExpectedHdrLen cfg retx)
  let consumed := entity.consumeRetx retx info rest payloadLen
  let polled := consumed.getPollingBit retx.sn true 0
  let header : PduHeader :=
    { p := polled.2, si := retxSi retx (info.sdu.length ≤ retx.so + payloadLen),
      sn := retx.sn, so := retx.so % 2 ^ 16 }
  (polled.1,
    if payloadLen = 0 then .noPayload true header
    else .dataPdu true header (slice info.sdu header.so payloadLen))

def selectRetx (retx : Retx) (rest : List Retx) : TxEntity cfg :=
  { entity with retxQueue := retx :: rest, retxSn := some retx.sn }

def buildRetxPdu (grant : Nat) : TxEntity cfg × Pulled :=
  match entity.frontRetx entity.retxQueue with
  | none => (entity.setRetxQueue [], .nothing)
  | some (retx, info, rest) =>
    let selected := entity.selectRetx retx rest
    if info.sdu.length < retx.so + retx.length then
      (selected.setRetxQueue rest, .nothing)
    else if grant ≤ retxExpectedHdrLen cfg retx then (selected, .nothing)
    else selected.sendRetx grant retx info rest

def pullNewPdu (grant : Nat) : TxEntity cfg × Pulled :=
  if entity.sduQueue.isEmpty then (entity, .nothing) else entity.buildNewPdu grant

def pullDataPdu (grant : Nat) : TxEntity cfg × Pulled :=
  if ¬entity.retxQueue.isEmpty then entity.buildRetxPdu grant
  else
    match entity.snUnderSegmentation with
    | none => entity.pullNewPdu grant
    | some sn =>
      match entity.txWindow.get? sn with
      | some info => entity.buildContinuedSduSegment grant sn info
      | none => (entity.segment none).pullNewPdu grant

def pullStatusPdu (cfg : TxConfig) (grant : Nat) (status : StatusPdu) : Pulled :=
  if grant < sizeofHeaderAckSn then .nothing
  else
    match status.trim cfg.snFieldLength grant with
    | none => .nothing
    | some trimmed => .statusPdu (trimmed.pack cfg.snFieldLength)

/-- A status report that the receiving side requires goes first. -/
def pullPdu (grant : Nat) (required : Option StatusPdu) : TxEntity cfg × Pulled :=
  if entity.maxRetxReached then (entity, .nothing)
  else
    match required with
    | some status => (entity, pullStatusPdu cfg grant status)
    | none => entity.pullDataPdu grant

def handleSdu (sdu : RlcSdu) : TxEntity cfg :=
  match entity.sduQueue.write cfg.queueSize cfg.queueSizeBytes sdu with
  | some written => entity.setSduQueue written
  | none => entity

def discardSdu (pdcpSn : Nat) : TxEntity cfg :=
  match entity.sduQueue.tryDiscard cfg.queueSize pdcpSn with
  | some discarded => entity.setSduQueue discarded
  | none => entity

/-- Discarded SDUs and retransmissions without an SDU are dropped from the fronts of their queues.
-/
def updateMacBufferState : TxEntity cfg :=
  { entity with
    sduQueue :=
      if entity.snUnderSegmentation.isNone then entity.sduQueue.front cfg.queueSize
      else entity.sduQueue
    retxQueue := entity.retxQueue.dropWhile fun retx => !entity.txWindow.contains retx.sn }

def countRetx (sn : Nat) : TxEntity cfg :=
  { entity with
    txWindow := entity.txWindow.modify sn fun info =>
      { info with retxCount := some (info.retxCount.elim 0 (· + 1)) } }

/-- `none` stands for the access to an SN that is not in the window. -/
def incrementRetxCount (sn : Nat) : Option (TxEntity cfg) :=
  if entity.txWindow.contains sn then some (entity.countRetx sn) else none

def decrementRetxCount (sn : Nat) : TxEntity cfg :=
  { entity with
    txWindow := entity.txWindow.modify sn fun info =>
      { info with
        retxCount := info.retxCount.bind fun count =>
          if count = 0 then none else some (count - 1) } }

def tryPushRetx (retx : Retx) : Option (TxEntity cfg) :=
  if entity.retxQueue.length < cfg.amWindowSize then
    some (entity.setRetxQueue (entity.retxQueue ++ [retx]))
  else none

def onExpiredPollRetransmitTimer : TxEntity cfg :=
  let expired := { entity with pollRetransmitTimerRunning := false }
  if entity.buffersEmpty || entity.isTxWindowFull then
    if entity.txWindow.isEmpty then expired
    else
      match entity.txWindow.get? entity.txNextAck with
      | none => expired
      | some info =>
        let retx : Retx := { sn := entity.txNextAck, so := 0, length := info.sdu.length }
        let scheduled := (expired.tryPushRetx retx).elim expired fun pushed =>
          pushed.countRetx entity.txNextAck
        scheduled.updateMacBufferState
  else expired

def validNack (ackSn : Nat) (nack : Nack) : Bool :=
  let base := entity.txModBase
  let last := nack.lastSn
  decide (base nack.nackSn < base ackSn) &&
    (!nack.hasNackRange || decide (base last < base ackSn)) &&
    entity.insideTxWindow nack.nackSn &&
    (!nack.hasNackRange || entity.insideTxWindow last) &&
    decide (base nack.nackSn ≤ base entity.txNext) &&
    (!nack.hasNackRange || decide (base last ≤ base entity.txNext))

/-- The checks a status PDU has to pass before it changes anything. -/
def accepts (status : StatusPdu) : Bool :=
  entity.validAckSn status.ackSn &&
    decide (entity.txModBase status.ackSn ≤ entity.txModBase (entity.txNext + 1)) &&
    status.nacks.all (entity.validNack status.ackSn)

def stopPollRetransmitTimer (ackSn : Nat) : TxEntity cfg :=
  if entity.txModBase entity.pollSn < entity.txModBase ackSn then
    { entity with pollRetransmitTimerRunning := false }
  else entity

def removeAcked (sn : Nat) : TxEntity cfg :=
  { entity with
    txWindow := entity.txWindow.erase sn
    txNextAck := (sn + 1) % cfg.mod }

/-- The loop over the acknowledged SNs. Each round comes one SN closer, so it ends within `mod`
rounds. -/
def ackLoop (stopSn : Nat) : Nat → TxEntity cfg → Nat → TxEntity cfg
  | 0, entity, _ => entity
  | rounds + 1, entity, sn =>
    if entity.txModBase sn < entity.txModBase stopSn then
      if entity.txWindow.contains sn then
        ackLoop stopSn rounds (entity.removeAcked sn) ((sn + 1) % cfg.mod)
      else entity
    else entity

/-- The first NACK, if any, ends the range of acknowledged SNs. -/
def stopSn (status : StatusPdu) : Nat := (status.nacks.head?.map Nack.nackSn).getD status.ackSn

def processAcks (status : StatusPdu) : TxEntity cfg :=
  ackLoop (stopSn status) cfg.mod entity entity.txNextAck

def clearRetxLoop : List Retx → TxEntity cfg → TxEntity cfg
  | [], entity => { entity with retxQueue := [], retxSn := none }
  | retx :: rest, entity =>
    if entity.retxSn ≠ some retx.sn then
      clearRetxLoop rest { entity.decrementRetxCount retx.sn with retxSn := some retx.sn }
    else clearRetxLoop rest entity

def clearRetx : TxEntity cfg := clearRetxLoop entity.retxQueue entity

/-- The offset of the last byte of an SDU in a 16 bit field. -/
def lastOffset (sduLength : Nat) : Nat := (sduLength + 2 ^ 16 - 1) % 2 ^ 16

/-- The offsets of a NACK, with the end of the SDU resolved. There are none for bytes not sent
yet. -/
def nackOffsets (nack : Nack) (info : SduInfo) : Option (Nat × Nat) :=
  let soStart := if nack.hasSo then nack.soStart else 0
  let soEnd := if nack.hasSo then nack.soEnd else lastOffset info.sdu.length
  if soEnd = soEndOfSdu then
    if entity.snUnderSegmentation ≠ some nack.nackSn then
      some (soStart, lastOffset info.sdu.length)
    else if info.nextSo = 0 ∨ info.nextSo ≤ soStart then none
    else some (soStart, lastOffset info.nextSo)
  else some (soStart, soEnd)

/-- Offsets that do not fit the SDU are replaced. -/
def fixOffsets (sduLength : Nat) (offsets : Nat × Nat) : Nat × Nat :=
  (if offsets.2 < offsets.1 ∨ sduLength ≤ offsets.1 then 0 else offsets.1,
    if sduLength ≤ offsets.2 then lastOffset sduLength else offsets.2)

/-- The flag tells whether a retransmission has been scheduled. -/
def handleNack (nack : Nack) : Option (TxEntity cfg × Bool) :=
  if nack.hasNackRange then some (entity, false)
  else if ¬(entity.txModBase entity.txNextAck ≤ entity.txModBase nack.nackSn ∧
      entity.txModBase nack.nackSn ≤ entity.txModBase entity.txNext) then some (entity, false)
  else
    (entity.txWindow.get? nack.nackSn).map fun info =>
      match entity.nackOffsets nack info with
      | none => (entity, false)
      | some offsets =>
        let fixed := fixOffsets info.sdu.length offsets
        let retx : Retx :=
          { sn := nack.nackSn, so := fixed.1, length := fixed.2 - fixed.1 + 1 }
        (entity.tryPushRetx retx).elim (entity, false) fun pushed => (pushed, true)

/-- One NACK of a single SDU, whose retransmissions are counted once for consecutive NACKs. -/
def scheduleNack (progress : TxEntity cfg × Option Nat) (nack : Nack) :
    Option (TxEntity cfg × Option Nat) :=
  (progress.1.handleNack nack).bind fun (entity, scheduled) =>
    if scheduled ∧ progress.2 ≠ some nack.nackSn then
      (entity.incrementRetxCount nack.nackSn).map fun counted => (counted, some nack.nackSn)
    else some (entity, progress.2)

/-- The NACK of one SDU of a range: the first may have a start, and the last an end. -/
def rangeMember (mod : Nat) (nack : Nack) (rangeSn : Nat) : Nack :=
  let soStart := if nack.hasSo ∧ rangeSn = nack.nackSn then nack.soStart else 0
  let soEnd :=
    if nack.hasSo ∧ rangeSn = nack.lastSn % mod then nack.soEnd else soEndOfSdu
  { nackSn := rangeSn, soStart, soEnd,
    hasSo := nack.hasSo && (soStart != 0 || soEnd != soEndOfSdu) }

/-- The NACKs of single SDUs that a NACK stands for. A range ends at the ACK_SN. -/
def expandNack (mod ackSn : Nat) (nack : Nack) : List Nack :=
  if nack.hasNackRange then
    (((List.range nack.nackRange).map fun i => (nack.nackSn + i) % mod).takeWhile
      (· != ackSn)).map (rangeMember mod nack)
  else [nack]

def processNacks (status : StatusPdu) : Option (TxEntity cfg) :=
  ((status.nacks.flatMap (expandNack cfg.mod status.ackSn)).foldlM scheduleNack
    (entity, none)).map Prod.fst

def handleStatusPdu (status : StatusPdu) : Option (TxEntity cfg) :=
  if entity.accepts status then
    let stopped := entity.stopPollRetransmitTimer status.ackSn
    ((stopped.processAcks status).clearRetx.processNacks status).map updateMacBufferState
  else some entity

end TxEntity

inductive Event where
  | handleSdu (sdu : RlcSdu)
  | discardSdu (pdcpSn : Nat)
  | updateMacBufferState
  | pullPdu (grant : Nat) (required : Option StatusPdu)
  | statusPdu (pdu : Bytes)
  | pollRetransmitTimerExpired

namespace TxEntity

variable {cfg : TxConfig}

def step (entity : TxEntity cfg) : Event → Option (TxEntity cfg)
  | .handleSdu sdu => some (entity.handleSdu sdu)
  | .discardSdu pdcpSn => some (entity.discardSdu pdcpSn)
  | .updateMacBufferState => some entity.updateMacBufferState
  | .pullPdu grant required => some (entity.pullPdu grant required).1
  | .statusPdu pdu =>
    match StatusPdu.unpack cfg.snFieldLength pdu with
    | some status => entity.handleStatusPdu status
    | none => some entity
  | .pollRetransmitTimerExpired => some entity.onExpiredPollRetransmitTimer

end TxEntity

def unlimitedConfig : TxConfig where
  snFieldLength := .size12bits
  tPollRetx := 45
  maxRetxThresh := 4
  pollPdu := -1
  pollByte := -1
  queueSize := 16
  queueSizeBytes := 65536
  maxWindow := 0

def oneSduWindow : TxConfig := { unlimitedConfig with maxWindow := 1 }

end ProtoRu.Rlc
