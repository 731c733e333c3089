import ProtoRu.CircularArithmetic
import ProtoRu.CircularMaps
import ProtoRu.PdcpCounts

namespace ProtoRu.PdcpRx

open PdcpCounts

inductive TReordering where
  | ms0
  | finite (ms : Nat)
  | infinity
deriving DecidableEq

/-- Of the two thresholds, the RRC is notified at the first and reception ends at the
second. -/
structure RxConfig where
  rbType : RbType
  rlcMode : RlcMode
  snSize : SnSize
  tReordering : TReordering
  maxCountNotify : Nat
  maxCountHard : Nat
  maxCountNotify_le : maxCountNotify ≤ maxCountHard
  maxCountHard_lt : maxCountHard < 2 ^ 32

lemma defaultNotify_le : 0xc0000000 ≤ 0xd0000000 := by decide

lemma defaultHard_lt : 0xd0000000 < 2 ^ 32 := by decide

def umDrb : RxConfig where
  rbType := .drb
  rlcMode := .um
  snSize := .size12bits
  tReordering := .finite 100
  maxCountNotify := 0xc0000000
  maxCountHard := 0xd0000000
  maxCountNotify_le := defaultNotify_le
  maxCountHard_lt := defaultHard_lt

inductive SecurityError where
  | integrityFailure
  | cipheringFailure
  | bufferFailure
  | engineFailure
deriving DecidableEq

def macLength : Nat := 4

/-- The engines for deciphering and for the integrity, if they are activated. -/
structure SecurityEngine where
  cipher : Option (Nat → Bytes → Bytes)
  mac : Option (Nat → Bytes → Bytes)
  length_cipher : ∀ f ∈ cipher, ∀ count buf, (f count buf).length = buf.length

namespace SecurityEngine

variable (engine : SecurityEngine)

def applyCiphering (buf : Bytes) (offset count : Nat) : Bytes :=
  engine.cipher.elim buf fun cipher => buf.take offset ++ cipher count (buf.drop offset)

def verifyIntegrity (buf : Bytes) (count : Nat) : Except SecurityError Bytes :=
  engine.mac.elim (.ok buf) fun mac =>
    if buf.length ≤ macLength then .error .integrityFailure
    else
      let message := buf.take (buf.length - macLength)
      if mac count message ≠ buf.drop (buf.length - macLength) then .error .integrityFailure
      else .ok message

def decryptAndVerifyIntegrity (buf : Bytes) (offset count : Nat) :
    Except SecurityError Bytes :=
  engine.verifyIntegrity (engine.applyCiphering buf offset count) count

end SecurityEngine

inductive Notification where
  | maxCountReached
  | protocolFailure
  | integrityFailure
deriving DecidableEq

structure PduInfo where
  buf : Bytes
  count : Nat

structure Secured where
  count : Nat
  result : Except SecurityError Bytes

structure Delivery where
  count : Nat
  sdu : Bytes
deriving DecidableEq

/-- The entity, with the PDUs on their way to the crypto workers and back. -/
structure RxEntity (cfg : RxConfig) where
  rxNext : Nat := 0
  rxDeliv : Nat := 0
  rxReord : Nat := 0
  rxWindow : CircularMap cfg.snSize.windowSize PduInfo := .empty _ _
  reorderingRunning : Bool := false
  maxCountNotified : Bool := false
  maxCountOverflow : Bool := false
  engine : Option SecurityEngine := none
  queued : List PduInfo := []
  secured : List Secured := []
  delivered : List Delivery := []

namespace RxEntity

variable {cfg : RxConfig} (e : RxEntity cfg)

def rcvdCount (sn : Nat) : Nat := estimateCount cfg.snSize e.rxDeliv sn

def notifyMaxCount (count : Nat) : RxEntity cfg × List Notification :=
  if cfg.maxCountNotify < count ∧ e.maxCountNotified = false then
    ({ e with maxCountNotified := true }, [.maxCountReached])
  else (e, [])

def refuse : RxEntity cfg × List Notification :=
  if e.maxCountOverflow = false then ({ e with maxCountOverflow := true }, [.protocolFailure])
  else (e, [])

def enqueue (info : PduInfo) : RxEntity cfg := { e with queued := e.queued ++ [info] }

def handleDataPdu (pdu : Bytes) : RxEntity cfg × List Notification :=
  match readDataPduHeader cfg.snSize pdu with
  | none => (e, [])
  | some sn =>
    let count := e.rcvdCount sn
    let notified := e.notifyMaxCount count
    if cfg.maxCountHard ≤ count then (notified.1.refuse.1, notified.2 ++ notified.1.refuse.2)
    else (notified.1.enqueue ⟨pdu, count⟩, notified.2)

/-- Before security is configured, DRBs pass PDUs through and SRBs take off an empty MAC. -/
def applyDecipheringAndIntegrityCheck (info : PduInfo) : Except SecurityError Bytes :=
  match e.engine with
  | some engine => engine.decryptAndVerifyIntegrity info.buf cfg.snSize.dataHeaderSize info.count
  | none =>
    if cfg.rbType = .srb then
      if info.buf.length ≤ macLength then .error .bufferFailure
      else .ok (info.buf.take (info.buf.length - macLength))
    else .ok info.buf

/-- What passes has its header taken off, which asserts that it is there. -/
def applySecurity (info : PduInfo) : Option Secured :=
  match e.applyDecipheringAndIntegrityCheck info with
  | .error err => some ⟨info.count, .error err⟩
  | .ok buf =>
    if buf.length < cfg.snSize.dataHeaderSize then none
    else some ⟨info.count, .ok (buf.drop cfg.snSize.dataHeaderSize)⟩

/-- Header decompression may fail, or find feedback only. -/
def deliverSdu (decompress : Nat → Bytes → Option Bytes) (info : PduInfo) :
    RxEntity cfg :=
  { e with
    delivered := e.delivered ++
      ((decompress info.count info.buf).map fun sdu => Delivery.mk info.count sdu).toList
    rxWindow := e.rxWindow.erase e.rxDeliv }

def advance : RxEntity cfg := { e with rxDeliv := (e.rxDeliv + 1) % 2 ^ 32 }

def deliverAllConsecutiveCounts (decompress : Nat → Bytes → Option Bytes) :
    Nat → RxEntity cfg → RxEntity cfg
  | 0, e => e
  | rounds + 1, e =>
    match e.rxWindow.get? e.rxDeliv with
    | none => e
    | some info =>
      deliverAllConsecutiveCounts decompress rounds (e.deliverSdu decompress info).advance

def passCounts (decompress : Nat → Bytes → Option Bytes) :
    Nat → RxEntity cfg → RxEntity cfg
  | 0, e => e
  | rounds + 1, e =>
    passCounts decompress rounds
      ((e.rxWindow.get? e.rxDeliv).elim e (e.deliverSdu decompress)).advance

def distanceTo (count : Nat) : Nat := unsignedOffset (2 ^ 32) (e.rxDeliv % 2 ^ 32) count

def deliverFromRxDeliv (decompress : Nat → Bytes → Option Bytes) : RxEntity cfg :=
  deliverAllConsecutiveCounts decompress (e.distanceTo e.rxNext) e

def restartReordering : RxEntity cfg :=
  if e.rxDeliv < e.rxNext ∧ cfg.tReordering ≠ .ms0 then
    { e with rxReord := e.rxNext, reorderingRunning := true }
  else e

def handleTReorderingExpire (decompress : Nat → Bytes → Option Bytes) : RxEntity cfg :=
  let passed := passCounts decompress (e.distanceTo e.rxReord) e
  (passed.deliverFromRxDeliv decompress).restartReordering

def storeSdu (count : Nat) (buf : Bytes) : RxEntity cfg :=
  { e with
    rxWindow := (e.rxWindow.erase count).overwrite count ⟨buf, count⟩
    rxNext := if e.rxNext ≤ count then count + 1 else e.rxNext }

def deliverIfNext (decompress : Nat → Bytes → Option Bytes) (count : Nat) :
    RxEntity cfg :=
  if count = e.rxDeliv then e.deliverFromRxDeliv decompress else e

def stopReordering : RxEntity cfg :=
  if e.reorderingRunning ∧ e.rxReord ≤ e.rxDeliv then { e with reorderingRunning := false } else e

def startReordering (decompress : Nat → Bytes → Option Bytes) : RxEntity cfg :=
  match cfg.tReordering with
  | .infinity => e
  | .ms0 => ({ e with rxReord := e.rxNext } : RxEntity cfg).handleTReorderingExpire decompress
  | .finite _ =>
    if e.reorderingRunning = false ∧ e.rxDeliv < e.rxNext then
      { e with rxReord := e.rxNext, reorderingRunning := true }
    else e

def applyReordering (decompress : Nat → Bytes → Option Bytes) (count : Nat)
    (buf : Bytes) : RxEntity cfg :=
  if count < e.rxDeliv then e
  else if ∃ info ∈ e.rxWindow.get? count, info.count = count then e
  else
    ((e.storeSdu count buf).deliverIfNext decompress count).stopReordering.startReordering
      decompress

def handleSecured (decompress : Nat → Bytes → Option Bytes) (pdu : Secured) :
    RxEntity cfg × List Notification :=
  match pdu.result with
  | .ok buf => (e.applyReordering decompress pdu.count buf, [])
  | .error .integrityFailure => (e, [.integrityFailure])
  | .error .cipheringFailure | .error .bufferFailure | .error .engineFailure =>
    (e, [.protocolFailure])

end RxEntity

/-- PDUs on their way are named by their place in their list, and may be lost there. -/
inductive Event where
  | pdu (pdu : Bytes)
  | applySecurity (i : Nat)
  | dropQueued (i : Nat)
  | handleSecured (i : Nat) (decompress : Nat → Bytes → Option Bytes)
  | dropSecured (i : Nat)
  | tReorderingExpired (decompress : Nat → Bytes → Option Bytes)
  | configureSecurity (engine : SecurityEngine)

def next {cfg : RxConfig} (e : RxEntity cfg) : Event → RxEntity cfg
  | .pdu pdu => (e.handleDataPdu pdu).1
  | .applySecurity i =>
    e.queued[i]?.elim e fun info =>
      { e with
        queued := e.queued.eraseIdx i
        -- a PDU that fails the assertion does not come back
        secured := e.secured ++ (e.applySecurity info).toList }
  | .dropQueued i => { e with queued := e.queued.eraseIdx i }
  | .handleSecured i decompress =>
    e.secured[i]?.elim e fun pdu =>
      (({ e with secured := e.secured.eraseIdx i } : RxEntity cfg).handleSecured decompress pdu).1
  | .dropSecured i => { e with secured := e.secured.eraseIdx i }
  | .tReorderingExpired decompress =>
    if e.reorderingRunning then
      ({ e with reorderingRunning := false } : RxEntity cfg).handleTReorderingExpire decompress
    else e
  | .configureSecurity engine => { e with engine := some engine }

end ProtoRu.PdcpRx
