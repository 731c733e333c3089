import ProtoRu.NetworkOrderBytes
import ProtoRu.TransitionRuns

namespace ProtoRu.F1uBearer

/-- The value of an SN that is not set yet. -/
def unsetPdcpSn : Nat := 2 ^ 32 - 1

structure F1uConfig where
  rlcQueueBytesLimit : Nat
  bufferUlOnStartup : Bool
  ulBufferSize : Nat

inductive Value where
  | desiredBufferSize
  | transmitted
  | delivered
  | retransmitted
  | deliveredRetransmitted
deriving DecidableEq

structure UlMessage where
  tPdu : Bytes
  status : Value → Option Nat

/-- The markers before the first report. -/
def unnotified : Value → Nat
  | .desiredBufferSize => 0
  | _ => unsetPdcpSn

/-- The bearer, with the messages sent so far. -/
structure Bearer (cfg : F1uConfig) where
  current : Value → Nat := fun value =>
    if value = .desiredBufferSize then cfg.rlcQueueBytesLimit else unsetPdcpSn
  notified : Value → Nat := unnotified
  buffering : Bool := cfg.bufferUlOnStartup
  ulBuffer : List UlMessage := []
  sent : List UlMessage := []

namespace Bearer

variable {cfg : F1uConfig} (bearer : Bearer cfg)

/-- The entry of the status, the new marker and whether the value is a fresh one. -/
def fill (value : Value) (skip : Bool) : Option Nat × Nat × Bool :=
  if skip then (none, bearer.notified value, false)
  else (some (bearer.current value), bearer.current value,
    bearer.current value != bearer.notified value)

def fillDesiredBufferSizeOfDataRadioBearer : Option Nat × Nat × Bool :=
  bearer.fill .desiredBufferSize false

def fillHighestTransmittedPdcpSn : Option Nat × Nat × Bool :=
  bearer.fill .transmitted (bearer.current .transmitted == unsetPdcpSn)

def fillHighestDeliveredPdcpSn : Option Nat × Nat × Bool :=
  bearer.fill .delivered (bearer.current .delivered == unsetPdcpSn)

def fillHighestRetransmittedPdcpSn : Option Nat × Nat × Bool :=
  bearer.fill .retransmitted (bearer.current .retransmitted == bearer.notified .retransmitted)

def fillHighestDeliveredRetransmittedPdcpSn : Option Nat × Nat × Bool :=
  bearer.fill .deliveredRetransmitted
    (bearer.current .deliveredRetransmitted == bearer.notified .deliveredRetransmitted)

/-- Each value has an entry, a marker and a flag of its own. -/
def filled : Value → Option Nat × Nat × Bool
  | .desiredBufferSize => bearer.fillDesiredBufferSizeOfDataRadioBearer
  | .transmitted => bearer.fillHighestTransmittedPdcpSn
  | .delivered => bearer.fillHighestDeliveredPdcpSn
  | .retransmitted => bearer.fillHighestRetransmittedPdcpSn
  | .deliveredRetransmitted => bearer.fillHighestDeliveredRetransmittedPdcpSn

def fillDataDeliveryStatus : (Value → Option Nat) × Bearer cfg × Bool :=
  (fun value => (bearer.filled value).1,
    { bearer with notified := fun value => (bearer.filled value).2.1 },
    (bearer.filled .desiredBufferSize).2.2 || (bearer.filled .transmitted).2.2 ||
      (bearer.filled .delivered).2.2 || (bearer.filled .retransmitted).2.2 ||
      (bearer.filled .deliveredRetransmitted).2.2)

def handleSdu (sdu : Bytes) : Bearer cfg :=
  let filled := bearer.fillDataDeliveryStatus
  if bearer.buffering then
    if cfg.ulBufferSize ≤ bearer.ulBuffer.length then filled.2.1
    else { filled.2.1 with ulBuffer := bearer.ulBuffer ++ [⟨sdu, filled.1⟩] }
  else { filled.2.1 with sent := bearer.sent ++ [⟨sdu, filled.1⟩] }

def flushUlBuffer : Bearer cfg :=
  if bearer.buffering then
    { bearer with sent := bearer.sent ++ bearer.ulBuffer, ulBuffer := [], buffering := false }
  else bearer

def sendDataDeliveryStatus (force : Bool) : Bearer cfg :=
  let filled := bearer.fillDataDeliveryStatus
  if filled.2.2 = false ∧ force = false then filled.2.1
  else { filled.2.1 with sent := bearer.sent ++ [⟨[], filled.1⟩] }

def store (value : Value) (number : Nat) : Bearer cfg :=
  { bearer with current := fun other => if other = value then number else bearer.current other }

end Bearer

open Bearer

inductive Event where
  | sdu (sdu : Bytes)
  | flushUlBuffer
  | transmitNotification (highestPdcpSn : Nat) (desiredBufSize : Nat)
  | deliveryNotification (highestPdcpSn : Nat)
  | retransmitNotification (highestPdcpSn : Nat)
  | deliveryRetransmittedNotification (highestPdcpSn : Nat)
  | expiredUlNotifTimer
  | reportPolling

variable {cfg : F1uConfig} {bearer after : Bearer cfg}

def next (bearer : Bearer cfg) : Event → Bearer cfg
  | .sdu sdu => bearer.handleSdu sdu
  | .flushUlBuffer => bearer.flushUlBuffer
  | .transmitNotification sn size => (bearer.store .transmitted sn).store .desiredBufferSize size
  | .deliveryNotification sn => bearer.store .delivered sn
  | .retransmitNotification sn => bearer.store .retransmitted sn
  | .deliveryRetransmittedNotification sn => bearer.store .deliveredRetransmitted sn
  | .expiredUlNotifTimer => bearer.sendDataDeliveryStatus false
  | .reportPolling => bearer.sendDataDeliveryStatus true

/-- A message with this value was sent or is in the buffer. -/
def Carried (bearer : Bearer cfg) (value : Value) (number : Nat) : Prop :=
  ∃ message ∈ bearer.sent ++ bearer.ulBuffer, message.status value = some number

/-- What is marked as notified is in a message, and a last value that differs from its marker is
pending. -/
def Remembered (bearer : Bearer cfg) : Prop :=
  ∀ value, bearer.notified value = unnotified value ∧
      (∀ message ∈ bearer.sent ++ bearer.ulBuffer, message.status value = none) ∨
    Carried bearer value (bearer.notified value)

/-- No uplink SDU is dropped while there are values that are not notified yet. -/
def Keeps (bearer : Bearer cfg) : Event → Prop
  | .sdu _ => bearer.buffering → cfg.ulBufferSize ≤ bearer.ulBuffer.length →
      ∀ value, bearer.current value = bearer.notified value
  | _ => True

section

variable (bearer : Bearer cfg) (value : Value)

lemma filled_eq : ∃ skip, bearer.filled value = bearer.fill value skip := by
  cases value with
  | desiredBufferSize => exact ⟨false, rfl⟩
  | _ => exact ⟨_, rfl⟩

/-- A value gets an entry in the status with its marker, or its marker stays. -/
lemma filled_entry : (bearer.filled value).1 = some (bearer.filled value).2.1 ∨
      (bearer.filled value).1 = none ∧ (bearer.filled value).2.1 = bearer.notified value := by
  obtain ⟨skip, heq⟩ := filled_eq bearer value
  rw [heq, fill]
  split <;> simp

lemma filled_marker
    (h : (bearer.filled value).2.2 = false ∨ bearer.current value = bearer.notified value) :
    (bearer.filled value).2.1 = bearer.notified value := by
  obtain ⟨skip, heq⟩ := filled_eq bearer value
  rw [heq, fill] at h ⊢
  split at h <;> simp_all

end

lemma Remembered.unmoved (h : Remembered bearer)
    (hmarkers : ∀ value, (bearer.filled value).2.1 = bearer.notified value) :
    Remembered bearer.fillDataDeliveryStatus.2.1 := by
  have hsame : bearer.fillDataDeliveryStatus.2.1 = bearer := by
    simp [fillDataDeliveryStatus, hmarkers]
  rwa [hsame]

/-- A message that is sent or buffered carries what moves the markers. -/
lemma Remembered.carried (sdu : Bytes) (h : Remembered bearer)
    (hnotified : ∀ value, after.notified value = (bearer.filled value).2.1)
    (hsent : ∀ message, message ∈ after.sent ++ after.ulBuffer ↔
      message = ⟨sdu, bearer.fillDataDeliveryStatus.1⟩ ∨
        message ∈ bearer.sent ++ bearer.ulBuffer) : Remembered after := by
  intro value
  simp only [Carried, hsent, hnotified]
  obtain hentry | ⟨hnone, hsame⟩ := filled_entry bearer value
  · exact .inr ⟨_, .inl rfl, hentry⟩
  · rw [hsame]
    obtain ⟨hmarker, hunreported⟩ | ⟨message, hmem, hcarried⟩ := h value
    · refine .inl ⟨hmarker, ?_⟩
      rintro message (rfl | hmem)
      exacts [hnone, hunreported message hmem]
    · exact .inr ⟨message, .inr hmem, hcarried⟩

lemma Remembered.send (h : Remembered bearer) (force : Bool) :
    Remembered (bearer.sendDataDeliveryStatus force) := by
  simp only [sendDataDeliveryStatus]
  split_ifs with hnone
  · simp only [fillDataDeliveryStatus, Bool.or_eq_false_iff] at hnone
    refine h.unmoved fun value => filled_marker bearer value (.inl ?_)
    cases value <;> simp [hnone]
  · exact h.carried [] (fun _ => rfl) (by grind [fillDataDeliveryStatus])

lemma next_remembered (bearer : Bearer cfg) (event : Event) (h : Remembered bearer)
    (hkeeps : Keeps bearer event) : Remembered (next bearer event) := by
  cases event with
  | sdu sdu =>
    simp only [next, handleSdu]
    split
    · split
      · exact h.unmoved fun value => filled_marker bearer value (.inr (hkeeps ‹_› ‹_› value))
      · exact h.carried sdu (fun _ => rfl) (by grind [fillDataDeliveryStatus])
    · exact h.carried sdu (fun _ => rfl) (by grind [fillDataDeliveryStatus])
  | flushUlBuffer =>
    simp only [next, flushUlBuffer]
    split
    · simpa [Remembered, Carried] using h
    · exact h
  | expiredUlNotifTimer => exact h.send false
  | reportPolling => exact h.send true
  | _ => exact h

/-- In a run that drops no message with values not notified yet, no value is forgotten. -/
theorem remembered_of_guarded {events : List Event}
    (hguarded : Guarded next Keeps ({} : Bearer cfg) events) :
    Remembered (events.foldl next ({} : Bearer cfg)) :=
  Guarded.invariant Remembered next_remembered hguarded fun _ => .inl ⟨rfl, by simp⟩

def handoverConfig : F1uConfig := ⟨8000, true, 1⟩

/-- An uplink SDU is buffered with the first SN, and the buffer is flushed. -/
theorem bufferedSdu_remembered : Remembered ([Event.transmitNotification 5 7000, .sdu [1],
    .flushUlBuffer].foldl next ({} : Bearer handoverConfig)) :=
  remembered_of_guarded ⟨trivial, fun _ hfull => absurd hfull (by decide), trivial, trivial⟩

/-- The second uplink SDU finds the buffer full: the SN is marked, but no message carries it. -/
theorem droppedSdu_not_remembered : ¬Remembered ([Event.sdu [1], .transmitNotification 5 7000,
    .sdu [2]].foldl next ({} : Bearer handoverConfig)) := by
  intro h
  obtain ⟨hmarker, -⟩ | ⟨message, hmem, hcarried⟩ := h .transmitted
  · revert hmarker
    decide
  · obtain rfl := List.mem_singleton.mp hmem
    revert hcarried
    decide

end ProtoRu.F1uBearer
