import ProtoRu.RlcPolling

namespace ProtoRu.Rlc

open TxEntity Option

variable {cfg : TxConfig}

def pulledBy (entity : TxEntity cfg) : Event → List Pulled
  | .pullPdu grant required => [(entity.pullPdu grant required).2]
  | _ => []

def record (state : TxEntity cfg × List Pulled) (event : Event) :
    Option (TxEntity cfg × List Pulled) :=
  (state.1.step event).map fun after => (after, state.2 ++ pulledBy state.1 event)

/-- Count along a record, from zero again after each element that resets the count. -/
def countSince (size : Pulled → Nat) (resets : Pulled → Bool) (pulled : List Pulled) : Nat :=
  pulled.foldl (fun count next => if resets next then 0 else count + size next) 0

lemma countSince_append_singleton (size : Pulled → Nat) (resets : Pulled → Bool)
    (pulled : List Pulled) (next : Pulled) : countSince size resets (pulled ++ [next]) =
      if resets next then 0 else countSince size resets pulled + size next := by
  rw [countSince, List.foldl_append]
  rfl

def newBytes : Pulled → Nat
  | .dataPdu false _ payload => payload.length
  | _ => 0

def carriesPoll : Pulled → Bool
  | .dataPdu _ header _ => header.p
  | _ => false

def segmentBytes : Pulled → Nat
  | .dataPdu false header payload => countedSize header payload
  | _ => 0

/-- One for each PDU that is not a retransmission, whether it could be sent or not. -/
def newPdus : Pulled → Nat
  | .dataPdu false _ _ => 1
  | .noPayload false _ => 1
  | _ => 0

/-- The PDU got a poll, whether it could be sent or not. -/
def gotPoll : Pulled → Bool
  | .dataPdu _ header _ => header.p
  | .noPayload _ header => header.p
  | _ => false

/-- The counters of the transmitter count what its record holds. -/
structure Counts (state : TxEntity cfg × List Pulled) : Prop where
  pdus : state.1.pduWithoutPoll = countSince newPdus gotPoll state.2
  bytes : state.1.byteWithoutPoll = countSince segmentBytes gotPoll state.2

def counters (entity : TxEntity cfg) : Nat × Nat :=
  (entity.pduWithoutPoll, entity.byteWithoutPoll)

variable {entity after : TxEntity cfg} {pulled : List Pulled} {events : List Event}
  {header : PduHeader} {payload : Bytes}

lemma counters_ignoresRetx : IgnoresRetx (@counters cfg) :=
  ⟨fun _ _ _ _ => rfl, fun _ _ _ _ => rfl⟩

lemma counters_handleStatusPdu {status : StatusPdu}
    (h : entity.handleStatusPdu status = some after) : counters after = counters entity := by
  rw [handleStatusPdu] at h
  split at h
  · obtain ⟨handled, hnacks, rfl⟩ := map_eq_some_iff.mp h
    have hcounters := counters_ignoresRetx.processNacks hnacks
    rw [counters_ignoresRetx.clearRetx, processAcks,
      @IgnoresRetx.ackLoop cfg _ counters (fun _ _ => rfl),
      counters_ignoresRetx.stopPollRetransmitTimer] at hcounters
    exact hcounters
  · rw [← some.inj h]

lemma counters_step {event : Event} (hpull : ∀ grant required, event ≠ .pullPdu grant required)
    (h : entity.step event = some after) : counters after = counters entity := by
  cases event with
  | handleSdu sdu =>
    rw [← some.inj h, handleSdu]
    split <;> rfl
  | discardSdu pdcpSn =>
    rw [← some.inj h, discardSdu]
    split <;> rfl
  | updateMacBufferState =>
    rw [← some.inj h]
    rfl
  | pullPdu grant required => exact absurd rfl (hpull grant required)
  | statusPdu pdu =>
    rw [step] at h
    split at h
    · exact counters_handleStatusPdu h
    · rw [← some.inj h]
  | pollRetransmitTimerExpired =>
    rw [← some.inj h]
    obtain ⟨expired, hcounters, heq | heq⟩ :=
      counters_ignoresRetx.onExpiredPollRetransmitTimer entity
    · rw [heq, hcounters]
    · rw [heq, ← hcounters]
      rfl

lemma counts_pullPdu (hcounts : Counts (entity, pulled)) (grant : Nat)
    (required : Option StatusPdu) :
    Counts ((entity.pullPdu grant required).1, pulled ++ [(entity.pullPdu grant required).2]) := by
  have hspec := pullPdu_pollSpec entity grant required
  obtain ⟨hpdus, hbytes⟩ := hcounts
  generalize entity.pullPdu grant required = result at hspec ⊢
  obtain ⟨after, next⟩ := result
  constructor
  · rw [countSince_append_singleton, ← hpdus]
    cases next with
    | nothing | statusPdu pdu => exact hspec.1
    | dataPdu isRetx header payload | noPayload isRetx header => cases isRetx <;> exact hspec.pdus
  · rw [countSince_append_singleton, ← hbytes]
    cases next with
    | nothing | statusPdu pdu => exact hspec.2
    | dataPdu isRetx header payload | noPayload isRetx header => cases isRetx <;> exact hspec.bytes

lemma record_counts {state after : TxEntity cfg × List Pulled} {event : Event}
    (hcounts : Counts state) (h : record state event = some after) : Counts after := by
  obtain ⟨next, hstep, rfl⟩ := map_eq_some_iff.mp h
  cases event with
  | pullPdu grant required =>
    rw [← some.inj hstep]
    exact counts_pullPdu hcounts grant required
  | _ =>
    have hsame := counters_step (by simp) hstep
    rw [counters, counters, Prod.mk.injEq] at hsame
    constructor
    · simpa [pulledBy, hsame.1] using hcounts.pdus
    · simpa [pulledBy, hsame.2] using hcounts.bytes

lemma run_counts {state : TxEntity cfg × List Pulled}
    (hrun : events.foldlM record ({}, []) = some state) : Counts state :=
  foldlM_invariant Counts hrun ⟨rfl, rfl⟩ fun _ _ _ _ hcounts h => record_counts hcounts h

/-- In the run a pull at `entity`, after the record `pulled`, returns the PDU. -/
def Transmits (cfg : TxConfig) (events : List Event) (entity after : TxEntity cfg)
    (pulled : List Pulled) (isRetx : Bool) (header : PduHeader) (payload : Bytes) : Prop :=
  ∃ earlier later grant required, events = earlier ++ .pullPdu grant required :: later ∧
    earlier.foldlM record ({}, []) = some (entity, pulled) ∧
    entity.pullPdu grant required = (after, .dataPdu isRetx header payload)

section

variable {isRetx : Bool} (h : Transmits cfg events entity after pulled isRetx header payload)

include h

lemma polled_of_transmits : Polled entity after isRetx (countedSize header payload) header.p := by
  obtain ⟨earlier, later, grant, required, -, -, hpull⟩ := h
  have hspec := pullPdu_pollSpec entity grant required
  rw [hpull] at hspec
  exact hspec

lemma counts_of_transmits : Counts (entity, pulled) := by
  obtain ⟨earlier, later, grant, required, -, hrun, -⟩ := h
  exact run_counts hrun

end

/-- With a new PDU the data bytes since the last poll reach `pollByte`. -/
def ReachesPollByte (cfg : TxConfig) (pulled : List Pulled) (payload : Bytes) : Prop :=
  0 < cfg.pollByte ∧ cfg.pollByte ≤ (countSince newBytes carriesPoll pulled + payload.length : Nat)

/-- Every new PDU that reaches `pollByte` is polled exactly if, for each, the segments alone reach
it, `pollPDU` is reached, or nothing more is to be sent. -/
theorem polledByBytes_iff (cfg : TxConfig) (events : List Event) :
    (∀ entity after pulled header payload,
      Transmits cfg events entity after pulled false header payload →
      ReachesPollByte cfg pulled payload → header.p) ↔
    ∀ entity after pulled header payload,
      Transmits cfg events entity after pulled false header payload →
      ReachesPollByte cfg pulled payload → cfg.pollByte ≤ (countSince segmentBytes gotPoll pulled +
          countedSize header payload : Nat) ∨
        (0 < cfg.pollPdu ∧ cfg.pollPdu ≤ (countSince newPdus gotPoll pulled + 1 : Nat)) ∨
        after.buffersEmpty ∨ after.txWindow.full ∨ PassedMaxWindow entity := by
  have hiff {entity after : TxEntity cfg} {pulled : List Pulled} {header : PduHeader}
      {payload : Bytes}
      (h : Transmits cfg events entity after pulled false header payload)
      (hreaches : ReachesPollByte cfg pulled payload) :
      header.p ↔ cfg.pollByte ≤ (countSince segmentBytes gotPoll pulled +
          countedSize header payload : Nat) ∨
        (0 < cfg.pollPdu ∧ cfg.pollPdu ≤ (countSince newPdus gotPoll pulled + 1 : Nat)) ∨
        after.buffersEmpty ∨ after.txWindow.full ∨ PassedMaxWindow entity := by
    obtain ⟨hpdus, hbytes⟩ := counts_of_transmits h
    rw [(polled_of_transmits h).p_iff, PollDue, ← hpdus, ← hbytes]
    simp only [hreaches.1, true_and]
    tauto
  constructor
  · intro hall entity after pulled header payload h hreaches
    exact (hiff h hreaches).mp (hall entity after pulled header payload h hreaches)
  · intro hall entity after pulled header payload h hreaches
    exact (hiff h hreaches).mpr (hall entity after pulled header payload h hreaches)

lemma transmits_of_eq {earlier : List Event} {grant : Nat} {isRetx : Bool}
    (hrecord : (earlier.foldlM record (({} : TxEntity cfg), [])).map Prod.snd = some pulled)
    (hlast : (earlier.foldlM record (({} : TxEntity cfg), [])).map (fun state => (state.1.pullPdu
      grant none).2) = some (.dataPdu isRetx header payload)) :
    ∃ entity after, earlier.foldlM record ({}, []) = some (entity, pulled) ∧
      after = (entity.pullPdu grant none).1 ∧
      Transmits cfg (earlier ++ [.pullPdu grant none]) entity after pulled isRetx header
        payload := by
  obtain ⟨⟨entity, sent⟩, hrun, rfl⟩ := map_eq_some_iff.mp hrecord
  rw [hrun] at hlast
  have hpull : (entity.pullPdu grant none).2 = .dataPdu isRetx header payload :=
    some.inj hlast
  exact ⟨entity, _, hrun, rfl, earlier, [], grant, none, rfl, hrun, Prod.ext rfl hpull⟩

def pollAfterThreeBytes : TxConfig := { unlimitedConfig with pollByte := 3 }

def firstOfThreeSdus : List Event :=
  [.handleSdu { buf := [1, 2], pdcpSn := some 0 }, .handleSdu { buf := [3, 4], pdcpSn := some 1 },
    .handleSdu { buf := [5, 6], pdcpSn := some 2 }, .pullPdu 10 none]

theorem secondSdu_not_polled : ∃ entity after pulled header payload,
      Transmits pollAfterThreeBytes (firstOfThreeSdus ++ [.pullPdu 10 none]) entity after pulled
        false header payload ∧
      ReachesPollByte pollAfterThreeBytes pulled payload ∧ header.p = false := by
  have hrecord : (firstOfThreeSdus.foldlM record
      (({} : TxEntity pollAfterThreeBytes), [])).map Prod.snd =
      some [.dataPdu false { p := false, si := .fullSdu, sn := 0, so := 0 } [1, 2]] := by
    decide +kernel
  have hlast : (firstOfThreeSdus.foldlM record (({} : TxEntity pollAfterThreeBytes), [])).map
      (fun state => (state.1.pullPdu 10 none).2) =
      some (.dataPdu false { p := false, si := .fullSdu, sn := 1, so := 0 } [3, 4]) := by
    decide +kernel
  obtain ⟨entity, after, -, -, h⟩ := transmits_of_eq hrecord hlast
  exact ⟨entity, after, _, _, _, h, ⟨by decide, by decide⟩, rfl⟩

/-- No SDU, retransmission or segment that is not discarded is left, or the window is exhausted.
-/
def Stalled (entity : TxEntity cfg) : Prop :=
  ((∀ sdu ∈ entity.sduQueue.queue, ¬entity.sduQueue.check cfg.queueSize sdu) ∧
    entity.retxQueue = [] ∧ entity.snUnderSegmentation = none) ∨ entity.isTxWindowFull

/-- The queue is not empty, but all its SDUs are discarded. -/
def OnlyDiscardedLeft (entity : TxEntity cfg) : Prop :=
  entity.sduQueue.queue ≠ [] ∧
    (∀ sdu ∈ entity.sduQueue.queue, ¬entity.sduQueue.check cfg.queueSize sdu) ∧
    entity.retxQueue = [] ∧ entity.snUnderSegmentation = none

lemma buffersEmpty_iff (entity : TxEntity cfg) :
    entity.buffersEmpty ↔ entity.sduQueue.queue = [] ∧ entity.retxQueue = [] ∧
      entity.snUnderSegmentation = none := by
  simp [buffersEmpty, SduQueue.isEmpty, and_assoc]

/-- Every last PDU is polled exactly if none leaves only discarded SDUs or passes `maxWindow`,
apart from those polled for their counts, a full AM window or `maxWindow` passed before. -/
theorem stalledPolled_iff (cfg : TxConfig) (events : List Event) :
    (∀ entity after pulled isRetx header payload,
      Transmits cfg events entity after pulled isRetx header payload →
      Stalled after → header.p) ↔
    ∀ entity after pulled isRetx header payload,
      Transmits cfg events entity after pulled isRetx header payload →
      ¬(isRetx = false ∧ PollDue entity (countedSize header payload)) →
      ¬after.txWindow.full → ¬PassedMaxWindow entity →
        ¬OnlyDiscardedLeft after ∧ (PassedMaxWindow after → after.buffersEmpty) := by
  constructor
  · intro hall entity after pulled isRetx header payload h hdue hfull hpassed
    have hpolled := (polled_of_transmits h).p_iff
    have hempty (hstalled : Stalled after) : after.buffersEmpty := by
      have hp := hall entity after pulled isRetx header payload h hstalled
      simpa [hdue, hfull, hpassed] using hpolled.mp hp
    refine ⟨?_, fun hafter => hempty (.inr ((isTxWindowFull_iff after).mpr (.inr hafter)))⟩
    rintro ⟨hqueue, hdiscarded⟩
    exact hqueue ((buffersEmpty_iff after).mp (hempty (.inl hdiscarded))).1
  · intro hall entity after pulled isRetx header payload h hstalled
    rw [(polled_of_transmits h).p_iff]
    by_contra hnone
    obtain ⟨hdue, hempty, hfull, hpassed⟩ : _ ∧ _ ∧ _ ∧ _ := by
      simpa only [not_or] using hnone
    obtain ⟨hqueue, hmax⟩ :=
      hall entity after pulled isRetx header payload h hdue hfull hpassed
    obtain hdiscarded | hwindow := hstalled
    · refine hqueue ⟨fun hnil => hempty ?_, hdiscarded⟩
      exact (buffersEmpty_iff after).mpr ⟨hnil, hdiscarded.2⟩
    · obtain hwindow | hafter := (isTxWindowFull_iff after).mp hwindow
      · exact hfull hwindow
      · exact hempty (hmax hafter)

def secondSduDiscarded : List Event :=
  [.handleSdu { buf := [1, 2], pdcpSn := some 0 }, .handleSdu { buf := [3, 4], pdcpSn := some 1 },
    .discardSdu 1]

theorem discarded_and_limited_not_polled : (∃ entity after pulled header payload,
      Transmits unlimitedConfig (secondSduDiscarded ++ [.pullPdu 10 none]) entity after pulled
        false header payload ∧ Stalled after ∧ header.p = false) ∧
    ∃ entity after pulled header payload,
      Transmits oneSduWindow (firstOfThreeSdus ++ [.pullPdu 10 none]) entity after pulled
        false header payload ∧ Stalled after ∧ header.p = false := by
  constructor
  · have hrecord : (secondSduDiscarded.foldlM record
        (({} : TxEntity unlimitedConfig), [])).map Prod.snd = some [] := by decide +kernel
    have hlast : (secondSduDiscarded.foldlM record (({} : TxEntity unlimitedConfig), [])).map
        (fun state => (state.1.pullPdu 10 none).2) =
        some (.dataPdu false { p := false, si := .fullSdu, sn := 0, so := 0 } [1, 2]) := by
      decide +kernel
    have hstalled : (secondSduDiscarded.foldlM record
        (({} : TxEntity unlimitedConfig), [])).all (fun state =>
          let after := (state.1.pullPdu 10 none).1
          after.sduQueue.queue.all
            (fun sdu => !after.sduQueue.check unlimitedConfig.queueSize sdu) &&
            after.retxQueue.isEmpty && after.snUnderSegmentation.isNone) := by
      decide +kernel
    obtain ⟨entity, after, hrun, rfl, h⟩ := transmits_of_eq hrecord hlast
    rw [hrun, all_some] at hstalled
    refine ⟨entity, _, _, _, _, h, .inl ?_, rfl⟩
    simpa [and_assoc] using hstalled
  · have hrecord : (firstOfThreeSdus.foldlM record
        (({} : TxEntity oneSduWindow), [])).map Prod.snd =
        some [.dataPdu false { p := false, si := .fullSdu, sn := 0, so := 0 } [1, 2]] := by
      decide +kernel
    have hlast : (firstOfThreeSdus.foldlM record (({} : TxEntity oneSduWindow), [])).map
        (fun state => (state.1.pullPdu 10 none).2) =
        some (.dataPdu false { p := false, si := .fullSdu, sn := 1, so := 0 } [3, 4]) := by
      decide +kernel
    have hfull : (firstOfThreeSdus.foldlM record (({} : TxEntity oneSduWindow), [])).all
        (fun state => (state.1.pullPdu 10 none).1.isTxWindowFull) := by decide +kernel
    obtain ⟨entity, after, hrun, rfl, h⟩ := transmits_of_eq hrecord hlast
    rw [hrun, all_some] at hfull
    exact ⟨entity, _, _, _, _, h, .inr hfull, rfl⟩

end ProtoRu.Rlc
