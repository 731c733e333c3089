import ProtoRu.PdcpDiscardTimer

namespace ProtoRu.PdcpTx

open TxEntity

variable {cfg : TxConfig} {ms : Nat}

/-- No SDU is overdue, if the delivery of a PDU is to trigger its own notification. -/
def NotLate (e : TxEntity cfg) : Prop := cfg.testMode → ∀ count < e.txNext, ¬ Overdue e count

lemma loop_timed (hms : cfg.duration = some ms) :
    LoopInvariant fun e : TxEntity cfg => Timed ms e ∧ NotLate e where
  write := by
    intro e count elem pdu isRetx ⟨htimed, hlate⟩ helem hpdu
    have harr (other : Nat) :
        arrival (e.writeDataPdu count pdu isRetx) other = arrival e other := by
      have hget : (e.writeDataPdu count pdu isRetx).txWindow.get? other = _ :=
        CircularMap.get?_modify e.txWindow count other _
      rw [arrival, hget, arrival]
      split_ifs with heq
      · rw [heq, helem]
        rfl
      · rfl
    refine ⟨htimed.of_eq harr rfl rfl rfl rfl rfl, fun htest other hlt hdue => ?_⟩
    rw [Overdue, harr] at hdue
    exact hlate htest other hlt hdue
  notify := by
    intro htest e notifSn after ⟨htimed, hlate⟩ hok
    have hall (count : Nat) : ¬ Overdue e count := by
      rintro ⟨tick, htick, hdue⟩
      exact hlate htest count (htimed.inside count tick htick).2.1 ⟨tick, htick, hdue⟩
    have hshrunk := handleTransmitNotification_shrunk hok
    have hnow : after.now = e.now := (congrArg TxEntity.now hshrunk.frame :)
    refine ⟨handleTransmitNotification_timed hms (duration_bounds hms).2 htimed (hall _) hok, ?_⟩
    rintro - count - ⟨tick, htick, ms', hms', hdue⟩
    rw [hnow] at hdue
    exact hall count ⟨tick, arrival_of_shrunk hshrunk htick, ms', hms', hdue⟩
  crypto := by
    intro e count ⟨htimed, hlate⟩
    exact ⟨htimed.of_eq (fun _ => rfl) rfl rfl rfl rfl rfl, hlate⟩
  reordering := by
    intro e count running ⟨htimed, hlate⟩
    exact ⟨htimed.of_eq (fun _ => rfl) rfl rfl rfl rfl rfl, hlate⟩

/-- SDUs are copied, get their header and leave room in the window of an SRB; no report
acknowledges the oldest SDU; callbacks and notifications come on time. Data recovery and
re-establishment are left out. -/
def OnTime (e : TxEntity cfg) : Event → Prop
  | .sdu _ copied payload =>
    copied = true ∧ payload.isSome ∧
      (cfg.rbType = .srb → e.txNext < e.txNextAck + cfg.snSize.windowSize)
  | .applyReordering _ | .cryptoReorderingTimeout => NotLate e
  | .discardCallback =>
    (∃ deadline ∈ e.discardDeadline, deadline ≤ e.now) → ¬ Overdue e e.txNextAck
  | .transmitNotification notifSn | .deliveryNotification notifSn
  | .retransmitNotification notifSn | .deliveryRetransmittedNotification notifSn =>
    ¬ Overdue e (e.notificationCountEstimation notifSn + 1)
  | .statusReport status => e.txNextAck < e.txNext → ¬ Acknowledges status e.txNextAck
  | .dataRecovery _ | .reestablish _ => False
  | _ => True

instance (e : TxEntity cfg) (event : Event) : Decidable (OnTime e event) := by
  cases event <;> unfold OnTime <;> try unfold NotLate
  all_goals infer_instance

lemma step_timed (hms : cfg.duration = some ms) (before : TxEntity cfg) (event : Event)
    (after : TxEntity cfg) (h : Timed ms before) (hontime : OnTime before event)
    (hok : step before event = .ok after) : Timed ms after := by
  have hmax := (duration_bounds hms).2
  cases event with
  | sdu sdu copied payload =>
    cases hok
    obtain ⟨rfl, hpay, hroom⟩ := hontime
    obtain ⟨payload, rfl⟩ := Option.isSome_iff_exists.mp hpay
    exact handleSdu_timed hms h hroom sdu payload
  | applySecurity i =>
    cases hok
    cases before.tasks[i]? with
    | none => exact h
    | some task => exact h.of_eq (fun _ => rfl) rfl rfl rfl rfl rfl
  | dropTask i | dropPdu i | desiredBufferSize desired =>
    cases hok
    exact h.of_eq (fun _ => rfl) rfl rfl rfl rfl rfl
  | applyReordering i =>
    obtain rfl | ⟨pdu, hpdu, hok⟩ := step_applyReordering hok
    · exact h
    have htaken : Timed ms { before with protectedPdus := before.protectedPdus.eraseIdx i } :=
      h.of_eq (fun _ => rfl) rfl rfl rfl rfl rfl
    refine ((loop_timed hms).applyReordering ⟨htaken, hontime⟩ (fun _ => ?_) hok).1
    have harr (count : Nat) : arrival (before.storePdu pdu) count = arrival before count := by
      have hget : (before.storePdu pdu).txWindow.get? count = _ :=
        CircularMap.get?_modify before.txWindow pdu.task.count count _
      rw [arrival, hget]
      split_ifs with heq
      · rw [heq, Option.map_map]
        rfl
      · rfl
    refine ⟨htaken.of_eq harr rfl rfl rfl rfl rfl, fun htest count hlt hdue => ?_⟩
    obtain ⟨tick, htick, hlate⟩ := hdue
    exact hontime htest count hlt ⟨tick, (harr count).symm.trans htick, hlate⟩
  | cryptoReorderingTimeout =>
    rw [step] at hok
    split at hok
    · exact ((loop_timed hms).cryptoReorderingTimeout ⟨h, hontime⟩ hok).1
    · cases hok
      exact h
  | tick =>
    cases hok
    refine ⟨?_, h.oldest, h.le_next, h.sorted, ?_, h.idle, h.never_early⟩
    · intro count tick htick
      obtain ⟨hge, hlt, hpast⟩ := h.inside count tick htick
      exact ⟨hge, hlt, hpast.trans (Nat.le_succ _)⟩
    · intro tick htick
      obtain ⟨deadline, hdeadline, hlow, hhigh⟩ := h.armed tick htick
      exact ⟨deadline, hdeadline, hlow, by simp only; omega⟩
  | discardCallback =>
    cases hok
    split_ifs with hdue
    · exact discardCallback_timed hms hmax h hdue (hontime hdue)
    · exact h
  | transmitNotification notifSn =>
    exact handleTransmitNotification_timed hms hmax h hontime hok
  | deliveryNotification notifSn =>
    exact handleDeliveryNotification_timed hms hmax h hontime hok
  | retransmitNotification notifSn =>
    rw [step] at hok
    obtain rfl | hok := ifAmDrb_ok hok
    · exact h
    · exact handleTransmitNotification_timed hms hmax h hontime hok
  | deliveryRetransmittedNotification notifSn =>
    rw [step] at hok
    obtain rfl | hok := ifAmDrb_ok hok
    · exact h
    · exact handleDeliveryNotification_timed hms hmax h hontime hok
  | statusReport status =>
    cases hok
    exact handleStatusReport_timed h hontime
  | dataRecovery prepare | reestablish prepare => exact hontime.elim

/-- Without a finite discard timer, the timer never runs. -/
structure Quiet (e : TxEntity cfg) : Prop where
  stopped : e.discardDeadline = none
  none_discarded : e.timerDiscards = []

section

variable {e after : TxEntity cfg} {notifSn : Nat}

section

variable (hms : cfg.duration = none)

include hms

lemma stopDiscardTimer_quiet (h : Quiet e) {highestCount : Nat}
    (hok : e.stopDiscardTimer highestCount = .ok after) : Quiet after := by
  obtain heq | ⟨hle, -, -, heq⟩ := stopDiscardTimer_cases e highestCount
  · rw [heq] at hok
    cases hok
    exact h
  rw [heq, rearmDiscardTimer] at hok
  simp only [hms] at hok
  cases hok
  obtain ⟨-, -, -, hdue, hdisc, -⟩ := stopped_spec e hle
  exact ⟨hdue, hdisc.trans h.none_discarded⟩

lemma handleTransmitNotification_quiet (h : Quiet e)
    (hok : e.handleTransmitNotification notifSn = .ok after) : Quiet after := by
  have hraised (count : Nat) : Quiet { e with txTrans := count } := ⟨h.stopped, h.none_discarded⟩
  obtain rfl | ⟨count, -, -, -, hok | rfl⟩ := handleTransmitNotification_ok hok
  · exact h
  · exact stopDiscardTimer_quiet hms (hraised _) hok
  · exact hraised _

lemma handleDeliveryNotification_quiet (h : Quiet e)
    (hok : e.handleDeliveryNotification notifSn = .ok after) : Quiet after := by
  obtain rfl | ⟨-, hok⟩ := handleDeliveryNotification_ok hok
  · exact h
  · exact stopDiscardTimer_quiet hms h hok

lemma loop_quiet : LoopInvariant (@Quiet cfg) where
  write := fun _ _ _ _ _ h _ _ => ⟨h.stopped, h.none_discarded⟩
  notify := fun _ _ _ _ h hok => handleTransmitNotification_quiet hms h hok
  crypto := fun _ _ h => ⟨h.stopped, h.none_discarded⟩
  reordering := fun _ _ _ h => ⟨h.stopped, h.none_discarded⟩

lemma handleSdu_quiet (h : Quiet e) (sdu : Bytes) (copied : Bool)
    (payload : Option Bytes) : Quiet (e.handleSdu sdu copied payload) := by
  have hstart : e.startDiscardTimer = e := by
    rw [startDiscardTimer]
    simp [hms]
  rw [handleSdu, hstart]
  split
  · exact h
  split
  · exact h
  split
  · exact h
  · cases payload with
    | none | some payload => exact ⟨h.stopped, h.none_discarded⟩

lemma step_quiet (before : TxEntity cfg) (event : Event) (after : TxEntity cfg) (h : Quiet before)
    (hontime : OnTime before event) (hok : step before event = .ok after) : Quiet after := by
  cases event with
  | sdu sdu copied payload =>
    cases hok
    exact handleSdu_quiet hms h sdu copied payload
  | applySecurity i =>
    cases hok
    cases before.tasks[i]? with
    | none => exact h
    | some task => exact ⟨h.stopped, h.none_discarded⟩
  | applyReordering i =>
    obtain rfl | ⟨pdu, hpdu, hok⟩ := step_applyReordering hok
    · exact h
    have htaken : Quiet { before with protectedPdus := before.protectedPdus.eraseIdx i } :=
      ⟨h.stopped, h.none_discarded⟩
    exact (loop_quiet hms).applyReordering htaken (fun _ => ⟨h.stopped, h.none_discarded⟩) hok
  | cryptoReorderingTimeout =>
    rw [step] at hok
    split at hok
    · exact (loop_quiet hms).cryptoReorderingTimeout h hok
    · cases hok
      exact h
  | discardCallback =>
    cases hok
    rw [if_neg (by rw [h.stopped]; simp)]
    exact h
  | transmitNotification notifSn => exact handleTransmitNotification_quiet hms h hok
  | deliveryNotification notifSn => exact handleDeliveryNotification_quiet hms h hok
  | retransmitNotification notifSn =>
    rw [step] at hok
    obtain rfl | hok := ifAmDrb_ok hok
    · exact h
    · exact handleTransmitNotification_quiet hms h hok
  | deliveryRetransmittedNotification notifSn =>
    rw [step] at hok
    obtain rfl | hok := ifAmDrb_ok hok
    · exact h
    · exact handleDeliveryNotification_quiet hms h hok
  | statusReport status =>
    cases hok
    obtain heq | ⟨counts, heq, -⟩ := handleStatusReport_cases before status
    · rw [heq]
      exact h
    · rw [heq]
      obtain ⟨hdue, hdisc⟩ := discardPdus_timer counts before
      exact ⟨hdue.trans h.stopped, hdisc.trans h.none_discarded⟩
  | dropTask | dropPdu | tick | desiredBufferSize =>
    cases hok
    exact ⟨h.stopped, h.none_discarded⟩
  | dataRecovery prepare | reestablish prepare => exact hontime.elim

end

end

lemma initial_timed (ms : Nat) (start : Nat) : Timed ms ({ now := start } : TxEntity cfg) where
  inside := nofun
  oldest := nofun
  le_next := le_rfl
  sorted := nofun
  armed := nofun
  idle := fun _ => rfl
  never_early := nofun

def timeoutRun : List Event :=
  [.desiredBufferSize 4096, .sdu [1] true (some [1])] ++ List.replicate 4 .tick ++
    [.sdu [2] true (some [2])] ++ List.replicate 6 .tick ++ [.discardCallback]

def acknowledgedOldest : List Event :=
  [.desiredBufferSize 4096, .sdu [1] true (some [1])] ++ List.replicate 9 .tick ++
    [.sdu [2] true (some [2]), .statusReport [0, 0, 0, 0, 1], .tick, .discardCallback]

end ProtoRu.PdcpTx
