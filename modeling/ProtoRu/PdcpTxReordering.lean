import ProtoRu.PdcpTxEvents

/-!
The order of the state variables of a transmitting PDCP entity, and the lookups of the
loops that deliver protected PDUs in order. The loops do not check that a COUNT is in the
window before they look it up, and nothing keeps the discard timer or a status report from
removing an SDU whose PDU is still on its way through the crypto workers. As long as no
such SDU is removed, every lookup finds its COUNT.
-/

namespace ProtoRu.PdcpTx

open TxEntity CircularMap

variable {cfg : TxConfig}

/-- The state variables are in order, and every SDU not delivered yet is in the window. -/
structure Ordered (e : TxEntity cfg) : Prop where
  lower : Lower e
  ack_le_trans : e.txNextAck ≤ e.txTrans
  trans_le_crypto : e.txTrans ≤ e.txTransCrypto
  crypto_le_next : e.txTransCrypto ≤ e.txNext
  present : ∀ count, e.txTransCrypto ≤ count → count < e.txNext → e.hasSn count

/-- Between two events, the reordering timer waits for a COUNT not delivered yet. -/
structure Settled (e : TxEntity cfg) : Prop extends Ordered e where
  reordering : e.reorderingRunning → e.txTransCrypto ≤ e.txReordCrypto
  reord_le_next : e.txReordCrypto ≤ e.txNext
  next_le_hard : e.txNext ≤ cfg.maxCountHard

variable {notifSn : Nat} {e : TxEntity cfg}

section

variable {e after : TxEntity cfg}

section

variable (h : Ordered e) (hsn : ∀ count, after.hasSn count = e.hasSn count)
  (hack : after.txNextAck = e.txNextAck) (htrans : after.txTrans = e.txTrans)

include h hsn hack htrans

/-- Passing over COUNTs that are in the window keeps the order. -/
lemma Ordered.passed (hge : e.txTransCrypto ≤ after.txTransCrypto)
    (hle : after.txTransCrypto ≤ e.txNext) (hnext : after.txNext = e.txNext) : Ordered after where
  lower := by simpa [Lower, hsn, hack] using h.lower
  ack_le_trans := by simpa [hack, htrans] using h.ack_le_trans
  trans_le_crypto := by
    rw [htrans]
    exact h.trans_le_crypto.trans hge
  crypto_le_next := by rwa [hnext]
  present := by
    intro count hcount hlt
    rw [hsn]
    exact h.present count (hge.trans hcount) (hnext ▸ hlt)

lemma Ordered.of_eq (hcrypto : after.txTransCrypto = e.txTransCrypto)
    (hnext : after.txNext = e.txNext) : Ordered after :=
  h.passed hsn hack htrans hcrypto.ge (hcrypto.trans_le h.crypto_le_next) hnext

end

lemma Ordered.shrunk (h : Ordered e) (hshrunk : Shrunk e after)
    (hkept : ∀ count, e.txTransCrypto ≤ count → count < e.txNext → after.hasSn count) :
    Ordered after := by
  have hlower := hshrunk.lower h.lower
  have hedge : e.txNextAck ≤ e.txNext :=
    h.ack_le_trans.trans (h.trans_le_crypto.trans h.crypto_le_next)
  have hack : after.txNextAck ≤ e.txTransCrypto := by
    obtain heq | hlt := h.crypto_le_next.eq_or_lt
    · rw [heq]
      exact hshrunk.le_txNext hedge
    · exact hlower _ (hkept _ le_rfl hlt)
  refine ⟨hlower, hshrunk.le_txTrans h.ack_le_trans, ?_, ?_, ?_⟩
  · have hle := hshrunk.txTrans_le
    have htrans := h.trans_le_crypto
    rw [hshrunk.txTransCrypto]
    omega
  · rw [hshrunk.txTransCrypto, hshrunk.txNext]
    exact h.crypto_le_next
  · rwa [hshrunk.txTransCrypto, hshrunk.txNext]

lemma handleTransmitNotification_ordered (h : Ordered e)
    (hok : e.handleTransmitNotification notifSn = .ok after) : Ordered after := by
  apply h.shrunk (handleTransmitNotification_shrunk hok)
  intro count hge hlt
  exact handleTransmitNotification_hasSn hok hge (h.present count hge hlt)

lemma writeDataPdu_ordered (h : Ordered e) (hlt : e.txTransCrypto < e.txNext) (pdu : Pdu)
    (isRetx : Bool) : Ordered (e.writeDataPdu e.txTransCrypto pdu isRetx) :=
  h.passed (fun _ => contains_modify _ _ _ _) rfl rfl (Nat.le_succ _) hlt rfl

structure SameTimer (before after : TxEntity cfg) : Prop where
  txNext : after.txNext = before.txNext
  txReordCrypto : after.txReordCrypto = before.txReordCrypto
  reorderingRunning : after.reorderingRunning = before.reorderingRunning

lemma sameTimer_of_shrunk (h : Shrunk e after) : SameTimer e after :=
  ⟨h.txNext, (congrArg TxEntity.txReordCrypto h.frame :),
    (congrArg TxEntity.reorderingRunning h.frame :)⟩

lemma SameTimer.trans {middle : TxEntity cfg} (h : SameTimer e middle)
    (h' : SameTimer middle after) : SameTimer e after :=
  ⟨h'.txNext.trans h.txNext, h'.txReordCrypto.trans h.txReordCrypto,
    h'.reorderingRunning.trans h.reorderingRunning⟩

/-- No lookup of a delivery loop fails, and the result has a property. -/
def Finds (result : Except Fault (TxEntity cfg)) (property : TxEntity cfg → Prop) : Prop :=
  (∀ count, result ≠ .error (.delivery count)) ∧ ∀ after, result = .ok after → property after

lemma finds_ok {property : TxEntity cfg → Prop} (h : property e) : Finds (.ok e) property :=
  ⟨fun _ herror => (by cases herror), by rintro after ⟨⟩; exact h⟩

variable {result : Except Fault (TxEntity cfg)} {property property' : TxEntity cfg → Prop}

section

variable (h : Finds result property)

include h

lemma Finds.mono (hf : ∀ after, property after → property' after) : Finds result property' :=
  ⟨h.1, fun after hafter => hf after (h.2 after hafter)⟩

lemma Finds.bind {f : TxEntity cfg → Except Fault (TxEntity cfg)}
    (hf : ∀ middle, property middle → Finds (f middle) property') :
    Finds (result.bind f) property' := by
  cases result with
  | error fault =>
    refine ⟨?_, fun _ hok => (by cases hok)⟩
    rintro count ⟨⟩
    exact h.1 count rfl
  | ok middle => exact hf middle (h.2 middle rfl)

lemma Finds.map {f : TxEntity cfg → TxEntity cfg}
    (hf : ∀ middle, property middle → property' (f middle)) : Finds (result.map f) property' := by
  have hbind := h.bind fun middle hmiddle => finds_ok (hf middle hmiddle)
  cases result <;> exact hbind

end

lemma deliverInOrder_spec (isRetx : Bool) (rounds : Nat) (h : Ordered e)
    (hrounds : e.txTransCrypto + rounds = e.txNext) :
    Finds (deliverInOrder isRetx rounds e) fun after => Ordered after ∧ SameTimer e after := by
  induction rounds generalizing e with
  | zero => exact finds_ok ⟨h, rfl, rfl, rfl⟩
  | succ rounds ih =>
    have hlt : e.txTransCrypto < e.txNext := by omega
    obtain ⟨elem, helem⟩ :=
      (contains_iff _).mp (h.present _ le_rfl hlt)
    rw [deliverInOrder, helem]
    cases hpdu : elem.pdu with
    | none =>
      simp only [hpdu]
      exact finds_ok ⟨h, rfl, rfl, rfl⟩
    | some pdu =>
      have hwrit := writeDataPdu_ordered h hlt pdu isRetx
      have hwritSame : SameTimer e (e.writeDataPdu e.txTransCrypto pdu isRetx) := ⟨rfl, rfl, rfl⟩
      have hreach : (e.writeDataPdu e.txTransCrypto pdu isRetx).txTransCrypto + rounds =
          e.txNext := by
        simp only [writeDataPdu]
        omega
      simp only [hpdu]
      split
      · refine Finds.bind ⟨handleTransmitNotification_ne_delivery _ _, fun _ hnotif => hnotif⟩
          fun notified hnotif => ?_
        have hshrunk := handleTransmitNotification_shrunk hnotif
        apply (ih (handleTransmitNotification_ordered hwrit hnotif)
          (by rw [hshrunk.txTransCrypto, hshrunk.txNext]; exact hreach)).mono
        rintro after ⟨hord, hsame⟩
        exact ⟨hord, hwritSame.trans ((sameTimer_of_shrunk hshrunk).trans hsame)⟩
      · exact (ih hwrit hreach).mono fun _ hafter => ⟨hafter.1, hwritSame.trans hafter.2⟩

lemma passCount_spec (h : Ordered e) (hlt : e.txTransCrypto < e.txNext) :
    Ordered e.passCount ∧ e.passCount.txTransCrypto = e.txTransCrypto + 1 ∧
      SameTimer e e.passCount := by
  rw [passCount]
  split
  · exact ⟨writeDataPdu_ordered h hlt _ _, rfl, rfl, rfl, rfl⟩
  · exact ⟨h.passed (fun _ => rfl) rfl rfl (Nat.le_succ _) hlt rfl, rfl, rfl, rfl, rfl⟩

lemma passCounts_spec (rounds : Nat) (h : Ordered e) (hle : e.txTransCrypto + rounds ≤ e.txNext)
    (hnext : e.txNext < 2 ^ 32) :
    Ordered (passCounts rounds e) ∧ (passCounts rounds e).txTransCrypto = e.txTransCrypto + rounds ∧
      SameTimer e (passCounts rounds e) := by
  induction rounds generalizing e with
  | zero => exact ⟨h, rfl, rfl, rfl, rfl⟩
  | succ rounds ih =>
    obtain ⟨hord, hcrypto, hsame⟩ := passCount_spec h (by omega)
    have hwrap : e.passCount.txTransCrypto % 2 ^ 32 = e.txTransCrypto + 1 := by
      rw [hcrypto, Nat.mod_eq_of_lt (by omega)]
    rw [passCounts]
    obtain ⟨hfinal, hreach, hrest⟩ := @ih
      { e.passCount with txTransCrypto := e.passCount.txTransCrypto % 2 ^ 32 }
      (hord.of_eq (fun _ => rfl) rfl rfl (hwrap.trans hcrypto.symm) rfl)
      (by simp only [hwrap, hsame.txNext]; omega) (by simp only [hsame.txNext]; exact hnext)
    refine ⟨hfinal, ?_, ?_⟩
    · rw [hreach]
      simp only [hwrap]
      omega
    · exact hsame.trans ⟨hrest.txNext, hrest.txReordCrypto, hrest.reorderingRunning⟩

end

section

variable {e after : TxEntity cfg}

lemma Settled.of_eq (h : Settled e) (hord : Ordered after) (hsame : SameTimer e after)
    (hcrypto : after.txTransCrypto = e.txTransCrypto) : Settled after where
  toOrdered := hord
  reordering := by
    rw [hsame.reorderingRunning, hsame.txReordCrypto, hcrypto]
    exact h.reordering
  reord_le_next := by
    rw [hsame.txReordCrypto, hsame.txNext]
    exact h.reord_le_next
  next_le_hard := by
    rw [hsame.txNext]
    exact h.next_le_hard

lemma Settled.shrunk (h : Settled e) (hshrunk : Shrunk e after)
    (hkept : ∀ count, e.txTransCrypto ≤ count → count < e.txNext → after.hasSn count) :
    Settled after :=
  h.of_eq (h.toOrdered.shrunk hshrunk hkept) (sameTimer_of_shrunk hshrunk) hshrunk.txTransCrypto

lemma startReordering_settled (h : Ordered e)
    (hreordering : e.reorderingRunning → e.txTransCrypto ≤ e.txReordCrypto)
    (hreord : e.txReordCrypto ≤ e.txNext) (hhard : e.txNext ≤ cfg.maxCountHard) :
    Settled e.startReordering := by
  rw [startReordering]
  split
  · exact ⟨h.of_eq (fun _ => rfl) rfl rfl rfl rfl, fun _ => h.crypto_le_next, le_rfl, hhard⟩
  · exact ⟨h, hreordering, hreord, hhard⟩

lemma stopReordering_settled (h : Ordered e) (hreord : e.txReordCrypto ≤ e.txNext)
    (hhard : e.txNext ≤ cfg.maxCountHard) : Settled e.stopReordering := by
  rw [stopReordering]
  split_ifs with hwaits
  · exact ⟨h.of_eq (fun _ => rfl) rfl rfl rfl rfl, fun hruns => (by cases hruns), hreord, hhard⟩
  · exact ⟨h, fun hruns => by by_contra hlt; exact hwaits ⟨hruns, by omega⟩, hreord, hhard⟩

lemma applyReordering_spec (h : Settled e) (pdu : Pdu) :
    Finds (e.applyReordering pdu) Settled := by
  rw [applyReordering]
  split
  · exact finds_ok h
  split
  · exact finds_ok h
  split
  · exact finds_ok h
  split
  · exact finds_ok h
  have hstored : Ordered (e.storePdu pdu) :=
    h.toOrdered.of_eq (fun _ => contains_modify _ _ _ _) rfl rfl rfl rfl
  apply (deliverInOrder_spec pdu.task.isRetx (e.txNext - e.txTransCrypto) hstored
    (Nat.add_sub_of_le h.crypto_le_next)).map
  rintro delivered ⟨hord, hsame⟩
  have hstop := stopReordering_settled hord
    (by rw [hsame.txReordCrypto, hsame.txNext]; exact h.reord_le_next)
    (by rw [hsame.txNext]; exact h.next_le_hard)
  exact startReordering_settled hstop.toOrdered hstop.reordering hstop.reord_le_next
    hstop.next_le_hard

lemma cryptoReorderingTimeout_spec (h : Settled e) (hruns : e.reorderingRunning) :
    Finds e.cryptoReorderingTimeout Settled := by
  have hnext : e.txNext < 2 ^ 32 := h.next_le_hard.trans_lt cfg.maxCountHard_lt
  have hreord := h.reord_le_next
  have hcrypto := h.reordering hruns
  have hrounds : unsignedOffset (2 ^ 32) (e.txTransCrypto % 2 ^ 32) e.txReordCrypto =
      e.txReordCrypto - e.txTransCrypto :=
    unsignedOffset_mod_eq (Nat.dvd_refl _) (Nat.ModEq.refl _) hcrypto (by omega)
  have hexpd : Ordered { e with reorderingRunning := false } :=
    h.toOrdered.of_eq (fun _ => rfl) rfl rfl rfl rfl
  obtain ⟨hpassed, -, hsame⟩ := passCounts_spec (e.txReordCrypto - e.txTransCrypto) hexpd
    (by simp only; omega) hnext
  rw [cryptoReorderingTimeout]
  simp only [hrounds]
  apply (deliverInOrder_spec false _ hpassed (Nat.add_sub_of_le hpassed.crypto_le_next)).map
  rintro delivered ⟨hord, hloopSame⟩
  have hfinal := hsame.trans hloopSame
  apply startReordering_settled hord
  · rw [hfinal.reorderingRunning]
    exact fun hruns => (by cases hruns)
  · rwa [hfinal.txReordCrypto, hfinal.txNext]
  · rw [hfinal.txNext]
    exact h.next_le_hard

lemma hasSn_addSdu (sdu : Bytes) {count : Nat} (hlt : count < e.txNext)
    (hroom : e.txNext < count + cfg.snSize.windowSize) (hsn : e.hasSn count) :
    (e.addSdu sdu).hasSn count := by
  have hslot : count % cfg.snSize.windowSize ≠ e.txNext % cfg.snSize.windowSize := by
    intro hslot
    have := eq_of_mod_eq_of_window (Nat.le_refl count) (by omega) hlt.le hroom hslot
    omega
  have hpres : e.txWindow.contains count := hsn
  refine (contains_overwrite _ _ _ _).trans ?_
  simp [hslot, hpres]

lemma txNext_lt_of_noDrop (h : Ordered e) {sdu : Bytes}
    (hdrop : e.checkEarlyDrop sdu = .noDrop) :
    e.txNext < e.txTransCrypto + cfg.snSize.windowSize := by
  have hack := h.ack_le_trans.trans h.trans_le_crypto
  rw [checkEarlyDrop] at hdrop
  split at hdrop
  · cases hdrop
  split at hdrop
  · cases hdrop
  split at hdrop
  · cases hdrop
  · omega

lemma startDiscardTimer_eq (e : TxEntity cfg) :
    ∃ deadline, e.startDiscardTimer = { e with discardDeadline := deadline } := by
  rw [startDiscardTimer]
  split
  · split <;> exact ⟨_, rfl⟩
  · exact ⟨_, rfl⟩

lemma addSdu_ordered (h : Ordered e) (sdu : Bytes)
    (hroom : e.txNext < e.txTransCrypto + cfg.snSize.windowSize) :
    Ordered (e.addSdu sdu) ∧ (e.addSdu sdu).hasSn e.txNext := by
  have hack := h.ack_le_trans.trans (h.trans_le_crypto.trans h.crypto_le_next)
  refine ⟨⟨?_, h.ack_le_trans, h.trans_le_crypto, h.crypto_le_next, ?_⟩, ?_⟩
  · intro count hcount
    have hsn := (contains_overwrite _ _ _ _).symm.trans hcount
    simp only [Bool.or_eq_true, decide_eq_true_eq, Bool.and_eq_true] at hsn
    obtain rfl | ⟨-, hold⟩ := hsn
    · exact hack
    · exact h.lower count hold
  · intro count hge hlt
    exact hasSn_addSdu sdu hlt (by simp only [addSdu] at hge; omega) (h.present count hge hlt)
  · refine (contains_overwrite _ _ _ _).trans ?_
    simp

lemma handleSdu_settled (h : Settled e)
    (hroom : cfg.rbType = .srb → e.txNext < e.txTransCrypto + cfg.snSize.windowSize)
    (sdu : Bytes) (copied : Bool) (payload : Option Bytes) :
    Settled (e.handleSdu sdu copied payload) := by
  obtain ⟨deadline, hstart⟩ := startDiscardTimer_eq e
  rw [handleSdu]
  split
  · exact h
  rename_i hkeep
  have hroom : e.txNext < e.txTransCrypto + cfg.snSize.windowSize := by
    cases hbearer : cfg.rbType with
    | srb => exact hroom hbearer
    | drb => exact txNext_lt_of_noDrop h.toOrdered (by simpa [hbearer] using hkeep)
  split
  · exact h
  have hord : Ordered e.startDiscardTimer := by
    rw [hstart]
    exact h.toOrdered.of_eq (fun _ => rfl) rfl rfl rfl rfl
  have hsame : SameTimer e e.startDiscardTimer := by
    rw [hstart]
    exact ⟨rfl, rfl, rfl⟩
  have hcrypto : e.startDiscardTimer.txTransCrypto = e.txTransCrypto := by rw [hstart]
  split
  · exact h.of_eq hord hsame hcrypto
  obtain ⟨hadded, hlast⟩ := addSdu_ordered hord sdu (by rw [hsame.txNext, hcrypto]; exact hroom)
  have haddedSame : SameTimer e (e.startDiscardTimer.addSdu sdu) := hsame.trans ⟨rfl, rfl, rfl⟩
  cases payload with
  | none => exact h.of_eq hadded haddedSame hcrypto
  | some payload =>
    have hnext : (e.startDiscardTimer.addSdu sdu).txNext = e.txNext := haddedSame.txNext
    refine ⟨⟨hadded.lower, hadded.ack_le_trans, hadded.trans_le_crypto,
      hadded.crypto_le_next.trans (Nat.le_succ _), ?_⟩, ?_, ?_, ?_⟩
    · intro count hge hlt
      obtain rfl | hne := eq_or_ne count e.startDiscardTimer.txNext
      · exact hlast
      · exact hadded.present count hge (Nat.lt_of_le_of_ne (Nat.le_of_lt_succ hlt) hne)
    · intro hruns
      have hwaits := h.reordering (hsame.reorderingRunning.symm.trans hruns)
      exact (hcrypto.trans_le hwaits).trans_eq haddedSame.txReordCrypto.symm
    · exact haddedSame.txReordCrypto.trans_le
        (h.reord_le_next.trans (hnext.symm.le.trans (Nat.le_succ _)))
    · simp only [Option.elim_some, hnext]
      omega

end

variable {e after : TxEntity cfg}

section

/-- Notifications, reports and the discard timer only remove delivered SDUs, and an SRB has room
for the next one. Data recovery and re-establishment are left out. -/
def Spares (e : TxEntity cfg) : Event → Prop
  | .sdu _ _ _ =>
    cfg.rbType = .srb → e.txNext < e.txTransCrypto + cfg.snSize.windowSize
  | .deliveryNotification notifSn | .deliveryRetransmittedNotification notifSn =>
    e.notificationCountEstimation notifSn < e.txTransCrypto ∨
      e.txNext ≤ e.notificationCountEstimation notifSn
  | .statusReport status =>
    ∀ count < e.txNext, e.txTransCrypto ≤ count → ¬ Acknowledges status count
  | .discardCallback =>
    (∃ deadline ∈ e.discardDeadline, deadline ≤ e.now) →
      ∀ count < e.txNext, e.txTransCrypto ≤ count → arrivalTick e count ≠ arrivalTick e e.txNextAck
  | .dataRecovery _ | .reestablish _ => False
  | _ => True

instance (e : TxEntity cfg) : ∀ event, Decidable (Spares e event) := by
  rintro ⟨⟩ <;> dsimp only [Spares] <;> infer_instance

lemma handleDeliveryNotification_settled (h : Settled e)
    (hspares : e.notificationCountEstimation notifSn < e.txTransCrypto ∨ e.txNext ≤
      e.notificationCountEstimation notifSn)
    (hok : e.handleDeliveryNotification notifSn = .ok after) : Settled after := by
  apply h.shrunk (handleDeliveryNotification_shrunk hok)
  intro count hge hlt
  have hsn := h.present count hge hlt
  obtain rfl | ⟨hnext, hok⟩ := handleDeliveryNotification_ok hok
  · exact hsn
  · exact stopDiscardTimer_hasSn hok (by omega) hsn

lemma handleTransmitNotification_settled (h : Settled e)
    (hok : e.handleTransmitNotification notifSn = .ok after) : Settled after := by
  have hshrunk := handleTransmitNotification_shrunk hok
  exact h.of_eq (handleTransmitNotification_ordered h.toOrdered hok) (sameTimer_of_shrunk hshrunk)
    hshrunk.txTransCrypto

lemma step_settled (before : TxEntity cfg) (event : Event) (after : TxEntity cfg)
    (h : Settled before) (hspares : Spares before event) (hok : step before event = .ok after) :
    Settled after := by
  -- What only moves tasks, PDUs, the clock or the buffer size of the lower layers.
  have hframe (other : TxEntity cfg) (hwindow : other.txWindow = before.txWindow)
      (hack : other.txNextAck = before.txNextAck) (htrans : other.txTrans = before.txTrans)
      (hcrypto : other.txTransCrypto = before.txTransCrypto) (hsame : SameTimer before other) :
      Settled other := by
    refine h.of_eq (h.toOrdered.of_eq ?_ hack htrans hcrypto hsame.txNext) hsame hcrypto
    intro count
    rw [hasSn, hasSn, hwindow]
  cases event with
  | sdu sdu copied payload =>
    cases hok
    exact handleSdu_settled h hspares sdu copied payload
  | applySecurity i =>
    cases hok
    cases before.tasks[i]? with
    | none => exact h
    | some task => exact hframe _ rfl rfl rfl rfl ⟨rfl, rfl, rfl⟩
  | dropTask i | dropPdu i | tick | desiredBufferSize desired =>
    cases hok
    exact hframe _ rfl rfl rfl rfl ⟨rfl, rfl, rfl⟩
  | applyReordering i =>
    obtain rfl | ⟨pdu, hpdu, hok⟩ := step_applyReordering hok
    · exact h
    have htaken : Settled { before with protectedPdus := before.protectedPdus.eraseIdx i } :=
      hframe _ rfl rfl rfl rfl ⟨rfl, rfl, rfl⟩
    exact (applyReordering_spec htaken pdu).2 after hok
  | cryptoReorderingTimeout =>
    rw [step] at hok
    split_ifs at hok with hruns
    · exact (cryptoReorderingTimeout_spec h hruns).2 after hok
    · cases hok
      exact h
  | discardCallback =>
    cases hok
    split_ifs with hdue
    · apply h.shrunk (discardCallback_shrunk before)
      intro count hge hlt
      exact discardCallback_hasSn before (hspares hdue count hlt hge) (h.present count hge hlt)
    · exact h
  | transmitNotification notifSn => exact handleTransmitNotification_settled h hok
  | deliveryNotification notifSn => exact handleDeliveryNotification_settled h hspares hok
  | retransmitNotification notifSn =>
    rw [step] at hok
    obtain rfl | hok := ifAmDrb_ok hok
    · exact h
    · exact handleTransmitNotification_settled h hok
  | deliveryRetransmittedNotification notifSn =>
    rw [step] at hok
    obtain rfl | hok := ifAmDrb_ok hok
    · exact h
    · exact handleDeliveryNotification_settled h hspares hok
  | statusReport status =>
    cases hok
    apply h.shrunk (handleStatusReport_shrunk before status)
    intro count hge hlt
    exact handleStatusReport_hasSn before (hspares count hlt hge) (h.present count hge hlt)
  | dataRecovery prepare | reestablish prepare => exact hspares.elim

lemma step_ne_delivery (count : Nat) (before : TxEntity cfg) (event : Event)
    (h : Settled before) : step before event ≠ .error (.delivery count) := by
  cases event with
  | applyReordering i =>
    rw [step]
    cases before.protectedPdus[i]? with
    | none => rintro ⟨⟩
    | some pdu =>
      have htaken : Settled { before with protectedPdus := before.protectedPdus.eraseIdx i } :=
        h.of_eq (h.toOrdered.of_eq (fun _ => rfl) rfl rfl rfl rfl) ⟨rfl, rfl, rfl⟩ rfl
      exact (applyReordering_spec htaken pdu).1 count
  | cryptoReorderingTimeout =>
    rw [step]
    split_ifs with hruns
    · exact (cryptoReorderingTimeout_spec h hruns).1 count
    · rintro ⟨⟩
  | transmitNotification notifSn => exact handleTransmitNotification_ne_delivery _ _ _
  | deliveryNotification notifSn => exact handleDeliveryNotification_ne_delivery _ _ _
  | retransmitNotification notifSn =>
    obtain heq | heq := ifAmDrb_cases before (·.handleTransmitNotification notifSn)
    · rw [step, heq]
      rintro ⟨⟩
    · rw [step, heq]
      exact handleTransmitNotification_ne_delivery _ _ _
  | deliveryRetransmittedNotification notifSn =>
    obtain heq | heq := ifAmDrb_cases before (·.handleDeliveryNotification notifSn)
    · rw [step, heq]
      rintro ⟨⟩
    · rw [step, heq]
      exact handleDeliveryNotification_ne_delivery _ _ _
  | sdu | applySecurity | dropTask | dropPdu | tick | discardCallback | desiredBufferSize
  | statusReport | dataRecovery | reestablish => rintro ⟨⟩

lemma initial_settled (cfg : TxConfig) (start : Nat) :
    Settled ({ now := start } : TxEntity cfg) where
  lower := nofun
  ack_le_trans := le_rfl
  trans_le_crypto := le_rfl
  crypto_le_next := le_rfl
  present := by
    intro count _ hlt
    exact absurd hlt (Nat.not_lt_zero _)
  reordering := nofun
  reord_le_next := le_rfl
  next_le_hard := Nat.zero_le _

/-- While no event removes an undelivered SDU, every COUNT is found and the state variables stay
in order. -/
theorem delivery_lookups_present (cfg : TxConfig) (start : Nat) (events : List Event)
    (hspares : GuardedRun step Spares ({ now := start } : TxEntity cfg) events) :
    (∀ count, events.foldlM step ({ now := start } : TxEntity cfg) ≠ .error (.delivery count)) ∧
      ∀ final, events.foldlM step ({ now := start } : TxEntity cfg) = .ok final →
        final.txNextAck ≤ final.txTrans ∧ final.txTrans ≤ final.txTransCrypto ∧
          final.txTransCrypto ≤ final.txNext := by
  have hinit := initial_settled cfg start
  refine ⟨fun count => ?_, fun final hrun => ?_⟩
  · exact hspares.ne_error Settled step_settled (fun before event h _ =>
      step_ne_delivery count before event h) hinit
  · have h := hspares.invariant Settled step_settled hrun hinit
    exact ⟨h.ack_le_trans, h.trans_le_crypto, h.crypto_le_next⟩

def inOrderRun : List Event :=
  [.desiredBufferSize 4096, .sdu [1] true (some [1]), .sdu [2] true (some [2]),
    .applySecurity 0, .applySecurity 0, .applyReordering 0, .deliveryNotification 0,
    .applyReordering 0, .deliveryNotification 1]

theorem inOrderRun_lookups_present :
    (∀ count, inOrderRun.foldlM step ({ now := 0 } : TxEntity amDrb) ≠ .error (.delivery count)) ∧
      ∀ final, inOrderRun.foldlM step ({ now := 0 } : TxEntity amDrb) = .ok final →
        final.txNextAck ≤ final.txTrans ∧ final.txTrans ≤ final.txTransCrypto ∧
          final.txTransCrypto ≤ final.txNext :=
  delivery_lookups_present amDrb 0 inOrderRun (by decide +kernel)

/-- The first SDU times out while its PDU is being protected; the PDU of the second one comes
after. -/
def discardedBeforeDelivery : List Event :=
  [.desiredBufferSize 4096, .sdu [1] true (some [1]), .tick, .sdu [2] true (some [2])] ++
    List.replicate 9 .tick ++ [.discardCallback, .applySecurity 1, .applyReordering 0]

theorem discardedBeforeDelivery_lookup_missing :
    discardedBeforeDelivery.foldlM step ({ now := 0 } : TxEntity amDrb) = .error (.delivery 0) := by
  rfl

end

end ProtoRu.PdcpTx
