import ProtoRu.PdcpTxWindow
import ProtoRu.TransitionRuns

namespace ProtoRu.PdcpTx

open TxEntity Except

variable {cfg : TxConfig} {count : Nat} {notifSn : Nat}

section

variable (e : TxEntity cfg)

lemma ifAmDrb_cases (handle : TxEntity cfg → Except Fault (TxEntity cfg)) :
    e.ifAmDrb handle = .ok e ∨ e.ifAmDrb handle = handle e := by
  rw [ifAmDrb]
  split
  · exact .inl rfl
  split
  · exact .inl rfl
  · exact .inr rfl

lemma ifAmDrb_ok {e after : TxEntity cfg} {handle : TxEntity cfg → Except Fault (TxEntity cfg)}
    (h : e.ifAmDrb handle = .ok after) : after = e ∨ handle e = .ok after := by
  obtain heq | heq := ifAmDrb_cases e handle
  · exact .inl (ok.inj (h.symm.trans heq))
  · exact .inr (heq.symm.trans h)

lemma step_applyReordering {e after : TxEntity cfg} {i : Nat}
    (hok : step e (.applyReordering i) = .ok after) : after = e ∨ ∃ pdu,
      e.protectedPdus[i]? = some pdu ∧ ({ e with protectedPdus := e.protectedPdus.eraseIdx i } :
        TxEntity cfg).applyReordering pdu = .ok after := by
  rw [step] at hok
  cases hpdu : e.protectedPdus[i]? <;> rw [hpdu] at hok
  · exact .inl (ok.inj hok).symm
  · exact .inr ⟨_, rfl, hok⟩

lemma handleTransmitNotification_ne_delivery (notifSn count : Nat) :
    e.handleTransmitNotification notifSn ≠ .error (.delivery count) := by
  rw [handleTransmitNotification]
  split
  · exact nofun
  split
  · exact nofun
  split
  · exact nofun
  split
  · exact nofun
  split
  · exact stopDiscardTimer_ne_delivery _ _ _
  · exact nofun

lemma handleDeliveryNotification_ne_delivery (notifSn count : Nat) :
    e.handleDeliveryNotification notifSn ≠ .error (.delivery count) := by
  rw [handleDeliveryNotification]
  split
  · exact nofun
  split
  · exact nofun
  split
  · exact stopDiscardTimer_ne_delivery _ _ _
  · exact nofun

variable {e} {after : TxEntity cfg}

lemma handleTransmitNotification_ok (hok : e.handleTransmitNotification notifSn = .ok after) :
    after = e ∨ ∃ count, e.notificationCountEstimation notifSn = count ∧ e.txTrans ≤ count ∧
      count < e.txTransCrypto ∧
        (({ e with txTrans := count + 1 } : TxEntity cfg).stopDiscardTimer count = .ok after ∨
          after = { e with txTrans := count + 1 }) := by
  rw [handleTransmitNotification] at hok
  split at hok
  · exact .inl (ok.inj hok).symm
  split at hok
  · exact .inl (ok.inj hok).symm
  split at hok
  · exact .inl (ok.inj hok).symm
  split at hok
  · exact .inl (ok.inj hok).symm
  rename_i hcrypto htrans _
  refine .inr ⟨_, rfl, Nat.le_of_not_lt htrans, Nat.lt_of_not_le hcrypto, ?_⟩
  split at hok
  · exact .inl hok
  · exact .inr (ok.inj hok).symm

lemma handleDeliveryNotification_ok (hok : e.handleDeliveryNotification notifSn = .ok after) :
    after = e ∨ e.notificationCountEstimation notifSn < e.txNext ∧
      e.stopDiscardTimer (e.notificationCountEstimation notifSn) = .ok after := by
  rw [handleDeliveryNotification] at hok
  split at hok
  · exact .inl (ok.inj hok).symm
  split at hok
  · exact .inl (ok.inj hok).symm
  rename_i hnext
  split at hok
  · exact .inr ⟨Nat.lt_of_not_le hnext, hok⟩
  · exact .inl (ok.inj hok).symm

lemma shrunk_txTrans (hge : e.txTrans ≤ count) (hlt : count < e.txTransCrypto) :
    Shrunk e { e with txTrans := count + 1 } where
  frame := rfl
  elements := fun _ _ h => h
  lower := fun h => h
  txNextAck_le := le_rfl
  le_txNext := fun h => h
  le_txTrans := fun _ => by simp only; omega
  txTrans_le := by simp only; omega

lemma handleTransmitNotification_shrunk (h : e.handleTransmitNotification notifSn = .ok after) :
    Shrunk e after := by
  obtain rfl | ⟨count, -, hge, hlt, h | rfl⟩ := handleTransmitNotification_ok h
  · exact .refl _
  · exact (shrunk_txTrans hge hlt).trans (stopDiscardTimer_shrunk h)
  · exact shrunk_txTrans hge hlt

lemma handleTransmitNotification_hasSn {notifSn count : Nat}
    (h : e.handleTransmitNotification notifSn = .ok after) (hge : e.txTransCrypto ≤ count)
    (hsn : e.hasSn count) : after.hasSn count := by
  obtain rfl | ⟨notified, -, -, hlt, h | rfl⟩ := handleTransmitNotification_ok h
  · exact hsn
  · exact stopDiscardTimer_hasSn h (hlt.trans_le hge) hsn
  · exact hsn

lemma handleDeliveryNotification_shrunk (h : e.handleDeliveryNotification notifSn = .ok after) :
    Shrunk e after := by
  obtain rfl | ⟨-, h⟩ := handleDeliveryNotification_ok h
  · exact .refl _
  · exact stopDiscardTimer_shrunk h

end

section

variable (e : TxEntity cfg)

lemma discardFirst_shrunk : Shrunk e e.discardFirst := by
  have h := discardPdu_shrunk e e.txNextAck
  refine ⟨?_, h.elements, h.lower, h.txNextAck_le, h.le_txNext, h.le_txTrans, h.txTrans_le⟩
  exact (congrArg (fun x : TxEntity cfg =>
    { x with timerDiscards := e.discardFirst.timerDiscards }) h.frame :)

lemma shrunk_discardDeadline (deadline : Option Nat) :
    Shrunk e { e with discardDeadline := deadline } :=
  ⟨rfl, fun _ _ h => h, id, le_rfl, id, id, by simp only; omega⟩

lemma discardOldest_shrunk (oldestTimepoint rounds : Nat) (e : TxEntity cfg) :
    Shrunk e (discardOldest oldestTimepoint rounds e) := by
  induction rounds generalizing e with
  | zero => exact .refl e
  | succ rounds ih =>
    have hfirst := discardFirst_shrunk e
    rw [discardOldest]
    split
    · exact hfirst
    split
    · exact hfirst.trans (shrunk_discardDeadline _ _)
    split
    · exact hfirst
    · exact hfirst.trans (ih _)

lemma discardCallback_shrunk : Shrunk e e.discardCallback := by
  rw [discardCallback]
  split
  · exact shrunk_discardDeadline e none
  · exact (shrunk_discardDeadline e none).trans (discardOldest_shrunk _ _ _)

def arrivalTick (e : TxEntity cfg) (count : Nat) : Option Nat :=
  (e.txWindow.get? count).map fun elem => elem.tickPointOfArrival % 2 ^ 32

lemma arrivalTick_of_shrunk {e after : TxEntity cfg} (h : Shrunk e after)
    (hsn : after.hasSn count) : arrivalTick after count = arrivalTick e count := by
  obtain ⟨elem, helem⟩ := (CircularMap.contains_iff _).mp hsn
  rw [arrivalTick, arrivalTick, helem, h.elements count elem helem]

lemma discardOldest_hasSn {oldestTimepoint count : Nat} (rounds : Nat) {e : TxEntity cfg}
    (holdest : arrivalTick e e.txNextAck = some (oldestTimepoint % 2 ^ 32))
    (hother : arrivalTick e count ≠ some (oldestTimepoint % 2 ^ 32)) (hsn : e.hasSn count) :
    (discardOldest oldestTimepoint rounds e).hasSn count := by
  induction rounds generalizing e with
  | zero => exact hsn
  | succ rounds ih =>
    have hne : count ≠ e.txNextAck := by
      rintro rfl
      exact hother holdest
    have hkept : e.discardFirst.hasSn count := discardPdu_hasSn e hne hsn
    rw [discardOldest]
    split
    · exact hkept
    rename_i elem helem
    split
    · exact hkept
    split
    · exact hkept
    rename_i htick _
    apply ih _ _ hkept
    · rw [arrivalTick, helem, Option.map_some, not_not.mp htick]
    · rw [arrivalTick_of_shrunk (discardFirst_shrunk e) hkept]
      exact hother

lemma discardCallback_hasSn (hother : arrivalTick e count ≠ arrivalTick e e.txNextAck)
    (hsn : e.hasSn count) : e.discardCallback.hasSn count := by
  rw [discardCallback]
  split
  · exact hsn
  rename_i elem helem
  have holdest : arrivalTick e e.txNextAck = some (elem.tickPointOfArrival % 2 ^ 32) := by
    rw [arrivalTick, helem, Option.map_some]
  rw [holdest] at hother
  exact discardOldest_hasSn _ holdest hother hsn

end

section

/-- What the delivery of PDUs has to keep for a property to survive it. -/
structure LoopInvariant (inv : TxEntity cfg → Prop) : Prop where
  write : ∀ e count elem pdu isRetx, inv e → e.txWindow.get? count = some elem →
    elem.pdu = some pdu → inv (e.writeDataPdu count pdu isRetx)
  notify : cfg.testMode → ∀ e notifSn after, inv e →
    e.handleTransmitNotification notifSn = .ok after → inv after
  crypto : ∀ e count, inv e → inv { e with txTransCrypto := count }
  reordering : ∀ e count running, inv e →
    inv { e with txReordCrypto := count, reorderingRunning := running }

variable {inv : TxEntity cfg → Prop} {e after : TxEntity cfg}

namespace LoopInvariant

variable (h : LoopInvariant inv)

include h

lemma deliverInOrder {isRetx : Bool} {rounds : Nat} {e : TxEntity cfg} (he : inv e)
    (hok : e.deliverInOrder isRetx rounds = .ok after) : inv after := by
  induction rounds generalizing e with
  | zero =>
    cases hok
    exact he
  | succ rounds ih =>
    rw [TxEntity.deliverInOrder] at hok
    split at hok
    · cases hok
    rename_i elem helem
    split at hok
    · cases hok
      exact he
    rename_i pdu hpdu
    have hwrit := h.write e _ elem pdu isRetx he helem hpdu
    split_ifs at hok with htest
    · obtain ⟨notified, hnotif, hrest⟩ := bind_eq_ok_iff.mp hok
      exact ih (h.notify htest _ _ _ hwrit hnotif) hrest
    · exact ih hwrit hok

lemma startReordering (he : inv e) : inv e.startReordering := by
  rw [TxEntity.startReordering]
  split
  · exact h.reordering e _ _ he
  · exact he

lemma stopReordering (he : inv e) : inv e.stopReordering := by
  rw [TxEntity.stopReordering]
  split
  · exact h.reordering e _ _ he
  · exact he

lemma passCounts (rounds : Nat) {e : TxEntity cfg} (he : inv e) : inv (e.passCounts rounds) := by
  induction rounds generalizing e with
  | zero => exact he
  | succ rounds ih =>
    apply ih
    apply h.crypto
    rw [passCount]
    split
    · rename_i pdu hpdu
      obtain ⟨elem, helem, hstored⟩ := Option.bind_eq_some_iff.mp hpdu
      exact h.write e _ elem pdu false he helem hstored
    · exact h.crypto e _ he

lemma cryptoReorderingTimeout (he : inv e) (hok : e.cryptoReorderingTimeout = .ok after) :
    inv after := by
  rw [TxEntity.cryptoReorderingTimeout, map_eq_ok_iff] at hok
  obtain ⟨delivered, hloop, rfl⟩ := hok
  exact h.startReordering (h.deliverInOrder (h.passCounts _ (h.reordering e _ _ he)) hloop)

lemma applyReordering {pdu : Pdu} (he : inv e)
    (hstore : pdu.task.retxId % 2 ^ 16 = e.retransmitId % 2 ^ 16 → inv (e.storePdu pdu))
    (hok : e.applyReordering pdu = .ok after) : inv after := by
  rw [TxEntity.applyReordering] at hok
  split at hok
  · cases hok
    exact he
  rename_i hcur
  split at hok
  · cases hok
    exact he
  split at hok
  · cases hok
    exact he
  split at hok
  · cases hok
    exact he
  rw [map_eq_ok_iff] at hok
  obtain ⟨delivered, hloop, rfl⟩ := hok
  exact h.startReordering (h.stopReordering (h.deliverInOrder (hstore (by simpa using hcur)) hloop))

end LoopInvariant

end

end ProtoRu.PdcpTx
