import ProtoRu.PdcpTxEntity

namespace ProtoRu.PdcpTx

open TxEntity CircularMap List

variable {cfg : TxConfig}

def Lower (e : TxEntity cfg) : Prop := ∀ count, e.hasSn count → e.txNextAck ≤ count

/-- The entity with the window, the lower edges and the discard timer of another. -/
def withWindow (e other : TxEntity cfg) : TxEntity cfg :=
  { e with
    txWindow := other.txWindow
    sduBytes := other.sduBytes
    nofSdus := other.nofSdus
    txTrans := other.txTrans
    txNextAck := other.txNextAck
    discardDeadline := other.discardDeadline
    timerDiscards := other.timerDiscards }

/-- What an event does that only removes SDUs. -/
structure Shrunk (before after : TxEntity cfg) : Prop where
  frame : after = withWindow before after
  elements : ∀ count elem,
    after.txWindow.get? count = some elem → before.txWindow.get? count = some elem
  lower : Lower before → Lower after
  txNextAck_le : before.txNextAck ≤ after.txNextAck
  le_txNext : before.txNextAck ≤ before.txNext → after.txNextAck ≤ before.txNext
  le_txTrans : before.txNextAck ≤ before.txTrans → after.txNextAck ≤ after.txTrans
  txTrans_le : after.txTrans ≤ max (max before.txTrans after.txNextAck) before.txTransCrypto

namespace Shrunk

lemma refl (e : TxEntity cfg) : Shrunk e e where
  frame := rfl
  elements := fun _ _ h => h
  lower := id
  txNextAck_le := le_rfl
  le_txNext := id
  le_txTrans := id
  txTrans_le := by omega

variable {before middle after : TxEntity cfg}

lemma txNext (h : Shrunk before after) : after.txNext = before.txNext :=
  (congrArg TxEntity.txNext h.frame :)

lemma txTransCrypto (h : Shrunk before after) : after.txTransCrypto = before.txTransCrypto :=
  (congrArg TxEntity.txTransCrypto h.frame :)

lemma trans (h : Shrunk before middle) (h' : Shrunk middle after) : Shrunk before after where
  frame := h'.frame.trans (congrArg (withWindow · after) h.frame :)
  elements := fun count elem helem => h.elements count elem (h'.elements count elem helem)
  lower := fun hlower => h'.lower (h.lower hlower)
  txNextAck_le := h.txNextAck_le.trans h'.txNextAck_le
  le_txNext := by
    intro hle
    have hmiddle := h.le_txNext hle
    rw [← h.txNext] at hmiddle ⊢
    exact h'.le_txNext hmiddle
  le_txTrans := fun hle => h'.le_txTrans (h.le_txTrans hle)
  txTrans_le := by
    have hfirst := h.txTrans_le
    have hsecond := h'.txTrans_le
    have hle := h'.txNextAck_le
    rw [h.txTransCrypto] at hsecond
    omega

end Shrunk

variable {count : Nat} (counts : List Nat)

section

variable (e : TxEntity cfg)

lemma hasSn_removeSdu (count other : Nat) :
    (e.removeSdu count).hasSn other = (!decide (other = count) && e.hasSn other) :=
  e.txWindow.contains_erase count other

lemma removeOldest_spec (rounds : Nat) :
    (removeOldest rounds e).txNextAck = e.txNextAck + rounds ∧
      (∀ count, (removeOldest rounds e).txWindow.get? count =
        if e.txNextAck ≤ count ∧ count < e.txNextAck + rounds then none
        else e.txWindow.get? count) ∧
      removeOldest rounds e = { e with
          txNextAck := (removeOldest rounds e).txNextAck
          txWindow := (removeOldest rounds e).txWindow
          sduBytes := (removeOldest rounds e).sduBytes
          nofSdus := (removeOldest rounds e).nofSdus } := by
  induction rounds generalizing e with
  | zero =>
    refine ⟨rfl, ?_, rfl⟩
    intro count
    rw [if_neg (by omega), removeOldest]
  | succ rounds ih =>
    rw [removeOldest]
    obtain ⟨hack, hget, hframe⟩ :=
      ih { e.removeSdu e.txNextAck with txNextAck := e.txNextAck + 1 }
    refine ⟨by rw [hack]; exact Nat.add_right_comm _ _ _, ?_, ?_⟩
    · intro count
      rw [hget count]
      simp only [removeSdu, get?_erase]
      obtain rfl | hne := eq_or_ne count e.txNextAck
      · simp
      rw [if_neg hne]
      congr 1
      simp only [eq_iff_iff]
      omega
    · exact hframe

lemma skipMissing_spec (rounds : Nat) :
    ∃ ack, skipMissing rounds e = { e with txNextAck := ack } ∧ e.txNextAck ≤ ack ∧
      ack ≤ e.txNextAck + rounds ∧
      (∀ count, e.txNextAck ≤ count → count < ack → e.hasSn count = false) ∧
      (ack < e.txNextAck + rounds → e.hasSn ack) := by
  induction rounds generalizing e with
  | zero => exact ⟨e.txNextAck, rfl, le_rfl, le_rfl, by omega, by omega⟩
  | succ rounds ih =>
    rw [skipMissing]
    split
    · rename_i hfound
      exact ⟨e.txNextAck, rfl, le_rfl, by omega, by omega, fun _ => hfound⟩
    rename_i hmiss
    obtain ⟨ack, heq, hle, hge, hskip, hfound⟩ := ih { e with txNextAck := e.txNextAck + 1 }
    simp only at hle hge hskip hfound
    refine ⟨ack, heq, by omega, by omega, ?_, fun _ => hfound (by omega)⟩
    intro count hfirst hlast
    obtain rfl | hne := eq_or_ne count e.txNextAck
    · simpa using hmiss
    · exact hskip count (by omega) hlast

lemma discardPdu_eq (hcfg : cfg.discardTimer ≠ none) (hge : e.txNextAck ≤ count)
    (hlt : count < e.txNext) (hsn : e.hasSn count) : ∃ ack, e.discardPdu count =
        { e.removeSdu count with txNextAck := ack, txTrans := max e.txTrans ack } ∧
      e.txNextAck ≤ ack ∧ ack ≤ e.txNext ∧
      (∀ other, e.txNextAck ≤ other → other < ack → other = count ∨ e.hasSn other = false) ∧
      (ack < e.txNext → ack ≠ count ∧ e.hasSn ack) := by
  obtain ⟨ack, heq, hle, hbound, hskip, hfound⟩ :=
    skipMissing_spec (e.removeSdu count) (e.txNext - e.txNextAck)
  have hedge : (e.removeSdu count).txNextAck = e.txNextAck := rfl
  refine ⟨ack, ?_, hle, by omega, ?_, ?_⟩
  · rw [discardPdu, if_neg hcfg, if_neg (by omega), if_neg (by simp [hsn]), heq]
    rfl
  · intro other hother hbelow
    have hgone := hskip other hother hbelow
    rw [hasSn_removeSdu] at hgone
    simpa [Decidable.or_iff_not_imp_left] using hgone
  · intro hnext
    have hstays := hfound (by omega)
    rw [hasSn_removeSdu] at hstays
    simpa using hstays

lemma discardPdu_cases (count : Nat) : e.discardPdu count = e ∨ ∃ ack, e.discardPdu count =
          { e.removeSdu count with txNextAck := ack, txTrans := max e.txTrans ack } ∧
        e.txNextAck ≤ ack ∧ ack ≤ e.txNext ∧
        ∀ other, e.txNextAck ≤ other → other < ack → other = count ∨ e.hasSn other = false := by
  by_cases hdisc : cfg.discardTimer ≠ none ∧ e.txNextAck ≤ count ∧ count < e.txNext ∧ e.hasSn count
  · obtain ⟨hcfg, hge, hlt, hsn⟩ := hdisc
    obtain ⟨ack, heq, hle, hbound, hskip, -⟩ := discardPdu_eq e hcfg hge hlt hsn
    exact .inr ⟨ack, heq, hle, hbound, hskip⟩
  left
  rw [discardPdu]
  split
  · rfl
  split
  · rfl
  split
  · rfl
  · rename_i hcfg hinside hsn
    exact absurd ⟨hcfg, by omega, by omega, by simpa using hsn⟩ hdisc

lemma discardPdu_shrunk (count : Nat) : Shrunk e (e.discardPdu count) := by
  obtain heq | ⟨ack, heq, hle, hnext, hskip⟩ := discardPdu_cases e count
  · rw [heq]
    exact .refl e
  rw [heq]
  refine ⟨?_, ?_, ?_, hle, fun _ => hnext, fun _ => Nat.le_max_right _ _, Nat.le_max_left _ _⟩
  · rfl
  · intro other elem helem
    simp only [removeSdu, get?_erase] at helem
    split at helem
    · cases helem
    · exact helem
  · intro hlower other hother
    have hsn : (e.removeSdu count).hasSn other := hother
    rw [hasSn_removeSdu] at hsn
    simp only [Bool.and_eq_true, Bool.not_eq_true', decide_eq_false_iff_not] at hsn
    by_contra hbelow
    obtain hcount | habsent := hskip other (hlower other hsn.2) (Nat.lt_of_not_le hbelow)
    · exact hsn.1 hcount
    · rw [hsn.2] at habsent
      cases habsent

lemma discardPdu_hasSn {count other : Nat} (hne : other ≠ count) (hsn : e.hasSn other) :
    (e.discardPdu count).hasSn other := by
  obtain heq | ⟨ack, heq, -⟩ := discardPdu_cases e count
  · rwa [heq]
  · rw [heq]
    refine (hasSn_removeSdu e count other).trans ?_
    simp [hne, hsn]

lemma discardPdus_shrunk (e : TxEntity cfg) : Shrunk e (counts.foldl discardPdu e) := by
  induction counts generalizing e with
  | nil => exact .refl e
  | cons count rest ih => exact (discardPdu_shrunk e count).trans (ih _)

lemma discardPdus_timer (e : TxEntity cfg) :
    (counts.foldl discardPdu e).discardDeadline = e.discardDeadline ∧
      (counts.foldl discardPdu e).timerDiscards = e.timerDiscards := by
  induction counts generalizing e with
  | nil => exact ⟨rfl, rfl⟩
  | cons count rest ih =>
    obtain ⟨hdue, hdisc⟩ := ih (e.discardPdu count)
    rw [foldl_cons, hdue, hdisc]
    obtain heq | ⟨ack, heq, -⟩ := discardPdu_cases e count
    · rw [heq]
      exact ⟨rfl, rfl⟩
    · rw [heq]
      exact ⟨rfl, rfl⟩

lemma discardPdus_hasSn {counts : List Nat} {other : Nat} (hnot : other ∉ counts)
    {e : TxEntity cfg} (hsn : e.hasSn other) : (counts.foldl discardPdu e).hasSn other := by
  induction counts generalizing e with
  | nil => exact hsn
  | cons count rest ih =>
    rw [mem_cons, not_or] at hnot
    exact ih hnot.2 (discardPdu_hasSn e hnot.1 hsn)

def receivedCounts : Nat → List Bool → List Nat
  | _, [] => []
  | fmc, bit :: rest =>
    (if bit then [(fmc + 1) % 2 ^ 32] else []) ++ receivedCounts ((fmc + 1) % 2 ^ 32) rest

lemma discardReceived_eq (e : TxEntity cfg) (fmc : Nat) (bits : List Bool) :
    discardReceived e fmc bits = (receivedCounts fmc bits).foldl discardPdu e := by
  induction bits generalizing e fmc with
  | nil => rfl
  | cons bit rest ih =>
    rw [discardReceived, receivedCounts, foldl_append, ih]
    cases bit <;> rfl

def Acknowledges (status : Bytes) (count : Nat) : Prop :=
  count < unpackBits 32 ((bits status).drop 8) ∨
    count ∈ receivedCounts (unpackBits 32 ((bits status).drop 8)) ((bits status).drop 40)
  deriving Decidable

lemma handleStatusReport_cases (status : Bytes) : e.handleStatusReport status = e ∨
      ∃ counts : List Nat, e.handleStatusReport status = counts.foldl discardPdu e ∧
        ∀ count ∈ counts, Acknowledges status count := by
  rw [handleStatusReport]
  split
  · exact .inl rfl
  split
  · exact .inl rfl
  split
  · exact .inl rfl
  refine .inr ⟨_, by rw [discardReceived_eq, ← foldl_append], ?_⟩
  intro count hcount
  rw [mem_append, mem_range'_1] at hcount
  obtain ⟨hge, hlt⟩ | hrecv := hcount
  · exact .inl (by omega)
  · exact .inr hrecv

lemma handleStatusReport_shrunk (status : Bytes) :
    Shrunk e (e.handleStatusReport status) := by
  obtain heq | ⟨counts, heq, -⟩ := handleStatusReport_cases e status
  · rw [heq]
    exact .refl e
  · rw [heq]
    exact discardPdus_shrunk counts e

lemma handleStatusReport_hasSn {status : Bytes} (hnot : ¬ Acknowledges status count)
    (hsn : e.hasSn count) : (e.handleStatusReport status).hasSn count := by
  obtain heq | ⟨counts, heq, hall⟩ := handleStatusReport_cases e status
  · rwa [heq]
  · rw [heq]
    exact discardPdus_hasSn (fun hcount => hnot (hall count hcount)) hsn

end

section

variable (e : TxEntity cfg)

def stopped (highestCount : Nat) : TxEntity cfg :=
  (removeOldest (highestCount + 1 - e.txNextAck) { e with discardDeadline := none }).raiseTxTrans

lemma stopDiscardTimer_cases (highestCount : Nat) : e.stopDiscardTimer highestCount = .ok e ∨
      (e.txNextAck ≤ highestCount ∧ highestCount < e.txNext ∧ e.hasSn e.txNextAck ∧
        e.stopDiscardTimer highestCount = (stopped e highestCount).rearmDiscardTimer) := by
  rw [stopDiscardTimer]
  split
  · exact .inl rfl
  split
  · exact .inl rfl
  split
  · exact .inl rfl
  · rename_i hinside hpres
    exact .inr ⟨by omega, by omega, by simpa using hpres, rfl⟩

variable {highestCount : Nat}

lemma stopped_spec (hle : e.txNextAck ≤ highestCount) :
    (stopped e highestCount).txNextAck = highestCount + 1 ∧
      (∀ count, (stopped e highestCount).txWindow.get? count =
        if e.txNextAck ≤ count ∧ count ≤ highestCount then none else e.txWindow.get? count) ∧
      (stopped e highestCount).txTrans = max e.txTrans (highestCount + 1) ∧
      (stopped e highestCount).discardDeadline = none ∧
      (stopped e highestCount).timerDiscards = e.timerDiscards ∧
      stopped e highestCount = withWindow e (stopped e highestCount) := by
  obtain ⟨hack, hget, hframe⟩ :=
    removeOldest_spec { e with discardDeadline := none } (highestCount + 1 - e.txNextAck)
  have hreach : e.txNextAck + (highestCount + 1 - e.txNextAck) = highestCount + 1 := by omega
  rw [hreach] at hack hget
  have hstop := congrArg raiseTxTrans hframe
  refine ⟨hack, ?_, ?_, (congrArg discardDeadline hstop :),
    (congrArg timerDiscards hstop :), ?_⟩
  · intro count
    exact (hget count).trans (by simp only [Nat.lt_succ_iff])
  · exact (congrArg txTrans hstop :).trans (congrArg (max e.txTrans) hack)
  · exact (congrArg (withWindow · (stopped e highestCount)) hstop :)

lemma rearmDiscardTimer_ok {after : TxEntity cfg} (h : e.rearmDiscardTimer = .ok after) :
    ∃ deadline, after = { e with discardDeadline := deadline } := by
  rw [rearmDiscardTimer] at h
  split at h
  · cases h
    exact ⟨e.discardDeadline, rfl⟩
  split at h
  · cases h
    exact ⟨e.discardDeadline, rfl⟩
  split at h
  · cases h
  · cases h
    exact ⟨_, rfl⟩

lemma rearmDiscardTimer_ne_delivery (count : Nat) :
    e.rearmDiscardTimer ≠ .error (.delivery count) := by
  rw [rearmDiscardTimer]
  split
  · exact nofun
  split
  · exact nofun
  split <;> exact nofun

lemma stopDiscardTimer_ne_delivery (highestCount count : Nat) :
    e.stopDiscardTimer highestCount ≠ .error (.delivery count) := by
  obtain heq | ⟨-, -, -, heq⟩ := stopDiscardTimer_cases e highestCount
  · rw [heq]
    exact nofun
  · rw [heq]
    exact rearmDiscardTimer_ne_delivery _ _

variable {e} {after : TxEntity cfg}

lemma stopDiscardTimer_shrunk (h : e.stopDiscardTimer highestCount = .ok after) :
    Shrunk e after := by
  obtain heq | ⟨hle, hlt, -, heq⟩ := stopDiscardTimer_cases e highestCount
  · rw [heq] at h
    cases h
    exact .refl e
  rw [heq] at h
  obtain ⟨deadline, rfl⟩ := rearmDiscardTimer_ok _ h
  obtain ⟨hack, hget, htrans, -, -, hframe⟩ := stopped_spec e hle
  refine ⟨?_, ?_, ?_, by simp only; omega, ?_, ?_, ?_⟩
  · exact (congrArg (fun x : TxEntity cfg => { x with discardDeadline := deadline }) hframe :)
  · intro count elem helem
    simp only [hget] at helem
    split at helem
    · cases helem
    · exact helem
  · intro hlower count hsn
    obtain ⟨elem, helem⟩ := (contains_iff _).mp hsn
    simp only [hget] at helem
    split at helem
    · cases helem
    · have hge := hlower count ((contains_iff _).mpr ⟨elem, helem⟩)
      simp only [hack]
      omega
  · intro _
    simp only [hack]
    omega
  · intro _
    simp only [hack, htrans]
    omega
  · simp only [hack, htrans]
    omega

lemma stopDiscardTimer_hasSn (h : e.stopDiscardTimer highestCount = .ok after)
    (hlt : highestCount < count) (hsn : e.hasSn count) : after.hasSn count := by
  obtain heq | ⟨hle, -, -, heq⟩ := stopDiscardTimer_cases e highestCount
  · rw [heq] at h
    cases h
    exact hsn
  rw [heq] at h
  obtain ⟨deadline, rfl⟩ := rearmDiscardTimer_ok _ h
  obtain ⟨-, hget, -⟩ := stopped_spec e hle
  obtain ⟨elem, helem⟩ := (contains_iff _).mp hsn
  refine (contains_iff _).mpr ⟨elem, ?_⟩
  simp only [hget]
  rwa [if_neg (by omega)]

end

end ProtoRu.PdcpTx
