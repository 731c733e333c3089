import ProtoRu.PdcpRxEntity
import ProtoRu.TransitionRuns

namespace ProtoRu.PdcpRx

open PdcpCounts RxEntity
open List (cons_ne_nil forall_mem_append forall_mem_singleton mem_append mem_of_getElem?
  mem_of_mem_eraseIdx pairwise_append)

variable {cfg : RxConfig}

def Expected (e : RxEntity cfg) (count : Nat) : Prop :=
  count < e.rxDeliv + cfg.snSize.windowSize ∧ count < cfg.maxCountHard

/-- The window and what is on its way lie between RX_DELIV and RX_NEXT, beyond all deliveries. -/
structure InOrder (e : RxEntity cfg) : Prop where
  deliv_le_next : e.rxDeliv ≤ e.rxNext
  next_le_deliv : e.rxNext ≤ e.rxDeliv + cfg.snSize.windowSize
  next_le_hard : e.rxNext ≤ cfg.maxCountHard
  inside : ∀ count, ∀ info ∈ e.rxWindow.get? count,
    info.count = count ∧ e.rxDeliv ≤ count ∧ count < e.rxNext
  queued : ∀ info ∈ e.queued, Expected e info.count
  secured : ∀ pdu ∈ e.secured, Expected e pdu.count
  increasing : e.delivered.Pairwise fun earlier later => earlier.count < later.count
  delivered_lt : ∀ delivery ∈ e.delivered, delivery.count < e.rxDeliv

/-- What the reordering timer does, if there is one. -/
def Timely (e : RxEntity cfg) : Prop :=
  match cfg.tReordering with
  | .finite _ =>
    (e.reorderingRunning ↔ e.rxDeliv < e.rxNext) ∧
      (e.reorderingRunning → e.rxDeliv < e.rxReord ∧ e.rxReord ≤ e.rxNext)
  | _ => e.reorderingRunning = false

structure SameTimer (before after : RxEntity cfg) : Prop where
  rxNext : after.rxNext = before.rxNext
  rxReord : after.rxReord = before.rxReord
  reorderingRunning : after.reorderingRunning = before.reorderingRunning

lemma SameTimer.trans {before middle after : RxEntity cfg} (h : SameTimer before middle)
    (h' : SameTimer middle after) : SameTimer before after :=
  ⟨h'.rxNext.trans h.rxNext, h'.rxReord.trans h.rxReord,
    h'.reorderingRunning.trans h.reorderingRunning⟩

variable {info : PduInfo}

section

variable {e : RxEntity cfg} (decompress : Nat → Bytes → Option Bytes)

lemma advance_inOrder {after : RxEntity cfg} (h : InOrder e) (hlt : e.rxDeliv < e.rxNext)
    (hdeliv : after.rxDeliv = e.rxDeliv) (hsame : SameTimer e after)
    (hqueued : after.queued = e.queued) (hsecured : after.secured = e.secured)
    (hgone : after.rxWindow.get? e.rxDeliv = none)
    (hless : ∀ count, ∀ info ∈ after.rxWindow.get? count, info ∈ e.rxWindow.get? count)
    (hincreasing : after.delivered.Pairwise fun earlier later => earlier.count < later.count)
    (hdelivered : ∀ delivery ∈ after.delivered, delivery.count < e.rxDeliv + 1) :
    InOrder after.advance ∧ after.advance.rxDeliv = e.rxDeliv + 1 ∧ SameTimer e after.advance := by
  have hbound := h.next_le_hard.trans_lt cfg.maxCountHard_lt
  have hadvance : after.advance.rxDeliv = e.rxDeliv + 1 := by
    rw [advance, hdeliv]
    exact Nat.mod_eq_of_lt (by omega)
  have hnext : after.advance.rxNext = e.rxNext := hsame.rxNext
  refine ⟨⟨?_, ?_, ?_, ?_, ?_, ?_, hincreasing, ?_⟩, hadvance, hsame.rxNext, hsame.rxReord,
    hsame.reorderingRunning⟩
  · rw [hadvance, hnext]
    exact hlt
  · have hwindow := h.next_le_deliv
    omega
  · rw [hnext]
    exact h.next_le_hard
  · intro count info hinfo
    have hstored : info ∈ after.rxWindow.get? count := hinfo
    obtain ⟨hcount, hge, hbelow⟩ := h.inside count info (hless count info hstored)
    have hne : count ≠ e.rxDeliv := by
      rintro rfl
      rw [hgone] at hstored
      cases hstored
    rw [hadvance, hnext]
    exact ⟨hcount, by omega, hbelow⟩
  · intro info hinfo
    have hold : info ∈ e.queued := hqueued ▸ hinfo
    obtain ⟨hwindow, hhard⟩ := h.queued info hold
    exact ⟨by rw [hadvance]; omega, hhard⟩
  · intro pdu hpdu
    have hold : pdu ∈ e.secured := hsecured ▸ hpdu
    obtain ⟨hwindow, hhard⟩ := h.secured pdu hold
    exact ⟨by rw [hadvance]; omega, hhard⟩
  · rw [hadvance]
    exact hdelivered

lemma deliverSdu_advance (h : InOrder e) (hlt : e.rxDeliv < e.rxNext)
    (hinfo : e.rxWindow.get? e.rxDeliv = some info) :
    InOrder (e.deliverSdu decompress info).advance ∧
      (e.deliverSdu decompress info).advance.rxDeliv = e.rxDeliv + 1 ∧
      SameTimer e (e.deliverSdu decompress info).advance := by
  have hcount := (h.inside _ info hinfo).1
  have hget (count : Nat) : (e.deliverSdu decompress info).rxWindow.get? count =
      if count = e.rxDeliv then none else e.rxWindow.get? count :=
    e.rxWindow.get?_erase e.rxDeliv count
  have hnew : ∀ delivery ∈ ((decompress info.count info.buf).map fun sdu =>
      Delivery.mk info.count sdu).toList, delivery.count = e.rxDeliv := by
    intro delivery hdelivery
    obtain ⟨sdu, -, rfl⟩ := Option.map_eq_some_iff.mp (Option.mem_toList.mp hdelivery)
    exact hcount
  refine @advance_inOrder cfg e (e.deliverSdu decompress info) h hlt rfl ⟨rfl, rfl, rfl⟩ rfl rfl
    ?_ ?_ ?_ ?_
  · rw [hget, if_pos rfl]
  · intro count other hother
    rw [hget] at hother
    split at hother
    · cases hother
    · exact hother
  · rw [deliverSdu, pairwise_append]
    refine ⟨h.increasing, ?_, ?_⟩
    · cases decompress info.count info.buf <;> simp
    intro earlier hearl later hlater
    rw [hnew later hlater]
    exact h.delivered_lt earlier hearl
  · intro delivery hdelivery
    obtain hold | hlast := mem_append.mp hdelivery
    · exact (h.delivered_lt delivery hold).trans (Nat.lt_succ_self _)
    · rw [hnew delivery hlast]
      exact Nat.lt_succ_self _

section

variable (rounds : Nat) {e : RxEntity cfg} (h : InOrder e) (hrounds : e.rxDeliv + rounds ≤ e.rxNext)

include h hrounds

lemma deliverAllConsecutiveCounts_spec :
    InOrder (deliverAllConsecutiveCounts decompress rounds e) ∧
      SameTimer e (deliverAllConsecutiveCounts decompress rounds e) := by
  induction rounds generalizing e with
  | zero => exact ⟨h, rfl, rfl, rfl⟩
  | succ rounds ih =>
    rw [deliverAllConsecutiveCounts]
    split
    · exact ⟨h, rfl, rfl, rfl⟩
    rename_i info hinfo
    obtain ⟨horder, hdeliv, hsame⟩ := deliverSdu_advance decompress h (by omega) hinfo
    obtain ⟨hfinal, hrest⟩ := ih horder (by rw [hdeliv, hsame.rxNext]; omega)
    exact ⟨hfinal, hsame.trans hrest⟩

lemma passCounts_spec : InOrder (passCounts decompress rounds e) ∧
      (passCounts decompress rounds e).rxDeliv = e.rxDeliv + rounds ∧
      SameTimer e (passCounts decompress rounds e) := by
  induction rounds generalizing e with
  | zero => exact ⟨h, rfl, rfl, rfl, rfl⟩
  | succ rounds ih =>
    have hstep : ∀ after, after =
        ((e.rxWindow.get? e.rxDeliv).elim e (e.deliverSdu decompress)).advance →
        InOrder after ∧ after.rxDeliv = e.rxDeliv + 1 ∧ SameTimer e after := by
      rintro after rfl
      cases hinfo : e.rxWindow.get? e.rxDeliv with
      | none =>
        exact advance_inOrder h (by omega) rfl ⟨rfl, rfl, rfl⟩ rfl rfl hinfo
          (fun _ _ hstored => hstored) h.increasing fun delivery hdelivery =>
            (h.delivered_lt delivery hdelivery).trans (Nat.lt_succ_self _)
      | some info => exact deliverSdu_advance decompress h (by omega) hinfo
    rw [passCounts]
    obtain ⟨horder, hdeliv, hsame⟩ := hstep _ rfl
    obtain ⟨hfinal, hreach, hrest⟩ := ih horder (by rw [hdeliv, hsame.rxNext]; omega)
    exact ⟨hfinal, by rw [hreach, hdeliv]; omega, hsame.trans hrest⟩

end

lemma distanceTo_eq {count : Nat} (hle : e.rxDeliv ≤ count) (hlt : count < 2 ^ 32) :
    e.distanceTo count = count - e.rxDeliv :=
  unsignedOffset_mod_eq (Nat.dvd_refl _) (Nat.ModEq.refl _) hle (by omega)

lemma deliverFromRxDeliv_spec (h : InOrder e) : InOrder (e.deliverFromRxDeliv decompress) ∧
      SameTimer e (e.deliverFromRxDeliv decompress) := by
  have hbound := h.next_le_hard.trans_lt cfg.maxCountHard_lt
  have hle := h.deliv_le_next
  rw [deliverFromRxDeliv, distanceTo_eq hle hbound]
  exact deliverAllConsecutiveCounts_spec decompress _ h (by omega)

lemma deliverIfNext_spec (h : InOrder e) (count : Nat) :
    InOrder (e.deliverIfNext decompress count) ∧
      SameTimer e (e.deliverIfNext decompress count) := by
  rw [deliverIfNext]
  split
  · exact deliverFromRxDeliv_spec decompress h
  · exact ⟨h, rfl, rfl, rfl⟩

end

section

variable {e : RxEntity cfg} (decompress : Nat → Bytes → Option Bytes)

lemma InOrder.of_eq {after : RxEntity cfg} (h : InOrder e) (hnext : after.rxNext = e.rxNext)
    (hdeliv : after.rxDeliv = e.rxDeliv) (hwindow : after.rxWindow = e.rxWindow)
    (hqueued : ∀ info ∈ after.queued, Expected e info.count)
    (hsecured : ∀ pdu ∈ after.secured, Expected e pdu.count)
    (hdelivered : after.delivered = e.delivered) : InOrder after where
  deliv_le_next := by
    rw [hdeliv, hnext]
    exact h.deliv_le_next
  next_le_deliv := by
    rw [hdeliv, hnext]
    exact h.next_le_deliv
  next_le_hard := by
    rw [hnext]
    exact h.next_le_hard
  inside := by
    intro count info hinfo
    rw [hwindow] at hinfo
    rw [hdeliv, hnext]
    exact h.inside count info hinfo
  queued := by
    intro info hinfo
    rw [Expected, hdeliv]
    exact hqueued info hinfo
  secured := by
    intro pdu hpdu
    rw [Expected, hdeliv]
    exact hsecured pdu hpdu
  increasing := by
    rw [hdelivered]
    exact h.increasing
  delivered_lt := by
    rw [hdelivered, hdeliv]
    exact h.delivered_lt

lemma restartReordering_spec (hcfg : cfg.tReordering ≠ .infinity) (h : InOrder e)
    (hstop : e.reorderingRunning = false) :
    InOrder e.restartReordering ∧ Timely e.restartReordering := by
  rw [restartReordering]
  split_ifs with hmore
  · refine ⟨h.of_eq rfl rfl rfl h.queued h.secured rfl, ?_⟩
    rw [Timely]
    cases htimer : cfg.tReordering with
    | finite ms => exact ⟨⟨fun _ => hmore.1, fun _ => rfl⟩, fun _ => ⟨hmore.1, le_rfl⟩⟩
    | ms0 => exact absurd htimer hmore.2
    | infinity => exact absurd htimer hcfg
  · refine ⟨h, ?_⟩
    rw [Timely]
    cases htimer : cfg.tReordering with
    | finite ms =>
      have hdone : ¬ e.rxDeliv < e.rxNext := by
        intro hlt
        exact hmore ⟨hlt, by rw [htimer]; exact nofun⟩
      simp only [hstop]
      exact ⟨⟨nofun, fun hlt => absurd hlt hdone⟩, nofun⟩
    | ms0 | infinity => exact hstop

lemma handleTReorderingExpire_spec (hcfg : cfg.tReordering ≠ .infinity) (h : InOrder e)
    (hruns : e.reorderingRunning = false) (hreord : e.rxDeliv ≤ e.rxReord ∧ e.rxReord ≤ e.rxNext) :
    InOrder (e.handleTReorderingExpire decompress) ∧
      Timely (e.handleTReorderingExpire decompress) := by
  have hbound := h.next_le_hard.trans_lt cfg.maxCountHard_lt
  have hdist : e.distanceTo e.rxReord = e.rxReord - e.rxDeliv :=
    distanceTo_eq hreord.1 (hreord.2.trans_lt hbound)
  obtain ⟨hpassed, -, hsame⟩ :=
    passCounts_spec decompress (e.rxReord - e.rxDeliv) h (by omega)
  obtain ⟨hdeliv, hrest⟩ := deliverFromRxDeliv_spec decompress hpassed
  rw [handleTReorderingExpire, hdist]
  apply restartReordering_spec hcfg hdeliv
  exact (hsame.trans hrest).reorderingRunning.trans hruns

lemma stopReordering_spec (h : InOrder e) (hreord : e.reorderingRunning → e.rxReord ≤ e.rxNext) :
    InOrder e.stopReordering ∧ e.stopReordering.rxDeliv = e.rxDeliv ∧
      e.stopReordering.rxNext = e.rxNext ∧ (e.stopReordering.reorderingRunning →
        e.rxDeliv < e.stopReordering.rxReord ∧ e.stopReordering.rxReord ≤ e.rxNext) := by
  rw [stopReordering]
  split_ifs with hwaits
  · exact ⟨h.of_eq rfl rfl rfl h.queued h.secured rfl, rfl, rfl, nofun⟩
  refine ⟨h, rfl, rfl, fun hruns => ⟨?_, hreord hruns⟩⟩
  by_contra hlt
  exact hwaits ⟨hruns, Nat.le_of_not_lt hlt⟩

lemma startReordering_spec (h : InOrder e)
    (hfinite : ∀ ms, cfg.tReordering = .finite ms → e.reorderingRunning →
      e.rxDeliv < e.rxReord ∧ e.rxReord ≤ e.rxNext)
    (hnone : (∀ ms, cfg.tReordering ≠ .finite ms) → e.reorderingRunning = false) :
    InOrder (e.startReordering decompress) ∧ Timely (e.startReordering decompress) := by
  rw [startReordering]
  cases htimer : cfg.tReordering with
  | infinity =>
    refine ⟨h, ?_⟩
    rw [Timely, htimer]
    exact hnone (by rw [htimer]; exact fun _ => nofun)
  | ms0 =>
    have hset : InOrder { e with rxReord := e.rxNext } :=
      h.of_eq rfl rfl rfl h.queued h.secured rfl
    exact handleTReorderingExpire_spec decompress (by rw [htimer]; exact nofun) hset
      (hnone (by rw [htimer]; exact fun _ => nofun)) ⟨h.deliv_le_next, le_rfl⟩
  | finite ms =>
    simp only
    split_ifs with hstarts
    · refine ⟨h.of_eq rfl rfl rfl h.queued h.secured rfl, ?_⟩
      rw [Timely, htimer]
      exact ⟨⟨fun _ => hstarts.2, fun _ => rfl⟩, fun _ => ⟨hstarts.2, le_rfl⟩⟩
    · refine ⟨h, ?_⟩
      rw [Timely, htimer]
      refine ⟨⟨fun hruns => ?_, fun hlt => ?_⟩, hfinite ms htimer⟩
      · obtain ⟨hdeliv, hnext⟩ := hfinite ms htimer hruns
        exact hdeliv.trans_le hnext
      · by_contra hstop
        exact hstarts ⟨by simpa using hstop, hlt⟩

lemma stopped_start_spec (h : InOrder e) (hidle : e.reorderingRunning = false)
    (hother : ∀ ms, cfg.tReordering ≠ .finite ms) :
    InOrder (e.stopReordering.startReordering decompress) ∧
      Timely (e.stopReordering.startReordering decompress) := by
  have hstop : e.stopReordering = e := by
    rw [stopReordering, if_neg]
    rw [hidle]
    exact nofun
  rw [hstop]
  apply startReordering_spec decompress h
  · intro ms htimer
    exact absurd htimer (hother ms)
  · intro _
    exact hidle

end

section

variable {e : RxEntity cfg}

lemma storeSdu_spec (h : InOrder e) {count : Nat} (hge : e.rxDeliv ≤ count)
    (hexp : Expected e count) (buf : Bytes) :
    InOrder (e.storeSdu count buf) ∧ e.rxNext ≤ (e.storeSdu count buf).rxNext := by
  have hwindow := h.next_le_deliv
  have hhard := h.next_le_hard
  obtain ⟨hroom, hbound⟩ := hexp
  have hnext : (e.storeSdu count buf).rxNext = max e.rxNext (count + 1) := by
    rw [storeSdu]
    split
    · simp only
      omega
    · simp only
      omega
  have hdeliv : (e.storeSdu count buf).rxDeliv = e.rxDeliv := rfl
  refine ⟨⟨?_, ?_, ?_, ?_, h.queued, h.secured, h.increasing, h.delivered_lt⟩, ?_⟩
  · omega
  · omega
  · omega
  · intro other info hinfo
    have hget := (CircularMap.get?_overwrite _ _ _ _).symm.trans hinfo
    split at hget
    · rename_i hother
      cases hget
      exact ⟨hother.symm, by omega⟩
    split at hget
    · cases hget
    rw [CircularMap.get?_erase] at hget
    split at hget
    · cases hget
    · obtain ⟨hcount, hinside⟩ := h.inside other info hget
      exact ⟨hcount, by omega⟩
  · omega

section

variable (h : InOrder e) (htimely : Timely e) (decompress : Nat → Bytes → Option Bytes)

include h htimely

lemma applyReordering_spec {count : Nat} (hexp : Expected e count) (buf : Bytes) :
    InOrder (e.applyReordering decompress count buf) ∧
      Timely (e.applyReordering decompress count buf) := by
  rw [applyReordering]
  split
  · exact ⟨h, htimely⟩
  rename_i hge
  split
  · exact ⟨h, htimely⟩
  obtain ⟨hstored, hgrows⟩ := storeSdu_spec h (Nat.le_of_not_lt hge) hexp buf
  obtain ⟨hdelivered, hsame⟩ := deliverIfNext_spec decompress hstored count
  generalize (e.storeSdu count buf).deliverIfNext decompress count = delivered at hdelivered hsame ⊢
  have hruns : delivered.reorderingRunning = e.reorderingRunning := hsame.reorderingRunning
  have hreord : delivered.rxReord = e.rxReord := hsame.rxReord
  rw [Timely] at htimely
  cases htimer : cfg.tReordering with
  | finite ms =>
    rw [htimer] at htimely
    have hbelow : delivered.reorderingRunning → delivered.rxReord ≤ delivered.rxNext := by
      intro hstart
      rw [hreord, hsame.rxNext]
      rw [hruns] at hstart
      exact (htimely.2 hstart).2.trans hgrows
    obtain ⟨hstop, hdeliv, hnext, hwaits⟩ := stopReordering_spec hdelivered hbelow
    apply startReordering_spec decompress hstop
    · intro _ _ hstart
      rw [hdeliv, hnext]
      exact hwaits hstart
    · intro hother
      exact absurd htimer (hother ms)
  | ms0 | infinity =>
    rw [htimer] at htimely
    exact stopped_start_spec decompress hdelivered (hruns.trans htimely)
      (by rw [htimer]; exact fun _ => nofun)

lemma handleSecured_spec {pdu : Secured} (hexp : Expected e pdu.count) :
    InOrder (e.handleSecured decompress pdu).1 ∧ Timely (e.handleSecured decompress pdu).1 := by
  rw [handleSecured]
  split
  · rename_i buf _
    exact applyReordering_spec h htimely decompress hexp buf
  all_goals exact ⟨h, htimely⟩

end

lemma applySecurity_count {pdu : Secured} (hpdu : e.applySecurity info = some pdu) :
    pdu.count = info.count := by
  rw [applySecurity] at hpdu
  split at hpdu
  · rw [← Option.some.inj hpdu]
  · split_ifs at hpdu
    rw [← Option.some.inj hpdu]

def SentNear (e : RxEntity cfg) (pdu : Bytes) : Prop :=
  ∀ sn ∈ readDataPduHeader cfg.snSize pdu, ∃ count < 2 ^ 32, sn = cfg.snSize.computeSn count ∧
      e.rxDeliv ≤ count + cfg.snSize.windowSize ∧ count < e.rxDeliv + cfg.snSize.windowSize

lemma sentNear_of_read {pdu : Bytes} (count : Nat) (hcount : count < 2 ^ 32)
    (hread : readDataPduHeader cfg.snSize pdu = some (cfg.snSize.computeSn count))
    (hlow : e.rxDeliv ≤ count + cfg.snSize.windowSize)
    (hhigh : count < e.rxDeliv + cfg.snSize.windowSize) : SentNear e pdu := by
  intro sn hsn
  rw [hread] at hsn
  exact ⟨count, hcount, (Option.some.inj hsn).symm, hlow, hhigh⟩

section

variable (h : InOrder e) (htimely : Timely e)

include h htimely

lemma notifyMaxCount_spec (count : Nat) :
    InOrder (e.notifyMaxCount count).1 ∧ Timely (e.notifyMaxCount count).1 ∧
      (e.notifyMaxCount count).1.rxDeliv = e.rxDeliv := by
  rw [notifyMaxCount]
  split
  · exact ⟨h.of_eq rfl rfl rfl h.queued h.secured rfl, htimely, rfl⟩
  · exact ⟨h, htimely, rfl⟩

lemma refuse_spec : InOrder e.refuse.1 ∧ Timely e.refuse.1 := by
  rw [refuse]
  split
  · exact ⟨h.of_eq rfl rfl rfl h.queued h.secured rfl, htimely⟩
  · exact ⟨h, htimely⟩

lemma enqueue_spec (hexp : Expected e info.count) :
    InOrder (e.enqueue info) ∧ Timely (e.enqueue info) := by
  refine ⟨h.of_eq rfl rfl rfl ?_ h.secured rfl, htimely⟩
  exact forall_mem_append.mpr ⟨h.queued, forall_mem_singleton.mpr hexp⟩

lemma handleDataPdu_spec {pdu : Bytes} (hnear : SentNear e pdu) :
    InOrder (e.handleDataPdu pdu).1 ∧ Timely (e.handleDataPdu pdu).1 := by
  rw [handleDataPdu]
  split
  · exact ⟨h, htimely⟩
  rename_i sn hsn
  obtain ⟨count, hcount, rfl, hlow, hhigh⟩ := hnear sn hsn
  have hrcvd : e.rcvdCount (cfg.snSize.computeSn count) = count :=
    estimateCount_computeSn cfg.snSize hcount hlow hhigh
  simp only [hrcvd]
  obtain ⟨hnotif, htimely, hdeliv⟩ := notifyMaxCount_spec h htimely count
  split_ifs with hbelow
  · exact refuse_spec hnotif htimely
  apply enqueue_spec hnotif htimely
  rw [Expected, hdeliv]
  exact ⟨hhigh, Nat.lt_of_not_le hbelow⟩

end

/-- What may come in: PDUs sent with a COUNT around the window. -/
def Within (e : RxEntity cfg) : Event → Prop
  | .pdu pdu => SentNear e pdu
  | _ => True

lemma next_inOrder (e : RxEntity cfg) (event : Event) (hinv : InOrder e ∧ Timely e)
    (hwithin : Within e event) : InOrder (next e event) ∧ Timely (next e event) := by
  obtain ⟨h, htimely⟩ := hinv
  cases event with
  | pdu pdu => exact handleDataPdu_spec h htimely hwithin
  | configureSecurity engine => exact ⟨h.of_eq rfl rfl rfl h.queued h.secured rfl, htimely⟩
  | dropQueued i =>
    refine ⟨h.of_eq rfl rfl rfl ?_ h.secured rfl, htimely⟩
    intro info hinfo
    exact h.queued info (mem_of_mem_eraseIdx hinfo)
  | dropSecured i =>
    refine ⟨h.of_eq rfl rfl rfl h.queued ?_ rfl, htimely⟩
    intro pdu hpdu
    exact h.secured pdu (mem_of_mem_eraseIdx hpdu)
  | applySecurity i =>
    rw [next]
    cases hqueued : e.queued[i]? with
    | none => exact ⟨h, htimely⟩
    | some info =>
      refine ⟨h.of_eq rfl rfl rfl ?_ ?_ rfl, htimely⟩
      · intro other hother
        exact h.queued other (mem_of_mem_eraseIdx hother)
      refine forall_mem_append.mpr ⟨h.secured, fun pdu hpdu => ?_⟩
      rw [applySecurity_count (Option.mem_toList.mp hpdu)]
      exact h.queued info (mem_of_getElem? hqueued)
  | handleSecured i decompress =>
    rw [next]
    cases hsecured : e.secured[i]? with
    | none => exact ⟨h, htimely⟩
    | some pdu =>
      have hexp := h.secured pdu (mem_of_getElem? hsecured)
      have htaken : InOrder { e with secured := e.secured.eraseIdx i } :=
        h.of_eq rfl rfl rfl h.queued
          (fun other hother => h.secured other (mem_of_mem_eraseIdx hother)) rfl
      exact handleSecured_spec htaken htimely decompress hexp
  | tReorderingExpired decompress =>
    rw [next]
    split_ifs with hruns
    · have hstop : InOrder { e with reorderingRunning := false } :=
        h.of_eq rfl rfl rfl h.queued h.secured rfl
      rw [Timely] at htimely
      cases htimer : cfg.tReordering with
      | finite ms =>
        rw [htimer] at htimely
        obtain ⟨hdeliv, hnext⟩ := htimely.2 hruns
        exact handleTReorderingExpire_spec decompress (by rw [htimer]; exact nofun) hstop
          rfl ⟨hdeliv.le, hnext⟩
      | ms0 | infinity =>
        rw [htimer] at htimely
        cases hruns.symm.trans htimely
    · exact ⟨h, htimely⟩

lemma inOrder_initial : InOrder ({} : RxEntity cfg) ∧ Timely ({} : RxEntity cfg) := by
  constructor
  · exact ⟨le_rfl, Nat.zero_le _, Nat.zero_le _, nofun, nofun, nofun, .nil, nofun⟩
  · rw [Timely]
    cases cfg.tReordering with
    | finite ms => exact ⟨⟨nofun, nofun⟩, nofun⟩
    | ms0 | infinity => rfl

/-- SDUs are delivered in the order of their COUNTs, and a timer runs exactly while there is a
gap. -/
theorem delivered_in_order (cfg : RxConfig) (events : List Event)
    (hwithin : Guarded next Within ({} : RxEntity cfg) events) :
    let e := events.foldl next ({} : RxEntity cfg)
    (e.delivered.Pairwise fun earlier later => earlier.count < later.count) ∧
      ∀ ms, cfg.tReordering = .finite ms → (e.reorderingRunning ↔ e.rxDeliv < e.rxNext) ∧
          (e.reorderingRunning → e.rxDeliv < e.rxReord ∧ e.rxReord ≤ e.rxNext) := by
  intro e
  obtain ⟨horder, htimely⟩ := hwithin.invariant _ next_inOrder inOrder_initial
  refine ⟨horder.increasing, ?_⟩
  intro ms htimer
  rw [Timely, htimer] at htimely
  exact htimely

def arrival (cfg : RxConfig) (count : Nat) : List Event :=
  [.pdu (dataPduHeader cfg.rbType cfg.snSize (cfg.snSize.computeSn count) ++ [7]),
    .applySecurity 0, .handleSecured 0 fun _ sdu => some sdu]

def lateRun : List Event :=
  arrival umDrb 2 ++ arrival umDrb 1 ++
    .tReorderingExpired (fun _ sdu => some sdu) :: (arrival umDrb 0 ++ arrival umDrb 3 ++
      arrival umDrb 3)

lemma lateRun_within : Guarded next Within ({} : RxEntity umDrb) lateRun := by
  refine ⟨?_, trivial, trivial, ?_, trivial, trivial, trivial, ?_, trivial, trivial, ?_, trivial,
    trivial, ?_, trivial, trivial, trivial⟩
  · exact sentNear_of_read 2 (by decide) (by decide) (by decide +kernel) (by decide +kernel)
  · exact sentNear_of_read 1 (by decide) (by decide) (by decide +kernel) (by decide +kernel)
  · exact sentNear_of_read 0 (by decide) (by decide) (by decide +kernel) (by decide +kernel)
  · exact sentNear_of_read 3 (by decide) (by decide) (by decide +kernel) (by decide +kernel)
  · exact sentNear_of_read 3 (by decide) (by decide) (by decide +kernel) (by decide +kernel)

theorem lateRun_in_order :
    let e := lateRun.foldl next ({} : RxEntity umDrb)
    e.delivered = [⟨1, [7]⟩, ⟨2, [7]⟩, ⟨3, [7]⟩] ∧
      (e.delivered.Pairwise fun earlier later => earlier.count < later.count) ∧
      ∀ ms, umDrb.tReordering = .finite ms → (e.reorderingRunning ↔ e.rxDeliv < e.rxNext) ∧
          (e.reorderingRunning → e.rxDeliv < e.rxReord ∧ e.rxReord ≤ e.rxNext) :=
  ⟨by decide +kernel, delivered_in_order umDrb lateRun lateRun_within⟩

/-- RX_DELIV and RX_NEXT are at most a window apart, and what is held lies between them. -/
theorem inOrder_of_guarded {events : List Event}
    (hwithin : Guarded next Within ({} : RxEntity cfg) events) :
    InOrder (events.foldl next ({} : RxEntity cfg)) :=
  (hwithin.invariant _ next_inOrder inOrder_initial).1

theorem lateRun_inOrder : InOrder (lateRun.foldl next ({} : RxEntity umDrb)) :=
  inOrder_of_guarded lateRun_within

end

end ProtoRu.PdcpRx
