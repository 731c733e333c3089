import ProtoRu.RlcStatusReports
import ProtoRu.RlcTxWindowInvariant

namespace ProtoRu.Rlc

open TxEntity

structure WindowSpans {cfg : TxConfig} (peer : TxEntity cfg) (sn : Nat) : Prop where
  edges : peer.txModBase peer.txNext ≤ cfg.amWindowSize
  le_txNext : peer.txModBase sn ≤ peer.txModBase peer.txNext
  inside : peer.txModBase sn < cfg.amWindowSize

section

variable {cfg : TxConfig} {peer : TxEntity cfg} {acked next : Nat}
  (htracks : Tracks cfg (view peer) acked next)

include htracks

lemma acked_le_of_edges (hedges : peer.txModBase peer.txNext ≤ cfg.amWindowSize) :
    acked ≤ next := by
  have hmod := mod_eq cfg
  have hwindow := amWindowSize_gt cfg
  have hle := htracks.acked_le
  by_contra hgt
  have hcount : peer.txNext ≡ next + cfg.mod [MOD cfg.mod] := by
    have htxNext : peer.txNext = next % cfg.mod := htracks.txNext_eq
    rw [htxNext, Nat.ModEq, Nat.mod_mod, Nat.add_mod_right]
  rw [txModBase_eq htracks.txNextAck_eq hcount (by omega) (by omega)] at hedges
  omega

lemma WindowSpans.exists_count {sn : Nat} (hspans : WindowSpans peer sn) :
    ∃ count, acked ≤ count ∧ count ≤ next ∧ count < acked + cfg.amWindowSize ∧
      sn ≡ count [MOD cfg.mod] := by
  have hacked := acked_le_of_edges htracks hspans.edges
  obtain ⟨count, hge, -, hsn, hbase⟩ := Rlc.exists_count htracks.txNextAck_eq sn
  have hle := hspans.le_txNext
  have hinside := hspans.inside
  rw [txModBase_txNext htracks hacked] at hle
  exact ⟨count, hge, by omega, by omega, hsn⟩

lemma validNack_of_count {nack : Nack} {status : StatusPdu} {ack first : Nat}
    (hacked : acked ≤ next) (hack : ack ≤ next + 1) (hwindow : ack ≤ acked + cfg.amWindowSize)
    (hbase : peer.txModBase status.ackSn = ack - acked) (hge : acked ≤ first)
    (hsn : nack.nackSn ≡ first [MOD cfg.mod]) (hpos : 0 < nack.nofSdus)
    (hlast : first + nack.nofSdus ≤ ack) : peer.validNack status.ackSn nack := by
  have hmod := mod_eq cfg
  have hfirst := @txModBase_eq _ peer acked first _ htracks.txNextAck_eq hsn hge (by omega)
  simp only [validNack, insideTxWindow, Bool.and_eq_true, Bool.or_eq_true, Bool.not_eq_true',
    decide_eq_true_eq, hbase, hfirst, txModBase_txNext htracks hacked]
  cases hflag : nack.hasNackRange with
  | false =>
    simp only [true_or, and_true]
    omega
  | true =>
    rw [Nack.nofSdus, hflag, if_pos rfl] at hpos hlast
    have hcount : nack.lastSn ≡ first + nack.nackRange - 1 [MOD cfg.mod] := by
      apply Nat.ModEq.add_right_cancel' 1
      rw [Nat.sub_add_cancel (by omega)]
      exact (lastSn_modEq cfg nack).trans (hsn.add_right _)
    rw [txModBase_eq htracks.txNextAck_eq hcount (by omega) (by omega)]
    omega

lemma accepts_of_counts {status : StatusPdu} {ack : Nat} (hacked : acked ≤ next)
    (hgt : acked < ack) (hle : ack ≤ next + 1) (hwindow : ack ≤ acked + cfg.amWindowSize)
    (hackSn : status.ackSn ≡ ack [MOD cfg.mod])
    (hnacks : ∀ nack ∈ status.nacks, ∃ first, acked ≤ first ∧ nack.nackSn ≡ first [MOD cfg.mod] ∧
      0 < nack.nofSdus ∧ first + nack.nofSdus ≤ ack) : peer.accepts status := by
  have hmod := mod_eq cfg
  have hsize := amWindowSize_gt cfg
  have hnext := htracks.next_le
  have hbase := txModBase_eq htracks.txNextAck_eq hackSn hgt.le (by omega)
  have hsucc : peer.txNext + 1 ≡ next + 1 [MOD cfg.mod] := by
    have htxNext : peer.txNext = next % cfg.mod := htracks.txNext_eq
    rw [htxNext]
    exact (modEq_mod cfg next).add_right 1
  have hbase' : peer.txModBase status.ackSn = ack - acked := hbase
  simp only [accepts, validAckSn, Bool.and_eq_true, decide_eq_true_eq, List.all_eq_true]
  rw [txModBase_eq htracks.txNextAck_eq hsucc (by omega) (by omega)]
  refine ⟨⟨by omega, by omega⟩, fun nack hnack => ?_⟩
  obtain ⟨first, hge, hsn, hpos, hlast⟩ := hnacks nack hnack
  exact validNack_of_count htracks hacked hle hwindow hbase' hge hsn hpos hlast

end

variable {cfg : RxConfig} {history : RxHistory cfg}

/-- A status PDU fits the grant, NACKs only before its ACK_SN, acknowledges what was received, and
no transmitter rejects it. -/
structure Sound (history : RxHistory cfg) (grant : Nat) (status : StatusPdu) : Prop where
  fits : status.packedSize cfg.snFieldLength ≤ grant
  before : ∀ nack ∈ status.nacks, ∀ sn, NackCovers cfg.snFieldLength nack sn →
    history.entity.rxModBase sn < history.entity.rxModBase status.ackSn
  received : ∀ d < history.countOf status.ackSn,
    (∀ nack ∈ status.nacks, ¬NackCovers cfg.snFieldLength nack (d % cfg.mod)) →
      d ∈ history.delivered.map Prod.fst
  accepted : ∀ (txCfg : TxConfig) (events : List Event) (peer : TxEntity txCfg),
    txCfg.snFieldLength = cfg.snFieldLength → events.foldlM step {} = some peer →
    WindowSpans peer ((status.ackSn + cfg.mod - 1) % cfg.mod) →
    (∀ nack ∈ status.nacks, ∀ sn, NackCovers cfg.snFieldLength nack sn → WindowSpans peer sn) →
      peer.accepts status

lemma count_sub_eq {m low a i x y r W : Nat} (hm : m = 2 * W) (ha : a ≤ W) (hi : i < a)
    (hx : low ≤ x) (hx' : x < low + W) (hy : low ≤ y) (hy' : y < low + W)
    (hmodx : x + 1 ≡ r + a [MOD m]) (hmody : y ≡ r + i [MOD m]) : y + (a - i) = x + 1 := by
  have hmod : y + (a - i) ≡ x + 1 [MOD m] := by
    calc y + (a - i) ≡ r + i + (a - i) [MOD m] := hmody.add_right _
      _ = r + a := by omega
      _ ≡ x + 1 [MOD m] := hmodx.symm
  exact @eq_of_mod_eq_of_window m (low + 1) _ _ (by omega) (by omega) (by omega) (by omega) hmod

lemma sound_of_reports {grant a : Nat} {status : StatusPdu} (hrec : Recorded history)
    (ha : a ≤ cfg.amWindowSize) (hack : status.ackSn = (history.nofDone + a) % cfg.mod)
    (hfits : status.packedSize cfg.snFieldLength ≤ grant)
    (hreps : Reports cfg.snFieldLength history.nofDone status.nacks.reverse a)
    (hrepd : ∀ k < a, completed history.entity history.nofDone (history.nofDone + k) = false →
      Reported cfg.snFieldLength history.nofDone status.nacks k) : Sound history grant status := by
  obtain ⟨h, n, htracks⟩ := hrec.tracks
  have hmod := cfg.mod_eq
  have hsize := cfg.amWindowSize_pos
  have hnack (nack : Nack) (hmem : nack ∈ status.nacks) :=
    hreps.of_mem (List.mem_reverse.mpr hmem)
  have hbase : history.entity.rxModBase status.ackSn = a := by
    rw [hack, rxModBase_eq htracks.rxNext_eq (Nat.le_add_right _ _) (by omega)]
    omega
  refine ⟨hfits, ?_, ?_, ?_⟩
  · rintro nack hmem sn ⟨j, hj, rfl⟩
    obtain ⟨i, hsn, -, hstop⟩ := hnack nack hmem
    have hcount := @rxModBase_eq _ history.entity history.nofDone (history.nofDone + i + j)
      htracks.rxNext_eq (by omega) (by omega)
    rw [RxConfig.mod] at hcount
    rw [hsn, Nat.mod_add_mod]
    omega
  · intro d hd hnone
    rw [RxHistory.countOf] at hd
    rw [hrec.delivered_iff]
    obtain hlt | hge := Nat.lt_or_ge d history.nofDone
    · exact .inl hlt
    by_contra hopen
    obtain ⟨k, rfl⟩ := Nat.exists_eq_add_of_le hge
    obtain ⟨nack, hmem, hcovers⟩ :=
      (hrepd k (by omega) (by simpa using hopen)).covers
    exact hnone nack hmem hcovers
  · intro txCfg events peer hsame hrun hspans hall
    have hmodTx : txCfg.mod = cfg.mod := by rw [TxConfig.mod, RxConfig.mod, hsame]
    have hwindowTx : txCfg.amWindowSize = cfg.amWindowSize := by
      rw [TxConfig.amWindowSize, RxConfig.amWindowSize, hsame]
    obtain ⟨acked, next, hpeer⟩ := run_tracks hrun
    have hacked := acked_le_of_edges hpeer hspans.edges
    obtain ⟨x, hx, hxnext, hxwindow, hxsn⟩ := hspans.exists_count hpeer
    have hx1 : x + 1 ≡ history.nofDone + a [MOD txCfg.mod] := by
      rw [hmodTx] at hxsn ⊢
      calc x + 1 ≡ (status.ackSn + cfg.mod - 1) % cfg.mod + 1 [MOD cfg.mod] :=
            hxsn.symm.add_right 1
        _ ≡ status.ackSn + cfg.mod - 1 + 1 [MOD cfg.mod] := (Nat.mod_modEq _ _).add_right 1
        _ = status.ackSn + cfg.mod := by omega
        _ ≡ status.ackSn [MOD cfg.mod] := by simp
        _ ≡ history.nofDone + a [MOD cfg.mod] := by
            rw [hack]
            exact Nat.mod_modEq _ _
    refine @accepts_of_counts _ _ _ _ hpeer status (x + 1) hacked (by omega) (by omega)
      (by omega) ?_ fun nack hmem => ?_
    · rw [hack, ← hmodTx]
      exact (Nat.mod_modEq _ _).trans hx1.symm
    obtain ⟨i, hsn, hpos, hstop⟩ := hnack nack hmem
    have hcovers : NackCovers cfg.snFieldLength nack nack.nackSn := by
      refine ⟨0, hpos, ?_⟩
      rw [Nat.add_zero, hsn, Nat.mod_mod]
    obtain ⟨y, hy, -, hywindow, hysn⟩ := (hall nack hmem _ hcovers).exists_count hpeer
    have hymod : y ≡ history.nofDone + i [MOD txCfg.mod] := by
      refine hysn.symm.trans ?_
      rw [hsn, hmodTx]
      exact Nat.mod_modEq _ _
    have heq := @count_sub_eq txCfg.mod acked a i x y history.nofDone cfg.amWindowSize
      (by omega) ha (by omega) hx (by omega) hy (by omega) hx1 hymod
    exact ⟨y, hy, hysn, hpos, by omega⟩

/-- A trimmed report is sound unless a fitting NACK ends with the SDU at which the first other one
starts, and starts at another. -/
theorem trimmed_sound_iff (events : List RxEvent) (history : RxHistory cfg)
    (hrun : events.foldlM RxHistory.step {} = some history) (report : StatusPdu)
    (hreport : history.entity.buildStatusReport = some report) (grant : Nat)
    (hgrant : sizeofHeaderAckSn ≤ grant) :
    ∃ trimmed, report.trim cfg.snFieldLength grant = some trimmed ∧ (Sound history grant trimmed ↔
      ∀ kept dropped, CutAt cfg.snFieldLength grant report.nacks kept dropped →
        ∀ nack ∈ kept, NackCovers cfg.snFieldLength nack dropped.nackSn →
          nack.nackSn = dropped.nackSn) := by
  have hrecorded := foldlM_invariant Recorded hrun (recorded_init cfg)
    fun _ _ _ _ => step_recorded
  have hmod := cfg.mod_eq
  have hsize := cfg.amWindowSize_pos
  obtain ⟨K, hK, hack, hreports, hreported⟩ := buildStatusReport_spec hrecorded hreport
  obtain ⟨trimmed, a, htrim, hle, hack', hfits, hreports', hkept⟩ :=
    trim_spec hgrant hack hreports (by rw [← RxConfig.mod]; omega)
  have hsound (htight : Reports cfg.snFieldLength history.nofDone trimmed.nacks.reverse a) :
      Sound history grant trimmed :=
    sound_of_reports hrecorded (by omega) hack' hfits htight
      fun k hk hopen => hkept k hk (hreported k (by omega) hopen)
  refine ⟨trimmed, htrim, fun hsound kept dropped hcut nack hnack hcovers => ?_, fun hcuts => ?_⟩
  · by_contra hsn
    obtain rfl := Option.some.inj (htrim.symm.trans (hcut.trim_eq hgrant))
    -- a NACK that starts elsewhere is not dropped
    have hmem : nack ∈ (kept.reverse.dropWhile fun nack => nack.nackSn = dropped.nackSn) := by
      rw [← List.mem_reverse, ← @List.takeWhile_append_dropWhile _
        (fun nack : Nack => nack.nackSn = dropped.nackSn) kept.reverse, List.mem_append] at hnack
      refine hnack.resolve_left fun hdropped => hsn ?_
      simpa using List.mem_takeWhile_imp hdropped
    exact absurd (hsound.before nack (by simpa using hmem) _ hcovers) (Nat.lt_irrefl _)
  · obtain hexceeds | hfits' := Nat.lt_or_ge grant (report.packedSize cfg.snFieldLength)
    rotate_left
    · obtain rfl := Option.some.inj (htrim.symm.trans (if_pos hfits'))
      exact sound_of_reports hrecorded hK hack hfits' hreports hreported
    obtain ⟨kept, dropped, hcut⟩ := exists_cutAt hgrant hexceeds
    obtain rfl := Option.some.inj (htrim.symm.trans (hcut.trim_eq hgrant))
    refine hsound (reports_of_not_covers hreports' fun last hlast hcovers => ?_)
    rw [List.reverse_reverse] at hlast
    have hmem : last ∈ kept :=
      List.mem_reverse.mp ((List.dropWhile_sublist _).mem (List.mem_of_head? hlast))
    have hstart : last.nackSn = dropped.nackSn :=
      hcuts kept dropped hcut last hmem (by rwa [← hack'] at hcovers)
    have hhead := List.head?_dropWhile_not (fun nack : Nack => nack.nackSn = dropped.nackSn)
      kept.reverse
    rw [Option.mem_def.mp hlast] at hhead
    simp [hstart] at hhead

def shortSnConfig : RxConfig where
  snFieldLength := .size12bits
  tStatusProhibit := 0
  maxSnPerStatus := none
  maxSnPerStatus_le := by simp

def oneByteOfSn1 : List RxEvent :=
  [.handlePdu [0xb0, 0x01, 0x00, 0x01, 0x2a], .stopReassemblyTimer, .expiredReassemblyTimer]

def mergedReport : StatusPdu where
  ackSn := 2
  nacks :=
    [{ nackSn := 0, hasSo := true, soStart := 0, soEnd := 0, hasNackRange := true, nackRange := 2 },
      { nackSn := 1, hasSo := true, soStart := 2, soEnd := soEndOfSdu }]

lemma oneByteOfSn1_report : ∃ history : RxHistory shortSnConfig,
    oneByteOfSn1.foldlM RxHistory.step {} = some history ∧
      history.entity.buildStatusReport = some mergedReport := by
  have hsome : (oneByteOfSn1.foldlM RxHistory.step ({} : RxHistory shortSnConfig)).isSome := by
    decide +kernel
  have hreport : (oneByteOfSn1.foldlM RxHistory.step ({} : RxHistory shortSnConfig)).bind
      (fun history => history.entity.buildStatusReport) = some mergedReport := by decide +kernel
  obtain ⟨history, hrun⟩ := Option.isSome_iff_exists.mp hsome
  rw [hrun, Option.bind_some] at hreport
  exact ⟨history, hrun, hreport⟩

/-- SNs 0 and 2 are missing below SN 3, and both are reported after two expiries. -/
def twoGaps : List RxEvent :=
  [.handlePdu [0x80, 0x01, 0x2b], .handlePdu [0x80, 0x03, 0x2d], .stopReassemblyTimer,
    .expiredReassemblyTimer, .stopReassemblyTimer, .expiredReassemblyTimer]

theorem twoGaps_sound : ∃ (history : RxHistory shortSnConfig) (report trimmed : StatusPdu),
    twoGaps.foldlM RxHistory.step {} = some history ∧
      history.entity.buildStatusReport = some report ∧
      report = { ackSn := 4, nacks := [{ nackSn := 0 }, { nackSn := 2 }] } ∧
      report.trim .size12bits 6 = some trimmed ∧ trimmed.nacks.length = 1 ∧
      Sound history 6 trimmed := by
  have hresult : (twoGaps.foldlM RxHistory.step ({} : RxHistory shortSnConfig)).map
      (fun history => history.entity.buildStatusReport) =
        some (some { ackSn := 4, nacks := [{ nackSn := 0 }, { nackSn := 2 }] }) := by
    decide +kernel
  obtain ⟨history, hrun, hreport⟩ := Option.map_eq_some_iff.mp hresult
  obtain ⟨trimmed, htrim, hiff⟩ := trimmed_sound_iff twoGaps history hrun _ hreport 6 (by decide)
  refine ⟨history, _, trimmed, hrun, hreport, rfl, htrim, ?_, hiff.mpr ?_⟩
  · obtain rfl := Option.some.inj htrim
    rfl
  rintro kept dropped ⟨⟨more, hmore⟩, -, -⟩ nack hnack hcovers
  obtain _ | ⟨first, _ | ⟨second, rest⟩⟩ := kept
  · cases hnack
  · obtain rfl := List.mem_singleton.mp hnack
    cases hmore
    exact absurd hcovers (by decide)
  · simp at hmore

/-- With four bytes less the second NACK is dropped, and the first one covers the new
ACK_SN. -/
theorem mergedReport_trimmed_not_sound : ∃ (history : RxHistory shortSnConfig)
    (trimmed : StatusPdu), oneByteOfSn1.foldlM RxHistory.step {} = some history ∧
      history.entity.buildStatusReport = some mergedReport ∧
      mergedReport.trim .size12bits 12 = some trimmed ∧ ¬Sound history 12 trimmed := by
  have htrim : mergedReport.trim .size12bits 12 =
      some { ackSn := 1, nacks := mergedReport.nacks.take 1 } := by decide
  obtain ⟨history, hrun, hreport⟩ := oneByteOfSn1_report
  refine ⟨history, _, hrun, hreport, htrim, fun hsound => ?_⟩
  have hbefore := hsound.before _ (List.mem_cons_self) 1 (by decide)
  exact absurd hbefore (Nat.lt_irrefl _)

/-- Whatever bytes come in, no count is delivered twice. -/
theorem delivered_once {events : List RxEvent}
    (hrun : events.foldlM RxHistory.step {} = some history) :
    (history.delivered.map Prod.fst).Nodup ∧ ∀ d, d ∈ history.delivered.map Prod.fst ↔
      d < history.nofDone ∨ completed history.entity history.nofDone d := by
  have hrec := foldlM_invariant Recorded hrun (recorded_init cfg)
    fun _ _ _ _ => step_recorded
  exact ⟨hrec.nodup, hrec.delivered_iff⟩

/-- SN 1 comes before SN 0 and both come twice, and SN 3 stays above the gap at SN 2. -/
def reorderedAndRepeated : List RxEvent :=
  [.handlePdu [0x80, 0x01, 0x2b], .handlePdu [0x80, 0x01, 0x2b], .handlePdu [0x80, 0x00, 0x2a],
    .handlePdu [0x80, 0x03, 0x2d], .handlePdu [0x80, 0x00, 0x2a], .handlePdu [0x80, 0x03, 0x2d]]

theorem reorderedAndRepeated_once : ∃ history : RxHistory shortSnConfig,
    reorderedAndRepeated.foldlM RxHistory.step {} = some history ∧
      history.delivered = [(1, [0x2b]), (0, [0x2a]), (3, [0x2d])] ∧ history.nofDone = 2 ∧
      (history.delivered.map Prod.fst).Nodup ∧ completed history.entity history.nofDone 3 := by
  have hresult : (reorderedAndRepeated.foldlM RxHistory.step
      ({} : RxHistory shortSnConfig)).map (fun history => (history.delivered, history.nofDone)) =
        some ([(1, [0x2b]), (0, [0x2a]), (3, [0x2d])], 2) := by decide +kernel
  obtain ⟨history, hrun, hhistory⟩ := Option.map_eq_some_iff.mp hresult
  obtain ⟨hdelivered, hdone⟩ := Prod.mk.inj hhistory
  obtain ⟨hnodup, hiff⟩ := delivered_once hrun
  refine ⟨history, hrun, hdelivered, hdone, hnodup, ?_⟩
  have hthird : 3 ∈ history.delivered.map Prod.fst := by simp [hdelivered]
  exact ((hiff 3).mp hthird).resolve_left (by omega)

end ProtoRu.Rlc
