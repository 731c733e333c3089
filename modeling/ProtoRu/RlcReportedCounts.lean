import ProtoRu.RlcPduRoundTrip
import ProtoRu.RlcStatusReports
import ProtoRu.RlcTxAmEntity

namespace ProtoRu.Rlc

open RxEntity List Option

lemma encodable_of_single {snSize : SnSize} {nack : Nack} (hsn : nack.nackSn < snSize.cardinality)
    (hstart : nack.soStart < 2 ^ 16) (hend : nack.soEnd < 2 ^ 16)
    (hsingle : nack.hasNackRange = false) : nack.Encodable snSize := by
  refine ⟨hsn, hstart, hend, ?_⟩
  simp [Nack.nofSdus, hsingle]

variable {nacks : List Nack}

section

variable {snSize : SnSize} {sn : Nat} (hsn : sn < snSize.cardinality)

include hsn

lemma gapNack_encodable {lastSo so : Nat} {gap : List Nack}
    (h : gapNack sn lastSo so = some gap) : ∀ nack ∈ gap, nack.Encodable snSize := by
  rw [gapNack] at h
  split at h
  · simp [← some.inj h]
  split at h
  · intro nack hnack
    rw [← some.inj h, mem_singleton] at hnack
    rw [hnack]
    exact encodable_of_single hsn (Nat.mod_lt _ (by decide)) (Nat.mod_lt _ (by decide)) rfl
  · cases h

lemma segmentNacks_encodable {lastSo : Nat} {haveLast : Bool} {segments : List Segment}
    (h : segmentNacks sn lastSo haveLast segments = some nacks) :
    ∀ nack ∈ nacks, nack.Encodable snSize := by
  induction segments generalizing lastSo haveLast nacks with
  | nil =>
    cases haveLast with
    | true => simp [← some.inj h]
    | false =>
      intro nack hnack
      rw [← some.inj h, mem_singleton] at hnack
      rw [hnack]
      exact encodable_of_single hsn (Nat.mod_lt _ (by decide)) (by decide : soEndOfSdu < 2 ^ 16) rfl
  | cons segm rest ih =>
    obtain ⟨gap, later, hgap, hlater, rfl⟩ := segmentNacks_cons h
    exact forall_mem_append.mpr ⟨gapNack_encodable hsn hgap, ih hlater⟩

end

lemma foldl_pushNack_encodable {snSize : SnSize} {added nacks : List Nack}
    (hnacks : ∀ nack ∈ nacks, nack.Encodable snSize)
    (hadded : ∀ nack ∈ added, nack.Encodable snSize) :
    ∀ nack ∈ added.foldl (pushNack snSize) nacks, nack.Encodable snSize := by
  induction added generalizing nacks with
  | nil => exact hnacks
  | cons nack rest ih =>
    exact ih (pushNack_encodable hnacks (hadded nack mem_cons_self))
      fun other hother => hadded other (mem_cons_of_mem nack hother)

variable {cfg : RxConfig} {entity : RxEntity cfg}

lemma snNacks_encodable {sn : Nat} (hsn : sn < cfg.mod) (h : entity.snNacks sn = some nacks) :
    ∀ nack ∈ nacks, nack.Encodable cfg.snFieldLength := by
  rw [snNacks] at h
  split at h
  · intro nack hnack
    rw [← some.inj h, mem_singleton] at hnack
    rw [hnack]
    exact encodable_of_single hsn (by decide : 0 < 2 ^ 16) (by decide : soEndOfSdu < 2 ^ 16) rfl
  · split at h
    · simp [← some.inj h]
    · split at h
      · cases h
      · exact segmentNacks_encodable hsn h

variable {report : StatusPdu}

lemma buildStatusReport_encodable (h : entity.buildStatusReport = some report) :
    ∀ nack ∈ report.nacks, nack.Encodable cfg.snFieldLength := by
  obtain ⟨nacks, hnacks, rfl⟩ := map_eq_some_iff.mp h
  refine foldlM_invariant (fun nacks => ∀ nack ∈ nacks, nack.Encodable cfg.snFieldLength) hnacks
    (by simp) fun before sn after hmem hbefore hpush => ?_
  obtain ⟨added, hadded, rfl⟩ := map_eq_some_iff.mp hpush
  obtain ⟨i, -, rfl⟩ := mem_map.mp hmem
  exact foldl_pushNack_encodable hbefore (snNacks_encodable (Nat.mod_lt _ cfg.mod_pos) hadded)

structure Current (snSize : SnSize) (r : Nat) (report : StatusPdu) : Prop where
  encodable : report.Encodable snSize
  span : ∃ K ≤ snSize.windowSize, report.ackSn = (r + K) % snSize.cardinality ∧
    Reports snSize r report.nacks.reverse K ∧ (0 < K → Reported snSize r report.nacks 0)

lemma current_init (snSize : SnSize) : Current snSize 0 { ackSn := 0, nacks := [] } := by
  have hpos : 0 < snSize.cardinality := by cases snSize <;> decide
  refine ⟨⟨hpos, by simp⟩, 0, Nat.zero_le _, (Nat.zero_mod _).symm, trivial, ?_⟩
  exact fun hlt => absurd hlt (Nat.lt_irrefl 0)

lemma buildStatusReport_current {history : RxHistory cfg} (hrec : Recorded history)
    (h : history.entity.buildStatusReport = some report) :
    Current cfg.snFieldLength history.nofDone report := by
  obtain ⟨h', n, htracks⟩ := hrec.tracks
  obtain ⟨K, hK, hack, hreps, hrepd⟩ := buildStatusReport_spec hrec h
  refine ⟨⟨?_, buildStatusReport_encodable h⟩, K, hK, hack, hreps, fun hpos => ?_⟩
  · rw [hack]
    exact Nat.mod_lt _ cfg.mod_pos
  · exact hrepd 0 hpos htracks.open_next

section

variable {snSize : SnSize} {r : Nat}

lemma Reports.last_of_mem {first nack : Nack} {stop : Nat}
    (hreps : Reports snSize r (nacks ++ [first]) stop) (hstop : stop ≤ snSize.cardinality)
    (hmem : nack ∈ nacks ++ [first]) (hsn : nack.nackSn = r % snSize.cardinality) :
    first.nackSn = r % snSize.cardinality := by
  induction nacks generalizing stop with
  | nil =>
    obtain rfl := mem_singleton.mp hmem
    exact hsn
  | cons back rest ih =>
    obtain ⟨i, hback, hpos, hi, hrest⟩ := hreps
    obtain rfl | hin := mem_cons.mp hmem
    · have hzero : r + i = r :=
        eq_of_mod_eq_of_window (Nat.le_add_right r i) (by omega) (Nat.le_refl r)
          (by omega : r < r + snSize.cardinality) (hback.symm.trans hsn)
      obtain ⟨j, hfirst, hpos', hj⟩ :=
        Reports.of_mem hrest (mem_append_right rest mem_cons_self)
      rw [hfirst, show j = 0 by omega, Nat.add_zero]
    · exact ih hrest (by omega) hin

lemma stopSn_of_reports {status : StatusPdu} {a : Nat} (ha : a < snSize.cardinality)
    (hack : status.ackSn = (r + a) % snSize.cardinality)
    (hreps : Reports snSize r status.nacks.reverse (a + 1))
    (hrepd : 0 < a → Reported snSize r status.nacks 0) :
    TxEntity.stopSn status = r % snSize.cardinality := by
  rw [TxEntity.stopSn]
  rcases hnacks : status.nacks with _ | ⟨first, rest⟩
  · have hzero : a = 0 := by
      by_contra hpos
      obtain ⟨nack, hmem, -⟩ := hrepd (by omega)
      rw [hnacks] at hmem
      cases hmem
    simp [hack, hzero]
  · rw [hnacks, reverse_cons] at hreps
    simp only [head?_cons, map_some, getD_some]
    obtain rfl | hpos := Nat.eq_zero_or_pos a
    · obtain ⟨i, hfirst, hpos, hi⟩ :=
        Reports.of_mem hreps (mem_append_right _ mem_cons_self)
      rw [hfirst, show i = 0 by omega, Nat.add_zero]
    obtain ⟨nack, hmem, i, hsn, hi, -⟩ := hrepd hpos
    rw [show i = 0 by omega, Nat.add_zero] at hsn
    refine Reports.last_of_mem hreps ha ?_ hsn
    rw [← reverse_cons, ← hnacks]
    exact mem_reverse.mpr hmem

lemma trimNacks_suffix (maxPackedSize : Nat) (nacks : List Nack) (ackSn : Nat) :
    (trimNacks snSize maxPackedSize nacks ackSn).1 <:+ nacks := by
  induction nacks generalizing ackSn with
  | nil => exact suffix_refl []
  | cons back rest ih =>
    rw [trimNacks]
    split
    · exact (ih _).trans (suffix_cons back rest)
    · exact suffix_refl _

lemma trim_subset {maxPackedSize : Nat} {status trimmed : StatusPdu}
    (h : status.trim snSize maxPackedSize = some trimmed) : trimmed.nacks ⊆ status.nacks := by
  rw [StatusPdu.trim] at h
  split at h
  · obtain rfl := some.inj h
    exact List.Subset.refl _
  split at h
  · cases h
  obtain rfl := some.inj h
  intro nack hnack
  exact mem_reverse.mp ((trimNacks_suffix maxPackedSize _ _).subset (mem_reverse.mp hnack))

lemma head?_pushNack (nacks : List Nack) (nack : Nack) :
    (pushNack snSize nacks nack).head?.map Nack.nackSn =
      (nacks ++ [nack]).head?.map Nack.nackSn := by
  obtain rfl | ⟨init, prev, rfl⟩ := eq_nil_or_concat nacks
  · rfl
  rw [pushNack, concat_eq_append, getLast?_concat]
  simp only [dropLast_concat]
  split
  · cases init <;> rfl
  · rfl

lemma head?_foldl_pushNack (added nacks : List Nack) :
    (added.foldl (pushNack snSize) nacks).head?.map Nack.nackSn =
      (nacks ++ added).head?.map Nack.nackSn := by
  induction added generalizing nacks with
  | nil => rw [append_nil]; rfl
  | cons nack rest ih =>
    rw [foldl_cons, ih]
    have hpush := @head?_pushNack snSize nacks nack
    cases hcase : pushNack snSize nacks nack with
    | nil =>
      rw [hcase] at hpush
      cases nacks <;> cases hpush
    | cons first others =>
      rw [hcase] at hpush
      cases nacks <;> exact hpush

lemma Current.received {grant : Nat} (hcur : Current snSize r report)
    (hgrant : sizeofHeaderAckSn ≤ grant) :
    ∃ trimmed a status, report.trim snSize grant = some trimmed ∧ a ≤ snSize.windowSize ∧
      trimmed.ackSn = (r + a) % snSize.cardinality ∧
      StatusPdu.unpack snSize (trimmed.pack snSize) = some status ∧
      status.ackSn = (r + a) % snSize.cardinality ∧
      TxEntity.stopSn status = r % snSize.cardinality := by
  have hcard := snSize.cardinality_eq
  have hsize := snSize.two_mul_range_lt_windowSize
  obtain ⟨K, hK, hack, hreps, hrepd⟩ := hcur.span
  obtain ⟨trimmed, a, htrim, ha, hack', -, hreps', hkept⟩ :=
    trim_spec hgrant hack hreps (by omega)
  have hencodable : trimmed.Encodable snSize := by
    refine ⟨?_, fun nack hnack => hcur.encodable.nacks nack (trim_subset htrim hnack)⟩
    rw [hack']
    exact Nat.mod_lt _ (by omega)
  refine ⟨trimmed, a, _, htrim, by omega, hack', unpack_pack hencodable, hack', ?_⟩
  rw [← stopSn_of_reports (by omega) hack' hreps' fun hpos =>
    hkept 0 hpos (hrepd (by omega)), TxEntity.stopSn, TxEntity.stopSn, head?_foldl_pushNack]
  cases trimmed.nacks <;> rfl

end

section

variable {after : RxEntity cfg}

lemma refreshStatusReport_report (h : entity.refreshStatusReport = some after) :
    after.buildStatusReport = some after.statusReport := by
  obtain ⟨statusReport, hreport, rfl⟩ := map_eq_some_iff.mp h
  exact hreport

lemma finishDataPdu_report {changed requested : Bool}
    (h : entity.finishDataPdu changed requested = some after) :
    after.buildStatusReport = some after.statusReport ∨ after = entity ∧ changed = false := by
  rw [finishDataPdu] at h
  split_ifs at h with hneither
  · obtain ⟨refreshed, hrefr, rfl⟩ := map_eq_some_iff.mp h
    have hreport := refreshStatusReport_report hrefr
    exact .inl hreport
  refine .inr ⟨(some.inj h).symm, ?_⟩
  simp only [Bool.or_eq_true, not_or, Bool.not_eq_true] at hneither
  exact hneither.1

/-- The fields that neither the window nor the timer has a part in. -/
def SameReport (before after : RxEntity cfg) : Prop :=
  after.statusReport = before.statusReport ∧ after.rxNext = before.rxNext

lemma startReassemblyTimer_sameReport (entity : RxEntity cfg) (sn : Nat) :
    SameReport entity (entity.startReassemblyTimer sn) := by
  rw [startReassemblyTimer]
  split <;> exact ⟨rfl, rfl⟩

lemma updateReassemblyTimer_sameReport (h : entity.updateReassemblyTimer = some after) :
    SameReport entity after := by
  rw [updateReassemblyTimer] at h
  split at h
  · obtain ⟨stops, -, rfl⟩ := map_eq_some_iff.mp h
    split
    · exact startReassemblyTimer_sameReport { entity with reassemblyTimerRunning := false } _
    · exact ⟨rfl, rfl⟩
  · rw [← some.inj h]
    exact startReassemblyTimer_sameReport entity entity.rxNext

variable {history : RxHistory cfg} {delivery : Option Delivery}

lemma receiveData_unchanged {header : PduHeader} {payload : Bytes} (hrec : Recorded history)
    (hsn : header.sn < cfg.mod)
    (h : history.entity.receiveData header payload = some (after, false, delivery)) :
    SameReport history.entity after := by
  rw [receiveData] at h
  split_ifs at h with huseful
  · simp only [some.injEq, Prod.mk.injEq] at h
    rw [← h.1]
    exact ⟨rfl, rfl⟩
  obtain ⟨timed, htimed, hresl⟩ := map_eq_some_iff.mp h
  simp only [Prod.mk.injEq] at hresl
  obtain ⟨rfl, hdiscd, -⟩ := hresl
  obtain ⟨hinside, hincompl⟩ : history.entity.rxModBase header.sn < cfg.amWindowSize ∧
      history.entity.isComplete header.sn = false := by
    simpa [insideRxWindow] using huseful
  rw [placePdu] at hdiscd
  split at hdiscd
  · cases hdiscd
  rename_i hsegm
  have hnone : storeSegment ((history.entity.rxWindow.get? header.sn).getD {}).segments
      { si := header.si, so := header.so, payload } = none := by
    simpa [handleSegmentDataSdu] using hdiscd
  obtain ⟨info, hinfo⟩ : ∃ info, history.entity.rxWindow.get? header.sn = some info := by
    rcases hget : history.entity.rxWindow.get? header.sn with _ | info
    · rw [hget] at hnone
      cases hnone
    · exact ⟨info, rfl⟩
  have hopen : (updateSegmentInventory info.segments).fullyReceived = false := by
    obtain ⟨h', n, htracks⟩ := hrec.tracks
    have hmod := cfg.mod_eq
    have hfull : info.fullyReceived = false := by
      rwa [isComplete, hinfo, any_some] at hincompl
    rw [exists_count_of_lt htracks.rxNext_eq hsn,
      htracks.get?_eq_held (Nat.le_add_right _ _) (by omega)] at hinfo
    obtain ⟨segments, rfl⟩ := hrec.incomplete _ info hinfo hfull
    exact hfull
  have hplaced : (history.entity.placePdu header payload).1.rxWindow.get? header.sn =
      some (updateSegmentInventory info.segments) := by
    rw [placePdu_eq, CircularMap.get?_overwrite, if_pos rfl, placedInfo, if_neg hsegm]
    simp only [hinfo, getD_some] at hnone ⊢
    rw [hnone, getD_none]
  have hadvanced : ((history.entity.placePdu header payload).1.updateNextHighest
      header.sn).rxWindow.get? header.sn = some (updateSegmentInventory info.segments) := by
    rw [updateNextHighest]
    split <;> exact hplaced
  rw [deliverSdu_eq hadvanced, if_neg (by simp [hopen])] at htimed
  have htimer := updateReassemblyTimer_sameReport htimed
  have hplacedReport : SameReport history.entity
      ((history.entity.placePdu header payload).1.updateNextHighest header.sn) := by
    rw [updateNextHighest, placePdu_eq]
    split <;> exact ⟨rfl, rfl⟩
  exact ⟨htimer.1.trans hplacedReport.1, htimer.2.trans hplacedReport.2⟩

lemma handlePdu_report {pdu : Bytes} (hrec : Recorded history)
    (h : history.entity.handlePdu pdu = some (after, delivery)) :
    after.buildStatusReport = some after.statusReport ∨ SameReport history.entity after := by
  obtain ⟨rfl, -⟩ | ⟨header, received, changed, hhdr, -, hrecv, hfinished⟩ := handlePdu_cases h
  · exact .inr ⟨rfl, rfl⟩
  obtain hreport | ⟨rfl, rfl⟩ := finishDataPdu_report hfinished
  · exact .inl hreport
  · exact .inr (receiveData_unchanged hrec (readDataPduHeader_sn_lt hhdr) hrecv)

lemma onExpiredReassemblyTimer_report (h : entity.onExpiredReassemblyTimer = some after) :
    after.buildStatusReport = some after.statusReport ∨ SameReport entity after := by
  rw [onExpiredReassemblyTimer] at h
  split at h
  · rw [← some.inj h]
    exact .inr ⟨rfl, rfl⟩
  simp only at h
  split at h
  · obtain ⟨refreshed, hrefr, rfl⟩ := map_eq_some_iff.mp h
    have hreport := refreshStatusReport_report hrefr
    exact .inl hreport
  · cases h

variable {later : RxHistory cfg} {event : RxEvent} (hrec : Recorded history)

include hrec

lemma step_report (hstep : history.step event = some later) :
    later.entity.buildStatusReport = some later.entity.statusReport ∨
      SameReport history.entity later.entity ∧
        later.nofDone = history.countOf later.entity.rxNext := by
  cases event with
  | handlePdu pdu =>
    obtain ⟨⟨entity, delivery⟩, hpdu, rfl⟩ := map_eq_some_iff.mp hstep
    exact (handlePdu_report hrec hpdu).imp_right fun hsame => ⟨hsame, rfl⟩
  | expiredReassemblyTimer =>
    obtain ⟨entity, hexpd, rfl⟩ := map_eq_some_iff.mp hstep
    exact (onExpiredReassemblyTimer_report hexpd).imp_right fun hsame => ⟨hsame, rfl⟩
  | stopReassemblyTimer | expiredStatusProhibitTimer | getStatusPdu =>
    rw [← some.inj hstep]
    exact .inr ⟨⟨rfl, rfl⟩, rfl⟩

lemma step_current (hcur : Current cfg.snFieldLength history.nofDone history.entity.statusReport)
    (hstep : history.step event = some later) :
    Current cfg.snFieldLength later.nofDone later.entity.statusReport := by
  obtain hreport | ⟨⟨hreport, hnext⟩, hdone⟩ := step_report hrec hstep
  · exact buildStatusReport_current (step_recorded hrec hstep) hreport
  obtain ⟨h', n, htracks⟩ := hrec.tracks
  rw [hnext, htracks.rxNext_eq, rxCountOf_mod htracks.rxNext_eq le_rfl
    (Nat.lt_add_of_pos_right cfg.mod_pos)] at hdone
  rwa [hreport, hdone]

end

end ProtoRu.Rlc
