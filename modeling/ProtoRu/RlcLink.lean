import Mathlib.Data.List.Perm.Subperm
import ProtoRu.RlcReassembly
import ProtoRu.RlcReportedCounts
import ProtoRu.RlcStatusAcceptance
import ProtoRu.RlcTxRuns

/-!
A transmitter and a receiver with a channel in each direction. A PDU stays in its channel
and can be delivered any number of times and in any order, or never, as long as the other
side has not moved on by more than half of the SN space. Whatever the receiver delivers is
an SDU that has been sent, and it delivers each of them at most once.
-/

namespace ProtoRu.Rlc

open List Option

/-- The channels hold PDUs with the counts of their SDU or of their ACK_SN. -/
structure Link (txCfg : TxConfig) (rxCfg : RxConfig) where
  tx : TxHistory txCfg := {}
  rx : RxHistory rxCfg := {}
  dataPdus : List (Nat × Bytes) := []
  statusPdus : List (Nat × Bytes) := []
  written : List Bytes := []
  sent : List (Nat × Bytes) := []

/-- What happens to one of the two sides. A pull may have to send a status PDU of its own side. -/
inductive LinkEvent where
  | handleSdu (sdu : RlcSdu)
  | discardSdu (pdcpSn : Nat)
  | updateMacBufferState
  | pullPdu (grant : Nat) (required : Option StatusPdu)
  | pollRetransmitTimerExpired
  | deliverData (i : Nat)
  | pullStatusPdu (grant : Nat)
  | deliverStatus (i : Nat)
  | stopReassemblyTimer
  | expiredReassemblyTimer
  | expiredStatusProhibitTimer

namespace Link

variable {txCfg : TxConfig} {rxCfg : RxConfig} (link : Link txCfg rxCfg)

def setTx (tx : TxHistory txCfg) : Link txCfg rxCfg := { link with tx }

def setRx (rx : RxHistory rxCfg) : Link txCfg rxCfg := { link with rx }

def pullPdu (grant : Nat) (required : Option StatusPdu) : Link txCfg rxCfg :=
  { link with
    tx := link.tx.follow (link.tx.entity.pullPdu grant required).1
    dataPdus := link.dataPdus ++ (link.tx.dataPdu grant required).toList
    sent := link.sent ++ link.tx.taken grant required }

/-- A report that is not required is not sent, and neither is one without a grant for its
header. -/
def pullStatusPdu (grant : Nat) : Option (Link txCfg rxCfg) :=
  if link.rx.entity.statusReportRequired ∧ sizeofHeaderAckSn ≤ grant then
    (link.rx.step .getStatusPdu).map fun rx =>
      { link with
        rx
        statusPdus := link.statusPdus ++
          ((link.rx.entity.getStatusPdu.2.trim rxCfg.snFieldLength grant).map fun trimmed =>
            (link.rx.countOf trimmed.ackSn, trimmed.pack rxCfg.snFieldLength)).toList }
  else some link

/-- A PDU is late when the receiver has moved on by more than half of the SN space. -/
def deliverData (i : Nat) : Option (Link txCfg rxCfg) :=
  link.dataPdus[i]?.bind fun (count, pdu) =>
    if link.rx.nofDone ≤ count + rxCfg.amWindowSize then
      (link.rx.step (.handlePdu pdu)).map link.setRx
    else none

def deliverStatus (i : Nat) : Option (Link txCfg rxCfg) :=
  link.statusPdus[i]?.bind fun (count, pdu) =>
    if link.tx.nofAcked < count + txCfg.amWindowSize then
      (link.tx.step (.statusPdu pdu)).map link.setTx
    else none

/-- Undefined for a PDU that is late or not there, and when an assertion of the source fails. -/
def step : LinkEvent → Option (Link txCfg rxCfg)
  | .handleSdu sdu =>
    (link.tx.step (.handleSdu sdu)).map fun tx =>
      { link with tx, written := link.written ++ [sdu.buf] }
  | .discardSdu pdcpSn => (link.tx.step (.discardSdu pdcpSn)).map link.setTx
  | .updateMacBufferState => (link.tx.step .updateMacBufferState).map link.setTx
  | .pullPdu grant required => some (link.pullPdu grant required)
  | .pollRetransmitTimerExpired => (link.tx.step .pollRetransmitTimerExpired).map link.setTx
  | .deliverData i => link.deliverData i
  | .pullStatusPdu grant => link.pullStatusPdu grant
  | .deliverStatus i => link.deliverStatus i
  | .stopReassemblyTimer => (link.rx.step .stopReassemblyTimer).map link.setRx
  | .expiredReassemblyTimer => (link.rx.step .expiredReassemblyTimer).map link.setRx
  | .expiredStatusProhibitTimer => (link.rx.step .expiredStatusProhibitTimer).map link.setRx

end Link

variable {txCfg : TxConfig} {rxCfg : RxConfig}

structure DataPdu (txCfg : TxConfig) (sent : List (Nat × Bytes)) (nofAcked : Nat)
    (pdu : Nat × Bytes) : Prop where
  lt_window : pdu.1 < nofAcked + txCfg.amWindowSize
  carries : ∃ header payload, Carries txCfg sent pdu.1 header payload ∧
    pdu.2 = writeDataPduHeader txCfg.snFieldLength header ++ payload

def ReportPdu (txCfg : TxConfig) (r : Nat) (pdu : Nat × Bytes) : Prop :=
  ∃ start ≤ r, start ≤ pdu.1 ∧ pdu.1 ≤ start + txCfg.amWindowSize ∧
    ∃ status, StatusPdu.unpack txCfg.snFieldLength pdu.2 = some status ∧
      status.ackSn = pdu.1 % txCfg.mod ∧ TxEntity.stopSn status = start % txCfg.mod

/-- The transmitter takes nothing for acknowledged that the receiver has not delivered. -/
structure Linked (link : Link txCfg rxCfg) : Prop where
  sends : Sends link.tx link.written link.sent
  sizes : ∀ sdu ∈ link.written, 0 < sdu.length ∧ sdu.length ≤ 65535
  recorded : Recorded link.rx
  current : Current rxCfg.snFieldLength link.rx.nofDone link.rx.entity.statusReport
  acked_le : link.tx.nofAcked ≤ link.rx.nofDone
  dataPdus : ∀ pdu ∈ link.dataPdus, DataPdu txCfg link.sent link.tx.nofAcked pdu
  statusPdus : ∀ pdu ∈ link.statusPdus, ReportPdu txCfg link.rx.nofDone pdu
  delivered : ∀ sdu ∈ link.rx.delivered, sdu ∈ link.sent ∧
    sdu.1 < link.tx.nofAcked + txCfg.amWindowSize
  pieces : ∀ d info, held link.rx.entity link.rx.nofDone d = some info →
    info.fullyReceived = false → ∃ sdu, (d, sdu) ∈ link.sent ∧ Pieces sdu info.segments

lemma linked_init (txCfg : TxConfig) (rxCfg : RxConfig) : Linked ({} : Link txCfg rxCfg) where
  sends := sends_init txCfg
  sizes := by simp
  recorded := recorded_init rxCfg
  current := current_init rxCfg.snFieldLength
  acked_le := Nat.le_refl 0
  dataPdus := by simp
  statusPdus := by simp
  delivered := by simp
  pieces := by
    intro d info hinfo
    rw [held] at hinfo
    split at hinfo <;> cases hinfo

variable {pdu : Nat × Bytes} {tx : TxHistory txCfg}

lemma DataPdu.mono {sent : List (Nat × Bytes)} {nofAcked nofAcked' : Nat}
    (hpdu : DataPdu txCfg sent nofAcked pdu) (hle : nofAcked ≤ nofAcked')
    (more : List (Nat × Bytes)) : DataPdu txCfg (sent ++ more) nofAcked' pdu := by
  have hlt := hpdu.lt_window
  obtain ⟨header, payload, hcarr, hbytes⟩ := hpdu.carries
  obtain ⟨sdu, so, hmem, hsegm⟩ := hcarr.segment
  exact ⟨by omega, header, payload, ⟨hcarr.sn_eq, sdu, so, mem_append_left _ hmem, hsegm⟩, hbytes⟩

lemma ReportPdu.mono {r r' : Nat} (hpdu : ReportPdu txCfg r pdu) (hle : r ≤ r') :
    ReportPdu txCfg r' pdu := by
  obtain ⟨start, hstart, hrest⟩ := hpdu
  exact ⟨start, by omega, hrest⟩

variable {link : Link txCfg rxCfg}

section

variable (hlinked : Linked link)

include hlinked

lemma Linked.nofDone_le : link.rx.nofDone ≤ link.tx.nofAcked + txCfg.amWindowSize := by
  by_contra hgt
  have hmem := (hlinked.recorded.delivered_iff (link.tx.nofAcked + txCfg.amWindowSize)).mpr
    (.inl (by omega))
  obtain ⟨sdu, hsdu, heq⟩ := mem_map.mp hmem
  have hlt := (hlinked.delivered sdu hsdu).2
  omega

lemma Linked.of_tx {written : List Bytes} {dataPdus more : List (Nat × Bytes)}
    (hsends : Sends tx written (link.sent ++ more))
    (hsizes : ∀ sdu ∈ written, 0 < sdu.length ∧ sdu.length ≤ 65535)
    (hle : link.tx.nofAcked ≤ tx.nofAcked) (hle' : tx.nofAcked ≤ link.rx.nofDone)
    (hdata : ∀ pdu ∈ dataPdus, DataPdu txCfg (link.sent ++ more) tx.nofAcked pdu) :
    Linked { link with
      tx, written, dataPdus := link.dataPdus ++ dataPdus, sent := link.sent ++ more } where
  sends := hsends
  sizes := hsizes
  recorded := hlinked.recorded
  current := hlinked.current
  acked_le := hle'
  dataPdus := forall_mem_append.mpr
    ⟨fun pdu hold => (hlinked.dataPdus pdu hold).mono hle more, hdata⟩
  statusPdus := hlinked.statusPdus
  delivered := by
    intro sdu hsdu
    obtain ⟨hmem, hlt⟩ := hlinked.delivered sdu hsdu
    exact ⟨mem_append_left _ hmem, by simp only; omega⟩
  pieces := by
    intro d info hinfo hfull
    obtain ⟨sdu, hmem, hpieces⟩ := hlinked.pieces d info hinfo hfull
    exact ⟨sdu, mem_append_left _ hmem, hpieces⟩

lemma Linked.setTx (hsends : Sends tx link.written link.sent)
    (hle : link.tx.nofAcked ≤ tx.nofAcked) (hle' : tx.nofAcked ≤ link.rx.nofDone) :
    Linked (link.setTx tx) := by
  have hafter := @Linked.of_tx _ _ tx _ hlinked link.written [] [] (by simpa using hsends)
    hlinked.sizes hle hle' (by simp)
  simpa [Link.setTx] using hafter

lemma Linked.setTx_of_eq (h : Sends tx link.written link.sent ∧ tx.nofAcked = link.tx.nofAcked) :
    Linked (link.setTx tx) :=
  hlinked.setTx h.1 h.2.ge (h.2.le.trans hlinked.acked_le)

lemma Linked.pullPdu (grant : Nat) (required : Option StatusPdu) :
    Linked (link.pullPdu grant required) := by
  obtain ⟨hsends, hacked, hpdus⟩ := pullPdu_sends hlinked.sends
    (fun sdu hsdu => length_pos_iff.mp (hlinked.sizes sdu hsdu).1) grant required
  refine hlinked.of_tx hsends hlinked.sizes (Nat.le_of_eq hacked.symm)
    (hacked ▸ hlinked.acked_le) fun pdu hpdu => ?_
  obtain ⟨hlt, header, payload, hcarr, hbytes⟩ := hpdus pdu (mem_toList.mp hpdu)
  exact ⟨by rw [hacked]; exact hlt, header, payload, hcarr, hbytes⟩

end

/-- What a status PDU that is not late acknowledges ends at the start of the window it is about.
-/
lemma reported_count_eq {m W acked ack d k start r : Nat} (hm : m = 2 * W)
    (hack : ack ≡ k [MOD m]) (hgt : acked < ack) (hle : ack ≤ acked + W)
    (hstop : start ≡ acked + d [MOD m]) (hd : acked + d ≤ ack)
    (hk : k ≤ start + W) (hr : start ≤ r) (hr' : r ≤ acked + W) (hlate : acked < k + W) :
    acked + d = start := by
  have hcount : ack = k := by
    obtain h | h := Nat.le_total k ack
    · exact eq_of_mod_eq_of_window h (by omega) (Nat.le_refl k) (by omega : k < k + m) hack
    · exact eq_of_mod_eq_of_window (Nat.le_refl ack) (by omega : ack < ack + m) h (by omega) hack
  obtain h | h := Nat.le_total start (acked + d)
  · exact eq_of_mod_eq_of_window h (by omega) (Nat.le_refl start) (by omega : start < start + m)
      hstop.symm
  · exact eq_of_mod_eq_of_window le_rfl (by omega : acked + d < acked + d + m) h (by omega)
      hstop.symm

lemma Linked.deliverStatus (hlinked : Linked link) (hmem : pdu ∈ link.statusPdus)
    (hlate : link.tx.nofAcked < pdu.1 + txCfg.amWindowSize)
    (hstep : link.tx.step (.statusPdu pdu.2) = some tx) : Linked (link.setTx tx) := by
  obtain ⟨start, hstart, hk, hk', status, hunpack, hackSn, hstop⟩ := hlinked.statusPdus pdu hmem
  obtain ⟨after, hafter, rfl⟩ := map_eq_some_iff.mp hstep
  rw [TxEntity.step, hunpack] at hafter
  obtain ⟨hsends, hacked⟩ := handleStatusPdu_sends hlinked.sends (unpack_encodable hunpack) hafter
  have hle := hlinked.acked_le
  obtain hsame | ⟨ack, d, hacc, hstop', hd, hge, hle'⟩ := hacked
  · exact hlinked.setTx hsends (Nat.le_of_eq hsame.symm) (by omega)
  rw [hstop] at hstop'
  have hack : ack ≡ pdu.1 [MOD txCfg.mod] := by
    refine hacc.ackSn.symm.trans ?_
    rw [hackSn]
    exact modEq_mod txCfg pdu.1
  have hcount := reported_count_eq (mod_eq txCfg) hack hacc.acked_lt hacc.le_window
    ((modEq_mod txCfg start).symm.trans hstop') hd hk' hstart hlinked.nofDone_le hlate
  exact hlinked.setTx hsends hge (by omega)

lemma placedInfo_pieces {sdu : Bytes} {so : Nat} {header : PduHeader}
    {payload : Bytes} {old : Option RxSduInfo} (hsdu : sdu.length ≤ 2 ^ 16)
    (hsegm : IsSegment sdu so header payload) (hold : ∀ info ∈ old, Pieces sdu info.segments) :
    ((placedInfo old header payload).fullyReceived →
        reassembleSdu (placedInfo old header payload) = sdu) ∧
      ((placedInfo old header payload).fullyReceived = false →
        Pieces sdu (placedInfo old header payload).segments) := by
  rw [placedInfo]
  split_ifs with hfull
  · exact ⟨fun _ => payload_eq_of_fullSdu hsegm hfull, fun hopen => by cases hopen⟩
  have hsegments : Pieces sdu (old.getD {}).segments := by
    obtain _ | info := old
    · exact ⟨List.Pairwise.nil, by simp [RxSduInfo.segments]⟩
    · exact hold info rfl
  have hstored : Pieces sdu ((storeSegment (old.getD {}).segments
      { si := header.si, so := header.so, payload }).getD (old.getD {}).segments) := by
    rcases hstore : storeSegment (old.getD {}).segments
      { si := header.si, so := header.so, payload } with _ | stored
    · exact hsegments
    · exact storeSegment_pieces hsdu hsegments (isPiece_of_isSegment hsdu hsegm) hstore
  exact ⟨fun hfull => chainSegments_eq hstored hfull, fun _ => hstored⟩

variable {rx : RxHistory rxCfg}

lemma Linked.of_rx (hlinked : Linked link) {event : RxEvent}
    (hstep : link.rx.step event = some rx) (hle : link.rx.nofDone ≤ rx.nofDone)
    (hdeliv : ∀ sdu ∈ rx.delivered, sdu ∈ link.sent ∧ sdu.1 < link.tx.nofAcked + txCfg.amWindowSize)
    (hpieces : ∀ d info, held rx.entity rx.nofDone d = some info → info.fullyReceived = false → ∃
      sdu, (d, sdu) ∈ link.sent ∧ Pieces sdu info.segments)
    : Linked (link.setRx rx) where
  sends := hlinked.sends
  sizes := hlinked.sizes
  recorded := step_recorded hlinked.recorded hstep
  current := step_current hlinked.recorded hlinked.current hstep
  acked_le := hlinked.acked_le.trans hle
  dataPdus := hlinked.dataPdus
  statusPdus := fun pdu hpdu => (hlinked.statusPdus pdu hpdu).mono hle
  delivered := hdeliv
  pieces := hpieces

lemma Linked.of_held_eq (hlinked : Linked link) {after : RxEntity rxCfg} (event : RxEvent)
    (hnext : after.rxNext = link.rx.entity.rxNext)
    (hheld : ∀ d, held after link.rx.nofDone d = held link.rx.entity link.rx.nofDone d)
    (hstep : link.rx.step event = some (link.rx.follow after none)) :
    Linked (link.setRx (link.rx.follow after none)) := by
  obtain ⟨h, n, htracks⟩ := hlinked.recorded.tracks
  have hfollow := follow_none htracks.rxNext_eq hnext
  rw [hfollow] at hstep ⊢
  refine hlinked.of_rx hstep le_rfl hlinked.delivered fun d info hinfo => ?_
  rw [hheld] at hinfo
  exact hlinked.pieces d info hinfo

variable {after : Link txCfg rxCfg}

section

variable (hsn : txCfg.snFieldLength = rxCfg.snFieldLength)

include hsn

lemma mod_eq_mod : txCfg.mod = rxCfg.mod := by rw [TxConfig.mod, RxConfig.mod, hsn]

lemma amWindowSize_eq_amWindowSize : txCfg.amWindowSize = rxCfg.amWindowSize := by
  rw [TxConfig.amWindowSize, RxConfig.amWindowSize, hsn]

lemma Linked.deliverData (hlinked : Linked link) {pdu : Nat × Bytes}
    (hmem : pdu ∈ link.dataPdus) (hlate : link.rx.nofDone ≤ pdu.1 + rxCfg.amWindowSize)
    (hstep : link.rx.step (.handlePdu pdu.2) = some rx) : Linked (link.setRx rx) := by
  obtain ⟨h, n, htracks⟩ := hlinked.recorded.tracks
  obtain ⟨⟨after, delivery⟩, hpdu, rfl⟩ := map_eq_some_iff.mp hstep
  rcases handlePdu_spec htracks hpdu with
    ⟨hsame, rfl⟩ | ⟨header, c, r', h', n', hhdr, -, hcount, hplaced, htracks', rfl⟩
  · exact hlinked.of_held_eq _ hsame.rxNext (hsame.held_eq _) hstep
  have hmod := rxCfg.mod_eq
  have hmods := mod_eq_mod hsn
  have hsizes := amWindowSize_eq_amWindowSize hsn
  have hacked := hlinked.acked_le
  have hdata := hlinked.dataPdus pdu hmem
  have hwindow := hdata.lt_window
  obtain ⟨header', payload, hcarr, hbytes⟩ := hdata.carries
  obtain ⟨sdu, so, hsent, hsegm⟩ := hcarr.segment
  have hsdu : sdu.length ≤ 2 ^ 16 := by
    have := hlinked.sizes sdu (hlinked.sends.ordered.subset
      (mem_append_left _ (mem_map_of_mem hsent)))
    omega
  have hwable : Writable txCfg.snFieldLength header' :=
    ⟨hcarr.sn_eq ▸ Nat.mod_lt _ (mod_pos txCfg), hsegm.so_eq ▸ Nat.mod_lt _ (by decide),
      hasOffset_of_isSegment hsdu hsegm⟩
  have hpay : payload ≠ [] := length_pos_iff.mp hsegm.pos
  -- the receiver reads the header and the payload that have been sent
  obtain rfl : header = header' := by
    have hread := readDataPduHeader_write hwable hpay
    rw [← hbytes, hsn, hhdr] at hread
    exact some.inj hread
  have hdrop : pdu.2.drop (header.packedSize rxCfg.snFieldLength) = payload := by
    rw [hbytes, ← hsn, ← length_writeDataPduHeader hwable, drop_left]
  obtain rfl : c = pdu.1 := by
    have hle := hplaced.le_count
    have hlt := hplaced.count_lt
    have heq : c % rxCfg.mod = pdu.1 % rxCfg.mod := by
      rw [← hcount, hcarr.sn_eq, hmods]
    exact @eq_of_mod_eq_of_window rxCfg.mod (link.rx.nofDone - rxCfg.amWindowSize) _ _
      (by omega) (by omega) (by omega) (by omega) heq
  rw [hdrop] at hplaced hstep ⊢
  have hfollow := follow_placed htracks.rxNext_eq hplaced htracks'.rxNext_eq
  rw [← hcount] at hfollow
  have hpieces := @placedInfo_pieces sdu so header payload
    (held link.rx.entity link.rx.nofDone pdu.1) hsdu hsegm fun info hinfo => by
      have hopen : info.fullyReceived = false := by
        have hincompl := hplaced.incomplete
        rwa [completed, mem_def.mp hinfo, any_some] at hincompl
      obtain ⟨other, hother, hpieces⟩ := hlinked.pieces _ info hinfo hopen
      have hle := hplaced.le_count
      rwa [hlinked.sends.counted.unique pdu.1 sdu other (by omega) hsent hother]
  simp only [hfollow] at hstep ⊢
  refine hlinked.of_rx hstep hplaced.next_le ?_ ?_
  · intro delivered hdeliv
    obtain hold | hnew := mem_append.mp hdeliv
    · exact hlinked.delivered delivered hold
    split_ifs at hnew with hfull
    · obtain rfl := mem_singleton.mp hnew
      rw [hpieces.1 hfull]
      exact ⟨hsent, hwindow⟩
    · cases hnew
  · intro d info hinfo hopen
    rw [hplaced.held_eq] at hinfo
    split at hinfo
    · cases hinfo
    split_ifs at hinfo with heq
    · obtain rfl := some.inj hinfo
      rw [storedInfo_of_incomplete hopen]
      rw [storedInfo_fullyReceived] at hopen
      exact ⟨sdu, heq ▸ hsent, hpieces.2 hopen⟩
    · exact hlinked.pieces d info hinfo hopen

lemma Linked.pullStatusPdu (hlinked : Linked link) {grant : Nat}
    (hpull : link.pullStatusPdu grant = some after) : Linked after := by
  rw [Link.pullStatusPdu] at hpull
  split_ifs at hpull with hrequired
  · have hmods := mod_eq_mod hsn
    have hmod := rxCfg.mod_eq
    obtain ⟨h, n, htracks⟩ := hlinked.recorded.tracks
    obtain ⟨rx, hstep, rfl⟩ := map_eq_some_iff.mp hpull
    have hrx : rx = link.rx.follow link.rx.entity.getStatusPdu.1 none :=
      (some.inj hstep).symm
    have hafter : Linked (link.setRx rx) := by
      rw [hrx] at hstep ⊢
      exact hlinked.of_held_eq _ rfl (fun _ => rfl) hstep
    have hdone : rx.nofDone = link.rx.nofDone := by
      rw [hrx, @follow_none _ _ link.rx.entity.getStatusPdu.1 htracks.rxNext_eq rfl]
    refine { hafter with statusPdus := fun pdu hpdu => ?_ }
    obtain hold | hnew := mem_append.mp hpdu
    · exact hafter.statusPdus pdu hold
    obtain ⟨trimmed, a, status, htrim, ha, hack, hunpack, hack', hstop⟩ :=
      hlinked.current.received hrequired.2
    have hreport : link.rx.entity.getStatusPdu.2 = link.rx.entity.statusReport := rfl
    rw [hreport, htrim] at hnew
    have ha' : a ≤ rxCfg.amWindowSize := ha
    have hsize := rxCfg.amWindowSize_pos
    obtain rfl : pdu = (link.rx.nofDone + a, trimmed.pack rxCfg.snFieldLength) := by
      have hcount := @rxCountOf_mod _ (link.rx.nofDone + a) _ htracks.rxNext_eq
        (Nat.le_add_right _ _) (by omega)
      rw [RxConfig.mod, ← hack] at hcount
      rw [mem_singleton.mp hnew, ← hcount]
    refine ⟨link.rx.nofDone, Nat.le_of_eq hdone.symm, Nat.le_add_right _ _, ?_, status, ?_, ?_, ?_⟩
    · rw [(amWindowSize_eq_amWindowSize hsn)]
      exact Nat.add_le_add_left ha _
    · rwa [hsn]
    · rwa [hmods]
    · rwa [hmods]
  · rwa [← some.inj hpull]

lemma step_linked {event : LinkEvent} (hlinked : Linked link)
    (hsdu : ∀ sdu, event = .handleSdu sdu → 0 < sdu.buf.length ∧ sdu.buf.length ≤ 65535)
    (hstep : link.step event = some after) : Linked after := by
  cases event with
  | handleSdu sdu =>
    rw [← some.inj hstep]
    obtain ⟨hsends, hacked⟩ := handleSdu_sends hlinked.sends sdu
    have hafter := @Linked.of_tx _ _ _ _ hlinked (link.written ++ [sdu.buf]) [] []
      (by simpa using hsends) ?_ hacked.ge (hacked.le.trans hlinked.acked_le) (by simp)
    · simpa using hafter
    exact forall_mem_append.mpr ⟨hlinked.sizes, forall_mem_singleton.mpr (hsdu sdu rfl)⟩
  | discardSdu pdcpSn =>
    rw [← some.inj hstep]
    exact hlinked.setTx_of_eq (discardSdu_sends hlinked.sends pdcpSn)
  | updateMacBufferState =>
    rw [← some.inj hstep]
    exact hlinked.setTx_of_eq (sends_of_sublist hlinked.sends (view_updateMacBufferState _)
      (updateMacBufferState_queued _))
  | pullPdu grant required =>
    rw [← some.inj hstep]
    exact hlinked.pullPdu grant required
  | pollRetransmitTimerExpired =>
    rw [← some.inj hstep]
    exact hlinked.setTx_of_eq (sends_of_sublist hlinked.sends
      (view_onExpiredPollRetransmitTimer _) (onExpiredPollRetransmitTimer_queued _))
  | deliverData i =>
    obtain ⟨pdu, hpdu, h⟩ := bind_eq_some_iff.mp hstep
    obtain ⟨hlate, h⟩ := ite_none_right_eq_some.mp h
    obtain ⟨rx, hrx, rfl⟩ := map_eq_some_iff.mp h
    exact hlinked.deliverData hsn (mem_of_getElem? hpdu) hlate hrx
  | pullStatusPdu grant => exact hlinked.pullStatusPdu hsn hstep
  | deliverStatus i =>
    obtain ⟨pdu, hpdu, h⟩ := bind_eq_some_iff.mp hstep
    obtain ⟨hlate, h⟩ := ite_none_right_eq_some.mp h
    obtain ⟨tx, htx, rfl⟩ := map_eq_some_iff.mp h
    exact hlinked.deliverStatus (mem_of_getElem? hpdu) hlate htx
  | stopReassemblyTimer =>
    rw [← some.inj hstep]
    exact hlinked.of_held_eq .stopReassemblyTimer rfl (fun _ => rfl) rfl
  | expiredReassemblyTimer =>
    obtain ⟨rx, hrx, rfl⟩ := map_eq_some_iff.mp hstep
    obtain ⟨h, n, htracks⟩ := hlinked.recorded.tracks
    obtain ⟨entity, hexpd, rfl⟩ := map_eq_some_iff.mp hrx
    obtain ⟨hnext, -, hheld, -⟩ := onExpiredReassemblyTimer_spec htracks hexpd
    exact hlinked.of_held_eq _ hnext hheld hrx
  | expiredStatusProhibitTimer =>
    rw [← some.inj hstep]
    exact hlinked.of_held_eq .expiredStatusProhibitTimer rfl (fun _ => rfl) rfl

end

/-- The receiver delivers only SDUs that were sent, each at most once, and those sent were written
in that order. -/
theorem delivered_subperm_sent (txCfg : TxConfig) (rxCfg : RxConfig)
    (hsn : txCfg.snFieldLength = rxCfg.snFieldLength) (events : List LinkEvent)
    (hsdus : ∀ sdu, .handleSdu sdu ∈ events → 0 < sdu.buf.length ∧ sdu.buf.length ≤ 65535)
    (link : Link txCfg rxCfg) (hrun : events.foldlM Link.step {} = some link) :
    link.rx.delivered.Subperm link.sent ∧ (link.sent.map Prod.snd).Sublist link.written := by
  have hlinked : Linked link :=
    foldlM_invariant Linked hrun (linked_init txCfg rxCfg) fun _ _ _ hmem hbefore =>
      step_linked hsn hbefore fun sdu heq => hsdus sdu (heq ▸ hmem)
  constructor
  · exact subperm_of_subset hlinked.recorded.nodup.of_map
      fun sdu hsdu => (hlinked.delivered sdu hsdu).1
  · exact (sublist_append_left _ _).trans hlinked.sends.ordered

/-- The two segments of an SDU arrive in the wrong order, one of them twice, and a status PDU
follows. -/
def reorderedSegments : List LinkEvent :=
  [.handleSdu { buf := [1, 2, 3], pdcpSn := none }, .pullPdu 4 none, .pullPdu 10 none,
    .deliverData 1, .deliverData 0, .deliverData 1, .pullStatusPdu 10, .deliverStatus 0]

theorem reorderedSegments_delivered : ∃ link : Link unlimitedConfig shortSnConfig,
    reorderedSegments.foldlM Link.step {} = some link ∧
      link.rx.delivered = [(0, [1, 2, 3])] ∧ link.tx.nofAcked = 1 ∧
      link.rx.delivered.Subperm link.sent ∧
      (link.sent.map Prod.snd).Sublist link.written := by
  have hresult : (reorderedSegments.foldlM Link.step ({} : Link unlimitedConfig shortSnConfig)).map
        (fun link => (link.rx.delivered, link.tx.nofAcked)) = some ([(0, [1, 2, 3])], 1) := by
    decide +kernel
  obtain ⟨link, hrun, hlink⟩ := map_eq_some_iff.mp hresult
  obtain ⟨hdelivered, hacked⟩ := Prod.mk.inj hlink
  refine ⟨link, hrun, hdelivered, hacked, ?_⟩
  refine delivered_subperm_sent unlimitedConfig shortSnConfig rfl reorderedSegments ?_ link hrun
  intro sdu hsdu
  simp only [reorderedSegments, mem_cons, LinkEvent.handleSdu.injEq, reduceCtorEq,
    not_mem_nil, or_false] at hsdu
  rw [hsdu]
  decide

/-- What is taken for acknowledged was delivered as sent, and nothing from beyond the transmit
window is. -/
theorem acknowledged_delivered (hsn : txCfg.snFieldLength = rxCfg.snFieldLength)
    {events : List LinkEvent}
    (hsdus : ∀ sdu, .handleSdu sdu ∈ events → 0 < sdu.buf.length ∧ sdu.buf.length ≤ 65535)
    (hrun : events.foldlM Link.step {} = some link) :
    (∀ d < link.tx.nofAcked, ∃ sdu, (d, sdu) ∈ link.rx.delivered ∧ (d, sdu) ∈ link.sent) ∧
      ∀ sdu ∈ link.rx.delivered, sdu.1 < link.tx.nofAcked + txCfg.amWindowSize := by
  have hlinked : Linked link :=
    foldlM_invariant Linked hrun (linked_init txCfg rxCfg) fun _ _ _ hmem hbefore =>
      step_linked hsn hbefore fun sdu heq => hsdus sdu (heq ▸ hmem)
  refine ⟨fun d hd => ?_, fun sdu hsdu => (hlinked.delivered sdu hsdu).2⟩
  have hdone := (hlinked.recorded.delivered_iff d).mpr (.inl (hd.trans_le hlinked.acked_le))
  obtain ⟨⟨_, sdu⟩, hmem, rfl⟩ := mem_map.mp hdone
  exact ⟨sdu, hmem, (hlinked.delivered _ hmem).1⟩

/-- The first of three SDUs is acknowledged, and the third is delivered before the second. -/
def gapInTheMiddle : List LinkEvent :=
  [.handleSdu { buf := [1], pdcpSn := none }, .handleSdu { buf := [2], pdcpSn := none },
    .handleSdu { buf := [3], pdcpSn := none }, .pullPdu 3 none, .pullPdu 3 none, .pullPdu 3 none,
    .deliverData 0, .deliverData 2, .pullStatusPdu 10, .deliverStatus 0]

theorem gapInTheMiddle_acknowledged : ∃ link : Link unlimitedConfig shortSnConfig,
    gapInTheMiddle.foldlM Link.step {} = some link ∧ link.tx.nofAcked = 1 ∧
      link.rx.delivered = [(0, [1]), (2, [3])] ∧
      (∃ sdu, (0, sdu) ∈ link.rx.delivered ∧ (0, sdu) ∈ link.sent) ∧
      ∀ sdu ∈ link.rx.delivered, sdu.1 < 1 + unlimitedConfig.amWindowSize := by
  have hresult : (gapInTheMiddle.foldlM Link.step ({} : Link unlimitedConfig shortSnConfig)).map
      (fun link => (link.tx.nofAcked, link.rx.delivered)) = some (1, [(0, [1]), (2, [3])]) := by
    decide +kernel
  obtain ⟨link, hrun, hlink⟩ := map_eq_some_iff.mp hresult
  obtain ⟨hacked, hdelivered⟩ := Prod.mk.inj hlink
  obtain ⟨hfirst, hwindow⟩ := acknowledged_delivered rfl (by simp [gapInTheMiddle]) hrun
  exact ⟨link, hrun, hacked, hdelivered, hfirst 0 (by omega), hacked ▸ hwindow⟩

end ProtoRu.Rlc
