import ProtoRu.RlcTxHistory

namespace ProtoRu.Rlc

open SduQueue TxEntity List.Sublist Option List

section

variable (capacity : Nat) (queue : List RlcSdu) (q : SduQueue)

lemma readLoop_sublist :
    ((readLoop capacity queue q).1.toList ++ (readLoop capacity queue q).2.queue).Sublist
      queue := by
  induction queue generalizing q with
  | nil => exact refl _
  | cons sdu rest ih =>
    rw [readLoop]
    split
    · exact refl _
    · exact (ih _).cons sdu

lemma frontLoop_sublist : (frontLoop capacity queue q).queue.Sublist queue := by
  induction queue generalizing q with
  | nil => exact refl _
  | cons sdu rest ih =>
    rw [frontLoop]
    split
    · exact refl _
    · exact (ih _).cons sdu

end

lemma write_queue {capacity byteLimit : Nat} {q written : SduQueue} {sdu : RlcSdu}
    (h : q.write capacity byteLimit sdu = some written) : written.queue = q.queue ++ [sdu] := by
  rw [write, ite_none_left_eq_some] at h
  rw [← some.inj h.2]
  cases sdu.pdcpSn <;> rfl

lemma tryDiscard_queue {capacity pdcpSn : Nat} {q discarded : SduQueue}
    (h : q.tryDiscard capacity pdcpSn = some discarded) : discarded.queue = q.queue := by
  rw [tryDiscard, ite_none_right_eq_some] at h
  rw [← some.inj h.2]
  rfl

variable {cfg : TxConfig}

def queued (entity : TxEntity cfg) : List Bytes := entity.sduQueue.queue.map RlcSdu.buf

section

variable (entity : TxEntity cfg)

@[simp]
lemma sduQueue_getPollingBit (sn : Nat) (isRetx : Bool) (size : Nat) :
    (entity.getPollingBit sn isRetx size).1.sduQueue = entity.sduQueue := by
  have hcount : (entity.countPdu isRetx size).sduQueue = entity.sduQueue := by
    cases isRetx <;> rfl
  rw [getPollingBit]
  split <;> exact hcount

lemma sduQueue_buildRetxPdu (grant : Nat) :
    (entity.buildRetxPdu grant).1.sduQueue = entity.sduQueue := by
  have hconsume (selected : TxEntity cfg) (retx : Retx) (info : SduInfo) (rest : List Retx)
      (length : Nat) : (selected.consumeRetx retx info rest length).sduQueue =
        selected.sduQueue := by
    rw [consumeRetx]
    split <;> rfl
  rw [buildRetxPdu]
  split
  · rfl
  split
  · rfl
  split
  · rfl
  · rw [sendRetx]
    simp only [sduQueue_getPollingBit, hconsume]
    rfl

lemma sduQueue_buildContinuedSduSegment (grant sn : Nat) (info : SduInfo) :
    (entity.buildContinuedSduSegment grant sn info).1.sduQueue = entity.sduQueue := by
  rw [buildContinuedSduSegment]
  split
  · rfl
  split
  · rfl
  · split
    · exact sduQueue_getPollingBit entity _ _ _
    · exact sduQueue_getPollingBit (entity.segment none) _ _ _

lemma pullNewPdu_queued (grant : Nat) :
    ((newSdu entity grant).toList ++ queued (entity.pullNewPdu grant).1).Sublist
      (queued entity) := by
  rw [pullNewPdu]
  split_ifs with hempty
  · rw [newSdu, if_pos (.inl hempty)]
    exact refl _
  rw [buildNewPdu]
  split_ifs with hstop
  · rw [newSdu, if_pos (.inr hstop)]
    exact refl _
  have hread := (readLoop_sublist cfg.queueSize entity.sduQueue.queue entity.sduQueue).map
    RlcSdu.buf
  rw [newSdu, if_neg (by simp [hempty, hstop]), SduQueue.read]
  rcases hresl : readLoop cfg.queueSize entity.sduQueue.queue entity.sduQueue with
    ⟨_ | sdu, sduQueue⟩
  · simpa [hresl, queued, setSduQueue] using hread
  rw [hresl] at hread
  simp only
  split
  · simpa [buildFirstSduSegment, updateNextSo]
  rw [buildFullSdu]
  split
  · simpa [queued, addSn, setSduQueue] using hread
  · simpa [queued, advanceTxNext, addSn, setSduQueue] using hread

lemma pullPdu_queued (grant : Nat) (required : Option StatusPdu) :
    ((takenSdu entity grant required).toList ++ queued (entity.pullPdu grant required).1).Sublist
      (queued entity) := by
  unfold pullPdu
  split_ifs with hretx
  · rw [takenSdu, if_pos (.inl hretx)]
    exact refl _
  split
  · rw [takenSdu, if_pos (.inr (.inl rfl))]
    exact refl _
  rw [pullDataPdu]
  split
  · rename_i hqueue
    rw [takenSdu, if_pos (.inr (.inr (.inl hqueue))), queued, sduQueue_buildRetxPdu]
    exact refl _
  split
  · rw [takenSdu, if_neg (by simp_all)]
    exact pullNewPdu_queued entity grant
  rename_i sn hsn
  split
  · rename_i info hinfo
    rw [takenSdu, if_pos (by simp [hsn, CircularMap.contains, hinfo]), queued,
      sduQueue_buildContinuedSduSegment]
    exact refl _
  · rw [takenSdu, if_neg (by simp_all [CircularMap.contains])]
    exact pullNewPdu_queued (entity.segment none) grant

lemma updateMacBufferState_queued :
    (queued entity.updateMacBufferState).Sublist (queued entity) := by
  have hfront : (entity.sduQueue.front cfg.queueSize).queue.Sublist entity.sduQueue.queue :=
    frontLoop_sublist cfg.queueSize entity.sduQueue.queue entity.sduQueue
  rw [updateMacBufferState]
  split
  · exact hfront.map _
  · exact refl _

lemma queued_ignoresRetx : IgnoresRetx (@queued cfg) := ⟨fun _ _ _ _ => rfl, fun _ _ _ _ => rfl⟩

lemma onExpiredPollRetransmitTimer_queued :
    (queued entity.onExpiredPollRetransmitTimer).Sublist (queued entity) := by
  obtain ⟨expired, hqueued, heq | heq⟩ := queued_ignoresRetx.onExpiredPollRetransmitTimer entity
  · rw [heq, hqueued]
  · rw [heq, ← hqueued]
    exact updateMacBufferState_queued expired

end

variable {entity after : TxEntity cfg} {status : StatusPdu}

lemma handleStatusPdu_queued (h : entity.handleStatusPdu status = some after) :
    (queued after).Sublist (queued entity) := by
  cases haccs : entity.accepts status with
  | false =>
    rw [handleStatusPdu_of_rejected haccs] at h
    rw [← some.inj h]
  | true =>
    rw [handleStatusPdu_of_accepts haccs] at h
    obtain ⟨handled, hnacks, rfl⟩ := map_eq_some_iff.mp h
    refine (updateMacBufferState_queued handled).trans ?_
    rw [queued_ignoresRetx.processNacks hnacks, afterAcks, queued_ignoresRetx.clearRetx,
      processAcks, @IgnoresRetx.ackLoop cfg _ queued (fun _ _ => rfl),
      queued_ignoresRetx.stopPollRetransmitTimer]

structure Sends (history : TxHistory cfg) (written : List Bytes)
    (taken : List (Nat × Bytes)) : Prop where
  counted : Taken cfg (view history.entity) history.nofAcked history.nofSent taken
  ordered : (taken.map Prod.snd ++ queued history.entity).Sublist written

section

variable {history : TxHistory cfg} {written : List Bytes} {taken : List (Nat × Bytes)}

variable {entity : TxEntity cfg}

lemma follow_eq {acked next : Nat} (hsends : Sends history written taken)
    (hacked : entity.txNextAck = acked % cfg.mod) (hnext : entity.txNext = next % cfg.mod)
    (hackedLe : history.nofAcked ≤ acked) (hackedLt : acked < history.nofAcked + cfg.mod)
    (hnextLe : history.nofSent ≤ next) (hnextLt : next < history.nofSent + cfg.mod) :
    history.follow entity = { entity, nofAcked := acked, nofSent := next } := by
  have hacked₀ : history.entity.txNextAck = history.nofAcked % cfg.mod :=
    hsends.counted.tracks.txNextAck_eq
  have hnext₀ : history.entity.txNext = history.nofSent % cfg.mod :=
    hsends.counted.tracks.txNext_eq
  rw [TxHistory.follow, hacked, hnext, hacked₀, hnext₀,
    unsignedOffset_mod_eq (mod_dvd cfg) (modEq_mod cfg acked) hackedLe hackedLt,
    unsignedOffset_mod_eq (mod_dvd cfg) (modEq_mod cfg next) hnextLe hnextLt,
    Nat.add_sub_cancel' hackedLe, Nat.add_sub_cancel' hnextLe]

lemma sends_of_view_eq {written' : List Bytes} (hsends : Sends history written taken)
    (hview : view entity = view history.entity)
    (hqueued : (taken.map Prod.snd ++ queued entity).Sublist written') :
    Sends (history.follow entity) written' taken ∧
      (history.follow entity).nofAcked = history.nofAcked := by
  have hmod := mod_pos cfg
  have hacked : entity.txNextAck = history.nofAcked % cfg.mod :=
    (congrArg WindowView.txNextAck hview).trans hsends.counted.tracks.txNextAck_eq
  have hnext : entity.txNext = history.nofSent % cfg.mod :=
    (congrArg WindowView.txNext hview).trans hsends.counted.tracks.txNext_eq
  rw [follow_eq hsends hacked hnext le_rfl (by omega) le_rfl (by omega)]
  exact ⟨⟨by simpa [hview] using hsends.counted, hqueued⟩, rfl⟩

section

variable (hsends : Sends history written taken)

include hsends

lemma sends_of_sublist (hview : view entity = view history.entity)
    (hqueued : (queued entity).Sublist (queued history.entity)) :
    Sends (history.follow entity) written taken ∧
      (history.follow entity).nofAcked = history.nofAcked :=
  sends_of_view_eq hsends hview (((refl _).append hqueued).trans hsends.ordered)

lemma handleSdu_sends (sdu : RlcSdu) :
    Sends (history.follow (history.entity.handleSdu sdu)) (written ++ [sdu.buf]) taken ∧
      (history.follow (history.entity.handleSdu sdu)).nofAcked = history.nofAcked := by
  apply sends_of_view_eq hsends (view_handleSdu _ _)
  rw [handleSdu]
  split
  · rename_i queue hwrite
    have hqueue : queued (history.entity.setSduQueue queue) =
        queued history.entity ++ [sdu.buf] := by
      simp [queued, setSduQueue, write_queue hwrite]
    rw [hqueue, ← append_assoc]
    exact hsends.ordered.append (refl _)
  · exact hsends.ordered.trans (sublist_append_left _ _)

lemma discardSdu_sends (pdcpSn : Nat) :
    Sends (history.follow (history.entity.discardSdu pdcpSn)) written taken ∧
      (history.follow (history.entity.discardSdu pdcpSn)).nofAcked = history.nofAcked := by
  apply sends_of_sublist hsends (view_discardSdu _ _)
  rw [discardSdu]
  split
  · rename_i queue hdiscard
    rw [queued, setSduQueue, tryDiscard_queue hdiscard]
    exact refl _
  · exact refl _

end

lemma nextSdu_mem (entity : TxEntity cfg) (grant : Nat) (required : Option StatusPdu) :
    ∀ sdu ∈ takenSdu entity grant required, sdu ∈ queued entity := by
  intro sdu hsdu
  apply (pullPdu_queued entity grant required).subset
  rw [mem_def.mp hsdu]
  exact mem_append_left _ mem_cons_self

section

variable (hsends : Sends history written taken)

include hsends

lemma countOf_mod {x : Nat} (hle : x ≤ history.nofSent)
    (hge : history.nofSent ≤ x + cfg.amWindowSize) : history.countOf (x % cfg.mod) = x := by
  have hmod := mod_eq cfg
  have hsize := amWindowSize_gt cfg
  have hnext : history.entity.txNext = history.nofSent % cfg.mod :=
    hsends.counted.tracks.txNext_eq
  rw [TxHistory.countOf, hnext,
    unsignedOffset_mod_eq (mod_dvd cfg) (modEq_mod cfg history.nofSent) hle (by omega)]
  omega

lemma pullPdu_sends (hpos : ∀ sdu ∈ written, sdu ≠ []) (grant : Nat)
    (required : Option StatusPdu) :
    Sends (history.follow (history.entity.pullPdu grant required).1) written
        (taken ++ history.taken grant required) ∧
      (history.follow (history.entity.pullPdu grant required).1).nofAcked = history.nofAcked ∧
      ∀ pdu ∈ history.dataPdu grant required, pdu.1 < history.nofAcked + cfg.amWindowSize ∧
        ∃ header payload, Carries cfg (taken ++ history.taken grant required) pdu.1 header payload ∧
          pdu.2 = writeDataPduHeader cfg.snFieldLength header ++ payload := by
  have hmod := mod_eq cfg
  have hsize := amWindowSize_gt cfg
  obtain ⟨next', hle, hle', htaken', hpdu⟩ :=
    taken_of_move hsends.counted (pullPdu_move history.entity grant required) fun sdu hsdu =>
      hpos sdu (hsends.ordered.subset
        (mem_append_right _ (nextSdu_mem history.entity grant required sdu hsdu)))
  have hfollow := follow_eq hsends htaken'.tracks.txNextAck_eq htaken'.tracks.txNext_eq
    le_rfl (by omega) hle (by omega)
  rw [hfollow, TxHistory.taken]
  refine ⟨⟨htaken', ?_⟩, rfl, ?_⟩
  · rw [List.map_append, List.map_map, List.append_assoc]
    refine ((refl _).append ?_).trans hsends.ordered
    have hid : ((takenSdu history.entity grant required).toList.map
        (Prod.snd ∘ fun sdu => (history.nofSent, sdu))) =
        (takenSdu history.entity grant required).toList := map_id _
    rw [hid]
    exact pullPdu_queued history.entity grant required
  · intro pdu hmem
    rw [TxHistory.dataPdu] at hmem
    split at hmem
    · rename_i isRetx header payload hpulled
      cases hmem
      obtain ⟨x, hx, hx', hwindow, hcarr⟩ := hpdu isRetx header payload hpulled
      have hcount : history.countOf header.sn = x := by
        rw [hcarr.sn_eq]
        exact countOf_mod hsends hx hx'
      simp only [hcount]
      exact ⟨hwindow, header, payload, hcarr, rfl⟩
    · cases hmem

lemma handleStatusPdu_sends {after : TxEntity cfg} (hstatus : status.Encodable cfg.snFieldLength)
    (h : history.entity.handleStatusPdu status = some after) :
    Sends (history.follow after) written taken ∧
      ((history.follow after).nofAcked = history.nofAcked ∨
        ∃ ack d, Accepted cfg status history.nofAcked history.nofSent ack ∧
          stopSn status ≡ history.nofAcked + d [MOD cfg.mod] ∧ history.nofAcked + d ≤ ack ∧
          history.nofAcked ≤ (history.follow after).nofAcked ∧
          (history.follow after).nofAcked ≤ history.nofAcked + d) := by
  have hmod := mod_eq cfg
  have hsize := amWindowSize_gt cfg
  have hqueued := ((refl (taken.map Prod.snd)).append
    (handleStatusPdu_queued h)).trans hsends.ordered
  cases haccs : history.entity.accepts status with
  | false =>
    rw [handleStatusPdu_of_rejected haccs] at h
    obtain rfl := some.inj h
    obtain ⟨hafter, hacked⟩ := sends_of_view_eq hsends rfl hqueued
    exact ⟨hafter, .inl hacked⟩
  | true =>
    obtain ⟨ack, hacc⟩ := accepted_of_accepts hsends.counted.tracks hstatus haccs
    obtain ⟨k, d, hk, hstop, hd, -, hview, -, -⟩ := afterAcks_view hsends.counted.tracks hacc
    have hnext := hacc.le_next
    have hwindow := hacc.le_window
    have htaken : Taken cfg (view after) (history.nofAcked + k) history.nofSent taken := by
      rw [handleStatusPdu_view haccs h, hview]
      exact hsends.counted.acknowledge (by omega)
    rw [follow_eq hsends htaken.tracks.txNextAck_eq htaken.tracks.txNext_eq (by omega) (by omega)
      le_rfl (by omega)]
    exact ⟨⟨htaken, hqueued⟩, .inr ⟨ack, d, hacc, hstop, hd, by simp, by simpa using hk⟩⟩

end

lemma sends_init (cfg : TxConfig) : Sends ({} : TxHistory cfg) [] [] :=
  ⟨taken_init cfg, refl _⟩

end

end ProtoRu.Rlc
