import ProtoRu.RlcRxWindow
import ProtoRu.TransitionRuns

namespace ProtoRu.Rlc

open RxEntity Option

variable {cfg : RxConfig} {entity : RxEntity cfg} {r h n c d : Nat}

def storedInfo (info : RxSduInfo) : RxSduInfo :=
  if info.fullyReceived then { info with sduData := .slice [] } else info

def deliveryOf (sn : Nat) (info : RxSduInfo) : Option Delivery :=
  if info.fullyReceived then some { sn, sdu := reassembleSdu info } else none

lemma storedInfo_fullyReceived (info : RxSduInfo) :
    (storedInfo info).fullyReceived = info.fullyReceived := by
  rw [storedInfo]
  split <;> rfl

variable {info : RxSduInfo} {after : RxEntity cfg}

lemma deliverSdu_eq {sn : Nat} (hinfo : entity.rxWindow.get? sn = some info) :
    entity.deliverSdu sn =
      (if info.fullyReceived then ((entity.releaseData sn).updateHighestStatus sn).updateNext sn
        else entity, deliveryOf sn info) := by
  rw [deliverSdu, hinfo, deliveryOf]
  simp only
  split <;> rfl

lemma deliverSdu_spec (hpos : Positions entity r h n) (hc : r ≤ c) (hcn : c < n)
    (hinfo : held entity r c = some info) (hnext : r ≠ c → completed entity r r = false)
    (hstatus : h ≠ c → completed entity r h = false) :
    ∃ r' h', r ≤ r' ∧ r' ≤ n ∧ RxTracks (entity.deliverSdu (c % cfg.mod)).1 r' h' n ∧
      (∀ d, held (entity.deliverSdu (c % cfg.mod)).1 r' d =
        if d < r' then none else if d = c then some (storedInfo info) else held entity r d) ∧
      (∀ d, r ≤ d → d < r' → completed entity r d) ∧
      (entity.deliverSdu (c % cfg.mod)).2 = deliveryOf (c % cfg.mod) info ∧ h' ≤ max h n := by
  have hmod := cfg.mod_eq
  have hn := hpos.nextHighest_le
  have hget := hpos.get?_eq_held hc (by omega)
  rw [hinfo] at hget
  rw [deliverSdu_eq hget, storedInfo]
  split_ifs with hincompl
  · obtain ⟨hpos₁, hheld₁⟩ := releaseData_spec hpos hc (by omega)
    have hcompleted₁ := releaseData_completed hpos hc (by omega : c < r + cfg.amWindowSize)
    obtain ⟨h', hpos₂, hheld₂, hopen, hbound'⟩ :=
      updateHighestStatus_spec hpos₁ hc hcn fun hne => by
        rw [hcompleted₁]
        exact hstatus hne
    have hcompleted₂ (d : Nat) :
        completed ((entity.releaseData (c % cfg.mod)).updateHighestStatus (c % cfg.mod)) r d =
          completed entity r d := by
      rw [completed, hheld₂, ← hcompleted₁ d, completed]
    obtain ⟨r', hle, hbound, htracks, hheld₃, hall⟩ := updateNext_spec hpos₂ hc hcn
      (fun hne => by
        rw [hcompleted₂]
        exact hnext hne)
      (by rwa [completed, hheld₂, ← completed])
    refine ⟨r', h', hle, hbound, htracks, fun d => ?_, fun d hd hd' => ?_, rfl, hbound'⟩
    · rw [hheld₃, hheld₂, hheld₁, hinfo, map_some]
    · rw [← hcompleted₂ d]
      exact hall d hd hd'
  · have hopen (count : Nat) (hother : count ≠ c → completed entity r count = false) :
        completed entity r count = false := by
      obtain rfl | hne := eq_or_ne count c
      · rw [completed, hinfo, any_some]
        simpa using hincompl
      · exact hother hne
    refine ⟨r, h, Nat.le_refl r, hpos.le_nextHighest, ⟨hpos, hopen r hnext, hopen h hstatus⟩,
      fun d => ?_, fun _ _ _ => by omega, rfl, Nat.le_max_left h n⟩
    split
    · rename_i hlt
      exact held_eq_none_of_lt hlt
    split_ifs with heq
    · rw [heq, hinfo]
    · rfl

lemma startReassemblyTimer_sameWindow (entity : RxEntity cfg) (sn : Nat) :
    SameWindow entity (entity.startReassemblyTimer sn) := by
  rw [startReassemblyTimer]
  split
  · exact ⟨rfl, rfl, rfl, .inr rfl, rfl⟩
  · exact ⟨rfl, rfl, rfl, .inl rfl, rfl⟩

lemma startReassemblyTimer_timer (entity : RxEntity cfg) (sn : Nat) :
    (entity.startReassemblyTimer sn).reassemblyTimerRunning → entity.reassemblyTimerRunning ∨
      (entity.startReassemblyTimer sn).rxNextStatusTrigger = entity.rxNextHighest := by
  rw [startReassemblyTimer]
  split
  · exact fun _ => .inr rfl
  · exact .inl

lemma updateReassemblyTimer_sameWindow (htimed : entity.updateReassemblyTimer = some after) :
    SameWindow entity after := by
  rw [updateReassemblyTimer] at htimed
  split at htimed
  · obtain ⟨stops, -, rfl⟩ := map_eq_some_iff.mp htimed
    split
    · have hsame := startReassemblyTimer_sameWindow
        { entity with reassemblyTimerRunning := false } entity.rxNext
      exact { hsame with }
    · exact ⟨rfl, rfl, rfl, .inl rfl, rfl⟩
  · rw [← some.inj htimed]
    exact startReassemblyTimer_sameWindow entity entity.rxNext

lemma refreshStatusReport_sameWindow (hrefr : entity.refreshStatusReport = some after) :
    SameWindow entity after := by
  obtain ⟨statusReport, -, rfl⟩ := map_eq_some_iff.mp hrefr
  exact ⟨rfl, rfl, rfl, .inl rfl, rfl⟩

def SameTimer (before after : RxEntity cfg) : Prop :=
  after.reassemblyTimerRunning = before.reassemblyTimerRunning ∧
    after.rxNextStatusTrigger = before.rxNextStatusTrigger

lemma refreshStatusReport_timer (hrefr : entity.refreshStatusReport = some after) :
    SameTimer entity after := by
  obtain ⟨statusReport, -, rfl⟩ := map_eq_some_iff.mp hrefr
  exact ⟨rfl, rfl⟩

lemma finishDataPdu_sameWindow {changed requested : Bool}
    (hfinished : entity.finishDataPdu changed requested = some after) :
    SameWindow entity after := by
  rw [finishDataPdu] at hfinished
  split at hfinished
  · obtain ⟨refreshed, hrefr, rfl⟩ := map_eq_some_iff.mp hfinished
    have hsame := refreshStatusReport_sameWindow hrefr
    exact { hsame with }
  · rw [← some.inj hfinished]
    exact ⟨rfl, rfl, rfl, .inl rfl, rfl⟩

structure Placed (before after : RxEntity cfg) (r r' c : Nat) (info : RxSduInfo) : Prop where
  le_count : r ≤ c
  count_lt : c < r + cfg.amWindowSize
  incomplete : completed before r c = false
  next_le : r ≤ r'
  next_le_add : r' ≤ r + cfg.amWindowSize
  held_eq : ∀ d, held after r' d =
    if d < r' then none else if d = c then some (storedInfo info) else held before r d
  passed : ∀ d, r ≤ d → d < r' → d = c ∧ info.fullyReceived ∨ completed before r d

lemma Placed.of_sameWindow {before later : RxEntity cfg} {r' : Nat}
    (hplaced : Placed before after r r' c info) (hsame : SameWindow after later) :
    Placed before later r r' c info :=
  { hplaced with held_eq := fun d => (hsame.held_eq r' d).trans (hplaced.held_eq d) }

section

variable {header : PduHeader} {payload : Bytes} (htracks : RxTracks entity r h n)
  (hsn : header.sn < cfg.mod)

include htracks hsn

lemma advance_spec
    (huseful : ¬(!entity.insideRxWindow header.sn || entity.isComplete header.sn) = true) :
    let advanced :=
      ((entity.placePdu header payload).1.updateNextHighest header.sn).deliverSdu header.sn
    ∃ c r' h', header.sn = c % cfg.mod ∧
      Placed entity advanced.1 r r' c (placedInfo (held entity r c) header payload) ∧
      RxTracks advanced.1 r' h' (max n (c + 1)) ∧ h' ≤ max h (max n (c + 1)) ∧
      advanced.2 = deliveryOf header.sn (placedInfo (held entity r c) header payload) := by
  have hmod := cfg.mod_eq
  obtain ⟨hinside, hincompl⟩ : entity.rxModBase header.sn < cfg.amWindowSize ∧
      entity.isComplete header.sn = false := by
    simpa [insideRxWindow] using huseful
  obtain ⟨c, hc, hc', hcount⟩ : ∃ c, r ≤ c ∧ c < r + cfg.amWindowSize ∧
      header.sn = c % cfg.mod :=
    ⟨r + entity.rxModBase header.sn, by omega, by omega,
      exists_count_of_lt htracks.rxNext_eq hsn⟩
  rw [hcount, htracks.isComplete_eq hc (by omega)] at hincompl
  obtain ⟨hpos, hheld⟩ := @place_spec _ _ _ _ _ _ header payload htracks.toPositions hcount hc hc'
  have hother (count : Nat) (hne : count ≠ c) :
      completed ((entity.placePdu header payload).1.updateNextHighest header.sn) r count =
        completed entity r count := by
    rw [completed, hheld, if_neg hne, completed]
  obtain ⟨r', h', hle, hbound, htracks', hheld', hall, hdelivery, hstatus⟩ :=
    deliverSdu_spec hpos hc (by omega) ((hheld c).trans (if_pos rfl))
      (fun hne => (hother r hne).trans htracks.open_next)
      (fun hne => (hother h hne).trans htracks.open_highestStatus)
  have hn := hpos.nextHighest_le
  rw [← hcount] at htracks' hheld' hdelivery
  refine ⟨c, r', h', hcount, ⟨hc, hc', hincompl, hle, by omega, fun d => ?_, fun d hd hd' => ?_⟩,
    htracks', hstatus, hdelivery⟩
  · rw [hheld', hheld]
    split
    · rfl
    · split <;> rfl
  · have hcompl := hall d hd hd'
    obtain rfl | hne := eq_or_ne d c
    · rw [completed, hheld, if_pos rfl] at hcompl
      exact .inl ⟨rfl, hcompl⟩
    · rw [hother d hne] at hcompl
      exact .inr hcompl

lemma receiveData_spec {changed : Bool} {delivery : Option Delivery}
    (hdata : entity.receiveData header payload = some (after, changed, delivery)) :
    after = entity ∧ delivery = none ∨ ∃ c r' h' n', header.sn = c % cfg.mod ∧
        Placed entity after r r' c (placedInfo (held entity r c) header payload) ∧
        RxTracks after r' h' n' ∧
        delivery = deliveryOf header.sn (placedInfo (held entity r c) header payload) := by
  rw [receiveData] at hdata
  split_ifs at hdata with huseful
  · simp only [some.injEq, Prod.mk.injEq] at hdata
    exact .inl ⟨hdata.1.symm, hdata.2.2.symm⟩
  obtain ⟨timed, htimed, hresl⟩ := map_eq_some_iff.mp hdata
  obtain ⟨rfl, -, rfl⟩ := hresl
  obtain ⟨c, r', h', hcount, hplaced, htracks', -, hdelivery⟩ := advance_spec htracks hsn huseful
  have hsame := updateReassemblyTimer_sameWindow htimed
  exact .inr ⟨c, r', h', _, hcount, hplaced.of_sameWindow hsame, hsame.tracks htracks', hdelivery⟩

end

section

variable {pdu : Bytes} {delivery : Option Delivery}

lemma handlePdu_cases (hpdu : entity.handlePdu pdu = some (after, delivery)) :
    after = entity ∧ delivery = none ∨
      ∃ header received changed, readDataPduHeader cfg.snFieldLength pdu = some header ∧
        header.packedSize cfg.snFieldLength < pdu.length ∧
        entity.receiveData header (pdu.drop (header.packedSize cfg.snFieldLength)) =
          some (received, changed, delivery) ∧
        received.finishDataPdu changed header.p = some after := by
  unfold handlePdu at hpdu
  split at hpdu
  · cases hpdu
    exact .inl ⟨rfl, rfl⟩
  split at hpdu
  · cases hpdu
    exact .inl ⟨rfl, rfl⟩
  rw [handleDataPdu] at hpdu
  split at hpdu
  · cases hpdu
    exact .inl ⟨rfl, rfl⟩
  rename_i header hhdr
  simp only at hpdu
  split_ifs at hpdu with hlen
  · cases hpdu
    exact .inl ⟨rfl, rfl⟩
  obtain ⟨⟨received, changed, delivery'⟩, hrecv, hdata⟩ := bind_eq_some_iff.mp hpdu
  obtain ⟨finished, hfinished, hresl⟩ := map_eq_some_iff.mp hdata
  obtain ⟨rfl, rfl⟩ := Prod.mk.inj hresl
  exact .inr ⟨header, received, changed, hhdr, Nat.lt_of_not_le hlen, hrecv, hfinished⟩

lemma handlePdu_spec (htracks : RxTracks entity r h n)
    (hpdu : entity.handlePdu pdu = some (after, delivery)) :
    SameWindow entity after ∧ delivery = none ∨
      ∃ header c r' h' n', readDataPduHeader cfg.snFieldLength pdu = some header ∧
        header.packedSize cfg.snFieldLength < pdu.length ∧ header.sn = c % cfg.mod ∧
        Placed entity after r r' c (placedInfo (held entity r c) header
          (pdu.drop (header.packedSize cfg.snFieldLength))) ∧ RxTracks after r' h' n' ∧
        delivery = deliveryOf header.sn (placedInfo (held entity r c) header
          (pdu.drop (header.packedSize cfg.snFieldLength))) := by
  obtain ⟨rfl, rfl⟩ | ⟨header, received, changed, hhdr, hlen, hrecv, hfinished⟩ :=
    handlePdu_cases hpdu
  · exact .inl ⟨⟨rfl, rfl, rfl, .inl rfl, rfl⟩, rfl⟩
  have hsame := finishDataPdu_sameWindow hfinished
  rcases receiveData_spec htracks (readDataPduHeader_sn_lt hhdr) hrecv with
    ⟨rfl, hnone⟩ | ⟨c, r', h', n', hcount, hplaced, htracks', hdelivery⟩
  · exact .inl ⟨hsame, hnone⟩
  · exact .inr ⟨header, c, r', h', n', hhdr, hlen, hcount, hplaced.of_sameWindow hsame,
      hsame.tracks htracks', hdelivery⟩

end

lemma onExpiredReassemblyTimer_spec (htracks : RxTracks entity r h n)
    (hexpd : entity.onExpiredReassemblyTimer = some after) :
    after.rxNext = entity.rxNext ∧ (∃ h', RxTracks after r h' n ∧
      h' ≤ max (max h n) (r + entity.rxModBase entity.rxNextStatusTrigger)) ∧
      (∀ d, held after r d = held entity r d) ∧ (after.reassemblyTimerRunning →
        entity.reassemblyTimerRunning ∨ after.rxNextStatusTrigger = n % cfg.mod) := by
  rw [onExpiredReassemblyTimer] at hexpd
  split_ifs at hexpd with hvalid
  · obtain rfl := some.inj hexpd
    exact ⟨rfl, ⟨h, htracks, by omega⟩, fun _ => rfl, .inl⟩
  generalize hupd : entity.firstIncomplete cfg.mod entity.rxNextStatusTrigger = snUpd at hexpd
  simp only at hexpd
  split at hexpd
  · obtain ⟨refreshed, hrefr, rfl⟩ := map_eq_some_iff.mp hexpd
    have hsame := refreshStatusReport_sameWindow hrefr
    have hstart := startReassemblyTimer_sameWindow { entity with rxHighestStatus := snUpd } snUpd
    have hmod := cfg.mod_eq
    have hn := htracks.nextHighest_le
    have hbase : entity.rxModBase entity.rxNextStatusTrigger ≤ cfg.amWindowSize := by
      simp only [validAckSn, Bool.or_eq_true, Bool.not_eq_true', not_or, Bool.not_eq_false,
        Bool.and_eq_true, decide_eq_true_eq] at hvalid
      exact hvalid.2.2
    obtain ⟨h', hle, hbound, heq, hopen⟩ := @firstIncomplete_spec _ _ _ _ _ cfg.mod
      (r + entity.rxModBase entity.rxNextStatusTrigger) htracks.toPositions
      (Nat.le_add_right _ _) (by omega) (by omega)
    rw [← exists_count_of_lt htracks.rxNext_eq htracks.trigger_lt, hupd] at heq
    have hupdated : RxTracks { entity with rxHighestStatus := snUpd } r h' n :=
      { htracks with
        rxHighestStatus_eq := heq
        le_highestStatus := by omega
        highestStatus_le := by omega
        open_highestStatus := hopen }
    have hfinal : SameWindow refreshed { refreshed with doStatus := true } :=
      ⟨rfl, rfl, rfl, .inl rfl, rfl⟩
    refine ⟨?_, ⟨h', hfinal.tracks (hsame.tracks (hstart.tracks hupdated)), by omega⟩,
      fun d => ?_, fun hrunning => ?_⟩
    · rw [hfinal.rxNext, hsame.rxNext, hstart.rxNext]
    · rw [hfinal.held_eq, hsame.held_eq, hstart.held_eq]
      rfl
    · obtain ⟨hrun, htrigger⟩ := refreshStatusReport_timer hrefr
      rw [← htracks.rxNextHighest_eq, htrigger]
      exact startReassemblyTimer_timer { entity with rxHighestStatus := snUpd } snUpd
        (hrun ▸ hrunning)
  · cases hexpd

/-- An incomplete SDU has its segments and the flags of their inventory. -/
structure Recorded (history : RxHistory cfg) : Prop where
  tracks : ∃ h n, RxTracks history.entity history.nofDone h n
  delivered_iff : ∀ d, d ∈ history.delivered.map Prod.fst ↔
    d < history.nofDone ∨ completed history.entity history.nofDone d
  nodup : (history.delivered.map Prod.fst).Nodup
  incomplete : ∀ d info, held history.entity history.nofDone d = some info →
    info.fullyReceived = false → ∃ segments, info = updateSegmentInventory segments

lemma recorded_init (cfg : RxConfig) : Recorded ({} : RxHistory cfg) := by
  have hheld (d : Nat) : held ({} : RxEntity cfg) 0 d = none := by
    rw [held]
    split <;> rfl
  have hcompd (d : Nat) : completed ({} : RxEntity cfg) 0 d = false := by
    rw [completed, hheld]
    rfl
  have hzero : 0 = 0 % cfg.mod := (Nat.zero_mod _).symm
  refine ⟨⟨0, 0, ⟨hzero, hzero, hzero, Nat.le_refl 0, Nat.zero_le _, Nat.le_refl 0,
    Nat.zero_le _, cfg.mod_pos, fun sn hsn => ?_⟩, hcompd 0, hcompd 0⟩, ?_, ?_, ?_⟩
  · cases hsn
  · intro d
    simp [hcompd]
  · exact List.nodup_nil
  · intro d info hinfo
    rw [hheld] at hinfo
    cases hinfo

variable {history : RxHistory cfg} {after : RxEntity cfg}

section

variable (hnext : history.entity.rxNext = history.nofDone % cfg.mod)

include hnext

lemma rxCountOf_mod (hle : history.nofDone ≤ d) (hlt : d < history.nofDone + cfg.mod) :
    history.countOf (d % cfg.mod) = d := by
  rw [RxHistory.countOf, rxModBase_eq hnext hle hlt]
  omega

lemma follow_none (hsame : after.rxNext = history.entity.rxNext) :
    history.follow after none = { history with entity := after } := by
  have hcount := @rxCountOf_mod _ history.nofDone history hnext le_rfl
    (Nat.lt_add_of_pos_right cfg.mod_pos)
  rw [RxHistory.follow, hsame, hnext, hcount]
  simp

end

lemma Recorded.of_held_eq (hrec : Recorded history)
    (htracks : ∃ h n, RxTracks after history.nofDone h n)
    (hheld : ∀ d, held after history.nofDone d = held history.entity history.nofDone d) :
    Recorded { history with entity := after } where
  tracks := htracks
  delivered_iff := by
    intro d
    rw [hrec.delivered_iff, completed, completed, hheld]
  nodup := hrec.nodup
  incomplete := by
    intro d info hinfo
    rw [hheld] at hinfo
    exact hrec.incomplete d info hinfo

lemma Recorded.of_sameWindow (hrec : Recorded history)
    (hsame : SameWindow history.entity after) : Recorded (history.follow after none) := by
  obtain ⟨h, n, htracks⟩ := hrec.tracks
  rw [follow_none htracks.rxNext_eq hsame.rxNext]
  exact hrec.of_held_eq ⟨h, n, hsame.tracks htracks⟩ (hsame.held_eq _)

lemma placedInfo_incomplete {old : Option RxSduInfo} {header : PduHeader}
    {payload : Bytes} (hincompl : (placedInfo old header payload).fullyReceived = false) :
    ∃ segments, placedInfo old header payload = updateSegmentInventory segments := by
  rw [placedInfo] at hincompl ⊢
  split_ifs with hfull
  · rw [if_pos hfull] at hincompl
    cases hincompl
  · exact ⟨_, rfl⟩

lemma storedInfo_of_incomplete (hincompl : (storedInfo info).fullyReceived = false) :
    storedInfo info = info := by
  rw [storedInfo_fullyReceived] at hincompl
  rw [storedInfo, if_neg (by simp [hincompl])]

lemma follow_placed {r' : Nat} (hnext : history.entity.rxNext = history.nofDone % cfg.mod)
    (hplaced : Placed history.entity after history.nofDone r' c info)
    (hafter : after.rxNext = r' % cfg.mod) :
    history.follow after (deliveryOf (c % cfg.mod) info) =
      { entity := after
        nofDone := r'
        delivered := history.delivered ++
          if info.fullyReceived then [(c, reassembleSdu info)] else [] } := by
  have hmod := cfg.mod_eq
  have hsize := cfg.amWindowSize_pos
  have hle := hplaced.next_le_add
  have hlt := hplaced.count_lt
  rw [RxHistory.follow, hafter, rxCountOf_mod hnext hplaced.next_le (by omega), deliveryOf]
  split
  · simp [rxCountOf_mod hnext hplaced.le_count (by omega)]
  · simp

/-- A placed PDU adds its count to those delivered if it completes its SDU. -/
lemma Recorded.of_placed {r' h' n' : Nat} (hrec : Recorded history)
    (hplaced : Placed history.entity after history.nofDone r' c info)
    (htracks : RxTracks after r' h' n')
    (hinfo : info.fullyReceived = false → ∃ segments, info = updateSegmentInventory segments) :
    Recorded (history.follow after (deliveryOf (c % cfg.mod) info)) := by
  obtain ⟨h, n, htracks₀⟩ := hrec.tracks
  have hnotMem : c ∉ history.delivered.map Prod.fst := by
    rw [hrec.delivered_iff, hplaced.incomplete]
    have := hplaced.le_count
    simp only [Bool.false_eq_true, or_false]
    omega
  have hcompd (d : Nat) (hd : r' ≤ d) : completed after r' d =
      if d = c then info.fullyReceived else completed history.entity history.nofDone d := by
    rw [completed, hplaced.held_eq, if_neg (by omega)]
    split
    · exact storedInfo_fullyReceived info
    · rfl
  rw [follow_placed htracks₀.rxNext_eq hplaced htracks.rxNext_eq]
  refine ⟨⟨h', n', htracks⟩, ?_, ?_, ?_⟩
  · intro d
    have hmem : d ∈ (history.delivered ++
        if info.fullyReceived then [(c, reassembleSdu info)] else []).map Prod.fst ↔
        (d < history.nofDone ∨ completed history.entity history.nofDone d) ∨
          d = c ∧ info.fullyReceived := by
      rw [List.map_append, List.mem_append, hrec.delivered_iff]
      split <;> simp_all
    rw [hmem]
    obtain hlt | hge := Nat.lt_or_ge d r'
    · have hpassed := hplaced.passed d
      simp only [hlt, true_or, iff_true]
      obtain hbelow | habove := Nat.lt_or_ge d history.nofDone
      · exact .inl (.inl hbelow)
      · obtain hnew | hold := hpassed habove hlt
        · exact .inr hnew
        · exact .inl (.inr hold)
    · have hnext := hplaced.next_le
      have hbelow : ¬d < r' ∧ ¬d < history.nofDone := by omega
      rw [hcompd d hge]
      obtain rfl | hne := eq_or_ne d c
      · simp [hbelow, hplaced.incomplete]
      · simp [hbelow, hne]
  · rw [List.map_append]
    split
    · exact List.Nodup.append hrec.nodup (List.nodup_singleton c) (by simpa using hnotMem)
    · simpa using hrec.nodup
  · intro d other hother hfull
    rw [hplaced.held_eq] at hother
    split at hother
    · cases hother
    split at hother
    · obtain rfl := some.inj hother
      rw [storedInfo_of_incomplete hfull]
      exact hinfo (by rwa [storedInfo_fullyReceived] at hfull)
    · exact hrec.incomplete d other hother hfull

lemma step_recorded {event : RxEvent} {later : RxHistory cfg} (hrec : Recorded history)
    (hstep : history.step event = some later) : Recorded later := by
  obtain ⟨h, n, htracks⟩ := hrec.tracks
  cases event with
  | handlePdu pdu =>
    obtain ⟨⟨entity, delivery⟩, hpdu, rfl⟩ := map_eq_some_iff.mp hstep
    rcases handlePdu_spec htracks hpdu with
      ⟨hsame, rfl⟩ | ⟨header, c, r', h', n', -, -, hcount, hplaced, htracks', rfl⟩
    · exact hrec.of_sameWindow hsame
    · rw [hcount]
      exact hrec.of_placed hplaced htracks' placedInfo_incomplete
  | stopReassemblyTimer | expiredStatusProhibitTimer | getStatusPdu =>
    rw [← some.inj hstep]
    exact hrec.of_sameWindow ⟨rfl, rfl, rfl, .inl rfl, rfl⟩
  | expiredReassemblyTimer =>
    obtain ⟨entity, hexpd, rfl⟩ := map_eq_some_iff.mp hstep
    obtain ⟨hnext, ⟨h', htracks', -⟩, hheld, -⟩ := onExpiredReassemblyTimer_spec htracks hexpd
    rw [follow_none htracks.rxNext_eq hnext]
    exact hrec.of_held_eq ⟨h', n, htracks'⟩ hheld

end ProtoRu.Rlc
