import ProtoRu.RlcStatusRobustness

namespace ProtoRu.Rlc

open TxEntity
open WindowView (add advance setSent)
open Option

variable {cfg : TxConfig}

/-- The window holds the SNs from TX_Next_Ack to TX_Next, and TX_Next while it is under
segmentation. -/
structure WindowInvariant (entity : TxEntity cfg) : Prop where
  edges : entity.txModBase entity.txNext ≤ cfg.amWindowSize
  holds : ∀ sn, entity.txWindow.contains sn ↔ sn < cfg.mod ∧
    (entity.txModBase sn < entity.txModBase entity.txNext ∨
      sn = entity.txNext ∧ entity.snUnderSegmentation = some entity.txNext)
  segmented : entity.snUnderSegmentation = none ∨ entity.snUnderSegmentation = some entity.txNext
  size_le : entity.txWindow.size ≤ cfg.amWindowSize
  size_le_maxWindow : cfg.maxWindow ≠ 0 → entity.txWindow.size ≤ cfg.maxWindow

def endCount (window : WindowView) (next : Nat) : Nat :=
  if window.segmented.isSome then next + 1 else next

def Spans (cfg : TxConfig) (window : WindowView) (acked next : Nat) : Prop :=
  ∀ sn, (window.held sn).isSome ↔
    ∃ count, acked ≤ count ∧ count < endCount window next ∧ sn = count % cfg.mod

structure Exact (cfg : TxConfig) (window : WindowView) (acked next : Nat) : Prop where
  acked_le : acked ≤ next
  holds : Spans cfg window acked next
  bounded : cfg.maxWindow ≠ 0 → endCount window next ≤ acked + cfg.maxWindow

variable {event : Event} {status : StatusPdu}

section

variable {entity after : TxEntity cfg} {acked next : Nat} {window : WindowView}

section

variable (htracks : Tracks cfg (view entity) acked next)

include htracks

lemma endCount_le (hholds : Spans cfg (view entity) acked next) (hacked : acked ≤ next) :
    endCount (view entity) next ≤ acked + cfg.amWindowSize := by
  rw [Spans, endCount] at hholds
  rw [endCount]
  split_ifs with hseg
  · rw [if_pos hseg] at hholds
    apply next_lt_of_contains htracks
    rw [← isSome_held]
    exact (hholds _).mpr ⟨next, hacked, by omega, htracks.txNext_eq⟩
  · exact htracks.next_le

lemma size_eq (hacked : acked ≤ next) (hholds : Spans cfg (view entity) acked next) :
    entity.txWindow.size = endCount (view entity) next - acked := by
  have hmod := mod_eq cfg
  have hle := endCount_le htracks hholds hacked
  have hkeys (sn : Nat) : entity.txWindow.contains sn ↔
      sn ∈ (Finset.Ico acked (endCount (view entity) next)).image (· % cfg.mod) := by
    rw [← isSome_held, hholds]
    simp [and_assoc, @eq_comm _ sn]
  rw [CircularMap.size_eq_card _ hkeys, Finset.card_image_of_injOn, Nat.card_Ico]
  intro a ha b hb heq
  simp only [Finset.coe_Ico, Set.mem_Ico] at ha hb
  exact (@mod_eq_mod_iff cfg acked _ _ ha.1 (by omega) hb.1 (by omega)).mp heq

lemma txModBase_txNext (hacked : acked ≤ next) :
    entity.txModBase entity.txNext = next - acked := by
  have hmod := mod_eq cfg
  have hwindow := amWindowSize_gt cfg
  have hnext := htracks.next_le
  apply txModBase_eq htracks.txNextAck_eq _ hacked (by omega)
  exact (congrArg (· % cfg.mod) htracks.txNext_eq).trans (modEq_mod cfg next)

lemma holds_iff (hacked : acked ≤ next) (sn : Nat) :
    (sn < cfg.mod ∧ (entity.txModBase sn < entity.txModBase entity.txNext ∨
      sn = entity.txNext ∧ entity.snUnderSegmentation = some entity.txNext)) ↔
      ∃ count, acked ≤ count ∧ count < endCount (view entity) next ∧ sn = count % cfg.mod := by
  have hmod := mod_eq cfg
  have hnext := htracks.next_le
  have htxNext : entity.txNext = next % cfg.mod := htracks.txNext_eq
  have hend : next ≤ endCount (view entity) next := by
    rw [endCount]
    split <;> omega
  rw [txModBase_txNext htracks hacked]
  constructor
  · rintro ⟨hsn, hlt | ⟨rfl, hseg⟩⟩
    · obtain ⟨count, hge, -, hcount, hbase⟩ := exists_count htracks.txNextAck_eq sn
      refine ⟨count, hge, by omega, ?_⟩
      rw [← hcount, Nat.mod_eq_of_lt hsn]
    · refine ⟨next, hacked, ?_, htxNext⟩
      simp [endCount, view, hseg]
  · rintro ⟨count, hge, hlt, rfl⟩
    refine ⟨Nat.mod_lt _ (mod_pos cfg), ?_⟩
    obtain hbefore | hnext_le := Nat.lt_or_ge count next
    · rw [txModBase_eq htracks.txNextAck_eq (modEq_mod cfg count) hge (by omega)]
      omega
    right
    rw [endCount] at hlt
    split_ifs at hlt with hseg
    · obtain rfl : count = next := by omega
      refine ⟨htxNext.symm, ?_⟩
      obtain hnone | hsome := htracks.segmented
      · simp [hnone] at hseg
      · exact hsome
    · omega

lemma windowInvariant_iff : WindowInvariant entity ↔ Exact cfg (view entity) acked next := by
  have hmod := mod_eq cfg
  have hwindow := amWindowSize_gt cfg
  have hnext := htracks.next_le
  have hle := htracks.acked_le
  constructor
  · intro hinv
    have hacked : acked ≤ next := by
      by_contra hpassed
      have hbase : entity.txModBase entity.txNext = next + cfg.mod - acked := by
        apply txModBase_eq htracks.txNextAck_eq _ (by omega) (by omega)
        rw [show entity.txNext = next % cfg.mod from htracks.txNext_eq]
        exact (modEq_mod cfg next).trans (Nat.ModEq.symm (by simp))
      have := hinv.edges
      omega
    have hholds : Spans cfg (view entity) acked next := fun sn => by
      rw [isSome_held, hinv.holds, holds_iff htracks hacked]
    refine ⟨hacked, hholds, fun hmax => ?_⟩
    have := hinv.size_le_maxWindow hmax
    have := size_eq htracks hacked hholds
    omega
  · rintro ⟨hacked, hholds, hbounded⟩
    refine ⟨?_, fun sn => ?_, htracks.segmented, CircularMap.size_le _, fun hmax => ?_⟩
    · rw [txModBase_txNext htracks hacked]
      omega
    · rw [← isSome_held, hholds, holds_iff htracks hacked]
    · rw [size_eq htracks hacked hholds]
      omega

end

def Unfinished (window : WindowView) : Prop :=
  ∀ sn ∈ window.segmented, ∀ sdu sent, window.held sn = some (sdu, sent) →
    0 < sent ∧ sent < sdu.length

lemma unfinished_of_move {full : Bool} {taken : Option Bytes} {after : WindowView}
    {pulled : Pulled} (hunfin : Unfinished window)
    (hmove : PullMove cfg full window taken after pulled) : Unfinished after := by
  cases hmove with
  | keep | retx => exact hunfin
  | drop | finished => simp [Unfinished, WindowView.segment]
  | fullSdu => simp [Unfinished, WindowView.segment, add, advance]
  | emptySdu => simp [Unfinished, WindowView.segment, add]
  | firstSegment hidle hfull hsn hlt hsegm =>
    rintro sn ⟨⟩ sdu' sent hheld
    obtain ⟨rfl, rfl⟩ : _ ∧ _ := by
      simpa [WindowView.segment, add] using hheld
    exact ⟨hsegm.pos, hlt⟩
  | middleSegment hseg hheld' hsent hsn hlt hsegm =>
    intro sn hsn' sdu' sent' hheld
    obtain rfl := some.inj (hseg.symm.trans hsn')
    obtain ⟨rfl, rfl⟩ : _ ∧ _ := by simpa [setSent] using hheld
    exact ⟨by omega, hlt⟩
  | lastSegment => simp [Unfinished, WindowView.segment, setSent, advance]

section

variable (htracks : Tracks cfg window acked next)
  (hexact : Exact cfg window acked next) (hidle : window.segmented = none)
  (hroom : next < acked + cfg.amWindowSize)

include htracks hexact hidle hroom

lemma isSome_held_add_iff (sdu : Bytes) (sent sn : Nat) :
    ((window.add cfg sdu sent).held sn).isSome ↔
      ∃ count, acked ≤ count ∧ count < next + 1 ∧ sn = count % cfg.mod := by
  have hholds (sn : Nat) : (window.held sn).isSome ↔
      ∃ count, acked ≤ count ∧ count < next ∧ sn = count % cfg.mod := by
    simpa [endCount, hidle] using hexact.holds sn
  constructor
  · intro hheld
    obtain rfl | hne := eq_or_ne sn window.txNext
    · exact ⟨next, hexact.acked_le, by omega, htracks.txNext_eq⟩
    simp only [add, hne, if_false] at hheld
    split at hheld
    · cases hheld
    · obtain ⟨count, hge, hlt, hsn⟩ := (hholds sn).mp hheld
      exact ⟨count, hge, by omega, hsn⟩
  · rintro ⟨count, hge, hlt, rfl⟩
    obtain hlt | rfl := Nat.lt_succ_iff_lt_or_eq.mp hlt
    · rw [held_add sdu sent htracks hroom hge hlt]
      exact htracks.held count hge hlt
    · simp [add, htracks.txNext_eq]

lemma exact_added_iff (sdu : Bytes) (sent : Nat) {next' : Nat} {added : WindowView}
    (hend : endCount added next' = next + 1) (hnext : next ≤ next')
    (hheld : added.held = (window.add cfg sdu sent).held) :
    Exact cfg added acked next' ↔ (cfg.maxWindow ≠ 0 → next + 1 ≤ acked + cfg.maxWindow) := by
  constructor
  · intro hafter
    simpa [hend] using hafter.bounded
  · intro hbounded
    refine ⟨hexact.acked_le.trans hnext, fun sn => ?_, by simpa [hend]⟩
    rw [hend, hheld]
    exact isSome_held_add_iff htracks hexact hidle hroom sdu sent sn

omit hexact in
lemma not_exact_emptySdu : ¬Exact cfg (window.add cfg [] 0) acked next := by
  have hmod := mod_eq cfg
  intro hafter
  have hheld : ((window.add cfg [] 0).held window.txNext).isSome := by simp [add]
  obtain ⟨count, hge, hlt, hsn⟩ := (hafter.holds _).mp hheld
  have hlt : count < next := by simpa [endCount, add, hidle] using hlt
  rw [htracks.txNext_eq, @mod_eq_mod_iff cfg acked] at hsn <;> omega

end

lemma isSome_held_setSent_iff {sn : Nat} (hheld : (window.held sn).isSome) (sdu : Bytes)
    (sent other : Nat) :
    ((window.setSent sn sdu sent).held other).isSome ↔ (window.held other).isSome := by
  obtain rfl | hne := eq_or_ne other sn
  · simpa [setSent] using hheld
  · simp [setSent, hne]

lemma exact_setSent {sn : Nat} (hexact : Exact cfg window acked next)
    (hheld : (window.held sn).isSome) (sdu : Bytes) (sent : Nat) :
    Exact cfg (window.setSent sn sdu sent) acked next :=
  ⟨hexact.acked_le, fun other => (isSome_held_setSent_iff hheld sdu sent other).trans
    (hexact.holds other), hexact.bounded⟩

lemma exact_lastSegment (hexact : Exact cfg window acked next) (hseg : window.segmented.isSome) :
    Exact cfg ((window.segment none).advance cfg) acked (next + 1) := by
  have hend : endCount window next = next + 1 := by simp [endCount, hseg]
  refine ⟨hexact.acked_le.trans (Nat.le_succ next), fun sn => ?_, ?_⟩
  · rw [← hend]
    exact hexact.holds sn
  · rw [← hend]
    exact hexact.bounded

/-- New SDUs have bytes and are not taken at `maxWindow`, and no report acknowledges the SDU under
segmentation. -/
def Keeps (entity : TxEntity cfg) : Event → Prop
  | .pullPdu grant required => ∀ sdu ∈ takenSdu entity grant required,
      sdu ≠ [] ∧ (cfg.maxWindow ≠ 0 → entity.txModBase entity.txNext ≠ cfg.maxWindow)
  | .statusPdu pdu => ∀ status ∈ StatusPdu.unpack cfg.snFieldLength pdu,
      ¬(entity.accepts status ∧ status.nacks = [] ∧ status.ackSn = (entity.txNext + 1) % cfg.mod ∧
        entity.snUnderSegmentation = some entity.txNext)
  | _ => True

section

variable (htracks : Tracks cfg (view entity) acked next)
  (hexact : Exact cfg (view entity) acked next)

include htracks hexact

lemma segmented_eq_none_of_idle (hidle : Idle (view entity)) :
    (view entity).segmented = none := by
  obtain hnone | hsome := htracks.segmented
  · exact hnone
  have hheld : ((view entity).held (view entity).txNext).isSome := by
    refine (hexact.holds _).mpr ⟨next, hexact.acked_le, ?_, htracks.txNext_eq⟩
    simp [endCount, hsome]
  rw [hidle _ hsome] at hheld
  cases hheld

lemma segment_none_of_idle (hidle : Idle (view entity)) :
    (view entity).segment none = view entity := by
  rw [WindowView.segment, ← segmented_eq_none_of_idle htracks hexact hidle]

lemma maxWindow_iff (hfull : entity.isTxWindowFull = false) :
    (cfg.maxWindow ≠ 0 → next + 1 ≤ acked + cfg.maxWindow) ↔
      (cfg.maxWindow ≠ 0 → entity.txModBase entity.txNext ≠ cfg.maxWindow) := by
  have hacked := hexact.acked_le
  rw [txModBase_txNext htracks hacked]
  apply forall_congr'
  intro hmax
  have hle : next - acked ≤ cfg.maxWindow := by
    have hbase := txModBase_txNext htracks hacked
    simp only [isTxWindowFull, hbase, Bool.or_eq_false_iff, Bool.and_eq_false_iff] at hfull
    obtain hzero | hle := hfull.2
    · simp at hzero
      omega
    · simpa using hle
  omega

lemma pullPdu_exact_iff (hunfin : Unfinished (view entity)) (grant : Nat)
    (required : Option StatusPdu) :
    ∃ next', Tracks cfg (view (entity.pullPdu grant required).1) acked next' ∧
      (Exact cfg (view (entity.pullPdu grant required).1) acked next' ↔
        Keeps entity (.pullPdu grant required)) := by
  rw [Keeps]
  have hmove := pullPdu_move entity grant required
  generalize view (entity.pullPdu grant required).1 = after, (entity.pullPdu grant required).2 =
    pulled, takenSdu entity grant required = taken at hmove ⊢
  have hkept {window : WindowView} {next' : Nat} (hexact' : Exact cfg window acked next') :
      Exact cfg window acked next' ↔ ∀ sdu ∈ (none : Option Bytes), sdu ≠ [] ∧
        (cfg.maxWindow ≠ 0 → entity.txModBase entity.txNext ≠ cfg.maxWindow) :=
    iff_of_true hexact' (by simp)
  have hnone := segmented_eq_none_of_idle htracks hexact
  have hkeeps := segment_none_of_idle htracks hexact
  have hroom := @next_lt_of_not_full _ _ _ _ htracks
  cases hmove with
  | keep | retx => exact ⟨next, htracks, hkept hexact⟩
  | drop hidle =>
    rw [hkeeps hidle]
    exact ⟨next, htracks, hkept hexact⟩
  | finished hseg hheld hdone =>
    have := hunfin _ hseg _ _ hheld
    omega
  | @fullSdu sdu header hidle hfull hsn hsegm =>
    specialize hnone hidle
    specialize hroom hfull
    rw [hkeeps hidle]
    refine ⟨next + 1, tracks_advance (tracks_add htracks hroom sdu 0) hroom
      (by simp [add]) hnone, ?_⟩
    have hend : endCount (((view entity).add cfg sdu 0).advance cfg) (next + 1) = next + 1 := by
      simp [endCount, add, advance, hnone]
    rw [exact_added_iff htracks hexact hnone hroom sdu 0 hend (Nat.le_succ next) rfl,
      maxWindow_iff htracks hexact hfull]
    have hne : sdu ≠ [] := List.ne_nil_of_length_pos hsegm.pos
    simp [hne]
  | emptySdu hidle hfull =>
    specialize hnone hidle
    specialize hroom hfull
    rw [hkeeps hidle]
    refine ⟨next, tracks_add htracks hroom [] 0, ?_⟩
    exact iff_of_false (not_exact_emptySdu htracks hnone hroom) (by simp)
  | @firstSegment sdu header payload hidle hfull hsn hlt hsegm =>
    specialize hnone hidle
    specialize hroom hfull
    refine ⟨next, tracks_add (tracks_segment htracks (.inr rfl)) hroom _ _, ?_⟩
    have hend : endCount (((view entity).segment (some (view entity).txNext)).add cfg sdu
        payload.length) next = next + 1 := by simp [endCount, add, WindowView.segment]
    rw [exact_added_iff htracks hexact hnone hroom sdu _ hend (Nat.le_refl next) rfl,
      maxWindow_iff htracks hexact hfull]
    have hne : sdu ≠ [] := by
      rintro rfl
      simp at hlt
    simp [hne]
  | middleSegment hseg hheld =>
    have hsome := isSome_of_eq_some hheld
    exact ⟨next, tracks_setSent htracks _ _ _, hkept (exact_setSent hexact hsome _ _)⟩
  | lastSegment hseg hheld =>
    have hsome := isSome_of_eq_some hheld
    refine ⟨next + 1, tracks_lastSegment htracks hseg hsome _ _, hkept ?_⟩
    exact exact_lastSegment (exact_setSent hexact hsome _ _) (isSome_of_eq_some hseg)

lemma exact_acknowledge_iff {k : Nat} :
    Exact cfg (acknowledge cfg (view entity) acked k) (acked + k) next ↔ acked + k ≤ next := by
  have hmod := mod_eq cfg
  have hnext := htracks.next_le
  have hend : endCount (acknowledge cfg (view entity) acked k) next =
      endCount (view entity) next := rfl
  have hend_le : endCount (view entity) next ≤ next + 1 := by
    rw [endCount]
    split <;> omega
  constructor
  · intro hafter
    exact hafter.acked_le
  · intro hle
    refine ⟨hle, fun sn => ?_, fun hmax => ?_⟩
    · constructor
      · intro hheld
        simp only [acknowledge] at hheld
        split_ifs at hheld with hkept
        · cases hheld
        obtain ⟨count, hge, hlt, rfl⟩ := (hexact.holds sn).mp hheld
        refine ⟨count, ?_, hlt, rfl⟩
        by_contra hacked
        exact hkept ⟨count - acked, by omega, by rw [Nat.add_sub_cancel' hge]⟩
      · rintro ⟨count, hge, hlt, rfl⟩
        have hkept : ¬∃ i < k, count % cfg.mod = (acked + i) % cfg.mod := by
          rintro ⟨i, hi, heq⟩
          rw [@mod_eq_mod_iff cfg acked] at heq <;> omega
        simp only [acknowledge, hkept, if_false]
        exact (hexact.holds _).mpr ⟨count, by omega, hlt, rfl⟩
    · have := hexact.bounded hmax
      omega

lemma contains_txNext_iff : entity.txWindow.contains (next % cfg.mod) ↔
      entity.snUnderSegmentation = some entity.txNext := by
  have hmod := mod_eq cfg
  have hnext := htracks.next_le
  have hacked := hexact.acked_le
  rw [← isSome_held, hexact.holds]
  constructor
  · rintro ⟨count, hge, hlt, heq⟩
    rw [endCount] at hlt
    split_ifs at hlt with hseg
    · obtain hnone | hsome := htracks.segmented
      · simp [hnone] at hseg
      · exact hsome
    · rw [@mod_eq_mod_iff cfg acked] at heq <;> omega
  · intro hseg
    exact ⟨next, hacked, by simp [endCount, view, hseg], rfl⟩

lemma acks_pass_iff {ack k d : Nat} (hackSn_lt : status.ackSn < cfg.mod)
    (hacc : Accepted cfg status acked next ack) (hk : k ≤ d)
    (hstop : stopSn status ≡ acked + d [MOD cfg.mod]) (hd : acked + d ≤ ack)
    (hnacks : status.nacks ≠ [] → acked + d < ack)
    (hall : ∀ i < k, entity.txWindow.contains ((acked + i) % cfg.mod))
    (hend : k = d ∨ ¬entity.txWindow.contains ((acked + k) % cfg.mod)) :
    next < acked + k ↔ status.nacks = [] ∧ status.ackSn = (entity.txNext + 1) % cfg.mod ∧
      entity.snUnderSegmentation = some entity.txNext := by
  have hmod := mod_eq cfg
  have hwindow := amWindowSize_gt cfg
  have hnext := htracks.next_le
  have hacked := hexact.acked_le
  have hle := hacc.le_next
  have htxNext : (entity.txNext + 1) % cfg.mod = (next + 1) % cfg.mod := by
    rw [show entity.txNext = next % cfg.mod from htracks.txNext_eq, Nat.mod_add_mod]
  rw [htxNext]
  constructor
  · intro hpass
    obtain rfl : ack = next + 1 := by omega
    refine ⟨?_, ?_, ?_⟩
    · by_contra hne
      have := hnacks hne
      omega
    · rw [← hacc.ackSn, Nat.mod_eq_of_lt hackSn_lt]
    · have hcont := hall (next - acked) (by omega)
      rw [Nat.add_sub_cancel' hacked] at hcont
      exact (contains_txNext_iff htracks hexact).mp hcont
  · rintro ⟨hnil, hackSn, hseg⟩
    have hstop : (acked + d) % cfg.mod = (next + 1) % cfg.mod := by
      rw [← hstop, stopSn, hnil]
      exact (Nat.mod_eq_of_lt hackSn_lt).trans hackSn
    rw [@mod_eq_mod_iff cfg acked _ _ (by omega) (by omega) (by omega) (by omega)] at hstop
    obtain rfl | habsent := hend
    · omega
    by_contra hge
    refine habsent ?_
    obtain hlt | hnext_le := Nat.lt_or_ge (acked + k) next
    · exact contains_of_tracks htracks (by omega) hlt
    · rw [show acked + k = next by omega]
      exact (contains_txNext_iff htracks hexact).mpr hseg

lemma handleStatusPdu_exact_iff {after : TxEntity cfg}
    (hstatus : status.Encodable cfg.snFieldLength) (h : entity.handleStatusPdu status = some after)
    : ∃ acked', Tracks cfg (view after) acked' next ∧ (Exact cfg (view after) acked' next ↔
        ¬(entity.accepts status ∧ status.nacks = [] ∧ status.ackSn = (entity.txNext + 1) % cfg.mod ∧
          entity.snUnderSegmentation = some entity.txNext)) := by
  cases haccs : entity.accepts status with
  | false =>
    rw [handleStatusPdu_of_rejected haccs] at h
    obtain rfl := some.inj h
    exact ⟨acked, htracks, iff_of_true hexact (by simp)⟩
  | true =>
    obtain ⟨ack, hacc⟩ := accepted_of_accepts htracks hstatus haccs
    obtain ⟨k, d, hk, hstop, hd, hnacks, hview, hall, hend⟩ :=
      afterAcks_view htracks hacc
    have hle := hacc.le_next
    refine ⟨acked + k, ?_, ?_⟩
    · rw [handleStatusPdu_view haccs h, hview]
      exact htracks.acknowledge (by omega)
    · rw [handleStatusPdu_view haccs h, hview, exact_acknowledge_iff htracks hexact,
        ← not_lt, acks_pass_iff htracks hexact hstatus.ackSn_lt hacc hk hstop hd hnacks hall hend]
      simp

end

def Reached (entity : TxEntity cfg) : Prop :=
  (∃ acked next, Tracks cfg (view entity) acked next) ∧ Unfinished (view entity)

lemma handleStatusPdu_unfinished (htracks : ∃ acked next, Tracks cfg (view entity) acked next)
    (hstatus : status.Encodable cfg.snFieldLength) (hunfin : Unfinished (view entity))
    (h : entity.handleStatusPdu status = some after) : Unfinished (view after) := by
  obtain ⟨acked, next, htracks⟩ := htracks
  cases haccs : entity.accepts status with
  | false =>
    rw [handleStatusPdu_of_rejected haccs] at h
    exact some.inj h ▸ hunfin
  | true =>
    obtain ⟨ack, hacc⟩ := accepted_of_accepts htracks hstatus haccs
    obtain ⟨k, d, -, -, -, -, hview, -, -⟩ := afterAcks_view htracks hacc
    rw [handleStatusPdu_view haccs h, hview]
    intro sn hsn sdu sent hheld
    simp only [acknowledge] at hheld
    split at hheld
    · cases hheld
    · exact hunfin sn hsn sdu sent hheld

lemma step_reached (hreach : Reached entity) (h : entity.step event = some after) :
    Reached after := by
  refine ⟨step_tracks hreach.1 h, ?_⟩
  have hunfin := hreach.2
  cases event with
  | handleSdu sdu => rwa [← some.inj h, view_handleSdu]
  | discardSdu pdcpSn => rwa [← some.inj h, view_discardSdu]
  | updateMacBufferState => rwa [← some.inj h, view_updateMacBufferState]
  | pullPdu grant required =>
    rw [← some.inj h]
    exact unfinished_of_move hunfin (pullPdu_move entity grant required)
  | statusPdu pdu =>
    rw [step] at h
    split at h
    · rename_i status hunpack
      exact handleStatusPdu_unfinished hreach.1 (unpack_encodable hunpack) hunfin h
    · exact some.inj h ▸ hunfin
  | pollRetransmitTimerExpired => rwa [← some.inj h, view_onExpiredPollRetransmitTimer]

lemma step_windowInvariant_iff (hreach : Reached entity) (hinv : WindowInvariant entity)
    (h : entity.step event = some after) : WindowInvariant after ↔ Keeps entity event := by
  obtain ⟨⟨acked, next, htracks⟩, hunfin⟩ := hreach
  have hexact := (windowInvariant_iff htracks).mp hinv
  have hview (hsame : view after = view entity) : WindowInvariant after ↔ True := by
    rw [← hsame] at htracks hexact
    exact iff_of_true ((windowInvariant_iff htracks).mpr hexact) trivial
  cases event with
  | handleSdu sdu => exact hview (by rw [← some.inj h, view_handleSdu])
  | discardSdu pdcpSn => exact hview (by rw [← some.inj h, view_discardSdu])
  | updateMacBufferState => exact hview (by rw [← some.inj h, view_updateMacBufferState])
  | pullPdu grant required =>
    obtain ⟨next', htracks', hiff⟩ :=
      pullPdu_exact_iff htracks hexact hunfin grant required
    obtain rfl := some.inj h
    rw [windowInvariant_iff htracks', hiff]
  | statusPdu pdu =>
    rw [step] at h
    rw [Keeps]
    split at h
    · rename_i status hunpack
      obtain ⟨acked', htracks', hiff⟩ :=
        handleStatusPdu_exact_iff htracks hexact (unpack_encodable hunpack) h
      rw [windowInvariant_iff htracks', hiff, hunpack]
      simp
    · rename_i hunpack
      rw [hview (by rw [← some.inj h]), hunpack]
      simp
  | pollRetransmitTimerExpired =>
    exact hview (by rw [← some.inj h, view_onExpiredPollRetransmitTimer])

end

/-- The run of a transmitter ends when it accesses an SN that is not in the window. -/
def next (state : Option (TxEntity cfg)) (event : Event) : Option (TxEntity cfg) :=
  state.bind (step · event)

lemma windowInvariant_init (cfg : TxConfig) : WindowInvariant ({} : TxEntity cfg) := by
  rw [windowInvariant_iff (tracks_init cfg)]
  refine ⟨Nat.le_refl 0, fun sn => ?_, fun _ => Nat.zero_le _⟩
  simp [view, endCount]

lemma keeps_of_fault (hreach : Reached entity) (h : entity.step event = none) :
    Keeps entity event := by
  cases event with
  | statusPdu pdu =>
    rintro status hunpack ⟨haccs, hnil, -⟩
    obtain ⟨⟨acked, next, htracks⟩, -⟩ := hreach
    obtain ⟨ack, hacc⟩ :=
      accepted_of_accepts htracks (unpack_encodable hunpack) haccs
    have hsome := handleStatusPdu_isSome_iff htracks hacc (unpack_encodable hunpack) haccs
    have hnone : entity.handleStatusPdu status = none := by
      rw [step, mem_def.mp hunpack] at h
      exact h
    simp [hnil, hnone] at hsome
  | _ => cases h

lemma next_windowInvariant_iff (state : Option (TxEntity cfg)) (event : Event)
    (hreach : ∀ entity ∈ state, Reached entity) (hinv : ∀ entity ∈ state, WindowInvariant entity) :
    (∀ entity ∈ next state event, WindowInvariant entity) ↔
      ∀ entity ∈ state, Keeps entity event := by
  obtain _ | entity := state
  · simp [next]
  have hreach := hreach entity rfl
  rw [next, bind_some]
  rcases hstep : entity.step event with _ | after
  · simpa using keeps_of_fault hreach hstep
  · simpa using step_windowInvariant_iff hreach (hinv entity rfl) hstep

/-- The invariant holds in every state of a run exactly if every event of the run meets its
condition. -/
theorem windowInvariant_throughout_iff (cfg : TxConfig) (events : List Event) :
    (∀ earlier later, events = earlier ++ later →
      ∀ entity ∈ earlier.foldl next (some ({} : TxEntity cfg)), WindowInvariant entity) ↔
    Guarded next (fun state event => ∀ entity ∈ state, Keeps entity event)
      (some ({} : TxEntity cfg)) events := by
  refine @throughout_iff_guarded _ _ (some {}) next _
    (fun state => ∀ entity ∈ state, Reached entity)
    (fun state => ∀ entity ∈ state, WindowInvariant entity) ?_ next_windowInvariant_iff events
    ?_ ?_
  · intro state event hreached _ after hafter
    obtain ⟨entity, hentity, hstep⟩ := bind_eq_some_iff.mp hafter
    exact step_reached (hreached entity hentity) hstep
  · rintro entity ⟨⟩
    exact ⟨⟨0, 0, tracks_init cfg⟩, by simp [Unfinished, view]⟩
  · rintro entity ⟨⟩
    exact windowInvariant_init cfg

def acknowledgedSegment : List Event :=
  [.handleSdu { buf := [1, 2, 3], pdcpSn := none }, .pullPdu 4 none, .statusPdu [0x00, 0x01, 0x00]]

theorem acknowledgedSegment_twoSdus_not_windowInvariant :
    (∃ entity ∈ acknowledgedSegment.foldl next (some ({} : TxEntity unlimitedConfig)),
      ¬WindowInvariant entity) ∧
    ∃ entity ∈ twoSdus.foldl next (some ({} : TxEntity oneSduWindow)), ¬WindowInvariant entity := by
  constructor
  · have hedges : (acknowledgedSegment.foldl next (some ({} : TxEntity unlimitedConfig))).any
        fun entity => unlimitedConfig.amWindowSize < entity.txModBase entity.txNext := by
      decide +kernel
    obtain ⟨entity, hentity, hlt⟩ := (any_eq_true _ _).mp hedges
    exact ⟨entity, hentity, fun hinv => hinv.edges.not_gt (of_decide_eq_true hlt)⟩
  · have hsizes : (twoSdus.foldl next (some ({} : TxEntity oneSduWindow))).any
        fun entity => oneSduWindow.maxWindow < entity.txWindow.size := by decide +kernel
    obtain ⟨entity, hentity, hlt⟩ := (any_eq_true _ _).mp hsizes
    exact ⟨entity, hentity, fun hinv =>
      (hinv.size_le_maxWindow (by decide)).not_gt (of_decide_eq_true hlt)⟩

end ProtoRu.Rlc
