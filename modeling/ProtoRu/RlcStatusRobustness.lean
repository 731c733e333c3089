import ProtoRu.RlcStatusHandling

namespace ProtoRu.Rlc

open Option TxEntity

variable {cfg : TxConfig}

lemma mod_mod_amWindowSize (cfg : TxConfig) (count : Nat) :
    count % cfg.mod % cfg.amWindowSize = count % cfg.amWindowSize :=
  Nat.mod_mod_of_dvd count ⟨2, by rw [mod_eq, Nat.mul_comm]⟩

variable {entity : TxEntity cfg} {acked next : Nat} {window : WindowView} {count : Nat}

section

variable (htracks : Tracks cfg (view entity) acked next)

include htracks

lemma contains_of_tracks (hge : acked ≤ count) (hlt : count < next) :
    entity.txWindow.contains (count % cfg.mod) := by
  rw [← isSome_held]
  exact htracks.held count hge hlt

lemma next_lt_of_not_full (hfull : entity.isTxWindowFull = false) :
    next < acked + cfg.amWindowSize := by
  by_contra hge
  have hnext : next = acked + cfg.amWindowSize := by
    have := htracks.next_le
    omega
  have hwindow : entity.txWindow.full := by
    apply CircularMap.full_of_contains
    intro i hi
    obtain ⟨count, hcount, hlt, rfl⟩ := exists_mod_eq_of_window acked hi
    refine ⟨count % cfg.mod, contains_of_tracks htracks hcount (hnext ▸ hlt), ?_⟩
    exact mod_mod_amWindowSize cfg count
  simp [isTxWindowFull, hwindow] at hfull

lemma next_lt_of_contains (hcont : entity.txWindow.contains entity.txNext) :
    next < acked + cfg.amWindowSize := by
  have hmod := mod_eq cfg
  have hwindow := amWindowSize_gt cfg
  by_contra hge
  have hnext : next = acked + cfg.amWindowSize := by
    have := htracks.next_le
    omega
  have htxNext : entity.txNext = next % cfg.mod := htracks.txNext_eq
  rw [htxNext] at hcont
  have hfirst := contains_of_tracks htracks (Nat.le_refl acked) (by omega)
  have hslot : next % cfg.mod % cfg.amWindowSize = acked % cfg.mod % cfg.amWindowSize := by
    rw [mod_mod_amWindowSize, mod_mod_amWindowSize, hnext, Nat.add_mod_right]
  have heq := CircularMap.eq_of_contains _ hcont hfirst hslot
  rw [@mod_eq_mod_iff cfg acked] at heq <;> omega

end

lemma tracks_segment (htracks : Tracks cfg window acked next) {segmented : Option Nat}
    (hseg : segmented = none ∨ segmented = some window.txNext) :
    Tracks cfg (window.segment segmented) acked next :=
  ⟨htracks.txNextAck_eq, htracks.txNext_eq, htracks.acked_le, htracks.next_le, htracks.held, hseg⟩

open WindowView

lemma held_add (sdu : Bytes) (sent : Nat) (htracks : Tracks cfg window acked next)
    (hroom : next < acked + cfg.amWindowSize) (hge : acked ≤ count) (hlt : count < next) :
    (window.add cfg sdu sent).held (count % cfg.mod) = window.held (count % cfg.mod) := by
  have hmod := mod_eq cfg
  have hne : count % cfg.mod ≠ window.txNext := by
    rw [htracks.txNext_eq, Ne, @mod_eq_mod_iff cfg acked] <;> omega
  have hslot : count % cfg.mod % cfg.amWindowSize ≠ window.txNext % cfg.amWindowSize := by
    rw [htracks.txNext_eq, mod_mod_amWindowSize, mod_mod_amWindowSize]
    intro heq
    have := eq_of_mod_eq_of_window hge (by omega) (by omega) hroom heq
    omega
  simp [add, hne, hslot]

lemma tracks_add (htracks : Tracks cfg window acked next)
    (hroom : next < acked + cfg.amWindowSize) (sdu : Bytes) (sent : Nat) :
    Tracks cfg (window.add cfg sdu sent) acked next := by
  refine ⟨htracks.txNextAck_eq, htracks.txNext_eq, htracks.acked_le, htracks.next_le, ?_,
    htracks.segmented⟩
  intro count hge hlt
  rw [held_add sdu sent htracks hroom hge hlt]
  exact htracks.held count hge hlt

lemma isSome_held_setSent (window : WindowView) (sdu : Bytes) (sn other sent : Nat)
    (hheld : (window.held other).isSome) : ((window.setSent sn sdu sent).held other).isSome := by
  obtain rfl | hne := eq_or_ne other sn
  · simp [setSent]
  · simpa [setSent, hne] using hheld

lemma tracks_setSent (htracks : Tracks cfg window acked next) (sn : Nat) (sdu : Bytes)
    (sent : Nat) :
    Tracks cfg (window.setSent sn sdu sent) acked next :=
  ⟨htracks.txNextAck_eq, htracks.txNext_eq, htracks.acked_le, htracks.next_le,
    fun count hge hlt => isSome_held_setSent _ _ _ _ _ (htracks.held count hge hlt),
    htracks.segmented⟩

lemma tracks_advance (htracks : Tracks cfg window acked next)
    (hroom : next < acked + cfg.amWindowSize) (hheld : (window.held window.txNext).isSome)
    (hseg : window.segmented = none) : Tracks cfg (window.advance cfg) acked (next + 1) := by
  have hacked := htracks.acked_le
  have htxNext := htracks.txNext_eq
  refine ⟨htracks.txNextAck_eq, ?_, by omega, by omega, ?_, .inl hseg⟩
  · simp [advance, htxNext]
  intro count hge hlt
  obtain hlt | rfl := Nat.lt_succ_iff_lt_or_eq.mp hlt
  · exact htracks.held count hge hlt
  · rw [← htxNext]
    exact hheld

variable {after : TxEntity cfg}

section

variable (htracks : Tracks cfg (view entity) acked next)

include htracks

lemma tracks_lastSegment {sn : Nat} (hseg : (view entity).segmented = some sn)
    (hheld : ((view entity).held sn).isSome) (sdu : Bytes) (sent : Nat) :
    Tracks cfg ((((view entity).segment none).setSent sn sdu sent).advance cfg) acked
      (next + 1) := by
  obtain rfl : sn = (view entity).txNext := by
    obtain hnone | hsome := htracks.segmented
    · simp [hnone] at hseg
    · exact some.inj (hseg.symm.trans hsome)
  have hcont : entity.txWindow.contains entity.txNext := by
    rwa [← isSome_held]
  have hroom := next_lt_of_contains htracks hcont
  have hsent := tracks_setSent (tracks_segment htracks (.inl rfl)) (view entity).txNext sdu sent
  exact tracks_advance hsent hroom (by simp [WindowView.setSent, WindowView.segment]) rfl

lemma tracks_of_move {taken : Option Bytes} {pulled : Pulled}
    (hmove : PullMove cfg entity.isTxWindowFull (view entity) taken window pulled) :
    ∃ next', Tracks cfg window acked next' := by
  cases hmove with
  | keep | retx => exact ⟨next, htracks⟩
  | drop | finished => exact ⟨next, tracks_segment htracks (.inl rfl)⟩
  | fullSdu hidle hfull =>
    have hroom := next_lt_of_not_full htracks hfull
    have hadded := tracks_add (tracks_segment htracks (.inl rfl)) hroom
    exact ⟨next + 1, tracks_advance (hadded _ _) hroom (by simp [add]) rfl⟩
  | emptySdu hidle hfull =>
    have hroom := next_lt_of_not_full htracks hfull
    exact ⟨next, tracks_add (tracks_segment htracks (.inl rfl)) hroom _ _⟩
  | firstSegment hidle hfull =>
    have hroom := next_lt_of_not_full htracks hfull
    exact ⟨next, tracks_add (tracks_segment htracks (.inr rfl)) hroom _ _⟩
  | middleSegment => exact ⟨next, tracks_setSent htracks _ _ _⟩
  | lastSegment hseg hheld =>
    exact ⟨next + 1, tracks_lastSegment htracks hseg (isSome_of_eq_some hheld) _ _⟩

lemma handleStatusPdu_tracks {status : StatusPdu} (hstatus : status.Encodable cfg.snFieldLength)
    (h : entity.handleStatusPdu status = some after) :
    ∃ acked', Tracks cfg (view after) acked' next := by
  cases haccs : entity.accepts status with
  | false =>
    rw [handleStatusPdu_of_rejected haccs] at h
    exact ⟨acked, some.inj h ▸ htracks⟩
  | true =>
    obtain ⟨ack, hacc⟩ := accepted_of_accepts htracks hstatus haccs
    obtain ⟨k, d, hk, -, hd, -, hview, -, -⟩ := afterAcks_view htracks hacc
    have hle := hacc.le_next
    refine ⟨acked + k, ?_⟩
    rw [handleStatusPdu_view haccs h, hview]
    exact htracks.acknowledge (by omega)

end

lemma step_tracks {event : Event} (htracks : ∃ acked next, Tracks cfg (view entity) acked next)
    (h : entity.step event = some after) : ∃ acked next, Tracks cfg (view after) acked next := by
  obtain ⟨acked, next, htracks⟩ := htracks
  cases event with
  | handleSdu sdu =>
    refine ⟨acked, next, ?_⟩
    rwa [← some.inj h, view_handleSdu]
  | discardSdu pdcpSn =>
    refine ⟨acked, next, ?_⟩
    rwa [← some.inj h, view_discardSdu]
  | updateMacBufferState =>
    refine ⟨acked, next, ?_⟩
    rwa [← some.inj h, view_updateMacBufferState]
  | pullPdu grant required =>
    rw [← some.inj h]
    exact ⟨acked, tracks_of_move htracks (pullPdu_move entity grant required)⟩
  | statusPdu pdu =>
    rw [step] at h
    split at h
    · rename_i status hunpack
      obtain ⟨acked', htracks'⟩ :=
        handleStatusPdu_tracks htracks (unpack_encodable hunpack) h
      exact ⟨acked', next, htracks'⟩
    · exact ⟨acked, next, some.inj h ▸ htracks⟩
  | pollRetransmitTimerExpired =>
    refine ⟨acked, next, ?_⟩
    rwa [← some.inj h, view_onExpiredPollRetransmitTimer]

lemma tracks_init (cfg : TxConfig) : Tracks cfg (view ({} : TxEntity cfg)) 0 0 := by
  refine ⟨?_, ?_, by omega, by omega, by omega, .inl rfl⟩
  · exact (Nat.zero_mod _).symm
  · exact (Nat.zero_mod _).symm

lemma run_tracks {events : List Event} (hrun : events.foldlM step {} = some entity) :
    ∃ acked next, Tracks cfg (view entity) acked next :=
  foldlM_invariant (fun entity => ∃ acked next, Tracks cfg (view entity) acked next) hrun
    ⟨0, 0, tracks_init cfg⟩ fun _ _ _ _ htracks h => step_tracks htracks h

/-- Only SNs in the window are accessed, unless a NACK of TX_Next passes the checks while it is
not in it. -/
theorem status_handled_iff (events : List Event) (entity : TxEntity cfg)
    (hrun : events.foldlM step {} = some entity) (pdu : Bytes) (status : StatusPdu)
    (hunpack : StatusPdu.unpack cfg.snFieldLength pdu = some status) :
    (entity.handleStatusPdu status).isSome ↔
      ¬(entity.accepts status ∧ (∃ nack ∈ status.nacks, Names cfg nack entity.txNext) ∧
        ¬entity.txWindow.contains entity.txNext) := by
  have hstatus := unpack_encodable hunpack
  obtain ⟨acked, next, htracks⟩ := run_tracks hrun
  cases haccepts : entity.accepts status with
  | false =>
    rw [handleStatusPdu_of_rejected haccepts]
    simp
  | true =>
    obtain ⟨ack, haccepted⟩ := accepted_of_accepts htracks hstatus haccepts
    rw [handleStatusPdu_isSome_iff htracks haccepted hstatus haccepts]
    simp

def twoSdus : List Event :=
  [.handleSdu { buf := [1], pdcpSn := none }, .handleSdu { buf := [2], pdcpSn := none },
    .pullPdu 10 none, .pullPdu 10 none]

def nackOfSn1 : Bytes := [0x00, 0x02, 0x80, 0x00, 0x10]

theorem twoSdus_status_handled :
    ∃ entity : TxEntity unlimitedConfig, twoSdus.foldlM step {} = some entity ∧
      ∃ status, StatusPdu.unpack .size12bits nackOfSn1 = some status ∧
        entity.accepts status ∧ (entity.handleStatusPdu status).isSome := by
  refine ⟨_, rfl, _, rfl, by decide +kernel, ?_⟩
  rw [status_handled_iff twoSdus _ rfl nackOfSn1 _ rfl]
  decide +kernel

/-- With one SDU sent in full, a NACK of TX_Next accesses an SN that is not in the window. -/
theorem oneSdu_status_not_handled : ∃ entity : TxEntity unlimitedConfig,
      [.handleSdu { buf := [1], pdcpSn := none }, .pullPdu 10 none].foldlM step {} =
        some entity ∧ entity.snUnderSegmentation = none ∧
      ∃ status, StatusPdu.unpack .size12bits nackOfSn1 = some status ∧
        status.ackSn = entity.txNext + 1 ∧ entity.handleStatusPdu status = none := by
  refine ⟨_, rfl, rfl, _, rfl, rfl, ?_⟩
  rw [← Option.isNone_iff_eq_none]
  decide +kernel

end ProtoRu.Rlc
