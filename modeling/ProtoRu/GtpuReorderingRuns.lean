import ProtoRu.GtpuReordering

namespace ProtoRu.Gtpu

open Tunnel (rxModBase)
open UInt16

variable {α : Type} {cfg : RxConfig} {t : Tunnel α}

/-- What holds in every state that a run reaches. -/
structure Reached (t : Tunnel α) : Prop where
  inWindow : InWindow t
  waits : t.hasSn t.rxDeliv = false
  reord_le : t.reorderingRunning → (t.rxReord - t.rxDeliv).toNat ≤ (t.rxNext - t.rxDeliv).toNat
  initialised : t.reorderingRunning → t.initialised
  idle : t.initialised = false → t.rxNext = t.rxDeliv ∧ t.delivered.filterMap Delivery.number? = []

def Timed (t : Tunnel α) : Prop :=
  (t.reorderingRunning ↔ t.rxDeliv ≠ t.rxNext) ∧ (t.reorderingRunning → t.rxReord ≠ t.rxDeliv)

lemma reorders_iff (h : Reached t) : t.Reorders ↔ Timed t := by
  constructor
  · intro hreorders
    refine ⟨hreorders.running_iff, fun hrunning heq => ?_⟩
    have hpos := UInt16.lt_iff_toNat_lt.mp (hreorders.reord_pos hrunning)
    rw [rxModBase, heq, distance_self] at hpos
    omega
  · rintro ⟨hrunning, hreord⟩
    refine ⟨hrunning, ?_, ?_, h.inWindow.ascending, h.inWindow.numbered⟩
    · intro hruns
      rw [UInt16.lt_iff_toNat_lt, UInt16.toNat_zero, Nat.pos_iff_ne_zero]
      exact fun hzero => hreord hruns (distance_eq_zero_iff.mp hzero)
    · intro hruns
      exact le_iff_toNat_le.mpr (h.reord_le hruns)

section

lemma modBase_lt_iff : t.rxModBase t.rxDeliv < t.rxModBase t.rxNext ↔ t.rxDeliv ≠ t.rxNext := by
  rw [UInt16.lt_iff_toNat_lt, rxModBase, rxModBase, distance_self,
    Nat.pos_iff_ne_zero, ne_eq, distance_eq_zero_iff, eq_comm]

section

variable (h : InWindow t) (hwaits : t.hasSn t.rxDeliv = false) (hinited : t.initialised)

include h hwaits hinited

lemma started_spec (hne : t.rxDeliv ≠ t.rxNext) :
    Reached { t with rxReord := t.rxNext, reorderingRunning := true } ∧
      Timed { t with rxReord := t.rxNext, reorderingRunning := true } := by
  refine ⟨⟨h.of_timer _ _, hwaits, fun _ => le_rfl, fun _ => hinited, ?_⟩,
    ⟨fun _ => hne, fun _ => rfl⟩, fun _ => hne.symm⟩
  exact fun hnot => absurd hinited (Bool.eq_false_iff.mp hnot)

lemma idle_spec (hstop : t.reorderingRunning = false) (heq : t.rxDeliv = t.rxNext) :
    Reached t ∧ Timed t := by
  have hnot : ¬ t.reorderingRunning := by rw [hstop]; exact Bool.false_ne_true
  refine ⟨⟨h, hwaits, fun hruns => absurd hruns hnot, fun _ => hinited, ?_⟩,
    ⟨fun hruns => absurd hruns hnot, fun hne => absurd heq hne⟩, fun hruns => absurd hruns hnot⟩
  exact fun hempty => absurd hinited (Bool.eq_false_iff.mp hempty)

end

lemma restartReordering_spec (hcfg : cfg.tReordering ≠ 0) (h : InWindow t)
    (hwaits : t.hasSn t.rxDeliv = false) (hinited : t.initialised)
    (hstop : t.reorderingRunning = false) :
    Reached (t.restartReordering cfg) ∧ Timed (t.restartReordering cfg) := by
  rw [Tunnel.restartReordering]
  split_ifs with hmore
  · exact started_spec h hwaits hinited (modBase_lt_iff.mp hmore)
  · exact idle_spec h hwaits hinited hstop (not_not.mp (modBase_lt_iff.not.mp hmore))

lemma deliverAllConsecutiveSdus_spec (h : InWindow t) (hinited : t.initialised) :
    ∃ n ≤ (t.rxNext - t.rxDeliv).toNat, InWindow t.deliverAllConsecutiveSdus ∧
      Advanced n t t.deliverAllConsecutiveSdus ∧ (∀ i < n, t.hasSn (t.rxDeliv + ofNat i)) ∧
      t.hasSn (t.rxDeliv + ofNat n) = false ∧
      t.deliverAllConsecutiveSdus.hasSn t.deliverAllConsecutiveSdus.rxDeliv = false := by
  rw [Tunnel.deliverAllConsecutiveSdus, if_pos hinited]
  exact consecutiveSdus_spec _ h rfl

lemma handleTReorderingExpire_spec (hcfg : cfg.tReordering ≠ 0) (h : InWindow t)
    (hinited : t.initialised) (hstop : t.reorderingRunning = false)
    (hinside : t.insideRxWindow t.rxReord)
    (hreord : (t.rxReord - t.rxDeliv).toNat ≤ (t.rxNext - t.rxDeliv).toNat) :
    Reached (t.handleTReorderingExpire cfg) ∧ Timed (t.handleTReorderingExpire cfg) := by
  obtain ⟨hpassed, hmoved⟩ := passSns_spec (t.rxReord - t.rxDeliv).toNat h hreord
  obtain ⟨n, -, hdeliv, hrest, -, -, hwaits⟩ :=
    deliverAllConsecutiveSdus_spec hpassed (hmoved.initialised.trans hinited)
  have hall := hmoved.trans hrest
  rw [Tunnel.handleTReorderingExpire, hinited, hstop, hinside]
  exact restartReordering_spec hcfg hdeliv hwaits (hall.initialised.trans hinited)
    (hall.running.trans hstop)

/-- The timer is lost sight of when RX_DELIV has come exactly to RX_REORD. -/
lemma stop_start_spec (hcfg : cfg.tReordering ≠ 0) (h : InWindow t)
    (hwaits : t.hasSn t.rxDeliv = false) (hinited : t.initialised)
    (hreord : t.reorderingRunning → t.insideRxWindow t.rxReord →
      (t.rxReord - t.rxDeliv).toNat ≤ (t.rxNext - t.rxDeliv).toNat) :
    Reached (t.stopReordering.startReordering cfg) ∧ (Timed (t.stopReordering.startReordering cfg) ↔
        (t.reorderingRunning → t.rxReord ≠ t.rxDeliv)) := by
  have hbusy : ¬ t.initialised = false := by rw [hinited]; exact Bool.noConfusion
  by_cases hkept : t.reorderingRunning ∧ t.insideRxWindow t.rxReord
  · obtain ⟨hruns, hinside⟩ := hkept
    have hstays : t.stopReordering.startReordering cfg = t := by
      rw [Tunnel.stopReordering, hinside]
      simp [Tunnel.startReordering, hcfg, hruns]
    have hle := hreord hruns hinside
    rw [hstays]
    refine ⟨⟨h, hwaits, fun _ => hle, fun _ => hinited, fun hidle => absurd hidle hbusy⟩,
      fun htimed => htimed.2, fun hne => ⟨⟨fun _ heq => ?_, fun _ => hruns⟩, hne⟩⟩
    -- RX_REORD above RX_DELIV leaves no room for RX_NEXT at RX_DELIV.
    rw [← heq, distance_self, Nat.le_zero, distance_eq_zero_iff] at hle
    exact hne hruns hle
  · have hne : t.reorderingRunning → t.rxReord ≠ t.rxDeliv := by
      intro hruns heq
      refine hkept ⟨hruns, ?_⟩
      rw [heq, Tunnel.insideRxWindow, rxModBase, distance_self]
      rfl
    rw [iff_true_right hne]
    have hstop : t.stopReordering = { t with reorderingRunning := false } := by
      rw [Tunnel.stopReordering]
      split_ifs with hnot
      · rfl
      have hidle : t.reorderingRunning = false := by
        rw [← Bool.not_eq_true]
        intro hruns
        apply hnot
        rw [hruns, Bool.true_and, Bool.not_eq_true', ← Bool.not_eq_true]
        exact fun hinside => hkept ⟨hruns, hinside⟩
      rw [← hidle]
    rw [hstop, Tunnel.startReordering, if_neg hcfg]
    split_ifs with hmore
    · exact started_spec (h.of_timer t.rxReord false) hwaits hinited
        (modBase_lt_iff.mp (of_decide_eq_true ((Bool.and_eq_true _ _).mp hmore).2))
    refine idle_spec (h.of_timer t.rxReord false) hwaits hinited rfl ?_
    by_contra hwaiting
    exact hmore (by simpa using modBase_lt_iff.mpr hwaiting)

end

section

variable {sn : UInt16} {info : RxSduInfo α}

lemma Reached.deliverStraight (h : Reached t) (info : RxSduInfo α) :
    Reached (t.deliverStraight info) := by
  have hnumbers : (t.deliverStraight info).delivered.filterMap Delivery.number? =
      t.delivered.filterMap Delivery.number? := by
    rw [Tunnel.deliverStraight, List.filterMap_append]
    exact List.append_nil _
  have hwindow := h.inWindow
  refine ⟨⟨hwindow.next_le, hwindow.inside, hwindow.counted, ?_, ?_, ?_⟩, h.waits, h.reord_le,
    h.initialised, ?_⟩
  · rw [hnumbers]
    exact hwindow.ascending
  · intro number other hmem
    obtain hold | hnew := List.mem_append.mp hmem
    · exact hwindow.numbered number other hold
    · cases List.mem_singleton.mp hnew
  · rw [hnumbers]
    exact hwindow.delivered_lt
  · rw [hnumbers]
    exact h.idle

lemma Reached.initialise (h : Reached t) (sn : UInt16) : Reached (t.initialise sn) := by
  rw [Tunnel.initialise]
  split_ifs with hnot
  · exact h
  have hidle : t.initialised = false := Bool.eq_false_iff.mpr hnot
  obtain ⟨hnext, hnumbers⟩ := h.idle hidle
  have hempty (key : Nat) : t.rxWindow.get? key = none := by
    rw [Option.eq_none_iff_forall_ne_some]
    intro info hinfo
    obtain ⟨stored, -, -, hlt⟩ := h.inWindow.inside key info hinfo
    rw [hnext, distance_self] at hlt
    exact absurd hlt (Nat.not_lt_zero _)
  refine ⟨⟨?_, ?_, ?_, ?_, h.inWindow.numbered, ?_⟩, hasSn_of_get?_eq_none (hempty _), ?_, ?_, ?_⟩
  · exact (@distance_self sn).trans_le (Nat.zero_le _)
  · intro key info hinfo
    rw [hempty] at hinfo
    cases hinfo
  · exact UInt16.ofNat_toNat.symm
  · rw [hnumbers]
    exact List.Pairwise.nil
  · rw [hnumbers]
    exact nofun
  · exact fun _ => le_rfl
  · exact fun _ => rfl
  · exact nofun

lemma initialise_initialised (t : Tunnel α) (sn : UInt16) : (t.initialise sn).initialised := by
  rw [Tunnel.initialise]
  split_ifs with h
  · exact h
  · rfl

structure Stored (sn : UInt16) (before after : Tunnel α) : Prop where
  inWindow : InWindow after
  unmoved : after.rxDeliv = before.rxDeliv ∧ after.rxReord = before.rxReord ∧
    after.reorderingRunning = before.reorderingRunning ∧ after.initialised = before.initialised
  next_ge : (before.rxNext - before.rxDeliv).toNat ≤ (after.rxNext - before.rxDeliv).toNat
  sn_lt : (sn - before.rxDeliv).toNat < (after.rxNext - before.rxDeliv).toNat
  hasSn_iff : ∀ other, after.hasSn other ↔ other = sn ∨ before.hasSn other

lemma hasSn_addSn_iff (h : InWindow t) (hinside : t.insideRxWindow sn) (other : UInt16) :
    (t.addSn sn info).hasSn other ↔ other = sn ∨ t.hasSn other := by
  have hcont := t.rxWindow.contains_overwrite sn.toNat other.toNat info
  have hkey : (other.toNat = sn.toNat) = (other = sn) := propext UInt16.toNat_inj
  rw [Tunnel.hasSn, Tunnel.addSn, hcont]
  simp only [hkey, Bool.or_eq_true, decide_eq_true_eq, Bool.and_eq_true, Bool.not_eq_true',
    decide_eq_false_iff_not]
  refine or_congr_right' fun hne =>
    ⟨fun hother => hother.2, fun hother => ⟨fun hslot => ?_, hother⟩⟩
  have hlt := (h.lt_of_hasSn hother).trans_le h.next_le
  exact hne (eq_of_slot_eq hlt (of_decide_eq_true hinside) hslot)

lemma updateRxNext_next (hinside : t.insideRxWindow sn) :
    ((t.updateRxNext sn).rxNext - t.rxDeliv).toNat =
      max (t.rxNext - t.rxDeliv).toNat ((sn - t.rxDeliv).toNat + 1) := by
  have hlt : (sn - t.rxDeliv).toNat < 32768 := of_decide_eq_true hinside
  rw [Tunnel.updateRxNext]
  split_ifs with hle
  · rw [le_iff_toNat_le, rxModBase, rxModBase] at hle
    rw [distance_succ (by omega)]
    omega
  · rw [le_iff_toNat_le, rxModBase, rxModBase] at hle
    omega

lemma updateRxNext_eq (t : Tunnel α) (sn : UInt16) :
    t.updateRxNext sn = { t with rxNext := (t.updateRxNext sn).rxNext } := by
  rw [Tunnel.updateRxNext]
  split <;> rfl

lemma stored (h : InWindow t) (hinside : t.insideRxWindow sn) (hsn : info.sn = some sn) :
    Stored sn t ((t.addSn sn info).updateRxNext sn) := by
  have hlt : (sn - t.rxDeliv).toNat < gtpuRxWindowSize := of_decide_eq_true hinside
  have hnext : (((t.addSn sn info).updateRxNext sn).rxNext - t.rxDeliv).toNat =
      max (t.rxNext - t.rxDeliv).toNat ((sn - t.rxDeliv).toNat + 1) :=
    @updateRxNext_next _ (t.addSn sn info) sn hinside
  rw [updateRxNext_eq]
  refine ⟨⟨?_, ?_, h.counted, h.ascending, h.numbered, h.delivered_lt⟩, ⟨rfl, rfl, rfl, rfl⟩,
    ?_, ?_, fun other => hasSn_addSn_iff h hinside other⟩
  · exact hnext.trans_le (max_le h.next_le hlt)
  · intro key stored hstored
    have hget : (t.rxWindow.overwrite sn.toNat info).get? key = some stored := hstored
    rw [CircularMap.get?_overwrite] at hget
    split at hget
    · rename_i hkey
      obtain rfl := Option.some.inj hget
      exact ⟨sn, hkey.symm, hsn, (Nat.lt_succ_self _).trans_le ((le_max_right _ _).trans hnext.ge)⟩
    split at hget
    · cases hget
    · obtain ⟨other, hother, hinfo, hbelow⟩ := h.inside key stored hget
      exact ⟨other, hother, hinfo, hbelow.trans_le ((le_max_left _ _).trans hnext.ge)⟩
  · exact (le_max_left _ _).trans hnext.ge
  · exact (Nat.lt_succ_self _).trans_le ((le_max_right _ _).trans hnext.ge)

lemma deliver_spec {s : Tunnel α} (hs : Stored t.rxDeliv t s) (hinited : t.initialised)
    (hreord : t.reorderingRunning → (t.rxReord - t.rxDeliv).toNat ≤ (t.rxNext - t.rxDeliv).toNat) :
    InWindow s.deliverAllConsecutiveSdus ∧
      s.deliverAllConsecutiveSdus.hasSn s.deliverAllConsecutiveSdus.rxDeliv = false ∧
      ∃ n, Advanced n s s.deliverAllConsecutiveSdus ∧ (t.reorderingRunning → t.rxReord ≠ t.rxDeliv →
          (t.rxReord = t.rxDeliv + ofNat n ↔ t.MissesOnlyRxDeliv)) ∧
        (t.reorderingRunning → s.deliverAllConsecutiveSdus.insideRxWindow t.rxReord →
          (t.rxReord - s.deliverAllConsecutiveSdus.rxDeliv).toNat ≤
            (s.rxNext - s.deliverAllConsecutiveSdus.rxDeliv).toNat) := by
  obtain ⟨hdeliv, -, -, hsame⟩ := hs.unmoved
  obtain ⟨n, hn, hwindow, hmoved, hall, hmiss, hwaits⟩ :=
    deliverAllConsecutiveSdus_spec hs.inWindow (hsame.trans hinited)
  have hlimit := hs.inWindow.next_le
  rw [gtpuRxWindowSize] at hlimit
  rw [hdeliv] at hall hmiss hn hlimit
  refine ⟨hwindow, hwaits, n, hmoved, ?_, ?_⟩
  · intro hruns hne
    have hat : t.rxDeliv + ofNat (t.rxReord - t.rxDeliv).toNat = t.rxReord := by
      rw [UInt16.ofNat_toNat]
      grind
    constructor
    · intro heq
      have hdist : (t.rxReord - t.rxDeliv).toNat = n := by
        rw [heq]
        exact distance_add (by omega)
      refine ⟨fun i hi hpos => ?_, ?_⟩
      · have hbelow : i < n := hdist ▸ hi
        refine ((hs.hasSn_iff _).mp (hall i hbelow)).resolve_left fun hback => ?_
        have hzero := @distance_add t.rxDeliv i (by omega)
        rw [hback, distance_self] at hzero
        omega
      · rw [← heq] at hmiss
        rw [← Bool.not_eq_true] at hmiss ⊢
        exact fun hpres => hmiss ((hs.hasSn_iff _).mpr (.inr hpres))
    · rintro ⟨hbetw, hreordMissing⟩
      rw [← Bool.not_eq_true] at hmiss hreordMissing
      obtain hlt | heq | hgt := Nat.lt_trichotomy n (t.rxReord - t.rxDeliv).toNat
      · refine absurd ((hs.hasSn_iff _).mpr ?_) hmiss
        obtain rfl | hpos := Nat.eq_zero_or_pos n
        · exact .inl add_ofNat_zero
        · exact .inr (hbetw n hlt hpos)
      · rw [heq, hat]
      · have hpres := hall _ hgt
        rw [hat, hs.hasSn_iff] at hpres
        exact (hpres.elim hne hreordMissing).elim
  · intro hruns hinside
    have hle := (hreord hruns).trans hs.next_ge
    rw [Tunnel.insideRxWindow, rxModBase, hmoved.rxDeliv, hdeliv] at hinside
    rw [hmoved.rxDeliv, hdeliv]
    have hin : (t.rxReord - (t.rxDeliv + ofNat n)).toNat < 32768 :=
      of_decide_eq_true hinside
    have hbelow : n ≤ (t.rxReord - t.rxDeliv).toNat := by
      by_contra hpassed
      have hout := distance_passed (Nat.lt_of_not_le hpassed) (by omega)
      omega
    rw [distance_advance hbelow, distance_advance hn]
    omega

lemma not_modBase_lt_deliv : ¬ t.rxModBase sn < t.rxModBase t.rxDeliv := by
  have hzero : (t.rxModBase t.rxDeliv).toNat = 0 := distance_self
  rw [UInt16.lt_iff_toNat_lt, hzero]
  exact Nat.not_lt_zero _

lemma handleSn_spec (hcfg : cfg.tReordering ≠ 0) (h : Reached t) (hinited : t.initialised)
    (hsn : info.sn = some sn) :
    Reached (t.handleSn cfg sn info) ∧ (Timed t → (Timed (t.handleSn cfg sn info) ↔
        (sn = t.rxDeliv → t.reorderingRunning → ¬ t.MissesOnlyRxDeliv))) := by
  rw [Tunnel.handleSn, if_neg not_modBase_lt_deliv]
  split
  · rename_i houtside
    refine ⟨h.deliverStraight info, fun htimed => iff_of_true htimed fun hdeliv => ?_⟩
    rw [hdeliv, Tunnel.insideRxWindow, rxModBase, distance_self] at houtside
    cases houtside
  · rename_i hinside
    rw [Bool.not_eq_true, Bool.not_eq_false'] at hinside
    split_ifs with hduplicate
    · refine ⟨h, fun htimed => iff_of_true htimed fun hdeliv => ?_⟩
      rw [hdeliv, h.waits] at hduplicate
      cases hduplicate
    · have hs := stored h.inWindow hinside hsn
      generalize (t.addSn sn info).updateRxNext sn = s at hs ⊢
      obtain ⟨hdeliv, hreord, hrunning, hsame⟩ := hs.unmoved
      rw [Tunnel.deliverIfNext]
      split_ifs with heq
      · obtain rfl : sn = t.rxDeliv := by
          rw [rxModBase, rxModBase, UInt16.sub_self, ← UInt16.toNat_inj,
            UInt16.toNat_zero, distance_eq_zero_iff] at heq
          rw [heq, hdeliv]
        obtain ⟨hwindow, hwaits, n, hmoved, hexact, hle⟩ :=
          deliver_spec hs hinited h.reord_le
        obtain ⟨hreach, htimed⟩ := stop_start_spec hcfg hwindow hwaits
          (hmoved.initialised.trans (hsame.trans hinited)) (by
            rw [hmoved.running, hmoved.rxReord, hmoved.rxNext, hrunning, hreord]
            exact hle)
        refine ⟨hreach, fun hbefore => htimed.trans ?_⟩
        rw [hmoved.running, hmoved.rxReord, hmoved.rxDeliv, hrunning, hreord, hdeliv]
        refine ⟨fun hne _ hruns => ?_, fun hguard hruns => ?_⟩
        · exact (hexact hruns (hbefore.2 hruns)).not.mp (hne hruns)
        · exact (hexact hruns (hbefore.2 hruns)).not.mpr (hguard rfl hruns)
      · have hother : sn ≠ t.rxDeliv := by
          rintro rfl
          exact heq (by rw [hdeliv])
        have hmiss : s.hasSn s.rxDeliv = false := by
          rw [hdeliv, ← Bool.not_eq_true, hs.hasSn_iff, h.waits]
          exact fun hor => hor.elim hother.symm Bool.false_ne_true
        obtain ⟨hreach, htimed⟩ := stop_start_spec hcfg hs.inWindow hmiss (hsame.trans hinited) (by
            rw [hrunning, hreord, hdeliv]
            exact fun hruns _ => (h.reord_le hruns).trans hs.next_ge)
        refine ⟨hreach, fun hbefore => iff_of_true (htimed.mpr ?_)
          fun hdelivers => absurd hdelivers hother⟩
        rw [hrunning, hreord, hdeliv]
        exact hbefore.2

lemma handlePdu_cases (cfg : RxConfig) (t : Tunnel α) (pdu : Pdu α) :
    (t.handlePdu cfg pdu = t ∨ ∃ info, t.handlePdu cfg pdu = t.deliverStraight info) ∧
        (pdu.Sequenced cfg → pdu.seqNumber = none) ∨
      ∃ sn info, pdu.Sequenced cfg ∧ pdu.seqNumber = some sn ∧ info.sn = some sn ∧
        t.handlePdu cfg pdu = (t.initialise sn).handleSn cfg sn info := by
  rw [Tunnel.handlePdu]
  split
  · rename_i hdrop
    refine .inl ⟨.inl rfl, fun hseqd => ?_⟩
    have hadmitted := hseqd.1
    grind
  · rename_i hadmitted
    split
    · rename_i htest
      refine .inl ⟨.inr ⟨_, rfl⟩, fun hseqd => ?_⟩
      exact absurd htest (Bool.eq_false_iff.mp hseqd.2.1)
    rename_i htest
    split
    · rename_i hinfo
      refine .inl ⟨.inl rfl, fun hseqd => ?_⟩
      have hsome := hseqd.2.2.1
      rw [hinfo] at hsome
      exact absurd hsome Bool.false_ne_true
    · rename_i qosFlowId hinfo
      split
      · rename_i hnone
        exact .inl ⟨.inr ⟨_, rfl⟩, fun _ => hnone⟩
      rename_i sn hsn
      split_ifs with hcfg
      · exact .inl ⟨.inr ⟨_, rfl⟩, fun hseqd => absurd hcfg hseqd.2.2.2⟩
      refine .inr ⟨sn, _, ⟨?_, ?_, ?_, hcfg⟩, hsn, rfl, rfl⟩
      · grind
      · exact Bool.eq_false_iff.mpr htest
      · rw [hinfo]
        rfl

lemma Timed.initialise (h : Reached t) (htimed : Timed t) (sn : UInt16) :
    Timed (t.initialise sn) := by
  rw [Tunnel.initialise]
  split_ifs with hnot
  · exact htimed
  · have hidle : ¬ t.reorderingRunning := fun hruns => hnot (h.initialised hruns)
    exact ⟨iff_of_false hidle (not_not.mpr rfl), fun hruns => absurd hruns hidle⟩

lemma initialise_of_running (h : Reached t) (sn : UInt16)
    (hruns : (t.initialise sn).reorderingRunning) : t.initialise sn = t := by
  rw [Tunnel.initialise] at hruns ⊢
  split_ifs with hnot
  · rfl
  · rw [if_neg hnot] at hruns
    exact absurd (h.initialised hruns) hnot

lemma handlePdu_spec (h : Reached t) (pdu : Pdu α) : Reached (t.handlePdu cfg pdu) ∧
      (Timed t → (Timed (t.handlePdu cfg pdu) ↔ KeepsTime cfg t (.pdu pdu))) := by
  obtain ⟨hthrough, hnone⟩ | ⟨sn, info, hseqd, hsn, hinfo, heq⟩ := handlePdu_cases cfg t pdu
  · have hguard : KeepsTime cfg t (.pdu pdu) := by
      intro hseqd hsn
      rw [hnone hseqd] at hsn
      cases hsn
    obtain heq | ⟨info, heq⟩ := hthrough
    · rw [heq]
      exact ⟨h, fun htimed => iff_of_true htimed hguard⟩
    · rw [heq]
      exact ⟨h.deliverStraight info, fun htimed => iff_of_true htimed hguard⟩
  · obtain ⟨hreach, hiff⟩ := @handleSn_spec _ cfg _ sn info hseqd.2.2.2 (h.initialise sn)
      (initialise_initialised t sn) hinfo
    rw [heq]
    refine ⟨hreach, fun htimed => (hiff (htimed.initialise h sn)).trans ?_⟩
    constructor
    · intro hkeeps _ hdeliv hruns
      have hsame : t.initialise sn = t := by
        rw [Tunnel.initialise, if_pos (h.initialised hruns)]
      rw [hsame] at hkeeps
      exact hkeeps (Option.some.inj (hsn.symm.trans hdeliv)) hruns
    · intro hkeeps hdeliv hruns
      have hsame := initialise_of_running h sn hruns
      rw [hsame] at hdeliv hruns ⊢
      exact hkeeps hseqd (hdeliv ▸ hsn) hruns

lemma expired_spec (h : Reached t) (hcfg : t.initialised → cfg.tReordering ≠ 0) :
    Reached (next cfg t .tReorderingExpired) ∧ (Timed t → (Timed (next cfg t .tReorderingExpired) ↔
        KeepsTime cfg t .tReorderingExpired)) := by
  rw [next]
  split
  · rename_i hruns
    have hinited := h.initialised hruns
    by_cases hinside : t.insideRxWindow t.rxReord
    · obtain ⟨hreach, htimed⟩ := handleTReorderingExpire_spec (hcfg hinited)
        (h.inWindow.of_timer t.rxReord false) hinited rfl hinside (h.reord_le hruns)
      exact ⟨hreach, fun _ => iff_of_true htimed fun _ => hinside⟩
    -- The expiry counts as outdated, and nothing starts the timer again.
    have hskip : ({ t with reorderingRunning := false } : Tunnel α).handleTReorderingExpire
        cfg = { t with reorderingRunning := false } := by
      rw [Tunnel.handleTReorderingExpire]
      simp only [hinited, Bool.not_true, Bool.false_eq_true, if_false]
      rw [if_pos]
      rwa [Bool.not_eq_true', ← Bool.not_eq_true]
    rw [hskip]
    refine ⟨⟨h.inWindow.of_timer t.rxReord false, h.waits, nofun, nofun, h.idle⟩, ?_⟩
    intro htimed
    refine iff_of_false (fun hafter => ?_) fun hguard => hinside (hguard hruns)
    exact absurd (hafter.1.mpr (htimed.1.mp hruns)) Bool.false_ne_true
  · rename_i hidle
    exact ⟨h, fun htimed => iff_of_true htimed fun hruns => absurd hruns hidle⟩

end

lemma next_configured (hcfg : t.initialised → cfg.tReordering ≠ 0) (h : Reached t)
    (event : Event α) : (next cfg t event).initialised → cfg.tReordering ≠ 0 := by
  cases event with
  | pdu pdu =>
    obtain ⟨heq | ⟨info, heq⟩, -⟩ | ⟨sn, info, hseqd, -⟩ := handlePdu_cases cfg t pdu
    · rwa [next, heq]
    · rwa [next, heq]
    · exact fun _ => hseqd.2.2.2
  | tReorderingExpired =>
    rw [next]
    split_ifs with hruns
    · exact fun _ => hcfg (h.initialised hruns)
    · exact hcfg

lemma next_spec (h : Reached t) (hcfg : t.initialised → cfg.tReordering ≠ 0) (event : Event α) :
    Reached (next cfg t event) ∧
      (Timed t → (Timed (next cfg t event) ↔ KeepsTime cfg t event)) := by
  cases event with
  | pdu pdu => exact handlePdu_spec h pdu
  | tReorderingExpired => exact expired_spec h hcfg

lemma Reached.initial : Reached ({} : Tunnel α) := by
  refine ⟨⟨?_, nofun, rfl, List.Pairwise.nil, nofun, nofun⟩, rfl, nofun, nofun, fun _ => ⟨rfl, rfl⟩⟩
  exact (@distance_self 0).trans_le (Nat.zero_le _)

/-- Timer and deliveries are right in all states of a run exactly if every step keeps time. -/
theorem reorders_iff_keepsTime (cfg : RxConfig) (events : List (Event α)) :
    (∀ earlier later, events = earlier ++ later →
        (earlier.foldl (next cfg) ({} : Tunnel α)).Reorders) ↔
      Guarded (next cfg) (KeepsTime cfg) ({} : Tunnel α) events := by
  apply throughout_iff_guarded fun t : Tunnel α =>
    Reached t ∧ (t.initialised → cfg.tReordering ≠ 0)
  · rintro before event ⟨hbefore, hcfg⟩ -
    exact ⟨(next_spec hbefore hcfg event).1, next_configured hcfg hbefore event⟩
  · rintro before event ⟨hbefore, hcfg⟩ hproperty
    obtain ⟨hafter, htimed⟩ := next_spec hbefore hcfg event
    rw [reorders_iff hafter]
    exact htimed ((reorders_iff hbefore).mp hproperty)
  · exact ⟨Reached.initial, nofun⟩
  · rw [reorders_iff Reached.initial]
    exact ⟨iff_of_false Bool.false_ne_true (not_not.mpr rfl), nofun⟩

/-- Whatever PDUs and expiries come, the window stays in order and what is delivered ascends. -/
theorem reached_of_run (cfg : RxConfig) (events : List (Event α)) :
    Reached (events.foldl (next cfg) ({} : Tunnel α)) := by
  have hreach : ∀ t : Tunnel α, Reached t → (t.initialised → cfg.tReordering ≠ 0) →
      Reached (events.foldl (next cfg) t) := by
    induction events with
    | nil => exact fun _ h _ => h
    | cons event rest ih =>
      intro t h hcfg
      exact ih _ (next_spec h hcfg event).1 (next_configured hcfg h event)
  exact hreach {} Reached.initial nofun

def plainPdu (sn : UInt16) : Event Unit :=
  .pdu ⟨true, false, [some 1], some sn, ()⟩

def tenMs : RxConfig := ⟨10, false⟩

def swappedPdus : List (Event Unit) := [plainPdu 0, plainPdu 2, plainPdu 1]

/-- Everything has been delivered and the timer still runs. -/
theorem swappedPdus_timer_runs : ¬ ∀ earlier later, swappedPdus = earlier ++ later →
      (earlier.foldl (next tenMs) ({} : Tunnel Unit)).Reorders := by
  intro hall
  have hreorders := hall swappedPdus [] (List.append_nil _).symm
  have hruns : (swappedPdus.foldl (next tenMs) ({} : Tunnel Unit)).reorderingRunning := by
    decide +kernel
  exact hreorders.running_iff.mp hruns (by decide +kernel)

end ProtoRu.Gtpu
