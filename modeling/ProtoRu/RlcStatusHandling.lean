import Mathlib.Data.List.TakeWhile
import ProtoRu.RlcTxAmWindow

namespace ProtoRu.Rlc

open TxEntity List

variable {cfg : TxConfig}

section

variable (cfg : TxConfig)

lemma mod_dvd : cfg.mod ∣ 2 ^ 32 := cfg.snFieldLength.cardinality_dvd

lemma mod_eq : cfg.mod = 2 * cfg.amWindowSize :=
  cfg.snFieldLength.cardinality_eq

lemma amWindowSize_gt : 2 * 255 < cfg.amWindowSize :=
  cfg.snFieldLength.two_mul_range_lt_windowSize

lemma mod_pos : 0 < cfg.mod := by
  have := mod_eq cfg
  have := amWindowSize_gt cfg
  omega

lemma modEq_mod (count : Nat) : count % cfg.mod ≡ count [MOD cfg.mod] :=
  Nat.mod_modEq count cfg.mod

end

variable {entity after : TxEntity cfg} {acked next ack : Nat} {status : StatusPdu} {nack : Nack}

lemma txModBase_eq {count sn : Nat} (hacked : entity.txNextAck = acked % cfg.mod)
    (hsn : sn ≡ count [MOD cfg.mod]) (hle : acked ≤ count) (hlt : count < acked + cfg.mod) :
    entity.txModBase sn = count - acked := by
  rw [txModBase, hacked]
  exact unsignedOffset_mod_eq (mod_dvd cfg) hsn hle hlt

lemma exists_count (hacked : entity.txNextAck = acked % cfg.mod) (sn : Nat) :
    ∃ count, acked ≤ count ∧ count < acked + cfg.mod ∧ sn ≡ count [MOD cfg.mod] ∧
      entity.txModBase sn = count - acked := by
  have hlt := @unsignedOffset_lt cfg.mod entity.txNextAck sn (mod_pos cfg)
  have hsn := modEq_add_unsignedOffset (mod_dvd cfg) acked sn
  rw [← hacked] at hsn
  refine ⟨_, Nat.le_add_right _ _, by omega, hsn, ?_⟩
  rw [txModBase, Nat.add_sub_cancel_left]

lemma mod_eq_mod_iff {low a b : Nat} (ha : low ≤ a) (ha' : a < low + cfg.mod)
    (hb : low ≤ b) (hb' : b < low + cfg.mod) : a % cfg.mod = b % cfg.mod ↔ a = b :=
  ⟨eq_of_mod_eq_of_window ha ha' hb hb', congrArg (· % cfg.mod)⟩

def acknowledge (cfg : TxConfig) (window : WindowView) (acked k : Nat) : WindowView :=
  { window with
    txNextAck := (acked + k) % cfg.mod
    held := fun sn => if ∃ i < k, sn = (acked + i) % cfg.mod then none else window.held sn }

variable {window : WindowView}

lemma acknowledge_zero (hacked : window.txNextAck = acked % cfg.mod) :
    acknowledge cfg window acked 0 = window := by
  simp [acknowledge, hacked.symm]

lemma acknowledge_succ (window : WindowView) (acked k : Nat) :
    acknowledge cfg (acknowledge cfg window acked 1) (acked + 1) k =
      acknowledge cfg window acked (k + 1) := by
  simp only [acknowledge, WindowView.mk.injEq, true_and]
  refine ⟨by rw [Nat.add_assoc, Nat.add_comm 1 k], ?_⟩
  funext sn
  have hiff : (∃ i < k + 1, sn = (acked + i) % cfg.mod) ↔
      (∃ i < k, sn = (acked + 1 + i) % cfg.mod) ∨ ∃ i < 1, sn = (acked + i) % cfg.mod := by
    constructor
    · rintro ⟨i, hi, hsn⟩
      obtain rfl | hpos := Nat.eq_zero_or_pos i
      · exact .inr ⟨0, by omega, hsn⟩
      · exact .inl ⟨i - 1, by omega, by rw [hsn]; congr 1; omega⟩
    · rintro (⟨i, hi, hsn⟩ | ⟨i, hi, hsn⟩)
      · exact ⟨i + 1, by omega, by rw [hsn]; congr 1; omega⟩
      · exact ⟨i, by omega, hsn⟩
  rw [if_congr hiff rfl rfl, ite_or]

lemma view_removeAcked (entity : TxEntity cfg) (acked : Nat) :
    view (entity.removeAcked (acked % cfg.mod)) = acknowledge cfg (view entity) acked 1 := by
  simp only [view, removeAcked, acknowledge, WindowView.mk.injEq, true_and, Nat.mod_add_mod]
  funext sn
  rw [CircularMap.get?_erase]
  have hiff : (∃ i < 1, sn = (acked + i) % cfg.mod) ↔ sn = acked % cfg.mod := by
    simp
  rw [if_congr hiff rfl rfl]
  split <;> rfl

/-- The loop stops at the SN it is given or at the first one that is not in the window. -/
lemma ackLoop_view {stopSn : Nat} (rounds : Nat) {d : Nat}
    (hacked : entity.txNextAck = acked % cfg.mod) (hstop : stopSn ≡ acked + d [MOD cfg.mod])
    (hd : d < cfg.mod) (hrounds : d ≤ rounds) :
    ∃ k ≤ d, view (ackLoop stopSn rounds entity (acked % cfg.mod)) =
        acknowledge cfg (view entity) acked k ∧
      (∀ i < k, entity.txWindow.contains ((acked + i) % cfg.mod)) ∧
      (k = d ∨ ¬entity.txWindow.contains ((acked + k) % cfg.mod)) := by
  induction rounds generalizing entity acked d with
  | zero =>
    refine ⟨0, Nat.zero_le d, ?_, by simp, .inl (by omega)⟩
    rw [ackLoop, acknowledge_zero hacked]
  | succ rounds ih =>
    have hself : entity.txModBase (acked % cfg.mod) = acked - acked :=
      txModBase_eq hacked (modEq_mod cfg acked) le_rfl (by omega)
    have hbase : entity.txModBase stopSn = acked + d - acked :=
      txModBase_eq hacked hstop (Nat.le_add_right _ _) (by omega)
    rw [ackLoop]
    split
    · split_ifs with hcont
      · have hnext : (entity.removeAcked (acked % cfg.mod)).txNextAck =
            (acked + 1) % cfg.mod := Nat.mod_add_mod acked cfg.mod 1
        have hstop' : stopSn ≡ acked + 1 + (d - 1) [MOD cfg.mod] := by
          rwa [Nat.add_assoc, Nat.add_sub_cancel' (by omega)]
        obtain ⟨k, hk, hview, hall, hend⟩ := ih hnext hstop' (by omega) (by omega)
        have hkept (i : Nat) (hi : i < d) : (entity.removeAcked (acked % cfg.mod)).txWindow.contains
              ((acked + 1 + i) % cfg.mod) =
            entity.txWindow.contains ((acked + (i + 1)) % cfg.mod) := by
          have hne : (acked + (i + 1)) % cfg.mod ≠ acked % cfg.mod := by
            rw [Ne, @mod_eq_mod_iff cfg acked] <;> omega
          rw [Nat.add_assoc, Nat.add_comm 1 i, removeAcked, CircularMap.contains_erase]
          simp [hne]
        refine ⟨k + 1, by omega, ?_, ?_, ?_⟩
        · rw [← acknowledge_succ, ← view_removeAcked, ← hview, Nat.mod_add_mod]
        · intro i hi
          cases i with
          | zero => exact hcont
          | succ i =>
            rw [← hkept i (by omega)]
            exact hall i (by omega)
        · obtain hd | habsent := hend
          · exact .inl (by omega)
          obtain heq | hne := eq_or_ne (k + 1) d
          · exact .inl heq
          · right
            rw [← hkept k (by omega)]
            exact habsent
      · refine ⟨0, Nat.zero_le d, (acknowledge_zero hacked).symm, by simp, .inr ?_⟩
        simpa using hcont
    · refine ⟨0, Nat.zero_le d, (acknowledge_zero hacked).symm, by simp, .inl (by omega)⟩

/-- The counts behind the edges. The lower edge passes the upper when a partly sent SDU is
acknowledged. -/
structure Tracks (cfg : TxConfig) (window : WindowView) (acked next : Nat) : Prop where
  txNextAck_eq : window.txNextAck = acked % cfg.mod
  txNext_eq : window.txNext = next % cfg.mod
  acked_le : acked ≤ next + 1
  next_le : next ≤ acked + cfg.amWindowSize
  held : ∀ count, acked ≤ count → count < next → (window.held (count % cfg.mod)).isSome
  segmented : window.segmented = none ∨ window.segmented = some window.txNext

lemma Tracks.acknowledge {k : Nat} (htracks : Tracks cfg window acked next)
    (hk : acked + k ≤ next + 1) : Tracks cfg (acknowledge cfg window acked k) (acked + k) next := by
  have hmod := mod_eq cfg
  have hnext := htracks.next_le
  refine ⟨rfl, htracks.txNext_eq, hk, by omega, ?_, htracks.segmented⟩
  intro count hge hlt
  have hkept : ¬∃ i < k, count % cfg.mod = (acked + i) % cfg.mod := by
    rintro ⟨i, hi, heq⟩
    rw [@mod_eq_mod_iff cfg acked] at heq <;> omega
  simp only [Rlc.acknowledge, hkept, if_false]
  exact htracks.held count (by omega) hlt

structure Accepted (cfg : TxConfig) (status : StatusPdu) (acked next ack : Nat) : Prop where
  acked_lt : acked < ack
  le_next : ack ≤ next + 1
  le_window : ack ≤ acked + cfg.amWindowSize
  ackSn : status.ackSn ≡ ack [MOD cfg.mod]
  nacks : ∀ nack ∈ status.nacks, ∃ first, acked ≤ first ∧ first < ack ∧
    nack.nackSn ≡ first [MOD cfg.mod] ∧ first + nack.nofSdus ≤ ack

section

variable {entity : TxEntity cfg} {acked next : Nat} {status : StatusPdu}
  (htracks : Tracks cfg (view entity) acked next)

include htracks

lemma ackSn_count (hvalid : entity.validAckSn status.ackSn)
    (hnext : entity.txModBase status.ackSn ≤ entity.txModBase (entity.txNext + 1)) :
    ∃ ack, acked < ack ∧ ack ≤ next + 1 ∧ ack ≤ acked + cfg.amWindowSize ∧
      status.ackSn ≡ ack [MOD cfg.mod] ∧ entity.txModBase status.ackSn = ack - acked := by
  have hacked : entity.txNextAck = acked % cfg.mod := htracks.txNextAck_eq
  have hmod := mod_eq cfg
  have hwindow := amWindowSize_gt cfg
  have hle := htracks.next_le
  have hacked_le := htracks.acked_le
  obtain ⟨ack, hge, -, hackSn, hbase⟩ := exists_count hacked status.ackSn
  obtain ⟨hpos, hbound⟩ : 0 < ack - acked ∧ ack - acked ≤ cfg.amWindowSize := by
    simpa [validAckSn, hbase] using hvalid
  have hsucc : entity.txNext + 1 ≡ next + 1 [MOD cfg.mod] := by
    have htxNext : entity.txNext = next % cfg.mod := htracks.txNext_eq
    rw [htxNext]
    exact (modEq_mod cfg next).add_right 1
  obtain hpassed | hacked_le := Nat.lt_or_ge next acked
  · -- the counts are equal, so that no SN is far enough ahead
    rw [txModBase_eq hacked hsucc (by omega) (by omega)] at hnext
    omega
  · rw [txModBase_eq hacked hsucc (by omega) (by omega)] at hnext
    exact ⟨ack, by omega, by omega, by omega, hackSn, hbase⟩

omit htracks in
lemma lastSn_modEq (cfg : TxConfig) (nack : Nack) :
    nack.lastSn + 1 ≡ nack.nackSn + nack.nackRange [MOD cfg.mod] := by
  have hlast : nack.lastSn ≡ nack.nackSn + nack.nackRange + 2 ^ 32 - 1 [MOD cfg.mod] :=
    (Nat.mod_modEq _ _).of_dvd (mod_dvd cfg)
  have hwrap : 2 ^ 32 ≡ 0 [MOD cfg.mod] := (Nat.modEq_zero_iff_dvd).mpr (mod_dvd cfg)
  calc nack.lastSn + 1
      ≡ nack.nackSn + nack.nackRange + 2 ^ 32 - 1 + 1 [MOD cfg.mod] := hlast.add_right 1
    _ = nack.nackSn + nack.nackRange + 2 ^ 32 := by omega
    _ ≡ nack.nackSn + nack.nackRange + 0 [MOD cfg.mod] := hwrap.add_left _

lemma nack_count {nack : Nack} {ack : Nat} (hnack : nack.Encodable cfg.snFieldLength)
    (hack : ack ≤ acked + cfg.amWindowSize) (hbase : entity.txModBase status.ackSn = ack - acked)
    (hvalid : entity.validNack status.ackSn nack) :
    ∃ first, acked ≤ first ∧ first < ack ∧ nack.nackSn ≡ first [MOD cfg.mod] ∧
      first + nack.nofSdus ≤ ack := by
  have hacked : entity.txNextAck = acked % cfg.mod := htracks.txNextAck_eq
  have hmod := mod_eq cfg
  have hwindow := amWindowSize_gt cfg
  have hrange := hnack.nofSdus_le
  obtain ⟨first, hge, -, hfirst, hfirstBase⟩ := exists_count hacked nack.nackSn
  simp only [validNack, Bool.and_eq_true, Bool.or_eq_true, Bool.not_eq_true',
    decide_eq_true_eq, hbase, hfirstBase] at hvalid
  obtain ⟨⟨⟨⟨⟨hlt, hlast⟩, -⟩, -⟩, -⟩, -⟩ := hvalid
  refine ⟨first, hge, by omega, hfirst, ?_⟩
  cases hflag : nack.hasNackRange with
  | false =>
    simp only [Nack.nofSdus, hflag, Bool.false_eq_true, if_false]
    omega
  | true =>
    have hlast : entity.txModBase nack.lastSn < ack - acked := by simpa [hflag] using hlast
    simp only [Nack.nofSdus, hflag, if_true] at hrange ⊢
    have hsucc : nack.lastSn + 1 ≡ first + nack.nackRange [MOD cfg.mod] :=
      (lastSn_modEq cfg nack).trans (hfirst.add_right _)
    obtain hpos | hzero := Nat.lt_or_ge acked (first + nack.nackRange)
    · have hcount : nack.lastSn ≡ first + nack.nackRange - 1 [MOD cfg.mod] := by
        apply Nat.ModEq.add_right_cancel' 1
        rwa [Nat.sub_add_cancel (by omega)]
      rw [txModBase_eq hacked hcount (by omega) (by omega)] at hlast
      omega
    · -- an empty range from the lower edge on ends just before the edge
      omega

lemma accepted_of_accepts (hstatus : status.Encodable cfg.snFieldLength)
    (haccs : entity.accepts status) : ∃ ack, Accepted cfg status acked next ack := by
  simp only [accepts, Bool.and_eq_true, decide_eq_true_eq, all_eq_true] at haccs
  obtain ⟨⟨hvalid, hnext⟩, hnacks⟩ := haccs
  obtain ⟨ack, hgt, hle, hwindow, hackSn, hbase⟩ := ackSn_count htracks hvalid hnext
  exact ⟨ack, hgt, hle, hwindow, hackSn, fun nack hnack =>
    nack_count htracks (hstatus.nacks nack hnack) hwindow hbase (hnacks nack hnack)⟩

end

lemma stopSn_count (haccepted : Accepted cfg status acked next ack) :
    ∃ d, stopSn status ≡ acked + d [MOD cfg.mod] ∧ acked + d ≤ ack ∧
      (status.nacks ≠ [] → acked + d < ack) := by
  rcases hnacks : status.nacks with _ | ⟨nack, rest⟩
  · refine ⟨ack - acked, ?_, by have := haccepted.acked_lt; omega, by simp⟩
    rw [Nat.add_sub_cancel' haccepted.acked_lt.le]
    simpa [stopSn, hnacks] using haccepted.ackSn
  obtain ⟨first, hge, hlt, hfirst, -⟩ := haccepted.nacks nack (by simp [hnacks])
  refine ⟨first - acked, ?_, by omega, by omega⟩
  rw [Nat.add_sub_cancel' hge]
  simpa [stopSn, hnacks] using hfirst

def Acknowledged (entity after : TxEntity cfg) (status : StatusPdu) (acked ack : Nat) : Prop :=
  ∃ k d, k ≤ d ∧ stopSn status ≡ acked + d [MOD cfg.mod] ∧ acked + d ≤ ack ∧
    (status.nacks ≠ [] → acked + d < ack) ∧
    view after = acknowledge cfg (view entity) acked k ∧
    (∀ i < k, entity.txWindow.contains ((acked + i) % cfg.mod)) ∧
    (k = d ∨ ¬entity.txWindow.contains ((acked + k) % cfg.mod))

lemma processAcks_view (htracks : Tracks cfg (view entity) acked next)
    (haccepted : Accepted cfg status acked next ack) :
    Acknowledged entity (entity.processAcks status) status acked ack := by
  have hacked : entity.txNextAck = acked % cfg.mod := htracks.txNextAck_eq
  have hmod := mod_eq cfg
  have hwindow := amWindowSize_gt cfg
  have hle := haccepted.le_window
  obtain ⟨d, hstop, hd, hnacks⟩ := stopSn_count haccepted
  obtain ⟨k, hk, hview, hall, hend⟩ :=
    ackLoop_view cfg.mod hacked hstop (by omega) (by omega)
  rw [← hacked] at hview
  exact ⟨k, d, hk, hstop, hd, hnacks, hview, hall, hend⟩

lemma contains_eq_of_view {other : TxEntity cfg} (h : view entity = view other) (sn : Nat) :
    entity.txWindow.contains sn = other.txWindow.contains sn := by
  rw [← isSome_held, ← isSome_held, h]

lemma scheduleNack_isSome_iff (progress : TxEntity cfg × Option Nat) (nack : Nack) :
    (scheduleNack progress nack).isSome ↔ (progress.1.handleNack nack).isSome := by
  rw [scheduleNack]
  rcases hhandle : progress.1.handleNack nack with _ | ⟨after, scheduled⟩
  · rfl
  obtain ⟨hview, hscheduled⟩ := view_ignoresRetx.handleNack hhandle
  rw [Option.bind_some]
  dsimp only
  split_ifs with hcount
  · have hcont : after.txWindow.contains nack.nackSn := by
      rw [contains_eq_of_view hview]
      exact hscheduled hcount.1
    simp [incrementRetxCount, hcont]
  · rfl

lemma handleNack_isSome_iff {count : Nat} (htracks : Tracks cfg (view entity) acked next)
    (hacked_le : acked ≤ next) (hsingle : nack.hasNackRange = false)
    (hsn : nack.nackSn = count % cfg.mod) (hle : count ≤ next)
    (hback : acked < count + cfg.amWindowSize) :
    (entity.handleNack nack).isSome ↔ (count = next → entity.txWindow.contains entity.txNext) := by
  have hacked : entity.txNextAck = acked % cfg.mod := htracks.txNextAck_eq
  have hnext : entity.txNext = next % cfg.mod := htracks.txNext_eq
  have hmod := mod_eq cfg
  have hnext_le := htracks.next_le
  have hnextBase : entity.txModBase entity.txNext = next - acked := by
    apply txModBase_eq hacked _ hacked_le (by omega)
    rw [hnext]
    exact modEq_mod cfg next
  have hself : entity.txModBase entity.txNextAck = acked - acked := by
    apply txModBase_eq hacked _ le_rfl (by omega)
    rw [hacked]
    exact modEq_mod cfg acked
  have hcountSn : nack.nackSn ≡ count [MOD cfg.mod] := hsn ▸ modEq_mod cfg count
  rw [handleNack, if_neg (by simp [hsingle])]
  obtain hold | hcur := Nat.lt_or_ge count acked
  · -- an SDU that has just been acknowledged lies far ahead of the new lower edge
    have hbase : entity.txModBase nack.nackSn = count + cfg.mod - acked := by
      apply txModBase_eq hacked _ (by omega) (by omega)
      exact hcountSn.trans (Nat.ModEq.symm (by simp))
    rw [if_pos (by omega)]
    exact iff_of_true rfl (by omega)
  · have hbase : entity.txModBase nack.nackSn = count - acked :=
      txModBase_eq hacked hcountSn hcur (by omega)
    rw [if_neg (by omega), Option.isSome_map]
    change entity.txWindow.contains nack.nackSn ↔ _
    obtain rfl | hlt := hle.eq_or_lt
    · rw [hsn, hnext]
      simp
    have hheld : entity.txWindow.contains nack.nackSn := by
      rw [← isSome_held, hsn]
      exact htracks.held count hcur hlt
    exact iff_of_true hheld (by omega)

def Names (cfg : TxConfig) (nack : Nack) (sn : Nat) : Prop :=
  ∃ i < nack.nofSdus, sn = (nack.nackSn + i) % cfg.mod

instance (cfg : TxConfig) (nack : Nack) (sn : Nat) : Decidable (Names cfg nack sn) :=
  inferInstanceAs (Decidable (∃ i < _, _))

lemma expandNack_single {ackSn : Nat} {member : Nack}
    (hmember : member ∈ expandNack cfg.mod ackSn nack) : member.hasNackRange = false := by
  rw [expandNack] at hmember
  split_ifs at hmember with hsingle
  · obtain ⟨sn, -, rfl⟩ := mem_map.mp hmember
    rfl
  · rw [mem_singleton.mp hmember]
    simpa using hsingle

lemma mem_expandNack_sn {ackSn first : Nat} (hnack : nack.Encodable cfg.snFieldLength)
    (hge : acked ≤ first) (hack : ack ≤ acked + cfg.amWindowSize)
    (hackSn : ackSn ≡ ack [MOD cfg.mod]) (hfirst : nack.nackSn ≡ first [MOD cfg.mod])
    (hlast : first + nack.nofSdus ≤ ack) (sn : Nat) :
    (∃ member ∈ expandNack cfg.mod ackSn nack, member.nackSn = sn) ↔
      ∃ i < nack.nofSdus, sn = (first + i) % cfg.mod := by
  have hmod := mod_eq cfg
  rw [expandNack]
  cases hflag : nack.hasNackRange with
  | false =>
    have hsn : nack.nackSn = first % cfg.mod :=
      (Nat.mod_eq_of_lt hnack.nackSn_lt).symm.trans hfirst
    simp [Nack.nofSdus, hflag, hsn, @eq_comm _ sn]
  | true =>
    simp only [Nack.nofSdus, hflag, if_true] at hlast ⊢
    have hsn (i : Nat) : (nack.nackSn + i) % cfg.mod = (first + i) % cfg.mod :=
      hfirst.add_right i
    have hall : ((range nack.nackRange).map fun i =>
        (nack.nackSn + i) % cfg.mod).takeWhile (· != ackSn) =
        (range nack.nackRange).map fun i => (first + i) % cfg.mod := by
      simp only [hsn]
      rw [takeWhile_eq_self_iff]
      intro other hother
      obtain ⟨i, hi, rfl⟩ := mem_map.mp hother
      have hi := mem_range.mp hi
      have hne : (first + i) % cfg.mod ≠ ack % cfg.mod := by
        rw [Ne, @mod_eq_mod_iff cfg acked] <;> omega
      rw [bne_iff_ne]
      intro heq
      exact hne (by rw [← hackSn, ← heq, Nat.mod_mod])
    rw [hall]
    simp [rangeMember, @eq_comm _ sn]

lemma mem_expandNacks_sn (hstatus : status.Encodable cfg.snFieldLength)
    (haccepted : Accepted cfg status acked next ack) (sn : Nat) :
    (∃ member ∈ status.nacks.flatMap (expandNack cfg.mod status.ackSn), member.nackSn = sn) ↔
      ∃ nack ∈ status.nacks, Names cfg nack sn := by
  have hnames (nack : Nack) (hnack : nack ∈ status.nacks) :
      (∃ member ∈ expandNack cfg.mod status.ackSn nack, member.nackSn = sn) ↔
        Names cfg nack sn := by
    obtain ⟨first, hge, -, hfirst, hlast⟩ := haccepted.nacks nack hnack
    have hsn (i : Nat) : (nack.nackSn + i) % cfg.mod = (first + i) % cfg.mod :=
      hfirst.add_right i
    rw [mem_expandNack_sn (hstatus.nacks nack hnack) hge haccepted.le_window haccepted.ackSn
      hfirst hlast]
    simp [Names, hsn]
  constructor
  · rintro ⟨member, hmember, rfl⟩
    obtain ⟨nack, hnack, hmember⟩ := mem_flatMap.mp hmember
    exact ⟨nack, hnack, (hnames nack hnack).mp ⟨member, hmember, rfl⟩⟩
  · rintro ⟨nack, hnack, hname⟩
    obtain ⟨member, hmember, hsn⟩ := (hnames nack hnack).mpr hname
    exact ⟨member, mem_flatMap.mpr ⟨nack, hnack, hmember⟩, hsn⟩

lemma processNacks_isSome_iff {acked' : Nat} (htracks : Tracks cfg (view entity) acked' next)
    (hstatus : status.Encodable cfg.snFieldLength) (haccepted : Accepted cfg status acked next ack)
    (hlt : status.nacks ≠ [] → acked' < ack) :
    (entity.processNacks status).isSome ↔ ¬((∃ nack ∈ status.nacks, Names cfg nack entity.txNext) ∧
        ¬entity.txWindow.contains entity.txNext) := by
  have hmod := mod_eq cfg
  have hack := haccepted.le_window
  have hnext : entity.txNext = next % cfg.mod := htracks.txNext_eq
  have hstep (progress : TxEntity cfg × Option Nat) (hview : view progress.1 = view entity)
      (member : Nack)
      (hmember : member ∈ status.nacks.flatMap (expandNack cfg.mod status.ackSn)) :
      (scheduleNack progress member).isSome ↔
        (member.nackSn = entity.txNext → entity.txWindow.contains entity.txNext) := by
    obtain ⟨nack, hnack, hmember⟩ := mem_flatMap.mp hmember
    have hlt := hlt (ne_nil_of_mem hnack)
    have hle := haccepted.le_next
    have hnext_le := htracks.next_le
    obtain ⟨first, hfirst_ge, -, hfirst, hlast⟩ := haccepted.nacks nack hnack
    obtain ⟨i, hi, hsn⟩ := (mem_expandNack_sn (hstatus.nacks nack hnack) hfirst_ge hack
      haccepted.ackSn hfirst hlast member.nackSn).mp ⟨member, hmember, rfl⟩
    have htracks' : Tracks cfg (view progress.1) acked' next := hview ▸ htracks
    have htxNext : progress.1.txNext = entity.txNext := congrArg WindowView.txNext hview
    rw [scheduleNack_isSome_iff, handleNack_isSome_iff htracks' (by omega)
      (expandNack_single hmember) hsn (by omega) (by omega), contains_eq_of_view hview, htxNext,
      hsn, hnext, @mod_eq_mod_iff cfg acked] <;> omega
  rw [processNacks, Option.isSome_map, foldlM_isSome_iff_of_invariant
    (fun progress => view progress.1 = view entity)
    (fun _ _ _ hview h => (view_ignoresRetx.scheduleNack h).trans hview) hstep rfl]
  rw [← mem_expandNacks_sn hstatus haccepted]
  constructor
  · rintro hall ⟨⟨member, hmember, hsn⟩, habsent⟩
    exact habsent (hall member hmember hsn)
  · intro hnone member hmember hsn
    by_contra habsent
    exact hnone ⟨⟨member, hmember, hsn⟩, habsent⟩

lemma handleStatusPdu_of_rejected (hrejected : entity.accepts status = false) :
    entity.handleStatusPdu status = some entity := by
  rw [handleStatusPdu, if_neg (by simp [hrejected])]

def afterAcks (entity : TxEntity cfg) (status : StatusPdu) : TxEntity cfg :=
  ((entity.stopPollRetransmitTimer status.ackSn).processAcks status).clearRetx

lemma handleStatusPdu_of_accepts (haccs : entity.accepts status) : entity.handleStatusPdu status =
      ((afterAcks entity status).processNacks status).map updateMacBufferState := by
  rw [handleStatusPdu, if_pos haccs]
  rfl

lemma handleStatusPdu_view (haccs : entity.accepts status)
    (h : entity.handleStatusPdu status = some after) :
    view after = view (afterAcks entity status) := by
  rw [handleStatusPdu_of_accepts haccs] at h
  obtain ⟨handled, hnacks, rfl⟩ := Option.map_eq_some_iff.mp h
  rw [view_updateMacBufferState, view_ignoresRetx.processNacks hnacks]

section

variable {entity : TxEntity cfg} {status : StatusPdu} {acked next ack : Nat}
  (htracks : Tracks cfg (view entity) acked next)
  (haccepted : Accepted cfg status acked next ack)

include htracks haccepted

lemma afterAcks_view : Acknowledged entity (afterAcks entity status) status acked ack := by
  have hview := view_ignoresRetx.stopPollRetransmitTimer entity status.ackSn
  have htracks' : Tracks cfg (view (entity.stopPollRetransmitTimer status.ackSn)) acked next :=
    hview ▸ htracks
  have hprocessed := processAcks_view htracks' haccepted
  simp only [Acknowledged, contains_eq_of_view hview, hview] at hprocessed
  simpa [Acknowledged, afterAcks, view_ignoresRetx.clearRetx] using hprocessed

lemma handleStatusPdu_isSome_iff (hstatus : status.Encodable cfg.snFieldLength)
    (haccs : entity.accepts status) : (entity.handleStatusPdu status).isSome ↔
      ¬((∃ nack ∈ status.nacks, Names cfg nack entity.txNext) ∧
        ¬entity.txWindow.contains entity.txNext) := by
  have hmod := mod_eq cfg
  have hnext_le := htracks.next_le
  have hle := haccepted.le_next
  obtain ⟨k, d, hk, -, hd, hnacks, hview, -, -⟩ := afterAcks_view htracks haccepted
  have htracks' : Tracks cfg (view (afterAcks entity status)) (acked + k) next := by
    rw [hview]
    exact htracks.acknowledge (by omega)
  have hlt (hne : status.nacks ≠ []) : acked + k < ack := by
    have := hnacks hne
    omega
  have htxNext : (afterAcks entity status).txNext = entity.txNext := by
    have := congrArg WindowView.txNext hview
    exact this
  rw [handleStatusPdu_of_accepts haccs, Option.isSome_map,
    processNacks_isSome_iff htracks' hstatus haccepted hlt, htxNext]
  obtain hnil | hne := eq_or_ne status.nacks []
  · simp [hnil]
  have hlt := hlt hne
  have hkept : ¬∃ i < k, next % cfg.mod = (acked + i) % cfg.mod := by
    rintro ⟨i, hi, heq⟩
    rw [@mod_eq_mod_iff cfg acked] at heq <;> omega
  have hnext : entity.txNext = next % cfg.mod := htracks.txNext_eq
  have hcont : (afterAcks entity status).txWindow.contains entity.txNext =
      entity.txWindow.contains entity.txNext := by
    rw [← isSome_held, ← isSome_held, hview, hnext]
    simp [acknowledge, hkept]
  rw [hcont]

end

end ProtoRu.Rlc
