import Mathlib.Data.List.GetD
import Mathlib.Data.Nat.Bitwise
import ProtoRu.PdcpRxEntity
import ProtoRu.PdcpTxWindow

namespace ProtoRu.PdcpStatusReports

open PdcpTx TxEntity
open ProtoRu.PdcpRx (RxConfig RxEntity umDrb)
open List

def fieldBits (width value : Nat) : List Bool :=
  (range width).map fun i => value.testBit (width - 1 - i)

/-- The bits fill each byte from its highest bit on, and zeros the rest of the last one. -/
def packBits (bits : List Bool) : Bytes :=
  (range ((bits.length + 7) / 8)).map fun i => UInt8.ofNat (unpackBits 8 (bits.drop (8 * i)))

def controlPduMaxSize : Nat := 9000

def maxBits : Nat := (controlPduMaxSize - 5) * 8

section

variable {cfg : RxConfig} (e : RxEntity cfg)

def bitmapBegin : Nat := (e.rxDeliv + 1) % 2 ^ 32

def bitmapEnd : Nat :=
  if bitmapBegin e < e.rxNext ∧ maxBits < e.rxNext - bitmapBegin e then bitmapBegin e + maxBits
  else e.rxNext

def bitmap : List Bool :=
  (range' (bitmapBegin e) (bitmapEnd e - bitmapBegin e)).map e.rxWindow.contains

def compileStatusReport : Bytes :=
  packBits (fieldBits 1 0 ++ fieldBits 3 0 ++ fieldBits 4 0 ++ fieldBits 32 e.rxDeliv ++ bitmap e)

end

lemma testBit_unpackBits (width : Nat) (bits : List Bool) (i : Nat) :
    (unpackBits width bits).testBit i =
      (decide (i < width) && bits.getD (width - 1 - i) false) := by
  induction width generalizing i with
  | zero => simp [unpackBits]
  | succ width ih =>
    have hsucc : unpackBits (width + 1) bits =
        Nat.bit (bits.getD width false) (unpackBits width bits) := by
      simp only [unpackBits, range_succ, foldl_append, foldl_cons, foldl_nil]
      cases bits.getD width false <;> rfl
    rw [hsucc]
    cases i with
    | zero => simp
    | succ i => simp [Nat.testBit_bit_succ, ih, Nat.sub_sub, Nat.add_comm]

lemma getD_bits (bytes : Bytes) (i : Nat) :
    (bits bytes).getD i false = (bytes.getD (i / 8) 0).toNat.testBit (7 - i % 8) := by
  induction bytes generalizing i with
  | nil => simp [bits]
  | cons byte rest ih =>
    rw [bits, flatMap_cons]
    obtain hlt | hge := lt_or_ge i 8
    · rw [getD_append _ _ _ _ (by simpa using hlt), Nat.div_eq_of_lt hlt, Nat.mod_eq_of_lt hlt]
      simp [hlt]
    · rw [getD_append_right _ _ _ _ (by simpa using hge)]
      obtain ⟨j, rfl⟩ := Nat.exists_eq_add_of_le hge
      have hrest := ih j
      rw [bits] at hrest
      simpa using hrest

lemma getD_bits_packBits (bs : List Bool) (i : Nat) :
    (bits (packBits bs)).getD i false = bs.getD i false := by
  have hlt : unpackBits 8 (bs.drop (8 * (i / 8))) < 2 ^ 8 := by
    apply Nat.lt_pow_two_of_testBit
    intro j hj
    rw [testBit_unpackBits, decide_eq_false (Nat.not_lt.mpr hj), Bool.false_and]
  rw [getD_bits]
  obtain hin | hout := lt_or_ge (i / 8) ((bs.length + 7) / 8)
  · rw [packBits, getD_eq_getElem _ _ (by simpa using hin)]
    simp only [getElem_map, getElem_range, UInt8.toNat_ofNat']
    rw [Nat.mod_eq_of_lt hlt, testBit_unpackBits, decide_eq_true (by omega), Bool.true_and,
      show 8 - 1 - (7 - i % 8) = i % 8 by omega]
    simp [Nat.div_add_mod]
  · rw [packBits, getD_eq_default _ _ (by simpa using hout), getD_eq_default _ _ (by omega)]
    simp

lemma mem_receivedCounts {fmc count : Nat} {bits : List Bool} : count ∈ receivedCounts fmc bits ↔
      ∃ i, bits.getD i false ∧ count = (fmc + 1 + i) % 2 ^ 32 := by
  induction bits generalizing fmc with
  | nil => simp [receivedCounts]
  | cons bit rest ih =>
    rw [receivedCounts, mem_append, ih]
    constructor
    · rintro (hfirst | ⟨i, hi, rfl⟩)
      · exact ⟨0, by cases bit <;> simp_all⟩
      · exact ⟨i + 1, hi, by omega⟩
    · rintro ⟨_ | i, hi, rfl⟩
      · cases bit <;> simp_all
      · exact .inr ⟨i, hi, by omega⟩

section

variable {cfg : TxConfig} {e : TxEntity cfg}

/-- The SDUs of the window lie between its edges. -/
def Inside (e : TxEntity cfg) : Prop :=
  ∀ count, e.hasSn count → e.txNextAck ≤ count ∧ count < e.txNext

lemma hasSn_of_shrunk {after : TxEntity cfg} (h : Shrunk e after) {count : Nat}
    (hsn : after.hasSn count) : e.hasSn count := by
  obtain ⟨elem, helem⟩ := (CircularMap.contains_iff _).mp hsn
  exact (CircularMap.contains_iff _).mpr ⟨elem, h.elements count elem helem⟩

lemma handleStatusReport_of_no_timer (status : Bytes) (hnone : cfg.discardTimer = none) :
    e.handleStatusReport status = e := by
  have hkeeps (counts : List Nat) : counts.foldl discardPdu e = e := by
    induction counts with
    | nil => rfl
    | cons count rest ih => rw [foldl_cons, discardPdu, if_pos hnone, ih]
  simp only [handleStatusReport, discardReceived_eq, hkeeps, ite_self]

lemma discardPdu_removes (htimer : cfg.discardTimer ≠ none) (hinside : Inside e) (count : Nat) :
    ¬(e.discardPdu count).hasSn count := by
  intro hsn
  obtain ⟨hge, hlt⟩ := hinside count (hasSn_of_shrunk (discardPdu_shrunk e count) hsn)
  obtain ⟨ack, heq, -⟩ := discardPdu_eq e htimer hge hlt
    (hasSn_of_shrunk (discardPdu_shrunk e count) hsn)
  rw [heq] at hsn
  have hgone := hasSn_removeSdu e count count
  rw [decide_eq_true rfl] at hgone
  exact Bool.false_ne_true (hgone.symm.trans hsn)

lemma discardPdus_removes (htimer : cfg.discardTimer ≠ none) {counts : List Nat} {count : Nat}
    (hmem : count ∈ counts) (hinside : Inside e) : ¬(counts.foldl discardPdu e).hasSn count := by
  induction counts generalizing e with
  | nil => cases hmem
  | cons first rest ih =>
    have hshrunk := discardPdu_shrunk e first
    obtain rfl | hrest := mem_cons.mp hmem
    · intro hsn
      exact discardPdu_removes htimer hinside count
        (hasSn_of_shrunk (discardPdus_shrunk rest _) hsn)
    · refine ih hrest fun other hother => ⟨?_, ?_⟩
      · exact hshrunk.lower (fun held hheld => (hinside held hheld).1) other hother
      · rw [hshrunk.txNext]
        exact (hinside other (hasSn_of_shrunk hshrunk hother)).2

end

section

variable {rxCfg : RxConfig} {rx : RxEntity rxCfg}

lemma getD_report (n i : Nat) : ((bits (compileStatusReport rx)).drop n).getD i false =
    (replicate 8 false ++ (fieldBits 32 rx.rxDeliv ++ bitmap rx)).getD (n + i) false := by
  rw [← append_assoc, ← getD_bits_packBits (_ ++ bitmap rx)]
  simp only [getD, getElem?_drop]
  rfl

lemma unpackBits_header {width n : Nat} (h : n + width ≤ 8) :
    unpackBits width ((bits (compileStatusReport rx)).drop n) = 0 := by
  apply Nat.eq_of_testBit_eq
  intro i
  rw [testBit_unpackBits, getD_report, Nat.zero_testBit]
  obtain hlt | hge := lt_or_ge i width
  · have hshort : n + (width - 1 - i) < (replicate 8 false).length := by
      rw [length_replicate]
      omega
    rw [getD_append _ _ _ _ hshort, getD_eq_getElem _ _ hshort, getElem_replicate, Bool.and_false]
  · simp [not_lt.mpr hge]

lemma unpackBits_fmc (hdeliv : rx.rxDeliv < 2 ^ 32) :
    unpackBits 32 ((bits (compileStatusReport rx)).drop 8) = rx.rxDeliv := by
  apply Nat.eq_of_testBit_eq
  intro i
  rw [testBit_unpackBits, getD_report, getD_append_right _ _ _ _ (by simp)]
  obtain hlt | hge := lt_or_ge i 32
  · rw [getD_append _ _ _ _ (by simp [fieldBits]; omega)]
    simp [fieldBits, hlt, show 31 - i < 32 by omega, show 31 - (31 - i) = i by omega]
  · rw [Nat.testBit_lt_two_pow (hdeliv.trans_le (Nat.pow_le_pow_right (by decide) hge))]
    simp [not_lt.mpr hge]

/-- What a report acknowledges, as far as it fits into a control PDU. -/
def Received (rx : RxEntity rxCfg) (count : Nat) : Prop :=
  count < rx.rxDeliv ∨
    rx.rxDeliv < count ∧ count ≤ rx.rxDeliv + maxBits ∧ rx.rxWindow.contains count

variable (hdeliv : rx.rxDeliv < 2 ^ 32) (hnext : rx.rxNext < 2 ^ 32)
  (hheld : ∀ count, rx.rxWindow.contains count → rx.rxDeliv ≤ count ∧ count < rx.rxNext)

include hdeliv hnext hheld

lemma acknowledges_iff (count : Nat) :
    Acknowledges (compileStatusReport rx) count ↔ Received rx count := by
  have hbit (i : Nat) : ((bits (compileStatusReport rx)).drop 40).getD i false ↔
      i < bitmapEnd rx - bitmapBegin rx ∧ rx.rxWindow.contains (bitmapBegin rx + i) := by
    have hlen : (fieldBits 32 rx.rxDeliv).length = 32 := by simp [fieldBits]
    rw [getD_report, getD_append_right _ _ _ _ (by simp; omega),
      getD_append_right _ _ _ _ (by simp; omega), hlen, length_replicate,
      show 40 + i - 8 - 32 = i by omega]
    obtain hlt | hge := lt_or_ge i (bitmapEnd rx - bitmapBegin rx)
    · simp [bitmap, hlt]
    · simp [bitmap, not_lt.mpr hge]
  have hbegin : bitmapBegin rx = (rx.rxDeliv + 1) % 2 ^ 32 := rfl
  rw [Acknowledges, unpackBits_fmc hdeliv, mem_receivedCounts, Received]
  refine or_congr_right ⟨?_, ?_⟩
  · rintro ⟨i, hi, rfl⟩
    obtain ⟨hlt, hcont⟩ := (hbit i).mp hi
    have := hheld _ hcont
    have heq : (rx.rxDeliv + 1 + i) % 2 ^ 32 = bitmapBegin rx + i := by omega
    rw [heq]
    rw [bitmapEnd] at hlt
    refine ⟨by omega, ?_, hcont⟩
    split at hlt <;> omega
  · rintro ⟨hgt, hle, hcont⟩
    obtain ⟨-, hlt⟩ := hheld _ hcont
    refine ⟨count - (rx.rxDeliv + 1), (hbit _).mpr ⟨?_, ?_⟩, by omega⟩
    · rw [bitmapEnd]
      split <;> omega
    · rwa [show bitmapBegin rx + (count - (rx.rxDeliv + 1)) = count by omega]

/-- A transmitter with a discard timer discards exactly the acknowledged SDUs, one without
discards none. -/
theorem report_discards_exactly {txCfg : TxConfig} {tx : TxEntity txCfg} (hinside : Inside tx) :
    (txCfg.discardTimer ≠ none → ∀ count,
      (tx.handleStatusReport (compileStatusReport rx)).hasSn count ↔
        tx.hasSn count ∧ ¬Received rx count) ∧
    (txCfg.discardTimer = none → tx.handleStatusReport (compileStatusReport rx) = tx) := by
  refine ⟨fun htimer count => ?_, handleStatusReport_of_no_timer _⟩
  rw [← acknowledges_iff hdeliv hnext hheld]
  constructor
  · intro hafter
    have hbefore := hasSn_of_shrunk (handleStatusReport_shrunk tx _) hafter
    refine ⟨hbefore, fun hack => ?_⟩
    rw [Acknowledges, unpackBits_fmc hdeliv] at hack
    have hdc : unpackBits 1 (bits (compileStatusReport rx)) = 0 :=
      @unpackBits_header _ rx 1 0 (by decide)
    have hcpt := @unpackBits_header _ rx 3 1 (by decide)
    have hreserved := @unpackBits_header _ rx 4 4 (by decide)
    simp only [handleStatusReport, unpackBits_fmc hdeliv, hdc, hcpt, hreserved, ne_eq,
      not_true_eq_false, if_false, discardReceived_eq, ← foldl_append] at hafter
    refine discardPdus_removes htimer (mem_append.mpr ?_) hinside hafter
    refine hack.imp (fun hlt => mem_range'_1.mpr ?_) id
    have := (hinside count hbefore).1
    omega
  · rintro ⟨hbefore, hnot⟩
    exact handleStatusReport_hasSn tx hnot hbefore

end

def oneSdu (cfg : TxConfig) : TxEntity cfg :=
  { ({} : TxEntity cfg).addSdu [7] with txNext := 1 }

def delivered : RxEntity umDrb where
  rxNext := 1
  rxDeliv := 1

theorem oneSdu_discarded :
    ¬((oneSdu amDrb).handleStatusReport (compileStatusReport delivered)).hasSn 0 := by
  have hinside : Inside (oneSdu amDrb) := by
    intro count hcount
    have hsn := (CircularMap.contains_overwrite _ 0 count _).symm.trans hcount
    simp only [CircularMap.contains, CircularMap.get?_empty] at hsn
    obtain rfl : count = 0 := by simpa using hsn
    decide
  have hempty (count : Nat) : ¬delivered.rxWindow.contains count := Bool.false_ne_true
  rw [(report_discards_exactly (by decide) (by decide) (fun count h => absurd h (hempty count))
    hinside).1 (by decide)]
  exact fun h => h.2 (.inl (by decide))

/-- Without a discard timer, an SDU that is acknowledged stays in the window. -/
theorem oneSdu_kept : ((oneSdu { amDrb with discardTimer := none }).handleStatusReport
      (compileStatusReport delivered)).hasSn 0 ∧ Received delivered 0 :=
  ⟨by decide +kernel, .inl (by decide)⟩

/-- Both sides infer the COUNT of an SN from their lower edge, if it is less than a window away.
-/
theorem inferred_counts_eq (size : PdcpCounts.SnSize) {lower count : Nat} (hcount : count < 2 ^ 32)
    (hlow : lower ≤ count + size.windowSize) (hhigh : count < lower + size.windowSize) :
    (∀ {cfg : RxConfig} (e : RxEntity cfg), cfg.snSize = size → e.rxDeliv = lower →
      e.rcvdCount (size.computeSn count) = count) ∧
    ∀ {cfg : TxConfig} (e : TxEntity cfg), cfg.snSize = size →
      (if cfg.discardTimer.isSome then e.txNextAck else e.txTrans) = lower →
      e.notificationCountEstimation (size.computeSn count) = count := by
  refine ⟨fun {cfg} e hsize hdeliv => ?_, fun {cfg} e hsize hedge => ?_⟩
  · rw [RxEntity.rcvdCount, hsize, hdeliv]
    exact PdcpCounts.estimateCount_computeSn size hcount hlow hhigh
  · rw [notificationCountEstimation, hsize, hedge]
    exact PdcpCounts.estimateCount_computeSn size hcount hlow hhigh

theorem inferred_across_hfns : ({ rxDeliv := 4100 } : RxEntity umDrb).rcvdCount
    (umDrb.snSize.computeSn 4000) = 4000 :=
  (inferred_counts_eq umDrb.snSize (by decide) (by decide) (by decide)).1 _ rfl rfl

end ProtoRu.PdcpStatusReports
