import Mathlib.Algebra.BigOperators.Group.Finset.Basic
import ProtoRu.PdcpTxEntity

namespace ProtoRu.PdcpTx

open TxEntity CircularMap Finset

variable {cfg : TxConfig} {e : TxEntity cfg}

def windowBytes (window : CircularMap cfg.snSize.windowSize Element) : Nat :=
  ∑ i ∈ range cfg.snSize.windowSize, (window.slots i).elim 0 (·.2.sduLength)

/-- The window holds COUNTs from TX_NEXT_ACK to TX_NEXT, with the totals of its content. -/
def Consistent (e : TxEntity cfg) : Prop :=
  e.txNextAck ≤ e.txNext ∧ (∀ count, e.hasSn count → e.txNextAck ≤ count ∧ count < e.txNext) ∧
    e.sduBytes = windowBytes e.txWindow ∧ e.nofSdus = e.txWindow.size ∧ e.hasSn e.txNext = false

inductive FailurePoint where
  | copy
  | compression
  | headerPrepend
  | cryptoQueue
  | missingEngine
  | engine

/-- The SDU is dropped before anything is done for it. -/
def Refuses (e : TxEntity cfg) (sdu : Bytes) : Prop :=
  cfg.rbType = .drb ∧ e.checkEarlyDrop sdu ≠ .noDrop ∨ cfg.maxCountHard ≤ e.txNext
  deriving Decidable

/-- The entity after an SDU whose processing fails. The failure of a security engine ends the
process, as its result is not checked. -/
def afterFailure (e : TxEntity cfg) (sdu payload : Bytes) :
    FailurePoint → Option (TxEntity cfg)
  | .copy => some (e.handleSdu sdu false (some payload))
  | .compression | .headerPrepend => some (e.handleSdu sdu true none)
  | .cryptoQueue | .missingEngine =>
    some { e.handleSdu sdu true (some payload) with tasks := e.tasks }
  | .engine => if Refuses e sdu then some e else none

/-- No earlier SDU is in the place that the next one gets in the ring. -/
def HasPlace (e : TxEntity cfg) : Prop :=
  e.txWindow.slots (e.txNext % cfg.snSize.windowSize) = none

/-- The failures that leave nothing behind. -/
def Spared (e : TxEntity cfg) (sdu : Bytes) : FailurePoint → Prop
  | .copy => Refuses e sdu ∨ cfg.keepsCopy ∨ HasPlace e
  | .cryptoQueue | .missingEngine => Refuses e sdu ∨ HasPlace e
  | .compression | .headerPrepend | .engine => Refuses e sdu

lemma handleSdu_of_refuses {sdu : Bytes} (h : Refuses e sdu) (copied : Bool)
    (payload : Option Bytes) : e.handleSdu sdu copied payload = e := by
  rw [handleSdu]
  split
  · rfl
  · rw [if_pos (h.resolve_left ‹_›)]

lemma handleSdu_of_not_refuses {sdu : Bytes} (h : ¬Refuses e sdu) (copied : Bool)
    (payload : Option Bytes) : ∃ deadline, e.handleSdu sdu copied payload =
      let started : TxEntity cfg := { e with discardDeadline := deadline }
      if cfg.keepsCopy ∧ copied = false then started
      else payload.elim (started.addSdu sdu) fun payload =>
        { (started.addSdu sdu).submitTask false e.txNext payload with txNext := e.txNext + 1 } := by
  obtain ⟨hdrop, hcount⟩ := not_or.mp h
  obtain ⟨deadline, hstart⟩ :
      ∃ deadline, e.startDiscardTimer = { e with discardDeadline := deadline } := by
    rw [startDiscardTimer]
    split
    · split
      exacts [⟨_, rfl⟩, ⟨e.discardDeadline, rfl⟩]
    · exact ⟨e.discardDeadline, rfl⟩
  refine ⟨deadline, ?_⟩
  rw [handleSdu, if_neg hdrop, if_neg hcount, hstart]
  rfl

lemma windowBytes_overwrite (window : CircularMap cfg.snSize.windowSize Element) (count : Nat)
    (elem : Element) (hfree : window.slots (count % cfg.snSize.windowSize) = none) :
    windowBytes (window.overwrite count elem) = windowBytes window + elem.sduLength := by
  have hslot := mem_range.mpr (@slot_lt count cfg.snSize.windowSize _)
  rw [windowBytes, windowBytes, ← add_sum_erase _ _ hslot, ← add_sum_erase _ _ hslot,
    hfree]
  simp only [overwrite, replaceSlot, if_true, Option.elim_some,
    Option.elim_none, Nat.zero_add, Nat.add_comm _ elem.sduLength]
  congr 1
  apply sum_congr rfl
  intro i hi
  rw [if_neg (ne_of_mem_erase hi)]

/-- An SDU that gets its COUNT is counted, unless it displaces another one. -/
lemma counted_consistent_iff (hcons : Consistent e) (sdu : Bytes) :
    Consistent { e.addSdu sdu with txNext := e.txNext + 1 } ↔ HasPlace e := by
  obtain ⟨hedges, hinside, hsum, hsize, -⟩ := hcons
  have hsn (count : Nat) (h : (e.addSdu sdu).hasSn count) :
      e.txNextAck ≤ count ∧ count < e.txNext + 1 := by
    rw [hasSn, addSdu, contains_overwrite] at h
    obtain heq | hold := (Bool.or_eq_true _ _).mp h
    · have := of_decide_eq_true heq
      omega
    · have := hinside count (Bool.and_eq_true_iff.mp hold).2
      omega
  have hafter : (e.addSdu sdu).txWindow.size = e.txWindow.size -
      (if (e.txWindow.slots (e.txNext % cfg.snSize.windowSize)).isSome then 1 else 0) + 1 := rfl
  constructor
  · rintro ⟨-, -, -, hcounted, -⟩
    have hnof : e.nofSdus + 1 = (e.addSdu sdu).txWindow.size := hcounted
    rw [HasPlace, ← Option.not_isSome_iff_eq_none]
    intro hused
    rw [if_pos hused] at hafter
    have hpos : e.txWindow.size ≠ 0 := by
      rw [size, e.txWindow.counted, card_ne_zero]
      exact ⟨_, mem_filter.mpr ⟨mem_range.mpr (slot_lt _), hused⟩⟩
    omega
  · intro hplace
    rw [hplace, ← hsize] at hafter
    refine ⟨hedges.trans (Nat.le_succ _), hsn, ?_, hafter.symm, ?_⟩
    · rw [addSdu, windowBytes_overwrite _ _ _ hplace, hsum]
    · rw [← Bool.not_eq_true]
      exact fun h => Nat.lt_irrefl _ (hsn _ h).2

/-- An SDU that fails before it gets its COUNT is in the place of the next one. -/
lemma added_not_consistent (sdu : Bytes) : ¬Consistent (e.addSdu sdu) := by
  rintro ⟨-, -, -, -, hfree⟩
  rw [hasSn, addSdu, contains_overwrite] at hfree
  simp at hfree

/-- The entity stays consistent exactly if the SDU stayed out of the window, or got a COUNT and a
place. -/
theorem consistent_afterFailure_iff (hcons : Consistent e) (sdu payload : Bytes)
    (failure : FailurePoint) :
    (∃ after ∈ afterFailure e sdu payload failure, Consistent after) ↔ Spared e sdu failure := by
  by_cases hrefuses : Refuses e sdu
  · have hsame : ∃ after ∈ afterFailure e sdu payload failure, Consistent after := by
      cases failure <;>
        simp only [afterFailure, handleSdu_of_refuses hrefuses, if_pos hrefuses] <;>
        exact ⟨_, rfl, hcons⟩
    exact iff_of_true hsame (by cases failure <;> simp [Spared, hrefuses])
  have hcounted (copied : Bool) (hcopied : ¬(cfg.keepsCopy ∧ copied = false)) (tasks : List Task) :
      Consistent { e.handleSdu sdu copied (some payload) with tasks } ↔ HasPlace e := by
    obtain ⟨deadline, heq⟩ := handleSdu_of_not_refuses hrefuses copied (some payload)
    rw [heq]
    simp only [if_neg hcopied, Option.elim_some]
    exact counted_consistent_iff hcons sdu
  have hadded : ¬Consistent (e.handleSdu sdu true none) := by
    obtain ⟨deadline, heq⟩ := handleSdu_of_not_refuses hrefuses true none
    rw [heq, if_neg (by simp)]
    exact added_not_consistent sdu
  cases failure with
  | copy =>
    simp only [afterFailure, Spared, hrefuses, false_or, Option.mem_some_iff, exists_eq_left']
    by_cases hkeeps : cfg.keepsCopy
    · obtain ⟨deadline, heq⟩ := handleSdu_of_not_refuses hrefuses false (some payload)
      rw [heq, if_pos ⟨hkeeps, rfl⟩]
      exact iff_of_true hcons (.inl hkeeps)
    · rw [or_iff_right hkeeps]
      exact hcounted false (by simp [hkeeps]) (e.handleSdu sdu false (some payload)).tasks
  | compression | headerPrepend =>
    simpa [afterFailure, Spared, hrefuses] using hadded
  | cryptoQueue | missingEngine =>
    simpa [afterFailure, Spared, hrefuses] using hcounted true (by simp) e.tasks
  | engine => simp [afterFailure, Spared, hrefuses]

lemma initial_consistent (cfg : TxConfig) (desiredBufferSize : Nat) :
    Consistent ({ desiredBufferSize } : TxEntity cfg) :=
  ⟨le_rfl, nofun, by simp [windowBytes, empty], rfl, rfl⟩

/-- The first SDU of a bearer finds the queue of the crypto workers full. -/
theorem droppedTask_consistent : ∃ after ∈ afterFailure
    ({ desiredBufferSize := 1000 } : TxEntity amDrb) [1] [1] .cryptoQueue, Consistent after :=
  (consistent_afterFailure_iff (initial_consistent _ _) [1] [1] .cryptoQueue).mpr (.inr rfl)

/-- The headers of the first SDU are not compressed, and the engine fails on it. -/
theorem firstSdu_not_consistent :
    (¬∃ after ∈ afterFailure ({ desiredBufferSize := 1000 } : TxEntity amDrb) [1] [1] .compression,
        Consistent after) ∧
      (afterFailure ({ desiredBufferSize := 1000 } : TxEntity amDrb) [1] [1] .engine).isNone := by
  refine ⟨?_, rfl⟩
  rintro ⟨after, hafter, hcons⟩
  obtain rfl := Option.some.inj hafter
  exact added_not_consistent
    (e := { desiredBufferSize := 1000, discardDeadline := some 10 }) [1] hcons

end ProtoRu.PdcpTx
