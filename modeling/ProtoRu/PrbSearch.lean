import Mathlib.Order.Monotone.Basic
import Mathlib.Tactic.Ring

namespace ProtoRu.PrbSearch

/-- The transport block size in bytes of each number of PRBs, which fits into 32 bits in bits. -/
structure TransportBlockSizes where
  bytes : Nat → Nat
  monotone : Monotone bytes
  bits_lt : ∀ nPrb, bytes nPrb * 8 < 2 ^ 32

structure SchPrbsTbs where
  nofPrbs : Nat
  tbsBytes : Nat

def TransportBlockSizes.calculate (sizes : TransportBlockSizes) (nPrb : Nat) : Nat :=
  sizes.bytes nPrb * 8

/-- One byte more for each PRB. -/
def byteForEachPrb : TransportBlockSizes :=
  ⟨fun nPrb => min nPrb 275, fun _ _ h => min_le_min_right 275 h, fun nPrb => by omega⟩

section

variable {sizes : TransportBlockSizes}

lemma calculate_mono {n m : Nat} (h : n ≤ m) : sizes.calculate n ≤ sizes.calculate m :=
  Nat.mul_le_mul_right 8 (sizes.monotone h)

lemma calculate_div {nPrb : Nat} : sizes.calculate nPrb / 8 = sizes.bytes nPrb :=
  Nat.mul_div_cancel _ (by decide)

end

/-- The arguments of the search, with the sizes in place of the configuration they come from. -/
structure Search where
  sizes : TransportBlockSizes
  payloadSizeBytes : Nat
  nofPrbsEstimate : Nat
  maxNofAvailableRbs : Nat
  maxPrbIncIterations : Nat := 5

namespace Search

variable (s : Search)

def payloadSizeBits : Nat := s.payloadSizeBytes * 8 % 2 ^ 32

/-- The second loop, with the number of increments still allowed. -/
def increase : (rounds nofPrbInc nPrb tbsBitsUb : Nat) → SchPrbsTbs
  | 0, _, nPrb, tbsBitsUb => ⟨nPrb, tbsBitsUb / 8⟩
  | rounds + 1, nofPrbInc, nPrb, tbsBitsUb =>
    if tbsBitsUb < s.payloadSizeBits ∧ nPrb < s.maxNofAvailableRbs then
      increase rounds (nofPrbInc + 1) (s.nofPrbsEstimate + nofPrbInc)
        (s.sizes.calculate (s.nofPrbsEstimate + nofPrbInc))
    else ⟨nPrb, tbsBitsUb / 8⟩

/-- The first loop and then the second. The decrement stays below the estimate, which bounds the
rounds. -/
def decrease : (rounds nofPrbDec nPrb tbsBitsUb : Nat) → SchPrbsTbs
  | 0, _, nPrb, tbsBitsUb => s.increase (s.maxPrbIncIterations - 1) 1 nPrb tbsBitsUb
  | rounds + 1, nofPrbDec, nPrb, tbsBitsUb =>
    -- the lower bound a round starts with is the upper bound of the round before
    if nofPrbDec < nPrb ∧ s.payloadSizeBits ≤ tbsBitsUb then
      let tbsBitsLb := s.sizes.calculate (s.nofPrbsEstimate - nofPrbDec)
      if tbsBitsLb < s.payloadSizeBits then ⟨s.nofPrbsEstimate - nofPrbDec + 1, tbsBitsUb / 8⟩
      else decrease rounds (nofPrbDec + 1) (s.nofPrbsEstimate - nofPrbDec) tbsBitsLb
    else s.increase (s.maxPrbIncIterations - 1) 1 nPrb tbsBitsUb

def linearSearchNofPrbsUpperBound : SchPrbsTbs :=
  s.decrease s.nofPrbsEstimate 1 s.nofPrbsEstimate (s.sizes.calculate s.nofPrbsEstimate)

/-- What holds of a result: the first loop stops half way down to one PRB at the latest. -/
structure Found (result : SchPrbsTbs) : Prop where
  le : result.nofPrbs ≤ s.maxNofAvailableRbs
  size : result.tbsBytes = s.sizes.bytes result.nofPrbs
  half : (s.nofPrbsEstimate + 1) / 2 ≤ result.nofPrbs
  stop : result.nofPrbs = (s.nofPrbsEstimate + 1) / 2 ∨
    s.sizes.calculate (result.nofPrbs - 1) < s.payloadSizeBits

variable {s} {rounds inc dec nPrb ub : Nat}

lemma increase_of_le (h : s.payloadSizeBits ≤ ub) :
    s.increase rounds inc nPrb ub = ⟨nPrb, ub / 8⟩ := by
  cases rounds with
  | zero => rfl
  | succ rounds => exact if_neg fun hcond => absurd hcond.1 (Nat.not_lt.mpr h)

lemma increase_found (hsum : nPrb + 1 = s.nofPrbsEstimate + inc)
    (h : s.Found ⟨nPrb, s.sizes.bytes nPrb⟩) :
    s.Found (s.increase rounds inc nPrb (s.sizes.calculate nPrb)) := by
  induction rounds generalizing inc nPrb with
  | zero => rwa [increase, calculate_div]
  | succ rounds ih =>
    rw [increase]
    split_ifs with hcond
    · rw [← hsum]
      exact ih (by omega) ⟨hcond.2, rfl, Nat.le_succ_of_le h.half, .inr hcond.1⟩
    · rwa [calculate_div]

lemma decrease_of_lt (h : ub < s.payloadSizeBits) :
    s.decrease rounds dec nPrb ub = s.increase (s.maxPrbIncIterations - 1) 1 nPrb ub := by
  cases rounds with
  | zero => rfl
  | succ rounds => exact if_neg fun hcond => absurd hcond.2 (Nat.not_le.mpr h)

variable (hle : s.nofPrbsEstimate ≤ s.maxNofAvailableRbs)
include hle

section

variable (hsum : nPrb + dec = s.nofPrbsEstimate + 1) (hdec : dec ≤ nPrb + 1)

include hsum hdec

/-- A decrement that has reached the number of PRBs has taken half of the estimate away. -/
lemma found_half (hge : nPrb ≤ dec) : s.Found ⟨nPrb, s.sizes.calculate nPrb / 8⟩ := by
  have hhalf : nPrb = (s.nofPrbsEstimate + 1) / 2 := by omega
  exact ⟨(by omega : nPrb ≤ s.nofPrbsEstimate).trans hle, calculate_div, hhalf.ge, .inl hhalf⟩

lemma decrease_found (hrounds : s.nofPrbsEstimate < rounds + dec) (hpos : 0 < dec)
    (hub : s.payloadSizeBits ≤ s.sizes.calculate nPrb) :
    s.Found (s.decrease rounds dec nPrb (s.sizes.calculate nPrb)) := by
  induction rounds generalizing dec nPrb with
  | zero =>
    rw [decrease, increase_of_le hub]
    exact found_half hle hsum hdec (by omega)
  | succ rounds ih =>
    have hsub : s.nofPrbsEstimate - dec = nPrb - 1 := by omega
    simp only [decrease, hsub]
    split_ifs with hcond hlb
    · rw [Nat.sub_add_cancel (Nat.zero_lt_of_lt hcond.1)]
      exact ⟨(by omega : nPrb ≤ s.nofPrbsEstimate).trans hle, calculate_div,
        (by omega : (s.nofPrbsEstimate + 1) / 2 ≤ nPrb), .inr hlb⟩
    · exact ih (by omega) (by omega) (by omega) (by omega) (Nat.not_lt.mp hlb)
    · rw [increase_of_le hub]
      exact found_half hle hsum hdec (by omega)

end

lemma linearSearch_found : s.Found s.linearSearchNofPrbsUpperBound := by
  rw [linearSearchNofPrbsUpperBound]
  obtain hlt | hge := Nat.lt_or_ge (s.sizes.calculate s.nofPrbsEstimate) s.payloadSizeBits
  · rw [decrease_of_lt hlt]
    have hhalf : (s.nofPrbsEstimate + 1) / 2 ≤ s.nofPrbsEstimate := by omega
    exact increase_found rfl
      ⟨hle, rfl, hhalf, .inr ((calculate_mono (Nat.sub_le _ _)).trans_lt hlt)⟩
  · exact decrease_found hle rfl (by omega) (by omega) Nat.one_pos hge

omit hle

/-- What the search is for: the least number of PRBs that covers the payload, with its size. -/
structure LeastCovering (s : Search) (result : SchPrbsTbs) : Prop where
  le : result.nofPrbs ≤ s.maxNofAvailableRbs
  size : result.tbsBytes = s.sizes.bytes result.nofPrbs
  least : s.payloadSizeBytes ≤ result.tbsBytes →
    ∀ n, 0 < n → n < result.nofPrbs → s.sizes.bytes n < s.payloadSizeBytes

/-- The search finds the fewest PRBs exactly if fewer than half of the estimate never cover the
payload. -/
theorem linearSearch_leastCovering_iff (s : Search)
    (hle : s.nofPrbsEstimate ≤ s.maxNofAvailableRbs) :
    s.LeastCovering s.linearSearchNofPrbsUpperBound ↔ ∀ n, 0 < n →
      n < (s.nofPrbsEstimate + 1) / 2 → s.sizes.bytes n < s.payloadSizeBytes := by
  obtain ⟨hr, hsize, hhalf, hstop⟩ := linearSearch_found hle
  constructor
  · intro h n hn hlt
    by_contra hcovers
    have hmono := s.sizes.monotone (Nat.le_of_lt (hlt.trans_le hhalf))
    exact hcovers (h.least (by omega) n hn (hlt.trans_le hhalf))
  · intro h
    refine ⟨hr, hsize, fun hcovers n hn hlt => ?_⟩
    obtain heq | hstop := hstop
    · exact h n hn (heq ▸ hlt)
    · -- a payload that is covered is not changed by the conversion to bits
      have hbits := s.sizes.bits_lt s.linearSearchNofPrbsUpperBound.nofPrbs
      have hmono := s.sizes.monotone (Nat.le_sub_one_of_lt hlt)
      rw [payloadSizeBits, Nat.mod_eq_of_lt (by omega), TransportBlockSizes.calculate] at hstop
      omega

theorem fourPrbs_for_sevenEstimated :
    LeastCovering ⟨byteForEachPrb, 4, 7, 52, 5⟩
      (linearSearchNofPrbsUpperBound ⟨byteForEachPrb, 4, 7, 52, 5⟩) :=
  (linearSearch_leastCovering_iff _ (by decide)).mpr fun n _ hlt =>
    (min_le_left n 275).trans_lt hlt

/-- Estimated at three PRBs, a payload that one PRB covers is given two. -/
theorem twoPrbs_for_threeEstimated :
    ¬ ∀ s : Search, 0 < s.nofPrbsEstimate → s.nofPrbsEstimate ≤ s.maxNofAvailableRbs →
      s.LeastCovering s.linearSearchNofPrbsUpperBound := by
  intro h
  obtain ⟨-, -, hleast⟩ := h ⟨byteForEachPrb, 1, 3, 52, 5⟩ (by decide) (by decide)
  exact absurd (hleast (by decide) 1 (by decide) (by decide)) (by decide)

end Search

end ProtoRu.PrbSearch
