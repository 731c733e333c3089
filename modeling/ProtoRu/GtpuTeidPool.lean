import Mathlib.Data.Finset.Card
import Mathlib.Data.Finset.Insert
import Mathlib.Tactic.Ring

/-!
The pool of local TEIDs of the GTP-U. A free one is searched round robin from the one after
the latest. The rounds and the index of the search are counted in 16 bits, so that in a pool
of more TEIDs only the first 65536 of them are ever given out, and the search for another one
does not end.
-/

namespace ProtoRu.Gtpu

open Finset Nat

def gtpuTeidMin : Nat := 1

structure TeidPool where
  maxNofTeids : Nat
  teidPool : Nat → Bool
  nextTeidIdx : Nat
  nofTeids : Nat

namespace TeidPool

def create (maxNofTeids : UInt32) : TeidPool where
  maxNofTeids := maxNofTeids.toNat
  teidPool := fun _ => false
  nextTeidIdx := 0
  nofTeids := 0

variable (p : TeidPool)

def full : Bool := p.maxNofTeids ≤ p.nofTeids

def setUsed (idx : Nat) (used : Bool) : Nat → Bool :=
  fun other => if other = idx then used else p.teidPool other

def tmpIdx (n : Nat) : Nat := (p.nextTeidIdx + n) % 2 ^ 32 % p.maxNofTeids % 2 ^ 16

def findFree : Nat → Nat → Option (Option Nat)
  | 0, _ => none
  | rounds + 1, n =>
    if n < p.maxNofTeids then
      if p.teidPool (p.tmpIdx n) then findFree rounds ((n + 1) % 2 ^ 16)
      else some (some (p.tmpIdx n))
    else some none

def take (idx : Nat) : TeidPool :=
  { p with
    teidPool := p.setUsed idx true
    nextTeidIdx := (idx + 1) % p.maxNofTeids
    nofTeids := (p.nofTeids + 1) % 2 ^ 32 }

def requestTeid (rounds : Nat) : Option (TeidPool × Option Nat) :=
  if p.full then some (p, none)
  else
    (p.findFree rounds 0).map fun
      | none => (p, none)
      | some idx => (p.take idx, some ((idx + gtpuTeidMin) % 2 ^ 32))

/-- A TEID outside of the pool is an access out of bounds. -/
def releaseTeid (teid : UInt32) : Option (TeidPool × Bool) :=
  let teidIdx := (teid - UInt32.ofNat gtpuTeidMin).toNat
  if p.maxNofTeids ≤ teidIdx then none
  else if p.teidPool teidIdx then
    some ({ p with
      teidPool := p.setUsed teidIdx false
      nofTeids := (p.nofTeids + (2 ^ 32 - 1)) % 2 ^ 32 }, true)
  else some (p, false)

def Requested (result : TeidPool × Option Nat) : Prop :=
  ∃ rounds, p.requestTeid rounds = some result

end TeidPool

/-- A pool after requests and releases, with the TEIDs that have been given out and not
released since. -/
inductive Reachable (maxNofTeids : UInt32) : TeidPool → Finset Nat → Prop where
  | create : Reachable maxNofTeids (.create maxNofTeids) ∅
  | requested {p q : TeidPool} {used : Finset Nat} {teid : Nat} :
      Reachable maxNofTeids p used → p.Requested (q, some teid) →
        Reachable maxNofTeids q (insert teid used)
  | refused {p q : TeidPool} {used : Finset Nat} :
      Reachable maxNofTeids p used → p.Requested (q, none) → Reachable maxNofTeids q used
  | released {p q : TeidPool} {used : Finset Nat} {teid : UInt32} :
      Reachable maxNofTeids p used → p.releaseTeid teid = some (q, true) →
        Reachable maxNofTeids q (used.erase teid.toNat)
  | notReleased {p q : TeidPool} {used : Finset Nat} {teid : UInt32} :
      Reachable maxNofTeids p used → p.releaseTeid teid = some (q, false) →
        Reachable maxNofTeids q used

/-- Every request ends, succeeds exactly if TEIDs are left, and gives one that is not in
use. -/
def Allocates (maxNofTeids : UInt32) : Prop :=
  ∀ p used, Reachable maxNofTeids p used → (∃ result, p.Requested result) ∧
      ∀ q result, p.Requested (q, result) →
        (result.isSome ↔ used.card < maxNofTeids.toNat) ∧ ∀ teid ∈ result, teid ∉ used

open TeidPool

variable {idx : Nat} {result : TeidPool × Option Nat}

section

variable {p : TeidPool}

lemma findFree_of_free (hmax : p.maxNofTeids ≤ 2 ^ 16) {n ahead : Nat}
    (hlt : n + ahead < p.maxNofTeids) (hfree : p.teidPool (p.tmpIdx (n + ahead)) = false) :
    ∃ i < p.maxNofTeids, p.teidPool (p.tmpIdx i) = false ∧
      p.findFree (ahead + 1) n = some (some (p.tmpIdx i)) := by
  induction ahead generalizing n with
  | zero =>
    rw [add_zero] at hlt hfree
    refine ⟨n, hlt, hfree, ?_⟩
    rw [findFree, if_pos hlt, hfree]
    rfl
  | succ ahead ih =>
    rw [findFree, if_pos (by omega)]
    split_ifs with hfirst
    · have hwrap : (n + 1) % 2 ^ 16 = n + 1 := mod_eq_of_lt (by omega)
      rw [hwrap]
      have hshift : n + 1 + ahead = n + (ahead + 1) := by omega
      exact ih (by omega) (by rw [hshift]; exact hfree)
    · exact ⟨n, by omega, by simpa using hfirst, rfl⟩

lemma exists_tmpIdx_eq (hmax : p.maxNofTeids ≤ 2 ^ 16) (hnext : p.nextTeidIdx < p.maxNofTeids)
    (hidx : idx < p.maxNofTeids) : ∃ n < p.maxNofTeids, p.tmpIdx n = idx := by
  obtain hgt | hle := lt_or_ge idx p.nextTeidIdx
  · refine ⟨idx + p.maxNofTeids - p.nextTeidIdx, by omega, ?_⟩
    have hsum : p.nextTeidIdx + (idx + p.maxNofTeids - p.nextTeidIdx) = idx + p.maxNofTeids := by
      omega
    rw [tmpIdx, hsum, mod_eq_of_lt (b := 2 ^ 32) (by omega), add_mod_right,
      mod_eq_of_lt hidx, mod_eq_of_lt (by omega)]
  · refine ⟨idx - p.nextTeidIdx, by omega, ?_⟩
    have hsum : p.nextTeidIdx + (idx - p.nextTeidIdx) = idx := by omega
    rw [tmpIdx, hsum, mod_eq_of_lt (b := 2 ^ 32) (by omega), mod_eq_of_lt hidx,
      mod_eq_of_lt (by omega)]

lemma tmpIdx_lt (hpos : 0 < p.maxNofTeids) (n : Nat) : p.tmpIdx n < p.maxNofTeids :=
  (mod_le _ _).trans_lt (mod_lt _ hpos)

lemma findFree_eq_none (hmax : 2 ^ 16 ≤ p.maxNofTeids)
    (hused : ∀ idx < 2 ^ 16, p.teidPool idx = true) (rounds : Nat) {n : Nat} (hn : n < 2 ^ 16) :
    p.findFree rounds n = none := by
  induction rounds generalizing n with
  | zero => rfl
  | succ rounds ih =>
    have hround : p.teidPool (p.tmpIdx n) = true := hused _ (mod_lt _ (by decide))
    rw [findFree, if_pos (by omega), if_pos hround]
    exact ih (mod_lt _ (by decide))

lemma findFree_free {rounds n idx : Nat} (h : p.findFree rounds n = some (some idx)) :
    p.teidPool idx = false ∧ ∃ i, idx = p.tmpIdx i := by
  induction rounds generalizing n with
  | zero => cases h
  | succ rounds ih =>
    rw [findFree] at h
    split at h
    · split_ifs at h with hfree
      · exact ih h
      · cases h
        exact ⟨by simpa using hfree, n, rfl⟩
    · cases h

lemma findFree_used (hmax : p.maxNofTeids ≤ 2 ^ 16) {rounds n i : Nat}
    (h : p.findFree rounds n = some none) (hle : n ≤ i) (hlt : i < p.maxNofTeids) :
    p.teidPool (p.tmpIdx i) = true := by
  induction rounds generalizing n with
  | zero => cases h
  | succ rounds ih =>
    rw [findFree, if_pos (by omega)] at h
    split_ifs at h with hused
    · obtain rfl | hne := eq_or_lt_of_le hle
      · exact hused
      · rw [mod_eq_of_lt (by omega)] at h
        exact ih h hne
    · cases h

lemma requested_cases (h : p.Requested result) : p.full ∧ result = (p, none) ∨
      (∃ idx, p.teidPool idx = false ∧ (∃ n, idx = p.tmpIdx n) ∧ ¬ p.full ∧
        result = (p.take idx, some ((idx + gtpuTeidMin) % 2 ^ 32))) ∨
      (∃ rounds, p.findFree rounds 0 = some none) ∧ ¬ p.full ∧ result = (p, none) := by
  obtain ⟨rounds, h⟩ := h
  rw [requestTeid] at h
  split_ifs at h with hfull
  · cases h
    exact .inl ⟨hfull, rfl⟩
  obtain ⟨found, hfound, rfl⟩ := Option.map_eq_some_iff.mp h
  cases found with
  | none => exact .inr (.inr ⟨⟨rounds, hfound⟩, hfull, rfl⟩)
  | some idx =>
    obtain ⟨hfree, hidx⟩ := findFree_free hfound
    exact .inr (.inl ⟨idx, hfree, hidx, hfull, rfl⟩)

end

section

structure Invariant (maxNofTeids : Nat) (p : TeidPool) (used : Finset Nat) : Prop where
  max : p.maxNofTeids = maxNofTeids
  next : 0 < maxNofTeids → p.nextTeidIdx < maxNofTeids
  mem : ∀ teid, teid ∈ used ↔ ∃ idx < maxNofTeids, p.teidPool idx = true ∧ teid = idx + gtpuTeidMin
  count : p.nofTeids = used.card

variable {maxNofTeids : Nat} {p q : TeidPool} {used : Finset Nat}

lemma Invariant.mem_iff (h : Invariant maxNofTeids p used) (hidx : idx < maxNofTeids) :
    idx + gtpuTeidMin ∈ used ↔ p.teidPool idx = true := by
  rw [h.mem]
  constructor
  · rintro ⟨other, -, hused, hsame⟩
    obtain rfl : idx = other := Nat.add_right_cancel hsame
    exact hused
  · intro hused
    exact ⟨idx, hidx, hused, rfl⟩

lemma card_teids : ((range maxNofTeids).image (· + gtpuTeidMin)).card = maxNofTeids := by
  rw [card_image_of_injective _ (fun _ _ => Nat.add_right_cancel), card_range]

section

variable (h : Invariant maxNofTeids p used)

include h

lemma Invariant.card_le : used.card ≤ maxNofTeids := by
  have hsub : used ⊆ (range maxNofTeids).image (· + gtpuTeidMin) := by
    intro teid hteid
    obtain ⟨idx, hidx, -, rfl⟩ := (h.mem teid).mp hteid
    exact mem_image_of_mem _ (mem_range.mpr hidx)
  calc used.card
    _ ≤ ((range maxNofTeids).image (· + gtpuTeidMin)).card := card_le_card hsub
    _ = maxNofTeids := card_teids

lemma Invariant.full_iff : p.full ↔ maxNofTeids ≤ used.card := by
  rw [full, h.max, h.count, decide_eq_true_eq]

lemma Invariant.exists_free (hfull : ¬ p.full) : ∃ idx < maxNofTeids, p.teidPool idx = false := by
  by_contra hnone
  push Not at hnone
  apply hfull
  rw [h.full_iff]
  calc maxNofTeids
    _ = ((range maxNofTeids).image (· + gtpuTeidMin)).card := card_teids.symm
    _ ≤ used.card := by
        apply card_le_card
        intro teid hteid
        obtain ⟨idx, hidx, rfl⟩ := mem_image.mp hteid
        have hlt := mem_range.mp hidx
        exact (h.mem_iff hlt).mpr (by simpa using hnone idx hlt)

variable (hmax : maxNofTeids ≤ 2 ^ 16)

include hmax

lemma Invariant.take (hidx : idx < maxNofTeids) (hfree : p.teidPool idx = false) :
    Invariant maxNofTeids (p.take idx) (insert (idx + gtpuTeidMin) used) where
  max := h.max
  next hpos := by
    rw [TeidPool.take, h.max]
    exact mod_lt _ hpos
  mem teid := by
    rw [mem_insert, h.mem]
    simp only [TeidPool.take, setUsed]
    constructor
    · rintro (rfl | ⟨other, hother, hused, rfl⟩)
      · exact ⟨idx, hidx, if_pos rfl, rfl⟩
      · refine ⟨other, hother, ?_, rfl⟩
        rw [hused, ite_self]
    · rintro ⟨other, hother, hused, rfl⟩
      split_ifs at hused with hsame
      · exact .inl (by rw [hsame])
      · exact .inr ⟨other, hother, hused, rfl⟩
  count := by
    have hnew : idx + gtpuTeidMin ∉ used := by
      rw [h.mem_iff hidx, hfree]
      exact Bool.false_ne_true
    have hle := h.card_le
    rw [card_insert_of_notMem hnew, TeidPool.take, h.count]
    exact mod_eq_of_lt (by omega)

lemma Invariant.release {teid : UInt32} {done : Bool}
    (hrels : p.releaseTeid teid = some (q, done)) :
    Invariant maxNofTeids q (if done then used.erase teid.toNat else used) := by
  rw [releaseTeid] at hrels
  split at hrels
  · cases hrels
  rename_i hin
  rw [h.max, not_le] at hin
  have hteid : teid.toNat = (teid - UInt32.ofNat gtpuTeidMin).toNat + gtpuTeidMin := by
    have hone : (UInt32.ofNat gtpuTeidMin).toNat = 1 := rfl
    have hlt := teid.toNat_lt
    rw [UInt32.toNat_sub, hone] at hin ⊢
    rw [gtpuTeidMin]
    omega
  split_ifs at hrels with hused
  · cases hrels
    have hmem := (h.mem_iff hin).mpr hused
    rw [if_pos rfl, hteid]
    refine ⟨h.max, h.next, ?_, ?_⟩
    · intro other
      rw [mem_erase, h.mem]
      simp only [setUsed]
      constructor
      · rintro ⟨hne, held, hheld, hstill, rfl⟩
        refine ⟨held, hheld, ?_, rfl⟩
        rwa [if_neg (fun hsame => hne (by rw [hsame]))]
      · rintro ⟨held, hheld, hstill, rfl⟩
        split at hstill
        · cases hstill
        · rename_i hne
          exact ⟨fun hsame => hne (Nat.add_right_cancel hsame), held, hheld, hstill, rfl⟩
    · have hpos := card_pos.mpr ⟨_, hmem⟩
      have hle := h.card_le
      rw [card_erase_of_mem hmem]
      simp only [h.count]
      omega
  · cases hrels
    exact h

lemma Invariant.requested_cases (hreqd : p.Requested result) :
    maxNofTeids ≤ used.card ∧ result = (p, none) ∨
      used.card < maxNofTeids ∧ ∃ idx < maxNofTeids, p.teidPool idx = false ∧
        result = (p.take idx, some (idx + gtpuTeidMin)) := by
  obtain ⟨hfull, hresl⟩ | ⟨idx, hfree, ⟨n, rfl⟩, hfull, hresl⟩ | ⟨⟨rounds, hnone⟩, hfull, -⟩ :=
    Gtpu.requested_cases hreqd
  · exact .inl ⟨h.full_iff.mp hfull, hresl⟩
  · rw [h.full_iff, not_le] at hfull
    have hlt : p.tmpIdx n < maxNofTeids := by
      rw [← h.max]
      apply tmpIdx_lt
      rw [h.max]
      omega
    refine .inr ⟨hfull, p.tmpIdx n, hlt, hfree, ?_⟩
    rw [hresl, mod_eq_of_lt (by rw [gtpuTeidMin]; omega)]
  · obtain ⟨idx, hidx, hfree⟩ := h.exists_free hfull
    obtain ⟨n, hn, rfl⟩ := exists_tmpIdx_eq (by rw [h.max]; exact hmax)
      (by rw [h.max]; exact h.next (by omega)) (by rw [h.max]; exact hidx)
    have hused := findFree_used (by rw [h.max]; exact hmax) hnone (zero_le n) hn
    rw [hfree] at hused
    cases hused

end

lemma Reachable.invariant {maxNofTeids : UInt32} (hmax : maxNofTeids.toNat ≤ 2 ^ 16)
    (h : Reachable maxNofTeids p used) : Invariant maxNofTeids.toNat p used := by
  induction h with
  | create =>
    refine ⟨rfl, id, fun teid => ?_, rfl⟩
    simp [TeidPool.create]
  | requested hreachable hreqd ih =>
    obtain ⟨-, hresl⟩ | ⟨-, idx, hidx, hfree, hresl⟩ := ih.requested_cases hmax hreqd
    · cases hresl
    · cases hresl
      exact ih.take hmax hidx hfree
  | refused hreachable hreqd ih =>
    obtain ⟨-, hresl⟩ | ⟨-, idx, hidx, hfree, hresl⟩ := ih.requested_cases hmax hreqd
    · cases hresl
      exact ih
    · cases hresl
  | released hreachable hrels ih | notReleased hreachable hrels ih => exact ih.release hmax hrels

lemma Invariant.exists_requested (h : Invariant maxNofTeids p used)
    (hmax : maxNofTeids ≤ 2 ^ 16) : ∃ result, p.Requested result := by
  by_cases hfull : p.full
  · exact ⟨(p, none), 0, by rw [requestTeid, if_pos hfull]⟩
  obtain ⟨idx, hidx, hfree⟩ := h.exists_free hfull
  obtain ⟨n, hn, rfl⟩ := exists_tmpIdx_eq (by rw [h.max]; exact hmax)
    (by rw [h.max]; exact h.next (by omega)) (by rw [h.max]; exact hidx)
  obtain ⟨i, -, -, hfound⟩ := findFree_of_free (n := 0) (by rw [h.max]; exact hmax)
    (by rw [zero_add]; exact hn) (by rw [zero_add]; exact hfree)
  refine ⟨(p.take (p.tmpIdx i), some ((p.tmpIdx i + gtpuTeidMin) % 2 ^ 32)), n + 1, ?_⟩
  rw [requestTeid, if_neg hfull, hfound]
  rfl

lemma allocates_of_le {maxNofTeids : UInt32} (hmax : maxNofTeids.toNat ≤ 2 ^ 16) :
    Allocates maxNofTeids := by
  intro p used hreachable
  have h := hreachable.invariant hmax
  refine ⟨h.exists_requested hmax, ?_⟩
  intro q result hreqd
  obtain ⟨hfull, hresl⟩ | ⟨hroom, idx, hidx, hfree, hresl⟩ := h.requested_cases hmax hreqd
  · cases hresl
    exact ⟨by simpa using hfull, nofun⟩
  cases hresl
  refine ⟨by simpa using hroom, ?_⟩
  rintro teid ⟨⟩
  rw [h.mem_iff hidx, hfree]
  exact Bool.false_ne_true

end

section

def firstUsed (maxNofTeids : UInt32) (count : Nat) : TeidPool where
  maxNofTeids := maxNofTeids.toNat
  teidPool := fun idx => decide (idx < count)
  nextTeidIdx := count
  nofTeids := count

variable {maxNofTeids : UInt32} {count : Nat}

section

variable (hmax : 2 ^ 16 < maxNofTeids.toNat)

include hmax

lemma firstUsed_requested (hcount : count < 2 ^ 16) : (firstUsed maxNofTeids count).Requested
      (firstUsed maxNofTeids (count + 1), some (count + gtpuTeidMin)) := by
  have hidx : (firstUsed maxNofTeids count).tmpIdx 0 = count := by
    rw [tmpIdx]
    simp only [firstUsed, add_zero]
    rw [mod_eq_of_lt (b := 2 ^ 32) (by omega),
      mod_eq_of_lt (b := maxNofTeids.toNat) (by omega), mod_eq_of_lt hcount]
  have hfound : (firstUsed maxNofTeids count).findFree 1 0 = some (some count) := by
    have hlt : 0 < (firstUsed maxNofTeids count).maxNofTeids := zero_lt_of_lt hmax
    rw [findFree, if_pos hlt, hidx]
    simp [firstUsed]
  have hroom : ¬ (firstUsed maxNofTeids count).full := by
    rw [full, decide_eq_true_eq]
    simp only [firstUsed]
    omega
  refine ⟨1, ?_⟩
  rw [requestTeid, if_neg hroom, hfound, Option.map_some]
  simp only
  rw [mod_eq_of_lt (by rw [gtpuTeidMin]; omega)]
  congr 2
  rw [TeidPool.take, firstUsed, firstUsed]
  simp only [TeidPool.mk.injEq, true_and]
  refine ⟨?_, mod_eq_of_lt (by omega), mod_eq_of_lt (by omega)⟩
  funext idx
  simp only [setUsed]
  split_ifs with hsame
  · simp [hsame]
  · congr 1
    apply propext
    omega

lemma firstUsed_reachable (hcount : count ≤ 2 ^ 16) :
    Reachable maxNofTeids (firstUsed maxNofTeids count)
      ((range count).image (· + gtpuTeidMin)) := by
  induction count with
  | zero =>
    exact .create
  | succ count ih =>
    rw [range_add_one, image_insert]
    exact .requested (ih (le_of_lt hcount)) (firstUsed_requested hmax hcount)

lemma firstUsed_not_requested (result : TeidPool × Option Nat) :
    ¬ (firstUsed maxNofTeids (2 ^ 16)).Requested result := by
  rintro ⟨rounds, h⟩
  have hroom : ¬ (firstUsed maxNofTeids (2 ^ 16)).full := by
    rw [full, decide_eq_true_eq]
    exact not_le.mpr hmax
  have hnone : (firstUsed maxNofTeids (2 ^ 16)).findFree rounds 0 = none :=
    findFree_eq_none (le_of_lt hmax) (fun _ hidx => decide_eq_true hidx) rounds (by decide)
  rw [requestTeid, if_neg hroom, hnone] at h
  cases h

end

end

/-- Requests end, and succeed exactly while TEIDs are left, in the pools of at most 65536
TEIDs. -/
theorem allocates_iff (maxNofTeids : UInt32) :
    Allocates maxNofTeids ↔ maxNofTeids.toNat ≤ 2 ^ 16 := by
  refine ⟨fun h => ?_, allocates_of_le⟩
  by_contra hmax
  rw [not_le] at hmax
  obtain ⟨⟨result, hrequested⟩, -⟩ := h _ _ (firstUsed_reachable hmax le_rfl)
  exact firstUsed_not_requested hmax result hrequested

def maxNofPduSessions : UInt32 := 256

def cuUpMaxNofTeids (maxNofUes : UInt32) : UInt32 := maxNofUes * maxNofPduSessions

/-- The request after 65536 TEIDs does not end, although more than four million are free. -/
theorem default_request_hangs :
    (∃ p used, Reachable (cuUpMaxNofTeids 16384) p used ∧ used.card = 65536 ∧
      (cuUpMaxNofTeids 16384).toNat = 4194304 ∧ ∀ result, ¬ p.Requested result) ∧
    ¬ Allocates (cuUpMaxNofTeids 16384) := by
  have hmax : 2 ^ 16 < (cuUpMaxNofTeids 16384).toNat := by decide
  have hreachable := firstUsed_reachable hmax (le_refl (2 ^ 16))
  refine ⟨⟨_, _, hreachable, card_teids, by decide, firstUsed_not_requested hmax⟩, ?_⟩
  intro h
  obtain ⟨⟨result, hrequested⟩, -⟩ := h _ _ hreachable
  exact firstUsed_not_requested hmax result hrequested

end ProtoRu.Gtpu
