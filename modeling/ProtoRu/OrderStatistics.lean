import Mathlib.Data.List.Sort

namespace ProtoRu.OrderStatistics

open List

variable {α : Type} [LinearOrder α] {l : List α} {i : Nat} {m v : α}

/-- The element at a place of a list's sorted order, told by counting alone. -/
structure IsRank (l : List α) (i : Nat) (m : α) : Prop where
  below : l.countP (· < m) ≤ i
  above : i < l.countP (· ≤ m)

lemma isRank_of_sorted (hsorted : l.Pairwise (· ≤ ·)) (h : l[i]? = some m) : IsRank l i m := by
  induction l generalizing i with
  | nil => cases h
  | cons a l ih =>
    obtain ⟨hle, hrest⟩ := pairwise_cons.mp hsorted
    cases i with
    | zero =>
      obtain rfl : a = m := Option.some.inj h
      refine ⟨?_, by simp⟩
      simpa using hle
    | succ i =>
      obtain ⟨hbelow, habove⟩ := ih hrest h
      have ham : a ≤ m := hle m (mem_of_getElem? h)
      constructor
      · rw [countP_cons]
        split <;> omega
      · rw [countP_cons_of_pos (by simpa using ham)]
        exact Nat.succ_lt_succ habove

lemma insertionSort_isRank (h : (l.insertionSort (· ≤ ·))[i]? = some m) : IsRank l i m := by
  obtain ⟨hbelow, habove⟩ := isRank_of_sorted (pairwise_insertionSort (· ≤ ·) l) h
  rw [(perm_insertionSort (· ≤ ·) l).countP_eq] at hbelow habove
  exact ⟨hbelow, habove⟩

lemma IsRank.eq_of_count (h : IsRank l i m) (hlow : i < l.count v)
    (hhigh : l.length ≤ i + l.count v) : m = v := by
  obtain hlt | rfl | hgt := lt_trichotomy v m
  · have hcount : l.count v ≤ l.countP (· < m) :=
      countP_mono_left fun a _ ha => by simpa [beq_iff_eq.mp ha] using hlt
    have := h.below
    omega
  · rfl
  · have hcount : l.count v ≤ l.countP (fun a => ¬ decide (a ≤ m)) :=
      countP_mono_left fun _ _ ha => by simpa [beq_iff_eq.mp ha] using hgt
    have hlen := l.length_eq_countP_add_countP (· ≤ m)
    have := h.above
    omega

end ProtoRu.OrderStatistics
