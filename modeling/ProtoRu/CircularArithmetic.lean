import Mathlib.Data.Int.ModEq
import Mathlib.Data.Nat.ModEq
import Mathlib.Tactic.Linarith

/-!
Counters that wrap around. A counter with period `n` holds a residue in
`[0, n)`; jumping it by a signed amount uses a remainder that truncates
towards zero and repairs a negative result afterwards.
-/

namespace ProtoRu

open Int Nat

/-- Reduce a signed value into `[0, n)` with a truncating remainder and one
conditional correction. -/
def truncWrap (n : Nat) (a : Int) : Nat :=
  (a.tmod n + if a.tmod n < 0 then (n : Int) else 0).toNat

variable {n m period length : Nat} {a b : Int}

lemma truncWrap_cast (hn : 0 < n) (a : Int) : (truncWrap n a : Int) = a % n := by
  have hpos : (0 : Int) < n := by exact_mod_cast hn
  have hvalue : a.tmod n + (if a.tmod n < 0 then (n : Int) else 0) = a % n := by
    rw [tmod_eq_emod]
    have hnonneg := emod_nonneg a hpos.ne'
    have hlt := emod_lt_of_pos a hpos
    by_cases hexact : 0 ≤ a ∨ (n : Int) ∣ a
    · rw [if_pos hexact]
      simp [not_lt.mpr hnonneg]
    · rw [if_neg hexact]
      omega
  rw [truncWrap, hvalue]
  exact toNat_of_nonneg (emod_nonneg a hpos.ne')

lemma eq_of_mod_eq_of_window {low a b : Nat} (ha : low ≤ a) (ha' : a < low + n) (hb : low ≤ b)
    (hb' : b < low + n) (h : a % n = b % n) : a = b := by
  have hmod : a ≡ b [MOD n] := h
  apply Nat.ModEq.eq_of_abs_lt hmod
  rw [abs_lt]
  omega

lemma exists_mod_eq_of_window (low : Nat) {i : Nat} (hi : i < n) :
    ∃ a, low ≤ a ∧ a < low + n ∧ a % n = i := by
  have hlow := mod_lt low (zero_lt_of_lt hi)
  have hdiff : low % n + (i + (n - low % n)) = i + n := by omega
  refine ⟨low + (i + (n - low % n)) % n, le_add_right _ _, ?_, ?_⟩
  · have := mod_lt (i + (n - low % n)) (zero_lt_of_lt hi)
    omega
  · rw [add_mod_mod, ← mod_add_mod, hdiff, add_mod_right, mod_eq_of_lt hi]

/-- A value has the same residue for a short and a long period exactly when it is not below zero.
-/
lemma emod_eq_emod_iff_nonneg (hn : 0 < n) (hnm : n ≤ m) {x : Int} (hhigh : x < n)
    (hlow : n ≤ x + m) : x % m = x % n ↔ 0 ≤ x := by
  constructor
  · intro h
    by_contra hneg
    have hwrapped : x % m = x + m := by
      rw [← add_emod_right, emod_eq_of_lt (by omega) (by omega)]
    have hlt : x % n < n := by
      apply emod_lt_of_pos
      omega
    omega
  · intro hnonneg
    rw [emod_eq_of_lt hnonneg (by omega), emod_eq_of_lt hnonneg hhigh]

lemma emod_sub_emod_cases {n : Int} {x y : Int} (hlow : -n < y - x) (hhigh : y - x < n) :
    y % n - x % n = y - x ∨ y % n - x % n = y - x + n ∨ y % n - x % n = y - x - n := by
  have hn : 0 < n := by omega
  have hx := emod_add_mul_ediv x n
  have hy := emod_add_mul_ediv y n
  have hxlow := emod_nonneg x hn.ne'
  have hylow := emod_nonneg y hn.ne'
  have hxhigh := emod_lt_of_pos x hn
  have hyhigh := emod_lt_of_pos y hn
  have hdiff : y - x = y % n - x % n + n * (y / n - x / n) := by
    rw [mul_sub]
    omega
  have hquot : y / n - x / n < 2 := by nlinarith
  have hquot' : -2 < y / n - x / n := by nlinarith
  obtain h | h | h : y / n - x / n = 0 ∨ y / n - x / n = -1 ∨ y / n - x / n = 1 := by omega
  all_goals
    rw [h] at hdiff
    omega

lemma truncWrap_cases {x : Nat} (hx : x < n) {jump : Int} (hjump : 2 * jump.natAbs < n) :
    ∃ y : Nat, truncWrap n (x + jump) = y ∧ y < n ∧
      ((y : Int) = x + jump ∨ (y : Int) = x + jump + n ∨ (y : Int) = x + jump - n) := by
  refine ⟨_, rfl, ?_⟩
  have hcases := @emod_sub_emod_cases n x (x + jump) (by omega) (by omega)
  have hlt := emod_lt_of_pos (x + jump) (show (0 : Int) < n by omega)
  rw [← truncWrap_cast (by omega)] at hcases hlt
  rw [emod_eq_of_lt (show (0 : Int) ≤ x by omega) (by omega)] at hcases
  omega

/-- The position `a` is among the `length` positions from `start` on, counted
modulo `period`. -/
def InWindow (period length : Nat) (start a : Int) : Prop := (a - start) % period < length
  deriving Decidable

lemma inWindow_self (hlen : 0 < length) (start : Int) : InWindow period length start start := by
  simpa [InWindow] using hlen

variable {start : Int}

lemma InWindow.congr (ha : InWindow period length start a) (h : b ≡ a [ZMOD period]) :
    InWindow period length start b := by
  have hoff : (b - start) % period = (a - start) % period := h.sub_right start
  simp only [InWindow] at ha ⊢
  omega

/-- A ring of `length` entries holds each position of a window in an entry of its
own. -/
lemma InWindow.modEq (hper : 0 < period) (hdvd : length ∣ period)
    (ha : InWindow period length start a) (hb : InWindow period length start b)
    (h : a ≡ b [ZMOD length]) : a ≡ b [ZMOD period] := by
  have hdvd' : (length : Int) ∣ period := natCast_dvd_natCast.mpr hdvd
  have hnonneg (x : Int) : 0 ≤ x % period := emod_nonneg x (by omega)
  have hshifted : a - start ≡ b - start [ZMOD length] := h.sub_right start
  have hoff : (a - start) % period = (b - start) % period := by
    calc (a - start) % period = (a - start) % period % length :=
          (emod_eq_of_lt (hnonneg _) ha).symm
      _ = (a - start) % length := emod_emod_of_dvd _ hdvd'
      _ = (b - start) % length := hshifted
      _ = (b - start) % period % length := (emod_emod_of_dvd _ hdvd').symm
      _ = (b - start) % period := emod_eq_of_lt (hnonneg _) hb
  simpa using Int.ModEq.add_right start hoff

lemma InWindow.succ (hper : 0 < period) (ha : InWindow period length start a)
    (hne : ¬a ≡ start [ZMOD period]) : InWindow period length (start + 1) a := by
  have hnonneg := emod_nonneg (a - start) (b := period) (by omega)
  have hlt := emod_lt_of_pos (a - start) (b := period) (by omega)
  have hoff : (a - start) % period ≠ 0 := by
    intro hzero
    exact hne (emod_eq_emod_iff_emod_sub_eq_zero.mpr hzero)
  have hnext : (a - (start + 1)) % period = (a - start) % period - 1 := by
    rw [← sub_sub, ← emod_sub_emod, emod_eq_of_lt (by omega) (by omega)]
  simp only [InWindow] at ha ⊢
  omega

lemma emod_le_self {x : Int} (hx : 0 ≤ x) (n : Nat) : x % n ≤ x := by
  lift x to Nat using hx
  exact_mod_cast mod_le x n

def circularDistance (period : Nat) (a b : Int) : Int :=
  min ((a - b) % period) ((b - a) % period)

lemma circularDistance_congr (h : a ≡ b [ZMOD period]) (c : Int) :
    circularDistance period a c = circularDistance period b c := by
  have hforward : (a - c) % period = (b - c) % period := h.sub_right c
  have hbackward : (c - a) % period = (c - b) % period := h.sub_left c
  rw [circularDistance, circularDistance, hforward, hbackward]

lemma circularDistance_le {bound : Nat} {jump : Int} (h : a ≡ b + jump [ZMOD period])
    (hlow : -bound ≤ jump) (hhigh : jump ≤ bound) : circularDistance period a b ≤ bound := by
  have hforward : a - b ≡ jump [ZMOD period] := by simpa using h.sub_right b
  have hbackward : b - a ≡ -jump [ZMOD period] := by simpa using h.sub_left b
  rw [Int.ModEq] at hforward hbackward
  obtain hjump | hjump := le_total 0 jump
  · have hle : jump % period ≤ jump := emod_le_self hjump period
    rw [circularDistance]
    omega
  · have hle : -jump % period ≤ -jump := emod_le_self (by omega) period
    rw [circularDistance]
    omega

lemma circularDistance_le_of_dvd (hm : 0 < m) (hdvd : n ∣ m) (a b : Int) :
    circularDistance n a b ≤ circularDistance m a b := by
  have hdvd' : (n : Int) ∣ m := natCast_dvd_natCast.mpr hdvd
  have hle (x : Int) : x % n ≤ x % m := by
    rw [← emod_emod_of_dvd x hdvd']
    exact emod_le_self (emod_nonneg x (by omega)) n
  exact min_le_min (hle _) (hle _)

lemma min_emod_neg_emod {x : Int} (hx : 0 ≤ x) (hhalf : 2 * x ≤ n) (hn : 0 < n) :
    min (x % n) (-x % n) = x := by
  rw [emod_eq_of_lt hx (by omega)]
  obtain rfl | hpos := hx.eq_or_lt
  · simp
  · rw [← add_emod_right, emod_eq_of_lt (by omega) (by omega)]
    omega

lemma circularDistance_comm (period : Nat) (a b : Int) :
    circularDistance period a b = circularDistance period b a := min_comm _ _

section

variable (hm : 0 < m) (hdvd : n ∣ m)

include hm hdvd

lemma circularDistance_eq_of_emod_le_half (hhalf : 2 * ((a - b) % m) ≤ n) :
    circularDistance n a b = (a - b) % m := by
  have hmod : (a - b) % m ≡ a - b [ZMOD n] :=
    (mod_modEq (a - b) m).of_dvd (natCast_dvd_natCast.mpr hdvd)
  have hneg : -((a - b) % m) ≡ b - a [ZMOD n] := by simpa using hmod.neg
  rw [circularDistance, ← hmod, ← hneg]
  exact min_emod_neg_emod (emod_nonneg _ (by omega)) hhalf (pos_of_dvd_of_pos hdvd hm)

lemma circularDistance_eq_of_le_half (hhalf : circularDistance m a b ≤ (n / 2 : Nat)) :
    circularDistance m a b = circularDistance n a b := by
  apply le_antisymm _ (circularDistance_le_of_dvd hm hdvd a b)
  obtain hshort | hshort := min_le_iff.mp hhalf
  · rw [circularDistance_eq_of_emod_le_half hm hdvd (a := a) (b := b) (by omega)]
    exact min_le_left _ _
  · rw [circularDistance_comm n,
      circularDistance_eq_of_emod_le_half hm hdvd (a := b) (b := a) (by omega)]
    exact min_le_right _ _

/-- Of the positions that agree on the smaller ring, one within half of that ring is the nearest.
-/
lemma circularDistance_le_of_modEq {c : Int} (hhalf : circularDistance m a c ≤ (n / 2 : Nat))
    (h : b ≡ a [ZMOD n]) : circularDistance m a c ≤ circularDistance m b c :=
  calc circularDistance m a c = circularDistance n a c :=
        circularDistance_eq_of_le_half hm hdvd hhalf
    _ = circularDistance n b c := circularDistance_congr h.symm c
    _ ≤ circularDistance m b c := circularDistance_le_of_dvd hm hdvd b c

end

/-- How far `x` is ahead of `low` on a ring of `n` positions, by an unsigned subtraction. -/
def unsignedOffset (n low x : Nat) : Nat := (x + 2 ^ 32 - low) % 2 ^ 32 % n

section

variable {n low x : Nat}

lemma unsignedOffset_lt (hn : 0 < n) : unsignedOffset n low x < n := Nat.mod_lt _ hn

variable (hn : n ∣ 2 ^ 32)

include hn

lemma add_unsignedOffset_modEq (hlow : low ≤ 2 ^ 32) :
    low + unsignedOffset n low x ≡ x [MOD n] := by
  have hdiff : low + (x + 2 ^ 32 - low) = x + 2 ^ 32 := by omega
  calc low + unsignedOffset n low x ≡ low + (x + 2 ^ 32 - low) [MOD n] := by
        apply Nat.ModEq.add_left
        rw [unsignedOffset, mod_mod_of_dvd _ hn]
        exact mod_modEq _ _
    _ = x + 2 ^ 32 := hdiff
    _ ≡ x + 0 [MOD n] := Nat.ModEq.add_left x ((Nat.modEq_zero_iff_dvd).mpr hn)

lemma unsignedOffset_eq {start count : Nat} (hlow : low ≤ 2 ^ 32) (hstart : low ≡ start [MOD n])
    (hcount : x ≡ count [MOD n]) (hle : start ≤ count) (hlt : count < start + n) :
    unsignedOffset n low x = count - start := by
  have hpos : 0 < n := pos_of_dvd_of_pos hn (by decide)
  have hmod : start + unsignedOffset n low x ≡ start + (count - start) [MOD n] := by
    calc start + unsignedOffset n low x
        ≡ low + unsignedOffset n low x [MOD n] := Nat.ModEq.add_right _ hstart.symm
      _ ≡ x [MOD n] := add_unsignedOffset_modEq hn hlow
      _ ≡ count [MOD n] := hcount
      _ = start + (count - start) := by omega
  have hsame := Nat.ModEq.add_left_cancel' start hmod
  rw [Nat.ModEq, mod_eq_of_lt (unsignedOffset_lt hpos), mod_eq_of_lt (by omega)] at hsame
  exact hsame

lemma mod_le_two_pow (start : Nat) : start % n ≤ 2 ^ 32 :=
  (mod_lt _ (pos_of_dvd_of_pos hn (by decide))).le.trans (le_of_dvd (by decide) hn)

lemma unsignedOffset_mod_eq {start count : Nat} (hcount : x ≡ count [MOD n]) (hle : start ≤ count)
    (hlt : count < start + n) : unsignedOffset n (start % n) x = count - start :=
  unsignedOffset_eq hn (mod_le_two_pow hn start) (mod_modEq start n) hcount hle hlt

lemma modEq_add_unsignedOffset (start x : Nat) :
    x ≡ start + unsignedOffset n (start % n) x [MOD n] := by
  calc x ≡ start % n + unsignedOffset n (start % n) x [MOD n] :=
        (add_unsignedOffset_modEq hn (mod_le_two_pow hn start)).symm
    _ ≡ start + unsignedOffset n (start % n) x [MOD n] :=
        Nat.ModEq.add_right _ (mod_modEq start n)

end

end ProtoRu
