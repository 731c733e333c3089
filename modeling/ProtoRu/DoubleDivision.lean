import Mathlib.Tactic.Ring

/-!
Division of doubles that are not negative. A quotient keeps 53 bits and is rounded to the
nearest value with that many, to the even one of two; exponents are not bounded.
-/

namespace ProtoRu.DoubleDivision

/-- The nearest number to a quotient, and the even one when two are as near. -/
def roundHalfEven (num den : Nat) : Nat :=
  let quotient := num / den
  let remainder := num % den
  if 2 * remainder < den ∨ 2 * remainder = den ∧ quotient % 2 = 0 then quotient
  else quotient + 1

/-- The bits behind the point that a quotient below `2 ^ 53` has when it has 53 bits. -/
def quotientScale (num den : Nat) : Nat :=
  let scale := 52 + den.log2 - num.log2
  if num * 2 ^ scale < 2 ^ 52 * den then scale + 1 else scale

/-- The value `mantissa / 2 ^ scale`. -/
structure Double where
  mantissa : Nat
  scale : Nat
  deriving DecidableEq

namespace Double

/-- A number below `2 ^ 53` is a double. -/
def ofNat (n : Nat) : Double := ⟨n, 0⟩

def toNat (x : Double) : Nat := x.mantissa / 2 ^ x.scale

def div (x y : Double) : Double :=
  let num := x.mantissa * 2 ^ y.scale
  let den := y.mantissa * 2 ^ x.scale
  let scale := quotientScale num den
  ⟨roundHalfEven (num * 2 ^ scale) den, scale⟩

end Double

variable {num den : Nat}

lemma le_roundHalfEven_iff (hden : 0 < den) {bound : Nat} (heven : bound % 2 = 0) :
    bound ≤ roundHalfEven num den ↔ 2 * (bound * den) ≤ 2 * num + den := by
  have hsplit := Nat.div_add_mod num den
  have hlt := Nat.mod_lt num hden
  rw [Nat.mul_comm] at hsplit
  simp only [roundHalfEven]
  generalize num / den = quotient at *
  generalize num % den = remainder at *
  -- Only at the successor of the rounded down quotient does the rounding decide.
  obtain hle | rfl | hge : bound ≤ quotient ∨ bound = quotient + 1 ∨ quotient + 2 ≤ bound := by
    omega
  · have := Nat.mul_le_mul_right den hle
    split <;> constructor <;> intro <;> omega
  · rw [Nat.add_mul]
    split <;> omega
  · have := Nat.mul_le_mul_right den hge
    rw [Nat.add_mul] at this
    split <;> omega

lemma lt_quotientScale {numBits denBits : Nat} (hbits : 0 < numBits) (hnum : num < 2 ^ numBits)
    (hden : 2 ^ denBits ≤ den) : 52 + denBits < quotientScale num den + numBits := by
  have hdenlog : denBits ≤ den.log2 := by
    have hpos := Nat.two_pow_pos denBits
    exact (Nat.le_log2 (by omega)).mpr hden
  have hnumlog : num.log2 < numBits := by
    by_cases hzero : num = 0
    · rwa [hzero, Nat.log2_zero]
    · exact (Nat.log2_lt hzero).mpr hnum
  simp only [quotientScale]
  split <;> omega

lemma quotientScale_spec (hnum : num ≠ 0) (hlt : num < 2 ^ 53 * den) :
    2 ^ 52 * den ≤ num * 2 ^ quotientScale num den ∧
      num * 2 ^ quotientScale num den < 2 ^ 53 * den := by
  have hnum_low := Nat.log2_self_le hnum
  have hnum_high := Nat.lt_log2_self (n := num)
  have hden_low := Nat.log2_self_le (n := den) (by omega)
  have hden_high := Nat.lt_log2_self (n := den)
  rw [Nat.pow_succ] at hnum_high hden_high
  simp only [quotientScale]
  by_cases hle : num.log2 ≤ 52 + den.log2
  · have hpow := Nat.pow_sub_mul_pow 2 hle
    have hsucc := Nat.pow_succ (n := 2) (m := 52 + den.log2 - num.log2)
    have hlow := Nat.mul_le_mul_left (2 ^ (52 + den.log2 - num.log2)) hnum_low
    have hhigh := Nat.mul_lt_mul_of_pos_left hnum_high
      (Nat.two_pow_pos (52 + den.log2 - num.log2))
    rw [hpow, Nat.pow_add] at hlow
    rw [← Nat.mul_assoc, hpow, Nat.pow_add] at hhigh
    rw [Nat.mul_comm num, Nat.mul_comm num]
    split
    · rw [hsucc, Nat.mul_right_comm]
      omega
    · omega
  · -- The quotient has its 53 bits before the point.
    have hbits : 2 ^ (53 + den.log2) ≤ 2 ^ num.log2 :=
      Nat.pow_le_pow_right (by decide) (by omega)
    rw [Nat.pow_add] at hbits
    have hscale : 52 + den.log2 - num.log2 = 0 := by omega
    rw [hscale, if_neg (by omega)]
    omega

lemma quotientScale_eq {scale : Nat} (hlow : 2 ^ 52 * den ≤ num * 2 ^ scale)
    (hhigh : num * 2 ^ scale < 2 ^ 53 * den) : quotientScale num den = scale := by
  have hnum : num ≠ 0 := by
    rintro rfl
    omega
  have hlt : num < 2 ^ 53 * den :=
    Nat.lt_of_le_of_lt (Nat.le_mul_of_pos_right num (Nat.two_pow_pos scale)) hhigh
  obtain ⟨hlow', hhigh'⟩ := quotientScale_spec hnum hlt
  -- One bit more doubles the quotient.
  have hdouble {first second : Nat} (h : first < second) :
      2 * (num * 2 ^ first) ≤ num * 2 ^ second := by
    rw [Nat.mul_left_comm, ← Nat.pow_succ']
    exact Nat.mul_le_mul_left _ (Nat.pow_le_pow_right (by decide) h)
  obtain hless | heq | hmore := lt_trichotomy (quotientScale num den) scale
  · have := hdouble hless
    omega
  · exact heq
  · have := hdouble hmore
    omega

lemma le_toNat_div_iff {x y : Double} (hden : 0 < y.mantissa * 2 ^ x.scale)
    (hscale : (x.div y).scale ≠ 0) (bound : Nat) :
    bound ≤ (x.div y).toNat ↔ 2 * (bound * 2 ^ (x.div y).scale * (y.mantissa * 2 ^ x.scale)) ≤
      2 * (x.mantissa * 2 ^ y.scale * 2 ^ (x.div y).scale) + y.mantissa * 2 ^ x.scale := by
  have heven : bound * 2 ^ (x.div y).scale % 2 = 0 := by
    obtain ⟨scale, hsucc⟩ := Nat.exists_eq_succ_of_ne_zero hscale
    rw [hsucc, Nat.pow_succ, ← Nat.mul_assoc, Nat.mul_mod_left]
  rw [Double.toNat, Nat.le_div_iff_mul_le (Nat.two_pow_pos _)]
  exact le_roundHalfEven_iff hden heven

end ProtoRu.DoubleDivision
