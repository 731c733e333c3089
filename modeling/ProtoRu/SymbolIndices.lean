import ProtoRu.DoubleDivision
import ProtoRu.SlotNumbering

namespace ProtoRu.SymbolIndices

open DoubleDivision Double

def nsPerSec : Nat := 1000000000

structure TimingConfig where
  scs : SubcarrierSpacing
  cp : CyclicPrefix

namespace TimingConfig

def numerology (config : TimingConfig) : Nat := toNumerologyValue config.scs

def nofSymbolsPerSlot (config : TimingConfig) : Nat := getNsymbPerSlot config.cp

def nofSymbolsPerSec (config : TimingConfig) : Nat :=
  config.nofSymbolsPerSlot * getNofSlotsPerSubframe config.scs * nofSubframesPerFrame * 100

def nofSlotsPerHyperSystemFrame (config : TimingConfig) : Nat :=
  SlotPoint.nofSlotsPerHyperSystemFrame ⟨config.numerology, 0⟩

def symbolDuration (config : TimingConfig) : Double :=
  (Double.ofNat nsPerSec).div (Double.ofNat config.nofSymbolsPerSec)

end TimingConfig

/-- The symbol of a second that a fraction of it lies in: a quotient of doubles, truncated. -/
def getSymbolIndex (config : TimingConfig) (fractionalNs : Nat) : Nat :=
  ((Double.ofNat fractionalNs).div config.symbolDuration).toNat

/-- The symbol that the fraction lies in. -/
def exactSymbolIndex (config : TimingConfig) (fractionalNs : Nat) : Nat :=
  fractionalNs * config.nofSymbolsPerSec / nsPerSec

/-- The emulator has no other cyclic prefix. -/
def emulatorConfig (scs : SubcarrierSpacing) : TimingConfig := ⟨scs, .normal⟩

/-- The fraction in nanoseconds of a slot that lasts a millisecond. -/
def scaledNs (scs : SubcarrierSpacing) (fractionalNs : Nat) : Nat :=
  fractionalNs * 2 ^ toNumerologyValue scs

/-- The double of the symbol duration is too long: at the first nanosecond of a half slot, the
rounded quotient falls below an index far above the power of 2 before it. -/
def Lags (scs : SubcarrierSpacing) (fractionalNs : Nat) : Prop :=
  let index := exactSymbolIndex (emulatorConfig scs) fractionalNs
  500000 ∣ scaledNs scs fractionalNs ∧ 15625 * 2 ^ index.log2 < 12288 * index
  deriving Decidable

section

variable {position power index : Nat}

/-- The rounded quotient of a position by the double of the symbol duration reaches the bound. -/
def Reaches (position power bound : Nat) : Prop :=
  2 * (bound * power) * 4908534052571429 ≤
    2 * (position * power) * 2 ^ 36 + 4908534052571429

lemma not_reaches_of_lt (hpower : 2 ^ 35 ≤ power) (h : 7 * position < 500000 * index) :
    ¬ Reaches position power index := by
  have hscaled := Nat.mul_le_mul_right power (Nat.succ_le_of_lt h)
  rw [Nat.succ_mul, Nat.mul_assoc, Nat.mul_assoc] at hscaled
  rw [Reaches]
  generalize index * power = reached at *
  generalize position * power = exact at *
  omega

lemma reaches_of_lt (hindex : index ≤ 2 ^ 18) (h : 500000 * index < 7 * position) :
    Reaches position power index := by
  have hscaled := Nat.mul_le_mul_right power (Nat.succ_le_of_lt h)
  have hsmall := Nat.mul_le_mul_right power hindex
  rw [Nat.succ_mul, Nat.mul_assoc, Nat.mul_assoc] at hscaled
  rw [Reaches]
  generalize index * power = reached at *
  generalize position * power = exact at *
  omega

section

variable {floor : Nat} (hhalf : 500000 * index = 7 * position) (hpow : floor * power = 2 ^ 52)

include hhalf hpow

lemma quotient_bounds (hpower : 2 ^ 35 ≤ power) (hlow : floor < index)
    (hhigh : index < 2 * floor) : 2 ^ 52 * 4908534052571429 ≤ position * 2 ^ 36 * power ∧
      position * 2 ^ 36 * power < 2 ^ 53 * 4908534052571429 := by
  have hscaled := congrArg (· * power) hhalf
  have habove := Nat.mul_le_mul_right power hlow
  have hbelow := Nat.mul_le_mul_right power (Nat.succ_le_of_lt hhigh)
  simp only [Nat.mul_assoc] at hscaled
  rw [Nat.succ_mul, hpow] at habove
  rw [Nat.succ_mul, Nat.mul_assoc, hpow] at hbelow
  rw [Nat.mul_right_comm]
  generalize index * power = reached at *
  generalize position * power = exact at *
  constructor <;> linarith

lemma reaches_iff_of_half (hfloor : floor ≤ 2 ^ 17) :
    Reaches position power index ↔ 12288 * index ≤ 15625 * floor := by
  have hiff : Reaches position power index ↔ 6 * (index * power) ≤ 15625 * 2 ^ 41 + 3 := by
    have hscaled := congrArg (· * power) hhalf
    simp only [Nat.mul_assoc] at hscaled
    rw [Reaches]
    generalize index * power = reached at *
    generalize position * power = exact at *
    constructor <;> intro hle <;> linarith
  have hmul : index * power * floor = index * 2 ^ 52 := by
    rw [Nat.mul_assoc, Nat.mul_comm power, hpow]
  have hpos : 0 < floor := Nat.pos_of_mul_pos_right (hpow ▸ Nat.two_pow_pos 52)
  rw [hiff, ← Nat.mul_le_mul_right_iff hpos, Nat.mul_assoc, hmul, Nat.add_mul]
  clear hiff hmul hpow hhalf
  omega

end

end

variable {scs : SubcarrierSpacing} {fractionalNs : Nat}

lemma symbolDuration_eq (scs : SubcarrierSpacing) :
    (emulatorConfig scs).symbolDuration = ⟨4908534052571429, 36 + toNumerologyValue scs⟩ := by
  cases scs <;> decide +kernel

lemma exactSymbolIndex_eq : exactSymbolIndex (emulatorConfig scs) fractionalNs =
    7 * scaledNs scs fractionalNs / 500000 := by
  simp only [exactSymbolIndex, TimingConfig.nofSymbolsPerSec, TimingConfig.nofSymbolsPerSlot,
    emulatorConfig, getNsymbPerSlot, nofOfdmSymPerSlotNormalCp, getNofSlotsPerSubframe,
    nofSubframesPerFrame, nsPerSec, Nat.one_shiftLeft, scaledNs]
  generalize 2 ^ toNumerologyValue scs = slots
  have hnum : fractionalNs * (14 * slots * 10 * 100) = 7 * (fractionalNs * slots) * 2000 := by
    ring
  rw [hnum]
  exact Nat.mul_div_mul_right _ 500000 (by decide)

def indexScale (scs : SubcarrierSpacing) (fractionalNs : Nat) : Nat :=
  quotientScale (scaledNs scs fractionalNs * 2 ^ 36) 4908534052571429

section

variable (hns : fractionalNs < nsPerSec)

include hns

lemma scaledNs_lt : scaledNs scs fractionalNs < 2 ^ 34 := by
  have hle : 2 ^ toNumerologyValue scs ≤ 2 ^ 4 := by cases scs <;> decide
  calc fractionalNs * 2 ^ toNumerologyValue scs ≤ fractionalNs * 2 ^ 4 :=
        Nat.mul_le_mul_left _ hle
    _ < 2 ^ 34 := by simp only [nsPerSec] at hns; omega

lemma lt_indexScale : 34 < indexScale scs fractionalNs := by
  have hnum : scaledNs scs fractionalNs * 2 ^ 36 < 2 ^ 70 := by
    have := @scaledNs_lt scs _ hns
    omega
  have hden : 2 ^ 52 ≤ 4908534052571429 := by decide
  have hscale := lt_quotientScale (by decide) hnum hden
  rw [indexScale]
  omega

lemma le_getSymbolIndex_iff (bound : Nat) :
    bound ≤ getSymbolIndex (emulatorConfig scs) fractionalNs ↔
      Reaches (scaledNs scs fractionalNs) (2 ^ indexScale scs fractionalNs) bound := by
  have hnum : fractionalNs * 2 ^ (36 + toNumerologyValue scs) =
      scaledNs scs fractionalNs * 2 ^ 36 := by
    rw [scaledNs, Nat.mul_assoc, ← Nat.pow_add, Nat.add_comm 36]
  have hscale : ((ofNat fractionalNs).div (emulatorConfig scs).symbolDuration).scale =
      indexScale scs fractionalNs := by
    rw [symbolDuration_eq]
    simp only [div, ofNat, Nat.pow_zero, Nat.mul_one, hnum, indexScale]
  have hden : 0 < (emulatorConfig scs).symbolDuration.mantissa *
      2 ^ (ofNat fractionalNs).scale := by
    rw [symbolDuration_eq]
    exact Nat.mul_pos (Nat.succ_pos _) (Nat.two_pow_pos _)
  have hne : indexScale scs fractionalNs ≠ 0 :=
    Nat.ne_of_gt (Nat.zero_lt_of_lt (lt_indexScale hns))
  rw [getSymbolIndex, le_toNat_div_iff hden (hscale ▸ hne), hscale, symbolDuration_eq, Reaches]
  simp only [ofNat, Nat.pow_zero, Nat.mul_one, hnum]
  rw [Nat.mul_right_comm _ (2 ^ 36), Nat.mul_assoc 2, Nat.mul_assoc 2]

lemma getSymbolIndex_le : getSymbolIndex (emulatorConfig scs) fractionalNs ≤
    exactSymbolIndex (emulatorConfig scs) fractionalNs := by
  have hlt : 7 * scaledNs scs fractionalNs <
      500000 * (exactSymbolIndex (emulatorConfig scs) fractionalNs + 1) := by
    rw [exactSymbolIndex_eq]
    exact Nat.lt_mul_div_succ _ (by decide)
  have hpower : 2 ^ 35 ≤ 2 ^ indexScale scs fractionalNs :=
    Nat.pow_le_pow_right (by decide) (lt_indexScale hns)
  rw [← Nat.lt_succ_iff, ← Nat.not_le, le_getSymbolIndex_iff hns]
  exact not_reaches_of_lt hpower hlt

lemma le_getSymbolIndex_of_lt {index : Nat}
    (h : 500000 * index < 7 * scaledNs scs fractionalNs) :
    index ≤ getSymbolIndex (emulatorConfig scs) fractionalNs := by
  have hlt := @scaledNs_lt scs _ hns
  rw [le_getSymbolIndex_iff hns]
  exact reaches_of_lt (by linarith) h

lemma le_getSymbolIndex_iff_of_half {index : Nat}
    (hhalf : 500000 * index = 7 * scaledNs scs fractionalNs) :
    index ≤ getSymbolIndex (emulatorConfig scs) fractionalNs ↔
      12288 * index ≤ 15625 * 2 ^ index.log2 := by
  by_cases hzero : index = 0
  · simp [hzero]
  have hlt : index < 2 ^ 18 := by
    have := @scaledNs_lt scs _ hns
    linarith
  have hlog : index.log2 < 18 := (Nat.log2_lt hzero).mpr hlt
  have hpow : 2 ^ index.log2 * 2 ^ (52 - index.log2) = 2 ^ 52 := by
    rw [← Nat.pow_add, Nat.add_sub_of_le (by omega)]
  -- The index is a multiple of 7, and so no power of 2.
  have hseven : ∀ log < 18, ¬ 7 ∣ 2 ^ log := by decide
  have hne : 2 ^ index.log2 ≠ index := by
    intro heq
    apply hseven _ hlog
    rw [heq]
    exact (by decide : Nat.Coprime 7 500000).dvd_of_dvd_mul_left ⟨_, hhalf⟩
  obtain ⟨hlow, hhigh⟩ := quotient_bounds hhalf hpow
    (Nat.pow_le_pow_right (by decide) (by omega))
    (lt_of_le_of_ne (Nat.log2_self_le hzero) hne) (Nat.pow_succ' ▸ Nat.lt_log2_self)
  have hscale : indexScale scs fractionalNs = 52 - index.log2 :=
    quotientScale_eq hlow hhigh
  rw [le_getSymbolIndex_iff hns, hscale]
  exact reaches_iff_of_half hhalf hpow (Nat.pow_le_pow_right (by decide) (by omega))

end

lemma half_of_dvd (hdvd : 500000 ∣ scaledNs scs fractionalNs) :
    500000 * exactSymbolIndex (emulatorConfig scs) fractionalNs =
      7 * scaledNs scs fractionalNs := by
  rw [exactSymbolIndex_eq]
  exact Nat.mul_div_cancel' (Nat.dvd_mul_left_of_dvd hdvd 7)

/-- Where the index lags it is that of the symbol before. -/
lemma getSymbolIndex_of_lags (hns : fractionalNs < nsPerSec) (hlags : Lags scs fractionalNs) :
    getSymbolIndex (emulatorConfig scs) fractionalNs + 1 =
      exactSymbolIndex (emulatorConfig scs) fractionalNs := by
  obtain ⟨hdvd, hlog⟩ := hlags
  have hhalf := half_of_dvd hdvd
  have hnot := mt (le_getSymbolIndex_iff_of_half hns hhalf).mp (Nat.not_le_of_lt hlog)
  have hpos : exactSymbolIndex (emulatorConfig scs) fractionalNs ≠ 0 := by
    intro hzero
    simp [hzero] at hlog
  obtain ⟨index, hindex⟩ := Nat.exists_eq_succ_of_ne_zero hpos
  rw [hindex] at hhalf hnot ⊢
  have hbehind : index ≤ getSymbolIndex (emulatorConfig scs) fractionalNs := by
    apply le_getSymbolIndex_of_lt hns
    rw [← hhalf]
    exact Nat.mul_lt_mul_of_pos_left index.lt_succ_self (by decide)
  exact Nat.le_antisymm (Nat.lt_of_not_le hnot) (Nat.succ_le_succ hbehind)

lemma getSymbolIndex_of_not_lags (hns : fractionalNs < nsPerSec)
    (hnot : ¬ Lags scs fractionalNs) : getSymbolIndex (emulatorConfig scs) fractionalNs =
      exactSymbolIndex (emulatorConfig scs) fractionalNs := by
  apply Nat.le_antisymm (getSymbolIndex_le hns)
  by_cases hdvd : 500000 ∣ scaledNs scs fractionalNs
  · rw [le_getSymbolIndex_iff_of_half hns (half_of_dvd hdvd)]
    exact Nat.le_of_not_lt fun hlog => hnot ⟨hdvd, hlog⟩
  · apply le_getSymbolIndex_of_lt hns
    rw [exactSymbolIndex_eq]
    refine lt_of_le_of_ne (Nat.mul_div_le _ _) fun heq => hdvd ?_
    exact (by decide : Nat.Coprime 500000 7).dvd_of_dvd_mul_left ⟨_, heq.symm⟩

end ProtoRu.SymbolIndices
