import Mathlib.Algebra.Order.Group.Unbundled.Abs
import ProtoRu.IqBitPacking

namespace ProtoRu.BfpCompression

open IqBitPacking List Int

def nofSamplesPerPrb : Nat := 2 * nofSubcarriersPerRb

structure QuantizedPrb where
  samples : List (BitVec 16)
  length_samples : samples.length = nofSamplesPerPrb

def clz (x : Nat) : Nat := 31 - Nat.log2 x

/-- The exponent for a 16-bit magnitude. The leading zeros without sign are an unsigned
difference. -/
def determineExponent (x dataWidth : Nat) : Nat :=
  let maxShift := maxIqWidth - dataWidth
  let lzWithoutSign :=
    if 0 < x ∧ 0 < maxShift then (2 ^ 32 + clz x - 16 - 1) % 2 ^ 32 else maxShift
  maxShift - min maxShift lzWithoutSign

namespace QuantizedPrb

variable (prb : QuantizedPrb)

def maxElement : Int := ((prb.samples.map BitVec.toInt).max?).getD 0

def minElement : Int := ((prb.samples.map BitVec.toInt).min?).getD 0

def maxAbs : Nat := (max |prb.maxElement| (|prb.minElement| - 1)).toNat

def exponent (dataWidth : Nat) : Nat := determineExponent prb.maxAbs dataWidth

end QuantizedPrb

/-- Write the exponent and the shifted samples of a resource block; the width is asserted. -/
def compressPrbGeneric (compPrbBuffer : Bytes) (prb : QuantizedPrb) (dataWidth : Nat) :
    Option Bytes :=
  if dataWidth = 0 ∨ maxIqWidth < dataWidth then none
  else
    match compPrbBuffer with
    | [] => none
    | _ :: buffer => do
        let exponent := prb.exponent dataWidth
        let packed ← packBytes buffer (prb.samples.map (·.sshiftRight exponent)) dataWidth
        return UInt8.ofNat exponent :: packed

def withoutLowBits (exponent : Nat) (sample : BitVec 16) : Int :=
  (sample.toInt >>> exponent) * 2 ^ exponent

section

variable {dataWidth : Nat}

lemma determineExponent_add_le (x : Nat) (hle : dataWidth ≤ maxIqWidth) :
    determineExponent x dataWidth + dataWidth ≤ maxIqWidth := by
  rw [determineExponent]
  omega

lemma lt_pow_determineExponent {x : Nat} (hx : x < 2 ^ 15) :
    x < 2 ^ (determineExponent x dataWidth + (dataWidth - 1)) := by
  have hmax : maxIqWidth = 16 := rfl
  obtain rfl | hxpos := Nat.eq_zero_or_pos x
  · positivity
  have hlog : Nat.log2 x < 15 := (Nat.log2_lt hxpos.ne').mpr hx
  have hlt : x < 2 ^ (Nat.log2 x + 1) := Nat.lt_log2_self
  apply hlt.trans_le
  apply Nat.pow_le_pow_right (by decide)
  simp only [determineExponent, clz, hmax]
  split <;> omega

lemma determineExponent_signBit (dataWidth : Nat) : determineExponent (2 ^ 15) dataWidth = 0 := by
  have hmax : maxIqWidth = 16 := rfl
  have hclz : clz (2 ^ 15) = 16 := by decide
  simp only [determineExponent, hclz, hmax]
  split <;> omega

end

variable {sample : BitVec 16}

section

namespace QuantizedPrb

variable (prb : QuantizedPrb)

lemma map_toInt_ne_nil : prb.samples.map BitVec.toInt ≠ [] := by
  intro hnil
  have hlen := congrArg length hnil
  rw [length_map, prb.length_samples] at hlen
  contradiction

lemma maxElement_spec : prb.maxElement ∈ prb.samples.map BitVec.toInt ∧
    ∀ sample ∈ prb.samples, sample.toInt ≤ prb.maxElement := by
  obtain ⟨value, hvalue⟩ := Option.isSome_iff_exists.mp (isSome_max?_of_ne_nil prb.map_toInt_ne_nil)
  obtain ⟨hmem, hmax⟩ := max?_eq_some_iff.mp hvalue
  rw [maxElement, hvalue]
  exact ⟨hmem, fun _ hsample => hmax _ (mem_map_of_mem hsample)⟩

lemma minElement_spec : prb.minElement ∈ prb.samples.map BitVec.toInt ∧
    ∀ sample ∈ prb.samples, prb.minElement ≤ sample.toInt := by
  obtain ⟨value, hvalue⟩ := Option.isSome_iff_exists.mp (isSome_min?_of_ne_nil prb.map_toInt_ne_nil)
  obtain ⟨hmem, hmin⟩ := min?_eq_some_iff.mp hvalue
  rw [minElement, hvalue]
  exact ⟨hmem, fun _ hsample => hmin _ (mem_map_of_mem hsample)⟩

lemma toInt_bounds (sample : BitVec 16) : -2 ^ 15 ≤ sample.toInt ∧ sample.toInt < 2 ^ 15 := by
  have hlow := sample.le_toInt
  have hhigh := sample.toInt_lt
  omega

lemma maxAbs_cast : (prb.maxAbs : Int) = max |prb.maxElement| (|prb.minElement| - 1) :=
  toNat_of_nonneg ((abs_nonneg _).trans (le_max_left _ _))

lemma sample_bounds (hmem : sample ∈ prb.samples) :
    -(prb.maxAbs : Int) - 1 ≤ sample.toInt ∧ sample.toInt ≤ prb.maxAbs := by
  have hmax := prb.maxElement_spec.2 sample hmem
  have hmin := prb.minElement_spec.2 sample hmem
  have habs := le_abs_self prb.maxElement
  have hneg := neg_abs_le prb.minElement
  rw [maxAbs_cast]
  omega

lemma maxAbs_lt (hother : ∃ sample ∈ prb.samples, sample.toInt ≠ -2 ^ 15) :
    prb.maxAbs < 2 ^ 15 := by
  obtain ⟨sample, hsample, hne⟩ := hother
  have hle := prb.maxElement_spec.2 sample hsample
  obtain ⟨largest, -, hlargest⟩ := mem_map.mp prb.maxElement_spec.1
  obtain ⟨smallest, -, hsmallest⟩ := mem_map.mp prb.minElement_spec.1
  have hsampleBounds := toInt_bounds sample
  have hlargestBounds := toInt_bounds largest
  have hsmallestBounds := toInt_bounds smallest
  have hmaxAbs : |prb.maxElement| < 2 ^ 15 := by
    rw [abs_lt]
    omega
  have hminAbs : |prb.minElement| ≤ 2 ^ 15 := by
    rw [abs_le]
    omega
  have hcast : (prb.maxAbs : Int) < 2 ^ 15 := by
    rw [maxAbs_cast]
    omega
  exact_mod_cast hcast

lemma maxAbs_of_forall_signBit (hall : ∀ sample ∈ prb.samples, sample.toInt = -2 ^ 15) :
    prb.maxAbs = 2 ^ 15 := by
  obtain ⟨largest, hlargest, hmax⟩ := mem_map.mp prb.maxElement_spec.1
  obtain ⟨smallest, hsmallest, hmin⟩ := mem_map.mp prb.minElement_spec.1
  have hcast := prb.maxAbs_cast
  rw [← hmax, ← hmin, hall _ hlargest, hall _ hsmallest] at hcast
  have hvalue : max |(-2 ^ 15 : Int)| (|(-2 ^ 15 : Int)| - 1) = 2 ^ 15 := by decide
  rw [hvalue] at hcast
  exact_mod_cast hcast

end QuantizedPrb

end

section

lemma fitsIn_shiftRight {value : Int} {width exponent : Nat}
    (hlow : -2 ^ (exponent + (width - 1)) ≤ value) (hhigh : value < 2 ^ (exponent + (width - 1))) :
    FitsIn width (value >>> exponent) := by
  have hpos : (0 : Int) < 2 ^ exponent := by positivity
  rw [pow_add, mul_comm] at hlow hhigh
  rw [Int.shiftRight_eq_div_pow]
  constructor
  · apply (Int.le_ediv_iff_mul_le hpos).mpr
    rwa [neg_mul]
  · exact (Int.ediv_lt_iff_lt_mul hpos).mpr hhigh

lemma abs_sub_withoutLowBits_lt (exponent : Nat) (sample : BitVec 16) :
    |sample.toInt - withoutLowBits exponent sample| < 2 ^ exponent := by
  have hpos : (0 : Int) < 2 ^ exponent := by positivity
  have hmod : sample.toInt - withoutLowBits exponent sample = sample.toInt % 2 ^ exponent := by
    rw [withoutLowBits, shiftRight_eq_div_pow, emod_def]
    push_cast
    ring
  rw [hmod, abs_of_nonneg (emod_nonneg _ hpos.ne')]
  exact emod_lt_of_pos _ hpos

variable {dataWidth : Nat} {prb : QuantizedPrb}

lemma exponent_fits (hpos : 0 < dataWidth) (hle : dataWidth ≤ maxIqWidth)
    (hother : dataWidth = maxIqWidth ∨ ∃ sample ∈ prb.samples, sample.toInt ≠ -2 ^ 15)
    (hmem : sample ∈ prb.samples) : FitsIn dataWidth (sample.toInt >>> prb.exponent dataWidth) := by
  have hbounds := QuantizedPrb.toInt_bounds sample
  obtain rfl | hother := hother
  · have hzero : prb.exponent maxIqWidth = 0 := by
      have := determineExponent_add_le prb.maxAbs (le_refl maxIqWidth)
      rw [QuantizedPrb.exponent]
      omega
    apply fitsIn_shiftRight
    · exact hbounds.1
    · exact hbounds.2
  · have hcast : (prb.maxAbs : Int) < 2 ^ (prb.exponent dataWidth + (dataWidth - 1)) := by
      exact_mod_cast lt_pow_determineExponent (prb.maxAbs_lt hother)
    have hsample := prb.sample_bounds hmem
    apply fitsIn_shiftRight
    · omega
    · omega

lemma exponent_of_forall_signBit (hall : ∀ sample ∈ prb.samples, sample.toInt = -2 ^ 15) :
    prb.exponent dataWidth = 0 := by
  rw [QuantizedPrb.exponent, prb.maxAbs_of_forall_signBit hall, determineExponent_signBit]

lemma packableIn_iff (hpos : 0 < dataWidth) (hfits : FitsIn dataWidth sample.toInt) :
    PackableIn dataWidth sample ↔ 8 ≤ dataWidth ∨ 0 ≤ sample.toInt := by
  have hpow : (2 : Int) ^ dataWidth = 2 * 2 ^ (dataWidth - 1) := by
    rw [← pow_succ']
    congr 1
    omega
  have hnat : ((2 ^ dataWidth : Nat) : Int) = 2 ^ dataWidth := by push_cast; rfl
  apply or_congr_right'
  intro hshort
  have hsmall : (2 : Int) ^ (dataWidth - 1) ≤ 2 ^ 6 := by
    apply pow_le_pow_right₀ (by decide)
    omega
  have hcond := BitVec.toInt_eq_toNat_cond sample
  have hlt := sample.isLt
  obtain ⟨hlow, hhigh⟩ := hfits
  split at hcond <;> omega

end

section

variable {Value : Type} (toFloat : Int → Nat → Value)

/-- The shifted samples fit their fields, and decompression gives back all but the bits shifted
out. -/
def Restores (prb : QuantizedPrb) (dataWidth : Nat) (compPrbBuffer : Bytes) : Prop :=
  ∃ exponent : UInt8, ∃ packed : Bytes,
    compressPrbGeneric compPrbBuffer prb dataWidth = some (exponent :: packed) ∧
    (∀ sample ∈ prb.samples, FitsIn dataWidth (sample.toInt >>> exponent.toNat) ∧
      |sample.toInt - withoutLowBits exponent.toNat sample| < 2 ^ exponent.toNat) ∧
    decompressPrbGeneric toFloat dataWidth (exponent :: packed) =
      some ((toComplex (prb.samples.map (withoutLowBits exponent.toNat))).map
        (toSample toFloat (quantizerGain qBitWidth)))

variable {toFloat} {prb : QuantizedPrb} {dataWidth : Nat} {compPrbBuffer : Bytes}

lemma packBytes_prb (buffer : Bytes) (exponent : Nat) :
    packBytes buffer (prb.samples.map (·.sshiftRight exponent)) dataWidth =
      packSamples dataWidth (prb.samples.map (·.sshiftRight exponent)) buffer 0 := by
  have hwhole : dataWidth * (prb.samples.map (·.sshiftRight exponent)).length % 8 = 0 := by
    rw [length_map, prb.length_samples, nofSamplesPerPrb, nofSubcarriersPerRb]
    omega
  simp only [packBytes, hwhole, if_true]
  exact bind_pure _

variable {exponent : UInt8}

lemma compressPrbGeneric_eq_some_iff (hpos : 0 < dataWidth) (hle : dataWidth ≤ maxIqWidth)
    (first : UInt8) (buffer : Bytes) {packed : Bytes} :
    compressPrbGeneric (first :: buffer) prb dataWidth = some (exponent :: packed) ↔
      exponent = UInt8.ofNat (prb.exponent dataWidth) ∧
        packSamples dataWidth (prb.samples.map (·.sshiftRight (prb.exponent dataWidth))) buffer 0 =
          some packed := by
  rw [compressPrbGeneric, if_neg (by omega)]
  simp only [packBytes_prb, Option.bind_eq_bind, Option.pure_def, Option.bind_eq_some_iff,
    Option.some.injEq, cons.injEq]
  constructor
  · rintro ⟨other, hother, hexpo, rfl⟩
    exact ⟨hexpo.symm, hother⟩
  · rintro ⟨hexpo, hpacked⟩
    exact ⟨packed, hpacked, hexpo.symm, rfl⟩

lemma toNat_exponent (hle : dataWidth ≤ maxIqWidth) :
    (UInt8.ofNat (prb.exponent dataWidth)).toNat = prb.exponent dataWidth := by
  have hadd := determineExponent_add_le prb.maxAbs hle
  have hmax : maxIqWidth = 16 := rfl
  apply Nat.mod_eq_of_lt
  rw [QuantizedPrb.exponent]
  omega

lemma bfpScaler_of_lt (h : exponent.toNat < 15) : bfpScaler exponent = 2 ^ exponent.toNat := by
  have hpow : 2 ^ exponent.toNat ≤ 2 ^ 14 := Nat.pow_le_pow_right (by decide) (by omega)
  rw [bfpScaler, Nat.one_shiftLeft, BitVec.toInt_eq_toNat_of_lt, BitVec.toNat_ofNat,
    Nat.mod_eq_of_lt (by omega)]
  · push_cast
    rfl
  · rw [BitVec.toNat_ofNat, Nat.mod_eq_of_lt (by omega)]
    omega

/-- Only one-bit fields have a negative scaler, and what fits in them without a sign is zero. -/
lemma mul_bfpScaler {value : Int} (hadd : exponent.toNat + dataWidth ≤ 16) (hpos : 0 < dataWidth)
    (hfits : FitsIn dataWidth value) (hsign : 8 ≤ dataWidth ∨ 0 ≤ value) :
    value * bfpScaler exponent = value * 2 ^ exponent.toNat := by
  obtain hlt | hge := Nat.lt_or_ge exponent.toNat 15
  · rw [bfpScaler_of_lt hlt]
  obtain rfl : dataWidth = 1 := by omega
  have hzero : value = 0 := by
    have hhigh : value < 1 := hfits.2
    omega
  rw [hzero, Int.zero_mul, Int.zero_mul]

section

variable (hpos : 0 < dataWidth) (hle : dataWidth ≤ maxIqWidth)

include hpos hle

lemma decompressPrbGeneric_packed {buffer packed : Bytes}
    (hlen : buffer.length = 3 * dataWidth) {values : List (BitVec 16)}
    (hvalues : values.length = nofSamplesPerPrb)
    (hfits : ∀ value ∈ values, FitsIn dataWidth value.toInt)
    (hpack : packSamples dataWidth values buffer 0 = some packed) :
    decompressPrbGeneric toFloat dataWidth (exponent :: packed) =
      some (((toComplex (values.map BitVec.toInt)).map (scale (bfpScaler exponent))).map
        (toSample toFloat (quantizerGain qBitWidth))) := by
  have hbits : 0 + dataWidth * values.length ≤ 8 * buffer.length := by
    rw [hvalues, hlen, nofSamplesPerPrb, nofSubcarriersPerRb]
    omega
  have hread : unpackSamples packed dataWidth nofSubcarriersPerRb 0 =
      some (toComplex (values.map BitVec.toInt)) := by
    have hlow : (values.map fun value => value.toNat % 2 ^ dataWidth).map (signExtend dataWidth) =
        values.map BitVec.toInt := by
      rw [map_map]
      apply map_congr_left
      intro value hmem
      exact signExtend_of_fitsIn hpos hle (hfits value hmem)
    rw [← hlow]
    apply unpackSamples_of_unpackBits
    · rw [length_map, hvalues, nofSamplesPerPrb]
    · intro k hk
      rw [length_map] at hk
      rw [unpackBits_packSamples hpos hle hbits hpack hk, getElem_map]
  simp only [decompressPrbGeneric, hread, map_map]
  rfl

lemma scale_toComplex_shifted
    (hfits : ∀ sample ∈ prb.samples, FitsIn dataWidth (sample.toInt >>> prb.exponent dataWidth))
    (hsign : 8 ≤ dataWidth ∨ ∀ sample ∈ prb.samples, 0 ≤ sample.toInt) :
    let exponent := UInt8.ofNat (prb.exponent dataWidth)
    (toComplex ((prb.samples.map (·.sshiftRight (prb.exponent dataWidth))).map BitVec.toInt)).map
        (scale (bfpScaler exponent)) =
      toComplex (prb.samples.map (withoutLowBits exponent.toNat)) := by
  intro exponent
  have hexpo : exponent.toNat = prb.exponent dataWidth := toNat_exponent hle
  have hadd := determineExponent_add_le prb.maxAbs hle
  change (toComplex _).map (Prod.map (· * bfpScaler exponent) (· * bfpScaler exponent)) = _
  rw [map_toComplex, map_map, map_map]
  congr 1
  apply map_congr_left
  intro sample hmem
  have hscaled : (sample.toInt >>> prb.exponent dataWidth) * bfpScaler exponent =
      (sample.toInt >>> prb.exponent dataWidth) * 2 ^ exponent.toNat := by
    apply mul_bfpScaler (by rw [hexpo]; exact hadd) hpos (hfits sample hmem)
    apply hsign.imp_right
    intro hall
    rw [shiftRight_eq_div_pow]
    exact ediv_nonneg (hall sample hmem) (by positivity)
  simp only [Function.comp_apply, BitVec.toInt_sshiftRight, withoutLowBits, hscaled, hexpo]

lemma packSamples_prb_isSome_iff {buffer : Bytes} (hlen : buffer.length = 3 * dataWidth)
    {exponent : Nat} (hfits : ∀ sample ∈ prb.samples, FitsIn dataWidth (sample.toInt >>> exponent))
    : (packSamples dataWidth (prb.samples.map (·.sshiftRight exponent)) buffer 0).isSome ↔
      8 ≤ dataWidth ∨ ∀ sample ∈ prb.samples, 0 ≤ sample.toInt := by
  have hbits : 0 + dataWidth * (prb.samples.map (·.sshiftRight exponent)).length ≤
      8 * buffer.length := by
    rw [length_map, prb.length_samples, hlen, nofSamplesPerPrb, nofSubcarriersPerRb]
    omega
  have hpackable : ∀ sample ∈ prb.samples, PackableIn dataWidth (sample.sshiftRight exponent) ↔
      8 ≤ dataWidth ∨ 0 ≤ sample.toInt := by
    intro sample hmem
    have hnonneg : 0 ≤ sample.toInt >>> exponent ↔ 0 ≤ sample.toInt := by
      rw [shiftRight_eq_div_pow]
      exact ediv_nonneg_iff_of_pos (by positivity)
    rw [packableIn_iff hpos (by rw [BitVec.toInt_sshiftRight]; exact hfits sample hmem),
      BitVec.toInt_sshiftRight, hnonneg]
  rw [packSamples_isSome_iff hpos hle hbits, forall_mem_map]
  constructor
  · intro hall
    obtain hshort | hlong := Nat.lt_or_ge dataWidth 8
    · right
      intro sample hmem
      have hsample := (hpackable sample hmem).mp (hall sample hmem)
      omega
    · exact Or.inl hlong
  · intro hsign sample hmem
    rw [hpackable sample hmem]
    exact hsign.imp_right fun hall => hall sample hmem

end

lemma signBit_not_fitsIn (hlt : dataWidth < maxIqWidth) : ¬FitsIn dataWidth (-2 ^ 15) := by
  rintro ⟨hlow, -⟩
  have hmax : maxIqWidth = 16 := rfl
  have hpow : (2 : Int) ^ (dataWidth - 1) ≤ 2 ^ 14 := by
    apply pow_le_pow_right₀ (by decide)
    omega
  omega

/-- All blocks are restored but those of smallest values only and, in fields of less than a byte,
those with a negative sample. -/
theorem restores_iff (hpos : 0 < dataWidth) (hle : dataWidth ≤ maxIqWidth)
    (hlength : compPrbBuffer.length = getCompressedPrbSize ⟨.bfp, dataWidth⟩) :
    Restores toFloat prb dataWidth compPrbBuffer ↔
      (dataWidth = maxIqWidth ∨ ∃ sample ∈ prb.samples, sample.toInt ≠ -2 ^ 15) ∧
        (8 ≤ dataWidth ∨ ∀ sample ∈ prb.samples, 0 ≤ sample.toInt) := by
  rw [getCompressedPrbSize_of_bfp rfl] at hlength
  obtain ⟨first, buffer, rfl⟩ := exists_cons_of_length_eq_add_one hlength
  have hbuffer : buffer.length = 3 * dataWidth := by simpa using hlength
  have hexponent : (UInt8.ofNat (prb.exponent dataWidth)).toNat = prb.exponent dataWidth :=
    toNat_exponent hle
  constructor
  · rintro ⟨exponent, packed, hcompress, hsamples, -⟩
    obtain ⟨rfl, hpack⟩ := (compressPrbGeneric_eq_some_iff hpos hle first buffer).mp hcompress
    rw [hexponent] at hsamples
    constructor
    · obtain heq | hlt := hle.eq_or_lt
      · exact Or.inl heq
      right
      by_contra hall
      push Not at hall
      obtain ⟨sample, hmem⟩ := exists_mem_of_length_pos
        (prb.length_samples ▸ (by decide : 0 < nofSamplesPerPrb))
      have hfits := (hsamples sample hmem).1
      rw [exponent_of_forall_signBit hall, hall sample hmem] at hfits
      exact signBit_not_fitsIn hlt hfits
    · apply (packSamples_prb_isSome_iff hpos hle hbuffer fun sample hmem =>
        (hsamples sample hmem).1).mp
      rw [hpack]
      rfl
  · rintro ⟨hother, hsign⟩
    have hfits : ∀ sample ∈ prb.samples,
        FitsIn dataWidth (sample.toInt >>> prb.exponent dataWidth) :=
      fun sample hmem => exponent_fits hpos hle hother hmem
    obtain ⟨packed, hpack⟩ := Option.isSome_iff_exists.mp
      ((packSamples_prb_isSome_iff hpos hle hbuffer hfits).mpr hsign)
    refine ⟨UInt8.ofNat (prb.exponent dataWidth), packed,
      (compressPrbGeneric_eq_some_iff hpos hle first buffer).mpr ⟨rfl, hpack⟩, ?_, ?_⟩
    · intro sample hmem
      rw [hexponent]
      exact ⟨hfits sample hmem, abs_sub_withoutLowBits_lt _ _⟩
    · rw [decompressPrbGeneric_packed hpos hle hbuffer (by rw [length_map, prb.length_samples])
        (by simpa using hfits) hpack,
        scale_toComplex_shifted hpos hle hfits hsign]

def mixedPrb : QuantizedPrb :=
  ⟨[-32768, 32767] ++ replicate 22 (-3), by decide⟩

theorem mixedPrb_restored : Restores (fun value _ => value) mixedPrb 9 (replicate 28 0) :=
  (restores_iff (by decide) (by decide) (by decide)).mpr (by decide)

def smallestPrb : QuantizedPrb := ⟨replicate 24 (-32768), by decide⟩

def minusOnePrb : QuantizedPrb := ⟨replicate 24 (-1), by decide⟩

/-- A block of smallest values is not shifted, and negative samples in four bits fail the
assertion. -/
theorem smallestPrb_minusOnePrb_not_restored :
    ¬Restores (fun value _ => value) smallestPrb 9 (0 :: replicate 27 0) ∧
      ¬Restores (fun value _ => value) minusOnePrb 4 (0 :: replicate 12 0) := by
  constructor
  · rintro ⟨exponent, packed, hcompress, hsamples, -⟩
    obtain ⟨rfl, -⟩ := (compressPrbGeneric_eq_some_iff (by decide) (by decide) 0 _).mp hcompress
    have hall : ∀ sample ∈ smallestPrb.samples, sample.toInt = -2 ^ 15 := by
      intro sample hmem
      rw [eq_of_mem_replicate hmem]
      decide
    have hmem : -32768 ∈ smallestPrb.samples := by decide
    have hfits := (hsamples _ hmem).1
    rw [toNat_exponent (by decide), exponent_of_forall_signBit hall, hall _ hmem,
      Int.shiftRight_zero] at hfits
    exact signBit_not_fitsIn (by decide) hfits
  · rintro ⟨exponent, packed, hcompress, hsamples, -⟩
    obtain ⟨rfl, hpack⟩ :=
      (compressPrbGeneric_eq_some_iff (by decide) (by decide) 0 _).mp hcompress
    rw [toNat_exponent (by decide)] at hsamples
    have hlength : (replicate 12 (0 : UInt8)).length = 3 * 4 := length_replicate
    have hsign := (packSamples_prb_isSome_iff (by decide) (by decide) hlength
      fun sample hmem => (hsamples sample hmem).1).mp (by rw [hpack]; rfl)
    obtain hlong | hall := hsign
    · exact absurd hlong (by decide)
    · exact absurd (hall (-1) (by decide)) (by decide)

end

end ProtoRu.BfpCompression
