import Mathlib.Algebra.Order.Ring.Abs
import Mathlib.Tactic.LinearCombination
import Mathlib.Tactic.Linarith
import ProtoRu.CplaneRoundTrip
import ProtoRu.PrachFrequencyMapping

namespace ProtoRu.Prach

open Cplane

inductive PrachFormatType where
  | zero
  | one
  | two
  | three
  | a1
  | a2
  | a3
  | b1
  | b4
  | c0
  | c2
  | a1b1
  | a2b2
  | a3b3
  deriving DecidableEq

def isLongPreamble : PrachFormatType → Bool
  | .zero | .one | .two | .three => true
  | _ => false

/-- The length of the cyclic prefix is in units of kappa, which are samples at
30.72 MHz. -/
structure PrachPreambleInformation where
  sequenceLength : Nat
  scs : PrachSubcarrierSpacing
  nofSymbols : Nat
  cpLength : Nat

def getPrachPreambleLongInfo : PrachFormatType → PrachPreambleInformation
  | .zero => ⟨839, .kHz1p25, 1, 3168⟩
  | .one => ⟨839, .kHz1p25, 2, 21024⟩
  | .two => ⟨839, .kHz1p25, 4, 4688⟩
  | _ => ⟨839, .kHz5, 4, 3168⟩

def toPrachNumerologyValue : PrachSubcarrierSpacing → Nat
  | .kHz15 => 0
  | .kHz30 => 1
  | .kHz60 => 2
  | .kHz120 => 3
  | .kHz1p25 => 4
  | .kHz5 => 5
  | .invalid => 6

def getPrachPreambleShortInfo (format : PrachFormatType) (raScs : PrachSubcarrierSpacing)
    (lastOccasion : Bool) : PrachPreambleInformation :=
  let cp (kappa : Nat) : Nat := kappa >>> toPrachNumerologyValue raScs
  match format with
  | .a1 => ⟨139, raScs, 2, cp 288⟩
  | .a2 => ⟨139, raScs, 4, cp 576⟩
  | .a3 => ⟨139, raScs, 6, cp 864⟩
  | .b1 => ⟨139, raScs, 2, cp 216⟩
  | .b4 => ⟨139, raScs, 12, cp 936⟩
  | .c0 => ⟨139, raScs, 1, cp 1240⟩
  | .c2 => ⟨139, raScs, 4, cp 2048⟩
  | .a1b1 => ⟨139, raScs, 2, if lastOccasion then cp 216 else cp 288⟩
  | .a2b2 => ⟨139, raScs, 4, if lastOccasion then cp 360 else cp 576⟩
  | _ => ⟨139, raScs, 6, if lastOccasion then cp 504 else cp 864⟩

def preambleInformation (format : PrachFormatType) (puschScs : SubcarrierSpacing) :
    PrachPreambleInformation :=
  if isLongPreamble format then getPrachPreambleLongInfo format
  else getPrachPreambleShortInfo format (toRaSubcarrierSpacing puschScs) true

structure PrachBufferContext where
  slot : SlotPoint
  format : PrachFormatType
  puschScs : SubcarrierSpacing
  rbOffset : Nat
  startSymbol : Nat
  numerology_eq : slot.numerology = toNumerologyValue puschScs
  startSymbol_lt : startSymbol < maxNsymbPerSlot

namespace PrachBufferContext

variable (context : PrachBufferContext)

def preambleInfo : PrachPreambleInformation :=
  preambleInformation context.format context.puschScs

def mapping : PrachFrequencyMappingInformation :=
  prachFrequencyMappingGet context.preambleInfo.scs context.puschScs

/-- The last symbol that starts before the preamble, in symbols of 15 kHz for long
preambles. -/
def prachStartSymbol : Nat :=
  let numerology :=
    if isLongPreamble context.format then 0 else toPrachNumerologyValue context.preambleInfo.scs
  context.startSymbol + context.preambleInfo.cpLength / ((144 + 2048) >>> numerology)

def prachCplaneFilterIndex : FilterIndexType :=
  if context.format = .three then .ulPrachPreamble5kHz
  else if isLongPreamble context.format then .ulPrachPreamble1p25khz
  else if context.format = .c0 ∨ context.format = .c2 then
    if context.preambleInfo.scs = .kHz15 then .ulPrachPreambleShort15kHz
    else .ulPrachPreambleShort30kHz
  else .ulPrachPreambleShort

end PrachBufferContext

open PrachBufferContext

structure DataFlowCplaneSchedulingPrachContext where
  slot : SlotPoint
  filterType : FilterIndexType
  startSymbol : Nat
  nofRepetitions : Nat
  scs : SubcarrierSpacing
  prachScs : PrachSubcarrierSpacing
  prachStartRe : Nat
  prachNofRb : Nat
  timeOffset : Nat

/-- Number of PRACH subcarriers in a PUSCH subcarrier, rounded down. -/
def subcarrierRatio (prachScs : PrachSubcarrierSpacing) (puschScs : SubcarrierSpacing) : Nat :=
  1000 * scsToKhz puschScs / raScsToHz prachScs

def handlePrachOccasion (context : PrachBufferContext) : DataFlowCplaneSchedulingPrachContext :=
  let info := context.preambleInfo
  let ratio := subcarrierRatio info.scs context.puschScs
  { slot := context.slot
    filterType := context.prachCplaneFilterIndex
    startSymbol := context.prachStartSymbol
    nofRepetitions := info.nofSymbols
    scs := context.puschScs
    prachScs := info.scs
    prachStartRe := context.rbOffset * ratio * nofSubcarriersPerRb
    prachNofRb := context.mapping.nofRbRa * ratio
    timeOffset := if isLongPreamble context.format then info.cpLength else info.cpLength + 16 }

def cplaneConvertScs : PrachSubcarrierSpacing → CplaneScs
  | .kHz1p25 => .kHz1p25
  | .kHz5 => .kHz5
  | .kHz15 => .kHz15
  | .kHz30 => .kHz30
  | .kHz60 => .kHz60
  | .kHz120 => .kHz120
  | .invalid => .other 6

lemma toPrachSubcarrierSpacing_cplaneConvertScs (scs : PrachSubcarrierSpacing) :
    toPrachSubcarrierSpacing (toCplaneScs (cplaneConvertScs scs).toValue) = scs := by
  cases scs <;> rfl

/-- The conversion of a floating point value to an integer. -/
def truncate (value : Rat) : Int := value.num.tdiv value.den

/-- In half PRACH subcarriers from the carrier centre: 32-bit products, and exact quotients of
doubles. -/
def frequencyOffset (context : DataFlowCplaneSchedulingPrachContext) (ruNofPrb : Nat) : Int :=
  let offsetToPrachHz : Rat := (context.prachStartRe * raScsToHz context.prachScs % 2 ^ 32 : Nat)
  let totalBwHz : Rat :=
    (1000 * scsToKhz context.scs * ruNofPrb * nofSubcarriersPerRb % 2 ^ 32 : Nat)
  let freqOffsetHz : Rat := -(totalBwHz / 2 - offsetToPrachHz)
  truncate (freqOffsetHz / (raScsToHz context.prachScs / 2 : Nat))

def generatePrachControlParameters (context : DataFlowCplaneSchedulingPrachContext)
    (comp : RuCompressionParams) (ruNofPrb : Nat) (fftLen : CplaneFftSize) :
    CplaneSectionType3Parameters where
  radioHdr := ⟨.uplink, context.filterType, context.startSymbol, context.slot⟩
  sectionFields := ⟨0, 0, context.prachNofRb, 0xfff, context.nofRepetitions⟩
  frequencyOffset := frequencyOffset context ruNofPrb
  comprParams := comp
  scs := cplaneConvertScs context.prachScs
  fftSize := fftLen
  cpLength := 0
  timeOffset := context.timeOffset

lemma truncate_intCast (value : Int) : truncate value = value := by
  simp [truncate]

variable (prachScs : PrachSubcarrierSpacing)

lemma raScsToHz_even : 2 * (raScsToHz prachScs / 2) = raScsToHz prachScs := by
  cases prachScs <;> rfl

variable (puschScs : SubcarrierSpacing)

lemma scsToKhz_bounds : 15 ≤ scsToKhz puschScs ∧ scsToKhz puschScs ≤ 240 := by
  cases puschScs <;> decide

def maxCarrierPrbs : Nat := 275

lemma halfSubcarriers_exact {khz ratio half : Nat} (hhalf : 0 < half)
    (hkhz : 1000 * khz = 2 * ratio * half) (rbOffset ruNofPrb : Nat) :
    -(((ruNofPrb * (12000 * khz) : Nat) : Rat) / 2 - ((rbOffset * (12000 * khz) : Nat) : Rat)) /
        half = ((12 * ratio * (2 * rbOffset - ruNofPrb) : Int) : Rat) := by
  have hne : (half : Rat) ≠ 0 := by exact_mod_cast hhalf.ne'
  have hcast : (1000 * khz : Rat) = 2 * ratio * half := by exact_mod_cast hkhz
  rw [div_eq_iff hne]
  push_cast
  linear_combination (6 * (2 * (rbOffset : Rat) - ruNofPrb)) * hcast

section

variable {prachScs : PrachSubcarrierSpacing} {puschScs : SubcarrierSpacing}
  (hdvd : raScsToHz prachScs ∣ 1000 * scsToKhz puschScs)

include hdvd

lemma subcarrierRatio_mul :
    subcarrierRatio prachScs puschScs * raScsToHz prachScs = 1000 * scsToKhz puschScs :=
  Nat.div_mul_cancel hdvd

lemma raScsToHz_pos_of_dvd : 0 < raScsToHz prachScs := by
  have hbounds := scsToKhz_bounds puschScs
  exact Nat.pos_of_dvd_of_pos hdvd (by omega)

omit hdvd in
lemma carrierWidth_lt (puschScs : SubcarrierSpacing) {ruNofPrb : Nat}
    (hwidth : ruNofPrb ≤ maxCarrierPrbs) : ruNofPrb * (12000 * scsToKhz puschScs) < 2 ^ 32 := by
  calc ruNofPrb * (12000 * scsToKhz puschScs) ≤ 275 * (12000 * 240) :=
        Nat.mul_le_mul hwidth (Nat.mul_le_mul_left _ (scsToKhz_bounds puschScs).2)
    _ < 2 ^ 32 := by decide

lemma frequencyOffset_eq {context : DataFlowCplaneSchedulingPrachContext}
    {rbOffset ruNofPrb : Nat} (hprachScs : context.prachScs = prachScs)
    (hscs : context.scs = puschScs) (hstart : context.prachStartRe =
      rbOffset * subcarrierRatio prachScs puschScs * nofSubcarriersPerRb)
    (hrbOffset : rbOffset ≤ ruNofPrb) (hwidth : ruNofPrb ≤ maxCarrierPrbs) :
    frequencyOffset context ruNofPrb =
      12 * subcarrierRatio prachScs puschScs * (2 * rbOffset - ruNofPrb) := by
  have hratio := subcarrierRatio_mul hdvd
  have hpos := raScsToHz_pos_of_dvd hdvd
  have heven := raScsToHz_even prachScs
  have hpusch : 1000 * scsToKhz puschScs =
      2 * subcarrierRatio prachScs puschScs * (raScsToHz prachScs / 2) := by
    calc 1000 * scsToKhz puschScs
        = subcarrierRatio prachScs puschScs * (2 * (raScsToHz prachScs / 2)) := by
          rw [heven, hratio]
      _ = 2 * subcarrierRatio prachScs puschScs * (raScsToHz prachScs / 2) := by ring
  have hoffsetHz : rbOffset * subcarrierRatio prachScs puschScs * nofSubcarriersPerRb *
      raScsToHz prachScs = rbOffset * (12000 * scsToKhz puschScs) := by
    calc rbOffset * subcarrierRatio prachScs puschScs * nofSubcarriersPerRb * raScsToHz prachScs
        = rbOffset * 12 * (subcarrierRatio prachScs puschScs * raScsToHz prachScs) := by
          simp only [nofSubcarriersPerRb]
          ring
      _ = rbOffset * (12000 * scsToKhz puschScs) := by
          rw [hratio]
          ring
  have htotalHz : 1000 * scsToKhz puschScs * ruNofPrb * nofSubcarriersPerRb =
      ruNofPrb * (12000 * scsToKhz puschScs) := by
    simp only [nofSubcarriersPerRb]
    ring
  have hbound := carrierWidth_lt puschScs hwidth
  have hbound' : rbOffset * (12000 * scsToKhz puschScs) < 2 ^ 32 :=
    (Nat.mul_le_mul_right _ hrbOffset).trans_lt hbound
  simp only [frequencyOffset]
  rw [hprachScs, hscs, hstart, hoffsetHz, htotalHz, Nat.mod_eq_of_lt hbound,
    Nat.mod_eq_of_lt hbound']
  rw [halfSubcarriers_exact (by omega) hpusch, truncate_intCast]

lemma calculatePrachRbOffset_eq_some {rbOffset ruNofPrbs : Nat}
    (hsupp : (prachFrequencyMappingGet prachScs puschScs).nofRbRa ≠ 0)
    (hfits : rbOffset + (prachFrequencyMappingGet prachScs puschScs).nofRbRa ≤ ruNofPrbs) :
    calculatePrachRbOffset (12 * subcarrierRatio prachScs puschScs * (2 * rbOffset - ruNofPrbs))
      prachScs puschScs ruNofPrbs = some rbOffset := by
  have hbounds := scsToKhz_bounds puschScs
  have hratio : (subcarrierRatio prachScs puschScs * raScsToHz prachScs : Int) =
      1000 * scsToKhz puschScs := by exact_mod_cast subcarrierRatio_mul hdvd
  have htwice : (scsToKhz puschScs * 1000 * nofSubcarriersPerRb : Int) * ruNofPrbs +
      12 * subcarrierRatio prachScs puschScs * (2 * rbOffset - ruNofPrbs) * raScsToHz prachScs =
        2 * (scsToKhz puschScs * 1000 * nofSubcarriersPerRb) * rbOffset := by
    simp only [nofSubcarriersPerRb]
    linear_combination (12 * (2 * (rbOffset : Int) - ruNofPrbs)) * hratio
  have hpos : (0 : Int) < 2 * (scsToKhz puschScs * 1000 * nofSubcarriersPerRb) := by
    simp only [nofSubcarriersPerRb]
    omega
  simp only [calculatePrachRbOffset]
  rw [if_neg hsupp, htwice, Int.mul_tdiv_cancel_left _ hpos.ne', Int.toNat_natCast]
  have hnonneg : (0 : Int) ≤ 2 * (scsToKhz puschScs * 1000 * nofSubcarriersPerRb) * rbOffset :=
    Int.mul_nonneg hpos.le (Int.natCast_nonneg _)
  rw [if_neg (by simp [hnonneg]), if_neg (not_lt.mpr hfits)]

end

/-- The allocation lies between the edges of the carrier, in doubled frequencies from its centre.
-/
structure InsideCarrier (frequencyOffset : Int) (prachScs : PrachSubcarrierSpacing)
    (puschScs : SubcarrierSpacing) (ruNofPrbs : Nat) : Prop where
  nofRbRa_pos : 0 < (prachFrequencyMappingGet prachScs puschScs).nofRbRa
  lower : -(ruNofPrbs * (scsToKhz puschScs * 1000 * nofSubcarriersPerRb) : Int) ≤
    frequencyOffset * raScsToHz prachScs
  upper : frequencyOffset * raScsToHz prachScs +
      2 * ((prachFrequencyMappingGet prachScs puschScs).nofRbRa *
        (scsToKhz puschScs * 1000 * nofSubcarriersPerRb)) ≤
    (ruNofPrbs * (scsToKhz puschScs * 1000 * nofSubcarriersPerRb) : Int)

lemma insideCarrier_of_eq_some {frequencyOffset : Int} {prachScs : PrachSubcarrierSpacing}
    {puschScs : SubcarrierSpacing} {ruNofPrbs rbOffset : Nat}
    (h : calculatePrachRbOffset frequencyOffset prachScs puschScs ruNofPrbs = some rbOffset) :
    InsideCarrier frequencyOffset prachScs puschScs ruNofPrbs := by
  simp only [calculatePrachRbOffset] at h
  split at h
  · cases h
  rename_i hsupp
  split at h
  · cases h
  rename_i hwhole
  split at h
  · cases h
  rename_i hfits
  rw [not_or, not_lt, not_not] at hwhole
  obtain ⟨hnonneg, hmod⟩ := hwhole
  have hdiv := Int.mul_tdiv_add_tmod (scsToKhz puschScs * 1000 * nofSubcarriersPerRb * ruNofPrbs +
      frequencyOffset * raScsToHz prachScs : Int)
    (2 * (scsToKhz puschScs * 1000 * nofSubcarriersPerRb))
  have hbw : (0 : Int) ≤ scsToKhz puschScs * 1000 * nofSubcarriersPerRb := by positivity
  have hquot := Int.tdiv_nonneg hnonneg (show (0 : Int) ≤
    2 * (scsToKhz puschScs * 1000 * nofSubcarriersPerRb) by linarith)
  have hfits' : (_ : Int) ≤ ruNofPrbs := Int.ofNat_le.mpr (not_lt.mp hfits)
  rw [Nat.cast_add, Int.toNat_of_nonneg hquot] at hfits'
  have hscaled := mul_le_mul_of_nonneg_left hfits' hbw
  exact ⟨Nat.pos_of_ne_zero hsupp, by linarith, by linarith⟩

section

variable (context : PrachBufferContext)

lemma raScsToHz_dvd_of_supported (hsupp : context.mapping.nofRbRa ≠ 0) :
    raScsToHz context.preambleInfo.scs ∣ 1000 * scsToKhz context.puschScs := by
  revert hsupp
  simp only [mapping, preambleInfo]
  generalize context.format = format
  generalize context.puschScs = puschScs
  cases puschScs <;> cases format <;> decide

lemma preambleInformation_bounds (format : PrachFormatType) (puschScs : SubcarrierSpacing) :
    (preambleInformation format puschScs).nofSymbols < 2 ^ 4 ∧
      (preambleInformation format puschScs).cpLength + 16 < 2 ^ 16 := by
  cases puschScs <;> cases format <;> decide

lemma prachStartSymbol_lt : context.prachStartSymbol < 2 ^ 6 := by
  have hstart := context.startSymbol_lt
  have hcp : context.prachStartSymbol ≤ context.startSymbol + 9 := by
    apply Nat.add_le_add_left
    simp only [preambleInfo]
    generalize context.format = format
    generalize context.puschScs = puschScs
    cases puschScs <;> cases format <;> decide
  simp only [maxNsymbPerSlot] at hstart
  omega

lemma subcarrierRatio_le : subcarrierRatio prachScs puschScs ≤ 192 := by
  cases prachScs <;> cases puschScs <;> decide

variable {ruNofPrbs : Nat}

lemma abs_frequencyOffset_le {rbOffset : Nat} (hrbOffset : rbOffset ≤ ruNofPrbs)
    (hwidth : ruNofPrbs ≤ maxCarrierPrbs) :
    |(12 * subcarrierRatio prachScs puschScs * (2 * rbOffset - ruNofPrbs) : Int)| ≤
      12 * 192 * maxCarrierPrbs := by
  have hratio : (12 * subcarrierRatio prachScs puschScs : Int) ≤ 12 * 192 := by
    have hle := subcarrierRatio_le prachScs puschScs
    omega
  have hdist : |(2 * rbOffset - ruNofPrbs : Int)| ≤ maxCarrierPrbs := by
    rw [abs_le]
    omega
  rw [abs_mul, abs_of_nonneg (show (0 : Int) ≤ 12 * subcarrierRatio prachScs puschScs by
    positivity)]
  exact mul_le_mul hratio hdist (abs_nonneg _) (by decide)

lemma frequencyOffset_handlePrachOccasion (hwidth : ruNofPrbs ≤ maxCarrierPrbs)
    (hsupp : context.mapping.nofRbRa ≠ 0)
    (hfits : context.rbOffset + context.mapping.nofRbRa ≤ ruNofPrbs) :
    frequencyOffset (handlePrachOccasion context) ruNofPrbs =
      12 * subcarrierRatio context.preambleInfo.scs context.puschScs *
        (2 * context.rbOffset - ruNofPrbs) :=
  frequencyOffset_eq (raScsToHz_dvd_of_supported context hsupp) rfl rfl rfl
    (Nat.le_of_add_right_le hfits) hwidth

lemma type3InRange_of_supported {comp : RuCompressionParams} (hcomp : ComprParamsInRange comp)
    (fftLen : CplaneFftSize) (hwidth : ruNofPrbs ≤ maxCarrierPrbs)
    (hsupp : context.mapping.nofRbRa ≠ 0)
    (hfits : context.rbOffset + context.mapping.nofRbRa ≤ ruNofPrbs) : Type3InRange context.puschScs
      (generatePrachControlParameters (handlePrachOccasion context) comp ruNofPrbs fftLen) := by
  obtain ⟨hsyms, hcp⟩ := preambleInformation_bounds context.format context.puschScs
  have hoff := frequencyOffset_handlePrachOccasion context hwidth hsupp hfits
  have habs := abs_frequencyOffset_le context.preambleInfo.scs context.puschScs
    (Nat.le_of_add_right_le hfits) hwidth
  rw [abs_le, maxCarrierPrbs] at habs
  exact {
    radioHdr := ⟨context.numerology_eq, prachStartSymbol_lt context⟩
    sectionFields := ⟨Nat.two_pow_pos 12, Nat.two_pow_pos 10, show 0xfff < 2 ^ 12 by decide, hsyms⟩
    comprParams := hcomp
    frequencyOffset_ge := by
      change -2 ^ 23 ≤ frequencyOffset (handlePrachOccasion context) ruNofPrbs
      omega
    frequencyOffset_lt := by
      change frequencyOffset (handlePrachOccasion context) ruNofPrbs < 2 ^ 23
      omega
    scs_lt := by
      change (cplaneConvertScs context.preambleInfo.scs).toValue < 2 ^ 4
      cases context.preambleInfo.scs <;> decide
    cpLength_lt := Nat.two_pow_pos 16
    timeOffset_lt := by
      change (if _ then context.preambleInfo.cpLength else context.preambleInfo.cpLength + 16) < _
      simp only [preambleInfo]
      split <;> omega }

/-- The O-DU and the RU agree on where an occasion starts, and it lies inside the carrier. -/
theorem prachRbOffset_agrees (kind : ComprHeaderKind) (comp : RuCompressionParams)
    (hcomp : ComprParamsInRange comp) (fftLen : CplaneFftSize) (ruNofPrbs : Nat)
    (hwidth : ruNofPrbs ≤ maxCarrierPrbs) (hsupported : context.mapping.nofRbRa ≠ 0)
    (hfits : context.rbOffset + context.mapping.nofRbRa ≤ ruNofPrbs) :
    (∃ results, decode context.puschScs (buildPrachMixedNumerologyMessage kind
        (generatePrachControlParameters (handlePrachOccasion context) comp ruNofPrbs fftLen)) =
          some results ∧
        calculatePrachRbOffset results.frequencyOffset
          (toPrachSubcarrierSpacing results.frameStructureScs) context.puschScs ruNofPrbs =
            some context.rbOffset) ∧
    ∀ frequencyOffset prachScs puschScs nofPrbs rbOffset,
      calculatePrachRbOffset frequencyOffset prachScs puschScs nofPrbs = some rbOffset →
        InsideCarrier frequencyOffset prachScs puschScs nofPrbs := by
  refine ⟨⟨_, decode_buildPrachMixedNumerologyMessage kind
    (type3InRange_of_supported context hcomp fftLen hwidth hsupported hfits), ?_⟩,
    fun _ _ _ _ _ => insideCarrier_of_eq_some⟩
  change calculatePrachRbOffset (frequencyOffset (handlePrachOccasion context) ruNofPrbs)
    (toPrachSubcarrierSpacing (toCplaneScs (cplaneConvertScs context.preambleInfo.scs).toValue))
    context.puschScs ruNofPrbs = some context.rbOffset
  rw [toPrachSubcarrierSpacing_cplaneConvertScs,
    frequencyOffset_handlePrachOccasion context hwidth hsupported hfits]
  exact calculatePrachRbOffset_eq_some (raScsToHz_dvd_of_supported context hsupported)
    hsupported hfits

end

def exampleOccasion : PrachBufferContext where
  slot := ⟨1, 19⟩
  format := .b4
  puschScs := .kHz30
  rbOffset := 3
  startSymbol := 0
  numerology_eq := rfl
  startSymbol_lt := by decide

theorem exampleOccasion_agrees : exampleOccasion.mapping.nofRbRa = 12 ∧ ((∃ results,
        decode .kHz30 (buildPrachMixedNumerologyMessage .dynamicHeader
          (generatePrachControlParameters (handlePrachOccasion exampleOccasion) ⟨.bfp, 9⟩ 273
            .fft4096)) = some results ∧
          calculatePrachRbOffset results.frequencyOffset
            (toPrachSubcarrierSpacing results.frameStructureScs) .kHz30 273 = some 3) ∧
      ∀ frequencyOffset prachScs puschScs nofPrbs rbOffset,
        calculatePrachRbOffset frequencyOffset prachScs puschScs nofPrbs = some rbOffset →
          InsideCarrier frequencyOffset prachScs puschScs nofPrbs) :=
  ⟨rfl, prachRbOffset_agrees exampleOccasion .dynamicHeader ⟨.bfp, 9⟩
    ⟨by decide, by decide⟩ .fft4096 273 (by decide) (by decide) (by decide)⟩

end ProtoRu.Prach
