import ProtoRu.GpsSlotAlignment
import ProtoRu.UplinkRequestRepository

namespace ProtoRu.PrachPeeking

open GpsSlots

structure RuPrachOccasion where
  slot : SlotPoint
  eaxc : Nat
  startSymbol : Nat
  rbOffset : Nat
  prachScs : PrachSubcarrierSpacing

def peekPrachOccasion (prachEaxc : EaxcList) (prachRequestRepo : RuUplinkRequestRepository)
    (slot : SlotPoint) : Option RuPrachOccasion :=
  prachEaxc.values.findSome? fun eaxc => (prachRequestRepo.get slot eaxc).map fun request =>
    ⟨slot, eaxc, request.startSymbol, request.prachStartRb, request.prachScs⟩

structure RuEmulatorTtiOrchestratorConfig where
  sector : Nat
  nofPrb : Nat
  nofUlPorts : Nat
  scs : SubcarrierSpacing
  prachEaxc : EaxcList
  prachPeekLookbackSlots : Nat

structure PrachBufferContext where
  slot : SlotPoint
  sector : Nat
  ports : List Nat
  nofPrbUlGrid : Nat
  puschScs : SubcarrierSpacing
  startSymbol : Nat
  rbOffset : Nat

structure TtiRequests where
  uplinkCapture : Option SlotPoint
  prachCapture : Option PrachBufferContext

section

variable (config : RuEmulatorTtiOrchestratorConfig) (gpsSlotOffset : Nat)

def prachRadioSlot (radioSlot : SlotPoint) : SlotPoint :=
  radioSlot.sub config.prachPeekLookbackSlots

def prachOfhSlot (radioSlot : SlotPoint) : SlotPoint :=
  (toOfhSlot radioSlot gpsSlotOffset).sub config.prachPeekLookbackSlots

def prachContext (radioSlot : SlotPoint) (occasion : RuPrachOccasion) : PrachBufferContext where
  slot := prachRadioSlot config radioSlot
  sector := config.sector
  ports := List.range (max 1 config.nofUlPorts)
  nofPrbUlGrid := config.nofPrb
  puschScs := config.scs
  startSymbol := occasion.startSymbol
  rbOffset := occasion.rbOffset

def onTtiBoundary (prachRequestRepo : RuUplinkRequestRepository)
    (ulGridAvailable prachBufferAvailable : Bool) (radioSlot : SlotPoint) : TtiRequests where
  uplinkCapture := if ulGridAvailable then some radioSlot else none
  prachCapture :=
    match peekPrachOccasion config.prachEaxc prachRequestRepo
        (prachOfhSlot config gpsSlotOffset radioSlot) with
    | none => none
    | some occasion =>
      if occasion.prachScs ≠ toRaSubcarrierSpacing config.scs then none
      else if prachBufferAvailable then some (prachContext config radioSlot occasion)
      else none

/-- The lookup uses the wire slot on which the radio slot airs, and finds what is recorded for it.
-/
structure LookbackCommutes (radioSlot : SlotPoint) : Prop where
  slot_eq : prachOfhSlot config gpsSlotOffset radioSlot =
    toOfhSlot (prachRadioSlot config radioSlot) gpsSlotOffset
  found : ∀ (prachRequestRepo : RuUplinkRequestRepository) (eaxc : Nat)
      (request : RuUplinkRequest), eaxc ∈ config.prachEaxc.values →
    prachRequestRepo.get (toOfhSlot (prachRadioSlot config radioSlot) gpsSlotOffset) eaxc =
      some request →
    (peekPrachOccasion config.prachEaxc prachRequestRepo
      (prachOfhSlot config gpsSlotOffset radioSlot)).isSome

end

lemma sub_count_cast (slot : SlotPoint) (jump : Nat) : ((slot.sub jump).count : Int) =
      ((slot.count : Int) - jump) % slot.nofSlotsPerHyperSystemFrame :=
  truncWrap_cast slot.nofSlotsPerHyperSystemFrame_pos ((slot.count : Int) + -(jump : Int))

section

variable (config : RuEmulatorTtiOrchestratorConfig) (gpsSlotOffset : Nat) (radioSlot : SlotPoint)

lemma toOfhSlot_prachRadioSlot_count_cast :
    ((toOfhSlot (prachRadioSlot config radioSlot) gpsSlotOffset).count : Int) =
      (((toOfhSlot radioSlot gpsSlotOffset).count : Int) - config.prachPeekLookbackSlots) %
        nofSlotsPerOfhPeriod radioSlot.numerology := by
  have hdvd : (nofSlotsPerOfhPeriod radioSlot.numerology : Int) ∣
      radioSlot.nofSlotsPerHyperSystemFrame :=
    Int.natCast_dvd_natCast.mpr (nofSlotsPerOfhPeriod_dvd_hyper radioSlot)
  have hradio : ((prachRadioSlot config radioSlot).count : Int) %
        nofSlotsPerOfhPeriod radioSlot.numerology =
      ((radioSlot.count : Int) - config.prachPeekLookbackSlots) %
        nofSlotsPerOfhPeriod radioSlot.numerology := by
    rw [prachRadioSlot, sub_count_cast, Int.emod_emod_of_dvd _ hdvd]
  calc ((toOfhSlot (prachRadioSlot config radioSlot) gpsSlotOffset).count : Int)
      = ((prachRadioSlot config radioSlot).count + (gpsSlotOffset : Int)) %
          nofSlotsPerOfhPeriod radioSlot.numerology := by
        exact_mod_cast rfl
    _ = ((radioSlot.count : Int) + gpsSlotOffset - config.prachPeekLookbackSlots) %
          nofSlotsPerOfhPeriod radioSlot.numerology := by
        rw [← Int.emod_add_emod, hradio, Int.emod_add_emod, sub_add_eq_add_sub]
    _ = (((toOfhSlot radioSlot gpsSlotOffset).count : Int) - config.prachPeekLookbackSlots) %
          nofSlotsPerOfhPeriod radioSlot.numerology := by
        rw [← Int.emod_sub_emod]
        exact_mod_cast rfl

lemma prachOfhSlot_eq_iff (hlookback : config.prachPeekLookbackSlots ≤ radioSlot.nofSlotsPerFrame)
    : prachOfhSlot config gpsSlotOffset radioSlot =
        toOfhSlot (prachRadioSlot config radioSlot) gpsSlotOffset ↔
      config.prachPeekLookbackSlots ≤ (toOfhSlot radioSlot gpsSlotOffset).count := by
  have hcount : prachOfhSlot config gpsSlotOffset radioSlot =
        toOfhSlot (prachRadioSlot config radioSlot) gpsSlotOffset ↔
      ((prachOfhSlot config gpsSlotOffset radioSlot).count : Int) =
        (toOfhSlot (prachRadioSlot config radioSlot) gpsSlotOffset).count := by
    rw [SlotPoint.ext_iff, Int.natCast_inj]
    exact and_iff_right rfl
  have hhyper : (toOfhSlot radioSlot gpsSlotOffset).nofSlotsPerHyperSystemFrame = _ :=
    nofSlotsPerHyperSystemFrame_eq_four_mul radioSlot
  have hframe := nofSlotsPerFrame_le_period radioSlot
  have hwire : (toOfhSlot radioSlot gpsSlotOffset).count < _ :=
    Nat.mod_lt _ (nofSlotsPerOfhPeriod_pos radioSlot.numerology)
  rw [hcount, prachOfhSlot, sub_count_cast, toOfhSlot_prachRadioSlot_count_cast,
    emod_eq_emod_iff_nonneg (by omega) (by omega) (by omega) (by omega)]
  omega

/-- The two ways of going back agree until the lookback steps over the wrap of the
wire numbering. -/
theorem lookbackCommutes_iff_le_wire (radioSlot : SlotPoint)
    (hlookback : config.prachPeekLookbackSlots ≤ radioSlot.nofSlotsPerFrame) :
    LookbackCommutes config gpsSlotOffset radioSlot ↔ config.prachPeekLookbackSlots ≤
        (radioSlot.count + gpsSlotOffset) % nofSlotsPerOfhPeriod radioSlot.numerology := by
  constructor
  · intro hcommutes
    exact (prachOfhSlot_eq_iff config gpsSlotOffset radioSlot hlookback).mp hcommutes.slot_eq
  · intro hle
    have heq := (prachOfhSlot_eq_iff config gpsSlotOffset radioSlot hlookback).mpr hle
    refine ⟨heq, ?_⟩
    intro prachRequestRepo eaxc request heaxc hget
    rw [← heq] at hget
    rw [peekPrachOccasion, List.findSome?_isSome_iff]
    exact ⟨eaxc, heaxc, by rw [hget]; rfl⟩

end

def lookbackConfig : RuEmulatorTtiOrchestratorConfig where
  sector := 0
  nofPrb := 52
  nofUlPorts := 1
  scs := .kHz15
  prachEaxc := .singleton 4 (by decide)
  prachPeekLookbackSlots := 1

def lastSlotRequest : RuUplinkRequest where
  slot := ⟨0, 2559⟩
  filterIndex := .ulPrachPreambleShort
  startSymbol := 0
  prbStart := 0
  nofPrb := 12
  nofSymbols := 12
  sectionId := 0
  prachScs := .kHz15

theorem lookbackConfig_commutes_at_slot_one :
    lookbackConfig.prachPeekLookbackSlots ≤ (⟨0, 1⟩ : SlotPoint).nofSlotsPerFrame ∧
      LookbackCommutes lookbackConfig 0 ⟨0, 1⟩ :=
  ⟨by decide, (lookbackCommutes_iff_le_wire lookbackConfig 0 ⟨0, 1⟩ (by decide)).mpr (by decide)⟩

/-- Radio slot 10239 airs on wire slot 2559, where a request is recorded, but slot 10239 is looked
up. -/
theorem lookbackConfig_misses_at_slot_zero :
    let prachRequestRepo := (RuUplinkRequestRepository.new 20).add 4 lastSlotRequest
    prachRequestRepo.get (toOfhSlot (prachRadioSlot lookbackConfig ⟨0, 0⟩) 0) 4 =
        some lastSlotRequest ∧
      prachOfhSlot lookbackConfig 0 ⟨0, 0⟩ = ⟨0, 10239⟩ ∧
      (onTtiBoundary lookbackConfig 0 prachRequestRepo true true ⟨0, 0⟩).prachCapture = none ∧
      ¬ LookbackCommutes lookbackConfig 0 ⟨0, 0⟩ := by
  refine ⟨by decide, by decide, by decide, ?_⟩
  intro hcommutes
  exact absurd hcommutes.slot_eq (by decide)

end ProtoRu.PrachPeeking
