import ProtoRu.DownlinkGridRepository
import ProtoRu.GpsSlotAlignment

namespace ProtoRu.DownlinkRadio

open GpsSlots Int

/-- The radio slot for a wire slot. Of the slots with the offset, the current one tells which is
meant. -/
def radioSlotCount (slot : SlotPoint) (gpsSlotOffset current : Nat) : Nat :=
  let period := nofSlotsPerOfhPeriod slot.numerology
  let radioPeriod := nofSfns * nofSubframesPerFrame * 1 <<< slot.numerology
  let base := (slot.count + period - gpsSlotOffset % period) % period
  let pastWirePeriods := ((current + radioPeriod - base) % radioPeriod + period / 2) / period
  (base + pastWirePeriods * period) % radioPeriod

/-- The upper PHY of a sector over a radio. There is no offset until the radio is aligned. -/
structure SdrUpperPhy where
  sectorId : Nat
  dlHandlerConnected : Bool
  gpsSlotOffset : Option Nat
  currentRadioSlotCount : Nat
  nofDlTx : Nat
  lastPushedSlot : SlotPoint

namespace SdrUpperPhy

def new (sectorId : Nat) : SdrUpperPhy := ⟨sectorId, false, none, 0, 0, SlotPoint.invalid⟩

/-- What is handed to the radio for a completed grid. A slot completes once per closing symbol, so
the last slot is remembered. -/
def onDownlinkRxGridCompleted (phy : SdrUpperPhy) (slot : SlotPoint) (grid : ResourceGrid) :
    SdrUpperPhy × Option (ResourceGridContext × ResourceGrid) :=
  if phy.lastPushedSlot = slot then (phy, none)
  else
    let phy := { phy with lastPushedSlot := slot }
    match phy.dlHandlerConnected, phy.gpsSlotOffset with
    | true, some offset =>
      ({ phy with nofDlTx := phy.nofDlTx + 1 },
        some (⟨⟨slot.numerology, radioSlotCount slot offset phy.currentRadioSlotCount⟩,
          phy.sectorId⟩, grid))
    -- Without a radio or an alignment the grid returns to its pool.
    | _, _ => (phy, none)

section

variable (phy : SdrUpperPhy) (slot : SlotPoint) (grid : ResourceGrid)

lemma onDownlinkRxGridCompleted_lastPushedSlot :
    (phy.onDownlinkRxGridCompleted slot grid).1.lastPushedSlot = slot := by
  simp only [onDownlinkRxGridCompleted]
  split
  · assumption
  · split <;> rfl

lemma onDownlinkRxGridCompleted_isSome_iff : (phy.onDownlinkRxGridCompleted slot grid).2.isSome ↔
      phy.lastPushedSlot ≠ slot ∧ phy.dlHandlerConnected ∧ phy.gpsSlotOffset.isSome := by
  simp only [onDownlinkRxGridCompleted]
  split_ifs with hlast
  · simp [hlast]
  · cases hconnected : phy.dlHandlerConnected <;>
      rcases hoff : phy.gpsSlotOffset with _ | offset <;> simp [hlast]

end

end SdrUpperPhy

/-- The radio slot airs the wire slot, is mapped back to it, and none such is nearer to the
current one. -/
structure TranslatesNearest (slot : SlotPoint) (gpsSlotOffset current radio : Nat) :
    Prop where
  radio_lt : radio < 4 * nofSlotsPerOfhPeriod slot.numerology
  congruent : (radio : Int) ≡ slot.count - gpsSlotOffset [ZMOD nofSlotsPerOfhPeriod slot.numerology]
  distance_le : circularDistance (4 * nofSlotsPerOfhPeriod slot.numerology) radio current ≤
    (nofSlotsPerOfhPeriod slot.numerology / 2 : Nat)
  nearest : ∀ candidate : Nat, candidate < 4 * nofSlotsPerOfhPeriod slot.numerology →
    (candidate : Int) ≡ slot.count - gpsSlotOffset [ZMOD nofSlotsPerOfhPeriod slot.numerology] →
    circularDistance (4 * nofSlotsPerOfhPeriod slot.numerology) radio current ≤
      circularDistance (4 * nofSlotsPerOfhPeriod slot.numerology) candidate current
  toOfhSlot_eq : toOfhSlot ⟨slot.numerology, radio⟩ gpsSlotOffset = slot

lemma radioPeriod_eq (numerology : Nat) : nofSfns * nofSubframesPerFrame * 1 <<< numerology =
      4 * nofSlotsPerOfhPeriod numerology := by
  simp only [nofSlotsPerOfhPeriod, nofSfns]
  ring

lemma modEq_wrappedSub {period a b : Nat} (hb : b ≤ period) :
    (((a + period - b) % period : Nat) : Int) ≡ a - b [ZMOD period] := by
  have hsub : ((a + period - b : Nat) : Int) = a - b + period := by omega
  rw [natCast_mod, hsub, add_emod_right]
  exact mod_modEq _ _

lemma modEq_baseSlot (slot : SlotPoint) (gpsSlotOffset : Nat) :
    (((slot.count + nofSlotsPerOfhPeriod slot.numerology -
        gpsSlotOffset % nofSlotsPerOfhPeriod slot.numerology) %
          nofSlotsPerOfhPeriod slot.numerology : Nat) : Int) ≡
      slot.count - gpsSlotOffset [ZMOD nofSlotsPerOfhPeriod slot.numerology] := by
  have hlt := Nat.mod_lt gpsSlotOffset (nofSlotsPerOfhPeriod_pos slot.numerology)
  apply (modEq_wrappedSub hlt.le).trans
  rw [natCast_mod]
  exact (mod_modEq _ _).sub_left _

lemma roundedPeriods_bounds (slots : Nat) {period : Nat} (hper : 0 < period) :
    -((period / 2 : Nat) : Int) ≤ ((slots + period / 2) / period * period : Nat) - (slots : Int) ∧
      ((slots + period / 2) / period * period : Nat) - (slots : Int) ≤ (period / 2 : Nat) := by
  have hdiv := Nat.div_add_mod (slots + period / 2) period
  have hlt := Nat.mod_lt (slots + period / 2) hper
  rw [Nat.mul_comm] at hdiv
  omega

section

variable (slot : SlotPoint) (gpsSlotOffset current : Nat)

lemma radioSlotCount_lt :
    radioSlotCount slot gpsSlotOffset current < 4 * nofSlotsPerOfhPeriod slot.numerology := by
  have hper := nofSlotsPerOfhPeriod_pos slot.numerology
  simp only [radioSlotCount, radioPeriod_eq]
  exact Nat.mod_lt _ (by omega)

lemma radioSlotCount_modEq :
    (radioSlotCount slot gpsSlotOffset current : Int) ≡ slot.count - gpsSlotOffset
      [ZMOD nofSlotsPerOfhPeriod slot.numerology] := by
  simp only [radioSlotCount, radioPeriod_eq]
  rw [natCast_mod]
  apply ((mod_modEq _ _).of_dvd (natCast_dvd_natCast.mpr (Nat.dvd_mul_left _ 4))).trans
  have hmultiple (nofPeriods : Nat) :
      ((nofPeriods * nofSlotsPerOfhPeriod slot.numerology : Nat) : Int) ≡ 0
        [ZMOD nofSlotsPerOfhPeriod slot.numerology] :=
    modEq_zero_iff_dvd.mpr (natCast_dvd_natCast.mpr (Nat.dvd_mul_left _ _))
  rw [← add_zero ((slot.count : Int) - gpsSlotOffset)]
  exact (modEq_baseSlot slot gpsSlotOffset).add (hmultiple _)

lemma circularDistance_radioSlotCount_le :
    circularDistance (4 * nofSlotsPerOfhPeriod slot.numerology)
        (radioSlotCount slot gpsSlotOffset current) current ≤
      (nofSlotsPerOfhPeriod slot.numerology / 2 : Nat) := by
  have hper := nofSlotsPerOfhPeriod_pos slot.numerology
  simp only [radioSlotCount, radioPeriod_eq]
  generalize hbase : (slot.count + nofSlotsPerOfhPeriod slot.numerology -
    gpsSlotOffset % nofSlotsPerOfhPeriod slot.numerology) %
      nofSlotsPerOfhPeriod slot.numerology = base
  have hlt : base < nofSlotsPerOfhPeriod slot.numerology := by
    rw [← hbase]
    exact Nat.mod_lt _ hper
  generalize hslots : (current + 4 * nofSlotsPerOfhPeriod slot.numerology - base) %
    (4 * nofSlotsPerOfhPeriod slot.numerology) = slots
  have hpast : (slots : Int) ≡ current - base
      [ZMOD (4 * nofSlotsPerOfhPeriod slot.numerology : Nat)] := by
    rw [← hslots]
    exact modEq_wrappedSub (by omega)
  obtain ⟨hlow, hhigh⟩ := roundedPeriods_bounds slots hper
  apply circularDistance_le _ hlow hhigh
  rw [natCast_mod]
  apply (mod_modEq _ _).trans
  have hjump := hpast.symm.sub_left (current + ((slots + nofSlotsPerOfhPeriod slot.numerology / 2) /
      nofSlotsPerOfhPeriod slot.numerology * nofSlotsPerOfhPeriod slot.numerology : Nat))
  rw [natCast_add]
  convert hjump using 1 <;> ring

end

/-- Wherever the radio stands, the slot chosen for a wire slot is the nearest one that airs it. -/
theorem radioSlotCount_translatesNearest (slot : SlotPoint) (gpsSlotOffset current : Nat)
    (hslot : slot.count < nofSlotsPerOfhPeriod slot.numerology) :
    TranslatesNearest slot gpsSlotOffset current (radioSlotCount slot gpsSlotOffset current) := by
  have hmod := radioSlotCount_modEq slot gpsSlotOffset current
  have hdistance := circularDistance_radioSlotCount_le slot gpsSlotOffset current
  constructor
  · exact radioSlotCount_lt slot gpsSlotOffset current
  · exact hmod
  · exact hdistance
  · intro candidate _ hcandidate
    exact circularDistance_le_of_modEq (by omega) (Nat.dvd_mul_left _ 4) hdistance
      (hcandidate.trans hmod.symm)
  · have hback : ((radioSlotCount slot gpsSlotOffset current + gpsSlotOffset : Nat) : Int) ≡
        slot.count [ZMOD nofSlotsPerOfhPeriod slot.numerology] := by
      simpa using hmod.add_right gpsSlotOffset
    have hcount : (radioSlotCount slot gpsSlotOffset current + gpsSlotOffset) %
        nofSlotsPerOfhPeriod slot.numerology = slot.count := by
      rw [← Nat.mod_eq_of_lt hslot]
      exact Int.natCast_modEq_iff.mp hback
    simp [toOfhSlot, hcount]

theorem wireSlot5_translatesNearest :
    radioSlotCount ⟨1, 5⟩ 10 5113 = 5115 ∧ TranslatesNearest ⟨1, 5⟩ 10 5113 5115 :=
  ⟨by decide, radioSlotCount_translatesNearest ⟨1, 5⟩ 10 5113 (by decide)⟩

end ProtoRu.DownlinkRadio
