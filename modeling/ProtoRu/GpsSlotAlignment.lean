import ProtoRu.RepositoryIndexing

namespace ProtoRu.GpsSlots

open SlotPoint

def nofSlotsPerOfhPeriod (numerology : Nat) : Nat :=
  256 * nofSubframesPerFrame * 1 <<< numerology

/-- The difference between the Unix and the GPS epoch, leap seconds included. -/
def unixToGpsSecondsOffset : Nat := 315964800 - 18

/-- The GPS slot of an air time, rounded to the nearest boundary, minus the radio slot, in 64
bits. -/
def measureGpsSlotOffset (unixNs : Nat) (radioSlot : SlotPoint) : Nat :=
  let period := nofSlotsPerOfhPeriod radioSlot.numerology
  let slotNs := 1000000000 / (1000 * 1 <<< radioSlot.numerology)
  let gpsNs := (unixNs + 2 ^ 64 - unixToGpsSecondsOffset * 1000000000) % 2 ^ 64
  let gpsSlots := (gpsNs + slotNs / 2) % 2 ^ 64 / slotNs
  (gpsSlots + period - radioSlot.count % period) % period

def toOfhSlot (radioSlot : SlotPoint) (gpsSlotOffset : Nat) : SlotPoint :=
  ⟨radioSlot.numerology,
    (radioSlot.count + gpsSlotOffset) % nofSlotsPerOfhPeriod radioSlot.numerology⟩

def radioSlot (scs : SubcarrierSpacing) (occurrence : Nat) : SlotPoint :=
  ⟨toNumerologyValue scs, occurrence % nofSlotsPerHyperSystemFrame ⟨toNumerologyValue scs, 0⟩⟩

lemma nofSlotsPerOfhPeriod_eq_wirePeriod (numerology : Nat) :
    nofSlotsPerOfhPeriod numerology = wirePeriod numerology := by
  simp only [nofSlotsPerOfhPeriod, wirePeriod, sfnMaxValue]
  ring

variable (slot : SlotPoint)

lemma nofSlotsPerHyperSystemFrame_eq_four_mul :
    slot.nofSlotsPerHyperSystemFrame = 4 * nofSlotsPerOfhPeriod slot.numerology := by
  unfold nofSlotsPerHyperSystemFrame nofSlotsPerFrame
    nofSlotsPerSubframe nofSlotsPerOfhPeriod nofSfns
  ring

lemma nofSlotsPerFrame_le_period :
    slot.nofSlotsPerFrame ≤ nofSlotsPerOfhPeriod slot.numerology := by
  have h : nofSlotsPerOfhPeriod slot.numerology = 256 * slot.nofSlotsPerFrame := by
    simp only [nofSlotsPerFrame, nofSlotsPerSubframe, nofSlotsPerOfhPeriod]
    ring
  omega

lemma nofSlotsPerOfhPeriod_dvd_hyper :
    nofSlotsPerOfhPeriod slot.numerology ∣ slot.nofSlotsPerHyperSystemFrame := by
  rw [nofSlotsPerHyperSystemFrame_eq_four_mul]
  exact Nat.dvd_mul_left _ _

lemma nofSlotsPerOfhPeriod_pos (numerology : Nat) : 0 < nofSlotsPerOfhPeriod numerology := by
  rw [nofSlotsPerOfhPeriod_eq_wirePeriod]
  exact wirePeriod_pos numerology

/-- No other slot boundary is nearer to the time. -/
def IsNearestBoundary (time duration boundary : Nat) : Prop :=
  ∀ other : Nat,
    ((time : Int) - boundary * duration).natAbs ≤ ((time : Int) - other * duration).natAbs

lemma isNearestBoundary_round {duration : Nat} (hpos : 0 < duration) (time : Nat) :
    IsNearestBoundary time duration ((time + duration / 2) / duration) := by
  intro other
  generalize hq : (time + duration / 2) / duration = boundary
  have hlow : boundary * duration ≤ time + duration / 2 := hq ▸ Nat.div_mul_le_self _ _
  have hhigh : time + duration / 2 < (boundary + 1) * duration := by
    rw [← Nat.div_lt_iff_lt_mul hpos, hq]
    exact Nat.lt_succ_self boundary
  rw [Nat.succ_mul] at hhigh
  obtain hlt | rfl | hgt := Nat.lt_trichotomy other boundary
  · have hstep := Nat.mul_le_mul_right duration (Nat.succ_le_of_lt hlt)
    rw [Nat.succ_mul] at hstep
    omega
  · exact le_rfl
  · have hstep := Nat.mul_le_mul_right duration (Nat.succ_le_of_lt hgt)
    rw [Nat.succ_mul] at hstep
    omega

def slotNs (numerology : Nat) : Nat := 1000000000 / (1000 * 1 <<< numerology)

def gpsEpochNs : Nat := unixToGpsSecondsOffset * 1000000000

lemma slotNs_even {numerology : Nat} (h : numerology < nofNumerologies) :
    2 * (slotNs numerology / 2) = slotNs numerology ∧ 0 < slotNs numerology ∧
      slotNs numerology ≤ 1000000 := by
  have hall : ∀ n < nofNumerologies,
      2 * (slotNs n / 2) = slotNs n ∧ 0 < slotNs n ∧ slotNs n ≤ 1000000 := by decide
  exact hall numerology h

lemma measureGpsSlotOffset_cast {unixNs : Nat} {radioSlot : SlotPoint}
    (hnum : radioSlot.numerology < nofNumerologies) (hepoch : gpsEpochNs ≤ unixNs)
    (hrange : unixNs < 2 ^ 63) : (measureGpsSlotOffset unixNs radioSlot : Int) =
      (((unixNs - gpsEpochNs + slotNs radioSlot.numerology / 2) / slotNs radioSlot.numerology :
        Nat) - radioSlot.count) % nofSlotsPerOfhPeriod radioSlot.numerology := by
  have hsmall := (slotNs_even hnum).2.2
  have hgps : (unixNs + 2 ^ 64 - gpsEpochNs) % 2 ^ 64 = unixNs - gpsEpochNs := by omega
  have hround : (unixNs - gpsEpochNs + slotNs radioSlot.numerology / 2) % 2 ^ 64 =
      unixNs - gpsEpochNs + slotNs radioSlot.numerology / 2 := by omega
  have hlt := Nat.mod_lt radioSlot.count (nofSlotsPerOfhPeriod_pos radioSlot.numerology)
  have hmeasure : measureGpsSlotOffset unixNs radioSlot =
      (((unixNs + 2 ^ 64 - gpsEpochNs) % 2 ^ 64 + slotNs radioSlot.numerology / 2) % 2 ^ 64 /
        slotNs radioSlot.numerology + nofSlotsPerOfhPeriod radioSlot.numerology -
          radioSlot.count % nofSlotsPerOfhPeriod radioSlot.numerology) %
        nofSlotsPerOfhPeriod radioSlot.numerology := rfl
  rw [hmeasure, hgps, hround, Int.natCast_mod, Nat.cast_sub (Nat.le_add_left_of_le hlt.le),
    Nat.cast_add, add_sub_right_comm, Int.add_emod_right, Int.natCast_mod, Int.sub_emod_emod]

/-- The wire slot of an offset is that of the nearest boundary, whenever a clock in step with the
radio is read. -/
theorem measuredOffset_nearest {unixNs : Nat} {radioSlot : SlotPoint} (hvalid : radioSlot.Valid)
    (hepoch : gpsEpochNs ≤ unixNs) (hrange : unixNs < 2 ^ 63) :
    (∃ boundary, IsNearestBoundary (unixNs - gpsEpochNs) (slotNs radioSlot.numerology) boundary ∧
      (toOfhSlot radioSlot (measureGpsSlotOffset unixNs radioSlot)).count =
        boundary % nofSlotsPerOfhPeriod radioSlot.numerology) ∧
    ∀ k : Nat, unixNs + k * slotNs radioSlot.numerology < 2 ^ 63 →
      measureGpsSlotOffset (unixNs + k * slotNs radioSlot.numerology) (radioSlot.add k) =
        measureGpsSlotOffset unixNs radioSlot := by
  obtain ⟨heven, hpos, -⟩ := slotNs_even hvalid.numerology_lt
  constructor
  · refine ⟨_, isNearestBoundary_round hpos _, ?_⟩
    rw [← Int.natCast_inj, toOfhSlot, Int.natCast_mod, Nat.cast_add,
      measureGpsSlotOffset_cast hvalid.numerology_lt hepoch hrange, Int.add_emod_emod,
      add_sub_cancel, Int.natCast_mod]
  · intro k hlater
    have hadd : unixNs + k * slotNs radioSlot.numerology - gpsEpochNs +
        slotNs radioSlot.numerology / 2 =
        unixNs - gpsEpochNs + slotNs radioSlot.numerology / 2 +
          k * slotNs radioSlot.numerology := by omega
    have hdvd : (nofSlotsPerOfhPeriod radioSlot.numerology : Int) ∣
        radioSlot.nofSlotsPerHyperSystemFrame :=
      Int.natCast_dvd_natCast.mpr (nofSlotsPerOfhPeriod_dvd_hyper radioSlot)
    rw [← Int.natCast_inj, measureGpsSlotOffset_cast hvalid.numerology_lt hepoch hrange,
      @measureGpsSlotOffset_cast _ (radioSlot.add k) hvalid.numerology_lt (by omega) hlater]
    simp only [add]
    rw [hadd, Nat.add_mul_div_right _ _ hpos,
      truncWrap_cast radioSlot.nofSlotsPerHyperSystemFrame_pos, ← Int.sub_emod_emod,
      Int.emod_emod_of_dvd _ hdvd, Int.sub_emod_emod, Nat.cast_add, add_sub_add_right_eq_sub]

theorem measuredOffset_lastSlot : SlotPoint.Valid ⟨1, 20479⟩ ∧
      measureGpsSlotOffset (gpsEpochNs + 250000 + 500000) (add ⟨1, 20479⟩ (1 : Nat)) =
        measureGpsSlotOffset (gpsEpochNs + 250000) ⟨1, 20479⟩ :=
  ⟨by decide, (@measuredOffset_nearest (gpsEpochNs + 250000) ⟨1, 20479⟩ (by decide) (by decide)
    (by decide)).2 1 (by decide)⟩

end ProtoRu.GpsSlots
