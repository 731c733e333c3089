import ProtoRu.SlotNumbering

namespace ProtoRu

def sfnMaxValue : Nat := 256

def wirePeriod (numerology : Nat) : Nat :=
  sfnMaxValue * (1 <<< numerology * nofSubframesPerFrame)

def calculateRepositoryIndex (slot : SlotPoint) (repoSize : Nat) : Nat :=
  (SlotPoint.ofFrame slot.numerology (slot.sfn % sfnMaxValue) slot.slotIndex).count % repoSize

/-- The first size from the minimum on that divides the wire numbering. Without one the loop does
not end. -/
def calculateRepositorySize (scs : SubcarrierSpacing) (minimumRepoSize : Nat) : Option Nat :=
  let nofSlots := sfnMaxValue * getNofSlotsPerSubframe scs * nofSubframesPerFrame
  (List.range' minimumRepoSize (nofSlots + 1 - minimumRepoSize)).find? fun size =>
    nofSlots % size == 0

def sectorRepoSize (scs : SubcarrierSpacing) : Nat :=
  nofSubframesPerFrame * getNofSlotsPerSubframe scs * 2

lemma wirePeriod_pos (numerology : Nat) : 0 < wirePeriod numerology := by
  have hframe := SlotPoint.nofSlotsPerFrame_pos ⟨numerology, 0⟩
  exact Nat.mul_pos (by decide) hframe

lemma dvd_wirePeriod_of_calculateRepositorySize {scs : SubcarrierSpacing}
    {minimumRepoSize repoSize : Nat}
    (hsize : calculateRepositorySize scs minimumRepoSize = some repoSize) :
    repoSize ∣ wirePeriod (toNumerologyValue scs) := by
  rw [wirePeriod, ← Nat.mul_assoc]
  exact Nat.dvd_of_mod_eq_zero (by simpa [getNofSlotsPerSubframe] using (List.find?_some hsize))

variable (slot : SlotPoint)

lemma wirePeriod_dvd : wirePeriod slot.numerology ∣ slot.nofSlotsPerHyperSystemFrame := by
  rw [wirePeriod, Nat.mul_comm]
  exact Nat.mul_dvd_mul_left _ (by decide)

variable (scs : SubcarrierSpacing)

lemma sectorRepoSize_pos : 0 < sectorRepoSize scs := by
  cases scs <;> decide

lemma sectorRepoSize_dvd_wirePeriod :
    sectorRepoSize scs ∣ wirePeriod (toNumerologyValue scs) := by
  cases scs <;> decide

lemma wireSlot_count :
    (SlotPoint.ofFrame slot.numerology (slot.sfn % sfnMaxValue) slot.slotIndex).count =
      slot.count % wirePeriod slot.numerology := by
  change slot.count % slot.nofSlotsPerFrame +
      slot.count / slot.nofSlotsPerFrame % nofSfns % sfnMaxValue * slot.nofSlotsPerFrame =
    slot.count % (sfnMaxValue * slot.nofSlotsPerFrame)
  have hframes : slot.count / slot.nofSlotsPerFrame % nofSfns % sfnMaxValue =
      slot.count / slot.nofSlotsPerFrame % sfnMaxValue :=
    Nat.mod_mod_of_dvd _ (by decide)
  rw [hframes, Nat.mul_comm sfnMaxValue, Nat.mod_mul, Nat.mul_comm slot.nofSlotsPerFrame]

lemma calculateRepositoryIndex_eq {repoSize : Nat} (hdvd : repoSize ∣ wirePeriod slot.numerology)
    : calculateRepositoryIndex slot repoSize = slot.count % repoSize := by
  rw [calculateRepositoryIndex, wireSlot_count, Nat.mod_mod_of_dvd _ hdvd]

lemma calculateRepositoryIndex_add {slot : SlotPoint} {repoSize : Nat}
    (hdvd : repoSize ∣ wirePeriod slot.numerology) (jump : Nat) :
    calculateRepositoryIndex (slot.add jump) repoSize = (slot.count + jump) % repoSize := by
  have hcount : (slot.add jump).count =
      (slot.count + jump) % slot.nofSlotsPerHyperSystemFrame := by
    have hcast := truncWrap_cast slot.nofSlotsPerHyperSystemFrame_pos (slot.count + jump)
    exact_mod_cast hcast
  rw [calculateRepositoryIndex_eq (slot.add jump) hdvd, hcount,
    Nat.mod_mod_of_dvd _ (hdvd.trans (wirePeriod_dvd slot))]

/-- The search ends, and consecutive slots have different entries, also where a numbering wraps.
-/
theorem repositorySize_separates_slots (scs : SubcarrierSpacing) {minimumRepoSize : Nat}
    (hmin : minimumRepoSize ≤ wirePeriod (toNumerologyValue scs)) :
    ∃ repoSize, calculateRepositorySize scs minimumRepoSize = some repoSize ∧
      minimumRepoSize ≤ repoSize ∧ repoSize ∣ wirePeriod (toNumerologyValue scs) ∧
      ∀ slot : SlotPoint, slot.numerology = toNumerologyValue scs →
        ∀ i < repoSize, ∀ j < repoSize, calculateRepositoryIndex (slot.add i) repoSize =
          calculateRepositoryIndex (slot.add j) repoSize → i = j := by
  obtain ⟨repoSize, hsize⟩ : ∃ repoSize, calculateRepositorySize scs minimumRepoSize =
      some repoSize := by
    rw [← Option.isSome_iff_exists, calculateRepositorySize, List.find?_isSome]
    rw [wirePeriod, ← Nat.mul_assoc] at hmin
    refine ⟨_, List.mem_range'_1.mpr ⟨hmin, ?_⟩, by simp [getNofSlotsPerSubframe]⟩
    simp only [getNofSlotsPerSubframe] at hmin ⊢
    omega
  have hdvd := dvd_wirePeriod_of_calculateRepositorySize hsize
  refine ⟨repoSize, hsize, (List.mem_range'_1.mp (List.mem_of_find?_eq_some hsize)).1, hdvd,
    fun slot hnum i hi j hj heq => ?_⟩
  rw [← hnum] at hdvd
  rw [calculateRepositoryIndex_add hdvd, calculateRepositoryIndex_add hdvd] at heq
  exact Nat.add_left_cancel (eq_of_mod_eq_of_window (Nat.le_add_right _ _) (by omega)
    (Nat.le_add_right _ _) (by omega) heq)

theorem sevenSlots_separated :
    ∃ repoSize, calculateRepositorySize .kHz30 7 = some repoSize ∧ 7 ≤ repoSize := by
  obtain ⟨repoSize, hsize, hle, -⟩ := @repositorySize_separates_slots .kHz30 7 (by decide)
  exact ⟨repoSize, hsize, hle⟩

end ProtoRu
