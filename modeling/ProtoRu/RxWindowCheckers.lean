import ProtoRu.MessageReception

/-!
The reception windows of the sector and of the emulator. Both keep the symbol on air, with the
SFN of one byte that messages have, and compare a message with it. The emulator asks how far
ahead of its symbol a message comes, as the T2a window does. The sector asks how far behind it
comes, as the Ta4 window of a DU does, with the same T2a window.
-/

namespace ProtoRu.RxWindowCheckers

open MessageReception SlotSymbolPoint SlotPoint

def ofhMaxNofSfn : Nat := 256

/-- Numbers of symbols, which the checkers use as `int`. -/
structure RxWindowTimingParameters where
  symStart : Nat
  symEnd : Nat
  symStart_lt : symStart < 2147483648
  symEnd_lt : symEnd < 2147483648

inductive MessageClass where
  | early
  | onTime
  | late
deriving DecidableEq

def calculateOfhSlotSymbolPoint (p : SlotSymbolPoint) : SlotSymbolPoint :=
  let otaSlot := p.getSlot
  ofSlot (ofFrame otaSlot.numerology (otaSlot.sfn % ofhMaxNofSfn) otaSlot.slotIndex)
    p.getSymbolIndex p.nofSymbols

def ofhWrap (nofSymbols numerology : Nat) : Nat :=
  ofhMaxNofSfn * nofSubframesPerFrame * 1 <<< numerology * nofSymbols

def calculateSlotSymbolPointDistance (lhs rhs : SlotSymbolPoint) : Int :=
  let nofSymbolsPerSlotWrap : Int := ofhWrap rhs.nofSymbols rhs.numerology
  let a : Int := (lhs.count : Int) - rhs.count
  if nofSymbolsPerSlotWrap.tdiv 2 ≤ a then a - nofSymbolsPerSlotWrap
  else if a < (-nofSymbolsPerSlotWrap).tdiv 2 then a + nofSymbolsPerSlotWrap
  else a

/-- The symbol on air, as it is stored for the messages to come. -/
def onNewSymbol (symbolPoint : SlotSymbolPoint) : Nat :=
  (calculateOfhSlotSymbolPoint symbolPoint).count

/-- The checker of the sector: the class that a message is counted in. -/
def sectorUpdateRxWindowStatistics (params : RxWindowTimingParameters) (slotRawValue : Nat)
    (symbolPoint : SlotSymbolPoint) : MessageClass :=
  let otaPoint : SlotSymbolPoint := ⟨symbolPoint.nofSymbols, symbolPoint.numerology, slotRawValue⟩
  let diff := calculateSlotSymbolPointDistance otaPoint symbolPoint
  if (params.symEnd : Int) < diff then .late
  else if diff < params.symStart then .early
  else .onTime

def emulatorUpdateRxWindowStatistics (params : RxWindowTimingParameters) (countVal : Nat)
    (symbolPoint : SlotSymbolPoint) : MessageClass :=
  let otaPoint : SlotSymbolPoint := ⟨symbolPoint.nofSymbols, symbolPoint.numerology, countVal⟩
  let diff := calculateSlotSymbolPointDistance symbolPoint otaPoint
  if (params.symEnd : Int) < diff then .early
  else if diff < params.symStart then .late
  else .onTime

/-- How many symbols a message is ahead of the symbol on air, on the ring of the message
numbering. -/
def lead (ota message : SlotSymbolPoint) : Int :=
  ((message.count : Int) - ota.count).bmod (ofhWrap message.nofSymbols message.numerology)

section

lemma ofhWrap_even (nofSymbols numerology : Nat) :
    ∃ half, ofhWrap nofSymbols numerology = 2 * half := by
  refine ⟨128 * nofSubframesPerFrame * 1 <<< numerology * nofSymbols, ?_⟩
  rw [ofhWrap, ofhMaxNofSfn]
  ring

lemma ofhWrap_pos {nofSymbols : Nat} (hsyms : 0 < nofSymbols) (numerology : Nat) :
    0 < ofhWrap nofSymbols numerology := by
  simp only [ofhWrap, ofhMaxNofSfn, nofSubframesPerFrame]
  rw [Nat.one_shiftLeft]
  positivity

lemma onNewSymbol_eq {ota : SlotSymbolPoint} (hnum : ota.numerology < nofNumerologies) :
    onNewSymbol ota = ota.count % ofhWrap ota.nofSymbols ota.numerology := by
  have hslot : ota.getSlot = ⟨ota.numerology, ota.count / ota.nofSymbols⟩ := if_pos hnum
  simp only [onNewSymbol, calculateOfhSlotSymbolPoint, hslot, ofSlot,
    ofFrame, slotIndex, sfn, nofSlotsPerFrame,
    nofSlotsPerSubframe, getSymbolIndex]
  generalize hframe : 1 <<< ota.numerology * nofSubframesPerFrame = perFrame
  have hwrap : ofhWrap ota.nofSymbols ota.numerology =
      ota.nofSymbols * (perFrame * ofhMaxNofSfn) := by
    rw [ofhWrap, ← hframe]
    ring
  have hsfn : ota.count / ota.nofSymbols / perFrame % nofSfns % ofhMaxNofSfn =
      ota.count / ota.nofSymbols / perFrame % ofhMaxNofSfn :=
    Nat.mod_mod_of_dvd _ (by decide)
  rw [hsfn, hwrap, Nat.mod_mul, Nat.mod_mul]
  ring

lemma distance_eq_bmod {lhs rhs : SlotSymbolPoint}
    (hlhs : lhs.count < ofhWrap rhs.nofSymbols rhs.numerology)
    (hrhs : rhs.count < ofhWrap rhs.nofSymbols rhs.numerology) :
    calculateSlotSymbolPointDistance lhs rhs =
      ((lhs.count : Int) - rhs.count).bmod (ofhWrap rhs.nofSymbols rhs.numerology) := by
  obtain ⟨half, hhalf⟩ := ofhWrap_even rhs.nofSymbols rhs.numerology
  simp only [calculateSlotSymbolPointDistance]
  generalize ofhWrap rhs.nofSymbols rhs.numerology = wrap at *
  subst hhalf
  have hdiv : ((2 * half : Nat) : Int).tdiv 2 = half := by
    rw [Nat.cast_mul]
    exact Int.mul_tdiv_cancel_left _ (by decide)
  rw [Int.neg_tdiv, Int.bmod_def]
  have hemod : ((lhs.count : Int) - rhs.count) % ((2 * half : Nat) : Int) =
      if (lhs.count : Int) < rhs.count then (lhs.count : Int) - rhs.count + (2 * half : Nat)
      else (lhs.count : Int) - rhs.count := by
    split
    · rw [← Int.add_emod_right, Int.emod_eq_of_lt (by omega) (by omega)]
    · exact Int.emod_eq_of_lt (by omega) (by omega)
  split_ifs <;> omega

end

section

variable {params : RxWindowTimingParameters} {ota message : SlotSymbolPoint}

structure SameCarrier (ota message : SlotSymbolPoint) : Prop where
  nofSymbols_pos : 0 < message.nofSymbols
  nofSymbols_eq : ota.nofSymbols = message.nofSymbols
  numerology_lt : message.numerology < nofNumerologies
  numerology_eq : ota.numerology = message.numerology
  message_lt : message.count < ofhWrap message.nofSymbols message.numerology

lemma sameCarrier_of_peek {bytes : Bytes} {nofSymbols : Nat} {scs : SubcarrierSpacing}
    (hpeek : peekSlotSymbolPoint bytes nofSymbols scs = some message)
    (hsyms : ota.nofSymbols = nofSymbols)
    (hnum : ota.numerology = toNumerologyValue scs) : SameCarrier ota message := by
  rw [peekSlotSymbolPoint] at hpeek
  split at hpeek
  · cases hpeek
  simp only at hpeek
  split at hpeek
  · cases hpeek
  split at hpeek
  · cases hpeek
  split at hpeek
  · cases hpeek
  cases hpeek
  refine ⟨by simp only [ofSlot]; omega, hsyms, toNumerologyValue_lt scs, hnum, ?_⟩
  have hsfn : byteAt bytes 1 < 256 := UInt8.toNat_lt _
  simp only [ofSlot, ofSubframe, ofhWrap, ofhMaxNofSfn,
    nofSubframesPerFrame, getNofSlotsPerSubframe] at *
  generalize byteAt bytes 2 >>> 4 = subframe at *
  generalize (byteAt bytes 2 &&& 0x0f) <<< 2 ||| byteAt bytes 3 >>> 6 = slotId at *
  generalize byteAt bytes 3 &&& 0x3f = symbolId at *
  generalize byteAt bytes 1 = sfn at *
  generalize 1 <<< toNumerologyValue scs = perSubframe at *
  have hsubframes : (subframe + 1) * perSubframe ≤ 10 * perSubframe :=
    Nat.mul_le_mul_right _ (by omega)
  have hframes : (sfn + 1) * (perSubframe * 10) ≤ 256 * (perSubframe * 10) :=
    Nat.mul_le_mul_right _ hsfn
  have hslots : slotId + subframe * perSubframe + sfn * (perSubframe * 10) + 1 ≤
      256 * (perSubframe * 10) := by
    rw [Nat.add_mul, Nat.one_mul] at hsubframes hframes
    omega
  calc (slotId + subframe * perSubframe + sfn * (perSubframe * 10)) * nofSymbols + symbolId
    _ < (slotId + subframe * perSubframe + sfn * (perSubframe * 10)) * nofSymbols + nofSymbols := by
        omega
    _ = (slotId + subframe * perSubframe + sfn * (perSubframe * 10) + 1) * nofSymbols := by ring
    _ ≤ 256 * (perSubframe * 10) * nofSymbols := Nat.mul_le_mul_right _ hslots
    _ = 256 * 10 * perSubframe * nofSymbols := by ring

section

variable (h : SameCarrier ota message)

include h

lemma onNewSymbol_lt : onNewSymbol ota < ofhWrap message.nofSymbols message.numerology := by
  rw [onNewSymbol_eq (by rw [h.numerology_eq]; exact h.numerology_lt), h.nofSymbols_eq,
    h.numerology_eq]
  exact Nat.mod_lt _ (ofhWrap_pos h.nofSymbols_pos _)

lemma distance_from_message : calculateSlotSymbolPointDistance message
        ⟨message.nofSymbols, message.numerology, onNewSymbol ota⟩ =
      ((message.count : Int) - onNewSymbol ota).bmod
        (ofhWrap message.nofSymbols message.numerology) := by
  have hota := onNewSymbol_lt h
  exact distance_eq_bmod h.message_lt hota

lemma emulator_distance_eq : calculateSlotSymbolPointDistance message
      ⟨message.nofSymbols, message.numerology, onNewSymbol ota⟩ = lead ota message := by
  rw [distance_from_message h, lead,
    onNewSymbol_eq (by rw [h.numerology_eq]; exact h.numerology_lt), h.nofSymbols_eq,
    h.numerology_eq, Int.natCast_emod, Int.sub_emod_bmod]

lemma lead_bounds :
    -(ofhWrap message.nofSymbols message.numerology : Int) ≤ 2 * lead ota message ∧
      2 * lead ota message < ofhWrap message.nofSymbols message.numerology := by
  have hpos := ofhWrap_pos h.nofSymbols_pos message.numerology
  have hlow := @Int.le_bmod ((message.count : Int) - ota.count) _ hpos
  have hhigh := @Int.bmod_lt ((message.count : Int) - ota.count) _ hpos
  rw [lead]
  omega

lemma sector_distance_cases :
    2 * lead ota message ≠ -(ofhWrap message.nofSymbols message.numerology : Int) ∧
        calculateSlotSymbolPointDistance
          ⟨message.nofSymbols, message.numerology, onNewSymbol ota⟩ message = -lead ota message ∨
      2 * lead ota message = -(ofhWrap message.nofSymbols message.numerology : Int) ∧
        calculateSlotSymbolPointDistance
          ⟨message.nofSymbols, message.numerology, onNewSymbol ota⟩ message = lead ota message := by
  have hbounds := lead_bounds h
  have hdist : calculateSlotSymbolPointDistance
      ⟨message.nofSymbols, message.numerology, onNewSymbol ota⟩ message = _ :=
    distance_eq_bmod (onNewSymbol_lt h) h.message_lt
  rw [← emulator_distance_eq h, distance_from_message h] at hbounds ⊢
  rw [hdist]
  generalize hwrap : ofhWrap message.nofSymbols message.numerology = wrap at hbounds ⊢
  rw [← Int.neg_sub (message.count : Int), Int.neg_bmod]
  generalize (message.count : Int) - onNewSymbol ota = x at hbounds ⊢
  by_cases hopposite : 2 * x.bmod wrap = -(wrap : Int)
  · refine .inr ⟨hopposite, if_pos ?_⟩
    have hsame : (wrap : Int) ∣ x - x.bmod wrap := Int.dvd_self_sub_bmod
    have hdouble : 2 * x = 2 * (x - x.bmod wrap) - wrap := by omega
    rw [hdouble]
    exact Int.dvd_sub (Dvd.dvd.mul_left hsame 2) (dvd_refl _)
  · refine .inl ⟨hopposite, ?_⟩
    split_ifs with hdvd
    · have hsame : (wrap : Int) ∣ x - x.bmod wrap := Int.dvd_self_sub_bmod
      have hdouble : (wrap : Int) ∣ 2 * x.bmod wrap := by
        have hsplit : 2 * x.bmod wrap = 2 * x - 2 * (x - x.bmod wrap) := by omega
        rw [hsplit]
        exact Int.dvd_sub hdvd (Dvd.dvd.mul_left hsame 2)
      have hzero := Int.eq_zero_of_abs_lt_dvd hdouble (by rw [abs_lt]; omega)
      omega
    · rfl

end

/-- The checkers agree far ahead, far behind, and at the symbol itself when the window starts
there. -/
theorem same_class_iff (params : RxWindowTimingParameters) (scs : SubcarrierSpacing)
    (ota message : SlotSymbolPoint) (bytes : Bytes)
    (hnumerology : ota.numerology = toNumerologyValue scs)
    (hpeek : peekSlotSymbolPoint bytes ota.nofSymbols scs = some message) :
    sectorUpdateRxWindowStatistics params (onNewSymbol ota) message =
        emulatorUpdateRxWindowStatistics params (onNewSymbol ota) message ↔
      (params.symEnd : Int) < lead ota message ∨ lead ota message = 0 ∧ params.symStart = 0 ∨
        lead ota message < -(params.symEnd : Int) ∧
          -(ofhWrap message.nofSymbols message.numerology : Int) < 2 * lead ota message := by
  have h := sameCarrier_of_peek hpeek rfl hnumerology
  have hbounds := lead_bounds h
  simp only [sectorUpdateRxWindowStatistics, emulatorUpdateRxWindowStatistics]
  rw [emulator_distance_eq h]
  obtain ⟨hother, hdistance⟩ | ⟨hopposite, hdistance⟩ := sector_distance_cases h
  · rw [hdistance]
    split_ifs <;> simp only [true_iff, false_iff] <;> omega
  · rw [hdistance]
    split_ifs <;> simp only [true_iff, false_iff] <;> omega

end

section

def exampleWindow : RxWindowTimingParameters := ⟨3, 8, by decide, by decide⟩

def symbolAt (count : Nat) : SlotSymbolPoint := ⟨14, 1, count⟩

/-- A message for symbol 10 that comes during symbol 20 is late for both. -/
theorem lateMessage_agreed : peekSlotSymbolPoint [0x90, 0, 0, 0x0a] 14 .kHz30 = some (symbolAt 10) ∧
      lead (symbolAt 20) (symbolAt 10) < -(exampleWindow.symEnd : Int) ∧
      sectorUpdateRxWindowStatistics exampleWindow (onNewSymbol (symbolAt 20)) (symbolAt 10) =
        emulatorUpdateRxWindowStatistics exampleWindow (onNewSymbol (symbolAt 20))
          (symbolAt 10) := by
  have hpeek : peekSlotSymbolPoint [0x90, 0, 0, 0x0a] 14 .kHz30 = some (symbolAt 10) := by decide
  refine ⟨hpeek, by decide, ?_⟩
  apply (same_class_iff exampleWindow .kHz30 (symbolAt 20) (symbolAt 10) [0x90, 0, 0, 0x0a] rfl
    hpeek).mpr
  exact .inr (.inr ⟨by decide, by decide⟩)

/-- A message in its window, five symbols ahead, is on time for the emulator and early for
the sector. -/
theorem messageInTime_disagreed :
    peekSlotSymbolPoint [0x90, 0, 0, 0x4b] 14 .kHz30 = some (symbolAt 25) ∧
      emulatorUpdateRxWindowStatistics exampleWindow (onNewSymbol (symbolAt 20)) (symbolAt 25) =
        .onTime ∧
      sectorUpdateRxWindowStatistics exampleWindow (onNewSymbol (symbolAt 20)) (symbolAt 25) =
        .early := by
  decide

end

end ProtoRu.RxWindowCheckers
