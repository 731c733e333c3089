import ProtoRu.CplaneMessageDecoding
import ProtoRu.DownlinkGridRepository

namespace ProtoRu.DownlinkScheduling

open Cplane RxGridContextRepository

def symbolRange (results : CplaneMessageDecoderResults) : OfdmSymbolRange :=
  OfdmSymbolRange.ofLength results.radioHdr.startSymbol results.sectionFields.nofSymbols

/-- The downlink handler of the RU. `getDownlinkRxGrid` is the grid the upper PHY
offers for a slot. -/
def handleDownlinkScheduling (sector : Nat) (getDownlinkRxGrid : SlotPoint → Option ResourceGrid)
    (repo : RxGridContextRepository) (results : CplaneMessageDecoderResults) :
    Option RxGridContextRepository := do
  let slot := results.radioHdr.slot
  let repo ← repo.processPendingContexts
  match (repo.findGrid slot).or (getDownlinkRxGrid slot) with
  | none => return repo
  | some grid => return repo.add ⟨⟨slot, sector⟩, grid, symbolRange results⟩

/-- Slot, subframe and symbols of an accepted message are those of a slot. -/
structure DecodedInRange (scs : SubcarrierSpacing) (cp : CyclicPrefix)
    (message : Bytes) (results : CplaneMessageDecoderResults) : Prop where
  header : ∃ fields rest, readRadioAppHeader message = some (fields, rest) ∧
    fields.subframe < nofSubframesPerFrame ∧
    fields.slotId < getNofSlotsPerSubframe scs ∧
    SlotPoint.OfSubframeAsserts (toNumerologyValue scs) fields.frame fields.subframe fields.slotId ∧
    results.radioHdr.slot = fields.slot scs
  slot_valid : results.radioHdr.slot.Valid
  symbols_le : results.radioHdr.startSymbol + results.sectionFields.nofSymbols ≤ getNsymbPerSlot cp
  registers : ∀ sector getDownlinkRxGrid repo repo',
    handleDownlinkScheduling sector getDownlinkRxGrid repo results = some repo' →
      repo'.processPendingContexts.isSome

/-- The bytes name a subframe, a slot and symbols that there are. -/
structure WireFieldsInRange (scs : SubcarrierSpacing) (cp : CyclicPrefix)
    (message : Bytes) : Prop where
  subframe_lt : byteAt message 2 >>> 4 < nofSubframesPerFrame
  slotId_lt : (byteAt message 2 &&& 0x0f) <<< 2 ||| byteAt message 3 >>> 6 &&& 0x3 <
    getNofSlotsPerSubframe scs
  symbols_le : (byteAt message 3 &&& 0x3f) +
      (byteAt message (sectionFieldsOffset (byteAt message 5) + 5) &&& 0x0f) ≤
    getNsymbPerSlot cp

variable {results : CplaneMessageDecoderResults}

lemma handleDownlinkScheduling_pending {sector : Nat}
    {getDownlinkRxGrid : SlotPoint → Option ResourceGrid} {repo repo' : RxGridContextRepository}
    (h : handleDownlinkScheduling sector getDownlinkRxGrid repo results = some repo') :
    ∀ pending ∈ repo'.pending, pending.symbolRange = symbolRange results := by
  simp only [handleDownlinkScheduling] at h
  rcases hproc : repo.processPendingContexts with _ | processed
  · simp [hproc] at h
  have hpend := processPendingContexts_pending hproc
  simp only [hproc, Option.bind_eq_bind, Option.bind_some] at h
  split at h
  · cases h
    simp [hpend]
  · cases h
    simp only [add]
    split <;> simp [hpend]

section

variable {scs : SubcarrierSpacing} {message : Bytes}
  (hdecode : decode scs message = some results)

include hdecode

lemma decode_symbolRange_stop :
    results.radioHdr.startSymbol + results.sectionFields.nofSymbols = (byteAt message 3 &&& 0x3f) +
        (byteAt message (sectionFieldsOffset (byteAt message 5) + 5) &&& 0x0f) := by
  obtain ⟨-, rfl⟩ := (decode_eq_some_iff scs message results).mp hdecode
  rw [sectionResultsAt_radioHdr, sectionResultsAt_sectionFields]
  simp only [commonSectionFieldsAt, byteAt_drop]
  rfl

lemma decodedInRange_of_wire {cp : CyclicPrefix} (hwire : WireFieldsInRange scs cp message) :
    DecodedInRange scs cp message results := by
  have hstop := decode_symbolRange_stop hdecode
  obtain ⟨hacc, rfl⟩ := (decode_eq_some_iff scs message results).mp hdecode
  have hhdr := readRadioAppHeader_apply hacc.header_le
  have hframe : byteAt message 1 < nofSfns := by
    have hbyte := byteAt_lt message 1
    simp only [nofSfns]
    omega
  have hasserts : SlotPoint.OfSubframeAsserts (toNumerologyValue scs) (byteAt message 1)
      (byteAt message 2 >>> 4)
      ((byteAt message 2 &&& 0x0f) <<< 2 ||| byteAt message 3 >>> 6 &&& 0x3) :=
    ⟨toNumerologyValue_lt scs, hframe, hwire.subframe_lt, hwire.slotId_lt⟩
  have hsyms := hwire.symbols_le
  refine ⟨⟨_, _, hhdr, hwire.subframe_lt, hwire.slotId_lt, hasserts, ?_⟩, ?_, ?_, ?_⟩
  · rw [sectionResultsAt_radioHdr]
    rfl
  · rw [sectionResultsAt_radioHdr]
    exact SlotPoint.ofSubframe_valid hasserts
  · rwa [hstop]
  intro sector getDownlinkRxGrid repo repo' hhandle
  rw [processPendingContexts_isSome_iff]
  intro pending hpend symbol hsym
  rw [handleDownlinkScheduling_pending hhandle pending hpend, OfdmSymbolRange.mem_symbols] at hsym
  exact hsym.2.trans_le (hstop.trans_le (hsyms.trans (getNsymbPerSlot_le_max cp)))

end

/-- The decoder has no range checks: what it accepts is in range exactly when the bytes are. -/
theorem decode_inRange_iff_wire_inRange (scs : SubcarrierSpacing) (cp : CyclicPrefix)
    (message : Bytes) :
    (∀ results, decode scs message = some results → DecodedInRange scs cp message results) ↔
      (Accepted message → WireFieldsInRange scs cp message) := by
  constructor
  · intro hall haccepted
    have hdecode := (decode_eq_some_iff scs message _).mpr ⟨haccepted, rfl⟩
    obtain ⟨⟨fields, rest, hread, hsubframe, hslotId, -, -⟩, -, hsymbols, -⟩ :=
      hall _ hdecode
    rw [readRadioAppHeader_apply haccepted.header_le] at hread
    obtain ⟨rfl, -⟩ := Prod.mk.inj (Option.some.inj hread)
    refine ⟨hsubframe, hslotId, ?_⟩
    rw [← decode_symbolRange_stop hdecode]
    exact hsymbols
  · intro hwire results hdecode
    have haccepted := ((decode_eq_some_iff scs message results).mp hdecode).1
    exact decodedInRange_of_wire hdecode (hwire haccepted)

def overrunMessage : Bytes :=
  [0x90, 0x00, 0xc0, 0x0d, 0x01, 0x01, 0x00, 0x00, 0x00, 0x00, 0x00, 0x01, 0x00, 0x0f, 0x00, 0x00]

theorem overrunMessage_accepted_not_inRange :
    ∃ results, decode .kHz30 overrunMessage = some results ∧
      ¬ DecodedInRange .kHz30 .normal overrunMessage results := by
  have haccepted : Accepted overrunMessage :=
    ⟨by decide, by decide, by decide, 10, by decide, by decide⟩
  refine ⟨_, (decode_eq_some_iff _ _ _).mpr ⟨haccepted, rfl⟩, ?_⟩
  intro hrange
  exact absurd hrange.symbols_le (by decide)

end ProtoRu.DownlinkScheduling
