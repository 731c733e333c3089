import ProtoRu.PrachContextWriting
import ProtoRu.PrachReplies
import ProtoRu.UplaneSymbolRoundTrip

namespace ProtoRu.Prach

open Cplane Uplane PrachBufferContext
open PrachContext (new)
open List

def ruContext (occasion : PrachBufferContext) (sector eaxc port : Nat) :
    DataFlowUplanePrachContext where
  slot := wireSlot occasion.slot
  sector := sector
  port := port
  eaxc := eaxc
  prbStart := 0
  nofPrb := (handlePrachOccasion occasion).prachNofRb
  startSymbol := occasion.prachStartSymbol
  nofSymbols := occasion.preambleInfo.nofSymbols
  filterIndex := occasion.prachCplaneFilterIndex
  prachScs := occasion.preambleInfo.scs
  sectionId := 0

section

variable (occasion : PrachBufferContext)

lemma prachNofRb_le : (handlePrachOccasion occasion).prachNofRb ≤ 255 := by
  simp only [handlePrachOccasion, mapping, preambleInfo]
  generalize occasion.format = format
  generalize occasion.puschScs = puschScs
  cases puschScs <;> cases format <;> decide

lemma kBar_add_sequenceLength_le (hsupported : occasion.mapping.nofRbRa ≠ 0) :
    occasion.mapping.kBar + occasion.preambleInfo.sequenceLength ≤
      (handlePrachOccasion occasion).prachNofRb * nofSubcarriersPerRb := by
  revert hsupported
  simp only [handlePrachOccasion, mapping, preambleInfo]
  generalize occasion.format = format
  generalize occasion.puschScs = puschScs
  cases puschScs <;> cases format <;> decide

lemma contextMapping_ruContext (sector eaxc port : Nat) :
    contextMapping (ruContext occasion sector eaxc port) = occasion.mapping := by
  have hscs : toSubcarrierSpacing (ruContext occasion sector eaxc port).slot.numerology =
      some occasion.puschScs := by
    change toSubcarrierSpacing occasion.slot.numerology = _
    rw [occasion.numerology_eq, toSubcarrierSpacing_toNumerologyValue]
  simp only [contextMapping]
  rw [hscs]
  rfl

/-- The RU decodes a request of the O-DU to the context of the occasion. -/
theorem prachContext_decoded (kind : ComprHeaderKind) {comp : RuCompressionParams}
    (hcomp : ComprParamsInRange comp) (fftLen : CplaneFftSize) {ruNofPrbs : Nat}
    (hwidth : ruNofPrbs ≤ maxCarrierPrbs) (hsupported : occasion.mapping.nofRbRa ≠ 0)
    (hfits : occasion.rbOffset + occasion.mapping.nofRbRa ≤ ruNofPrbs)
    (sector eaxc port : Nat) :
    ∃ results, decode occasion.puschScs (buildPrachMixedNumerologyMessage kind
        (generatePrachControlParameters (handlePrachOccasion occasion) comp ruNofPrbs fftLen)) =
          some results ∧
        prachContext sector results.radioHdr.slot eaxc port { toRuUplinkRequest results with
            prachScs := toPrachSubcarrierSpacing results.frameStructureScs } =
              ruContext occasion sector eaxc port := by
  have hdecode := decode_buildPrachMixedNumerologyMessage kind
    (type3InRange_of_supported occasion hcomp fftLen hwidth hsupported hfits)
  rw [receivedFields_of_le (prachNofRb_le occasion)] at hdecode
  refine ⟨_, hdecode, ?_⟩
  simp only [prachContext, ruContext, toRuUplinkRequest, generatePrachControlParameters]
  rw [toPrachSubcarrierSpacing_cplaneConvertScs]
  rfl

lemma prachStartSymbol_of_short (hshort : ¬ isLongPreamble occasion.format) :
    occasion.prachStartSymbol = occasion.startSymbol := by
  revert hshort
  simp only [prachStartSymbol, preambleInfo]
  generalize occasion.format = format
  generalize occasion.puschScs = puschScs
  cases puschScs <;> cases format <;> simp <;> decide

end

theorem exampleOccasion_decoded : ∃ message results, decode .kHz30 message = some results ∧
    prachContext 0 results.radioHdr.slot 4 1 { toRuUplinkRequest results with
        prachScs := toPrachSubcarrierSpacing results.frameStructureScs } =
      ruContext exampleOccasion 0 4 1 :=
  ⟨_, prachContext_decoded exampleOccasion .dynamicHeader
    (⟨by decide, by decide⟩ : ComprParamsInRange ⟨.bfp, 9⟩) .fft4096
    (by decide : 273 ≤ maxCarrierPrbs) (by decide) (by decide) 0 4 1⟩

structure WireSection where
  port : Nat
  prachSymbol : Nat
  startPrb : Nat
  nofPrbs : Nat

section

variable {Re : Type} (occasion : PrachBufferContext) (buffer : PrachBuffer Re)
  (maxNofPorts nofTdOccasions : Nat)

def WireSection.CarriesSample (piece : WireSection) (symbol port re : Nat) : Prop :=
  piece.prachSymbol = symbol ∧ piece.port = port ∧
    Carries occasion.mapping.kBar piece.startPrb piece.nofPrbs re

/-- The context was registered for the occasion. -/
structure IsFor (context : PrachContext Re) : Prop where
  format_eq : context.format = occasion.format
  puschScs_eq : context.puschScs = occasion.puschScs
  startSymbol_eq : context.startSymbol = occasion.prachStartSymbol
  maxNofPorts_eq : context.maxNofPorts = maxNofPorts
  nofTdOccasions_eq : context.nofTdOccasions = nofTdOccasions

/-- What a context holds after the pieces of a history: their samples, where the preamble has
them. -/
structure Progress (history : List WireSection) (context : PrachContext Re) : Prop where
  isFor : IsFor occasion maxNofPorts nofTdOccasions context
  reWritten_iff : ∀ symbol port re, port < maxNofPorts → re < occasion.preambleInfo.sequenceLength →
      (context.reWritten symbol port re ↔
        ∃ piece ∈ history, piece.CarriesSample occasion symbol port re)
  samples_eq : ∀ symbol port re, port < maxNofPorts →
    re < occasion.preambleInfo.sequenceLength → context.reWritten symbol port re →
      (buffer.samples port symbol)[re]? = some (context.samples port (nofTdOccasions - 1) symbol re)

section

variable {occasion buffer maxNofPorts nofTdOccasions}

variable {context : PrachContext Re}

section

variable (hfor : IsFor occasion maxNofPorts nofTdOccasions context)

include hfor

lemma IsFor.prachNofRe_eq : context.prachNofRe = occasion.preambleInfo.sequenceLength := by
  simp only [PrachContext.prachNofRe, PrachContext.preambleInfo, preambleInfo]
  rw [hfor.format_eq, hfor.puschScs_eq]

lemma IsFor.nofSymbols_eq :
    context.preambleInfo.nofSymbols = occasion.preambleInfo.nofSymbols := by
  simp only [PrachContext.preambleInfo, preambleInfo]
  rw [hfor.format_eq, hfor.puschScs_eq]

lemma IsFor.prachOffsetToFirstRe_eq : context.prachOffsetToFirstRe = occasion.mapping.kBar := by
  simp only [PrachContext.prachOffsetToFirstRe, PrachContext.preambleInfo, mapping, preambleInfo]
  rw [hfor.format_eq, hfor.puschScs_eq]

lemma IsFor.bufferSymbol_eq {prachSymbol : Nat}
    (hlt : prachSymbol < occasion.preambleInfo.nofSymbols) :
    context.bufferSymbol (occasion.prachStartSymbol + prachSymbol) = prachSymbol := by
  have hnof : occasion.preambleInfo.nofSymbols < 2 ^ 4 :=
    (preambleInformation_bounds occasion.format occasion.puschScs).1
  simp only [PrachContext.bufferSymbol, hfor.startSymbol_eq]
  split_ifs <;> omega

end

lemma isFor_new (samples : Nat → Nat → Nat → Nat → Re) : IsFor occasion maxNofPorts nofTdOccasions
      (new occasion maxNofPorts nofTdOccasions samples) where
  format_eq := rfl
  puschScs_eq := rfl
  startSymbol_eq := by
    simp only [new]
    split_ifs with hshort
    · rfl
    · exact (prachStartSymbol_of_short occasion hshort).symm
  maxNofPorts_eq := rfl
  nofTdOccasions_eq := rfl

section

variable {history : List WireSection}
  (hprogress : Progress occasion buffer maxNofPorts nofTdOccasions history context)
  {piece : WireSection}

include hprogress

lemma Progress.skip
    (hskip : ∀ symbol port re, port < maxNofPorts → re < occasion.preambleInfo.sequenceLength → ¬
      piece.CarriesSample occasion symbol port re) :
    Progress occasion buffer maxNofPorts nofTdOccasions (history ++ [piece]) context where
  isFor := hprogress.isFor
  samples_eq := hprogress.samples_eq
  reWritten_iff := by
    intro symbol port re hport hre
    rw [hprogress.reWritten_iff symbol port re hport hre]
    simp [hskip symbol port re hport hre]

lemma Progress.copyIq {reStart : Nat} {iqBuffer : List Re}
    (hcarr : ∀ re < occasion.preambleInfo.sequenceLength, (Carries occasion.mapping.kBar
      piece.startPrb piece.nofPrbs re ↔ reStart ≤ re ∧ re < reStart + iqBuffer.length))
    (hiq : ∀ re, reStart ≤ re → re < reStart + iqBuffer.length → iqBuffer[re - reStart]? =
      (buffer.samples piece.port piece.prachSymbol)[re]?) :
    Progress occasion buffer maxNofPorts nofTdOccasions (history ++ [piece])
      (context.copyIq piece.port piece.prachSymbol reStart iqBuffer) where
  isFor := ⟨hprogress.isFor.format_eq, hprogress.isFor.puschScs_eq,
    hprogress.isFor.startSymbol_eq, hprogress.isFor.maxNofPorts_eq,
    hprogress.isFor.nofTdOccasions_eq⟩
  reWritten_iff := by
    intro symbol port re hport hre
    have hold := hprogress.reWritten_iff symbol port re hport hre
    simp only [PrachContext.copyIq, Bool.or_eq_true, decide_eq_true_eq, mem_append,
      mem_singleton, or_and_right, exists_or, exists_eq_left]
    rw [hold, WireSection.CarriesSample, hcarr re hre, eq_comm (a := symbol), eq_comm (a := port)]
  samples_eq := by
    intro symbol port re hport hre hwrit
    have hold := hprogress.samples_eq symbol port re hport hre
    simp only [PrachContext.copyIq, Bool.or_eq_true, decide_eq_true_eq] at hwrit ⊢
    rw [hprogress.isFor.nofTdOccasions_eq]
    by_cases hnew : symbol = piece.prachSymbol ∧ port = piece.port ∧ reStart ≤ re ∧
        re < reStart + iqBuffer.length
    · obtain ⟨rfl, rfl, hge, hlt⟩ := hnew
      have hsome : re - reStart < iqBuffer.length := by omega
      rw [if_pos ⟨rfl, rfl, rfl, hge⟩, ← hiq re hge hlt, getElem?_eq_getElem hsome]
      rfl
    · rw [hold (hwrit.resolve_right hnew)]
      split_ifs with hat
      · obtain ⟨rfl, -, rfl, hge⟩ := hat
        have hlen : iqBuffer.length ≤ re - reStart := by
          by_contra hlt
          exact hnew ⟨rfl, rfl, hge, by omega⟩
        rw [getElem?_eq_none hlen]
        rfl
      · rfl

end

end

end

section

variable {Re : Type} [Zero Re] (occasion : PrachBufferContext) (sector : Nat)
  (prachEaxc : EaxcList) (buffer : PrachBuffer Re)

/-- A section of a symbol and a port of the occasion, inside its PRBs. -/
structure Sent (piece : WireSection) : Prop where
  port_lt : piece.port < prachEaxc.values.length
  prachSymbol_lt : piece.prachSymbol < occasion.preambleInfo.nofSymbols
  stop_le : piece.startPrb + piece.nofPrbs ≤ (handlePrachOccasion occasion).prachNofRb

def eaxcOf (piece : WireSection) : Nat := prachEaxc.values.getD piece.port 0

def wireIq (piece : WireSection) : List Re :=
  iqData (ruContext occasion sector (eaxcOf prachEaxc piece) piece.port) buffer piece.prachSymbol

def receivedSection (piece : WireSection) : UplaneSection Re where
  startPrb := piece.startPrb
  nofPrbs := piece.nofPrbs
  iqSamples := ((wireIq occasion sector prachEaxc buffer piece).drop
    (piece.startPrb * nofSubcarriersPerRb)).take (piece.nofPrbs * nofSubcarriersPerRb)

def receive (context : PrachContext Re) (piece : WireSection) : Option (PrachContext Re) :=
  writeToPrachBuffer prachEaxc context (eaxcOf prachEaxc piece)
    (occasion.prachStartSymbol + piece.prachSymbol)
    [receivedSection occasion sector prachEaxc buffer piece]

lemma idxOf_eaxcOf {piece : WireSection} (hport : piece.port < prachEaxc.values.length) :
    prachEaxc.values.idxOf (eaxcOf prachEaxc piece) = piece.port := by
  simp only [eaxcOf]
  rw [getD_eq_getElem _ _ hport]
  exact prachEaxc.nodup.idxOf_getElem _ hport

lemma wireIq_getElem? (piece : WireSection) {re : Nat} (hre : re < buffer.sequenceLength) :
    (wireIq occasion sector prachEaxc buffer piece)[occasion.mapping.kBar + re]? =
      (buffer.samples piece.port piece.prachSymbol)[re]? := by
  have hlen := buffer.length_samples piece.port piece.prachSymbol
  simp only [wireIq, iqData]
  rw [contextMapping_ruContext, append_assoc, getElem?_append_right (by simp),
    length_replicate, Nat.add_sub_cancel_left, getElem?_append_left]
  · rfl
  · change re < (buffer.samples piece.port piece.prachSymbol).length
    omega

lemma length_wireIq (hsupported : occasion.mapping.nofRbRa ≠ 0)
    (hsequence : buffer.sequenceLength = occasion.preambleInfo.sequenceLength)
    (piece : WireSection) : (wireIq occasion sector prachEaxc buffer piece).length =
      (handlePrachOccasion occasion).prachNofRb * nofSubcarriersPerRb := by
  have hlen := buffer.length_samples piece.port piece.prachSymbol
  have hfits := kBar_add_sequenceLength_le occasion hsupported
  simp only [wireIq, iqData]
  rw [contextMapping_ruContext, length_append, length_append, length_replicate, length_replicate]
  change occasion.mapping.kBar + (buffer.samples piece.port piece.prachSymbol).length +
    ((handlePrachOccasion occasion).prachNofRb * nofSubcarriersPerRb - _ - _) = _
  omega

section

variable {occasion} {prachEaxc} {buffer} {maxNofPorts nofTdOccasions : Nat}
  (hsupported : occasion.mapping.nofRbRa ≠ 0)
  (hsequence : buffer.sequenceLength = occasion.preambleInfo.sequenceLength)

include hsupported hsequence

variable {piece : WireSection}

lemma length_receivedSection (hsent : Sent occasion prachEaxc piece) :
    (receivedSection occasion sector prachEaxc buffer piece).iqSamples.length =
      piece.nofPrbs * nofSubcarriersPerRb := by
  have hlen := length_wireIq occasion sector prachEaxc buffer hsupported hsequence piece
  have hstop := hsent.stop_le
  simp only [receivedSection]
  rw [length_take, length_drop, hlen]
  simp only [nofSubcarriersPerRb]
  omega

lemma receivedSection_window (hsent : Sent occasion prachEaxc piece) {window : SectionWindow}
    (hwindow : sectionWindow occasion.preambleInfo.sequenceLength occasion.mapping.kBar
      piece.startPrb piece.nofPrbs = some window) :
    let iqBuffer := ((receivedSection occasion sector prachEaxc buffer piece).iqSamples.drop
      window.iqStartRe).take window.iqSizeRe
    iqBuffer.length = window.iqSizeRe ∧
      ∀ re, window.startRe ≤ re → re < window.startRe + window.iqSizeRe →
        iqBuffer[re - window.startRe]? = (buffer.samples piece.port piece.prachSymbol)[re]? := by
  have hlen := length_receivedSection sector hsupported hsequence hsent
  obtain ⟨hinside, hfits, hstart, -⟩ := sectionWindow_eq_some hwindow
  constructor
  · rw [length_take, length_drop, hlen]
    omega
  · intro re hge hlt
    have hindex : piece.startPrb * nofSubcarriersPerRb +
        (window.iqStartRe + (re - window.startRe)) = occasion.mapping.kBar + re := by omega
    rw [getElem?_take_of_lt (by omega), getElem?_drop]
    simp only [receivedSection]
    rw [getElem?_take_of_lt (by omega), getElem?_drop, hindex, wireIq_getElem? _ _ _ _ _ (by omega)]

section

variable {history : List WireSection} {context : PrachContext Re}
  (hprogress : Progress occasion buffer maxNofPorts nofTdOccasions history context)
  (hsent : Sent occasion prachEaxc piece)

include hprogress hsent

lemma writeSection_progress (hport : piece.port < maxNofPorts) :
    ∃ after, writeSection piece.port (occasion.prachStartSymbol + piece.prachSymbol) context
        (receivedSection occasion sector prachEaxc buffer piece) = some after ∧
      Progress occasion buffer maxNofPorts nofTdOccasions (history ++ [piece]) after := by
  have hfor := hprogress.isFor
  have hctx : sectionWindow context.prachNofRe context.prachOffsetToFirstRe
        (receivedSection occasion sector prachEaxc buffer piece).startPrb
        (receivedSection occasion sector prachEaxc buffer piece).nofPrbs =
      sectionWindow occasion.preambleInfo.sequenceLength occasion.mapping.kBar piece.startPrb
        piece.nofPrbs := by
    rw [hfor.prachNofRe_eq, hfor.prachOffsetToFirstRe_eq]
    rfl
  rw [writeSection, hctx]
  rcases hwindow : sectionWindow occasion.preambleInfo.sequenceLength occasion.mapping.kBar
    piece.startPrb piece.nofPrbs with _ | window
  · refine ⟨context, rfl, hprogress.skip ?_⟩
    rintro symbol port re - hre ⟨-, -, hcarr⟩
    exact sectionWindow_eq_none hwindow hre hcarr
  obtain ⟨hinside, hfits, -, hcarr⟩ := sectionWindow_eq_some hwindow
  obtain ⟨hsize, hiq⟩ := receivedSection_window sector hsupported hsequence hsent hwindow
  rw [← length_receivedSection sector hsupported hsequence hsent] at hinside
  dsimp only
  rw [if_neg (not_lt.mpr hinside)]
  refine ⟨_, context.writeIq_eq_copyIq (hfor.bufferSymbol_eq hsent.prachSymbol_lt) ?_ ?_ ?_,
    hprogress.copyIq ?_ ?_⟩
  · rw [hfor.nofSymbols_eq]
    exact hsent.prachSymbol_lt
  · rwa [hfor.maxNofPorts_eq]
  · rwa [hsize, hfor.prachNofRe_eq]
  · intro re hre
    rw [hsize]
    exact hcarr re hre
  · intro re hge hlt
    rw [hsize] at hlt
    exact hiq re hge hlt

lemma receive_progress :
    ∃ after, receive occasion sector prachEaxc buffer context piece = some after ∧
      Progress occasion buffer maxNofPorts nofTdOccasions (history ++ [piece]) after := by
  simp only [receive, writeToPrachBuffer]
  rw [idxOf_eaxcOf prachEaxc hsent.port_lt, hprogress.isFor.maxNofPorts_eq]
  split_ifs with hport
  · refine ⟨context, rfl, hprogress.skip ?_⟩
    rintro symbol port re hlt - ⟨-, rfl, -⟩
    omega
  obtain ⟨after, hwrite, hafter⟩ :=
    writeSection_progress sector hsupported hsequence hprogress hsent (not_le.mp hport)
  refine ⟨after, ?_, hafter⟩
  rw [foldlM_cons, hwrite]
  rfl

end

end

def SplitsPrbs (pieces : List WireSection) (port symbol : Nat) : Prop :=
  ∃ ranges, Tiles (handlePrachOccasion occasion).prachNofRb 0 ranges ∧
    ranges.Perm ((pieces.filter fun piece => piece.port = port ∧ piece.prachSymbol = symbol).map
      fun piece => (piece.startPrb, piece.nofPrbs))

lemma SplitsPrbs.carries {occasion : PrachBufferContext} {pieces : List WireSection}
    {port symbol : Nat} (hsplit : SplitsPrbs occasion pieces port symbol)
    (hsupported : occasion.mapping.nofRbRa ≠ 0) {re : Nat}
    (hre : re < occasion.preambleInfo.sequenceLength) :
    ∃ piece ∈ pieces, piece.CarriesSample occasion symbol port re := by
  obtain ⟨ranges, htiles, hperm⟩ := hsplit
  have hfits := kBar_add_sequenceLength_le occasion hsupported
  simp only [nofSubcarriersPerRb] at hfits
  have hprb : (occasion.mapping.kBar + re) / 12 < (handlePrachOccasion occasion).prachNofRb := by
    omega
  obtain ⟨range, hrange, hge, hlt⟩ := htiles.exists_mem (Nat.zero_le _) hprb
  obtain ⟨piece, hpiece, rfl⟩ := mem_map.mp (hperm.mem_iff.mp hrange)
  obtain ⟨hmem, hat⟩ := mem_filter.mp hpiece
  obtain ⟨hport, hsym⟩ := of_decide_eq_true hat
  refine ⟨piece, hmem, hsym, hport, ?_⟩
  simp only [Carries, nofSubcarriersPerRb]
  omega

/-- The O-DU recovers the preamble from what the RU sent, and knows when it has all of
it. -/
structure Recovers (maxNofPorts nofTdOccasions : Nat) (pieces : List WireSection)
    (final : PrachContext Re) : Prop where
  samples_eq : ∀ port < maxNofPorts, ∀ symbol < occasion.preambleInfo.nofSymbols,
    SplitsPrbs occasion pieces port symbol → ∀ re < occasion.preambleInfo.sequenceLength,
        (buffer.samples port symbol)[re]? = some (final.samples port (nofTdOccasions - 1) symbol re)
  isComplete_iff : final.isComplete ↔
    ∀ symbol < occasion.preambleInfo.nofSymbols, ∀ port < maxNofPorts,
      ∀ re < occasion.preambleInfo.sequenceLength,
        ∃ piece ∈ pieces, piece.CarriesSample occasion symbol port re
  isComplete_of_splits : (∀ port < maxNofPorts, ∀ symbol < occasion.preambleInfo.nofSymbols,
    SplitsPrbs occasion pieces port symbol) → final.isComplete

omit [Zero Re] in
lemma Progress.recovers {occasion : PrachBufferContext} {buffer : PrachBuffer Re}
    {maxNofPorts nofTdOccasions : Nat} {pieces : List WireSection} {final : PrachContext Re}
    (hprogress : Progress occasion buffer maxNofPorts nofTdOccasions pieces final)
    (hsupported : occasion.mapping.nofRbRa ≠ 0) :
    Recovers occasion buffer maxNofPorts nofTdOccasions pieces final := by
  have hcomplete : final.isComplete ↔
      ∀ symbol < occasion.preambleInfo.nofSymbols, ∀ port < maxNofPorts,
        ∀ re < occasion.preambleInfo.sequenceLength,
          ∃ piece ∈ pieces, piece.CarriesSample occasion symbol port re := by
    rw [final.isComplete_iff, hprogress.isFor.nofSymbols_eq, hprogress.isFor.maxNofPorts_eq,
      hprogress.isFor.prachNofRe_eq]
    refine forall₂_congr fun symbol _ => forall₂_congr fun port hport => ?_
    exact forall₂_congr fun re hre => hprogress.reWritten_iff symbol port re hport hre
  refine ⟨?_, hcomplete, ?_⟩
  · intro port hport symbol hsymbol hsplit re hre
    apply hprogress.samples_eq symbol port re hport hre
    exact (hprogress.reWritten_iff symbol port re hport hre).mpr (hsplit.carries hsupported hre)
  intro hsplits
  rw [hcomplete]
  intro symbol hsymbol port hport re hre
  exact (hsplits port hport symbol hsymbol).carries hsupported hre

/-- Whatever pieces of the reply arrive, in whatever order. -/
theorem prachReply_recovered (hsupported : occasion.mapping.nofRbRa ≠ 0)
    (hsequence : buffer.sequenceLength = occasion.preambleInfo.sequenceLength)
    (maxNofPorts nofTdOccasions : Nat) (samples : Nat → Nat → Nat → Nat → Re)
    (pieces : List WireSection) (hsent : ∀ piece ∈ pieces, Sent occasion prachEaxc piece) :
    ∃ final, pieces.foldlM (receive occasion sector prachEaxc buffer)
        (new occasion maxNofPorts nofTdOccasions samples) = some final ∧
      Recovers occasion buffer maxNofPorts nofTdOccasions pieces final := by
  obtain ⟨final, hrun, hprogress⟩ := foldlM_history_invariant
    (Progress occasion buffer maxNofPorts nofTdOccasions)
    ⟨isFor_new samples, by simp [new], by simp [new]⟩
    fun _ _ piece hpiece hprogress =>
      receive_progress sector hsupported hsequence hprogress (hsent piece hpiece)
  exact ⟨final, hrun, hprogress.recovers hsupported⟩

end

def exampleBuffer : PrachBuffer Nat where
  maxNofPorts := 1
  maxNofSymbols := 12
  sequenceLength := 139
  samples := fun _ symbol => replicate 139 (symbol + 1)
  length_samples := fun _ _ => length_replicate

theorem twoHalves_recovered : exampleOccasion.mapping.nofRbRa = 12 ∧
      SplitsPrbs exampleOccasion [⟨0, 0, 6, 6⟩, ⟨0, 0, 0, 6⟩] 0 0 ∧
      ∃ final, [(⟨0, 0, 6, 6⟩ : WireSection), ⟨0, 0, 0, 6⟩].foldlM
          (receive exampleOccasion 0 oneEaxc exampleBuffer)
          (new exampleOccasion 1 1 fun _ _ _ _ => 0) = some final ∧
        Recovers exampleOccasion exampleBuffer 1 1 [⟨0, 0, 6, 6⟩, ⟨0, 0, 0, 6⟩] final :=
  ⟨rfl, ⟨[(0, 6), (6, 6)], ⟨rfl, by decide, rfl, by decide, rfl⟩, List.Perm.swap _ _ _⟩,
    prachReply_recovered exampleOccasion 0 oneEaxc exampleBuffer (by decide) rfl 1 1
      (fun _ _ _ _ => 0) [⟨0, 0, 6, 6⟩, ⟨0, 0, 0, 6⟩]
      (by
        intro piece hpiece
        obtain rfl | rfl := mem_pair.mp hpiece
        · exact ⟨by decide, by decide, by decide⟩
        · exact ⟨by decide, by decide, by decide⟩)⟩

end ProtoRu.Prach
