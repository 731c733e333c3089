import ProtoRu.PrachReplies

namespace ProtoRu.Prach

open Cplane

/-- The context is a reply to a decoded message whose request is recorded and its window captured.
-/
structure RepliesTo (config : DataFlowUplaneConfig) (prachEaxc : EaxcList)
    (prachRequestRepo : RuUplinkRequestRepository) (message : Bytes)
    (results : CplaneMessageDecoderResults) (nofBufferPorts : Nat)
    (context : DataFlowUplanePrachContext) : Prop where
  decoded : decode config.scs message = some results
  filter_compatible : isPrachFilterCompatible results.radioHdr.filterIndex
    (toPrachSubcarrierSpacing results.frameStructureScs)
  rbOffset_isSome : (calculatePrachRbOffset results.frequencyOffset
    (toPrachSubcarrierSpacing results.frameStructureScs) config.scs config.ruNofPrbs).isSome
  answered : context ∈ (handlePrachWindow context.sector prachEaxc
    (handlePrachScheduling config.scs config.ruNofPrbs prachRequestRepo context.eaxc results)
    results.radioHdr.slot nofBufferPorts).1

def sectionOffset (config : DataFlowUplaneConfig) (results : CplaneMessageDecoderResults) :
    Nat :=
  (prachFrequencyMappingGet (toPrachSubcarrierSpacing results.frameStructureScs) config.scs).kBar

/-- The section has room for the samples of the preamble. -/
def SectionHolds (config : DataFlowUplaneConfig) (results : CplaneMessageDecoderResults)
    (sequenceLength : Nat) : Prop :=
  sectionOffset config results + sequenceLength ≤ results.sectionFields.nofPrb * nofSubcarriersPerRb
  deriving Decidable

namespace RepliesTo

variable {config : DataFlowUplaneConfig} {prachEaxc : EaxcList}
  {prachRequestRepo : RuUplinkRequestRepository} {message : Bytes}
  {results : CplaneMessageDecoderResults} {nofBufferPorts : Nat}
  {context : DataFlowUplanePrachContext}
  (h : RepliesTo config prachEaxc prachRequestRepo message results nofBufferPorts context)

include h

lemma context_eq : ∃ rbOffset, context.nofSymbols ≠ 0 ∧
    context = prachContext context.sector results.radioHdr.slot context.eaxc context.port
      { toRuUplinkRequest results with
        prachScs := toPrachSubcarrierSpacing results.frameStructureScs
        prachStartRb := rbOffset } := by
  obtain ⟨request, hget, hctx⟩ := mem_handlePrachWindow h.answered
  obtain ⟨-, hsyms, -⟩ := (RuUplinkRequestRepository.get_eq_some_iff _ _ _ _).mp hget
  obtain ⟨rbOffset, rfl⟩ := handlePrachScheduling_get h.filter_compatible h.rbOffset_isSome hget
  refine ⟨rbOffset, ?_, hctx⟩
  rwa [hctx]

lemma nofSymbols_ne_zero : context.nofSymbols ≠ 0 := by
  obtain ⟨_, hne, -⟩ := h.context_eq
  exact hne

lemma nofSymbols_eq : context.nofSymbols = results.sectionFields.nofSymbols := by
  obtain ⟨_, -, heq⟩ := h.context_eq
  exact congrArg (·.nofSymbols) heq

lemma startSymbol_eq : context.startSymbol = results.radioHdr.startSymbol := by
  obtain ⟨_, -, heq⟩ := h.context_eq
  exact congrArg (·.startSymbol) heq

lemma nofPrb_eq : context.nofPrb = results.sectionFields.nofPrb := by
  obtain ⟨_, -, heq⟩ := h.context_eq
  exact congrArg (·.nofPrb) heq

lemma nofPrb_lt : context.nofPrb < 256 := by
  rw [h.nofPrb_eq]
  obtain ⟨-, rfl⟩ := (decode_eq_some_iff config.scs message results).mp h.decoded
  rw [sectionResultsAt_sectionFields]
  exact byteAt_lt _ _

lemma contextMapping_eq : contextMapping context =
    prachFrequencyMappingGet (toPrachSubcarrierSpacing results.frameStructureScs) config.scs := by
  have hslot : results.radioHdr.slot.numerology = toNumerologyValue config.scs := by
    obtain ⟨-, rfl⟩ := (decode_eq_some_iff config.scs message results).mp h.decoded
    rw [sectionResultsAt_radioHdr]
    rfl
  obtain ⟨_, -, heq⟩ := h.context_eq
  rw [heq, contextMapping, prachContext, hslot, toSubcarrierSpacing_toNumerologyValue]

lemma mem_enqueuePrachMessage_iff {Re : Type} [Zero Re] (compressor : IqCompressor (List Re))
    (buffer : PrachBuffer Re) (hasFreeBuffer : Nat → Bool) (action : PrachAction) :
    action ∈ enqueuePrachMessage compressor config context buffer hasFreeBuffer ↔
      SectionHolds config results buffer.sequenceLength ∧ ∃ i < context.nofSymbols,
          action ∈ (prachSymbolRound compressor config context buffer hasFreeBuffer i).1 ∧
          ∀ j < i, (prachSymbolRound compressor config context buffer hasFreeBuffer j).2 := by
  have hnofPrb := h.nofPrb_lt
  have hassert : ¬maxNofPrbs * nofSubcarriersPerRb < context.nofPrb * nofSubcarriersPerRb := by
    simp only [maxNofPrbs, nofSubcarriersPerRb]
    omega
  have hdrop : (context.nofPrb * nofSubcarriersPerRb < sectionOffset config results ∨
      context.nofPrb * nofSubcarriersPerRb - sectionOffset config results <
        buffer.sequenceLength) ↔ ¬SectionHolds config results buffer.sequenceLength := by
    rw [SectionHolds, h.nofPrb_eq]
    omega
  simp only [sectionOffset] at hdrop
  simp only [enqueuePrachMessage]
  have hmapped := h.rbOffset_isSome
  rw [if_neg hassert, h.contextMapping_eq,
    if_neg (fun hzero => by simp [calculatePrachRbOffset, hzero] at hmapped)]
  by_cases hholds : SectionHolds config results buffer.sequenceLength
  · rw [if_neg (mt hdrop.mp (not_not.mpr hholds)), mem_loopActions_iff]
    simp [hholds]
  · rw [if_pos (hdrop.mpr hholds)]
    simp [hholds]

end RepliesTo

variable (symbol prachSymbol : Nat)

section

variable {Re : Type} [Zero Re] (compressor : IqCompressor (List Re))
  (config : DataFlowUplaneConfig) (context : DataFlowUplanePrachContext)
  (buffer : PrachBuffer Re) (hasFreeBuffer : Nat → Bool)

/-- The symbol exists in slot and buffer, a frame buffer is free and the PRBs are compressed. -/
structure Sends (prachSymbol : Nat) : Prop where
  symbol_lt : context.startSymbol + prachSymbol < getNsymbPerSlot config.cp
  read_lt : prachSymbol < buffer.maxNofSymbols
  free : hasFreeBuffer (context.startSymbol + prachSymbol)
  compresses : (compressor.compress (prachPrbs context buffer prachSymbol)
    config.comprParams).isSome

/-- The headers and the compressed PRBs of one frame. -/
def requestFrameSize (nofPrb : Nat) : Nat :=
  config.headersSize + nofPrb * getCompressedPrbSize config.comprParams

lemma prachFrameSize_eq_some {prachSymbol : Nat} (hsome : (compressor.compress
      (prachPrbs context buffer prachSymbol) config.comprParams).isSome) :
    prachFrameSize compressor config context buffer prachSymbol =
      some (requestFrameSize config context.nofPrb) := by
  obtain ⟨message, hmessage, hlen⟩ := @buildMessage_eq_some _ compressor config.comprHeader
    (prachPrbs context buffer prachSymbol)
    (prachUserParameters config context (context.startSymbol + prachSymbol)) hsome
  have hprbs : (prachPrbs context buffer prachSymbol).length = context.nofPrb := by
    simp [prachPrbs, toPrbs]
  rw [hprbs] at hlen
  rw [prachFrameSize, hmessage, Option.bind_eq_bind, Option.bind_some, hlen]
  exact congrArg some (Nat.add_assoc _ _ _).symm

lemma prachSymbolRound_of_sends {prachSymbol : Nat}
    (hsends : Sends compressor config context buffer hasFreeBuffer prachSymbol) :
    prachSymbolRound compressor config context buffer hasFreeBuffer prachSymbol =
      ([.symbolPoint (context.startSymbol + prachSymbol), .getSymbol prachSymbol,
        .frame (requestFrameSize config context.nofPrb)], true) := by
  have hheaders := config.headersSize_le
  have hmtu := config.mtu_ge
  simp only [prachSymbolRound]
  rw [if_neg (not_le.mpr hsends.symbol_lt), if_neg (not_le.mpr hsends.read_lt),
    if_neg (by simp [hsends.free]), if_neg (by omega),
    prachFrameSize_eq_some compressor config context buffer hsends.compresses]

lemma prachSymbolRound_of_not_sends {prachSymbol : Nat}
    (hsends : ¬Sends compressor config context buffer hasFreeBuffer prachSymbol) :
    prachSymbolRound compressor config context buffer hasFreeBuffer prachSymbol =
      (.symbolPoint (context.startSymbol + prachSymbol) ::
        if getNsymbPerSlot config.cp ≤ context.startSymbol + prachSymbol then []
        else [.getSymbol prachSymbol], false) := by
  have hheaders := config.headersSize_le
  have hmtu := config.mtu_ge
  simp only [prachSymbolRound]
  by_cases hsym : getNsymbPerSlot config.cp ≤ context.startSymbol + prachSymbol
  · rw [if_pos hsym, if_pos hsym]
  rw [if_neg hsym, if_neg hsym]
  by_cases hread : buffer.maxNofSymbols ≤ prachSymbol
  · rw [if_pos hread]
  rw [if_neg hread]
  by_cases hfree : hasFreeBuffer (context.startSymbol + prachSymbol)
  · rw [if_neg (by simp [hfree]), if_neg (by omega), prachFrameSize, buildMessage_eq_none]
    · rfl
    · rw [← Option.not_isSome_iff_eq_none]
      exact fun hsome => hsends ⟨not_le.mp hsym, not_le.mp hread, hfree, hsome⟩
  · rw [if_pos (by simp [hfree])]

lemma prachSymbolRound_snd_iff (prachSymbol : Nat) :
    (prachSymbolRound compressor config context buffer hasFreeBuffer prachSymbol).2 ↔
      Sends compressor config context buffer hasFreeBuffer prachSymbol := by
  by_cases hsends : Sends compressor config context buffer hasFreeBuffer prachSymbol
  · simp [prachSymbolRound_of_sends, hsends]
  · simp [prachSymbolRound_of_not_sends, hsends]

lemma frame_mem_prachSymbolRound_iff (size prachSymbol : Nat) :
    .frame size ∈ (prachSymbolRound compressor config context buffer hasFreeBuffer prachSymbol).1 ↔
      Sends compressor config context buffer hasFreeBuffer prachSymbol ∧
        size = requestFrameSize config context.nofPrb := by
  by_cases hsends : Sends compressor config context buffer hasFreeBuffer prachSymbol
  · simp [prachSymbolRound_of_sends, hsends]
  · rw [prachSymbolRound_of_not_sends _ _ _ _ _ hsends]
    split <;> simp [hsends]

lemma symbolPoint_mem_prachSymbolRound_iff :
    .symbolPoint symbol ∈ (prachSymbolRound compressor config context buffer hasFreeBuffer
        prachSymbol).1 ↔ symbol = context.startSymbol + prachSymbol := by
  by_cases hsends : Sends compressor config context buffer hasFreeBuffer prachSymbol
  · simp [prachSymbolRound_of_sends, hsends]
  · rw [prachSymbolRound_of_not_sends _ _ _ _ _ hsends]
    split <;> simp

lemma getSymbol_mem_prachSymbolRound_iff :
    .getSymbol symbol ∈ (prachSymbolRound compressor config context buffer hasFreeBuffer
        prachSymbol).1 ↔
      symbol = prachSymbol ∧ context.startSymbol + prachSymbol < getNsymbPerSlot config.cp := by
  by_cases hsends : Sends compressor config context buffer hasFreeBuffer prachSymbol
  · simp [prachSymbolRound_of_sends, hsends, hsends.symbol_lt]
  rw [prachSymbolRound_of_not_sends _ _ _ _ _ hsends]
  split
  · simp [not_lt.mpr ‹_›]
  · simp [not_le.mp ‹_›]

/-- No frame is larger than its buffer. -/
def FramesFit : Prop :=
  ∀ size, .frame size ∈ enqueuePrachMessage compressor config context buffer hasFreeBuffer →
    size ≤ config.mtu

/-- Every symbol read is one of the buffer, and every symbol point one of the slot. -/
structure SymbolsInRange : Prop where
  reads : ∀ symbol, .getSymbol symbol ∈
    enqueuePrachMessage compressor config context buffer hasFreeBuffer →
      symbol < buffer.maxNofSymbols
  points : ∀ symbol, .symbolPoint symbol ∈
    enqueuePrachMessage compressor config context buffer hasFreeBuffer →
      symbol < getNsymbPerSlot config.cp

end

def zeroCompressor : IqCompressor (List Nat) where
  compressPrb params _ := some (List.replicate (getCompressedPrbSize params) 0)
  length_compressPrb := by simp
  isSome_compressPrb _ _ _ := rfl

lemma zeroCompressor_compresses {params : RuCompressionParams}
    (himpl : isImplemented params.type) (prbs : List (List Nat)) :
    (zeroCompressor.compress prbs params).isSome :=
  IqCompressor.compress_isSome_iff.mpr ⟨himpl, fun _ _ => rfl⟩

def shortPreamble : PrachBuffer Nat where
  maxNofPorts := 1
  maxNofSymbols := 12
  sequenceLength := 139
  samples _ _ := List.replicate 139 0
  length_samples _ _ := List.length_replicate

lemma jumboMtu_ge : 1500 ≤ 9000 := by decide

lemma jumboMtu_le : 9000 ≤ 9600 := by decide

def carrier40MHz (comprParams : RuCompressionParams) (hpos : 0 < comprParams.dataWidth)
    (hle : comprParams.dataWidth ≤ maxIqWidth) : DataFlowUplaneConfig where
  scs := .kHz30
  cp := .normal
  ruNofPrbs := 106
  comprParams := comprParams
  comprHeader := .staticHeader
  direction := .uplink
  vlanTagged := false
  mtu := 9000
  ruNofPrbs_pos := by decide
  ruNofPrbs_le := by decide
  dataWidth_pos := hpos
  dataWidth_le := hle
  mtu_ge := jumboMtu_ge
  mtu_le := jumboMtu_le

def bfp9Carrier : DataFlowUplaneConfig := carrier40MHz ⟨.bfp, 9⟩ (by decide) (by decide)

def uncompressedCarrier : DataFlowUplaneConfig :=
  carrier40MHz ⟨.none, 16⟩ (by decide) (by decide)

def prachMessage (startSymbol nofPrb nofSymbols : UInt8) : Bytes :=
  [0x17, 0, 0, startSymbol, 1, 3, 0, 0, 0xc1, 0, 0, 0x91, 0, 0, 0, nofPrb, 0xff,
    0xf0 ||| nofSymbols, 0, 0, 0, 0, 0, 0]

def prachResults (startSymbol nofPrb nofSymbols : Nat) : CplaneMessageDecoderResults where
  numSections := 1
  sectionType := 3
  radioHdr := ⟨.uplink, .ulPrachPreambleShort30kHz, startSymbol, ⟨1, 0⟩⟩
  sectionFields := ⟨0, 0, nofPrb, 0xfff, nofSymbols⟩
  comprParams := ⟨.bfp, 9⟩
  frameStructureScs := .kHz30
  fftSize := 12

def prachReply (startSymbol nofPrb nofSymbols : Nat) : DataFlowUplanePrachContext :=
  ⟨⟨1, 0⟩, 0, 0, 0, 0, nofPrb, startSymbol, nofSymbols, .ulPrachPreambleShort30kHz, .kHz30, 0⟩

lemma fullSection_repliesTo : RepliesTo bfp9Carrier oneEaxc (.new 40)
    (prachMessage 0 12 12) (prachResults 0 12 12) 1 (prachReply 0 12 12) :=
  ⟨by decide +kernel, by decide, by decide, by decide +kernel⟩

lemma wideSection_repliesTo : RepliesTo uncompressedCarrier oneEaxc (.new 40)
    (prachMessage 0 200 12) (prachResults 0 200 12) 1 (prachReply 0 200 12) :=
  ⟨by decide +kernel, by decide, by decide, by decide +kernel⟩

lemma longRequest_repliesTo : RepliesTo bfp9Carrier oneEaxc (.new 40)
    (prachMessage 0 12 13) (prachResults 0 12 13) 1 (prachReply 0 12 13) :=
  ⟨by decide +kernel, by decide, by decide, by decide +kernel⟩

lemma lateRequest_repliesTo : RepliesTo bfp9Carrier oneEaxc (.new 40)
    (prachMessage 14 12 1) (prachResults 14 12 1) 1 (prachReply 14 12 1) :=
  ⟨by decide +kernel, by decide, by decide, by decide +kernel⟩

section

variable {Re : Type} [Zero Re] (compressor : IqCompressor (List Re))
  {config : DataFlowUplaneConfig} {prachEaxc : EaxcList}
  {prachRequestRepo : RuUplinkRequestRepository} {message : Bytes}
  {results : CplaneMessageDecoderResults} {context : DataFlowUplanePrachContext}
  (buffer : PrachBuffer Re) (hasFreeBuffer : Nat → Bool)

/-- No frame can be built: the section is too small, the first symbol does not exist, no frame
buffer is free, or the compressor stops. -/
def DroppedAtStart (config : DataFlowUplaneConfig) (results : CplaneMessageDecoderResults)
    (context : DataFlowUplanePrachContext) : Prop :=
  ¬SectionHolds config results buffer.sequenceLength ∨
    getNsymbPerSlot config.cp ≤ results.radioHdr.startSymbol ∨ buffer.maxNofSymbols = 0 ∨
    ¬hasFreeBuffer results.radioHdr.startSymbol ∨
    ¬(compressor.compress (prachPrbs context buffer 0) config.comprParams).isSome

/-- The replies fit exactly when the headers and PRBs of one frame do, or the reply is dropped at
its start. -/
theorem framesFit_iff_requestFrameSize_le
    (h : RepliesTo config prachEaxc prachRequestRepo message results buffer.maxNofPorts context) :
    FramesFit compressor config context buffer hasFreeBuffer ↔
      requestFrameSize config results.sectionFields.nofPrb ≤ config.mtu ∨
        DroppedAtStart compressor buffer hasFreeBuffer config results context := by
  simp only [FramesFit]
  simp only [h.mem_enqueuePrachMessage_iff, frame_mem_prachSymbolRound_iff,
    prachSymbolRound_snd_iff, h.nofPrb_eq]
  constructor
  · intro hfit
    by_contra hnot
    obtain ⟨hsize, hbuilt⟩ := not_or.mp hnot
    obtain ⟨hholds, hsymbol, hread, hfree, hcompresses⟩ : _ ∧ _ ∧ _ ∧ _ ∧ _ := by
      simpa only [DroppedAtStart, not_or, not_not] using hbuilt
    -- The first round sends.
    refine hsize (hfit _ ⟨hholds, 0, Nat.pos_of_ne_zero h.nofSymbols_ne_zero,
      ⟨⟨?_, Nat.pos_of_ne_zero hread, ?_, hcompresses⟩, rfl⟩, by simp⟩)
    · rw [h.startSymbol_eq]
      exact not_le.mp hsymbol
    · rwa [h.startSymbol_eq]
  · rintro (hsize | hnothing) size ⟨hholds, i, -, ⟨hsends, rfl⟩, hreached⟩
    · exact hsize
    exfalso
    have hfirst : Sends compressor config context buffer hasFreeBuffer 0 := by
      obtain rfl | hpos := Nat.eq_zero_or_pos i
      · exact hsends
      · exact hreached 0 hpos
    have hsymbol := hfirst.symbol_lt
    have hfree := hfirst.free
    rw [h.startSymbol_eq] at hsymbol hfree
    obtain hsmall | hstart | hempty | hfull | hdeath := hnothing
    · exact hsmall hholds
    · omega
    · exact absurd hfirst.read_lt (by omega)
    · exact hfull hfree
    · exact hdeath hfirst.compresses

theorem fullSection_framesFit :
    RepliesTo bfp9Carrier oneEaxc (.new 40) (prachMessage 0 12 12) (prachResults 0 12 12)
        shortPreamble.maxNofPorts (prachReply 0 12 12) ∧
      FramesFit zeroCompressor bfp9Carrier (prachReply 0 12 12) shortPreamble fun _ => true :=
  ⟨fullSection_repliesTo,
    (framesFit_iff_requestFrameSize_le zeroCompressor shortPreamble (fun _ => true)
      fullSection_repliesTo).mpr (Or.inl (by decide))⟩

/-- An accepted request of 200 PRBs makes the data flow write 9630 bytes into a frame
buffer of 9000. -/
theorem wideSection_not_framesFit :
    RepliesTo uncompressedCarrier oneEaxc (.new 40) (prachMessage 0 200 12)
        (prachResults 0 200 12) shortPreamble.maxNofPorts (prachReply 0 200 12) ∧
      requestFrameSize uncompressedCarrier 200 = 9630 ∧ uncompressedCarrier.mtu = 9000 ∧
      ¬FramesFit zeroCompressor uncompressedCarrier (prachReply 0 200 12) shortPreamble
        fun _ => true := by
  refine ⟨wideSection_repliesTo, by decide, rfl, fun hfit => ?_⟩
  have hsends : Sends zeroCompressor uncompressedCarrier (prachReply 0 200 12) shortPreamble
      (fun _ => true) 0 := ⟨by decide, by decide, rfl, zeroCompressor_compresses rfl _⟩
  have hsize := hfit 9630 ((wideSection_repliesTo.mem_enqueuePrachMessage_iff ..).mpr
    ⟨by decide, 0, by decide, (frame_mem_prachSymbolRound_iff ..).mpr ⟨hsends, by decide⟩, by simp⟩)
  contradiction

/-- At a symbol within both limits no frame buffer is free, or the compressor stops. -/
def LeftAt (config : DataFlowUplaneConfig) (results : CplaneMessageDecoderResults)
    (context : DataFlowUplanePrachContext) (prachSymbol : Nat) : Prop :=
  results.radioHdr.startSymbol + prachSymbol < getNsymbPerSlot config.cp ∧
    prachSymbol < buffer.maxNofSymbols ∧
    (¬hasFreeBuffer (results.radioHdr.startSymbol + prachSymbol) ∨
      ¬(compressor.compress (prachPrbs context buffer prachSymbol) config.comprParams).isSome)

lemma symbolsInRange_iff_reached
    (h : RepliesTo config prachEaxc prachRequestRepo message results buffer.maxNofPorts context) :
    SymbolsInRange compressor config context buffer hasFreeBuffer ↔
      (SectionHolds config results buffer.sequenceLength →
        ∀ i < context.nofSymbols,
          (∀ j < i, Sends compressor config context buffer hasFreeBuffer j) →
          context.startSymbol + i < getNsymbPerSlot config.cp ∧ i < buffer.maxNofSymbols) := by
  constructor
  · intro hrange hholds i hi hreach
    have hreach' : ∀ j < i, (prachSymbolRound compressor config context buffer hasFreeBuffer j).2 :=
      fun j hj => (prachSymbolRound_snd_iff ..).mpr (hreach j hj)
    have hpoint := hrange.points (context.startSymbol + i)
      ((h.mem_enqueuePrachMessage_iff ..).mpr ⟨hholds, i, hi,
        (symbolPoint_mem_prachSymbolRound_iff ..).mpr rfl, hreach'⟩)
    exact ⟨hpoint, hrange.reads i ((h.mem_enqueuePrachMessage_iff ..).mpr ⟨hholds, i, hi,
      (getSymbol_mem_prachSymbolRound_iff ..).mpr ⟨rfl, hpoint⟩, hreach'⟩)⟩
  · intro hall
    constructor
    · intro symbol hmem
      obtain ⟨hholds, i, hi, hread, hreach⟩ := (h.mem_enqueuePrachMessage_iff ..).mp hmem
      obtain ⟨rfl, -⟩ := (getSymbol_mem_prachSymbolRound_iff ..).mp hread
      exact (hall hholds symbol hi fun j hj =>
        (prachSymbolRound_snd_iff ..).mp (hreach j hj)).2
    · intro symbol hmem
      obtain ⟨hholds, i, hi, hpoint, hreach⟩ := (h.mem_enqueuePrachMessage_iff ..).mp hmem
      obtain rfl := (symbolPoint_mem_prachSymbolRound_iff ..).mp hpoint
      exact (hall hholds i hi fun j hj =>
        (prachSymbolRound_snd_iff ..).mp (hreach j hj)).1

/-- The symbols are in range exactly when buffer and slot have all of the request, or the reply
ends before. -/
theorem symbolsInRange_iff_nofSymbols_le
    (h : RepliesTo config prachEaxc prachRequestRepo message results buffer.maxNofPorts context) :
    SymbolsInRange compressor config context buffer hasFreeBuffer ↔
      results.sectionFields.nofSymbols ≤ buffer.maxNofSymbols ∧
        results.radioHdr.startSymbol + results.sectionFields.nofSymbols ≤
          getNsymbPerSlot config.cp ∨
      ¬SectionHolds config results buffer.sequenceLength ∨
      ∃ i < results.sectionFields.nofSymbols,
        LeftAt compressor buffer hasFreeBuffer config results context i := by
  have hne := h.nofSymbols_ne_zero
  rw [symbolsInRange_iff_reached compressor buffer hasFreeBuffer h, h.startSymbol_eq]
  rw [h.nofSymbols_eq] at hne ⊢
  constructor
  · intro hall
    by_contra hnot
    obtain ⟨hfits, hholds, hleft⟩ : _ ∧ _ ∧ _ := by simpa only [not_or, not_not] using hnot
    -- The first symbol that the slot or the buffer does not have is reached.
    have hfirst := hall hholds (min buffer.maxNofSymbols
      (getNsymbPerSlot config.cp - results.radioHdr.startSymbol)) (by omega) ?_
    · omega
    intro j hj
    have hsymbol : results.radioHdr.startSymbol + j < getNsymbPerSlot config.cp := by omega
    have hstays : ¬LeftAt compressor buffer hasFreeBuffer config results context j :=
      fun hleft' => hleft ⟨j, by omega, hleft'⟩
    have hread : j < buffer.maxNofSymbols := by omega
    obtain ⟨hfree, hcompresses⟩ : _ ∧ _ := by
      simpa only [LeftAt, hsymbol, hread, true_and, not_or, not_not] using hstays
    rw [← h.startSymbol_eq] at hsymbol hfree
    exact ⟨hsymbol, hread, hfree, hcompresses⟩
  · rintro (hfits | hsmall | ⟨i, -, hsymbol, hread, hleft⟩) hholds j hj hreached
    · omega
    · contradiction
    have hle : j ≤ i := by
      by_contra hlt
      have hsends := hreached i (by omega)
      have hfree := hsends.free
      rw [h.startSymbol_eq] at hfree
      exact hleft.elim (· hfree) (· hsends.compresses)
    omega

end

theorem fullSection_symbolsInRange :
    RepliesTo bfp9Carrier oneEaxc (.new 40) (prachMessage 0 12 12) (prachResults 0 12 12)
        shortPreamble.maxNofPorts (prachReply 0 12 12) ∧
      SymbolsInRange zeroCompressor bfp9Carrier (prachReply 0 12 12) shortPreamble fun _ => true :=
  ⟨fullSection_repliesTo,
    (symbolsInRange_iff_nofSymbols_le zeroCompressor shortPreamble (fun _ => true)
      fullSection_repliesTo).mpr (Or.inl (by decide))⟩

/-- A request of 13 symbols reads symbol 12 of a buffer of 12, and one from symbol 14 on a symbol
beyond the slot. -/
theorem longRequest_not_symbolsInRange :
    (RepliesTo bfp9Carrier oneEaxc (.new 40) (prachMessage 0 12 13) (prachResults 0 12 13)
        shortPreamble.maxNofPorts (prachReply 0 12 13) ∧
      ¬SymbolsInRange zeroCompressor bfp9Carrier (prachReply 0 12 13) shortPreamble fun _ => true) ∧
    (RepliesTo bfp9Carrier oneEaxc (.new 40) (prachMessage 14 12 1) (prachResults 14 12 1)
        shortPreamble.maxNofPorts (prachReply 14 12 1) ∧
      ¬SymbolsInRange zeroCompressor bfp9Carrier (prachReply 14 12 1) shortPreamble
        fun _ => true) := by
  refine ⟨⟨longRequest_repliesTo, ?_⟩, lateRequest_repliesTo, ?_⟩
  · rw [symbolsInRange_iff_reached _ _ _ longRequest_repliesTo]
    intro hall
    have hread := hall (by decide) 12 (by decide) fun j hj =>
      ⟨?_, hj, rfl, zeroCompressor_compresses rfl _⟩
    · contradiction
    · have hsymbols : getNsymbPerSlot bfp9Carrier.cp = 14 := rfl
      change 0 + j < 14
      omega
  · rw [symbolsInRange_iff_reached _ _ _ lateRequest_repliesTo]
    intro hall
    exact absurd (hall (by decide) 0 (by decide) (by simp)).1 (by decide)

end ProtoRu.Prach
