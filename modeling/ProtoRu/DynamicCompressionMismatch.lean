import ProtoRu.DynamicCompressionHeaders

namespace ProtoRu.DynamicCompression

open UplaneIq Uplane List

section

variable (receiver : Receiver) (config : ReceiverConfig) (params : RuCompressionParams)
  (data : Bytes)

def namingSection : Bytes :=
  [0, 0, 0, 1] ++ serializeCompressionHeader .dynamicHeader params ++
    replicate (comprLengthSize params.type) 0 ++ data

def namingHeader : Bytes :=
  [encodeDataDirection receiver.expectedDirection .standardChannelFilter, 0, 0, 0]

def namingMessage : Bytes := namingHeader receiver ++ namingSection params data

lemma drop_namingMessage :
    (namingMessage receiver params data).drop nofBytesUpHeader = namingSection params data := rfl

lemma namingMessage_wellFormed :
    HeaderWellFormed (receiver.decoderConfig config) (namingMessage receiver params data) := by
  have hslots : 0 < getNofSlotsPerSubframe config.scs := by cases config.scs <;> decide
  have hfirst : byteAt (namingMessage receiver params data) 0 =
    (encodeDataDirection receiver.expectedDirection .standardChannelFilter).toNat := rfl
  have hthird : byteAt (namingMessage receiver params data) 2 = 0 := rfl
  have hfourth : byteAt (namingMessage receiver params data) 3 = 0 := rfl
  obtain ⟨hdirection, hvers, hfilter⟩ :=
    decode_dataDirection receiver.expectedDirection .standardChannelFilter
  constructor
  · exact Nat.le_add_left 4 _
  · rw [hthird]
    decide
  · rwa [headerSlotId, hthird, hfourth]
  · exact hdirection
  · exact hvers
  · rw [hfirst, hfilter]
    decide
  · rw [hfourth]
    exact getNsymbPerSlot_pos config.cp

variable {receiver params} (hwire : OnTheWire params)

include hwire

lemma sectionCompression_namingSection :
    sectionCompression (receiver.decoderConfig config) (namingSection params data) = params := by
  obtain ⟨hwidth, htype⟩ := decode_comprHeaderByte hwire.dataWidth_le
  change (⟨toCompressionType ((UInt8.ofNat _).toNat &&& 0x0f),
    if (UInt8.ofNat _).toNat >>> 4 = 0 then maxIqWidth else (UInt8.ofNat _).toNat >>> 4⟩ :
      RuCompressionParams) = params
  rw [htype, hwidth, decode_dataWidth hwire.dataWidth_pos]

lemma udCompHdr_namingSection :
    (sectionAt (receiver.decoderConfig config) (namingSection params data)).udCompHdr = params := by
  simp only [sectionAt]
  exact sectionCompression_namingSection config data hwire

lemma iqDataOffset_namingSection : iqDataOffset (receiver.decoderConfig config)
      (namingSection params data) = 6 + comprLengthSize params.type := by
  rw [iqDataOffset, sectionCompression_namingSection config data hwire]
  rfl

lemma iqDataSize_namingSection : iqDataSize (receiver.decoderConfig config)
      (namingSection params data) = getCompressedPrbSize params := by
  rw [iqDataSize, sectionCompression_namingSection config data hwire]
  exact Nat.one_mul _

omit hwire in
lemma length_namingSection :
    (namingSection params data).length = 6 + comprLengthSize params.type + data.length := by
  simp only [namingSection, serializeCompressionHeader, length_append,
    length_replicate, length_cons, length_nil]

variable {data} (hdata : data.length = getCompressedPrbSize params)

include hdata

lemma sectionSize_namingSection : sectionSize (receiver.decoderConfig config)
      (namingSection params data) = (namingSection params data).length := by
  rw [sectionSize, iqDataOffset_namingSection config data hwire,
    iqDataSize_namingSection config data hwire, length_namingSection, hdata]

lemma namingSection_complete :
    SectionComplete (receiver.decoderConfig config) (namingSection params data) := by
  refine ⟨?_, (sectionSize_namingSection config hwire hdata).le⟩
  rintro ⟨-, -, hresd⟩
  rw [sectionCompression_namingSection config data hwire] at hresd
  exact hwire.type_ne hresd

lemma bytesAfter_namingSection :
    bytesAfterSection (receiver.decoderConfig config) (namingSection params data) = [] := by
  rw [bytesAfterSection, sectionSize_namingSection config hwire hdata]
  exact drop_length

lemma compressedData_namingSection : (sectionAt (receiver.decoderConfig config)
      (namingSection params data)).compressedData = data := by
  simp only [sectionAt]
  rw [iqDataOffset_namingSection config data hwire, iqDataSize_namingSection config data hwire,
    ← hdata]
  have hhdr : (namingSection params data).drop (6 + comprLengthSize params.type) = data := by
    apply drop_left'
    simp only [serializeCompressionHeader, length_append, length_replicate, length_cons, length_nil]
  rw [hhdr, take_length]

lemma hasSection_namingMessage_iff {decoded : Uplane.UplaneSectionParams} :
    HasSection (receiver.decoderConfig config) (namingMessage receiver params data) decoded ↔
      decoded = sectionAt (receiver.decoderConfig config) (namingSection params data) := by
  simp [HasSection, namingMessage_wellFormed, drop_namingMessage, mem_completeSections_iff,
    namingSection_complete config hwire hdata, bytesAfter_namingSection config hwire hdata,
    not_sectionComplete_nil]

variable {Value : Type} [Inhabited Value] (toFloat : Int → Nat → Value)

lemma decode_namingMessage (receiver : Receiver) :
    receiver.decode toFloat config (namingMessage receiver params data) =
      match decompressSamples (receiver.decompressor toFloat) 1 data params with
      | none => .faulted .applicationStopped
      | some iqSamples => .accepted
          ⟨headerAt (receiver.decoderConfig config) (namingMessage receiver params data),
          [fillResults (sectionAt (receiver.decoderConfig config)
            (namingSection params data)) iqSamples]⟩ := by
  have hdecompress : decompressSection (receiver.decompressor toFloat)
      (sectionAt (receiver.decoderConfig config) (namingSection params data)) =
      (decompressSamples (receiver.decompressor toFloat) 1 data params).map
        (fillResults (sectionAt (receiver.decoderConfig config) (namingSection params data))) := by
    rw [decompressSection, compressedData_namingSection config hwire hdata,
      udCompHdr_namingSection config data hwire]
    rfl
  simp only [Receiver.decode]
  rw [decode_of_wellFormed _ (namingMessage_wellFormed receiver config params data),
    drop_namingMessage, resultsMaxNofSupportedSections, decodeAllSections_eq,
    if_pos (namingSection_complete config hwire hdata), hdecompress,
    bytesAfter_namingSection config hwire hdata]
  simp only [if_neg (not_sectionComplete_nil _), if_neg (not_namesReserved_nil _)]
  cases decompressSamples (receiver.decompressor toFloat) 1 data params <;> rfl

lemma exists_samples_of_handled
    (hhand : HandledAsNamed toFloat receiver config (namingMessage receiver params data)) :
    ∃ decompressor iqSamples, algorithm toFloat params.type = some decompressor ∧
      decompressSamples decompressor 1 data params = some iqSamples ∧
      decompressSamples (receiver.decompressor toFloat) 1 data params = some iqSamples := by
  have hdecode := decode_namingMessage config hwire hdata toFloat receiver
  cases hsamps : decompressSamples (receiver.decompressor toFloat) 1 data params with
  | none =>
    rw [hsamps] at hdecode
    exact absurd hdecode hhand.running
  | some iqSamples =>
    rw [hsamps] at hdecode
    obtain ⟨decoded, named, hsect, hres, decompressor, halg, hnamed⟩ :=
      hhand.stored _ hdecode
    rw [hasSection_namingMessage_iff config hwire hdata] at hsect
    subst hsect
    rw [cons.injEq] at hres
    have hiq : iqSamples = named := congrArg UplaneSectionParams.iqSamples hres.1
    rw [udCompHdr_namingSection config data hwire] at halg
    rw [compressedData_namingSection config hwire hdata,
      udCompHdr_namingSection config data hwire, ← hiq] at hnamed
    exact ⟨decompressor, iqSamples, halg, hnamed, rfl⟩

end

/-- The quotient of a fixed-point value that is not zero is told apart from a zero sample. -/
def SeparatesZero {Value : Type} (toFloat : Int → Nat → Value) : Prop :=
  ∀ value gain zeroGain, value ≠ 0 → toFloat value gain ≠ toFloat 0 zeroGain

section

variable {Value : Type} [Inhabited Value] (toFloat : Int → Nat → Value)
  {params : RuCompressionParams} {data : Bytes}

lemma decompressSamples_one {decompressPrb : Nat → Bytes → Option (List (Value × Value))}
    {hprb : ∀ {dataWidth prb output}, decompressPrb dataWidth prb = some output →
      output.length = nofSubcarriersPerRb} (hdata : data.length = getCompressedPrbSize params) :
    decompressSamples (prbDecompressor decompressPrb hprb) 1 data params =
      decompressPrb params.dataWidth data := by
  have hcapacity : ¬maxNofPrbs * nofSubcarriersPerRb < 1 * nofSubcarriersPerRb := by decide
  have hlen : ¬data.length < 1 * getCompressedPrbSize params := by omega
  have hone : (replicate (1 * nofSubcarriersPerRb)
      (default : Value × Value)).length / nofSubcarriersPerRb = 1 := by
    rw [length_replicate]
    rfl
  rw [decompressSamples, if_neg hcapacity]
  simp only [prbDecompressor, hone]
  rw [if_neg hlen, decompressPrbs, take_of_length_le (by omega)]
  cases decompressPrb params.dataWidth data with
  | none => rfl
  | some output => simp [decompressPrbs]

omit [Inhabited Value] in
lemma decompressPrbGeneric_eq_none (hwidth : 0 < params.dataWidth)
    (hdata : data.length = 3 * params.dataWidth) :
    decompressPrbGeneric toFloat params.dataWidth data = none := by
  cases data with
  | nil => rfl
  | cons exponent prb =>
    simp only [decompressPrbGeneric]
    cases hvalues : unpackSamples prb params.dataWidth nofSubcarriersPerRb 0 with
    | none => rfl
    | some values =>
      have hbits := le_of_unpackSamples_eq_some hwidth hvalues
      rw [length_cons] at hdata
      omega

def zeroBfpPrb (dataWidth : Nat) : Bytes := 8 :: replicate (3 * dataWidth) 0

variable {dataWidth : Nat}

lemma unpackSamples_zeros (hle : dataWidth ≤ maxIqWidth) :
    unpackSamples (replicate (3 * dataWidth) 0) dataWidth nofSubcarriersPerRb 0 =
      some (replicate nofSubcarriersPerRb (0, 0)) := by
  have hwidths : ∀ width : Fin 17, unpackSamples (replicate (3 * width.val) 0) width
      nofSubcarriersPerRb 0 = some (replicate nofSubcarriersPerRb (0, 0)) := by
    decide +kernel
  exact hwidths ⟨dataWidth, Nat.lt_succ_of_le hle⟩

lemma exists_unpackSamples_zeroBfpPrb (hpos : 0 < dataWidth) (hle : dataWidth ≤ maxIqWidth) :
    ∃ values, unpackSamples (zeroBfpPrb dataWidth) dataWidth nofSubcarriersPerRb 0 =
      some values ∧ ∃ value ∈ values, value.1 ≠ 0 ∨ value.2 ≠ 0 := by
  have hwidths : ∀ width : Fin 17, 0 < width.val →
      (unpackSamples (zeroBfpPrb width) width nofSubcarriersPerRb 0).any
        (fun values => values.any fun value => value.1 ≠ 0 ∨ value.2 ≠ 0) = true := by
    decide +kernel
  obtain ⟨values, hvalues, hany⟩ := (Option.any_eq_true _ _).mp
    (hwidths ⟨dataWidth, Nat.lt_succ_of_le hle⟩ hpos)
  obtain ⟨value, hmem, hvalue⟩ := any_eq_true.mp hany
  exact ⟨values, hvalues, value, hmem, of_decide_eq_true hvalue⟩

omit [Inhabited Value] in
lemma decompressPrbNone_ne_generic (hzero : SeparatesZero toFloat) (hpos : 0 < dataWidth)
    (hle : dataWidth ≤ maxIqWidth) : decompressPrbNone toFloat dataWidth (zeroBfpPrb dataWidth) ≠
      decompressPrbGeneric toFloat dataWidth (zeroBfpPrb dataWidth) := by
  obtain ⟨values, hvalues, value, hmem, hvalue⟩ := exists_unpackSamples_zeroBfpPrb hpos hle
  intro heq
  simp only [decompressPrbNone, hvalues] at heq
  simp only [zeroBfpPrb, decompressPrbGeneric, unpackSamples_zeros hle] at heq
  have hsamples := Option.some.inj heq
  have hsample : toSample toFloat (quantizerGain dataWidth) value ∈
      values.map (toSample toFloat (quantizerGain dataWidth)) := mem_map_of_mem hmem
  rw [hsamples, map_replicate, mem_replicate] at hsample
  have hpair := hsample.2
  simp only [toSample, scale, zero_mul, Prod.mk.injEq] at hpair
  obtain hre | him := hvalue
  · exact hzero _ _ _ hre hpair.1
  · exact hzero _ _ _ him hpair.2

omit [Inhabited Value] in
lemma isImplemented_of_algorithm {type : CompressionType}
    {decompressor : IqDecompressor (Value × Value)}
    (halgorithm : algorithm toFloat type = some decompressor) : isImplemented type := by
  cases type <;> first | rfl | contradiction

lemma none_mismatches_bfp (hzero : SeparatesZero toFloat) (hwire : OnTheWire params)
    (htype : params.type = .bfp) :
    (zeroBfpPrb params.dataWidth).length = getCompressedPrbSize params ∧
      decompressSamples (iqCompressionNone toFloat) 1 (zeroBfpPrb params.dataWidth) params ≠
        decompressSamples (iqCompressionBfp toFloat) 1 (zeroBfpPrb params.dataWidth) params := by
  have hlen : (zeroBfpPrb params.dataWidth).length = getCompressedPrbSize params := by
    rw [getCompressedPrbSize_of_bfp htype, zeroBfpPrb, length_cons, length_replicate]
  refine ⟨hlen, ?_⟩
  rw [iqCompressionNone, iqCompressionBfp, decompressSamples_one hlen, decompressSamples_one hlen]
  exact decompressPrbNone_ne_generic toFloat hzero hwire.dataWidth_pos hwire.dataWidth_le

lemma decompressSamples_bfp_of_none (hwire : OnTheWire params) (htype : params.type = .none)
    (hdata : data.length = getCompressedPrbSize params) :
    decompressSamples (iqCompressionBfp toFloat) 1 data params = none := by
  rw [iqCompressionBfp, decompressSamples_one hdata]
  rw [getCompressedPrbSize_of_none htype] at hdata
  exact decompressPrbGeneric_eq_none toFloat hwire.dataWidth_pos hdata

lemma decompressSamples_death :
    decompressSamples (iqCompressionDeath : IqDecompressor (Value × Value)) 1 data params =
      none := by
  exact ite_self none

/-- A decompressor other than the named one stops on the data of one PRB or makes other samples of
it. -/
lemma exists_mismatched_data (hzero : SeparatesZero toFloat) (hwire : OnTheWire params)
    {decompressor : IqDecompressor (Value × Value)}
    (halg : algorithm toFloat params.type = some decompressor)
    {dlComprType : CompressionType} (hcreat : dlComprType ≠ .reserved)
    (hne : params.type ≠ dlComprType) :
    ∃ data, data.length = getCompressedPrbSize params ∧ ∀ iqSamples,
      decompressSamples (createdDecompressor toFloat dlComprType hcreat) 1 data params =
        some iqSamples → decompressSamples decompressor 1 data params ≠ some iqSamples := by
  have hzeros : (replicate (getCompressedPrbSize params) (0 : UInt8)).length =
      getCompressedPrbSize params := length_replicate
  cases htype : params.type <;> rw [htype] at halg hne
  case none =>
    refine ⟨_, hzeros, fun iqSamples hsamps => ?_⟩
    -- Only the block floating point decompressor is not the one that kills the application.
    have hstop : decompressSamples (createdDecompressor toFloat dlComprType hcreat) 1
        (replicate (getCompressedPrbSize params) 0) params = none := by
      cases dlComprType
      case none => exact absurd rfl hne
      case bfp => exact decompressSamples_bfp_of_none toFloat hwire htype hzeros
      case reserved => exact absurd rfl hcreat
      all_goals exact decompressSamples_death
    rw [hstop] at hsamps
    contradiction
  case bfp =>
    cases halg
    cases dlComprType
    case none =>
      obtain ⟨hlen, hmismatch⟩ := none_mismatches_bfp toFloat hzero hwire htype
      refine ⟨_, hlen, fun iqSamples hsamps hnamed => hmismatch ?_⟩
      rw [hnamed]
      exact hsamps
    case bfp => exact absurd rfl hne
    case reserved => exact absurd rfl hcreat
    all_goals
      refine ⟨_, hzeros, fun iqSamples hsamps => ?_⟩
      exact absurd (decompressSamples_death.symm.trans hsamps) (by simp)
  all_goals contradiction

lemma serves_of_handledAsNamed (hzero : SeparatesZero toFloat) {receiver : Receiver}
    (config : ReceiverConfig) (hwire : OnTheWire params)
    (hhand : ∀ data, data.length = getCompressedPrbSize params →
      HandledAsNamed toFloat receiver config (namingMessage receiver params data)) :
    receiver.Serves params := by
  have hzeros : (replicate (getCompressedPrbSize params) (0 : UInt8)).length =
      getCompressedPrbSize params := length_replicate
  obtain ⟨decompressor, -, halg, -⟩ :=
    exists_samples_of_handled config hwire hzeros toFloat (hhand _ hzeros)
  refine ⟨isImplemented_of_algorithm toFloat halg, ?_⟩
  cases receiver with
  | oduReceiver => trivial
  | ruSector dlComprType hcreat =>
    by_contra hne
    obtain ⟨data, hdata, hmismatch⟩ :=
      exists_mismatched_data toFloat hzero hwire halg hcreat hne
    obtain ⟨named, iqSamples, hnamed, hsamps, hstored⟩ :=
      exists_samples_of_handled config hwire hdata toFloat (hhand data hdata)
    rw [halg, Option.some.injEq] at hnamed
    subst hnamed
    exact hmismatch iqSamples hstored hsamps

/-- A receiver handles all messages of a set of compressions exactly when it serves those that a
header can name, and the O-DU a message when it serves its sections. -/
theorem dynamicHeaders_handled_iff (hzero : SeparatesZero toFloat) (config : ReceiverConfig) :
    (∀ (receiver : Receiver) (named : Set RuCompressionParams),
      (∀ message, (∀ decoded, HasSection (receiver.decoderConfig config) message decoded →
          decoded.udCompHdr ∈ named) →
        HandledAsNamed toFloat receiver config message) ↔
      ∀ params ∈ named, OnTheWire params → receiver.Serves params) ∧
    ∀ message, HandledAsNamed toFloat .oduReceiver config message ↔
      ∀ decoded, HasSection (Receiver.oduReceiver.decoderConfig config) message decoded →
        Receiver.oduReceiver.Serves decoded.udCompHdr := by
  refine ⟨fun receiver named => ⟨?_, ?_⟩, oduReceiver_handled_iff toFloat config⟩
  · intro hhandled params hparams hwire
    apply serves_of_handledAsNamed toFloat hzero config hwire
    intro data hdata
    apply hhandled
    intro decoded hsection
    rw [hasSection_namingMessage_iff config hwire hdata] at hsection
    rwa [hsection, udCompHdr_namingSection config data hwire]
  · intro hserves message hnamed
    apply handledAsNamed_of_serves
    intro decoded hsection
    exact hserves _ (hnamed decoded hsection) (onTheWire_of_hasSection hsection)

end

section

def exampleReceiverConfig : ReceiverConfig where
  scs := .kHz30
  cp := .normal
  ruNofPrbs := dynamicConfig.ruNofPrbs
  ruNofPrbs_pos := dynamicConfig.ruNofPrbs_pos
  ruNofPrbs_le := dynamicConfig.ruNofPrbs_le

def dividend (value : Int) (_gain : Nat) : Int := value

lemma dividend_separatesZero : SeparatesZero dividend := fun _ _ _ hvalue => hvalue

def bfpSector : Receiver := .ruSector .bfp (by decide)

def plainSector : Receiver := .ruSector .none (by decide)

theorem bfpSector_handled : HandledAsNamed dividend bfpSector exampleReceiverConfig
      (namingMessage bfpSector ⟨.bfp, 9⟩ (zeroBfpPrb 9)) := by
  apply ((dynamicHeaders_handled_iff dividend dividend_separatesZero
    exampleReceiverConfig).1 bfpSector {⟨.bfp, 9⟩}).mpr
  · rintro params rfl -
    exact ⟨rfl, rfl⟩
  intro decoded hsection
  have hwire : OnTheWire ⟨.bfp, 9⟩ := ⟨by decide, by decide, by decide⟩
  rw [hasSection_namingMessage_iff exampleReceiverConfig hwire rfl] at hsection
  rw [hsection]
  rfl

/-- Mu-law stops the O-DU; an RU without compression stores the exponent of a PRB as a sample. -/
theorem muLaw_and_mismatch_not_handled : Receiver.oduReceiver.decode dividend exampleReceiverConfig
        (namingMessage .oduReceiver ⟨.muLaw, 9⟩ (replicate 28 0)) =
      .faulted .applicationStopped ∧
    (∃ results, plainSector.decode dividend exampleReceiverConfig
      (namingMessage plainSector ⟨.bfp, 9⟩ (zeroBfpPrb 9)) = .accepted results) ∧
    ¬HandledAsNamed dividend plainSector exampleReceiverConfig
      (namingMessage plainSector ⟨.bfp, 9⟩ (zeroBfpPrb 9)) := by
  have hwire : OnTheWire ⟨.bfp, 9⟩ := ⟨by decide, by decide, by decide⟩
  have hsome : (decompressSamples (plainSector.decompressor dividend) 1 (zeroBfpPrb 9)
      ⟨.bfp, 9⟩).isSome := by decide +kernel
  refine ⟨by decide, ?_, ?_⟩
  · exact ⟨_, rfl⟩
  intro hhandled
  obtain ⟨decompressor, iqSamples, halgorithm, hnamed, hstored⟩ :=
    exists_samples_of_handled exampleReceiverConfig hwire rfl dividend hhandled
  cases halgorithm
  exact (none_mismatches_bfp dividend dividend_separatesZero hwire rfl).2
    (hstored.trans hnamed.symm)

end

end ProtoRu.DynamicCompression
