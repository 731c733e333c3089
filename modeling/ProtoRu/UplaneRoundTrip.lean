import ProtoRu.UplaneMessageDecoding

namespace ProtoRu.Uplane

open List SlotPoint UInt8

def wireSlot (slot : SlotPoint) : SlotPoint :=
  ⟨slot.numerology, slot.count % wirePeriod slot.numerology⟩

lemma ofSubframe_wireSlot (slot : SlotPoint) :
    ofSubframe slot.numerology (slot.sfn % 256) slot.subframeIndex
      slot.subframeSlotIndex = wireSlot slot := by
  simp only [wireSlot, ofSubframe]
  rw [← (wireSlot_count slot)]
  rw [← slot.subframeSlotIndex_add_subframeIndex]
  rfl

section

lemma decode_fields {high low width : Nat} (upper : Nat) (hwidth : upper + width = 8)
    (hhigh : high < 2 ^ upper) (hlow : low < 2 ^ width) :
    let value := (ofNat (high <<< width ||| low)).toNat
    value >>> width = high ∧ value &&& (2 ^ width - 1) = low := by
  have hbyte := shiftLeft_or_lt upper hhigh hlow
  rw [hwidth] at hbyte
  rw [toNat_ofNat_of_lt' hbyte]
  exact ⟨shiftRight_shiftLeft_or hlow, shiftLeft_or_and hlow⟩

lemma decode_dataDirection (direction : DataDirection) (filterIndex : FilterIndexType) :
    let value := (encodeDataDirection direction filterIndex).toNat
    toDataDirection (value >>> 7) = direction ∧ value >>> 4 &&& 7 = ofhPayloadVersion ∧
      toFilterIndexType (value &&& 0xf) = filterIndex := by
  cases direction <;> cases filterIndex <;> decide

section

variable {slot : SlotPoint} (hnum : slot.numerology < nofNumerologies)

include hnum

lemma subframeSlotIndex_lt_sixteen : slot.subframeSlotIndex < 16 := by
  have hlt := slot.subframeSlotIndex_lt
  have hle : slot.nofSlotsPerSubframe ≤ 16 := by
    simp only [nofSlotsPerSubframe]
    rw [Nat.one_shiftLeft]
    exact Nat.pow_le_pow_right (by decide) (Nat.le_of_lt_succ hnum)
  omega

lemma decode_subframeAndSlot : let value := (encodeSubframeAndSlot slot).toNat
    value >>> 4 = slot.subframeIndex ∧ value &&& 0x0f = slot.subframeSlotIndex >>> 2 := by
  have hslot := subframeSlotIndex_lt_sixteen hnum
  have hsubf : slot.subframeIndex < 10 := slot.subframeIndex_lt
  exact decode_fields 4 rfl (by omega) (by omega)

end

lemma decode_slotLsbAndSymbol {params : UplaneMessageParams}
    (hsym : params.symbolId < maxNsymbPerSlot) :
    let value := (encodeSlotLsbAndSymbol params).toNat
    value >>> 6 = params.slot.subframeSlotIndex &&& 0x3 ∧ value &&& 0x3f = params.symbolId :=
  decode_fields 2 rfl (Nat.and_lt_two_pow _ (by decide)) (lt_trans hsym (by decide))

/-- The low bits of the section identifier and the high bits of the start PRB share a byte. -/
lemma decode_sectIdRbSymbols (sectionId startPrb : Nat) :
    let value := (ofNat ((sectionId &&& 0xf) <<< 4 ||| 0 <<< 3 ||| 0 <<< 2 |||
      startPrb >>> 8 &&& 0x3)).toNat
    value >>> 4 = sectionId &&& 0xf ∧ value >>> 3 &&& 1 = 0 ∧ value >>> 2 &&& 1 = 0 ∧
      value &&& 0x03 = startPrb >>> 8 &&& 0x3 := by
  have hlow : startPrb >>> 8 &&& 0x3 < 2 ^ 2 := Nat.and_lt_two_pow _ (by decide)
  have hhigh : sectionId &&& 0xf < 2 ^ 4 := Nat.and_lt_two_pow _ (by decide)
  have hfields := decode_fields 4 rfl hhigh (lt_trans hlow (show 2 ^ 2 < 2 ^ 4 by decide))
  simp only [Nat.zero_shiftLeft, Nat.or_zero]
  generalize startPrb >>> 8 &&& 0x3 = low at *
  have hmask (width value : Nat) := Nat.and_two_pow_sub_one_eq_mod value width
  simp only [hmask, hmask 1, hmask 2, Nat.shiftRight_eq_div_pow] at hfields ⊢
  omega

lemma toNat_ofNat_shiftRight (width : Nat) {value : Nat} (hvalue : value < 2 ^ (width + 8)) :
    (ofNat (value >>> width)).toNat = value >>> width := by
  apply toNat_ofNat_of_lt'
  rw [Nat.shiftRight_eq_div_pow]
  apply Nat.div_lt_of_lt_mul
  rwa [Nat.pow_add] at hvalue

lemma decode_startPrb {startPrb : Nat} (hstart : startPrb < 2 ^ 10) :
    (startPrb >>> 8 &&& 0x3) <<< 8 ||| (ofNat startPrb).toNat = startPrb := by
  have hmsb : startPrb >>> 8 &&& 0x3 = startPrb >>> 8 := by
    change startPrb >>> 8 &&& (2 ^ 2 - 1) = _
    rw [Nat.and_two_pow_sub_one_eq_mod]
    omega
  rw [hmsb, toNat_ofNat', ← Nat.and_two_pow_sub_one_eq_mod]
  exact shiftRight_shiftLeft_or_and _ 8

lemma decode_nofPrb (nofPrb : Nat) : (ofNat (if nofPrb > 255 then 0 else nofPrb)).toNat =
      if nofPrb > 255 then 0 else nofPrb := by
  apply toNat_ofNat_of_lt'
  change _ < 256
  split <;> omega

lemma decode_dataWidth {dataWidth : Nat} (hpos : 0 < dataWidth) :
    (if (if dataWidth = 16 then 0 else dataWidth) = 0 then maxIqWidth
      else if dataWidth = 16 then 0 else dataWidth) = dataWidth := by
  obtain hfull | hfull := eq_or_ne dataWidth 16
  · rw [hfull]
    rfl
  · rw [if_neg hfull, if_neg hpos.ne']

lemma decode_comprHeaderByte {params : RuCompressionParams}
    (hwidth : params.dataWidth ≤ maxIqWidth) :
    let value := (ofNat ((if params.dataWidth = 16 then 0 else params.dataWidth) <<< 4 |||
      params.type.toValue)).toNat
    value >>> 4 = (if params.dataWidth = 16 then 0 else params.dataWidth) ∧
      toCompressionType (value &&& 0x0f) = params.type := by
  have hlow : params.type.toValue < 2 ^ 4 := by cases params.type <;> decide
  have hhigh : (if params.dataWidth = 16 then 0 else params.dataWidth) < 2 ^ 4 := by
    simp only [maxIqWidth] at hwidth
    split <;> omega
  obtain ⟨hwidth, htype⟩ := decode_fields 4 rfl hhigh hlow
  exact ⟨hwidth, (congrArg _ htype).trans (toCompressionType_toValue params.type)⟩

end

structure Sendable (config : UplaneDecoderConfig) (params : UplaneMessageParams) : Prop where
  numerology_eq : params.slot.numerology = toNumerologyValue config.scs
  symbolId_lt : params.symbolId < config.nofSymbols
  nofSymbols_le : config.nofSymbols ≤ maxNsymbPerSlot
  direction_eq : params.direction = config.expectedDirection
  filterIndex_ne : params.filterIndex ≠ .reserved
  sectionId_lt : params.sectionId < 2 ^ 12
  startPrb_lt : params.startPrb < 2 ^ 10

section

variable {config : UplaneDecoderConfig} {params : UplaneMessageParams}

lemma decodeHeader_buildRadioAppHeader (hsend : Sendable config params) (rest : Bytes) :
    decodeHeader config (buildRadioAppHeader params ++ rest) =
      some (⟨params.direction, wireSlot params.slot, params.filterIndex, params.symbolId⟩,
        rest) := by
  have hnum : params.slot.numerology < nofNumerologies := by
    rw [hsend.numerology_eq]
    exact toNumerologyValue_lt config.scs
  obtain ⟨hdirection, hvers, hfilter⟩ :=
    decode_dataDirection params.direction params.filterIndex
  obtain ⟨hsubf, hslotMsb⟩ := decode_subframeAndSlot hnum
  obtain ⟨hslotLsb, hsym⟩ := decode_slotLsbAndSymbol
    (lt_of_lt_of_le hsend.symbolId_lt hsend.nofSymbols_le)
  have hframe : (ofNat params.slot.sfn).toNat = params.slot.sfn % 256 :=
    toNat_ofNat'
  have hslot : (params.slot.subframeSlotIndex >>> 2) <<< 2 |||
      (params.slot.subframeSlotIndex &&& 0x3) = params.slot.subframeSlotIndex :=
    shiftRight_shiftLeft_or_and _ 2
  have hslotLt : params.slot.subframeSlotIndex < getNofSlotsPerSubframe config.scs := by
    have hlt := params.slot.subframeSlotIndex_lt
    simp only [nofSlotsPerSubframe] at hlt
    rwa [hsend.numerology_eq] at hlt
  have hlength : requireRemaining nofBytesUpHeader (buildRadioAppHeader params ++ rest) =
      some ((), buildRadioAppHeader params ++ rest) := by
    rw [requireRemaining_apply, if_neg]
    simp [buildRadioAppHeader, nofBytesUpHeader]
  simp only [decodeHeader]
  rw [bind_of_eq_some hlength]
  simp only [buildRadioAppHeader]
  simp only [cons_append, nil_append]
  rw [readOneByte_bind, readOneByte_bind, readOneByte_bind, readOneByte_bind]
  rw [hdirection, hvers, hfilter, hframe, hsubf, hslotMsb, hslotLsb, hsym, hslot,
    require_bind params.slot.subframeIndex_lt,
    require_bind hslotLt,
    require_bind hsend.direction_eq,
    require_bind rfl,
    require_bind hsend.filterIndex_ne,
    require_bind hsend.symbolId_lt, pure_apply,
    ← hsend.numerology_eq, ofSubframe_wireSlot]

/-- The PRB range as it is read: one of more than 255 PRBs stands for the whole carrier. -/
def decodedStartPrb (params : UplaneMessageParams) : Nat :=
  if params.nofPrb > 255 then 0 else params.startPrb

def decodedNofPrbs (ruNofPrbs : Nat) (params : UplaneMessageParams) : Nat :=
  if params.nofPrb > 255 then ruNofPrbs else params.nofPrb

lemma decodeSectionHeader_buildSection1Header (hsend : Sendable config params)
    (hnofPrb : 0 < params.nofPrb) (rest : Bytes) :
    decodeSectionHeader config (buildSection1Header params ++ rest) =
      .ok ((params.sectionId, true, true, decodedStartPrb params,
        decodedNofPrbs config.ruNofPrbs params), rest) := by
  obtain ⟨hsectionLsb, heveryRb, hsymbolNumber, hstartMsb⟩ :=
    decode_sectIdRbSymbols params.sectionId params.startPrb
  have hsectionMsb := toNat_ofNat_shiftRight 4 hsend.sectionId_lt
  have hsect : (params.sectionId >>> 4) <<< 4 ||| (params.sectionId &&& 0xf) =
      params.sectionId := shiftRight_shiftLeft_or_and _ 4
  have hstart := decode_startPrb hsend.startPrb_lt
  have hnof := decode_nofPrb params.nofPrb
  simp only [decodeSectionHeader]
  rw [bind_of_eq_ok (requireBytes_of_le (by simp [buildSection1Header,
    sectionIdHeaderNoCompressionSize]))]
  simp only [buildSection1Header, encodeSectIdRbSymbols]
  simp only [cons_append, nil_append]
  rw [bind_of_eq_ok (read_readOneByte_cons _ _), bind_of_eq_ok (read_readOneByte_cons _ _),
    bind_of_eq_ok (read_readOneByte_cons _ _), bind_of_eq_ok (read_readOneByte_cons _ _),
    hsectionLsb, heveryRb, hsymbolNumber, hstartMsb, hsectionMsb, hsect, hstart, hnof]
  simp only [decodedStartPrb, decodedNofPrbs]
  split
  · rfl
  · rw [if_neg (by omega), if_neg (by omega)]
    rfl

def matchingHeader (kind : ComprHeaderKind) (params : RuCompressionParams) :
    ComprHeaderConfig :=
  match kind with
  | .staticHeader => .staticHeader params
  | .dynamicHeader => .dynamicHeader

lemma decodeCompressionHeader_serialize {kind : ComprHeaderKind}
    {comprParams : RuCompressionParams}
    (hhdr : config.comprHeader = matchingHeader kind comprParams)
    (htype : comprParams.type ≠ .reserved) (hpos : 0 < comprParams.dataWidth)
    (hwidth : comprParams.dataWidth ≤ maxIqWidth) (rest : Bytes) :
    decodeCompressionHeader config (serializeCompressionHeader kind comprParams ++ rest) =
      .ok (comprParams, rest) := by
  simp only [decodeCompressionHeader]
  rw [hhdr]
  cases kind with
  | staticHeader => rfl
  | dynamicHeader =>
    obtain ⟨hdataWidth, hcompr⟩ := decode_comprHeaderByte hwidth
    simp only [matchingHeader, serializeCompressionHeader]
    rw [bind_of_eq_ok (requireBytes_of_le (by simp))]
    simp only [cons_append, nil_append]
    rw [bind_of_eq_ok (read_readOneByte_cons _ _), hcompr, if_neg htype, hdataWidth]
    change Except.ok ((⟨comprParams.type, _⟩ : RuCompressionParams), rest) =
      Except.ok (comprParams, rest)
    rw [decode_dataWidth hpos]

lemma prbIqDataSize_eq (comprParams : RuCompressionParams) :
    prbIqDataSize comprParams = getCompressedPrbSize comprParams := by
  simp only [prbIqDataSize, getCompressedPrbSize, roundUpToBytes, nofSubcarriersPerRb]
  split <;> omega

lemma decodeCompressionLength_of_implemented {type : CompressionType}
    (htype : isImplemented type) (remaining : Bytes) :
    decodeCompressionLength type remaining = .ok (none, remaining) := by
  cases type <;> first | rfl | simp [isImplemented] at htype

end

structure Matching (kind : ComprHeaderKind) (config : UplaneDecoderConfig)
    (params : UplaneMessageParams) : Prop extends Sendable config params where
  comprHeader_eq : config.comprHeader = matchingHeader kind params.compressionParams
  implemented : isImplemented params.compressionParams.type
  dataWidth_pos : 0 < params.compressionParams.dataWidth
  dataWidth_le : params.compressionParams.dataWidth ≤ maxIqWidth
  nofPrb_pos : 0 < params.nofPrb

section

variable {kind : ComprHeaderKind} {config : UplaneDecoderConfig} {params : UplaneMessageParams}

def decodedSection (ruNofPrbs : Nat) (params : UplaneMessageParams) (data : Bytes) :
    UplaneSectionParams where
  sectionId := params.sectionId
  isEveryRbUsed := true
  useCurrentSymbolNumber := true
  startPrb := decodedStartPrb params
  nofPrbs := decodedNofPrbs ruNofPrbs params
  udCompHdr := params.compressionParams
  udCompLen := none
  compressedData := data

lemma decodeSection_build (hmatch : Matching kind config params) (data : Bytes) :
    decodeSection config (buildSection1Header params ++
        serializeCompressionHeader kind params.compressionParams ++ data) =
      if data.length < decodedNofPrbs config.ruNofPrbs params *
          getCompressedPrbSize params.compressionParams then .error .incomplete
      else .ok (decodedSection config.ruNofPrbs params (data.take
          (decodedNofPrbs config.ruNofPrbs params * getCompressedPrbSize params.compressionParams)),
        data.drop (decodedNofPrbs config.ruNofPrbs params *
            getCompressedPrbSize params.compressionParams)) := by
  have htype : params.compressionParams.type ≠ .reserved := by
    have himpl := hmatch.implemented
    intro hresd
    rw [hresd] at himpl
    simp [isImplemented] at himpl
  simp only [decodeSection]
  rw [append_assoc, bind_of_eq_ok (decodeSectionHeader_buildSection1Header
    hmatch.toSendable hmatch.nofPrb_pos _)]
  rw [bind_of_eq_ok (decodeCompressionHeader_serialize hmatch.comprHeader_eq htype
      hmatch.dataWidth_pos hmatch.dataWidth_le data),
    bind_of_eq_ok (decodeCompressionLength_of_implemented hmatch.implemented data),
    prbIqDataSize_eq, Nat.mul_comm (getCompressedPrbSize _)]
  split_ifs with hshort
  · rw [bind_of_eq_error (requireBytes_of_lt hshort)]
  · rw [bind_of_eq_ok (requireBytes_of_le (not_lt.mp hshort))]
    rfl

lemma decodeAllSections_of_ok {bytes : Bytes} {decoded : UplaneSectionParams}
    (hbytes : bytes ≠ []) (hsect : decodeSection config bytes = .ok (decoded, [])) :
    decodeAllSections config resultsMaxNofSupportedSections [] bytes = some [decoded] := by
  cases bytes with
  | nil => exact absurd rfl hbytes
  | cons byte rest =>
    change decodeAllSections config (1 + 1) [] (byte :: rest) = _
    rw [decodeAllSections, hsect]
    rfl

lemma decodeAllSections_of_error {bytes : Bytes} {failure : SectionFailure}
    (hsect : decodeSection config bytes = .error failure) :
    decodeAllSections config resultsMaxNofSupportedSections [] bytes = none := by
  cases bytes with
  | nil => rfl
  | cons byte rest =>
    change decodeAllSections config (1 + 1) [] (byte :: rest) = _
    rw [decodeAllSections, hsect]
    cases failure <;> rfl

lemma decode_build (hmatch : Matching kind config params) (data : Bytes) :
    decode config (buildRadioAppHeader params ++ buildSection1Header params ++
        serializeCompressionHeader kind params.compressionParams ++ data) =
      (decodeAllSections config resultsMaxNofSupportedSections [] (buildSection1Header params ++
          serializeCompressionHeader kind params.compressionParams ++ data)).map
        (UplaneMessageDecoderResults.mk
          ⟨params.direction, wireSlot params.slot, params.filterIndex, params.symbolId⟩) := by
  simp only [decode]
  rw [append_assoc, append_assoc, decodeHeader_buildRadioAppHeader hmatch.toSendable,
    Option.map_eq_bind]
  rfl

section

variable (hmatch : Matching kind config params) {data : Bytes}
  (hlength : data.length = params.nofPrb * getCompressedPrbSize params.compressionParams)

include hmatch hlength

lemma decode_build_eq_some (hrange : decodedNofPrbs config.ruNofPrbs params = params.nofPrb) :
    decode config (buildRadioAppHeader params ++ buildSection1Header params ++
        serializeCompressionHeader kind params.compressionParams ++ data) =
      some ⟨⟨params.direction, wireSlot params.slot, params.filterIndex, params.symbolId⟩,
        [decodedSection config.ruNofPrbs params data]⟩ := by
  have hsect := decodeSection_build hmatch data
  rw [hrange, ← hlength, if_neg (lt_irrefl _), take_length, drop_length] at hsect
  rw [decode_build hmatch, decodeAllSections_of_ok (by simp [buildSection1Header]) hsect]
  rfl

lemma decode_build_eq_none (hmany : 255 < params.nofPrb)
    (hpart : params.nofPrb < config.ruNofPrbs) :
    decode config (buildRadioAppHeader params ++ buildSection1Header params ++
        serializeCompressionHeader kind params.compressionParams ++ data) = none := by
  have hsize : 0 < getCompressedPrbSize params.compressionParams := by
    have hwidth := hmatch.dataWidth_pos
    simp only [getCompressedPrbSize, roundUpToBytes, nofSubcarriersPerRb]
    omega
  have hsect := decodeSection_build hmatch data
  have hshort : data.length < decodedNofPrbs config.ruNofPrbs params *
      getCompressedPrbSize params.compressionParams := by
    rw [hlength, decodedNofPrbs, if_pos hmany]
    exact Nat.mul_lt_mul_of_pos_right hpart hsize
  rw [if_pos hshort] at hsect
  rw [decode_build hmatch, decodeAllSections_of_error hsect]
  rfl

end

end

end ProtoRu.Uplane
