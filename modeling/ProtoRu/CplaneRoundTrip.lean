import Mathlib.Data.Nat.Bitwise
import ProtoRu.CplaneMessageBuilding
import ProtoRu.UplaneRoundTrip

namespace ProtoRu.Cplane

open Nat UInt8 List Uplane

structure RadioHdrInRange (scs : SubcarrierSpacing) (radioHdr : CplaneRadioApplicationHeader) :
    Prop where
  numerology_eq : radioHdr.slot.numerology = toNumerologyValue scs
  startSymbol_lt : radioHdr.startSymbol < 2 ^ 6

structure CommonFieldsInRange (sectionFields : CplaneCommonSectionFields) : Prop where
  sectionId_lt : sectionFields.sectionId < 2 ^ 12
  prbStart_lt : sectionFields.prbStart < 2 ^ 10
  reMask_lt : sectionFields.reMask < 2 ^ 12
  nofSymbols_lt : sectionFields.nofSymbols < 2 ^ 4

/-- A sample width that the header can carry. -/
structure ComprParamsInRange (comprParams : RuCompressionParams) : Prop where
  dataWidth_pos : 0 < comprParams.dataWidth
  dataWidth_le : comprParams.dataWidth ≤ maxIqWidth

structure Type0InRange (scs : SubcarrierSpacing) (params : CplaneSectionType0Parameters) :
    Prop where
  radioHdr : RadioHdrInRange scs params.radioHdr
  sectionFields : CommonFieldsInRange params.sectionFields
  timeOffset_lt : params.timeOffset < 2 ^ 16

structure Type1InRange (scs : SubcarrierSpacing) (params : CplaneSectionType1Parameters) :
    Prop where
  radioHdr : RadioHdrInRange scs params.radioHdr
  sectionFields : CommonFieldsInRange params.sectionFields
  comprParams : ComprParamsInRange params.comprParams

structure Type3InRange (scs : SubcarrierSpacing) (params : CplaneSectionType3Parameters) :
    Prop where
  radioHdr : RadioHdrInRange scs params.radioHdr
  sectionFields : CommonFieldsInRange params.sectionFields
  comprParams : ComprParamsInRange params.comprParams
  frequencyOffset_ge : -2 ^ 23 ≤ params.frequencyOffset
  frequencyOffset_lt : params.frequencyOffset < 2 ^ 23
  scs_lt : params.scs.toValue < 2 ^ 4
  cpLength_lt : params.cpLength < 2 ^ 16
  timeOffset_lt : params.timeOffset < 2 ^ 16

def receivedHdr (radioHdr : CplaneRadioApplicationHeader) : CplaneRadioApplicationHeader :=
  { radioHdr with slot := wireSlot radioHdr.slot }

def receivedFields (sectionFields : CplaneCommonSectionFields) : CplaneCommonSectionFields :=
  { sectionFields with
    nofPrb := if sectionFields.nofPrb > 255 then 0 else sectionFields.nofPrb }

lemma receivedFields_of_le {sectionFields : CplaneCommonSectionFields}
    (hle : sectionFields.nofPrb ≤ 255) : receivedFields sectionFields = sectionFields := by
  simp only [receivedFields]
  rw [if_neg (not_lt.mpr hle)]

def carriedComprParams (kind : ComprHeaderKind) (comprParams : RuCompressionParams)
    (direction : DataDirection) : RuCompressionParams :=
  if kind = .dynamicHeader ∧ direction = .uplink then comprParams else ⟨.none, maxIqWidth⟩

section

lemma decode_writeTwoBytes {value : Nat} (hvalue : value < 2 ^ 16) :
    (ofNat (value >>> 8)).toNat <<< 8 ||| (ofNat value).toNat = value := by
  rw [toNat_ofNat_shiftRight 8 hvalue, toNat_ofNat', ← and_two_pow_sub_one_eq_mod]
  exact shiftRight_shiftLeft_or_and value 8

lemma encodeDataDirection_eq (radioHdr : CplaneRadioApplicationHeader) :
    encodeDataDirection radioHdr =
      ProtoRu.encodeDataDirection radioHdr.direction radioHdr.filterIndex := by
  simp only [encodeDataDirection, ProtoRu.encodeDataDirection]
  cases radioHdr.filterIndex <;> rfl

lemma encodeSubframeAndSlot_eq {slot : SlotPoint} (hnum : slot.numerology < nofNumerologies) :
    encodeSubframeAndSlot slot = ProtoRu.encodeSubframeAndSlot slot := by
  have hslot := subframeSlotIndex_lt_sixteen hnum
  have hsubf : slot.subframeIndex < 10 := slot.subframeIndex_lt
  have hhigh : slot.subframeIndex &&& 0xf = slot.subframeIndex :=
    and_two_pow_sub_one_of_lt_two_pow (n := 4) (by omega)
  have hlow : slot.subframeSlotIndex >>> 2 &&& 0xf = slot.subframeSlotIndex >>> 2 := by
    apply and_two_pow_sub_one_of_lt_two_pow (n := 4)
    omega
  simp only [encodeSubframeAndSlot, ProtoRu.encodeSubframeAndSlot]
  rw [hhigh, hlow]

lemma decode_slotAndStartSymbol (slot : SlotPoint) {startSymbol : Nat}
    (hsym : startSymbol < 2 ^ 6) :
    let value := (encodeSlotAndStartSymbol slot startSymbol).toNat
    value >>> 6 &&& 0x3 = slot.subframeSlotIndex &&& 0x3 ∧ value &&& 0x3f = startSymbol := by
  have hmask : startSymbol &&& 0x3f = startSymbol :=
    and_two_pow_sub_one_of_lt_two_pow hsym
  have hhigh : slot.subframeSlotIndex &&& 0x3 < 2 ^ 2 := and_lt_two_pow _ (by decide)
  obtain ⟨hslot, hlow⟩ := decode_fields 2 rfl hhigh hsym
  simp only [encodeSlotAndStartSymbol]
  rw [hmask, hslot]
  exact ⟨and_two_pow_sub_one_of_lt_two_pow hhigh, hlow⟩

lemma decode_reMaskAndNofSymbols (sectionFields : CplaneCommonSectionFields)
    (hsyms : sectionFields.nofSymbols < 2 ^ 4) :
    let value := (encodeReMaskAndNofSymbols sectionFields).toNat
    value >>> 4 = sectionFields.reMask &&& 0xf ∧ value &&& 0x0f = sectionFields.nofSymbols := by
  have hmask : sectionFields.nofSymbols &&& 0xf = sectionFields.nofSymbols :=
    and_two_pow_sub_one_of_lt_two_pow hsyms
  simp only [encodeReMaskAndNofSymbols]
  rw [hmask]
  exact decode_fields 4 rfl (and_lt_two_pow _ (by decide)) hsyms

lemma decode_frameStructure {scs : CplaneScs} (hscs : scs.toValue < 2 ^ 4)
    (fftSize : CplaneFftSize) :
    let value := (encodeFrameStructure scs fftSize).toNat
    value &&& 0x0f = scs.toValue ∧ value >>> 4 = fftSize.toValue := by
  have hfft : fftSize.toValue < 2 ^ 4 := by cases fftSize <;> decide
  simp only [encodeFrameStructure]
  rw [Nat.or_comm]
  exact (decode_fields 4 rfl hfft hscs).symm

lemma comprParamsAt_zero (rest : Bytes) :
    comprParamsAt (0 :: rest) = ⟨.none, maxIqWidth⟩ := by
  have hzero : byteAt (0 :: rest) 0 = 0 := rfl
  simp only [comprParamsAt]
  rw [hzero]
  rfl

lemma comprParamsAt_serialize (kind : ComprHeaderKind) (direction : DataDirection)
    {comprParams : RuCompressionParams} (hrange : ComprParamsInRange comprParams)
    (rest : Bytes) :
    comprParamsAt (serializeCompressionHeader kind comprParams direction :: rest) =
      carriedComprParams kind comprParams direction := by
  obtain _ | _ := kind
  · exact comprParamsAt_zero rest
  obtain _ | _ := direction
  · obtain ⟨hwidth, htype⟩ := decode_comprHeaderByte hrange.dataWidth_le
    have hbyte : byteAt (serializeCompressionHeader .dynamicHeader comprParams .uplink :: rest)
        0 = (ofNat ((if comprParams.dataWidth = 16 then 0 else comprParams.dataWidth)
          <<< 4 ||| comprParams.type.toValue)).toNat := rfl
    simp only [comprParamsAt]
    rw [hbyte, hwidth, htype, decode_dataWidth hrange.dataWidth_pos]
    rfl
  · exact comprParamsAt_zero rest

lemma signExtend24_eq {value : Nat} (hvalue : value < 2 ^ 24) :
    signExtend24 value = if value < 2 ^ 23 then (value : Int) else (value : Int) - 2 ^ 24 := by
  have hbit : value &&& 0x800000 = (value.testBit 23).toNat * 2 ^ 23 := Nat.and_two_pow value 23
  have hsign : value &&& 0x800000 ≠ 0 ↔ ¬ value < 2 ^ 23 := by
    rw [hbit, Nat.testBit_eq_decide_div_mod_eq, Nat.mul_ne_zero_iff]
    simp only [ne_eq, Bool.toNat_eq_zero, decide_eq_false_iff_not]
    omega
  simp only [signExtend24]
  rw [if_congr hsign rfl rfl, ite_not]
  rfl

lemma signExtend24_serialize {frequencyOffset : Int} (hge : -2 ^ 23 ≤ frequencyOffset)
    (hlt : frequencyOffset < 2 ^ 23) (rest : Bytes) :
    let bytes := serializeFrequencyOffset frequencyOffset ++ rest
    signExtend24 (byteAt bytes 0 <<< 16 ||| (byteAt bytes 1 <<< 8 ||| byteAt bytes 2)) =
      frequencyOffset := by
  have hhigh : ((frequencyOffset >>> (16 : Nat)) % 256).toNat < 256 := by omega
  have hlow : (frequencyOffset % 65536).toNat < 2 ^ 16 := by omega
  have hmsb : byteAt (serializeFrequencyOffset frequencyOffset ++ rest) 0 =
      ((frequencyOffset >>> (16 : Nat)) % 256).toNat := toNat_ofNat_of_lt' hhigh
  have hlsb : byteAt (serializeFrequencyOffset frequencyOffset ++ rest) 1 <<< 8 |||
      byteAt (serializeFrequencyOffset frequencyOffset ++ rest) 2 =
        (frequencyOffset % 65536).toNat := decode_writeTwoBytes hlow
  dsimp only
  rw [hmsb, hlsb, shiftLeft_or_eq hlow, Int.shiftRight_eq_div_pow, signExtend24_eq (by omega)]
  split_ifs <;> omega

end

variable {scs : SubcarrierSpacing}

lemma headerResultsAt_serializeRadioHdr {radioHdr : CplaneRadioApplicationHeader}
    (hrange : RadioHdrInRange scs radioHdr) (sectionType : UInt8) (rest : Bytes) :
    headerResultsAt scs (serializeRadioHdr radioHdr sectionType ++ rest) =
      { numSections := 1, sectionType := sectionType.toNat, radioHdr := receivedHdr radioHdr } := by
  have hnum : radioHdr.slot.numerology < nofNumerologies := by
    rw [hrange.numerology_eq]
    exact toNumerologyValue_lt scs
  obtain ⟨hdirection, -, hfilter⟩ := decode_dataDirection radioHdr.direction radioHdr.filterIndex
  obtain ⟨hsubf, hslotMsb⟩ := decode_subframeAndSlot hnum
  obtain ⟨hslotLsb, hsym⟩ :=
    decode_slotAndStartSymbol radioHdr.slot hrange.startSymbol_lt
  have hslot : (radioHdr.slot.subframeSlotIndex >>> 2) <<< 2 |||
      (radioHdr.slot.subframeSlotIndex &&& 0x3) = radioHdr.slot.subframeSlotIndex :=
    shiftRight_shiftLeft_or_and _ 2
  simp only [headerResultsAt, radioAppHeaderFieldsAt, RadioAppHeaderFields.slot, receivedHdr,
    serializeRadioHdr, cons_append, byteAt_cons_zero, byteAt_cons_succ,
    encodeDataDirection_eq, encodeSubframeAndSlot_eq hnum, toNat_ofNat']
  rw [hdirection, hfilter, hsubf, hslotMsb, hslotLsb, hsym, hslot, ← hrange.numerology_eq,
    ofSubframe_wireSlot]
  rfl

lemma commonSectionFieldsAt_serialize {sectionFields : CplaneCommonSectionFields}
    (hrange : CommonFieldsInRange sectionFields) (rest : Bytes) :
    commonSectionFieldsAt (serializeCommonFields sectionFields ++ rest) =
      receivedFields sectionFields := by
  obtain ⟨(hsectionLsb : (encodeSectIdRbSymbols sectionFields).toNat >>> 4 = _), -, -,
    (hstartMsb : (encodeSectIdRbSymbols sectionFields).toNat &&& 0x3 = _)⟩ :=
    decode_sectIdRbSymbols sectionFields.sectionId sectionFields.prbStart
  obtain ⟨hmaskLsb, hsyms⟩ :=
    decode_reMaskAndNofSymbols sectionFields hrange.nofSymbols_lt
  have hsect : (sectionFields.sectionId >>> 4) <<< 4 ||| (sectionFields.sectionId &&& 0xf) =
      sectionFields.sectionId := shiftRight_shiftLeft_or_and _ 4
  have hmask : (sectionFields.reMask >>> 4) <<< 4 ||| (sectionFields.reMask &&& 0xf) =
      sectionFields.reMask := shiftRight_shiftLeft_or_and _ 4
  simp only [commonSectionFieldsAt, receivedFields, serializeCommonFields, cons_append,
    byteAt_cons_zero, byteAt_cons_succ]
  rw [toNat_ofNat_shiftRight 4 hrange.sectionId_lt, toNat_ofNat_shiftRight 4 hrange.reMask_lt,
    decode_nofPrb, hsectionLsb, hstartMsb, hmaskLsb, hsyms, hsect, hmask,
    decode_startPrb hrange.prbStart_lt]

section

variable {sectionType : UInt8} {body : Bytes} {nofBytes : Nat}

lemma accepted_of_serializeRadioHdr (radioHdr : CplaneRadioApplicationHeader)
    (htype : nofBytesSection sectionType.toNat = some nofBytes) (hbody : nofBytes ≤ body.length) :
    Accepted (serializeRadioHdr radioHdr sectionType ++ body) where
  header_le := by
    simp only [length_append]
    exact le_add_right _ _
  version_eq := by
    obtain ⟨-, hvers, -⟩ := decode_dataDirection radioHdr.direction radioHdr.filterIndex
    rw [← encodeDataDirection_eq] at hvers
    exact hvers
  numSections_eq := rfl
  section_le := by
    refine ⟨nofBytes, htype, ?_⟩
    rw [length_append]
    exact Nat.add_le_add_left hbody _

lemma decode_serializeRadioHdr {radioHdr : CplaneRadioApplicationHeader}
    (hrange : RadioHdrInRange scs radioHdr)
    (htype : nofBytesSection sectionType.toNat = some nofBytes) (hbody : nofBytes ≤ body.length) :
    decode scs (serializeRadioHdr radioHdr sectionType ++ body) = some (sectionResultsAt body
        { numSections := 1, sectionType := sectionType.toNat,
          radioHdr := receivedHdr radioHdr }) := by
  rw [decode_eq_some_iff, headerResultsAt_serializeRadioHdr hrange]
  exact ⟨accepted_of_serializeRadioHdr radioHdr htype hbody, rfl⟩

end

section

variable {scs : SubcarrierSpacing} (kind : ComprHeaderKind)

lemma decode_buildDlUlRadioChannelMessage {params : CplaneSectionType1Parameters}
    (hrange : Type1InRange scs params) :
    decode scs (buildDlUlRadioChannelMessage kind params) = some {
        numSections := 1
        sectionType := 1
        radioHdr := receivedHdr params.radioHdr
        sectionFields := receivedFields params.sectionFields
        comprParams := carriedComprParams kind params.comprParams params.radioHdr.direction } := by
  have hfields := commonSectionFieldsAt_serialize hrange.sectionFields [0, 0]
  have hcompr := comprParamsAt_serialize kind params.radioHdr.direction hrange.comprParams
  simp only [buildDlUlRadioChannelMessage, append_assoc]
  rw [decode_serializeRadioHdr hrange.radioHdr rfl (by simp [serializeCommonFields])]
  rw [← hfields, ← hcompr]
  rfl

/-- The body of a message of section type 0 or 3 up to the common section fields. -/
def frameBody (timeOffset : Nat) (scs : CplaneScs) (fftSize : CplaneFftSize) (cpLength : Nat)
    (tail : Bytes) : Bytes :=
  writeTwoBytes timeOffset ++ (encodeFrameStructure scs fftSize :: (writeTwoBytes cpLength ++ tail))

lemma frameResultsAt_frameBody {timeOffset cpLength : Nat} {frameScs : CplaneScs}
    {sectionFields : CplaneCommonSectionFields} (htime : timeOffset < 2 ^ 16)
    (hscs : frameScs.toValue < 2 ^ 4) (hcp : cpLength < 2 ^ 16)
    (hfields : CommonFieldsInRange sectionFields) (fftSize : CplaneFftSize) (byte : UInt8)
    (rest : Bytes) (results : CplaneMessageDecoderResults) :
    frameResultsAt (frameBody timeOffset frameScs fftSize cpLength
        (byte :: (serializeCommonFields sectionFields ++ rest))) results =
      { results with
        timeOffset := timeOffset
        frameStructureScs := toCplaneScs frameScs.toValue
        fftSize := fftSize.toValue
        cpLength := cpLength
        sectionFields := receivedFields sectionFields } := by
  obtain ⟨hframeScs, hfftSize⟩ := decode_frameStructure hscs fftSize
  simp only [frameResultsAt, frameBody, writeTwoBytes, cons_append, nil_append,
    byteAt_cons_zero, byteAt_cons_succ, drop_succ_cons, drop_zero]
  rw [decode_writeTwoBytes htime, hframeScs, hfftSize, decode_writeTwoBytes hcp,
    commonSectionFieldsAt_serialize hfields]

lemma decode_buildIdleGuardPeriodMessage {params : CplaneSectionType0Parameters}
    (hrange : Type0InRange scs params) : decode scs (buildIdleGuardPeriodMessage params) = some {
        numSections := 1
        sectionType := 0
        radioHdr := receivedHdr params.radioHdr
        sectionFields := receivedFields params.sectionFields
        timeOffset := params.timeOffset
        frameStructureScs := toCplaneScsValue params.scs
        fftSize := CplaneFftSize.noop.toValue
        cpLength := 0 } := by
  have hscs : (toCplaneScsValue params.scs).toValue < 2 ^ 4 := by cases params.scs <;> decide
  have hscs' : toCplaneScs (toCplaneScsValue params.scs).toValue =
      toCplaneScsValue params.scs := by cases params.scs <;> rfl
  have hbuild : buildIdleGuardPeriodMessage params = serializeRadioHdr params.radioHdr 0 ++
      frameBody params.timeOffset (toCplaneScsValue params.scs) .noop 0
        (0 :: (serializeCommonFields params.sectionFields ++ [0, 0])) := by
    simp [buildIdleGuardPeriodMessage, frameBody, encodeCpLength]
  rw [hbuild, decode_serializeRadioHdr hrange.radioHdr rfl
    (by simp [frameBody, serializeCommonFields, writeTwoBytes])]
  simp only [sectionResultsAt]
  rw [frameResultsAt_frameBody hrange.timeOffset_lt hscs (Nat.two_pow_pos 16) hrange.sectionFields,
    hscs']
  rfl

lemma decode_buildPrachMixedNumerologyMessage {params : CplaneSectionType3Parameters}
    (hrange : Type3InRange scs params) :
    decode scs (buildPrachMixedNumerologyMessage kind params) = some {
        numSections := 1
        sectionType := 3
        radioHdr := receivedHdr params.radioHdr
        sectionFields := receivedFields params.sectionFields
        comprParams := carriedComprParams kind params.comprParams params.radioHdr.direction
        timeOffset := params.timeOffset
        frameStructureScs := toCplaneScs params.scs.toValue
        fftSize := params.fftSize.toValue
        cpLength := params.cpLength
        frequencyOffset := params.frequencyOffset } := by
  have hoff := signExtend24_serialize hrange.frequencyOffset_ge hrange.frequencyOffset_lt [0]
  have hcompr := comprParamsAt_serialize kind params.radioHdr.direction hrange.comprParams
  have hbuild : buildPrachMixedNumerologyMessage kind params =
      serializeRadioHdr params.radioHdr 3 ++
      frameBody params.timeOffset params.scs params.fftSize params.cpLength
        (serializeCompressionHeader kind params.comprParams params.radioHdr.direction ::
          (serializeCommonFields params.sectionFields ++
            (0 :: 0 :: (serializeFrequencyOffset params.frequencyOffset ++ [0])))) := by
    simp [buildPrachMixedNumerologyMessage, frameBody]
  rw [hbuild, decode_serializeRadioHdr hrange.radioHdr rfl
    (by simp [frameBody, serializeCommonFields, writeTwoBytes, serializeFrequencyOffset])]
  rw [sectionResultsAt, if_neg (by simp), if_neg (by simp), frameResultsAt_frameBody
    hrange.timeOffset_lt hrange.scs_lt hrange.cpLength_lt hrange.sectionFields]
  dsimp only
  congr 2
  exact hcompr _

end

inductive CplaneMessageParameters where
  | idleGuardPeriod (params : CplaneSectionType0Parameters)
  | dlUlRadioChannel (params : CplaneSectionType1Parameters)
  | prachMixedNumerology (params : CplaneSectionType3Parameters)

namespace CplaneMessageParameters

def radioHdr : CplaneMessageParameters → CplaneRadioApplicationHeader
  | .idleGuardPeriod params => params.radioHdr
  | .dlUlRadioChannel params => params.radioHdr
  | .prachMixedNumerology params => params.radioHdr

def sectionFields : CplaneMessageParameters → CplaneCommonSectionFields
  | .idleGuardPeriod params => params.sectionFields
  | .dlUlRadioChannel params => params.sectionFields
  | .prachMixedNumerology params => params.sectionFields

def InRange (scs : SubcarrierSpacing) : CplaneMessageParameters → Prop
  | .idleGuardPeriod params => Type0InRange scs params
  | .dlUlRadioChannel params => Type1InRange scs params
  | .prachMixedNumerology params => Type3InRange scs params

def build (kind : ComprHeaderKind) : CplaneMessageParameters → Bytes
  | .idleGuardPeriod params => buildIdleGuardPeriodMessage params
  | .dlUlRadioChannel params => buildDlUlRadioChannelMessage kind params
  | .prachMixedNumerology params => buildPrachMixedNumerologyMessage kind params

/-- The fields of some section types only. Section type 0 never says anything about the FFT. -/
def TypeFieldsRecovered (kind : ComprHeaderKind) (results : CplaneMessageDecoderResults) :
    CplaneMessageParameters → Prop
  | .idleGuardPeriod params =>
    results.sectionType = 0 ∧ results.timeOffset = params.timeOffset ∧
      results.fftSize = CplaneFftSize.noop.toValue ∧ results.cpLength = 0
  | .dlUlRadioChannel params =>
    results.sectionType = 1 ∧ results.comprParams =
        carriedComprParams kind params.comprParams params.radioHdr.direction
  | .prachMixedNumerology params =>
    results.sectionType = 3 ∧ results.timeOffset = params.timeOffset ∧
      results.frequencyOffset = params.frequencyOffset ∧
      results.fftSize = params.fftSize.toValue ∧ results.cpLength = params.cpLength ∧
      results.comprParams = carriedComprParams kind params.comprParams params.radioHdr.direction

/-- The decoded fields are those of the parameters, with the frame number of the wire. -/
structure Recovered (kind : ComprHeaderKind) (params : CplaneMessageParameters)
    (results : CplaneMessageDecoderResults) : Prop where
  direction_eq : results.radioHdr.direction = params.radioHdr.direction
  filterIndex_eq : results.radioHdr.filterIndex = params.radioHdr.filterIndex
  startSymbol_eq : results.radioHdr.startSymbol = params.radioHdr.startSymbol
  slot_eq : results.radioHdr.slot = SlotPoint.ofSubframe params.radioHdr.slot.numerology
    (params.radioHdr.slot.sfn % 256) params.radioHdr.slot.subframeIndex
    params.radioHdr.slot.subframeSlotIndex
  nofSymbols_eq : results.sectionFields.nofSymbols = params.sectionFields.nofSymbols
  sectionId_eq : results.sectionFields.sectionId = params.sectionFields.sectionId
  prbStart_eq : results.sectionFields.prbStart = params.sectionFields.prbStart
  reMask_eq : results.sectionFields.reMask = params.sectionFields.reMask
  nofPrb_eq : params.sectionFields.nofPrb ≤ 255 →
    results.sectionFields.nofPrb = params.sectionFields.nofPrb
  nofPrb_zero_iff : 0 < params.sectionFields.nofPrb →
    (results.sectionFields.nofPrb = 0 ↔ 255 < params.sectionFields.nofPrb)
  typeFields : TypeFieldsRecovered kind results params

lemma recovered_of_received {kind : ComprHeaderKind} {params : CplaneMessageParameters}
    {results : CplaneMessageDecoderResults}
    (hradioHdr : results.radioHdr = receivedHdr params.radioHdr)
    (hsect : results.sectionFields = receivedFields params.sectionFields)
    (htype : TypeFieldsRecovered kind results params) : Recovered kind params results where
  direction_eq := by rw [hradioHdr]; rfl
  filterIndex_eq := by rw [hradioHdr]; rfl
  startSymbol_eq := by rw [hradioHdr]; rfl
  slot_eq := by
    rw [hradioHdr, ofSubframe_wireSlot]
    rfl
  nofSymbols_eq := by rw [hsect]; rfl
  sectionId_eq := by rw [hsect]; rfl
  prbStart_eq := by rw [hsect]; rfl
  reMask_eq := by rw [hsect]; rfl
  nofPrb_eq := by
    intro hle
    rw [hsect, receivedFields_of_le hle]
  nofPrb_zero_iff := by
    intro hpos
    rw [hsect]
    simp only [receivedFields]
    split <;> omega
  typeFields := htype

/-- Every message that the O-DU builds from parameters in range is decoded to these parameters. -/
theorem decode_build_recovers (scs : SubcarrierSpacing) (kind : ComprHeaderKind)
    (params : CplaneMessageParameters) (hrange : params.InRange scs) :
    ∃ results, decode scs (params.build kind) = some results ∧ Recovered kind params results := by
  obtain params | params | params := params
  · exact ⟨_, decode_buildIdleGuardPeriodMessage hrange,
      recovered_of_received rfl rfl ⟨rfl, rfl, rfl, rfl⟩⟩
  · exact ⟨_, decode_buildDlUlRadioChannelMessage kind hrange,
      recovered_of_received rfl rfl ⟨rfl, rfl⟩⟩
  · exact ⟨_, decode_buildPrachMixedNumerologyMessage kind hrange,
      recovered_of_received rfl rfl ⟨rfl, rfl, rfl, rfl, rfl, rfl⟩⟩

def prachRequest : CplaneSectionType3Parameters where
  radioHdr := ⟨.uplink, .ulPrachPreambleShort30kHz, 0, ⟨1, 10239⟩⟩
  sectionFields := ⟨1, 0, 12, 0xfff, 12⟩
  frequencyOffset := -3276
  comprParams := ⟨.bfp, 9⟩
  scs := .kHz30
  fftSize := .fft4096
  cpLength := 0
  timeOffset := 484

theorem prachRequest_recovered : ∃ results,
      decode .kHz30 ((prachMixedNumerology prachRequest).build .dynamicHeader) = some results ∧
        Recovered .dynamicHeader (.prachMixedNumerology prachRequest) results :=
  decode_build_recovers .kHz30 .dynamicHeader (.prachMixedNumerology prachRequest)
    { radioHdr := ⟨rfl, by decide⟩
      sectionFields := ⟨by decide, by decide, by decide, by decide⟩
      comprParams := ⟨by decide, by decide⟩
      frequencyOffset_ge := by decide
      frequencyOffset_lt := by decide
      scs_lt := by decide
      cpLength_lt := by decide
      timeOffset_lt := by decide }

def guardPeriod : CplaneSectionType0Parameters where
  radioHdr := ⟨.downlink, .standardChannelFilter, 10, ⟨1, 805⟩⟩
  sectionFields := ⟨5, 6, 7, 0xfff, 4⟩
  scs := .kHz30
  cp := .normal
  fftSize := .fft4096
  timeOffset := 2208

/-- The FFT size of an idle or guard period is not sent. -/
theorem guardPeriod_fftSize_lost : (idleGuardPeriod guardPeriod).InRange .kHz30 ∧ ∃ results,
        decode .kHz30 ((idleGuardPeriod guardPeriod).build .staticHeader) = some results ∧
          results.fftSize ≠ guardPeriod.fftSize.toValue := by
  have hrange : Type0InRange .kHz30 guardPeriod :=
    ⟨⟨rfl, by decide⟩, ⟨by decide, by decide, by decide, by decide⟩, by decide⟩
  exact ⟨hrange, _, decode_buildIdleGuardPeriodMessage hrange, by decide⟩

end CplaneMessageParameters

end ProtoRu.Cplane
