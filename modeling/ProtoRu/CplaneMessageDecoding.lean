import ProtoRu.MessageFields
import ProtoRu.NetworkOrderBytes
import ProtoRu.SlotNumbering

namespace ProtoRu.Cplane

open List

structure CplaneCommonSectionFields where
  sectionId : Nat
  prbStart : Nat
  nofPrb : Nat
  reMask : Nat
  nofSymbols : Nat
  deriving DecidableEq

structure CplaneRadioApplicationHeader where
  direction : DataDirection
  filterIndex : FilterIndexType
  startSymbol : Nat
  slot : SlotPoint
  deriving DecidableEq

/-- The subcarrier spacing nibble, cast without a check: values without an enumerator are
possible. -/
inductive CplaneScs where
  | kHz15
  | kHz30
  | kHz60
  | kHz120
  | kHz1p25
  | kHz5
  | other (value : Nat)
  deriving DecidableEq

def toCplaneScs : Nat → CplaneScs
  | 0x00 => .kHz15
  | 0x01 => .kHz30
  | 0x02 => .kHz60
  | 0x03 => .kHz120
  | 0x0c => .kHz1p25
  | 0x0e => .kHz5
  | value => .other value

def CplaneScs.toValue : CplaneScs → Nat
  | .kHz15 => 0x00
  | .kHz30 => 0x01
  | .kHz60 => 0x02
  | .kHz120 => 0x03
  | .kHz1p25 => 0x0c
  | .kHz5 => 0x0e
  | .other value => value

/-- What a decoded message says. Fields that its section type does not carry are zero. -/
structure CplaneMessageDecoderResults where
  numSections : Nat
  sectionType : Nat
  radioHdr : CplaneRadioApplicationHeader
  sectionFields : CplaneCommonSectionFields := ⟨0, 0, 0, 0, 0⟩
  comprParams : RuCompressionParams := ⟨.none, 0⟩
  timeOffset : Nat := 0
  frameStructureScs : CplaneScs := .kHz15
  fftSize : Nat := 0
  cpLength : Nat := 0
  frequencyOffset : Int := 0
  deriving DecidableEq

def nofBytesCpRadioHdr : Nat := 6

def nofBytesCommonSection : Nat := 6

def decodeCommonSectionFields : Deserializer CplaneCommonSectionFields := do
  let sectionIdMsb ← readOneByte
  let sectIdRbSymbols ← readOneByte
  let prbStartLsb ← readOneByte
  let nofPrb ← readOneByte
  let reMaskMsb ← readOneByte
  let reMaskAndSymbols ← readOneByte
  return {
    sectionId := sectionIdMsb <<< 4 ||| sectIdRbSymbols >>> 4
    prbStart := (sectIdRbSymbols &&& 0x3) <<< 8 ||| prbStartLsb
    nofPrb := nofPrb
    reMask := reMaskMsb <<< 4 ||| reMaskAndSymbols >>> 4
    nofSymbols := reMaskAndSymbols &&& 0x0f }

def decodeCompressionHeader : Deserializer RuCompressionParams := do
  let value ← readOneByte
  let dataWidth := value >>> 4
  return {
    type := toCompressionType (value &&& 0x0f)
    dataWidth := if dataWidth = 0 then maxIqWidth else dataWidth }

structure RadioAppHeaderFields where
  direction : DataDirection
  version : Nat
  filterIndex : FilterIndexType
  frame : Nat
  subframe : Nat
  slotId : Nat
  startSymbol : Nat
  numSections : Nat
  sectionType : Nat

def readRadioAppHeader : Deserializer RadioAppHeaderFields := do
  requireRemaining nofBytesCpRadioHdr
  let directionByte ← readOneByte
  let frame ← readOneByte
  let subframeAndSlot ← readOneByte
  let slotAndSymbol ← readOneByte
  let numSections ← readOneByte
  let sectionType ← readOneByte
  return {
    direction := toDataDirection (directionByte >>> 7)
    version := directionByte >>> 4 &&& 0x7
    filterIndex := toFilterIndexType (directionByte &&& 0xf)
    frame := frame
    subframe := subframeAndSlot >>> 4
    slotId := (subframeAndSlot &&& 0x0f) <<< 2 ||| slotAndSymbol >>> 6 &&& 0x3
    startSymbol := slotAndSymbol &&& 0x3f
    numSections := numSections
    sectionType := sectionType }

def RadioAppHeaderFields.slot (scs : SubcarrierSpacing) (fields : RadioAppHeaderFields) :
    SlotPoint :=
  SlotPoint.ofSubframe (toNumerologyValue scs) fields.frame fields.subframe fields.slotId

def decodeRadioAppHeader (scs : SubcarrierSpacing) : Deserializer CplaneMessageDecoderResults := do
  let fields ← readRadioAppHeader
  require (fields.version = ofhPayloadVersion)
  require (fields.numSections = 1)
  return {
    numSections := fields.numSections
    sectionType := fields.sectionType
    radioHdr := {
      direction := fields.direction
      filterIndex := fields.filterIndex
      startSymbol := fields.startSymbol
      slot := fields.slot scs } }

def decodeSectionType1 (results : CplaneMessageDecoderResults) :
    Deserializer CplaneMessageDecoderResults := do
  requireRemaining (1 + 1 + nofBytesCommonSection + 2)
  let comprParams ← decodeCompressionHeader
  Deserializer.advance 1
  let sectionFields ← decodeCommonSectionFields
  Deserializer.advance 2
  return { results with comprParams := comprParams, sectionFields := sectionFields }

def decodeSectionType0 (results : CplaneMessageDecoderResults) :
    Deserializer CplaneMessageDecoderResults := do
  requireRemaining (2 + 1 + 2 + 1 + nofBytesCommonSection + 2)
  let timeOffset ← readTwoBytes
  let frameStructure ← readOneByte
  let cpLength ← readTwoBytes
  Deserializer.advance 1
  let sectionFields ← decodeCommonSectionFields
  Deserializer.advance 2
  return { results with
    timeOffset := timeOffset
    frameStructureScs := toCplaneScs (frameStructure &&& 0x0f)
    fftSize := frameStructure >>> 4
    cpLength := cpLength
    sectionFields := sectionFields }

def signExtend24 (value : Nat) : Int :=
  if value &&& 0x800000 ≠ 0 then (value : Int) - 0x1000000 else value

def decodeSectionType3 (results : CplaneMessageDecoderResults) :
    Deserializer CplaneMessageDecoderResults := do
  requireRemaining (2 + 1 + 2 + 1 + nofBytesCommonSection + 2 + 3 + 1)
  let timeOffset ← readTwoBytes
  let frameStructure ← readOneByte
  let cpLength ← readTwoBytes
  let comprParams ← decodeCompressionHeader
  let sectionFields ← decodeCommonSectionFields
  Deserializer.advance 2
  let freqOffsetMsb ← readOneByte
  let freqOffsetLsb ← readTwoBytes
  Deserializer.advance 1
  return { results with
    timeOffset := timeOffset
    frameStructureScs := toCplaneScs (frameStructure &&& 0x0f)
    fftSize := frameStructure >>> 4
    cpLength := cpLength
    comprParams := comprParams
    sectionFields := sectionFields
    frequencyOffset := signExtend24 (freqOffsetMsb <<< 16 ||| freqOffsetLsb) }

def decodeSection (results : CplaneMessageDecoderResults) :
    Deserializer CplaneMessageDecoderResults :=
  match results.sectionType with
  | 0 => decodeSectionType0 results
  | 1 => decodeSectionType1 results
  | 3 => decodeSectionType3 results
  | _ => failure

def decode (scs : SubcarrierSpacing) (message : Bytes) : Option CplaneMessageDecoderResults :=
  (do let results ← decodeRadioAppHeader scs
      decodeSection results : Deserializer CplaneMessageDecoderResults).run' message

def commonSectionFieldsAt (message : Bytes) : CplaneCommonSectionFields where
  sectionId := byteAt message 0 <<< 4 ||| byteAt message 1 >>> 4
  prbStart := (byteAt message 1 &&& 0x3) <<< 8 ||| byteAt message 2
  nofPrb := byteAt message 3
  reMask := byteAt message 4 <<< 4 ||| byteAt message 5 >>> 4
  nofSymbols := byteAt message 5 &&& 0x0f

def comprParamsAt (message : Bytes) : RuCompressionParams where
  type := toCompressionType (byteAt message 0 &&& 0x0f)
  dataWidth := if byteAt message 0 >>> 4 = 0 then maxIqWidth else byteAt message 0 >>> 4

def radioAppHeaderFieldsAt (message : Bytes) : RadioAppHeaderFields where
  direction := toDataDirection (byteAt message 0 >>> 7)
  version := byteAt message 0 >>> 4 &&& 0x7
  filterIndex := toFilterIndexType (byteAt message 0 &&& 0xf)
  frame := byteAt message 1
  subframe := byteAt message 2 >>> 4
  slotId := (byteAt message 2 &&& 0x0f) <<< 2 ||| byteAt message 3 >>> 6 &&& 0x3
  startSymbol := byteAt message 3 &&& 0x3f
  numSections := byteAt message 4
  sectionType := byteAt message 5

def headerResultsAt (scs : SubcarrierSpacing) (message : Bytes) :
    CplaneMessageDecoderResults where
  numSections := byteAt message 4
  sectionType := byteAt message 5
  radioHdr := {
    direction := (radioAppHeaderFieldsAt message).direction
    filterIndex := (radioAppHeaderFieldsAt message).filterIndex
    startSymbol := (radioAppHeaderFieldsAt message).startSymbol
    slot := (radioAppHeaderFieldsAt message).slot scs }

/-- The fields that section types 0 and 3 have in common. -/
def frameResultsAt (body : Bytes) (results : CplaneMessageDecoderResults) :
    CplaneMessageDecoderResults :=
  { results with
    timeOffset := byteAt body 0 <<< 8 ||| byteAt body 1
    frameStructureScs := toCplaneScs (byteAt body 2 &&& 0x0f)
    fftSize := byteAt body 2 >>> 4
    cpLength := byteAt body 3 <<< 8 ||| byteAt body 4
    sectionFields := commonSectionFieldsAt (body.drop 6) }

def sectionResultsAt (body : Bytes) (results : CplaneMessageDecoderResults) :
    CplaneMessageDecoderResults :=
  if results.sectionType = 1 then
    { results with
      comprParams := comprParamsAt body
      sectionFields := commonSectionFieldsAt (body.drop 2) }
  else if results.sectionType = 0 then frameResultsAt body results
  else
    { frameResultsAt body results with
      comprParams := comprParamsAt (body.drop 5)
      frequencyOffset := signExtend24
        (byteAt body 14 <<< 16 ||| (byteAt body 15 <<< 8 ||| byteAt body 16)) }

def nofBytesSection : Nat → Option Nat
  | 0 => some 14
  | 1 => some 10
  | 3 => some 18
  | _ => none

/-- Messages that are long enough, of the supported version, with one section of a supported type.
-/
structure Accepted (message : Bytes) : Prop where
  header_le : nofBytesCpRadioHdr ≤ message.length
  version_eq : byteAt message 0 >>> 4 &&& 0x7 = ofhPayloadVersion
  numSections_eq : byteAt message 4 = 1
  section_le : ∃ nofBytes, nofBytesSection (byteAt message 5) = some nofBytes ∧
    nofBytesCpRadioHdr + nofBytes ≤ message.length

lemma readRadioAppHeader_eq (message : Bytes) : readRadioAppHeader message =
    if message.length < nofBytesCpRadioHdr then none
    else some (radioAppHeaderFieldsAt message, message.drop nofBytesCpRadioHdr) := by
  refine requireRemaining_bind fun hlen => ?_
  obtain ⟨_, _, _, _, _, _, _, rfl⟩ := exists_six_bytes hlen
  rfl

lemma readRadioAppHeader_apply {message : Bytes} (h : nofBytesCpRadioHdr ≤ message.length) :
    readRadioAppHeader message =
      some (radioAppHeaderFieldsAt message, message.drop nofBytesCpRadioHdr) :=
  (readRadioAppHeader_eq message).trans (if_neg (not_lt.mpr h))

variable (scs : SubcarrierSpacing)

lemma decodeRadioAppHeader_apply (message : Bytes) : decodeRadioAppHeader scs message =
      if nofBytesCpRadioHdr ≤ message.length ∧
          byteAt message 0 >>> 4 &&& 0x7 = ofhPayloadVersion ∧ byteAt message 4 = 1 then
        some (headerResultsAt scs message, message.drop nofBytesCpRadioHdr)
      else none := by
  rw [decodeRadioAppHeader, bind_apply, readRadioAppHeader_eq]
  by_cases hshort : message.length < nofBytesCpRadioHdr
  · rw [if_pos hshort, if_neg (by omega)]
    rfl
  rw [if_neg hshort, Option.bind_some, bind_apply, require_apply]
  change ((if byteAt message 0 >>> 4 &&& 0x7 = ofhPayloadVersion then _ else none) :
    Option _).bind _ = _
  by_cases hvers : byteAt message 0 >>> 4 &&& 0x7 = ofhPayloadVersion
  · rw [if_pos hvers, Option.bind_some, bind_apply, require_apply]
    change ((if byteAt message 4 = 1 then _ else none) : Option _).bind _ = _
    simp only [hvers, not_lt.mp hshort, true_and]
    split <;> rfl
  · simp [hvers]

variable {results : CplaneMessageDecoderResults}

lemma decodeSectionType1_apply (htype : results.sectionType = 1) (body : Bytes) :
    decodeSectionType1 results body =
      if body.length < 10 then none
      else some (sectionResultsAt body results, body.drop 10) := by
  refine requireRemaining_bind fun hlen => ?_
  have hlen : 10 ≤ body.length := hlen
  obtain ⟨_, _, _, _, _, _, body, rfl⟩ := exists_six_bytes (le_trans (by decide) hlen)
  simp only [length_cons] at hlen
  obtain ⟨_, _, _, _, body, rfl⟩ := @exists_four_bytes body (by omega)
  rw [sectionResultsAt, htype]
  rfl

lemma decodeSectionType0_apply (htype : results.sectionType = 0) (body : Bytes) :
    decodeSectionType0 results body =
      if body.length < 14 then none
      else some (sectionResultsAt body results, body.drop 14) := by
  refine requireRemaining_bind fun hlen => ?_
  have hlen : 14 ≤ body.length := hlen
  obtain ⟨_, _, _, _, _, _, body, rfl⟩ := exists_six_bytes (le_trans (by decide) hlen)
  simp only [length_cons] at hlen
  obtain ⟨_, _, _, _, _, _, body, rfl⟩ := @exists_six_bytes body (by omega)
  simp only [length_cons] at hlen
  obtain ⟨_, _, body, rfl⟩ := @exists_two_bytes body (by omega)
  rw [sectionResultsAt, frameResultsAt, htype]
  rfl

lemma decodeSectionType3_apply (htype : results.sectionType = 3) (body : Bytes) :
    decodeSectionType3 results body =
      if body.length < 18 then none
      else some (sectionResultsAt body results, body.drop 18) := by
  refine requireRemaining_bind fun hlen => ?_
  have hlen : 18 ≤ body.length := hlen
  obtain ⟨_, _, _, _, _, _, body, rfl⟩ := exists_six_bytes (le_trans (by decide) hlen)
  simp only [length_cons] at hlen
  obtain ⟨_, _, _, _, _, _, body, rfl⟩ := @exists_six_bytes body (by omega)
  simp only [length_cons] at hlen
  obtain ⟨_, _, _, _, _, _, body, rfl⟩ := @exists_six_bytes body (by omega)
  rw [sectionResultsAt, frameResultsAt, htype]
  rfl

lemma decodeSection_apply (results : CplaneMessageDecoderResults) (body : Bytes) :
    decodeSection results body =
      match nofBytesSection results.sectionType with
      | none => none
      | some nofBytes =>
        if body.length < nofBytes then none
        else some (sectionResultsAt body results, body.drop nofBytes) := by
  simp only [decodeSection]
  match htype : results.sectionType with
  | 0 => exact decodeSectionType0_apply htype body
  | 1 => exact decodeSectionType1_apply htype body
  | 2 => rfl
  | 3 => exact decodeSectionType3_apply htype body
  | _ + 4 => rfl

/-- The decoder accepts exactly the messages of the supported layout, with the fields at their
offsets. -/
lemma decode_eq_some_iff (message : Bytes) (results : CplaneMessageDecoderResults) :
    decode scs message = some results ↔ Accepted message ∧
        results = sectionResultsAt (message.drop nofBytesCpRadioHdr)
          (headerResultsAt scs message) := by
  have hrun : decode scs message = ((decodeRadioAppHeader scs message).bind
      fun header => decodeSection header.1 header.2).map Prod.fst := rfl
  rw [hrun, decodeRadioAppHeader_apply]
  constructor
  · intro hdecode
    split_ifs at hdecode with hhdr
    · obtain ⟨hlen, hvers, hsects⟩ := hhdr
      rw [Option.bind_some, decodeSection_apply] at hdecode
      split at hdecode
      · simp at hdecode
      rename_i nofBytes hnofBytes
      split_ifs at hdecode with hbody
      · simp at hdecode
      simp only [Option.map_some, Option.some.injEq] at hdecode
      refine ⟨⟨hlen, hvers, hsects, nofBytes, hnofBytes, ?_⟩, hdecode.symm⟩
      rw [length_drop] at hbody
      omega
    · simp at hdecode
  · rintro ⟨⟨hlen, hvers, hsects, nofBytes, hnofBytes, hbody⟩, rfl⟩
    have hnotShort : ¬ (message.drop nofBytesCpRadioHdr).length < nofBytes := by
      rw [length_drop]
      omega
    have hnofBytes' : nofBytesSection (headerResultsAt scs message).sectionType =
        some nofBytes := hnofBytes
    rw [if_pos ⟨hlen, hvers, hsects⟩, Option.bind_some, decodeSection_apply, hnofBytes']
    exact congrArg (Option.map Prod.fst) (if_neg hnotShort)

@[simp] lemma sectionResultsAt_radioHdr (body : Bytes)
    (results : CplaneMessageDecoderResults) :
    (sectionResultsAt body results).radioHdr = results.radioHdr := by
  simp only [sectionResultsAt]
  split
  · rfl
  · split <;> rfl

def sectionFieldsOffset (sectionType : Nat) : Nat := if sectionType = 1 then 8 else 12

lemma sectionResultsAt_sectionFields (message : Bytes) :
    (sectionResultsAt (message.drop nofBytesCpRadioHdr)
        (headerResultsAt scs message)).sectionFields =
      commonSectionFieldsAt (message.drop (sectionFieldsOffset (byteAt message 5))) := by
  simp only [sectionResultsAt, sectionFieldsOffset]
  change (if byteAt message 5 = 1 then _ else _ : CplaneMessageDecoderResults).sectionFields = _
  split
  · simp [nofBytesCpRadioHdr]
  · split <;> simp [frameResultsAt, nofBytesCpRadioHdr]

end ProtoRu.Cplane
