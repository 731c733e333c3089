import ProtoRu.CplaneMessageDecoding
import ProtoRu.UplaneMessageBuilding

namespace ProtoRu.Cplane

inductive CplaneFftSize where
  | noop
  | fft128
  | fft256
  | fft512
  | fft1024
  | fft2048
  | fft4096
  | fft1536
  | fft3072

def CplaneFftSize.toValue : CplaneFftSize → Nat
  | .noop => 0x00
  | .fft128 => 0x07
  | .fft256 => 0x08
  | .fft512 => 0x09
  | .fft1024 => 0x0a
  | .fft2048 => 0x0b
  | .fft4096 => 0x0c
  | .fft1536 => 0x0d
  | .fft3072 => 0x0e

structure CplaneSectionType0Parameters where
  radioHdr : CplaneRadioApplicationHeader
  sectionFields : CplaneCommonSectionFields
  scs : SubcarrierSpacing
  cp : CyclicPrefix
  fftSize : CplaneFftSize
  timeOffset : Nat

structure CplaneSectionType1Parameters where
  radioHdr : CplaneRadioApplicationHeader
  sectionFields : CplaneCommonSectionFields
  comprParams : RuCompressionParams

structure CplaneSectionType3Parameters where
  radioHdr : CplaneRadioApplicationHeader
  sectionFields : CplaneCommonSectionFields
  frequencyOffset : Int
  comprParams : RuCompressionParams
  scs : CplaneScs
  fftSize : CplaneFftSize
  cpLength : Nat
  timeOffset : Nat

def encodeFrameStructure (scs : CplaneScs) (fftSize : CplaneFftSize) : UInt8 :=
  .ofNat (scs.toValue ||| fftSize.toValue <<< 4)

def encodeDataDirection (params : CplaneRadioApplicationHeader) : UInt8 :=
  .ofNat (params.direction.toValue <<< 7 ||| (ofhPayloadVersion &&& 0x7) <<< 4 |||
    params.filterIndex.toValue)

def encodeSubframeAndSlot (slot : SlotPoint) : UInt8 :=
  .ofNat ((slot.subframeIndex &&& 0xf) <<< 4 ||| slot.subframeSlotIndex >>> 2 &&& 0xf)

def encodeSlotAndStartSymbol (slot : SlotPoint) (startSymbol : Nat) : UInt8 :=
  .ofNat ((slot.subframeSlotIndex &&& 0x3) <<< 6 ||| startSymbol &&& 0x3f)

def encodeSectIdRbSymbols (sectionFields : CplaneCommonSectionFields) : UInt8 :=
  .ofNat ((sectionFields.sectionId &&& 0xf) <<< 4 ||| 0 <<< 3 ||| 0 <<< 2 |||
    sectionFields.prbStart >>> 8 &&& 0x3)

def encodeReMaskAndNofSymbols (sectionFields : CplaneCommonSectionFields) : UInt8 :=
  .ofNat ((sectionFields.reMask &&& 0xf) <<< 4 ||| sectionFields.nofSymbols &&& 0xf)

def writeTwoBytes (value : Nat) : Bytes := [.ofNat (value >>> 8), .ofNat value]

/-- The fields common to the section types; a count of more than 255 PRBs becomes zero. -/
def serializeCommonFields (sectionFields : CplaneCommonSectionFields) : Bytes :=
  [.ofNat (sectionFields.sectionId >>> 4), encodeSectIdRbSymbols sectionFields,
    .ofNat sectionFields.prbStart,
    .ofNat (if sectionFields.nofPrb > 255 then 0 else sectionFields.nofPrb),
    .ofNat (sectionFields.reMask >>> 4), encodeReMaskAndNofSymbols sectionFields]

def serializeRadioHdr (radioHdr : CplaneRadioApplicationHeader) (sectionType : UInt8) :
    Bytes :=
  [encodeDataDirection radioHdr, .ofNat radioHdr.slot.sfn, encodeSubframeAndSlot radioHdr.slot,
    encodeSlotAndStartSymbol radioHdr.slot radioHdr.startSymbol, 1, sectionType]

/-- The static builder writes a zero, the dynamic one writes the parameters of uplink
messages only. -/
def serializeCompressionHeader (kind : ComprHeaderKind) (compr : RuCompressionParams)
    (direction : DataDirection) : UInt8 :=
  match kind, direction with
  | .staticHeader, _ => 0
  | .dynamicHeader, .downlink => 0
  | .dynamicHeader, .uplink =>
    .ofNat ((if compr.dataWidth = 16 then 0 else compr.dataWidth) <<< 4 ||| compr.type.toValue)

def buildDlUlRadioChannelMessage (kind : ComprHeaderKind)
    (params : CplaneSectionType1Parameters) : Bytes :=
  serializeRadioHdr params.radioHdr 1 ++
    [serializeCompressionHeader kind params.comprParams params.radioHdr.direction, 0] ++
    serializeCommonFields params.sectionFields ++ [0, 0]

def toCplaneScsValue : SubcarrierSpacing → CplaneScs
  | .kHz15 => .kHz15
  | .kHz30 => .kHz30
  | .kHz60 => .kHz60
  | .kHz120 => .kHz120
  | .kHz240 => .other 0x0f

/-- The cyclic prefix is configured out of band. -/
def encodeCpLength (_scs : SubcarrierSpacing) (_cp : CyclicPrefix) : Nat := 0

def buildIdleGuardPeriodMessage (params : CplaneSectionType0Parameters) : Bytes :=
  serializeRadioHdr params.radioHdr 0 ++ writeTwoBytes params.timeOffset ++
    [encodeFrameStructure (toCplaneScsValue params.scs) .noop] ++
    writeTwoBytes (encodeCpLength params.scs params.cp) ++ [0] ++
    serializeCommonFields params.sectionFields ++ [0, 0]

def serializeFrequencyOffset (frequencyOffset : Int) : Bytes :=
  .ofNat ((frequencyOffset >>> (16 : Nat)) % 256).toNat ::
    writeTwoBytes (frequencyOffset % 65536).toNat

def buildPrachMixedNumerologyMessage (kind : ComprHeaderKind)
    (params : CplaneSectionType3Parameters) : Bytes :=
  serializeRadioHdr params.radioHdr 3 ++ writeTwoBytes params.timeOffset ++
    [encodeFrameStructure params.scs params.fftSize] ++ writeTwoBytes params.cpLength ++
    [serializeCompressionHeader kind params.comprParams params.radioHdr.direction] ++
    serializeCommonFields params.sectionFields ++ [0, 0] ++
    serializeFrequencyOffset params.frequencyOffset ++ [0]

end ProtoRu.Cplane
