import ProtoRu.RepositoryIndexing
import ProtoRu.UplaneMessageBuilding

namespace ProtoRu.Uplane

def nofBytesUpHeader : Nat := 4

def sectionIdHeaderNoCompressionSize : Nat := 4

def resultsMaxNofSupportedSections : Nat := 2

inductive ComprHeaderConfig where
  | staticHeader (params : RuCompressionParams)
  | dynamicHeader
  deriving DecidableEq

structure UplaneDecoderConfig where
  scs : SubcarrierSpacing
  nofSymbols : Nat
  ruNofPrbs : Nat
  comprHeader : ComprHeaderConfig
  expectedDirection : DataDirection

structure UplaneHeader where
  direction : DataDirection
  slot : SlotPoint
  filterIndex : FilterIndexType
  symbolId : Nat
  deriving DecidableEq

structure UplaneSectionParams where
  sectionId : Nat
  isEveryRbUsed : Bool
  useCurrentSymbolNumber : Bool
  startPrb : Nat
  nofPrbs : Nat
  udCompHdr : RuCompressionParams
  udCompLen : Option Nat
  compressedData : Bytes
  deriving DecidableEq

structure UplaneMessageDecoderResults where
  params : UplaneHeader
  sections : List UplaneSectionParams

inductive SectionFailure where
  | incomplete
  | malformed

abbrev SectionDecoder := StateT Bytes (Except SectionFailure)

def requireBytes (nofBytes : Nat) : SectionDecoder Unit := fun remaining =>
  if remaining.length < nofBytes then .error .incomplete else .ok ((), remaining)

def read {α : Type} (deserializer : Deserializer α) : SectionDecoder α := fun remaining =>
  match deserializer remaining with
  | none => .error .incomplete
  | some result => .ok result

variable {remaining : Bytes}

section

variable {ε α β : Type} {p : StateT Bytes (Except ε) α}

lemma bind_of_eq_ok {a : α} {rest : Bytes} (h : p remaining = .ok (a, rest))
    (f : α → StateT Bytes (Except ε) β) : (p >>= f) remaining = f a rest := by
  change (p remaining >>= fun result => f result.1 result.2) = f a rest
  rw [h]
  rfl

lemma bind_of_eq_error {failure : ε} (h : p remaining = .error failure)
    (f : α → StateT Bytes (Except ε) β) : (p >>= f) remaining = .error failure := by
  change (p remaining >>= fun result => f result.1 result.2) = .error failure
  rw [h]
  rfl

end

lemma requireBytes_of_le {nofBytes : Nat} (h : nofBytes ≤ remaining.length) :
    requireBytes nofBytes remaining = .ok ((), remaining) :=
  if_neg (not_lt.mpr h)

lemma requireBytes_of_lt {nofBytes : Nat} (h : remaining.length < nofBytes) :
    requireBytes nofBytes remaining = .error .incomplete :=
  if_pos h

lemma read_readOneByte_cons (value : UInt8) (rest : Bytes) :
    read readOneByte (value :: rest) = .ok (value.toNat, rest) := rfl

section

variable (config : UplaneDecoderConfig)

def decodeHeader : Deserializer UplaneHeader := do
  requireRemaining nofBytesUpHeader
  let value ← readOneByte
  let direction := toDataDirection (value >>> 7)
  let version := value >>> 4 &&& 7
  let filterIndex := toFilterIndexType (value &&& 0xf)
  let frame ← readOneByte
  let subframeAndSlot ← readOneByte
  let subframe := subframeAndSlot >>> 4
  let slotAndSymbol ← readOneByte
  let symbolId := slotAndSymbol &&& 0x3f
  let slotId := (subframeAndSlot &&& 0x0f) <<< 2 ||| slotAndSymbol >>> 6
  require (subframe < nofSubframesPerFrame)
  require (slotId < getNofSlotsPerSubframe config.scs)
  require (direction = config.expectedDirection)
  require (version = ofhPayloadVersion)
  require (filterIndex ≠ .reserved)
  require (symbolId < config.nofSymbols)
  return {
    direction := direction
    slot := SlotPoint.ofSubframe (toNumerologyValue config.scs) frame subframe slotId
    filterIndex := filterIndex
    symbolId := symbolId }

/-- A zero number of PRBs stands for all PRBs of the carrier. -/
def decodeSectionHeader : SectionDecoder (Nat × Bool × Bool × Nat × Nat) := do
  requireBytes sectionIdHeaderNoCompressionSize
  let sectionMsb ← read readOneByte
  let sectionAndRest ← read readOneByte
  let startPrbLsb ← read readOneByte
  let nofPrb ← read readOneByte
  let sectionId := sectionMsb <<< 4 ||| sectionAndRest >>> 4
  let isEveryRbUsed := decide (sectionAndRest >>> 3 &&& 1 = 0)
  let useCurrentSymbolNumber := decide (sectionAndRest >>> 2 &&& 1 = 0)
  let startPrb := (sectionAndRest &&& 0x03) <<< 8 ||| startPrbLsb
  return (sectionId, isEveryRbUsed, useCurrentSymbolNumber,
    if nofPrb = 0 then 0 else startPrb, if nofPrb = 0 then config.ruNofPrbs else nofPrb)

def decodeCompressionHeader : SectionDecoder RuCompressionParams :=
  match config.comprHeader with
  | .staticHeader params => return params
  | .dynamicHeader => do
      requireBytes 2
      let value ← read readOneByte
      let type := toCompressionType (value &&& 0x0f)
      if type = .reserved then throw .malformed
      let dataWidth := value >>> 4
      read (Deserializer.advance 1)
      return ⟨type, if dataWidth = 0 then maxIqWidth else dataWidth⟩

end

def decodeCompressionLength : CompressionType → SectionDecoder (Option Nat)
  | .none | .bfp | .blockScaling | .muLaw | .modulation => return none
  | _ => do
      requireBytes 2
      let length ← read readTwoBytes
      return some length

def prbIqDataSize (params : RuCompressionParams) : Nat :=
  roundUpToBytes (nofSubcarriersPerRb * 2 * params.dataWidth) +
    if isCompressionParamPresent params.type then 1 else 0

def decodeSection (config : UplaneDecoderConfig) : SectionDecoder UplaneSectionParams := do
  let (sectionId, isEveryRbUsed, useCurrentSymbolNumber, startPrb, nofPrbs) ←
    decodeSectionHeader config
  let udCompHdr ← decodeCompressionHeader config
  let udCompLen ← decodeCompressionLength udCompHdr.type
  requireBytes (prbIqDataSize udCompHdr * nofPrbs)
  let compressedData ← read (getViewAndAdvance (nofPrbs * getCompressedPrbSize udCompHdr))
  return {
    sectionId := sectionId
    isEveryRbUsed := isEveryRbUsed
    useCurrentSymbolNumber := useCurrentSymbolNumber
    startPrb := startPrb
    nofPrbs := nofPrbs
    udCompHdr := udCompHdr
    udCompLen := udCompLen
    compressedData := compressedData }

/-- Decode the sections of the remaining bytes; a message that fills the results is
rejected. -/
def decodeAllSections (config : UplaneDecoderConfig) :
    Nat → List UplaneSectionParams → Bytes → Option (List UplaneSectionParams)
  | _, sections, [] => if sections = [] then none else some sections
  | 0, _, _ :: _ => none
  | room + 1, sections, byte :: rest =>
    match decodeSection config (byte :: rest) with
    | .error .incomplete => if sections = [] then none else some sections
    | .error .malformed => none
    | .ok (decoded, remaining) =>
      if room = 0 then none
      else decodeAllSections config room (sections ++ [decoded]) remaining

def decode (config : UplaneDecoderConfig) (message : Bytes) :
    Option UplaneMessageDecoderResults := do
  let (params, remaining) ← decodeHeader config message
  let sections ← decodeAllSections config resultsMaxNofSupportedSections [] remaining
  return ⟨params, sections⟩

end ProtoRu.Uplane
