import ProtoRu.IqDecompression
import ProtoRu.UplaneMessageDecoding

namespace ProtoRu.UplaneIq

open Uplane

/-- What must not happen while a message is decoded. -/
inductive Fault where
  | outsideMessage
  | applicationStopped
  deriving DecidableEq

inductive SectionStop where
  | failed (failure : SectionFailure)
  | faulted (fault : Fault)

/-- A decoder over the unread bytes. Reads are not checked: they may look outside the message. -/
abbrev CheckedDecoder := StateT Bytes (Except SectionStop)

def requireBytes (nofBytes : Nat) : CheckedDecoder Unit := fun remaining =>
  if remaining.length < nofBytes then .error (.failed .incomplete) else .ok ((), remaining)

def getViewAndAdvance (nofBytes : Nat) : CheckedDecoder Bytes := fun remaining =>
  if remaining.length < nofBytes then .error (.faulted .outsideMessage)
  else .ok (remaining.take nofBytes, remaining.drop nofBytes)

def advance (nofBytes : Nat) : CheckedDecoder Unit := do
  let _ ← getViewAndAdvance nofBytes

def readOneByte : CheckedDecoder Nat := fun remaining =>
  match remaining with
  | [] => .error (.faulted .outsideMessage)
  | value :: rest => .ok (value.toNat, rest)

def readTwoBytes : CheckedDecoder Nat := do
  let msb ← readOneByte
  let lsb ← readOneByte
  return msb <<< 8 ||| lsb

def dropUnless (condition : Prop) [Decidable condition] : CheckedDecoder Unit :=
  if condition then return () else throw (.failed .malformed)

structure UplaneSectionParams (Sample : Type) where
  sectionId : Nat
  isEveryRbUsed : Bool
  useCurrentSymbolNumber : Bool
  startPrb : Nat
  nofPrbs : Nat
  udCompHdr : RuCompressionParams
  udCompLen : Option Nat
  iqSamples : List Sample
  deriving DecidableEq

structure UplaneMessageDecoderResults (Sample : Type) where
  params : UplaneHeader
  sections : List (UplaneSectionParams Sample)
  deriving DecidableEq

/-- How a call of the decoder ends; unfinished while the loop has rounds to make. -/
inductive DecodeOutcome (Results : Type) where
  | unfinished
  | faulted (fault : Fault)
  | rejected
  | accepted (results : Results)
  deriving DecidableEq

namespace DecodeOutcome

variable {α β : Type} {f : α → β} {outcome : DecodeOutcome α}

def map (f : α → β) : DecodeOutcome α → DecodeOutcome β
  | .unfinished => .unfinished
  | .faulted fault => .faulted fault
  | .rejected => .rejected
  | .accepted results => .accepted (f results)

@[simp] lemma map_eq_unfinished_iff : outcome.map f = .unfinished ↔ outcome = .unfinished := by
  cases outcome <;> simp [map]

@[simp] lemma map_eq_faulted_iff {fault : Fault} :
    outcome.map f = .faulted fault ↔ outcome = .faulted fault := by
  cases outcome <;> simp [map]

@[simp] lemma map_eq_accepted_iff {results : β} :
    outcome.map f = .accepted results ↔ ∃ a, outcome = .accepted a ∧ f a = results := by
  cases outcome <;> simp [map]

end DecodeOutcome

section

variable {Sample : Type} [Inhabited Sample] (decompressor : IqDecompressor Sample)
  (config : UplaneDecoderConfig)

def decodeHeader : CheckedDecoder UplaneHeader := do
  requireBytes nofBytesUpHeader
  let value ← readOneByte
  let direction := toDataDirection (value >>> 7)
  let version := value >>> 4 &&& 7
  let filterIndex := toFilterIndexType (value &&& 0xf)
  let frame ← readOneByte
  let subframeAndSlot ← readOneByte
  let subframe := subframeAndSlot >>> 4
  let slotAndSymbol ← readOneByte
  let symbolId := slotAndSymbol &&& 0x3f
  let slotId := (subframeAndSlot &&& 0x0f) <<< 2 ||| slotAndSymbol >>> 6
  dropUnless (subframe < nofSubframesPerFrame)
  dropUnless (slotId < getNofSlotsPerSubframe config.scs)
  dropUnless (direction = config.expectedDirection)
  dropUnless (version = ofhPayloadVersion)
  dropUnless (filterIndex ≠ .reserved)
  dropUnless (symbolId < config.nofSymbols)
  return {
    direction := direction
    slot := SlotPoint.ofSubframe (toNumerologyValue config.scs) frame subframe slotId
    filterIndex := filterIndex
    symbolId := symbolId }

def decodeSectionHeader : CheckedDecoder (Nat × Bool × Bool × Nat × Nat) := do
  requireBytes sectionIdHeaderNoCompressionSize
  let sectionMsb ← readOneByte
  let sectionAndRest ← readOneByte
  let startPrbLsb ← readOneByte
  let nofPrb ← readOneByte
  let sectionId := sectionMsb <<< 4 ||| sectionAndRest >>> 4
  let isEveryRbUsed := decide (sectionAndRest >>> 3 &&& 1 = 0)
  let useCurrentSymbolNumber := decide (sectionAndRest >>> 2 &&& 1 = 0)
  let startPrb := (sectionAndRest &&& 0x03) <<< 8 ||| startPrbLsb
  return (sectionId, isEveryRbUsed, useCurrentSymbolNumber,
    if nofPrb = 0 then 0 else startPrb, if nofPrb = 0 then config.ruNofPrbs else nofPrb)

def decodeCompressionHeader : CheckedDecoder RuCompressionParams :=
  match config.comprHeader with
  | .staticHeader params => return params
  | .dynamicHeader => do
      requireBytes 2
      let value ← readOneByte
      let type := toCompressionType (value &&& 0x0f)
      if type = .reserved then throw (.failed .malformed)
      let dataWidth := value >>> 4
      advance 1
      return ⟨type, if dataWidth = 0 then maxIqWidth else dataWidth⟩

def decodeCompressionLength : CompressionType → CheckedDecoder (Option Nat)
  | .none | .bfp | .blockScaling | .muLaw | .modulation => return none
  | _ => do
      requireBytes 2
      let length ← readTwoBytes
      return some length

/-- The samples are resized before they are decompressed; their capacity is that of the
widest carrier. -/
def decompressSamples (nofPrbs : Nat) (compressedData : Bytes)
    (params : RuCompressionParams) : Option (List Sample) :=
  if maxNofPrbs * nofSubcarriersPerRb < nofPrbs * nofSubcarriersPerRb then none
  else decompressor.decompress (List.replicate (nofPrbs * nofSubcarriersPerRb) default)
    compressedData params

def decodeIqData (nofPrbs : Nat) (params : RuCompressionParams) : CheckedDecoder (List Sample) := do
  let compressedData ← getViewAndAdvance (nofPrbs * getCompressedPrbSize params)
  match decompressSamples decompressor nofPrbs compressedData params with
  | none => throw (.faulted .applicationStopped)
  | some iqSamples => return iqSamples

def decodeSection : CheckedDecoder (UplaneSectionParams Sample) := do
  let (sectionId, isEveryRbUsed, useCurrentSymbolNumber, startPrb, nofPrbs) ←
    decodeSectionHeader config
  let udCompHdr ← decodeCompressionHeader config
  let udCompLen ← decodeCompressionLength udCompHdr.type
  requireBytes (prbIqDataSize udCompHdr * nofPrbs)
  let iqSamples ← decodeIqData decompressor nofPrbs udCompHdr
  return {
    sectionId := sectionId
    isEveryRbUsed := isEveryRbUsed
    useCurrentSymbolNumber := useCurrentSymbolNumber
    startPrb := startPrb
    nofPrbs := nofPrbs
    udCompHdr := udCompHdr
    udCompLen := udCompLen
    iqSamples := iqSamples }

def checkSections (sections : List (UplaneSectionParams Sample)) :
    DecodeOutcome (List (UplaneSectionParams Sample)) :=
  match sections with
  | [] => .rejected
  | _ :: _ => .accepted sections

/-- At most the given number of rounds of the loop over the sections. -/
def decodeAllSections : Nat → List (UplaneSectionParams Sample) → Bytes →
    DecodeOutcome (List (UplaneSectionParams Sample))
  | _, sections, [] => checkSections sections
  | 0, _, _ :: _ => .unfinished
  | rounds + 1, sections, byte :: rest =>
    match decodeSection decompressor config (byte :: rest) with
    | .error (.failed .incomplete) => checkSections sections
    | .error (.failed .malformed) => .rejected
    | .error (.faulted fault) => .faulted fault
    | .ok (decoded, remaining) =>
      if (sections ++ [decoded]).length = resultsMaxNofSupportedSections then .rejected
      else decodeAllSections rounds (sections ++ [decoded]) remaining

def decode (rounds : Nat) (message : Bytes) :
    DecodeOutcome (UplaneMessageDecoderResults Sample) :=
  match decodeHeader config message with
  | .error (.failed _) => .rejected
  | .error (.faulted fault) => .faulted fault
  | .ok (params, remaining) =>
    (decodeAllSections decompressor config rounds [] remaining).map
      (UplaneMessageDecoderResults.mk params)

end

end ProtoRu.UplaneIq
