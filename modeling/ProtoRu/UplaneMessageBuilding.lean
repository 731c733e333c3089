import ProtoRu.MessageFields
import ProtoRu.NetworkOrderBytes
import ProtoRu.SlotNumbering

namespace ProtoRu

open List Option

def isCompressionParamPresent (type : CompressionType) : Bool :=
  type = .bfp || type = .muLaw || type = .bfpSelective || type = .modSelective

def roundUpToBytes (nofBits : Nat) : Nat := (nofBits + 7) / 8

def getCompressedPrbSize (params : RuCompressionParams) : Nat :=
  roundUpToBytes (nofSubcarriersPerRb * 2 * params.dataWidth +
    if isCompressionParamPresent params.type then 8 else 0)

/-- The PRBs are written one after the other, each into the bytes its parameters announce. Packing
fields of less than a byte may fail an assertion. -/
structure IqCompressor (Prb : Type) where
  compressPrb : RuCompressionParams → Prb → Option Bytes
  length_compressPrb : ∀ params prb, ∀ bytes ∈ compressPrb params prb,
    bytes.length = getCompressedPrbSize params
  isSome_compressPrb : ∀ params prb, 8 ≤ params.dataWidth → (compressPrb params prb).isSome

/-- The types with a compressor; the others stop the application. -/
def isImplemented : CompressionType → Bool
  | .none => true
  | .bfp => true
  | _ => false

namespace IqCompressor

variable {Prb : Type} (compressor : IqCompressor Prb) (iqData : List Prb)
  (params : RuCompressionParams)

def compress : Option Bytes :=
  if isImplemented params.type then (iqData.mapM (compressor.compressPrb params)).map List.flatten
  else none

/-- The bytes of the PRBs, if all of them are compressed. -/
def compressed : Bytes := iqData.flatMap fun prb => (compressor.compressPrb params prb).getD []

def Compresses : Prop := ∀ prb ∈ iqData, (compressor.compressPrb params prb).isSome

variable {compressor iqData params}

lemma compresses_of_dataWidth (hwidth : 8 ≤ params.dataWidth) :
    compressor.Compresses iqData params :=
  fun prb _ => compressor.isSome_compressPrb params prb hwidth

lemma compress_eq_some (himpl : isImplemented params.type)
    (hcompresses : compressor.Compresses iqData params) :
    compressor.compress iqData params = some (compressor.compressed iqData params) := by
  have hprbs : iqData.mapM (compressor.compressPrb params) =
      some (iqData.map fun prb => (compressor.compressPrb params prb).getD []) := by
    induction iqData with
    | nil => rfl
    | cons prb rest ih =>
      obtain ⟨hprb, hrest⟩ := forall_mem_cons.mp hcompresses
      obtain ⟨bytes, hbytes⟩ := isSome_iff_exists.mp hprb
      rw [mapM_cons, hbytes, ih hrest, map_cons, hbytes]
      rfl
  rw [compress, if_pos himpl, hprbs, map_some, ← flatMap_def, compressed]

lemma length_compressed (hcompresses : compressor.Compresses iqData params) :
    (compressor.compressed iqData params).length =
      iqData.length * getCompressedPrbSize params := by
  induction iqData with
  | nil => simp [compressed]
  | cons prb rest ih =>
    obtain ⟨hprb, hrest⟩ := forall_mem_cons.mp hcompresses
    obtain ⟨bytes, hbytes⟩ := isSome_iff_exists.mp hprb
    have hlength := compressor.length_compressPrb params prb bytes hbytes
    have hlast := ih hrest
    rw [compressed] at hlast ⊢
    rw [flatMap_cons, length_append, hlast, hbytes, getD_some, hlength,
      length_cons, Nat.add_mul, Nat.one_mul, Nat.add_comm]

lemma compress_isSome_iff : (compressor.compress iqData params).isSome ↔
    isImplemented params.type ∧ compressor.Compresses iqData params := by
  constructor
  · intro hsome
    rw [compress] at hsome
    split_ifs at hsome with himpl
    rotate_left
    · cases hsome
    refine ⟨himpl, fun prb hprb => ?_⟩
    rw [isSome_map] at hsome
    induction iqData with
    | nil => cases hprb
    | cons first rest ih =>
      rw [mapM_cons] at hsome
      obtain ⟨_, hfirst⟩ := isSome_iff_exists.mp hsome
      obtain ⟨bytes, hbytes, hlast⟩ := bind_eq_some_iff.mp hfirst
      obtain ⟨last, hmap, -⟩ := bind_eq_some_iff.mp hlast
      obtain rfl | hmem := mem_cons.mp hprb
      · rw [hbytes]
        rfl
      · exact ih (by rw [hmap]; rfl) hmem
  · rintro ⟨himpl, hcompresses⟩
    rw [compress_eq_some himpl hcompresses]
    rfl

end IqCompressor

inductive ComprHeaderKind where
  | staticHeader
  | dynamicHeader
  deriving DecidableEq

def ComprHeaderKind.getHeaderSize (kind : ComprHeaderKind) (params : RuCompressionParams) : Nat :=
  let hdrSize := match kind with
    | .staticHeader => 8
    | .dynamicHeader => 10
  if params.type = .bfpSelective ∨ params.type = .modSelective then hdrSize + 2 else hdrSize

structure UplaneMessageParams where
  direction : DataDirection
  slot : SlotPoint
  filterIndex : FilterIndexType
  startPrb : Nat
  nofPrb : Nat
  symbolId : Nat
  compressionParams : RuCompressionParams
  sectionId : Nat

def encodeDataDirection (direction : DataDirection) (filterIndex : FilterIndexType) : UInt8 :=
  .ofNat (direction.toValue <<< 7 ||| ofhPayloadVersion <<< 4 ||| filterIndex.toValue &&& 0x0f)

def encodeSubframeAndSlot (slot : SlotPoint) : UInt8 :=
  .ofNat (slot.subframeIndex <<< 4 ||| slot.subframeSlotIndex >>> 2)

def encodeSlotLsbAndSymbol (params : UplaneMessageParams) : UInt8 :=
  .ofNat ((params.slot.subframeSlotIndex &&& 0x3) <<< 6 ||| params.symbolId)

/-- Every resource block is used and the symbol is not incremented: both bits are zero. -/
def encodeSectIdRbSymbols (params : UplaneMessageParams) : UInt8 :=
  .ofNat ((params.sectionId &&& 0xf) <<< 4 ||| 0 <<< 3 ||| 0 <<< 2 |||
    params.startPrb >>> 8 &&& 0x3)

def buildRadioAppHeader (params : UplaneMessageParams) : Bytes :=
  [encodeDataDirection params.direction params.filterIndex, .ofNat params.slot.sfn,
    encodeSubframeAndSlot params.slot, encodeSlotLsbAndSymbol params]

def buildSection1Header (params : UplaneMessageParams) : Bytes :=
  [.ofNat (params.sectionId >>> 4), encodeSectIdRbSymbols params, .ofNat params.startPrb,
    .ofNat (if params.nofPrb > 255 then 0 else params.nofPrb)]

def serializeCompressionHeader (kind : ComprHeaderKind) (params : RuCompressionParams) :
    Bytes :=
  match kind with
  | .staticHeader => []
  | .dynamicHeader =>
    [.ofNat ((if params.dataWidth = 16 then 0 else params.dataWidth) <<< 4 |||
      params.type.toValue), 0]

/-- The message for the given PRBs. The compression length field is not supported. -/
def buildMessage {Prb : Type} (compressor : IqCompressor Prb) (kind : ComprHeaderKind)
    (iqData : List Prb) (params : UplaneMessageParams) : Option Bytes := do
  let compressed ← compressor.compress iqData params.compressionParams
  return buildRadioAppHeader params ++ buildSection1Header params ++
    serializeCompressionHeader kind params.compressionParams ++ compressed

lemma getHeaderSize_eq {kind : ComprHeaderKind} {params : RuCompressionParams}
    (himpl : isImplemented params.type) :
    kind.getHeaderSize params = 4 + 4 + (serializeCompressionHeader kind params).length := by
  obtain ⟨type, dataWidth⟩ := params
  cases type <;> simp [isImplemented] at himpl <;> cases kind <;> rfl

section

variable {Prb : Type} {compressor : IqCompressor Prb} (kind : ComprHeaderKind) {iqData : List Prb}
  {params : UplaneMessageParams}

lemma buildMessage_eq_some
    (hsome : (compressor.compress iqData params.compressionParams).isSome) :
    ∃ message, buildMessage compressor kind iqData params = some message ∧
      message.length = kind.getHeaderSize params.compressionParams +
        iqData.length * getCompressedPrbSize params.compressionParams := by
  obtain ⟨himpl, hcompresses⟩ := IqCompressor.compress_isSome_iff.mp hsome
  refine ⟨_, by rw [buildMessage, IqCompressor.compress_eq_some himpl hcompresses]; rfl, ?_⟩
  rw [length_append, length_append, IqCompressor.length_compressed hcompresses,
    getHeaderSize_eq himpl]
  rfl

lemma buildMessage_eq_none (hnone : compressor.compress iqData params.compressionParams = none) :
    buildMessage compressor kind iqData params = none := by
  rw [buildMessage, hnone]
  rfl

end

end ProtoRu
