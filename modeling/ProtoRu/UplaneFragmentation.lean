import ProtoRu.UplaneRoundTrip

namespace ProtoRu

open Uplane

def getPrbDataSize (params : RuCompressionParams) : Nat :=
  if params.type = .none ∨ params.type = .modulation then
    roundUpToBytes (params.dataWidth * nofSubcarriersPerRb * 2)
  else roundUpToBytes (params.dataWidth * nofSubcarriersPerRb * 2) + 1

structure OfhUplaneFragmentSizeCalculator where
  startPrb : Nat
  nofPrbs : Nat
  prbSize : Nat
  nextFragmentStartPrbIndex : Nat
  deriving DecidableEq

structure Fragment where
  startPrb : Nat
  nofPrbs : Nat
  isLast : Bool
  deriving DecidableEq

namespace OfhUplaneFragmentSizeCalculator

def new (startPrb nofPrbs : Nat) (params : RuCompressionParams) :
    OfhUplaneFragmentSizeCalculator :=
  ⟨startPrb, nofPrbs, getPrbDataSize params, startPrb⟩

def calculateFragmentSize (calculator : OfhUplaneFragmentSizeCalculator) (frameSize : Nat) :
    Fragment × OfhUplaneFragmentSizeCalculator :=
  let next := calculator.nextFragmentStartPrbIndex
  if frameSize < calculator.prbSize then (⟨next, 0, false⟩, calculator)
  else
    let nofPrbsFitInFrame := frameSize / calculator.prbSize
    let remainingPrbs := calculator.nofPrbs - (next - calculator.startPrb)
    if nofPrbsFitInFrame ≥ remainingPrbs then
      (⟨next, remainingPrbs, true⟩,
        { calculator with nextFragmentStartPrbIndex := next + remainingPrbs })
    else
      (⟨next, nofPrbsFitInFrame, false⟩,
        { calculator with nextFragmentStartPrbIndex := next + nofPrbsFitInFrame })

lemma calculateFragmentSize_stays (calculator : OfhUplaneFragmentSizeCalculator)
    {frameSize : Nat} (hnone : (calculator.calculateFragmentSize frameSize).1.nofPrbs = 0)
    (hmore : ¬(calculator.calculateFragmentSize frameSize).1.isLast) :
    (calculator.calculateFragmentSize frameSize).2 = calculator := by
  unfold calculateFragmentSize at hnone hmore ⊢
  dsimp only at hnone hmore ⊢
  split_ifs at hnone hmore ⊢ with hsmall hlast
  · rfl
  · exact absurd rfl hmore
  · dsimp only at hnone ⊢
    rw [hnone, Nat.add_zero]

end OfhUplaneFragmentSizeCalculator

/-- The loop while frame buffers are free, with what is written. A fragment without PRBs is
repeated for ever, one that cannot be written ends the process. -/
def fragmentLoop {α : Type} (write : Fragment → Option α) (frameSize : Nat) :
    Nat → OfhUplaneFragmentSizeCalculator → Option (List α)
  | 0, _ => some []
  | free + 1, calculator =>
    let (fragment, next) := calculator.calculateFragmentSize frameSize
    if fragment.nofPrbs = 0 then if fragment.isLast then some [] else none
    else do
      let frame ← write fragment
      if fragment.isLast then return [frame]
      let rest ← fragmentLoop write frameSize free next
      return frame :: rest

/-- The rounded up quotient; the source divides floating point numbers far below their
precision. -/
def calculateNofSegments (bufferSize nofPrbs : Nat) (params : RuCompressionParams)
    (headersSize : Nat) : Nat :=
  let nofPrbsFitInFrame := (bufferSize - headersSize) / getPrbDataSize params
  (nofPrbs + nofPrbsFitInFrame - 1) / nofPrbsFitInFrame

def ethHeaderSize : Nat := 14

def ethVlanTagSize : Nat := 4

def ecpriIqDataHeaderSize : Nat := 8

structure DataFlowUplaneConfig where
  scs : SubcarrierSpacing
  cp : CyclicPrefix
  ruNofPrbs : Nat
  comprParams : RuCompressionParams
  comprHeader : ComprHeaderKind
  direction : DataDirection
  vlanTagged : Bool
  mtu : Nat
  ruNofPrbs_pos : 0 < ruNofPrbs
  ruNofPrbs_le : ruNofPrbs ≤ 275
  dataWidth_pos : 0 < comprParams.dataWidth
  dataWidth_le : comprParams.dataWidth ≤ maxIqWidth
  mtu_ge : 1500 ≤ mtu
  mtu_le : mtu ≤ 9600

structure DataFlowUplaneContext (config : DataFlowUplaneConfig) where
  slot : SlotPoint
  symbolId : Nat
  sectionId : Nat
  numerology_eq : slot.numerology = toNumerologyValue config.scs
  symbolId_lt : symbolId < getNsymbPerSlot config.cp
  sectionId_lt : sectionId < 2 ^ 12

namespace DataFlowUplaneConfig

variable (config : DataFlowUplaneConfig)

def headersSize : Nat :=
  (if config.vlanTagged then ethHeaderSize + ethVlanTagSize else ethHeaderSize) +
    ecpriIqDataHeaderSize + config.comprHeader.getHeaderSize config.comprParams

def frameSize : Nat := config.mtu - config.headersSize

def nofPrbsFitInFrame : Nat := config.frameSize / getPrbDataSize config.comprParams

def nofSegments : Nat :=
  calculateNofSegments config.mtu config.ruNofPrbs config.comprParams config.headersSize

def receiver : UplaneDecoderConfig where
  scs := config.scs
  nofSymbols := getNsymbPerSlot config.cp
  ruNofPrbs := config.ruNofPrbs
  comprHeader := matchingHeader config.comprHeader config.comprParams
  expectedDirection := config.direction

lemma getPrbDataSize_bounds :
    0 < getPrbDataSize config.comprParams ∧ getPrbDataSize config.comprParams ≤ 49 := by
  have hpos := config.dataWidth_pos
  have hle := config.dataWidth_le
  simp only [maxIqWidth] at hle
  simp only [getPrbDataSize, roundUpToBytes, nofSubcarriersPerRb]
  split <;> omega

lemma headersSize_le : config.headersSize ≤ 38 := by
  unfold headersSize ComprHeaderKind.getHeaderSize ethHeaderSize ethVlanTagSize
    ecpriIqDataHeaderSize
  cases config.comprHeader <;> dsimp only <;> split <;> split <;> omega

lemma nofPrbsFitInFrame_pos : 0 < config.nofPrbsFitInFrame := by
  obtain ⟨hpos, hle⟩ := config.getPrbDataSize_bounds
  have hheaders := config.headersSize_le
  have hmtu := config.mtu_ge
  apply Nat.div_pos _ hpos
  simp only [frameSize]
  omega

end DataFlowUplaneConfig

section

variable {Prb : Type} (compressor : IqCompressor Prb) (config : DataFlowUplaneConfig)
  (context : DataFlowUplaneContext config)

def generateOfhUserParameters (fragment : Fragment) : UplaneMessageParams where
  direction := config.direction
  slot := context.slot
  filterIndex := .standardChannelFilter
  startPrb := fragment.startPrb
  nofPrb := fragment.nofPrbs
  symbolId := context.symbolId
  compressionParams := config.comprParams
  sectionId := context.sectionId

def fragmentMessage (iqData : List Prb) (fragment : Fragment) : Option Bytes :=
  buildMessage compressor config.comprHeader ((iqData.drop fragment.startPrb).take fragment.nofPrbs)
    (generateOfhUserParameters config context fragment)

def enqueueFragments (iqData : List Prb) :
    Nat → OfhUplaneFragmentSizeCalculator → Option (List Bytes) :=
  fragmentLoop (fragmentMessage compressor config context iqData) config.frameSize

def enqueueSectionType1MessageSymbol (iqData : List Prb) (free : Nat) :
    Option (List Bytes) :=
  enqueueFragments compressor config context iqData free
    (.new 0 config.ruNofPrbs config.comprParams)

end

end ProtoRu
