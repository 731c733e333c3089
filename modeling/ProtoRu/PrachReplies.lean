import ProtoRu.TransitionRuns
import ProtoRu.UplaneFragmentation
import ProtoRu.UplinkRequestRepository
import ProtoRu.UplinkSymbolResponse

namespace ProtoRu.Prach

open Cplane UplinkReplies RuUplinkRequestRepository

structure PrachBuffer (Re : Type) where
  maxNofPorts : Nat
  maxNofSymbols : Nat
  sequenceLength : Nat
  samples : Nat → Nat → List Re
  length_samples : ∀ port symbol, (samples port symbol).length = sequenceLength

structure DataFlowUplanePrachContext where
  slot : SlotPoint
  sector : Nat
  port : Nat
  eaxc : Nat
  prbStart : Nat
  nofPrb : Nat
  startSymbol : Nat
  nofSymbols : Nat
  filterIndex : FilterIndexType
  prachScs : PrachSubcarrierSpacing
  sectionId : Nat
  deriving DecidableEq

def prachContext (sector : Nat) (slot : SlotPoint) (eaxc port : Nat)
    (request : RuUplinkRequest) : DataFlowUplanePrachContext where
  slot := slot
  sector := sector
  port := port
  eaxc := eaxc
  prbStart := request.prbStart
  nofPrb := request.nofPrb
  startSymbol := request.startSymbol
  nofSymbols := request.nofSymbols
  filterIndex := request.filterIndex
  prachScs := request.prachScs
  sectionId := request.sectionId

/-- One round of the loop over the ports: reply to the request of the port and clear
it. -/
def answerPrachPort (sector : Nat) (slot : SlotPoint)
    (state : List DataFlowUplanePrachContext × RuUplinkRequestRepository)
    (port : Nat × Nat) : List DataFlowUplanePrachContext × RuUplinkRequestRepository :=
  match state.2.get slot port.1 with
  | none => state
  | some request =>
    (state.1 ++ [prachContext sector slot port.1 port.2 request], state.2.clear slot port.1)

def handlePrachWindow (sector : Nat) (prachEaxc : EaxcList)
    (prachRequestRepo : RuUplinkRequestRepository) (slot : SlotPoint)
    (nofBufferPorts : Nat) :
    List DataFlowUplanePrachContext × RuUplinkRequestRepository :=
  (servedPorts prachEaxc nofBufferPorts).foldl (answerPrachPort sector slot) ([], prachRequestRepo)

def toSubcarrierSpacing : Nat → Option SubcarrierSpacing
  | 0 => some .kHz15
  | 1 => some .kHz30
  | 2 => some .kHz60
  | 3 => some .kHz120
  | 4 => some .kHz240
  | _ => none

def contextMapping (context : DataFlowUplanePrachContext) : PrachFrequencyMappingInformation :=
  match toSubcarrierSpacing context.slot.numerology with
  | some puschScs => prachFrequencyMappingGet context.prachScs puschScs
  | none => ⟨0, 0⟩

/-- What is done for a symbol. Constructing the symbol point and reading the buffer assert the
index. -/
inductive PrachAction where
  | symbolPoint (symbol : Nat)
  | getSymbol (symbol : Nat)
  | frame (size : Nat)

section

variable {Re : Type} [Zero Re] (compressor : IqCompressor (List Re))
  (config : DataFlowUplaneConfig) (context : DataFlowUplanePrachContext)
  (buffer : PrachBuffer Re)

/-- The samples after the offset of the mapping, zero-padded up to the section. -/
def iqData (prachSymbol : Nat) : List Re :=
  let offset := (contextMapping context).kBar
  List.replicate offset 0 ++ buffer.samples context.port prachSymbol ++
    List.replicate (context.nofPrb * nofSubcarriersPerRb - offset - buffer.sequenceLength) 0

def toPrbs (nofPrb : Nat) (iq : List Re) : List (List Re) :=
  (List.range nofPrb).map fun prb =>
    (iq.drop (prb * nofSubcarriersPerRb)).take nofSubcarriersPerRb

def prachPrbs (prachSymbol : Nat) : List (List Re) :=
  toPrbs context.nofPrb (iqData context buffer prachSymbol)

def prachUserParameters (ofhSymbolId : Nat) : UplaneMessageParams where
  direction := config.direction
  slot := context.slot
  filterIndex := context.filterIndex
  startPrb := context.prbStart
  nofPrb := context.nofPrb
  symbolId := ofhSymbolId
  compressionParams := config.comprParams
  sectionId := context.sectionId

def prachFrameSize (prachSymbol : Nat) : Option Nat := do
  let message ← buildMessage compressor config.comprHeader (prachPrbs context buffer prachSymbol)
    (prachUserParameters config context (context.startSymbol + prachSymbol))
  return (if config.vlanTagged then ethHeaderSize + ethVlanTagSize else ethHeaderSize) +
    ecpriIqDataHeaderSize + message.length

/-- One round of the loop over the PRACH symbols, and whether it goes on, with a buffer or
without. -/
def prachSymbolRound (hasFreeBuffer : Nat → Bool) (prachSymbol : Nat) : List PrachAction × Bool :=
  let ofhSymbolId := context.startSymbol + prachSymbol
  if getNsymbPerSlot config.cp ≤ ofhSymbolId then ([.symbolPoint ofhSymbolId], false)
  else if buffer.maxNofSymbols ≤ prachSymbol then
    ([.symbolPoint ofhSymbolId, .getSymbol prachSymbol], false)
  else if !hasFreeBuffer ofhSymbolId then
    ([.symbolPoint ofhSymbolId, .getSymbol prachSymbol], false)
  else if config.mtu ≤ config.headersSize then
    ([.symbolPoint ofhSymbolId, .getSymbol prachSymbol], true)
  else
    match prachFrameSize compressor config context buffer prachSymbol with
    | none => ([.symbolPoint ofhSymbolId, .getSymbol prachSymbol], false)
    | some size =>
      ([.symbolPoint ofhSymbolId, .getSymbol prachSymbol, .frame size], true)

def enqueuePrachMessage (hasFreeBuffer : Nat → Bool) : List PrachAction :=
  let nofRe := context.nofPrb * nofSubcarriersPerRb
  let mapping := contextMapping context
  -- The section size is asserted.
  if maxNofPrbs * nofSubcarriersPerRb < nofRe then []
  else if mapping.nofRbRa = 0 then []
  else if nofRe < mapping.kBar ∨ nofRe - mapping.kBar < buffer.sequenceLength then []
  else loopActions (prachSymbolRound compressor config context buffer hasFreeBuffer)
    context.nofSymbols 0

end

variable {prachRequestRepo : RuUplinkRequestRepository}

lemma mem_handlePrachWindow {sector : Nat} {prachEaxc : EaxcList} {slot : SlotPoint}
    {nofBufferPorts : Nat} {context : DataFlowUplanePrachContext}
    (h : context ∈ (handlePrachWindow sector prachEaxc prachRequestRepo slot nofBufferPorts).1) :
    ∃ request, prachRequestRepo.get slot context.eaxc = some request ∧
      context = prachContext sector slot context.eaxc context.port request := by
  -- The repository of a round only has requests of the first one.
  let Inv (state : List DataFlowUplanePrachContext × RuUplinkRequestRepository) : Prop :=
    (∀ context ∈ state.1, ∃ request, prachRequestRepo.get slot context.eaxc = some request ∧
      context = prachContext sector slot context.eaxc context.port request) ∧
    ∀ eaxc request, state.2.get slot eaxc = some request →
      prachRequestRepo.get slot eaxc = some request
  have hinv : Inv (handlePrachWindow sector prachEaxc prachRequestRepo slot nofBufferPorts) := by
    refine List.foldlRecOn (motive := Inv) _ _ ⟨by simp, fun _ _ => id⟩ ?_
    rintro state ⟨hcontexts, hrepo⟩ port _
    simp only [answerPrachPort]
    split
    · exact ⟨hcontexts, hrepo⟩
    rename_i request hget
    refine ⟨List.forall_mem_append.mpr ⟨hcontexts, List.forall_mem_singleton.mpr
      ⟨request, hrepo _ _ hget, rfl⟩⟩, fun eaxc other hother => ?_⟩
    · exact hrepo eaxc other (get_of_get_clear hother)
  exact hinv.1 context h

lemma handlePrachScheduling_get {scs : SubcarrierSpacing} {ruNofPrbs eaxc : Nat}
    {results : CplaneMessageDecoderResults} {request : RuUplinkRequest}
    (hfilter : isPrachFilterCompatible results.radioHdr.filterIndex (toPrachSubcarrierSpacing
      results.frameStructureScs))
    (hoff : (calculatePrachRbOffset results.frequencyOffset (toPrachSubcarrierSpacing
      results.frameStructureScs) scs ruNofPrbs).isSome)
    (hget : (handlePrachScheduling scs ruNofPrbs prachRequestRepo eaxc results).get
      results.radioHdr.slot eaxc = some request) :
    ∃ rbOffset, request = { toRuUplinkRequest results with
      prachScs := toPrachSubcarrierSpacing results.frameStructureScs
      prachStartRb := rbOffset } := by
  obtain ⟨rbOffset, hrb⟩ := Option.isSome_iff_exists.mp hoff
  refine ⟨rbOffset, ?_⟩
  obtain ⟨hentry, -, -⟩ := (get_eq_some_iff _ _ _ _).mp hget
  rw [← hentry]
  simp only [handlePrachScheduling]
  rw [if_pos hfilter, hrb]
  exact if_pos ⟨rfl, rfl⟩

lemma toSubcarrierSpacing_toNumerologyValue (scs : SubcarrierSpacing) :
    toSubcarrierSpacing (toNumerologyValue scs) = some scs := by
  cases scs <;> rfl

end ProtoRu.Prach
