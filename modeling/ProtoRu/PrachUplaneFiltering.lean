import ProtoRu.PrachIqLoop

namespace ProtoRu.Prach

open List

def isAPrachMessage (filterIndex : FilterIndexType) : Bool :=
  FilterIndexType.ulPrachPreamble1p25khz.toValue ≤ filterIndex.toValue &&
    filterIndex.toValue ≤ FilterIndexType.ulPrachPreambleShort30kHz.toValue

/-- What is stored for a slot and an eAxC. The slot itself is not. -/
structure UlCplaneContext where
  filterIndex : FilterIndexType
  startSymbol : Nat
  prbStart : Nat
  nofPrb : Nat
  nofSymbols : Nat

structure DecodedSection (Re : Type) extends UplaneSection Re where
  isEveryRbUsed : Bool
  useCurrentSymbolNumber : Bool

/-- A decoded message; the decoder rejects symbols that no slot has. -/
structure UplaneMessage (Re : Type) where
  filterIndex : FilterIndexType
  symbolId : Nat
  sections : List (DecodedSection Re)
  symbolId_lt : symbolId < maxNsymbPerSlot

structure PrachFlowConfig where
  isPrachCplaneEnabled : Bool
  ignorePrachStartSymbol : Bool
  prachEaxc : EaxcList

variable (config : PrachFlowConfig)

section

variable {Re : Type}

def isSymbolIndexInCplaneValid (context : UlCplaneContext) (startSymbol : Nat) : Bool :=
  context.startSymbol ≤ startSymbol && startSymbol < context.startSymbol + context.nofSymbols

/-- Some RUs set the symbol of long preambles to zero whatever the Control-Plane says. -/
def isStartSymbolValid (config : PrachFlowConfig) (context : UlCplaneContext)
    (startSymbol : Nat) : Bool :=
  if config.ignorePrachStartSymbol && context.filterIndex = .ulPrachPreamble1p25khz then
    let startSymbol :=
      if context.startSymbol ≤ startSymbol then startSymbol - context.startSymbol else startSymbol
    startSymbol < context.nofSymbols
  else isSymbolIndexInCplaneValid context startSymbol

lemma isStartSymbolValid_iff (context : UlCplaneContext) (startSymbol : Nat) :
    isStartSymbolValid config context startSymbol ↔ (context.startSymbol ≤ startSymbol ∧
        startSymbol < context.startSymbol + context.nofSymbols) ∨
      (startSymbol < context.startSymbol ∧ config.ignorePrachStartSymbol ∧
        context.filterIndex = .ulPrachPreamble1p25khz ∧ startSymbol < context.nofSymbols) := by
  rw [isStartSymbolValid, isSymbolIndexInCplaneValid]
  obtain hbefore | hafter := lt_or_ge startSymbol context.startSymbol
  · rw [if_neg hbefore.not_ge]
    split <;> simp_all
  · rw [if_pos hafter]
    split
    · simp only [decide_eq_true_eq, hafter.not_gt, false_and, or_false, hafter, true_and]
      omega
    · simp [hafter]

def isUplanePrbFieldValid (context : UlCplaneContext) (received : DecodedSection Re) : Bool :=
  received.startPrb ≤ maxNofPrbs - 1 && received.startPrb + received.nofPrbs ≤ maxNofPrbs &&
    received.isEveryRbUsed && received.useCurrentSymbolNumber &&
    (context.prbStart ≤ received.startPrb &&
      received.startPrb + received.nofPrbs ≤ context.prbStart + context.nofPrb)

def areUplanePrbFieldsValid (context : UlCplaneContext) (message : UplaneMessage Re) : Bool :=
  message.sections.all (isUplanePrbFieldValid context)

def matchesCplane (config : PrachFlowConfig) (context : UlCplaneContext)
    (message : UplaneMessage Re) : Bool :=
  message.filterIndex = context.filterIndex && isStartSymbolValid config context message.symbolId &&
    areUplanePrbFieldsValid context message

def shouldUplanePacketBeFiltered (config : PrachFlowConfig) (context : UlCplaneContext)
    (message : UplaneMessage Re) : Bool :=
  if !isAPrachMessage message.filterIndex then true
  else if !config.isPrachCplaneEnabled then false
  else !matchesCplane config context message

lemma not_filtered_iff (context : UlCplaneContext) (message : UplaneMessage Re) :
    ¬shouldUplanePacketBeFiltered config context message ↔ isAPrachMessage message.filterIndex ∧
        (config.isPrachCplaneEnabled → matchesCplane config context message) := by
  rw [shouldUplanePacketBeFiltered]
  cases isAPrachMessage message.filterIndex <;> cases config.isPrachCplaneEnabled <;> simp

end

section

variable {Re : Type} (context : PrachContext Re)

def isCopied (received : UplaneSection Re) : Bool :=
  (sectionWindow context.prachNofRe context.prachOffsetToFirstRe received.startPrb
    received.nofPrbs).isSome

/-- The symbol indices that a decoded message updates the buffer and its statistics at. -/
def writtenSymbols (config : PrachFlowConfig) (cplane : UlCplaneContext) (eaxc : Nat)
    (message : UplaneMessage Re) : List Nat :=
  if shouldUplanePacketBeFiltered config cplane message then []
  else if context.maxNofPorts ≤ config.prachEaxc.values.idxOf eaxc then []
  else (message.sections.filter fun received => isCopied context received.toUplaneSection).map
    fun _ => context.bufferSymbol message.symbolId

end

def requestedContext (occasion : PrachBufferContext) : UlCplaneContext :=
  let request := handlePrachOccasion occasion
  ⟨request.filterType, request.startSymbol, 0, request.prachNofRb, request.nofRepetitions⟩

/-- The symbol is one of the occasion's. For a long preamble it may also be counted from zero. -/
def InOccasion (occasion : PrachBufferContext) (symbolId : Nat) : Prop :=
  if occasion.prachStartSymbol ≤ symbolId then
    symbolId < occasion.prachStartSymbol + occasion.preambleInfo.nofSymbols
  else isLongPreamble occasion.format ∧ symbolId < occasion.preambleInfo.nofSymbols

variable {config : PrachFlowConfig}

section

variable {Re : Type} {occasion : PrachBufferContext} {maxNofPorts nofTdOccasions : Nat}
  {context : PrachContext Re}

lemma bufferSymbol_lt_iff (hfor : IsFor occasion maxNofPorts nofTdOccasions context)
    {symbolId : Nat} (hsym : symbolId < maxNsymbPerSlot) :
    context.bufferSymbol symbolId < occasion.preambleInfo.nofSymbols ↔
      InOccasion occasion symbolId := by
  have hnof : occasion.preambleInfo.nofSymbols < 2 ^ 4 :=
    (preambleInformation_bounds occasion.format occasion.puschScs).1
  have hstart := prachStartSymbol_lt occasion
  have hmax : maxNsymbPerSlot = 14 := rfl
  rw [PrachContext.bufferSymbol, InOccasion, hfor.format_eq, hfor.startSymbol_eq]
  obtain hbefore | hafter := lt_or_ge symbolId occasion.prachStartSymbol
  · rw [if_neg hbefore.not_ge, if_neg hbefore.not_ge]
    obtain _ | _ := isLongPreamble occasion.format
    · simp only [Bool.false_eq_true, if_false, false_and, iff_false]
      omega
    · simp
  · split <;> omega

lemma isLongPreamble_of_filterIndex
    (h : occasion.prachCplaneFilterIndex = .ulPrachPreamble1p25khz) :
    isLongPreamble occasion.format := by
  simp only [PrachBufferContext.prachCplaneFilterIndex] at h
  split at h
  · contradiction
  split at h
  · assumption
  · split at h
    · split at h <;> contradiction
    · contradiction

lemma inOccasion_of_matchesCplane {message : UplaneMessage Re}
    (hmatch : matchesCplane config (requestedContext occasion) message) :
    InOccasion occasion message.symbolId := by
  simp only [matchesCplane, Bool.and_eq_true] at hmatch
  obtain ⟨⟨-, hvalid⟩, -⟩ := hmatch
  rw [isStartSymbolValid_iff] at hvalid
  obtain ⟨hafter, hlt⟩ | ⟨hbefore, -, hfilter, hlt⟩ := hvalid
  · exact (if_pos hafter).mpr hlt
  · exact (if_neg hbefore.not_ge).mpr ⟨isLongPreamble_of_filterIndex hfilter, hlt⟩

/-- The index is in range exactly when the message is compared with its own context, dropped, has
nothing to write, or happens to match. -/
theorem writtenSymbols_inRange_iff (hfor : IsFor occasion maxNofPorts nofTdOccasions context)
    (config : PrachFlowConfig) (cplane : UlCplaneContext) (eaxc : Nat)
    (message : UplaneMessage Re) :
    (∀ symbol ∈ writtenSymbols context config cplane eaxc message,
        symbol < occasion.preambleInfo.nofSymbols) ↔
      (config.isPrachCplaneEnabled ∧
        (cplane = requestedContext occasion ∨ ¬matchesCplane config cplane message)) ∨
      ¬isAPrachMessage message.filterIndex ∨
      maxNofPorts ≤ config.prachEaxc.values.idxOf eaxc ∨
      (∀ received ∈ message.sections, ¬isCopied context received.toUplaneSection) ∨
      InOccasion occasion message.symbolId := by
  have hlt := bufferSymbol_lt_iff hfor message.symbolId_lt
  rw [writtenSymbols, hfor.maxNofPorts_eq]
  constructor
  · intro hrange
    by_contra hnot
    push Not at hnot
    obtain ⟨hcplane, hprach, hport, ⟨received, hmem, hcopied⟩, houtside⟩ := hnot
    have haccepted : ¬shouldUplanePacketBeFiltered config cplane message :=
      (not_filtered_iff config cplane message).mpr ⟨hprach, fun henabled => (hcplane henabled).2⟩
    rw [if_neg haccepted, if_neg hport.not_ge] at hrange
    apply houtside
    rw [← hlt]
    apply hrange
    exact mem_map.mpr ⟨received, mem_filter.mpr ⟨hmem, hcopied⟩, rfl⟩
  · intro hcondition symbol hsymbol
    split at hsymbol
    case isTrue => exact absurd hsymbol not_mem_nil
    case isFalse haccepted =>
      split at hsymbol
      case isTrue => exact absurd hsymbol not_mem_nil
      case isFalse hport =>
        obtain ⟨received, hmem, rfl⟩ := mem_map.mp hsymbol
        obtain ⟨hmem, hcopied⟩ := mem_filter.mp hmem
        obtain ⟨hprach, hmatch⟩ := (not_filtered_iff config cplane message).mp haccepted
        rw [hlt]
        obtain ⟨henabled, rfl | hother⟩ | hnot | hbeyond | hnone | hinside := hcondition
        · exact inOccasion_of_matchesCplane (hmatch henabled)
        · exact absurd (hmatch henabled) hother
        · contradiction
        · omega
        · exact absurd hcopied (hnone received hmem)
        · exact hinside

lemma firstSlot_numerology : (⟨1, 0⟩ : SlotPoint).numerology = toNumerologyValue .kHz30 := rfl

def shortOccasion : PrachBufferContext where
  slot := ⟨1, 0⟩
  format := .a1
  puschScs := .kHz30
  rbOffset := 0
  startSymbol := 4
  numerology_eq := firstSlot_numerology
  startSymbol_lt := by decide

def shortContext : PrachContext Unit :=
  PrachContext.new shortOccasion 1 1 fun _ _ _ _ => ()

def prachFlow (isPrachCplaneEnabled : Bool) : PrachFlowConfig :=
  ⟨isPrachCplaneEnabled, false, oneEaxc⟩

def symbolMessage (symbolId : Nat) (hsymbol : symbolId < maxNsymbPerSlot) : UplaneMessage Unit :=
  ⟨.ulPrachPreambleShort, symbolId, [⟨⟨0, 12, replicate 144 ()⟩, true, true⟩], hsymbol⟩

theorem enabled_writtenSymbols_inRange : IsFor shortOccasion 1 1 shortContext ∧
      ∀ symbol ∈ writtenSymbols shortContext (prachFlow true) (requestedContext shortOccasion) 0
          (symbolMessage 2 (by decide)),
        symbol < shortOccasion.preambleInfo.nofSymbols :=
  ⟨isFor_new _, (writtenSymbols_inRange_iff (isFor_new _) _ _ _ _).mpr (Or.inl ⟨rfl, Or.inl rfl⟩)⟩

/-- Without the Control-Plane, symbols before and behind the occasion are written. -/
theorem disabled_writtenSymbols_not_inRange :
    (¬∀ symbol ∈ writtenSymbols shortContext (prachFlow false) (requestedContext shortOccasion) 0
        (symbolMessage 2 (by decide)), symbol < shortOccasion.preambleInfo.nofSymbols) ∧
      ¬∀ symbol ∈ writtenSymbols shortContext (prachFlow false) (requestedContext shortOccasion) 0
        (symbolMessage 13 (by decide)), symbol < shortOccasion.preambleInfo.nofSymbols := by
  decide +kernel

end

end ProtoRu.Prach
