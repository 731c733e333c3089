import ProtoRu.PrachOccasionRequests

namespace ProtoRu.Prach

/-- A PRACH occasion the O-DU waits for, with the samples for each port, occasion and symbol and
which of them were written. -/
structure PrachContext (Re : Type) where
  format : PrachFormatType
  puschScs : SubcarrierSpacing
  startSymbol : Nat
  maxNofPorts : Nat
  nofTdOccasions : Nat
  samples : Nat → Nat → Nat → Nat → Re
  reWritten : Nat → Nat → Nat → Bool

namespace PrachContext

variable {Re : Type}

def new (occasion : PrachBufferContext) (maxNofPorts nofTdOccasions : Nat)
    (samples : Nat → Nat → Nat → Nat → Re) : PrachContext Re where
  format := occasion.format
  puschScs := occasion.puschScs
  startSymbol :=
    if isLongPreamble occasion.format then occasion.prachStartSymbol else occasion.startSymbol
  maxNofPorts := maxNofPorts
  nofTdOccasions := nofTdOccasions
  samples := samples
  reWritten := fun _ _ _ => false

variable (context : PrachContext Re)

def preambleInfo : PrachPreambleInformation :=
  preambleInformation context.format context.puschScs

def prachNofRe : Nat := context.preambleInfo.sequenceLength

def prachOffsetToFirstRe : Nat :=
  (prachFrequencyMappingGet context.preambleInfo.scs context.puschScs).kBar

/-- The index of a symbol in the buffer. Long preambles may also count from zero; for short ones
it wraps. -/
def bufferSymbol (symbolId : Nat) : Nat :=
  if isLongPreamble context.format then
    if context.startSymbol ≤ symbolId then symbolId - context.startSymbol else symbolId
  else (2 ^ 32 + symbolId - context.startSymbol) % 2 ^ 32

def copyIq (port symbol reStart : Nat) (iqBuffer : List Re) : PrachContext Re :=
  { context with
    samples := fun port' tdOccasion symbol' re =>
      if port' = port ∧ tdOccasion = context.nofTdOccasions - 1 ∧ symbol' = symbol ∧
          reStart ≤ re then
        iqBuffer[re - reStart]?.getD (context.samples port' tdOccasion symbol' re)
      else context.samples port' tdOccasion symbol' re
    reWritten := fun symbol' port' re =>
      context.reWritten symbol' port' re ||
        decide (symbol' = symbol ∧ port' = port ∧ reStart ≤ re ∧ re < reStart + iqBuffer.length) }

/-- Write samples; the symbol and the size are asserted. -/
def writeIq (port symbolId reStart : Nat) (iqBuffer : List Re) : Option (PrachContext Re) :=
  let symbol := context.bufferSymbol symbolId
  if context.preambleInfo.nofSymbols ≤ symbol then none
  else if context.maxNofPorts ≤ port then some context
  else if context.prachNofRe < reStart + iqBuffer.length then none
  else some (context.copyIq port symbol reStart iqBuffer)

lemma writeIq_eq_copyIq {port symbolId symbol reStart : Nat} {iqBuffer : List Re}
    (hsym : context.bufferSymbol symbolId = symbol)
    (hlt : symbol < context.preambleInfo.nofSymbols) (hport : port < context.maxNofPorts)
    (hfits : reStart + iqBuffer.length ≤ context.prachNofRe) :
    context.writeIq port symbolId reStart iqBuffer =
      some (context.copyIq port symbol reStart iqBuffer) := by
  simp only [writeIq]
  rw [hsym, if_neg (not_le.mpr hlt), if_neg (not_le.mpr hport),
    if_neg (not_lt.mpr hfits)]

def isComplete : Bool :=
  (List.range context.preambleInfo.nofSymbols).all fun symbol =>
    (List.range context.maxNofPorts).all fun port =>
      (List.range context.prachNofRe).all (context.reWritten symbol port)

lemma isComplete_iff : context.isComplete ↔ ∀ symbol < context.preambleInfo.nofSymbols,
      ∀ port < context.maxNofPorts, ∀ re < context.prachNofRe,
        context.reWritten symbol port re := by
  simp [isComplete]

end PrachContext

/-- The part of a section in the preamble: where it starts in the buffer and section, and its
size. -/
structure SectionWindow where
  startRe : Nat
  iqStartRe : Nat
  iqSizeRe : Nat

section

variable (prachNofRes nofReToPrachData : Nat)

/-- The PRBs that `prachNofRes` samples after `nofReToPrachData` resource elements reach into. -/
def prachNofPrbs : Nat := (prachNofRes + nofReToPrachData + 11) / nofSubcarriersPerRb

def copiedWindow (startPrb nofPrbs : Nat) : SectionWindow :=
  -- No difference wraps around, since the section ends after the first sample and starts
  -- before the last.
  let nofReAfterPrachData :=
    prachNofPrbs prachNofRes nofReToPrachData * nofSubcarriersPerRb -
      (prachNofRes + nofReToPrachData)
  let nofPrbsToWrite :=
    if startPrb + nofPrbs < prachNofPrbs prachNofRes nofReToPrachData then nofPrbs
    else prachNofPrbs prachNofRes nofReToPrachData - startPrb
  let sectionStartRe := startPrb * nofSubcarriersPerRb
  let sectionNofRe := nofPrbsToWrite * nofSubcarriersPerRb -
    if startPrb + nofPrbs ≥ prachNofPrbs prachNofRes nofReToPrachData then nofReAfterPrachData
    else 0
  let iqStartRe :=
    if sectionStartRe < nofReToPrachData then nofReToPrachData - sectionStartRe else 0
  ⟨startPrb * nofSubcarriersPerRb - nofReToPrachData, iqStartRe,
    min (sectionNofRe - iqStartRe) prachNofRes⟩

/-- Sections above the last or below the first PRB of the preamble are not copied. -/
def sectionWindow (startPrb nofPrbs : Nat) : Option SectionWindow :=
  if startPrb ≥ prachNofPrbs prachNofRes nofReToPrachData then none
  else if startPrb + nofPrbs ≤ nofReToPrachData / nofSubcarriersPerRb then none
  else some (copiedWindow prachNofRes nofReToPrachData startPrb nofPrbs)

end

structure UplaneSection (Re : Type) where
  startPrb : Nat
  nofPrbs : Nat
  iqSamples : List Re

section

variable {Re : Type}

/-- One round of the loop over the sections. `subspan` asserts the range of the samples. -/
def writeSection (port symbolId : Nat) (context : PrachContext Re)
    (received : UplaneSection Re) : Option (PrachContext Re) :=
  match sectionWindow context.prachNofRe context.prachOffsetToFirstRe received.startPrb
      received.nofPrbs with
  | none => some context
  | some window =>
    if received.iqSamples.length < window.iqStartRe + window.iqSizeRe then none
    else context.writeIq port symbolId window.startRe
      ((received.iqSamples.drop window.iqStartRe).take window.iqSizeRe)

/-- The port of an eAxC is its place in the configured list. -/
def writeToPrachBuffer (prachEaxc : EaxcList) (context : PrachContext Re)
    (eaxc symbolId : Nat) (sections : List (UplaneSection Re)) : Option (PrachContext Re) :=
  let port := prachEaxc.values.idxOf eaxc
  if context.maxNofPorts ≤ port then some context
  else sections.foldlM (writeSection port symbolId) context

end

/-- A section carries a sample when the resource element of the sample lies in its PRBs. -/
def Carries (nofReToPrachData startPrb nofPrbs re : Nat) : Prop :=
  startPrb * nofSubcarriersPerRb ≤ nofReToPrachData + re ∧
    nofReToPrachData + re < (startPrb + nofPrbs) * nofSubcarriersPerRb

lemma prachNofPrbs_bounds (prachNofRes nofReToPrachData : Nat) :
    prachNofRes + nofReToPrachData ≤ 12 * prachNofPrbs prachNofRes nofReToPrachData ∧
      12 * prachNofPrbs prachNofRes nofReToPrachData < prachNofRes + nofReToPrachData + 12 := by
  simp only [prachNofPrbs, nofSubcarriersPerRb]
  omega

variable {prachNofRes nofReToPrachData startPrb : Nat}

lemma sectionWindow_eq_none {nofPrbs re : Nat}
    (h : sectionWindow prachNofRes nofReToPrachData startPrb nofPrbs = none)
    (hre : re < prachNofRes) : ¬ Carries nofReToPrachData startPrb nofPrbs re := by
  have hbounds := prachNofPrbs_bounds prachNofRes nofReToPrachData
  simp only [Carries, nofSubcarriersPerRb]
  simp only [sectionWindow] at h
  split at h
  · omega
  split at h
  · rename_i hfirst
    simp only [nofSubcarriersPerRb] at hfirst
    omega
  · cases h

lemma copiedWindow_iqStartRe (prachNofRes nofReToPrachData startPrb nofPrbs : Nat) :
    (copiedWindow prachNofRes nofReToPrachData startPrb nofPrbs).iqStartRe =
      nofReToPrachData - startPrb * nofSubcarriersPerRb := by
  simp only [copiedWindow]
  split <;> omega

lemma copiedWindow_iqSizeRe (nofPrbs : Nat) :
    (copiedWindow prachNofRes nofReToPrachData startPrb nofPrbs).iqSizeRe =
      min (min ((startPrb + nofPrbs) * nofSubcarriersPerRb) (nofReToPrachData + prachNofRes) -
        max (startPrb * nofSubcarriersPerRb) nofReToPrachData) prachNofRes := by
  have hbounds := prachNofPrbs_bounds prachNofRes nofReToPrachData
  have hiqStart := copiedWindow_iqStartRe prachNofRes nofReToPrachData startPrb nofPrbs
  simp only [copiedWindow] at hiqStart ⊢
  rw [hiqStart]
  rcases lt_or_ge (startPrb + nofPrbs) (prachNofPrbs prachNofRes nofReToPrachData)
    with hstop | hstop
  · rw [if_pos hstop, if_neg (not_le.mpr hstop)]
    simp only [nofSubcarriersPerRb]
    omega
  · rw [if_neg (not_lt.mpr hstop), if_pos hstop]
    simp only [nofSubcarriersPerRb]
    omega

/-- The window covers the samples that the section carries, and stays inside it. -/
lemma sectionWindow_eq_some {nofPrbs : Nat} {window : SectionWindow}
    (h : sectionWindow prachNofRes nofReToPrachData startPrb nofPrbs = some window) :
    window.iqStartRe + window.iqSizeRe ≤ nofPrbs * nofSubcarriersPerRb ∧
      window.startRe + window.iqSizeRe ≤ prachNofRes ∧
      startPrb * nofSubcarriersPerRb + window.iqStartRe = nofReToPrachData + window.startRe ∧
      ∀ re, re < prachNofRes → (Carries nofReToPrachData startPrb nofPrbs re ↔
        window.startRe ≤ re ∧ re < window.startRe + window.iqSizeRe) := by
  have hbounds := prachNofPrbs_bounds prachNofRes nofReToPrachData
  simp only [sectionWindow] at h
  split at h
  · cases h
  split at h
  · cases h
  rename_i hlast hfirst
  cases h
  have hstartRe : (copiedWindow prachNofRes nofReToPrachData startPrb nofPrbs).startRe =
      startPrb * nofSubcarriersPerRb - nofReToPrachData := rfl
  rw [copiedWindow_iqSizeRe nofPrbs, copiedWindow_iqStartRe, hstartRe]
  simp only [nofSubcarriersPerRb] at hfirst
  simp only [Carries, nofSubcarriersPerRb]
  refine ⟨?_, ?_, ?_, fun _ _ => ?_⟩ <;> omega

end ProtoRu.Prach
