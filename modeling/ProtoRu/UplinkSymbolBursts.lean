import ProtoRu.EthernetFramePool
import ProtoRu.UplaneSymbolRoundTrip

namespace ProtoRu.UplinkFrames

open Uplane List

structure BurstProgress where
  written : List ScopedFrameBuffer
  frames : EthFramePool

section

variable (config : DataFlowUplaneConfig)

def usedSize (fragment : Fragment) : Nat :=
  config.headersSize + fragment.nofPrbs * getCompressedPrbSize config.comprParams

def writeFragment (progress : BurstProgress) (handle : ScopedFrameBuffer)
    (reserved : EthFramePool) (fragment : Fragment) : BurstProgress :=
  ⟨progress.written ++ [handle],
    (reserved.setSize handle (usedSize config fragment)).release handle⟩

/-- At most `rounds` rounds of a symbol's fragment loop, and whether the burst goes on after it:
it ends without a free buffer. None when the loop needs more or the compressor stops. -/
def enqueueFragmentFrames (symbolPoint : SlotSymbolPoint) :
    Nat → OfhUplaneFragmentSizeCalculator → BurstProgress → Option (BurstProgress × Bool)
  | 0, _, _ => none
  | rounds + 1, calculator, progress =>
    match progress.frames.reserve symbolPoint with
    | none => some (progress, false)
    | some (handle, reserved) =>
      let (fragment, next) := calculator.calculateFragmentSize config.frameSize
      if fragment.nofPrbs = 0 then
        -- The buffer is skipped, and goes back to the pool without a size.
        let skipped := { progress with frames := reserved.release handle }
        if fragment.isLast then some (skipped, true)
        else enqueueFragmentFrames symbolPoint rounds next skipped
      else if isImplemented config.comprParams.type then
        let progress := writeFragment config progress handle reserved fragment
        if fragment.isLast then some (progress, true)
        else enqueueFragmentFrames symbolPoint rounds next progress
      else none

def symbolPointAt (slot : SlotPoint) (symbolId : Nat) : SlotSymbolPoint :=
  .ofSlot slot symbolId (getNsymbPerSlot config.cp)

/-- The loop over the symbols of a burst. The symbol point asserts its symbol. -/
def enqueueSymbolFrames (slot : SlotPoint) : Nat → Nat → BurstProgress → Option BurstProgress
  | 0, _, progress => some progress
  | remaining + 1, symbolId, progress =>
    if getNsymbPerSlot config.cp ≤ symbolId then none
    else
      (enqueueFragmentFrames config (symbolPointAt config slot symbolId) config.ruNofPrbs
        (.new 0 config.ruNofPrbs config.comprParams) progress).bind fun outcome =>
          if outcome.2 then enqueueSymbolFrames slot remaining (symbolId + 1) outcome.1
          else some outcome.1

def enqueueSectionType1MessageSymbolBurst (slot : SlotPoint) (symbolRange : OfdmSymbolRange)
    (frames : EthFramePool) : Option BurstProgress :=
  enqueueSymbolFrames config slot (symbolRange.stop - symbolRange.start) symbolRange.start
    ⟨[], frames⟩

lemma nofPrbs_pos_of_lt {startPrb : Nat} (hstart : startPrb < config.ruNofPrbs) :
    0 < ((calculatorAt config startPrb).calculateFragmentSize config.frameSize).1.nofPrbs := by
  rw [calculateFragmentSize_calculatorAt]
  split
  · dsimp only
    omega
  · exact config.nofPrbsFitInFrame_pos

variable {progress : BurstProgress} {symbolPoint : SlotSymbolPoint} {rounds : Nat}
  {outcome : BurstProgress × Bool} {calculator : OfhUplaneFragmentSizeCalculator}

lemma written_subset_enqueueFragmentFrames
    (h : enqueueFragmentFrames config symbolPoint rounds calculator progress = some outcome) :
    progress.written ⊆ outcome.1.written := by
  induction rounds generalizing calculator progress with
  | zero => cases h
  | succ rounds ih =>
    rw [enqueueFragmentFrames] at h
    split at h
    · cases h
      exact List.Subset.refl _
    dsimp only at h
    split at h
    · split at h
      · cases h
        exact List.Subset.refl _
      · exact fun _ hmem => ih h hmem
    · split at h
      · split at h
        · cases h
          exact subset_append_left _ _
        · exact List.Subset.trans (subset_append_left _ _) (ih h)
      · cases h

/-- A loop that is not ended by the pool writes one frame for each fragment of the symbol. -/
lemma exists_fragments_of_enqueueFragmentFrames {after : BurstProgress}
    (h : enqueueFragmentFrames config symbolPoint rounds calculator progress = some (after, true)) :
    ∃ fragments : List Fragment,
      after.written.length = progress.written.length + fragments.length ∧
        fragmentLoop some config.frameSize fragments.length calculator = some fragments := by
  induction rounds generalizing calculator progress with
  | zero => cases h
  | succ rounds ih =>
    rw [enqueueFragmentFrames] at h
    split at h
    · cases h
    dsimp only at h
    split at h
    · rename_i hnone
      split at h
      · cases h
        exact ⟨[], rfl, rfl⟩
      rename_i hmore
      rw [calculator.calculateFragmentSize_stays hnone hmore] at h
      obtain ⟨fragments, hlength, hloop⟩ := ih h
      exact ⟨fragments, hlength, hloop⟩
    rename_i hsome
    split at h
    · split at h
      · rename_i hlast
        cases h
        refine ⟨[(calculator.calculateFragmentSize config.frameSize).1], ?_, ?_⟩
        · simp [writeFragment]
        · simp [fragmentLoop, hsome, hlast]
      · rename_i hmore
        obtain ⟨fragments, hlength, hrest⟩ := ih h
        refine ⟨(calculator.calculateFragmentSize config.frameSize).1 :: fragments, ?_, ?_⟩
        · rw [hlength, length_cons, writeFragment, length_append, length_singleton]
          omega
        · simp [fragmentLoop, hsome, hmore, hrest]
    · cases h

lemma written_subset_enqueueSymbolFrames {slot : SlotPoint} {remaining symbolId : Nat}
    {outcome : BurstProgress}
    (h : enqueueSymbolFrames config slot remaining symbolId progress = some outcome) :
    progress.written ⊆ outcome.written := by
  induction remaining generalizing symbolId progress with
  | zero =>
    cases h
    exact List.Subset.refl _
  | succ remaining ih =>
    rw [enqueueSymbolFrames] at h
    split at h
    · cases h
    obtain ⟨middle, hmiddle, h⟩ := Option.bind_eq_some_iff.mp h
    have hsubset := written_subset_enqueueFragmentFrames config hmiddle
    split at h
    · exact List.Subset.trans hsubset (ih h)
    · cases h
      exact hsubset

lemma mem_written_enqueueFragmentFrames {handle : ScopedFrameBuffer} {reserved : EthFramePool}
    (hresv : progress.frames.reserve symbolPoint = some (handle, reserved))
    (h : enqueueFragmentFrames config symbolPoint rounds (.new 0 config.ruNofPrbs
      config.comprParams) progress = some outcome) : handle ∈ outcome.1.written := by
  have hpos := nofPrbs_pos_of_lt config config.ruNofPrbs_pos
  obtain _ | rounds := rounds
  · cases h
  change enqueueFragmentFrames config symbolPoint _ (calculatorAt config 0) progress = _ at h
  rw [enqueueFragmentFrames, hresv] at h
  dsimp only at h
  rw [if_neg hpos.ne'] at h
  have hmem (fragment : Fragment) :
      handle ∈ (writeFragment config progress handle reserved fragment).written :=
    mem_append_right _ (mem_singleton_self _)
  split at h
  · split at h
    · cases h
      exact hmem _
    · exact written_subset_enqueueFragmentFrames config h (hmem _)
  · cases h

/-- A burst leaves the pool alone exactly when it has no symbol, or no buffer for its
first one. -/
lemma enqueueSymbolBurst_eq_nil_iff (slot : SlotPoint) (symbolRange : OfdmSymbolRange)
    (frames : EthFramePool) :
    enqueueSectionType1MessageSymbolBurst config slot symbolRange frames = some ⟨[], frames⟩ ↔
      symbolRange.start = symbolRange.stop ∨ symbolRange.start < getNsymbPerSlot config.cp ∧
          frames.reserve (symbolPointAt config slot symbolRange.start) = none := by
  obtain ⟨start, stop, hle⟩ := symbolRange
  obtain ⟨nofSymbols, rfl⟩ := Nat.exists_eq_add_of_le hle
  simp only [enqueueSectionType1MessageSymbolBurst]
  rw [Nat.add_sub_cancel_left]
  obtain _ | remaining := nofSymbols
  · simp [enqueueSymbolFrames]
  have hne : start ≠ start + (remaining + 1) := by omega
  rw [enqueueSymbolFrames]
  simp only [hne, false_or]
  obtain ⟨rounds, hrounds⟩ := Nat.exists_eq_add_of_le' config.ruNofPrbs_pos
  constructor
  · intro h
    split at h
    · cases h
    rename_i hsym
    refine ⟨not_le.mp hsym, ?_⟩
    obtain ⟨outcome, houtcome, h⟩ := Option.bind_eq_some_iff.mp h
    rcases hresv : frames.reserve (symbolPointAt config slot start) with _ | reserved
    · rfl
    exfalso
    have hwrit := mem_written_enqueueFragmentFrames config hresv houtcome
    split at h
    · have hlater := written_subset_enqueueSymbolFrames config h hwrit
      exact not_mem_nil hlater
    · rw [Option.some.inj h] at hwrit
      exact not_mem_nil hwrit
  · rintro ⟨hsym, hresv⟩
    rw [if_neg (not_le.mpr hsym), hrounds, enqueueFragmentFrames, hresv]
    rfl

end

end ProtoRu.UplinkFrames
