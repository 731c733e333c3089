import Mathlib.Algebra.BigOperators.Group.Finset.Piecewise
import ProtoRu.UplinkTransmissionRuns

namespace ProtoRu.TransmitBursts

open EthFramePool FramePool UplinkFrames Function List

structure Collecting (κ : Type) where
  burst : List (κ × ScopedFrameBuffer)
  pools : κ → EthFramePool

section

variable {κ : Type} [DecidableEq κ]

def enqueuePending (kind : κ) (state : Collecting κ) (entry : Nat) : Option (Collecting κ) := do
  let (burst, pool) ← ((state.pools kind).pool entry).enqueuePendingInto
    (fun idx => (kind, ScopedFrameBuffer.mk entry idx)) state.burst
  return ⟨burst, update state.pools kind ((state.pools kind).setPool entry pool)⟩

def enqueueInterval (state : Collecting κ) (read : κ × FramePoolInterval) : Option (Collecting κ) :=
  read.2.entries.foldlM (enqueuePending read.1) state

def collect (reads : List (κ × FramePoolInterval)) (pools : κ → EthFramePool) :
    Option (Collecting κ) :=
  reads.foldlM enqueueInterval ⟨[], pools⟩

/-- The burst stays within its capacity, and a frame that is not part of it stays pending. -/
def WithinCapacity (reads : List (κ × FramePoolInterval)) (pools : κ → EthFramePool) :
    Prop :=
  ∃ final, collect reads pools = some final ∧ final.burst.length ≤ maxTxBurstSize ∧
    ∀ kind handle, (pools kind).IsPending handle →
      (kind, handle) ∈ final.burst ∨ (final.pools kind).IsPending handle

/-- The completed frames in the ring entries of an interval. -/
def nofPending (frames : EthFramePool) (interval : FramePoolInterval) : Nat :=
  ∑ entry ∈ interval.entries.toFinset, (frames.pool entry).pendingList.length

def drainPending (kind : κ) (state : Collecting κ) (entry : Nat) : Collecting κ :=
  let pending := ((state.pools kind).pool entry).enqueuePending
  ⟨state.burst ++ pending.1.map fun idx => (kind, ScopedFrameBuffer.mk entry idx),
    update state.pools kind ((state.pools kind).setPool entry pending.2)⟩

def drainInterval (state : Collecting κ) (read : κ × FramePoolInterval) : Collecting κ :=
  read.2.entries.foldl (drainPending read.1) state

end

inductive OduFramePoolKind where
  | dlCp
  | ulCp
  | dlUp
  deriving DecidableEq

/-- The transmit windows of the O-DU, in symbols ahead of the OTA symbol. -/
structure TxWindowTimingParameters where
  symCpDlStart : Nat
  symCpDlEnd : Nat
  symCpUlStart : Nat
  symCpUlEnd : Nat
  symUpDlStart : Nat
  symUpDlEnd : Nat

def ruReads (config : RuMessageTransmitterConfig) (symbolPoint : SlotSymbolPoint) :
    List (FramePoolKind × FramePoolInterval) :=
  [(.uplinkUplane, dueInterval config symbolPoint), (.prach, dueInterval config symbolPoint)]

def oduReads (timingParams : TxWindowTimingParameters) (symbolPoint : SlotSymbolPoint) :
    List (OduFramePoolKind × FramePoolInterval) :=
  [(.dlCp, ⟨symbolPoint.add timingParams.symCpDlEnd, symbolPoint.add timingParams.symCpDlStart⟩),
    (.ulCp, ⟨symbolPoint.add timingParams.symCpUlEnd, symbolPoint.add timingParams.symCpUlStart⟩),
    (.dlUp, ⟨symbolPoint.add timingParams.symUpDlEnd, symbolPoint.add timingParams.symUpDlStart⟩)]

section

variable {κ : Type} [DecidableEq κ]

variable {state : Collecting κ} (kind : κ) (entry : Nat)

lemma enqueuePending_eq (hburst : state.burst.length ≤ maxTxBurstSize) :
    enqueuePending kind state entry =
      if (drainPending kind state entry).burst.length ≤ maxTxBurstSize then
        some (drainPending kind state entry)
      else none := by
  have heq := FrameBufferPool.enqueuePendingInto_eq ((state.pools kind).pool entry)
    (fun idx => (kind, ScopedFrameBuffer.mk entry idx)) hburst
  by_cases hfits : (drainPending kind state entry).burst.length ≤ maxTxBurstSize
  · rw [if_pos hfits, enqueuePending, heq.trans (if_pos hfits)]
    rfl
  · rw [if_neg hfits, enqueuePending, heq.trans (if_neg hfits)]
    rfl

lemma length_le_drainPending (state : Collecting κ) (entry : Nat) :
    state.burst.length ≤ (drainPending kind state entry).burst.length := by
  rw [drainPending, length_append]
  exact Nat.le_add_right _ _

lemma length_le_drainInterval (state : Collecting κ) (read : κ × FramePoolInterval) :
    state.burst.length ≤ (drainInterval state read).burst.length :=
  foldlRecOn (motive := fun drained : Collecting κ => state.burst.length ≤ drained.burst.length) _ _
    le_rfl fun _ hle entry _ => hle.trans (length_le_drainPending _ _ entry)

lemma enqueueInterval_eq (read : κ × FramePoolInterval)
    (hburst : state.burst.length ≤ maxTxBurstSize) :
    enqueueInterval state read =
      if (drainInterval state read).burst.length ≤ maxTxBurstSize then
        some (drainInterval state read)
      else none :=
  foldlM_capped (fun drained : Collecting κ => drained.burst.length) (length_le_drainPending read.1)
    (fun _ entry hdrained => enqueuePending_eq read.1 entry hdrained) _ hburst

lemma collect_eq (reads : List (κ × FramePoolInterval)) (pools : κ → EthFramePool) :
    collect reads pools =
      if (reads.foldl drainInterval ⟨[], pools⟩).burst.length ≤ maxTxBurstSize then
        some (reads.foldl drainInterval ⟨[], pools⟩)
      else none :=
  foldlM_capped (fun drained : Collecting κ => drained.burst.length) length_le_drainInterval
    (fun _ read hdrained => enqueueInterval_eq read hdrained) reads (Nat.zero_le _)

def KeepsPending (pools : κ → EthFramePool) (state : Collecting κ) : Prop :=
  ∀ kind handle, (pools kind).IsPending handle →
    (kind, handle) ∈ state.burst ∨ (state.pools kind).IsPending handle

section

variable {pools : κ → EthFramePool} (hstate : KeepsPending pools state)

include hstate

lemma KeepsPending.drainPending : KeepsPending pools (drainPending kind state entry) := by
  rintro kind' ⟨entry', index⟩ hpend
  obtain hburst | hkept := hstate kind' ⟨entry', index⟩ hpend
  · exact Or.inl (mem_append_left _ hburst)
  simp only [TransmitBursts.drainPending, IsPending] at hkept ⊢
  obtain rfl | hkind := eq_or_ne kind' kind
  · obtain rfl | hentry := eq_or_ne entry' entry
    · left
      apply mem_append_right
      exact mem_map.mpr ⟨index, hkept, rfl⟩
    · right
      rwa [update_self, setPool_pool, update_of_ne hentry]
  · right
    rwa [update_of_ne hkind]

lemma KeepsPending.drainInterval (read : κ × FramePoolInterval) :
    KeepsPending pools (drainInterval state read) :=
  foldlRecOn _ _ hstate fun _ hdrained entry _ => hdrained.drainPending read.1 entry

end

lemma withinCapacity_iff_length_le (reads : List (κ × FramePoolInterval))
    (pools : κ → EthFramePool) : WithinCapacity reads pools ↔
      (reads.foldl drainInterval ⟨[], pools⟩).burst.length ≤ maxTxBurstSize := by
  rw [WithinCapacity, collect_eq]
  constructor
  · rintro ⟨final, hcollect, -⟩
    by_contra hfull
    rw [if_neg hfull] at hcollect
    cases hcollect
  · intro hfits
    have hkept : KeepsPending pools (reads.foldl drainInterval ⟨[], pools⟩) :=
      foldlRecOn reads drainInterval (fun _ _ hpend => Or.inr hpend)
        fun _ hdrained read _ => hdrained.drainInterval read
    exact ⟨_, if_pos hfits, hfits, hkept⟩

end

section

variable {κ : Type} [DecidableEq κ]

lemma drainInterval_eq (state : Collecting κ) (read : κ × FramePoolInterval) :
    drainInterval state read =
      ⟨state.burst ++ ((state.pools read.1).enqueuePendingIntoBurst read.2).1.map (Prod.mk read.1),
        update state.pools read.1 ((state.pools read.1).enqueuePendingIntoBurst read.2).2⟩ := by
  obtain ⟨kind, interval⟩ := read
  have key (entries : List Nat) (burst : List ScopedFrameBuffer) (frames : EthFramePool) :
      entries.foldl (drainPending kind)
          ⟨state.burst ++ burst.map (Prod.mk kind), update state.pools kind frames⟩ =
        ⟨state.burst ++ (entries.foldl enqueuePendingOf (burst, frames)).1.map (Prod.mk kind),
          update state.pools kind (entries.foldl enqueuePendingOf (burst, frames)).2⟩ := by
    induction entries generalizing burst frames with
    | nil => rfl
    | cons entry rest ih =>
      rw [foldl_cons, foldl_cons, enqueuePendingOf, ← ih]
      simp only [drainPending, update_self, update_idem, map_append, map_map, append_assoc]
      rfl
  have hstart := key interval.entries [] (state.pools kind)
  rw [map_nil, append_nil, update_eq_self] at hstart
  exact hstart

lemma length_foldl_enqueuePendingOf (entries : List Nat) (burst : List ScopedFrameBuffer)
    (frames : EthFramePool) : (entries.foldl enqueuePendingOf (burst, frames)).1.length =
      burst.length + ∑ entry ∈ entries.toFinset, (frames.pool entry).pendingList.length := by
  induction entries generalizing burst frames with
  | nil => simp
  | cons head rest ih =>
    have hdrained : (fun entry => ((frames.setPool head
        (frames.pool head).enqueuePending.2).pool entry).pendingList.length) =
          update (fun entry => (frames.pool entry).pendingList.length) head 0 := by
      funext entry
      rw [setPool_pool]
      obtain rfl | hne := eq_or_ne entry head
      · rw [update_self, update_self]
        rfl
      · rw [update_of_ne hne, update_of_ne hne]
    rw [foldl_cons, enqueuePendingOf, ih, hdrained, toFinset_cons, length_append, length_map]
    change burst.length + (frames.pool head).pendingList.length + _ = _
    by_cases hmem : head ∈ rest.toFinset
    · rw [Finset.sum_update_of_mem hmem, Finset.insert_eq_of_mem hmem, zero_add, add_assoc,
        Finset.sum_eq_add_sum_sdiff_singleton_of_mem hmem
          fun entry => (frames.pool entry).pendingList.length]
    · rw [Finset.sum_update_of_notMem hmem, Finset.sum_insert hmem, add_assoc]

lemma length_enqueuePendingIntoBurst (frames : EthFramePool) (interval : FramePoolInterval) :
    (frames.enqueuePendingIntoBurst interval).1.length = nofPending frames interval := by
  rw [enqueuePendingIntoBurst, length_foldl_enqueuePendingOf, length_nil, zero_add]
  rfl

variable (reads : List (κ × FramePoolInterval)) (hreads : (reads.map Prod.fst).Nodup)

include hreads

lemma length_foldl_drainInterval (state : Collecting κ) :
    (reads.foldl drainInterval state).burst.length = state.burst.length +
        (reads.map fun read => nofPending (state.pools read.1) read.2).sum := by
  induction reads generalizing state with
  | nil => rfl
  | cons read rest ih =>
    obtain ⟨hnew, hrest⟩ := nodup_cons.mp hreads
    have hpools : (rest.map fun later => nofPending ((drainInterval state read).pools later.1)
        later.2) = rest.map fun later => nofPending (state.pools later.1) later.2 := by
      apply map_congr_left
      intro later hlater
      have hne : later.1 ≠ read.1 := by
        intro heq
        exact hnew (mem_map.mpr ⟨later, hlater, heq⟩)
      rw [drainInterval_eq]
      dsimp only
      rw [update_of_ne hne]
    rw [foldl_cons, ih hrest, hpools, drainInterval_eq, length_append,
      length_map, length_enqueuePendingIntoBurst, map_cons, sum_cons,
      Nat.add_assoc]

lemma withinCapacity_iff_sum_le (pools : κ → EthFramePool) : WithinCapacity reads pools ↔
      (reads.map fun read => nofPending (pools read.1) read.2).sum ≤ maxTxBurstSize := by
  rw [withinCapacity_iff_length_le, length_foldl_drainInterval reads hreads, length_nil,
    Nat.zero_add]

end

/-- Both transmitters stay within the capacity of a burst exactly when their windows hold no more
completed frames. -/
theorem withinCapacity_iff_nofPending_le (config : RuMessageTransmitterConfig)
    (ruPools : FramePoolKind → EthFramePool) (timingParams : TxWindowTimingParameters)
    (oduPools : OduFramePoolKind → EthFramePool) (symbolPoint : SlotSymbolPoint) :
    (WithinCapacity (ruReads config symbolPoint) ruPools ↔
      nofPending (ruPools .uplinkUplane) (dueInterval config symbolPoint) +
        nofPending (ruPools .prach) (dueInterval config symbolPoint) ≤ maxTxBurstSize) ∧
    (WithinCapacity (oduReads timingParams symbolPoint) oduPools ↔
      nofPending (oduPools .dlCp) ⟨symbolPoint.add timingParams.symCpDlEnd,
          symbolPoint.add timingParams.symCpDlStart⟩ +
        nofPending (oduPools .ulCp) ⟨symbolPoint.add timingParams.symCpUlEnd,
          symbolPoint.add timingParams.symCpUlStart⟩ +
        nofPending (oduPools .dlUp) ⟨symbolPoint.add timingParams.symUpDlEnd,
          symbolPoint.add timingParams.symUpDlStart⟩ ≤ maxTxBurstSize) := by
  constructor
  · rw [withinCapacity_iff_sum_le _ (by simp [ruReads])]
    simp [ruReads]
  · rw [withinCapacity_iff_sum_le _ (by simp [oduReads])]
    simp [oduReads, add_assoc]

def ruEmulatorWindow : RuMessageTransmitterConfig := { defaultWindow with numOfFrames := 2 }

def fullPool (numOfFrames : Nat) : EthFramePool :=
  ⟨fun entry =>
    { (EthFramePool.new numOfFrames).pool entry with
      entries := fun _ => ⟨.pending, minEthFrameLength, SlotSymbolPoint.ofSlot ⟨1, 0⟩ 0 14⟩
      freeList := []
      pendingList := ((EthFramePool.new numOfFrames).pool entry).freeList }⟩

lemma fullPool_consistent (numOfFrames : Nat) : (fullPool numOfFrames).Consistent := by
  constructor
  intro entry
  have hnew := (EthFramePool.consistent_new numOfFrames).pool_consistent entry
  constructor
  · exact nodup_nil
  · exact hnew.freeList_nodup
  · rintro idx ⟨⟩
  · exact hnew.freeList_lt
  · rintro idx ⟨⟩
  · intro idx _
    rfl

/-- Six symbols are due, each with 32 uplink and 32 PRACH buffers. -/
theorem ruEmulatorWindow_not_withinCapacity : (fullPool ruEmulatorWindow.numOfFrames).Consistent ∧
      ¬ WithinCapacity (ruReads ruEmulatorWindow (otaSymbolPoint ruEmulatorWindow 100))
        (fun _ => fullPool ruEmulatorWindow.numOfFrames) := by
  refine ⟨fullPool_consistent _, ?_⟩
  rw [withinCapacity_iff_sum_le _ (by simp [ruReads])]
  decide

end ProtoRu.TransmitBursts
