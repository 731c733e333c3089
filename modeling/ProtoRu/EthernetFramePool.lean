import Mathlib.Tactic.IntervalCases
import ProtoRu.FrameBuffers
import ProtoRu.MessageFields

namespace ProtoRu

open FramePool Function FrameBufferPool

def numSlots : Nat := 20

def numEntries : Nat := nofOfdmSymPerSlotNormalCp * numSlots

def poolEntryIndex (symbolPoint : SlotSymbolPoint) : Nat :=
  (symbolPoint.getSlot.slotIndex * nofOfdmSymPerSlotNormalCp + symbolPoint.getSymbolIndex) %
    numEntries

/-- Number of slots after which the ring entries repeat: the ring, or the frame if it
is shorter. -/
def ringSlots (numerology : Nat) : Nat :=
  min (nofSubframesPerFrame * 1 <<< numerology) numSlots

def ringLength (nofSymbols numerology : Nat) : Nat := nofSymbols * ringSlots numerology

variable {numerology : Nat}

lemma mod_slotsPerFrame_mod_numSlots (hnum : numerology < 5) (count : Nat) :
    count % (nofSubframesPerFrame * 1 <<< numerology) % numSlots =
      count % ringSlots numerology := by
  interval_cases numerology
  · exact Nat.mod_eq_of_lt (lt_of_lt_of_le (Nat.mod_lt _ (by decide)) (by decide))
  all_goals exact Nat.mod_mod_of_dvd count (by decide)

lemma poolEntryIndex_eq {p : SlotSymbolPoint} (hnum : p.numerology < nofNumerologies)
    (hpos : 0 < p.nofSymbols) (hle : p.nofSymbols ≤ nofOfdmSymPerSlotNormalCp) :
    poolEntryIndex p = p.count / p.nofSymbols % ringSlots p.numerology * nofOfdmSymPerSlotNormalCp +
        p.count % p.nofSymbols := by
  have hsym : p.count % p.nofSymbols < 14 := lt_of_lt_of_le (Nat.mod_lt _ hpos) hle
  have hslot := mod_slotsPerFrame_mod_numSlots hnum (p.count / p.nofSymbols)
  simp only [poolEntryIndex, SlotSymbolPoint.getSlot, SlotSymbolPoint.getSymbolIndex]
  rw [if_pos hnum, ← hslot]
  unfold SlotPoint.slotIndex SlotPoint.nofSlotsPerFrame SlotPoint.nofSlotsPerSubframe
    numEntries nofOfdmSymPerSlotNormalCp numSlots
  rw [Nat.mul_comm nofSubframesPerFrame]
  generalize p.count / p.nofSymbols % (1 <<< p.numerology * nofSubframesPerFrame) = slot
  omega

lemma poolEntryIndex_eq_iff {nofSymbols : Nat} (hnum : numerology < nofNumerologies)
    (hpos : 0 < nofSymbols) (hle : nofSymbols ≤ nofOfdmSymPerSlotNormalCp) (count other : Nat) :
    poolEntryIndex ⟨nofSymbols, numerology, count⟩ =
        poolEntryIndex ⟨nofSymbols, numerology, other⟩ ↔
      count % ringLength nofSymbols numerology = other % ringLength nofSymbols numerology := by
  have hcount : count % nofSymbols < 14 := lt_of_lt_of_le (Nat.mod_lt _ hpos) hle
  have hother : other % nofSymbols < 14 := lt_of_lt_of_le (Nat.mod_lt _ hpos) hle
  rw [poolEntryIndex_eq hnum hpos hle, poolEntryIndex_eq hnum hpos hle]
  simp only [ringLength, nofOfdmSymPerSlotNormalCp]
  rw [Nat.mod_mul, Nat.mod_mul]
  constructor
  · intro h
    have hslot : count / nofSymbols % ringSlots numerology =
        other / nofSymbols % ringSlots numerology := by omega
    have hsym : count % nofSymbols = other % nofSymbols := by omega
    rw [hslot, hsym]
  · intro h
    have hsym : count % nofSymbols = other % nofSymbols := by
      simpa using (congrArg (· % nofSymbols) h)
    have hslot : count / nofSymbols % ringSlots numerology =
        other / nofSymbols % ringSlots numerology := by
      apply Nat.eq_of_mul_eq_mul_left hpos
      omega
    rw [hslot, hsym]

lemma ringSlots_dvd (hnum : numerology < nofNumerologies) :
    ringSlots numerology ∣ nofSubframesPerFrame * 1 <<< numerology := by
  simp only [nofNumerologies] at hnum
  interval_cases numerology <;> decide

structure EthFramePool where
  pool : Nat → FrameBufferPool

structure ScopedFrameBuffer where
  entry : Nat
  index : Nat
  deriving DecidableEq

structure FramePoolInterval where
  start : SlotSymbolPoint
  stop : SlotSymbolPoint

def FramePoolInterval.entries (interval : FramePoolInterval) : List Nat :=
  if interval.start.gt interval.stop then []
  else (List.range (interval.stop.distance interval.start + 1).toNat).map fun (i : Nat) =>
    poolEntryIndex (interval.start.add i)

namespace EthFramePool

def new (numOfFrames : Nat) : EthFramePool :=
  ⟨fun _ => FrameBufferPool.new (numOfFrames * maxNofSupportedEaxc * 2)⟩

def setPool (frames : EthFramePool) (entry : Nat) (pool : FrameBufferPool) : EthFramePool :=
  ⟨update frames.pool entry pool⟩

def reserve (frames : EthFramePool) (symbolPoint : SlotSymbolPoint) :
    Option (ScopedFrameBuffer × EthFramePool) :=
  let entry := poolEntryIndex symbolPoint
  ((frames.pool entry).reserve symbolPoint).map fun reserved =>
    (⟨entry, reserved.1⟩, frames.setPool entry reserved.2)

def buffer (frames : EthFramePool) (handle : ScopedFrameBuffer) : FrameBuffer :=
  (frames.pool handle.entry).entries handle.index

def setSize (frames : EthFramePool) (handle : ScopedFrameBuffer) (newSize : Nat) :
    EthFramePool :=
  frames.setPool handle.entry ((frames.pool handle.entry).setEntry handle.index
    ((frames.buffer handle).setSize newSize))

def release (frames : EthFramePool) (handle : ScopedFrameBuffer) : EthFramePool :=
  frames.setPool handle.entry ((frames.pool handle.entry).updateState handle.index)

def enqueuePendingOf (burst : List ScopedFrameBuffer × EthFramePool) (entry : Nat) :
    List ScopedFrameBuffer × EthFramePool :=
  (burst.1 ++ (burst.2.pool entry).enqueuePending.1.map (ScopedFrameBuffer.mk entry),
    burst.2.setPool entry (burst.2.pool entry).enqueuePending.2)

def enqueuePendingIntoBurst (frames : EthFramePool) (interval : FramePoolInterval) :
    List ScopedFrameBuffer × EthFramePool :=
  interval.entries.foldl enqueuePendingOf ([], frames)

structure Consistent (frames : EthFramePool) : Prop where
  pool_consistent : ∀ entry, (frames.pool entry).Consistent

lemma consistent_new (numOfFrames : Nat) : (new numOfFrames).Consistent :=
  ⟨fun _ => FrameBufferPool.consistent_new _⟩

lemma setPool_pool (frames : EthFramePool) (entry : Nat) (pool : FrameBufferPool) :
    (frames.setPool entry pool).pool = update frames.pool entry pool := rfl

variable {frames : EthFramePool} {pool : FrameBufferPool} {handle : ScopedFrameBuffer}

lemma Consistent.setPool (hframes : frames.Consistent) (entry : Nat) (hpool : pool.Consistent) :
    (frames.setPool entry pool).Consistent := by
  constructor
  intro other
  rw [setPool_pool]
  obtain rfl | hne := eq_or_ne other entry
  · rwa [update_self]
  · rw [update_of_ne hne]
    exact hframes.pool_consistent other

section

variable (entries : List Nat) (burst : List ScopedFrameBuffer × EthFramePool)

lemma foldl_enqueuePendingOf_pool (entry : Nat) :
    (entries.foldl enqueuePendingOf burst).2.pool entry =
      if entry ∈ entries then (burst.2.pool entry).enqueuePending.2
      else burst.2.pool entry := by
  induction entries generalizing burst with
  | nil => rfl
  | cons head rest ih =>
    rw [List.foldl_cons, ih]
    change (if entry ∈ rest then
      (update burst.2.pool head (burst.2.pool head).enqueuePending.2 entry).enqueuePending.2
      else update burst.2.pool head (burst.2.pool head).enqueuePending.2 entry) = _
    obtain rfl | hne := eq_or_ne entry head
    · simp [enqueuePending]
    · simp [hne]

lemma mem_foldl_enqueuePendingOf (handle : ScopedFrameBuffer) :
    handle ∈ (entries.foldl enqueuePendingOf burst).1 ↔ handle ∈ burst.1 ∨ handle.entry ∈ entries ∧
          handle.index ∈ (burst.2.pool handle.entry).pendingList := by
  induction entries generalizing burst with
  | nil => simp
  | cons head rest ih =>
    rw [List.foldl_cons, ih]
    change (handle ∈ burst.1 ++ (burst.2.pool head).pendingList.map (ScopedFrameBuffer.mk head) ∨
      handle.entry ∈ rest ∧ handle.index ∈ (update burst.2.pool head
        (burst.2.pool head).enqueuePending.2 handle.entry).pendingList) ↔ _
    obtain ⟨entry, index⟩ := handle
    obtain rfl | hne := eq_or_ne entry head
    · simp [enqueuePending]
    · simp [hne, hne.symm]

end

section

variable (frames : EthFramePool)

lemma setPool_buffer_of_ne {other : ScopedFrameBuffer} (hne : other ≠ handle)
    (hents : ∀ idx ≠ handle.index, pool.entries idx = (frames.pool handle.entry).entries idx) :
    (frames.setPool handle.entry pool).buffer other = frames.buffer other := by
  obtain ⟨entry, index⟩ := other
  simp only [buffer]
  rw [setPool_pool]
  obtain rfl | hentry := eq_or_ne entry handle.entry
  · rw [update_self]
    apply hents
    rintro rfl
    exact hne rfl
  · rw [update_of_ne hentry]

lemma setPool_numberOfBuffers {entry : Nat}
    (hnumber : pool.numberOfBuffers = (frames.pool entry).numberOfBuffers) (other : Nat) :
    ((frames.setPool entry pool).pool other).numberOfBuffers =
      (frames.pool other).numberOfBuffers := by
  rw [setPool_pool]
  obtain rfl | hne := eq_or_ne other entry
  · rw [update_self, hnumber]
  · rw [update_of_ne hne]

lemma setPool_pendingList {entry : Nat}
    (hpend : pool.pendingList = (frames.pool entry).pendingList) (other : Nat) :
    ((frames.setPool entry pool).pool other).pendingList = (frames.pool other).pendingList := by
  rw [setPool_pool]
  obtain rfl | hne := eq_or_ne other entry
  · rw [update_self, hpend]
  · rw [update_of_ne hne]

end

def IsPending (frames : EthFramePool) (handle : ScopedFrameBuffer) : Prop :=
  handle.index ∈ (frames.pool handle.entry).pendingList

def InPool (frames : EthFramePool) (handle : ScopedFrameBuffer) : Prop :=
  handle.index < (frames.pool handle.entry).numberOfBuffers

structure Frame (before after : EthFramePool) (handle : ScopedFrameBuffer) : Prop where
  consistent : after.Consistent
  inPool : ∀ other, after.InPool other ↔ before.InPool other
  buffer_eq : ∀ other ≠ handle, after.buffer other = before.buffer other

lemma Frame.trans {first second third : EthFramePool} (h₁ : Frame first second handle)
    (h₂ : Frame second third handle) :
    Frame first third handle where
  consistent := h₂.consistent
  inPool := fun other => (h₂.inPool other).trans (h₁.inPool other)
  buffer_eq := fun other hne => (h₂.buffer_eq other hne).trans (h₁.buffer_eq other hne)

variable (hframes : frames.Consistent)

include hframes

lemma Frame.setPool (handle : ScopedFrameBuffer) (hpool : pool.Consistent)
    (hnumber : pool.numberOfBuffers = (frames.pool handle.entry).numberOfBuffers)
    (hents : ∀ idx ≠ handle.index, pool.entries idx = (frames.pool handle.entry).entries idx) :
    Frame frames (frames.setPool handle.entry pool) handle where
  consistent := hframes.setPool handle.entry hpool
  inPool := by
    intro other
    simp only [InPool]
    rw [setPool_numberOfBuffers frames hnumber]
  buffer_eq := fun _ hne => setPool_buffer_of_ne frames hne hents

lemma reserve_spec {after : EthFramePool} {symbolPoint : SlotSymbolPoint}
    (hresv : frames.reserve symbolPoint = some (handle, after)) :
    Frame frames after handle ∧ handle.entry = poolEntryIndex symbolPoint ∧ frames.InPool handle ∧
      (frames.buffer handle).state = .free ∧ after.buffer handle = ⟨.reserved, 0, symbolPoint⟩ ∧
      ∀ other, after.IsPending other ↔ frames.IsPending other := by
  obtain ⟨⟨idx, pool⟩, hpool, hpair⟩ := Option.map_eq_some_iff.mp hresv
  obtain ⟨rfl, rfl⟩ := Prod.mk.inj hpair
  obtain ⟨hfree, hlt, hcons, hpend, hnumber, hents⟩ :=
    reserve_spec (hframes.pool_consistent _) hpool
  refine ⟨?_, rfl, hlt, hfree, ?_, ?_⟩
  · apply Frame.setPool hframes ⟨poolEntryIndex symbolPoint, idx⟩ hcons hnumber
    intro i hi
    rw [hents, update_of_ne hi]
  · simp only [buffer]
    rw [setPool_pool, update_self, hents, update_self]
  · intro other
    simp only [IsPending]
    rw [setPool_pendingList frames hpend]

lemma setSize_spec (hresd : (frames.buffer handle).state = .reserved) (newSize : Nat) :
    Frame frames (frames.setSize handle newSize) handle ∧
      (frames.setSize handle newSize).buffer handle = (frames.buffer handle).setSize newSize ∧
      ∀ other, (frames.setSize handle newSize).IsPending other ↔ frames.IsPending other := by
  have hpool := hframes.pool_consistent handle.entry
  have hstate : ((frames.pool handle.entry).entries handle.index).state = .reserved := hresd
  refine ⟨?_, ?_, ?_⟩
  · apply Frame.setPool hframes handle
    · exact hpool.setEntry (hpool.notMem_freeList (by simp [hstate]))
        (hpool.notMem_pendingList (by simp [hstate])) _
    · rfl
    · intro i hi
      rw [setEntry_entries, update_of_ne hi]
  · simp only [setSize]
    rw [buffer, setPool_pool, update_self, setEntry_entries, update_self]
  · intro other
    simp only [IsPending, setSize]
    rw [setPool_pendingList frames (setEntry_pendingList _ _ _)]

lemma release_of_reserved (hin : frames.InPool handle)
    (hresd : (frames.buffer handle).state = .reserved) :
    Frame frames (frames.release handle) handle ∧ ∀ other, (frames.release handle).IsPending other ↔
        frames.IsPending other ∨ other = handle ∧ (frames.buffer handle).size ≠ 0 := by
  obtain ⟨hcons, hpend⟩ := updateState_of_reserved
    (hframes.pool_consistent handle.entry) hin hresd
  constructor
  · apply Frame.setPool hframes handle hcons (updateState_numberOfBuffers _ _)
    intro i hi
    exact updateState_entries_of_ne _ hi
  · rintro ⟨entry, index⟩
    simp only [IsPending, release, buffer]
    rw [setPool_pool]
    obtain rfl | hne := eq_or_ne entry handle.entry
    · rw [update_self, hpend]
      obtain ⟨entry, index'⟩ := handle
      split <;> simp_all
    · obtain ⟨entry', index'⟩ := handle
      simp_all

lemma release_of_sent (hin : frames.InPool handle)
    (hsent : (frames.buffer handle).state = .queued ∨ (frames.buffer handle).state = .free) :
    Frame frames (frames.release handle) handle ∧
      (∀ other, (frames.release handle).IsPending other ↔ frames.IsPending other) ∧
      ((frames.release handle).buffer handle).state = .free := by
  obtain ⟨hcons, hpend, hfree⟩ := updateState_of_sent
    (hframes.pool_consistent handle.entry) hin hsent
  refine ⟨?_, ?_, ?_⟩
  · apply Frame.setPool hframes handle hcons (updateState_numberOfBuffers _ _)
    intro i hi
    exact updateState_entries_of_ne _ hi
  · intro other
    simp only [IsPending, release]
    rw [setPool_pendingList frames hpend]
  · simp only [buffer, release]
    rw [setPool_pool, update_self]
    exact hfree

end EthFramePool

end ProtoRu
