import Mathlib.Data.List.Nodup
import Mathlib.Data.List.Perm.Subperm
import Mathlib.Logic.Function.Basic
import ProtoRu.SlotNumbering
import ProtoRu.TransitionRuns

namespace ProtoRu.FramePool

open Function List

inductive BufferState where
  | free
  | reserved
  | pending
  | queued
  deriving DecidableEq

/-- Storage for one Ethernet frame; the written bytes are left out. -/
structure FrameBuffer where
  state : BufferState
  size : Nat
  reservationSymbolPoint : SlotSymbolPoint

def minEthFrameLength : Nat := 64

def FrameBuffer.setSize (buffer : FrameBuffer) (newSize : Nat) : FrameBuffer :=
  { buffer with size := if newSize < minEthFrameLength then minEthFrameLength else newSize }

def maxTxBurstSize : Nat := 128

/-- A burst is a vector of fixed capacity; a full one asserts. -/
def emplaceBack {α : Type} (burst : List α) (frame : α) : Option (List α) :=
  if burst.length < maxTxBurstSize then some (burst ++ [frame]) else none

lemma foldlM_emplaceBack {α : Type} (frames : List α) {burst : List α}
    (hburst : burst.length ≤ maxTxBurstSize) : frames.foldlM emplaceBack burst =
      if (burst ++ frames).length ≤ maxTxBurstSize then some (burst ++ frames) else none := by
  have happend (frames burst : List α) :
      frames.foldl (fun burst frame => burst ++ [frame]) burst = burst ++ frames := by
    induction frames generalizing burst with
    | nil => simp
    | cons frame rest ih => simp [ih]
  rw [← happend]
  apply foldlM_capped length
  · simp
  · intro burst frame _
    simp only [emplaceBack, length_append, length_singleton]
    rfl
  · exact hburst

structure FrameBufferPool where
  numberOfBuffers : Nat
  entries : Nat → FrameBuffer
  freeList : List Nat
  pendingList : List Nat

namespace FrameBufferPool

def new (minNofBuffers : Nat) : FrameBufferPool where
  numberOfBuffers := minNofBuffers * 2
  entries := fun _ => ⟨.free, 0, SlotSymbolPoint.ofSlot SlotPoint.invalid 0 14⟩
  freeList := range (minNofBuffers * 2)
  pendingList := []

def setEntry (pool : FrameBufferPool) (idx : Nat) (buffer : FrameBuffer) : FrameBufferPool :=
  { pool with entries := update pool.entries idx buffer }

def setState (pool : FrameBufferPool) (idx : Nat) (state : BufferState) : FrameBufferPool :=
  pool.setEntry idx { pool.entries idx with state := state }

def reserve (pool : FrameBufferPool) (symbolPoint : SlotSymbolPoint) :
    Option (Nat × FrameBufferPool) :=
  match pool.freeList with
  | [] => none
  | idx :: rest =>
    some (idx, { pool with freeList := rest }.setEntry idx ⟨.reserved, 0, symbolPoint⟩)

/-- The buffers that are handed out and the pool after it, whatever the burst has room for. -/
def enqueuePending (pool : FrameBufferPool) : List Nat × FrameBufferPool :=
  (pool.pendingList, { pool with
      pendingList := []
      entries := fun idx =>
        if idx ∈ pool.pendingList then { pool.entries idx with state := .queued }
        else pool.entries idx })

/-- The handles are added to the given burst, and one too many is an assertion failure. -/
def enqueuePendingInto {α : Type} (pool : FrameBufferPool) (handle : Nat → α) (burst : List α) :
    Option (List α × FrameBufferPool) :=
  ((pool.enqueuePending.1.map handle).foldlM emplaceBack burst).map fun burst =>
    (burst, pool.enqueuePending.2)

def free (pool : FrameBufferPool) (idx : Nat) : FrameBufferPool :=
  { pool with freeList := pool.freeList ++ [idx] }

def putToPendingQueue (pool : FrameBufferPool) (idx : Nat) : FrameBufferPool :=
  if pool.pendingList.length < pool.numberOfBuffers then
    { pool with pendingList := pool.pendingList ++ [idx] }
  else pool.free idx

def updateState (pool : FrameBufferPool) (idx : Nat) : FrameBufferPool :=
  match (pool.entries idx).state with
  | .reserved =>
    if (pool.entries idx).size = 0 then (pool.setState idx .free).free idx
    else (pool.setState idx .pending).putToPendingQueue idx
  | .pending => (pool.setState idx .free).free idx
  | .queued => (pool.setState idx .free).free idx
  | .free => pool

/-- The queues hold buffers of the pool, each once and in the state that belongs to
the queue. -/
structure Consistent (pool : FrameBufferPool) : Prop where
  freeList_nodup : pool.freeList.Nodup
  pendingList_nodup : pool.pendingList.Nodup
  freeList_lt : ∀ idx ∈ pool.freeList, idx < pool.numberOfBuffers
  pendingList_lt : ∀ idx ∈ pool.pendingList, idx < pool.numberOfBuffers
  freeList_state : ∀ idx ∈ pool.freeList, (pool.entries idx).state = .free
  pendingList_state : ∀ idx ∈ pool.pendingList, (pool.entries idx).state = .pending

lemma consistent_new (minNofBuffers : Nat) : (new minNofBuffers).Consistent where
  freeList_nodup := nodup_range
  pendingList_nodup := nodup_nil
  freeList_lt := by
    intro idx hidx
    exact mem_range.mp hidx
  pendingList_lt := by simp [new]
  freeList_state := by simp [new]
  pendingList_state := by simp [new]

section

variable (pool : FrameBufferPool) (idx : Nat) (buffer : FrameBuffer)

lemma setEntry_entries :
    (pool.setEntry idx buffer).entries = update pool.entries idx buffer := rfl

lemma setEntry_pendingList : (pool.setEntry idx buffer).pendingList = pool.pendingList := rfl

end

variable {idx : Nat} {pool : FrameBufferPool}

lemma length_lt_of_notMem {list : List Nat} {bound : Nat} (hnodup : list.Nodup)
    (hlt : ∀ i ∈ list, i < bound) (hidx : idx < bound) (hnot : idx ∉ list) :
    list.length < bound := by
  have hcons : (idx :: list).Nodup := nodup_cons.mpr ⟨hnot, hnodup⟩
  have hsubset : idx :: list ⊆ range bound := by
    intro i hi
    rw [mem_range]
    obtain rfl | hi := mem_cons.mp hi
    · exact hidx
    · exact hlt i hi
  have hlen := (hcons.subperm hsubset).length_le
  rw [length_range] at hlen
  exact hlen

namespace Consistent

variable {pool : FrameBufferPool}

variable {idx : Nat}

section

variable (hpool : pool.Consistent)

include hpool

lemma notMem_freeList (hstate : (pool.entries idx).state ≠ .free) : idx ∉ pool.freeList := by
  intro hmem
  exact hstate (hpool.freeList_state idx hmem)

lemma notMem_pendingList (hstate : (pool.entries idx).state ≠ .pending) :
    idx ∉ pool.pendingList := by
  intro hmem
  exact hstate (hpool.pendingList_state idx hmem)

lemma setEntry (hfree : idx ∉ pool.freeList) (hpend : idx ∉ pool.pendingList)
    (buffer : FrameBuffer) : (pool.setEntry idx buffer).Consistent where
  freeList_nodup := hpool.freeList_nodup
  pendingList_nodup := hpool.pendingList_nodup
  freeList_lt := hpool.freeList_lt
  pendingList_lt := hpool.pendingList_lt
  freeList_state := by
    intro i hi
    have hne : i ≠ idx := ne_of_mem_of_not_mem hi hfree
    rw [setEntry_entries, update_of_ne hne]
    exact hpool.freeList_state i hi
  pendingList_state := by
    intro i hi
    have hne : i ≠ idx := ne_of_mem_of_not_mem hi hpend
    rw [setEntry_entries, update_of_ne hne]
    exact hpool.pendingList_state i hi

lemma free (hfree : idx ∉ pool.freeList) (hlt : idx < pool.numberOfBuffers)
    (hstate : (pool.entries idx).state = .free) : (pool.free idx).Consistent where
  freeList_nodup := by
    have hconcat := hpool.freeList_nodup.concat hfree
    rwa [concat_eq_append] at hconcat
  pendingList_nodup := hpool.pendingList_nodup
  freeList_lt := forall_mem_append.mpr ⟨hpool.freeList_lt, forall_mem_singleton.mpr hlt⟩
  pendingList_lt := hpool.pendingList_lt
  freeList_state := forall_mem_append.mpr ⟨hpool.freeList_state, forall_mem_singleton.mpr hstate⟩
  pendingList_state := hpool.pendingList_state

lemma putToPendingQueue (hpend : idx ∉ pool.pendingList) (hlt : idx < pool.numberOfBuffers)
    (hstate : (pool.entries idx).state = .pending) : (pool.putToPendingQueue idx).Consistent ∧
      (pool.putToPendingQueue idx).pendingList = pool.pendingList ++ [idx] := by
  have hroom := length_lt_of_notMem hpool.pendingList_nodup hpool.pendingList_lt hlt hpend
  simp only [FrameBufferPool.putToPendingQueue]
  rw [if_pos hroom]
  refine ⟨⟨hpool.freeList_nodup, ?_, hpool.freeList_lt, ?_, hpool.freeList_state, ?_⟩, rfl⟩
  · have hconcat := hpool.pendingList_nodup.concat hpend
    rwa [concat_eq_append] at hconcat
  · exact forall_mem_append.mpr ⟨hpool.pendingList_lt, forall_mem_singleton.mpr hlt⟩
  · exact forall_mem_append.mpr ⟨hpool.pendingList_state, forall_mem_singleton.mpr hstate⟩

end

end Consistent

section

variable (pool : FrameBufferPool)

lemma setState_state (idx : Nat) (state : BufferState) :
    ((pool.setState idx state).entries idx).state = state := by
  rw [setState, setEntry_entries, update_self]

lemma putToPendingQueue_entries (idx : Nat) :
    (pool.putToPendingQueue idx).entries = pool.entries := by
  simp only [putToPendingQueue]
  split <;> rfl

@[simp] lemma updateState_numberOfBuffers (idx : Nat) :
    (pool.updateState idx).numberOfBuffers = pool.numberOfBuffers := by
  simp only [updateState, putToPendingQueue]
  split
  · split
    · rfl
    · split <;> rfl
  all_goals rfl

lemma updateState_entries_of_ne {i : Nat} (hne : i ≠ idx) :
    (pool.updateState idx).entries i = pool.entries i := by
  have hset : ∀ state, (pool.setState idx state).entries i = pool.entries i := by
    intro state
    rw [setState, setEntry_entries, update_of_ne hne]
  simp only [updateState]
  split
  · split
    · exact hset .free
    · rw [putToPendingQueue_entries]
      exact hset .pending
  · exact hset .free
  · exact hset .free
  · rfl

end

section

variable (hpool : pool.Consistent) (hlt : idx < pool.numberOfBuffers)

include hpool hlt

lemma updateState_of_reserved (hstate : (pool.entries idx).state = .reserved) :
    (pool.updateState idx).Consistent ∧ (pool.updateState idx).pendingList =
        if (pool.entries idx).size = 0 then pool.pendingList
        else pool.pendingList ++ [idx] := by
  have hfree : idx ∉ pool.freeList := hpool.notMem_freeList (by simp [hstate])
  have hpend : idx ∉ pool.pendingList := hpool.notMem_pendingList (by simp [hstate])
  have hset : ∀ state, (pool.setState idx state).Consistent :=
    fun _ => hpool.setEntry hfree hpend _
  simp only [updateState]
  rw [hstate]
  dsimp only
  split
  · exact ⟨(hset .free).free hfree hlt (setState_state pool idx .free), rfl⟩
  · exact (hset .pending).putToPendingQueue hpend hlt (setState_state pool idx .pending)

lemma updateState_of_sent
    (hstate : (pool.entries idx).state = .queued ∨ (pool.entries idx).state = .free) :
    (pool.updateState idx).Consistent ∧ (pool.updateState idx).pendingList = pool.pendingList ∧
      ((pool.updateState idx).entries idx).state = .free := by
  simp only [updateState]
  obtain hstate | hstate := hstate
  · have hfree : idx ∉ pool.freeList := hpool.notMem_freeList (by simp [hstate])
    have hpend : idx ∉ pool.pendingList := hpool.notMem_pendingList (by simp [hstate])
    have hset : (pool.setState idx .free).Consistent := hpool.setEntry hfree hpend _
    rw [hstate]
    exact ⟨hset.free hfree hlt (setState_state pool idx .free), rfl, setState_state pool idx .free⟩
  · rw [hstate]
    exact ⟨hpool, rfl, hstate⟩

end

lemma reserve_spec {after : FrameBufferPool} (hpool : pool.Consistent)
    {symbolPoint : SlotSymbolPoint} (hresv : pool.reserve symbolPoint = some (idx, after)) :
    (pool.entries idx).state = .free ∧ idx < pool.numberOfBuffers ∧
      after.Consistent ∧ after.pendingList = pool.pendingList ∧
      after.numberOfBuffers = pool.numberOfBuffers ∧
      after.entries = update pool.entries idx ⟨.reserved, 0, symbolPoint⟩ := by
  simp only [reserve] at hresv
  split at hresv
  · simp at hresv
  rename_i head rest hlist
  obtain ⟨rfl, rfl⟩ := Prod.mk.inj (Option.some.inj hresv)
  have hmem : head ∈ pool.freeList := by simp [hlist]
  have hnodup := hpool.freeList_nodup
  rw [hlist, nodup_cons] at hnodup
  have hstate := hpool.freeList_state head hmem
  have hrest : ({ pool with freeList := rest } : FrameBufferPool).Consistent := by
    refine ⟨hnodup.2, hpool.pendingList_nodup, ?_, hpool.pendingList_lt, ?_,
      hpool.pendingList_state⟩
    · intro i hi
      exact hpool.freeList_lt i (by simp [hlist, hi])
    · intro i hi
      exact hpool.freeList_state i (by simp [hlist, hi])
  refine ⟨hstate, hpool.freeList_lt head hmem, ?_, rfl, rfl, rfl⟩
  exact hrest.setEntry hnodup.1 (hpool.notMem_pendingList (by simp [hstate])) _

lemma enqueuePending_entries (pool : FrameBufferPool) (idx : Nat) :
    pool.enqueuePending.2.entries idx =
      if idx ∈ pool.pendingList then { pool.entries idx with state := .queued }
      else pool.entries idx := rfl

lemma enqueuePendingInto_eq {α : Type} (pool : FrameBufferPool) (handle : Nat → α)
    {burst : List α} (hburst : burst.length ≤ maxTxBurstSize) :
    pool.enqueuePendingInto handle burst =
      if (burst ++ pool.enqueuePending.1.map handle).length ≤ maxTxBurstSize then
        some (burst ++ pool.enqueuePending.1.map handle, pool.enqueuePending.2)
      else none := by
  rw [enqueuePendingInto, foldlM_emplaceBack _ hburst]
  split <;> rfl

lemma enqueuePending_consistent (hpool : pool.Consistent) : pool.enqueuePending.2.Consistent where
  freeList_nodup := hpool.freeList_nodup
  pendingList_nodup := nodup_nil
  freeList_lt := hpool.freeList_lt
  pendingList_lt := by simp [enqueuePending]
  freeList_state := by
    intro idx hidx
    have hstate := hpool.freeList_state idx hidx
    rw [enqueuePending_entries, if_neg (hpool.notMem_pendingList (by simp [hstate]))]
    exact hstate
  pendingList_state := by simp [enqueuePending]

end FrameBufferPool

end ProtoRu.FramePool
