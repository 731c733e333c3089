import ProtoRu.EthernetFramePool

namespace ProtoRu.UplinkFrames

open EthFramePool FramePool FrameBufferPool

def sendPending (frames : EthFramePool) (interval : FramePoolInterval) :
    List ScopedFrameBuffer × EthFramePool :=
  let burst := frames.enqueuePendingIntoBurst interval
  (burst.1, burst.1.foldl release burst.2)

lemma mem_sendPending (frames : EthFramePool) (interval : FramePoolInterval)
    (handle : ScopedFrameBuffer) : handle ∈ (sendPending frames interval).1 ↔
      handle.entry ∈ interval.entries ∧ frames.IsPending handle := by
  simp only [sendPending, enqueuePendingIntoBurst]
  rw [mem_foldl_enqueuePendingOf]
  simp [IsPending]

section

variable {frames : EthFramePool} (interval : FramePoolInterval)

lemma enqueuePendingIntoBurst_pool (entry : Nat) :
    (frames.enqueuePendingIntoBurst interval).2.pool entry =
      if entry ∈ interval.entries then (frames.pool entry).enqueuePending.2
      else frames.pool entry :=
  foldl_enqueuePendingOf_pool interval.entries ([], frames) entry

lemma enqueuePendingIntoBurst_consistent (hframes : frames.Consistent) :
    (frames.enqueuePendingIntoBurst interval).2.Consistent := by
  constructor
  intro entry
  rw [enqueuePendingIntoBurst_pool]
  split
  · exact enqueuePending_consistent (hframes.pool_consistent entry)
  · exact hframes.pool_consistent entry

variable (handle : ScopedFrameBuffer)

include handle

lemma enqueuePendingIntoBurst_inPool :
    (frames.enqueuePendingIntoBurst interval).2.InPool handle ↔ frames.InPool handle := by
  simp only [InPool]
  rw [enqueuePendingIntoBurst_pool]
  split <;> rfl

lemma enqueuePendingIntoBurst_isPending :
    (frames.enqueuePendingIntoBurst interval).2.IsPending handle ↔
      frames.IsPending handle ∧ handle.entry ∉ interval.entries := by
  simp only [IsPending]
  rw [enqueuePendingIntoBurst_pool]
  split
  · simp_all [enqueuePending]
  · simp_all

lemma enqueuePendingIntoBurst_buffer : (frames.enqueuePendingIntoBurst interval).2.buffer handle =
      if handle ∈ (sendPending frames interval).1 then
        { frames.buffer handle with state := .queued }
      else frames.buffer handle := by
  have hmem := mem_sendPending frames interval handle
  simp only [IsPending] at hmem
  simp only [buffer]
  rw [enqueuePendingIntoBurst_pool]
  split
  · rw [enqueuePending_entries]
    simp_all
  · simp_all

end

structure Released (drained : EthFramePool) (burst : List ScopedFrameBuffer)
    (frames : EthFramePool) : Prop where
  consistent : frames.Consistent
  inPool : ∀ handle, frames.InPool handle ↔ drained.InPool handle
  isPending : ∀ handle, frames.IsPending handle ↔ drained.IsPending handle
  buffer_eq : ∀ handle ∉ burst, frames.buffer handle = drained.buffer handle
  sent : ∀ handle ∈ burst, frames.InPool handle ∧
    ((frames.buffer handle).state = .queued ∨ (frames.buffer handle).state = .free)

lemma Released.release {drained frames : EthFramePool} {burst : List ScopedFrameBuffer}
    (hrel : Released drained burst frames) {handle : ScopedFrameBuffer}
    (hhandle : handle ∈ burst) : Released drained burst (frames.release handle) := by
  obtain ⟨hin, hstate⟩ := hrel.sent handle hhandle
  obtain ⟨hframe, hpend, hfree⟩ := release_of_sent hrel.consistent hin hstate
  constructor
  · exact hframe.consistent
  · intro other
    rw [hframe.inPool, hrel.inPool]
  · intro other
    rw [hpend, hrel.isPending]
  · intro other hother
    have hne : other ≠ handle := (ne_of_mem_of_not_mem hhandle hother).symm
    rw [hframe.buffer_eq other hne, hrel.buffer_eq other hother]
  · intro other hother
    refine ⟨(hframe.inPool other).mpr (hrel.sent other hother).1, ?_⟩
    obtain rfl | hne := eq_or_ne other handle
    · exact Or.inr hfree
    · rw [hframe.buffer_eq other hne]
      exact (hrel.sent other hother).2

lemma sendPending_spec {frames : EthFramePool} (hframes : frames.Consistent)
    (interval : FramePoolInterval) : (sendPending frames interval).2.Consistent ∧
      (∀ handle, (sendPending frames interval).2.InPool handle ↔ frames.InPool handle) ∧
      (∀ handle, (sendPending frames interval).2.IsPending handle ↔
        frames.IsPending handle ∧ handle.entry ∉ interval.entries) ∧
      ∀ handle ∉ (sendPending frames interval).1,
        (sendPending frames interval).2.buffer handle = frames.buffer handle := by
  have hinit : Released (frames.enqueuePendingIntoBurst interval).2
      (sendPending frames interval).1 (frames.enqueuePendingIntoBurst interval).2 := by
    refine ⟨enqueuePendingIntoBurst_consistent interval hframes, fun _ => Iff.rfl,
      fun _ => Iff.rfl, fun _ _ => rfl, ?_⟩
    intro handle hhandle
    have hpend := ((mem_sendPending frames interval handle).mp hhandle).2
    refine ⟨(enqueuePendingIntoBurst_inPool interval handle).mpr ?_, Or.inl ?_⟩
    · exact (hframes.pool_consistent handle.entry).pendingList_lt _ hpend
    · rw [enqueuePendingIntoBurst_buffer, if_pos hhandle]
  have hfinal : Released (frames.enqueuePendingIntoBurst interval).2
      (sendPending frames interval).1 (sendPending frames interval).2 :=
    List.foldlRecOn (sendPending frames interval).1 release hinit
      fun _ hrel _ hhandle => hrel.release hhandle
  refine ⟨hfinal.consistent, ?_, ?_, ?_⟩
  · intro handle
    rw [hfinal.inPool, enqueuePendingIntoBurst_inPool]
  · intro handle
    rw [hfinal.isPending, enqueuePendingIntoBurst_isPending]
  · intro handle hhandle
    rw [hfinal.buffer_eq handle hhandle, enqueuePendingIntoBurst_buffer, if_neg hhandle]

end ProtoRu.UplinkFrames
