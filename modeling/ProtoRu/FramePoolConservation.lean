import ProtoRu.FrameBuffers

/-!
Conservation of the buffers of a frame pool under any interleaving of its users. An operation
is split at its accesses to the queues: what it has popped and not yet pushed, it holds. Each
buffer is in the free list, in the pending list or held once, in the state that belongs to
the place.
-/

namespace ProtoRu.FramePool

open List Option FrameBufferPool

inductive Phase where
  /-- Popped from the free list, by a reservation. -/
  | reserving
  /-- A scoped handle has the buffer. -/
  | handle
  /-- Popped from the pending list, on the way to a burst. -/
  | queueing
  /-- Let go of by its handle, on the way to the free list. -/
  | freeing
  /-- Let go of by its handle, on the way to the pending list. -/
  | returning
deriving DecidableEq

structure Holding where
  index : Nat
  phase : Phase
deriving DecidableEq

open Holding

structure PoolState where
  pool : FrameBufferPool
  held : List Holding

/-- What a user does between two accesses to the queues. A handle is named by its place among
the holdings. -/
inductive Action where
  | popFree
  | finishReserve (i : Nat) (symbolPoint : SlotSymbolPoint)
  | setSize (i newSize : Nat)
  | popPending
  | popPendingToQueue
  | finishQueue (i : Nat)
  | returnToPending (i : Nat)
  | beginRelease (i : Nat)
  | finishRelease (i : Nat)

def maxEthFrameLength : Nat := 9600

namespace PoolState

variable (s : PoolState)

def withHeld (i : Nat) (phase : Phase) (f : Nat → Option PoolState) : Option PoolState :=
  s.held[i]?.bind fun holding => if holding.phase = phase then f holding.index else none

def retag (i index : Nat) (phase : Phase) (buffer : FrameBuffer) : PoolState :=
  ⟨s.pool.setEntry index buffer, s.held.set i ⟨index, phase⟩⟩

def pop (list : List Nat) (phase : Phase) (remaining : List Nat → FrameBufferPool) : PoolState :=
  match list with
  | [] => s
  | index :: rest => ⟨remaining rest, s.held ++ [⟨index, phase⟩]⟩

def beginRelease (i index : Nat) : PoolState :=
  let buffer := s.pool.entries index
  match buffer.state with
  | .reserved =>
    if buffer.size = 0 then s.retag i index .freeing { buffer with state := .free }
    else s.retag i index .returning { buffer with state := .pending }
  | .pending => s.retag i index .freeing { buffer with state := .free }
  | .queued => s.retag i index .freeing { buffer with state := .free }
  | .free => { s with held := s.held.eraseIdx i }

def finishRelease (i : Nat) : Option PoolState :=
  s.held[i]?.bind fun holding =>
    match holding.phase with
    | .freeing => some ⟨s.pool.free holding.index, s.held.eraseIdx i⟩
    | .returning => some ⟨s.pool.putToPendingQueue holding.index, s.held.eraseIdx i⟩
    | _ => none

def step (s : PoolState) : Action → Option PoolState
  | .popFree => some (s.pop s.pool.freeList .reserving fun rest => { s.pool with freeList := rest })
  | .finishReserve i symbolPoint =>
    s.withHeld i .reserving fun index =>
      if (s.pool.entries index).state = .free then
        some (s.retag i index .handle ⟨.reserved, 0, symbolPoint⟩)
      else none
  | .setSize i newSize =>
    s.withHeld i .handle fun index =>
      if newSize ≤ maxEthFrameLength then
        some (s.retag i index .handle ((s.pool.entries index).setSize newSize))
      else none
  | .popPending =>
    some (s.pop s.pool.pendingList .handle fun rest => { s.pool with pendingList := rest })
  | .popPendingToQueue =>
    some (s.pop s.pool.pendingList .queueing fun rest => { s.pool with pendingList := rest })
  | .finishQueue i =>
    s.withHeld i .queueing fun index =>
      if (s.pool.entries index).state = .pending then
        some (s.retag i index .handle { s.pool.entries index with state := .queued })
      else none
  | .returnToPending i =>
    s.withHeld i .handle fun index =>
      if (s.pool.entries index).state = .pending then
        some (s.retag i index .handle { s.pool.entries index with state := .reserved })
      else none
  | .beginRelease i => s.withHeld i .handle fun index => some (s.beginRelease i index)
  | .finishRelease i => s.finishRelease i

def create (minNofBuffers : Nat) : PoolState := ⟨FrameBufferPool.new minNofBuffers, []⟩

def places : List Nat := s.pool.freeList ++ s.pool.pendingList ++ s.held.map index

end PoolState

open PoolState (pop step withHeld)

def Phase.Matches : Phase → BufferState → Prop
  | .reserving, state => state = .free
  | .handle, state => state ≠ .free
  | .queueing, state => state = .pending
  | .freeing, state => state = .free
  | .returning, state => state = .pending

/-- Each buffer is in one place, in a state that belongs to it. -/
structure Conserved (nofBuffers : Nat) (s : PoolState) : Prop where
  size : s.pool.numberOfBuffers = nofBuffers
  places : s.places.Perm (range nofBuffers)
  freeList_state : ∀ index ∈ s.pool.freeList, (s.pool.entries index).state = .free
  pendingList_state : ∀ index ∈ s.pool.pendingList, (s.pool.entries index).state = .pending
  held_state : ∀ holding ∈ s.held, holding.phase.Matches (s.pool.entries holding.index).state

variable {phase : Phase} {rest : List Nat}

namespace Conserved

variable {nofBuffers : Nat} {s : PoolState}

lemma nodup (h : Conserved nofBuffers s) : s.places.Nodup := h.places.nodup_iff.mpr nodup_range

variable {i : Nat} {holding : Holding}

section

variable (h : Conserved nofBuffers s)

include h

lemma queues_ne_held {index : Nat} (hqueue : index ∈ s.pool.freeList ++ s.pool.pendingList)
    (hheld : s.held[i]? = some holding) : holding.index ≠ index := by
  rintro rfl
  have hmem := mem_map_of_mem (f := index) (mem_of_getElem? hheld)
  exact (nodup_append.mp h.nodup).2.2 _ hqueue _ hmem rfl

section

variable (hi : s.held[i]? = some holding)

include hi

lemma held_ne {j : Nat} {other : Holding} (hj : s.held[j]? = some other) (hne : i ≠ j) :
    holding.index ≠ other.index := by
  intro hsame
  have hnodup : (s.held.map index).Nodup := (nodup_append.mp h.nodup).2.1
  obtain ⟨hlt, -⟩ := List.getElem?_eq_some_iff.mp hi
  apply hne
  apply (getElem?_inj (by rw [length_map]; exact hlt) hnodup).mp
  rw [getElem?_map, getElem?_map, hi, hj, map_some, map_some, hsame]

lemma pendingList_lt : s.pool.pendingList.length < s.pool.numberOfBuffers := by
  have hlen := h.places.length_eq
  obtain ⟨hlt, -⟩ := List.getElem?_eq_some_iff.mp hi
  simp only [PoolState.places, length_append, length_map, length_range] at hlen
  rw [h.size]
  omega

lemma retag {buffer : FrameBuffer} (hmatches : phase.Matches buffer.state) :
    Conserved nofBuffers (s.retag i holding.index phase buffer) := by
  obtain ⟨hlt, hget⟩ := List.getElem?_eq_some_iff.mp hi
  have hindices : (s.held.set i ⟨holding.index, phase⟩).map index = s.held.map index := by
    rw [map_set, ← hget, ← getElem_map index, set_getElem_self]
    rwa [length_map]
  have hother : ∀ index ≠ holding.index,
      (s.retag i holding.index phase buffer).pool.entries index = s.pool.entries index :=
    fun index hne => Function.update_of_ne hne _ _
  refine ⟨h.size, ?_, ?_, ?_, ?_⟩
  · have hplaces : (s.retag i holding.index phase buffer).places = s.places := by
      simp only [PoolState.places, PoolState.retag, hindices]
      rfl
    rw [hplaces]
    exact h.places
  · intro index hindex
    rw [hother index (h.queues_ne_held (mem_append_left _ hindex) hi).symm]
    exact h.freeList_state index hindex
  · intro index hindex
    rw [hother index (h.queues_ne_held (mem_append_right _ hindex) hi).symm]
    exact h.pendingList_state index hindex
  · intro other hmem
    obtain ⟨j, hj⟩ := mem_iff_getElem?.mp hmem
    simp only [PoolState.retag, getElem?_set] at hj
    split_ifs at hj with hne
    · cases hj
      have hself : ((s.retag i holding.index phase buffer).pool.entries holding.index) = buffer :=
        Function.update_self _ _ _
      rwa [hself]
    · rw [hother _ (h.held_ne hi hj hne).symm]
      exact h.held_state other (mem_of_getElem? hj)

end

lemma popFree {index : Nat} (hlist : s.pool.freeList = index :: rest) :
    Conserved nofBuffers ⟨{ s.pool with freeList := rest }, s.held ++ [⟨index, .reserving⟩]⟩ := by
  have hstate : (s.pool.entries index).state = .free :=
    h.freeList_state index (by rw [hlist]; exact mem_cons_self)
  refine ⟨h.size, ?_, ?_, h.pendingList_state, ?_⟩
  · refine List.Perm.trans ?_ h.places
    simp only [PoolState.places, hlist, map_append, map_singleton, cons_append]
    rw [← append_assoc]
    exact perm_append_singleton _ _
  · intro other hother
    exact h.freeList_state other (by rw [hlist]; exact mem_cons_of_mem _ hother)
  · exact forall_mem_append.mpr ⟨h.held_state, forall_mem_singleton.mpr hstate⟩

lemma popPending {index : Nat} (hlist : s.pool.pendingList = index :: rest)
    (hphase : phase.Matches .pending) :
    Conserved nofBuffers ⟨{ s.pool with pendingList := rest }, s.held ++ [⟨index, phase⟩]⟩ := by
  have hstate : (s.pool.entries index).state = .pending :=
    h.pendingList_state index (by rw [hlist]; exact mem_cons_self)
  refine ⟨h.size, ?_, h.freeList_state, ?_, ?_⟩
  · refine List.Perm.trans ?_ h.places
    simp only [PoolState.places, hlist, map_append, map_singleton, append_assoc, cons_append]
    apply List.Perm.append_left
    rw [← append_assoc]
    exact perm_append_singleton _ _
  · intro other hother
    exact h.pendingList_state other (by rw [hlist]; exact mem_cons_of_mem _ hother)
  · exact forall_mem_append.mpr ⟨h.held_state, forall_mem_singleton.mpr (by rwa [hstate])⟩

end

lemma held_perm (hi : s.held[i]? = some holding) :
    (holding.index :: (s.held.eraseIdx i).map index).Perm (s.held.map index) := by
  obtain ⟨hlt, rfl⟩ := List.getElem?_eq_some_iff.mp hi
  exact (getElem_cons_eraseIdx_perm hlt).map index

section

variable (h : Conserved nofBuffers s) (hi : s.held[i]? = some holding)

include h hi

lemma free (hstate : (s.pool.entries holding.index).state = .free) :
    Conserved nofBuffers ⟨s.pool.free holding.index, s.held.eraseIdx i⟩ := by
  refine ⟨h.size, ?_, ?_, h.pendingList_state, ?_⟩
  · refine List.Perm.trans ?_ h.places
    simp only [PoolState.places, FrameBufferPool.free, append_assoc, singleton_append]
    apply List.Perm.append_left
    refine List.Perm.trans ?_ ((held_perm hi).append_left _)
    exact perm_middle.symm
  · exact forall_mem_append.mpr ⟨h.freeList_state, forall_mem_singleton.mpr hstate⟩
  · intro other hother
    exact h.held_state other (mem_of_mem_eraseIdx hother)

lemma putToPendingQueue (hstate : (s.pool.entries holding.index).state = .pending) :
    Conserved nofBuffers ⟨s.pool.putToPendingQueue holding.index, s.held.eraseIdx i⟩ := by
  rw [FrameBufferPool.putToPendingQueue, if_pos (h.pendingList_lt hi)]
  refine ⟨h.size, ?_, h.freeList_state, ?_, ?_⟩
  · refine List.Perm.trans ?_ h.places
    simp only [PoolState.places, append_assoc]
    apply List.Perm.append_left
    apply List.Perm.append_left
    exact held_perm hi
  · exact forall_mem_append.mpr ⟨h.pendingList_state, forall_mem_singleton.mpr hstate⟩
  · intro other hother
    exact h.held_state other (mem_of_mem_eraseIdx hother)

lemma beginRelease (hphase : holding.phase = .handle) :
    Conserved nofBuffers (s.beginRelease i holding.index) := by
  have hstate := h.held_state holding (mem_of_getElem? hi)
  rw [hphase] at hstate
  rw [PoolState.beginRelease]
  split
  · split <;> exact h.retag hi rfl
  · exact h.retag hi rfl
  · exact h.retag hi rfl
  · rename_i hfree
    contradiction

end

end Conserved

variable {s after : PoolState}

lemma withHeld_eq_some {i : Nat} {f : Nat → Option PoolState}
    (h : s.withHeld i phase f = some after) :
    ∃ holding, s.held[i]? = some holding ∧ holding.phase = phase ∧
      f holding.index = some after := by
  obtain ⟨holding, hi, h⟩ := bind_eq_some_iff.mp h
  split at h
  · rename_i hphase
    exact ⟨holding, hi, hphase, h⟩
  · cases h

lemma step_conserved {nofBuffers : Nat} {action : Action} (h : Conserved nofBuffers s)
    (hstep : s.step action = some after) : Conserved nofBuffers after := by
  cases action with
  | popFree =>
    cases hstep
    unfold pop
    split
    · exact h
    · rename_i index rest hlist
      exact h.popFree hlist
  | finishReserve i symbolPoint | finishQueue i | returnToPending i =>
    rw [step] at hstep
    obtain ⟨holding, hi, -, hstep⟩ := withHeld_eq_some hstep
    split at hstep
    · cases hstep
      exact h.retag hi nofun
    · cases hstep
  | setSize i newSize =>
    rw [step] at hstep
    obtain ⟨holding, hi, hphase, hstep⟩ := withHeld_eq_some hstep
    split at hstep
    · cases hstep
      have hstate := h.held_state holding (mem_of_getElem? hi)
      rw [hphase] at hstate
      exact h.retag hi hstate
    · cases hstep
  | popPending =>
    cases hstep
    unfold pop
    split
    · exact h
    · rename_i index rest hlist
      exact h.popPending hlist nofun
  | popPendingToQueue =>
    cases hstep
    unfold pop
    split
    · exact h
    · rename_i index rest hlist
      exact h.popPending hlist rfl
  | beginRelease i =>
    rw [step] at hstep
    obtain ⟨holding, hi, hphase, hstep⟩ := withHeld_eq_some hstep
    cases hstep
    exact h.beginRelease hi hphase
  | finishRelease i =>
    obtain ⟨holding, hi, hstep⟩ := bind_eq_some_iff.mp hstep
    have hstate := h.held_state holding (mem_of_getElem? hi)
    split at hstep
    · rename_i hphase
      rw [hphase] at hstate
      cases hstep
      exact h.free hi hstate
    · rename_i hphase
      rw [hphase] at hstate
      cases hstep
      exact h.putToPendingQueue hi hstate
    · cases hstep

section

variable {nofBuffers : Nat} {s : PoolState}

lemma set_last (held : List Holding) (old new : Holding) :
    (held ++ [old]).set held.length new = held ++ [new] := by
  rw [set_append_right _ _ le_rfl, Nat.sub_self]
  rfl

lemma getElem?_last (held : List Holding) (holding : Holding) :
    (held ++ [holding])[held.length]? = some holding := by
  rw [getElem?_append_right le_rfl, Nat.sub_self]
  rfl

section

variable (h : Conserved nofBuffers s)

include h

lemma reserve_eq_run {symbolPoint : SlotSymbolPoint} {index : Nat} {after : FrameBufferPool}
    (hresv : s.pool.reserve symbolPoint = some (index, after)) :
    [.popFree, .finishReserve s.held.length symbolPoint].foldlM step s =
      some ⟨after, s.held ++ [⟨index, .handle⟩]⟩ := by
  unfold reserve at hresv
  split at hresv
  · cases hresv
  rename_i hlist
  cases hresv
  have hstate := h.freeList_state index (by rw [hlist]; exact mem_cons_self)
  rw [foldlM_cons, step, hlist]
  simp only [pop, bind_eq_bind, bind_some, foldlM_cons,
    foldlM_nil, step, withHeld, getElem?_last, if_true, hstate,
    PoolState.retag, set_last]
  rfl

lemma updateState_eq_run {i index : Nat} (hi : s.held[i]? = some ⟨index, .handle⟩) :
    [.beginRelease i, .finishRelease i].foldlM step s =
      some ⟨s.pool.updateState index, s.held.eraseIdx i⟩ := by
  have hstate := h.held_state ⟨index, .handle⟩ (mem_of_getElem? hi)
  obtain ⟨hlt, -⟩ := List.getElem?_eq_some_iff.mp hi
  have hset : ∀ phase, (s.held.set i ⟨index, phase⟩)[i]? = some ⟨index, phase⟩ :=
    fun _ => getElem?_set_self hlt
  have hbegin : s.step (.beginRelease i) = some (s.beginRelease i index) := by
    simp only [step, withHeld, hi, bind_some, if_true]
  have hfinish : (s.beginRelease i index).step (.finishRelease i) =
      some ⟨s.pool.updateState index, s.held.eraseIdx i⟩ := by
    rw [step, PoolState.finishRelease, PoolState.beginRelease, updateState]
    cases hcur : (s.pool.entries index).state with
    | reserved =>
      simp only
      split
      · simp only [PoolState.retag, hset, bind_some, eraseIdx_set_eq]
        rfl
      · simp only [PoolState.retag, hset, bind_some, eraseIdx_set_eq]
        rfl
    | pending | queued =>
      simp only [PoolState.retag, hset, bind_some, eraseIdx_set_eq]
      rfl
    | free => exact absurd hcur hstate
  rw [foldlM_cons, hbegin, bind_eq_bind, bind_some, foldlM_cons, hfinish]
  rfl

lemma queue_eq_run {index : Nat} (hlist : s.pool.pendingList = index :: rest) :
    [.popPendingToQueue, .finishQueue s.held.length].foldlM step s =
      some ⟨({ s.pool with pendingList := rest } : FrameBufferPool).setState index .queued,
        s.held ++ [⟨index, .handle⟩]⟩ := by
  have hstate := h.pendingList_state index (by rw [hlist]; exact mem_cons_self)
  rw [foldlM_cons, step, hlist]
  simp only [pop, bind_eq_bind, bind_some, foldlM_cons,
    foldlM_nil, step, withHeld, getElem?_last, if_true, hstate,
    PoolState.retag, set_last]
  rfl

lemma enqueuePending_run : ∃ actions : List Action, actions.foldlM step s =
      some ⟨s.pool.enqueuePending.2,
        s.held ++ s.pool.pendingList.map fun index => ⟨index, .handle⟩⟩ := by
  generalize hlist : s.pool.pendingList = list
  induction list generalizing s with
  | nil =>
    refine ⟨[], ?_⟩
    simp only [enqueuePending, hlist, foldlM_nil, map_nil,
      append_nil, not_mem_nil, if_false]
    rw [← hlist]
    rfl
  | cons index rest ih =>
    have hqueue := queue_eq_run h hlist
    generalize hnext : (⟨_, _⟩ : PoolState) = next at hqueue
    have hconserved : Conserved nofBuffers next := by
      apply foldlM_invariant (Conserved nofBuffers) hqueue h
      intro before action after _ hbefore hstep
      exact step_conserved hbefore hstep
    subst hnext
    obtain ⟨actions, hactions⟩ := ih hconserved rfl
    refine ⟨[.popPendingToQueue, .finishQueue s.held.length] ++ actions, ?_⟩
    rw [foldlM_append, hqueue, bind_eq_bind, bind_some, hactions]
    simp only [enqueuePending, setState,
      setEntry, hlist, map_cons, append_assoc, singleton_append]
    congr 3
    funext other
    by_cases hother : other = index
    · subst hother
      simp
    · simp [hother]

/-- A call with room in the burst for all pending buffers is a run of actions that may interleave.
-/
theorem enqueuePending_eq_run {α : Type} (handle : Nat → α) {burst : List α}
    (hroom : burst.length + s.pool.pendingList.length ≤ maxTxBurstSize) :
    ∃ after, s.pool.enqueuePendingInto handle burst =
        some (burst ++ s.pool.pendingList.map handle, after) ∧ after.pendingList = [] ∧
      ∃ actions : List Action, actions.foldlM step s =
        some ⟨after, s.held ++ s.pool.pendingList.map fun index => ⟨index, .handle⟩⟩ := by
  refine ⟨_, ?_, rfl, enqueuePending_run h⟩
  rw [enqueuePendingInto_eq _ _ (by omega), if_pos (by rwa [length_append, length_map])]
  rfl

end

end

lemma create_conserved (minNofBuffers : Nat) :
    Conserved (minNofBuffers * 2) (.create minNofBuffers) := by
  refine ⟨rfl, ?_, fun _ _ => rfl, nofun, nofun⟩
  simp [PoolState.create, PoolState.places, new]

/-- Whatever the users of a pool do, each buffer is in one place, in the state of that place. -/
theorem conserved_of_run (minNofBuffers : Nat) (actions : List Action) (final : PoolState)
    (hrun : actions.foldlM step (.create minNofBuffers) = some final) :
    Conserved (minNofBuffers * 2) final :=
  foldlM_invariant (Conserved (minNofBuffers * 2)) hrun (create_conserved minNofBuffers)
    fun _ _ _ _ h hstep => step_conserved h hstep

def exampleActions : List Action :=
  [.popFree, .finishReserve 0 ⟨14, 1, 0⟩, .popFree, .setSize 0 100, .finishReserve 1 ⟨14, 1, 0⟩,
    .beginRelease 0, .finishRelease 0, .popPending, .returnToPending 1, .beginRelease 1,
    .beginRelease 0, .finishRelease 1, .popPendingToQueue, .finishQueue 1, .finishRelease 0]

theorem exampleActions_conserved : ∃ final, exampleActions.foldlM step (.create 1) = some final ∧
      final.held = [⟨0, .handle⟩] ∧ Conserved (1 * 2) final := by
  have hrun : (exampleActions.foldlM step (.create 1)).map PoolState.held =
      some [⟨0, .handle⟩] := by
    decide
  obtain ⟨final, hfinal, hheld⟩ := map_eq_some_iff.mp hrun
  exact ⟨final, hfinal, hheld, conserved_of_run 1 exampleActions final hfinal⟩

/-- Two frames are written and left pending. -/
def twoFrames : List Action :=
  [.popFree, .finishReserve 0 ⟨14, 1, 0⟩, .setSize 0 100, .popFree, .finishReserve 1 ⟨14, 1, 0⟩,
    .setSize 1 80, .beginRelease 0, .finishRelease 0, .beginRelease 0, .finishRelease 0]

theorem twoFrames_enqueued : ∃ s after, twoFrames.foldlM step (.create 1) = some s ∧
    s.pool.enqueuePendingInto id [7] = some ([7, 0, 1], after) ∧ after.pendingList = [] ∧
      ∃ actions : List Action, actions.foldlM step s =
        some ⟨after, [⟨0, .handle⟩, ⟨1, .handle⟩]⟩ := by
  have hrun : (twoFrames.foldlM step (.create 1)).map (fun s => (s.pool.pendingList, s.held)) =
      some ([0, 1], []) := by
    decide
  obtain ⟨s, hs, heq⟩ := map_eq_some_iff.mp hrun
  obtain ⟨hpending, hheld⟩ := Prod.mk.inj heq
  have hconserved : Conserved (1 * 2) s :=
    foldlM_invariant _ hs (create_conserved 1) fun _ _ _ _ h hstep => step_conserved h hstep
  obtain ⟨after, hcall, hempty, hactions⟩ :=
    @enqueuePending_eq_run _ s hconserved _ id [7] (by rw [hpending]; decide)
  rw [hpending] at hcall hactions
  rw [hheld] at hactions
  exact ⟨s, after, hs, hcall, hempty, hactions⟩

end ProtoRu.FramePool
