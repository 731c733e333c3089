import ProtoRu.TransmitBursts

namespace ProtoRu.FramePool

open TransmitBursts FrameBufferPool List

inductive MessageType where
  | controlPlane
  | userPlane
  | uplanePrach
deriving DecidableEq

structure PoolKind where
  poolFramesType : MessageType
  poolFramesDataDirection : DataDirection
deriving DecidableEq

def symbolEntry (slot : SlotPoint) (symbol : Nat) : Nat :=
  (slot.slotIndex * nofOfdmSymPerSlotNormalCp + symbol) % numEntries

def isLate (pool : FrameBufferPool) (slot : SlotPoint) (idx : Nat) : Bool :=
  (pool.entries idx).reservationSymbolPoint.getSlot ≠ slot

def popPending (pool : FrameBufferPool) : Option (List Nat × FrameBufferPool) :=
  (pool.pendingList.foldlM emplaceBack []).map fun burst =>
    (burst, { pool with pendingList := [] })

def returnToPending (pool : FrameBufferPool) (idx : Nat) : FrameBufferPool :=
  pool.setState idx .reserved

def checkExpiry (slot : SlotPoint) (checked : Nat × FrameBufferPool) (idx : Nat) :
    Nat × FrameBufferPool :=
  if isLate checked.2 slot idx then (checked.1 + 1, checked.2)
  else (checked.1, returnToPending checked.2 idx)

def clearEntry (pool : FrameBufferPool) (slot : SlotPoint) : Option (Nat × FrameBufferPool) :=
  (popPending pool).map fun (burst, pool) =>
    let checked := burst.foldl (checkExpiry slot) (0, pool)
    (checked.1, burst.foldl updateState checked.2)

/-- DL C-Plane is only written in the first symbol of a slot. -/
def PoolKind.symbols (kind : PoolKind) : List Nat :=
  if kind = ⟨.controlPlane, .downlink⟩ then [0] else range nofOfdmSymPerSlotNormalCp

def clearSymbol (slot : SlotPoint) (cleared : Nat × EthFramePool) (symbol : Nat) :
    Option (Nat × EthFramePool) :=
  (clearEntry (cleared.2.pool (symbolEntry slot symbol)) slot).map fun (nofLates, pool) =>
    (cleared.1 + nofLates, cleared.2.setPool (symbolEntry slot symbol) pool)

def clearSlot (kind : PoolKind) (frames : EthFramePool) (slot : SlotPoint) :
    Option (Nat × EthFramePool) :=
  kind.symbols.foldlM (clearSymbol slot) (0, frames)

def lates (pool : FrameBufferPool) (slot : SlotPoint) : List Nat :=
  pool.pendingList.filter (isLate pool slot)

/-- An entry whose late frames are free, and whose other pending frames stay as they are. -/
def withoutLates (pool : FrameBufferPool) (slot : SlotPoint) : FrameBufferPool where
  numberOfBuffers := pool.numberOfBuffers
  entries := fun idx =>
    if idx ∈ lates pool slot then { pool.entries idx with state := .free } else pool.entries idx
  freeList := pool.freeList ++ lates pool slot
  pendingList := pool.pendingList.filter fun idx => !isLate pool slot idx

/-- Exactly the late pending frames of the slot are freed and counted, and nothing else changes.
-/
def ClearsLates (kind : PoolKind) (frames : EthFramePool) (slot : SlotPoint) : Prop :=
  ∃ nofLates after, clearSlot kind frames slot = some (nofLates, after) ∧
    nofLates = ((range nofOfdmSymPerSlotNormalCp).map fun symbol =>
      (lates (frames.pool (symbolEntry slot symbol)) slot).length).sum ∧
    (∀ symbol < nofOfdmSymPerSlotNormalCp, after.pool (symbolEntry slot symbol) =
      withoutLates (frames.pool (symbolEntry slot symbol)) slot) ∧
    ∀ entry, (∀ symbol < nofOfdmSymPerSlotNormalCp, entry ≠ symbolEntry slot symbol) →
      after.pool entry = frames.pool entry

/-- What every content of a pool has: the queues fit the states, and a pending frame has been
written. -/
structure Content (frames : EthFramePool) : Prop where
  consistent : frames.Consistent
  written : ∀ entry, ∀ idx ∈ (frames.pool entry).pendingList,
    ((frames.pool entry).entries idx).size ≠ 0

section

variable {pool : FrameBufferPool} {slot : SlotPoint}

lemma setState_entries_eq (pool : FrameBufferPool) (idx : Nat) (state : BufferState) :
    (pool.setState idx state).entries = fun other =>
      if other ∈ [idx] then { pool.entries other with state := state } else pool.entries other := by
  funext other
  rw [setState, setEntry_entries]
  by_cases hother : other = idx <;> simp [hother]

lemma isLate_congr {after : FrameBufferPool}
    (h : ∀ idx, (after.entries idx).reservationSymbolPoint =
      (pool.entries idx).reservationSymbolPoint) : isLate after slot = isLate pool slot := by
  funext idx
  simp [isLate, h]

def rereserved (pool : FrameBufferPool) (slot : SlotPoint) (burst : List Nat) : FrameBufferPool :=
  { pool with
    entries := fun idx =>
      if idx ∈ burst ∧ isLate pool slot idx = false then
        { pool.entries idx with state := .reserved }
      else pool.entries idx }

lemma foldl_checkExpiry (burst : List Nat) (nofLates : Nat) (pool : FrameBufferPool) :
    burst.foldl (checkExpiry slot) (nofLates, pool) =
      (nofLates + (burst.filter (isLate pool slot)).length, rereserved pool slot burst) := by
  induction burst generalizing nofLates pool with
  | nil =>
    simp [rereserved]
  | cons idx rest ih =>
    rw [foldl_cons, checkExpiry]
    split_ifs with hlate
    · rw [ih, filter_cons_of_pos hlate, length_cons]
      refine Prod.ext (by simp only; omega) ?_
      simp only [rereserved, mk.injEq, true_and, and_true]
      funext other
      by_cases hother : other = idx
      · subst hother
        simp [hlate]
      · simp [hother]
    · have hsame : isLate (returnToPending pool idx) slot = isLate pool slot :=
        isLate_congr fun other => by
          rw [returnToPending, setState_entries_eq]
          dsimp only
          split <;> rfl
      rw [ih, hsame, filter_cons_of_neg hlate]
      refine Prod.ext rfl ?_
      rw [rereserved, rereserved, hsame]
      simp only [returnToPending, setState, setEntry, mk.injEq, true_and, and_true]
      funext other
      by_cases hother : other = idx
      · subst hother
        simp [hlate]
      · simp [hother]

def Checked (pool : FrameBufferPool) (slot : SlotPoint) (idx : Nat) : Prop :=
  if isLate pool slot idx then (pool.entries idx).state = .pending
  else (pool.entries idx).state = .reserved ∧ (pool.entries idx).size ≠ 0

def settled (pool : FrameBufferPool) (slot : SlotPoint) (burst : List Nat) : FrameBufferPool where
  numberOfBuffers := pool.numberOfBuffers
  entries := fun idx =>
    if idx ∈ burst then
      { pool.entries idx with state := if isLate pool slot idx then .free else .pending }
    else pool.entries idx
  freeList := pool.freeList ++ burst.filter (isLate pool slot)
  pendingList := pool.pendingList ++ burst.filter fun idx => !isLate pool slot idx

lemma updateState_eq_settled {idx : Nat} (hchecked : Checked pool slot idx)
    (hroom : pool.pendingList.length < pool.numberOfBuffers) :
    pool.updateState idx = settled pool slot [idx] := by
  rw [Checked] at hchecked
  rw [updateState, settled]
  split_ifs at hchecked with hlate
  case' pos =>
    rw [hchecked]
    simp only [free, setState_entries_eq, mk.injEq]
  case' neg =>
    obtain ⟨hstate, hsize⟩ := hchecked
    have hroom' : (pool.setState idx .pending).pendingList.length <
        (pool.setState idx .pending).numberOfBuffers := hroom
    rw [hstate]
    simp only [if_neg hsize, putToPendingQueue, if_pos hroom', setState_entries_eq, mk.injEq]
  all_goals
    refine ⟨rfl, ?_, ?_, ?_⟩
    · funext other
      by_cases hother : other = idx
      · simp [hother, hlate]
      · simp [hother]
    · simp [hlate]
      rfl
    · simp [hlate]
      rfl

lemma isLate_settled (pool : FrameBufferPool) (slot : SlotPoint) (burst : List Nat) :
    isLate (settled pool slot burst) slot = isLate pool slot := by
  apply isLate_congr
  intro idx
  simp only [settled]
  split <;> rfl

lemma foldl_updateState {burst : List Nat} (hnodup : burst.Nodup)
    (hchecked : ∀ idx ∈ burst, Checked pool slot idx)
    (hroom : pool.pendingList.length + burst.length ≤ pool.numberOfBuffers) :
    burst.foldl updateState pool = settled pool slot burst := by
  induction burst generalizing pool with
  | nil => simp [settled]
  | cons idx rest ih =>
    obtain ⟨hnot, hnodup⟩ := nodup_cons.mp hnodup
    rw [length_cons] at hroom
    rw [foldl_cons, updateState_eq_settled (hchecked idx mem_cons_self) (by omega)]
    have hother : ∀ other ∈ rest, (settled pool slot [idx]).entries other = pool.entries other := by
      intro other hother
      have hne : other ≠ idx := ne_of_mem_of_not_mem hother hnot
      simp [settled, hne]
    rw [ih hnodup ?_ ?_]
    · rw [settled, isLate_settled]
      simp only [settled, filter_cons, filter_nil, mk.injEq, true_and]
      refine ⟨?_, ?_, ?_⟩
      · funext other
        by_cases hrest : other ∈ rest
        · have hne : other ≠ idx := ne_of_mem_of_not_mem hrest hnot
          simp [hne]
        · by_cases hsame : other = idx <;> simp [hsame]
      · split <;> simp
      · split <;> simp
    · intro other hmem
      have hbefore := hchecked other (mem_cons_of_mem _ hmem)
      rwa [Checked, isLate_settled, hother other hmem]
    · have hlen : (settled pool slot [idx]).pendingList.length ≤ pool.pendingList.length + 1 := by
        simp only [settled, length_append]
        exact Nat.add_le_add_left (length_filter_le _ [idx]) _
      have hnumber : (settled pool slot [idx]).numberOfBuffers = pool.numberOfBuffers := rfl
      omega

lemma popPending_eq (pool : FrameBufferPool) : popPending pool =
      if pool.pendingList.length ≤ maxTxBurstSize then
        some (pool.pendingList, { pool with pendingList := [] })
      else none := by
  rw [popPending, foldlM_emplaceBack pool.pendingList (Nat.zero_le _), nil_append]
  split <;> rfl

lemma isLate_rereserved (pool : FrameBufferPool) (slot : SlotPoint) (burst : List Nat) :
    isLate (rereserved pool slot burst) slot = isLate pool slot := by
  apply isLate_congr
  intro idx
  simp only [rereserved]
  split <;> rfl

/-- After the check of all pending frames only the late ones have changed their place. -/
lemma settled_rereserved (hpool : pool.Consistent) :
    settled (rereserved { pool with pendingList := [] } slot pool.pendingList) slot
      pool.pendingList = withoutLates pool slot := by
  have hsame : isLate { pool with pendingList := [] } slot = isLate pool slot := rfl
  rw [settled, isLate_rereserved, withoutLates]
  simp only [rereserved, hsame, mk.injEq, true_and, nil_append, lates, and_true]
  funext idx
  by_cases hpend : idx ∈ pool.pendingList
  · have hstate := hpool.pendingList_state idx hpend
    by_cases hlate : isLate pool slot idx
    · simp [hlate]
    · simp only [hpend, hlate, mem_filter, if_true, and_true, and_false,
        Bool.false_eq_true, if_false]
      rw [← hstate]
  · simp [hpend]

lemma clearEntry_eq (hpool : pool.Consistent)
    (hwrit : ∀ idx ∈ pool.pendingList, (pool.entries idx).size ≠ 0) : clearEntry pool slot =
      if pool.pendingList.length ≤ maxTxBurstSize then
        some ((lates pool slot).length, withoutLates pool slot)
      else none := by
  rw [clearEntry, popPending_eq]
  split
  · have hchecked : ∀ idx ∈ pool.pendingList,
        Checked (rereserved { pool with pendingList := [] } slot pool.pendingList) slot idx := by
      intro idx hidx
      have hsame : isLate { pool with pendingList := [] } slot = isLate pool slot := rfl
      rw [Checked, isLate_rereserved]
      simp only [rereserved, hsame]
      by_cases hlate : isLate pool slot idx
      · simpa [hlate] using (hpool.pendingList_state idx hidx)
      · simpa [hlate, hidx] using hwrit idx hidx
    have hlen : pool.pendingList.length ≤ pool.numberOfBuffers := by
      have hsubset : pool.pendingList ⊆ range pool.numberOfBuffers :=
        fun idx hidx => mem_range.mpr (hpool.pendingList_lt idx hidx)
      have hle := (hpool.pendingList_nodup.subperm hsubset).length_le
      rw [length_range] at hle
      exact hle
    have hroom : ([] : List Nat).length + pool.pendingList.length ≤ pool.numberOfBuffers := by
      rwa [length_nil, Nat.zero_add]
    have hrels := foldl_updateState hpool.pendingList_nodup hchecked hroom
    simp only [Option.map_some, foldl_checkExpiry]
    rw [hrels, settled_rereserved hpool, Nat.zero_add]
    rfl
  · rfl

lemma withoutLates_eq_self_iff :
    withoutLates pool slot = pool ↔ ∀ idx ∈ pool.pendingList, isLate pool slot idx = false := by
  constructor
  · intro h idx hidx
    simpa using filter_eq_self.mp (congrArg pendingList h) idx hidx
  · intro h
    have hnone : lates pool slot = [] := by
      rw [lates, filter_eq_nil_iff]
      intro idx hidx
      simp [h idx hidx]
    have hall : (pool.pendingList.filter fun idx => !isLate pool slot idx) = pool.pendingList := by
      rw [filter_eq_self]
      intro idx hidx
      simp [h idx hidx]
    simp [withoutLates, hnone, hall]

end

section

variable {frames : EthFramePool} {slot : SlotPoint}

lemma symbolEntry_injective {symbol other : Nat} (hsym : symbol < nofOfdmSymPerSlotNormalCp)
    (hother : other < nofOfdmSymPerSlotNormalCp)
    (h : symbolEntry slot symbol = symbolEntry slot other) : symbol = other := by
  simp only [symbolEntry, numEntries, nofOfdmSymPerSlotNormalCp, numSlots] at *
  omega

def clearSymbols (frames : EthFramePool) (slot : SlotPoint) (symbols : List Nat) : EthFramePool :=
  ⟨fun entry =>
    if entry ∈ symbols.map (symbolEntry slot) then withoutLates (frames.pool entry) slot
    else frames.pool entry⟩

def countLates (frames : EthFramePool) (slot : SlotPoint) (symbols : List Nat) : Nat :=
  (symbols.map fun symbol => (lates (frames.pool (symbolEntry slot symbol)) slot).length).sum

lemma foldlM_clearSymbol (hcontn : Content frames) {symbols : List Nat} (hnodup : symbols.Nodup)
    (hlt : ∀ symbol ∈ symbols, symbol < nofOfdmSymPerSlotNormalCp) (nofLates : Nat)
    (done : EthFramePool) (hdone : ∀ symbol ∈ symbols,
      done.pool (symbolEntry slot symbol) = frames.pool (symbolEntry slot symbol)) :
    symbols.foldlM (clearSymbol slot) (nofLates, done) =
      if ∀ symbol ∈ symbols,
          (frames.pool (symbolEntry slot symbol)).pendingList.length ≤ maxTxBurstSize then
        some (nofLates + countLates frames slot symbols, clearSymbols done slot symbols)
      else none := by
  induction symbols generalizing nofLates done with
  | nil => simp [clearSymbols, countLates]
  | cons symbol rest ih =>
    obtain ⟨hnot, hnodup⟩ := nodup_cons.mp hnodup
    have hentry : ∀ other ∈ rest, symbolEntry slot other ≠ symbolEntry slot symbol := by
      intro other hother hsame
      have heq := symbolEntry_injective (hlt other (mem_cons_of_mem _ hother))
        (hlt symbol mem_cons_self) hsame
      exact hnot (heq ▸ hother)
    have hfirst : clearSymbol slot (nofLates, done) symbol =
        if (frames.pool (symbolEntry slot symbol)).pendingList.length ≤ maxTxBurstSize then
          some (nofLates + (lates (frames.pool (symbolEntry slot symbol)) slot).length,
            done.setPool (symbolEntry slot symbol)
              (withoutLates (frames.pool (symbolEntry slot symbol)) slot))
        else none := by
      rw [clearSymbol, hdone symbol mem_cons_self,
        clearEntry_eq (hcontn.consistent.pool_consistent _) (hcontn.written _)]
      split <;> rfl
    rw [foldlM_cons, hfirst]
    simp only [forall_mem_cons]
    split
    · rename_i hroom
      have hrest := ih hnodup (fun other hother => hlt other (mem_cons_of_mem _ hother))
        (nofLates + (lates (frames.pool (symbolEntry slot symbol)) slot).length)
        (done.setPool (symbolEntry slot symbol)
          (withoutLates (frames.pool (symbolEntry slot symbol)) slot)) (by
        intro other hother
        rw [EthFramePool.setPool_pool, Function.update_of_ne (hentry other hother)]
        exact hdone other (mem_cons_of_mem _ hother))
      simp only [hroom, true_and]
      rw [Option.bind_eq_bind, Option.bind_some, hrest]
      split
      · simp only [Option.some.injEq, Prod.mk.injEq]
        refine ⟨?_, ?_⟩
        · rw [countLates, countLates, map_cons, sum_cons, Nat.add_assoc]
        simp only [clearSymbols, EthFramePool.mk.injEq, EthFramePool.setPool_pool]
        funext entry
        by_cases hsame : entry = symbolEntry slot symbol
        · have hleft : entry ∉ rest.map (symbolEntry slot) := by
            intro hmem
            obtain ⟨other, hother, heq⟩ := mem_map.mp hmem
            exact hentry other hother (heq.trans hsame)
          rw [if_neg hleft, if_pos (by rw [hsame]; simp), hsame, Function.update_self,
            hdone symbol mem_cons_self]
        · simp [hsame]
      · rfl
    · rename_i hroom
      simp [hroom]

lemma PoolKind.symbols_lt (kind : PoolKind) :
    ∀ symbol ∈ kind.symbols, symbol < nofOfdmSymPerSlotNormalCp := by
  intro symbol hsym
  rw [PoolKind.symbols] at hsym
  split at hsym
  · rw [mem_singleton.mp hsym]
    decide
  · exact mem_range.mp hsym

lemma clearSlot_eq (hcontn : Content frames) (kind : PoolKind) : clearSlot kind frames slot =
      if ∀ symbol ∈ kind.symbols,
          (frames.pool (symbolEntry slot symbol)).pendingList.length ≤ maxTxBurstSize then
        some (countLates frames slot kind.symbols, clearSymbols frames slot kind.symbols)
      else none := by
  have hnodup : kind.symbols.Nodup := by
    rw [PoolKind.symbols]
    split
    · exact nodup_singleton 0
    · exact nodup_range
  rw [clearSlot, foldlM_clearSymbol hcontn hnodup kind.symbols_lt 0 frames (fun _ _ => rfl),
    Nat.zero_add]

lemma clearSymbols_pool_of_unvisited {kind : PoolKind} {symbol : Nat}
    (hsym : symbol < nofOfdmSymPerSlotNormalCp) (hunvisited : symbol ∉ kind.symbols) :
    (clearSymbols frames slot kind.symbols).pool (symbolEntry slot symbol) =
      frames.pool (symbolEntry slot symbol) := by
  apply if_neg
  intro hmem
  obtain ⟨other, hother, hsame⟩ := mem_map.mp hmem
  rw [symbolEntry_injective (kind.symbols_lt other hother) hsym hsame] at hother
  exact hunvisited hother

/-- The count is right as well when the symbols that are not looked at have no late frames. -/
lemma countLates_eq {kind : PoolKind}
    (hnone : ∀ symbol < nofOfdmSymPerSlotNormalCp, symbol ∉ kind.symbols →
      lates (frames.pool (symbolEntry slot symbol)) slot = []) :
    countLates frames slot kind.symbols =
      countLates frames slot (range nofOfdmSymPerSlotNormalCp) := by
  rw [PoolKind.symbols] at *
  split_ifs with hkind
  · simp only [hkind, if_true, mem_singleton] at hnone
    have hrange : range nofOfdmSymPerSlotNormalCp = 0 :: (range 13).map Nat.succ :=
      range_succ_eq_map
    rw [countLates, countLates, hrange]
    simp only [map_cons, map_nil, sum_cons, sum_nil, Nat.add_zero, map_map]
    symm
    apply Nat.add_eq_left.mpr
    apply sum_eq_zero
    intro count hcount
    obtain ⟨symbol, hsym, rfl⟩ := mem_map.mp hcount
    have hlt := mem_range.mp hsym
    rw [Function.comp_apply,
      hnone symbol.succ (Nat.succ_lt_succ hlt) (Nat.succ_ne_zero symbol), length_nil]
  · rfl

end

/-- A slot is cleared of its late frames if each entry looked at fits in a burst, and the others
have no late ones. -/
theorem clearsLates_iff (kind : PoolKind) (frames : EthFramePool) (slot : SlotPoint)
    (hcontent : Content frames) :
    ClearsLates kind frames slot ↔ ∀ symbol < nofOfdmSymPerSlotNormalCp,
        if symbol ∈ kind.symbols then
          (frames.pool (symbolEntry slot symbol)).pendingList.length ≤ maxTxBurstSize
        else ∀ idx ∈ (frames.pool (symbolEntry slot symbol)).pendingList,
          isLate (frames.pool (symbolEntry slot symbol)) slot idx = false := by
  rw [ClearsLates, clearSlot_eq hcontent kind]
  constructor
  · rintro ⟨nofLates, after, hclear, -, hentries, -⟩ symbol hsymbol
    split at hclear
    · rename_i hroom
      cases hclear
      split
      · rename_i hvisited
        exact hroom symbol hvisited
      rename_i hunvisited
      have hentry := hentries symbol hsymbol
      rw [clearSymbols_pool_of_unvisited hsymbol hunvisited] at hentry
      exact withoutLates_eq_self_iff.mp hentry.symm
    · cases hclear
  · intro h
    have hroom : ∀ symbol ∈ kind.symbols,
        (frames.pool (symbolEntry slot symbol)).pendingList.length ≤ maxTxBurstSize := by
      intro symbol hvisited
      have hsymbol := h symbol (kind.symbols_lt symbol hvisited)
      rw [if_pos hvisited] at hsymbol
      exact hsymbol
    have hnone : ∀ symbol < nofOfdmSymPerSlotNormalCp, symbol ∉ kind.symbols →
        ∀ idx ∈ (frames.pool (symbolEntry slot symbol)).pendingList,
          isLate (frames.pool (symbolEntry slot symbol)) slot idx = false := by
      intro symbol hlt hunvisited
      have hsymbol := h symbol hlt
      rw [if_neg hunvisited] at hsymbol
      exact hsymbol
    rw [if_pos hroom]
    refine ⟨_, _, rfl, countLates_eq ?_, ?_, ?_⟩
    · intro symbol hsymbol hunvisited
      rw [lates, filter_eq_nil_iff]
      intro idx hidx
      simp [hnone symbol hsymbol hunvisited idx hidx]
    · intro symbol hsymbol
      by_cases hvisited : symbol ∈ kind.symbols
      · exact if_pos (mem_map_of_mem hvisited)
      · rw [clearSymbols_pool_of_unvisited hsymbol hvisited]
        exact (withoutLates_eq_self_iff.mpr (hnone symbol hsymbol hvisited)).symm
    · intro entry hentry
      apply if_neg
      intro hmem
      obtain ⟨symbol, hsymbol, rfl⟩ := mem_map.mp hmem
      exact hentry symbol (kind.symbols_lt symbol hsymbol) rfl

section

def oneEntry (nofBuffers nofPending : Nat) : EthFramePool :=
  ⟨fun entry =>
    { numberOfBuffers := nofBuffers
      entries := fun idx =>
        if entry = 0 ∧ idx < nofPending then ⟨.pending, 64, ⟨14, 1, 0⟩⟩
        else ⟨.free, 0, ⟨14, 1, 0⟩⟩
      freeList := if entry = 0 then range' nofPending (nofBuffers - nofPending)
        else range nofBuffers
      pendingList := if entry = 0 then range nofPending else [] }⟩

lemma oneEntry_content {nofBuffers nofPending : Nat} (hle : nofPending ≤ nofBuffers) :
    Content (oneEntry nofBuffers nofPending) := by
  refine ⟨⟨fun entry => ?_⟩, ?_⟩
  · by_cases hentry : entry = 0
    · refine ⟨?_, ?_, ?_, ?_, ?_, ?_⟩
      all_goals simp only [oneEntry, hentry, if_true, true_and]
      · exact nodup_range'
      · exact nodup_range
      · intro idx hidx
        rw [mem_range'_1] at hidx
        omega
      · intro idx hidx
        rw [mem_range] at hidx
        omega
      · intro idx hidx
        rw [mem_range'_1] at hidx
        rw [if_neg (by omega)]
      · intro idx hidx
        rw [if_pos (mem_range.mp hidx)]
    · refine ⟨?_, ?_, ?_, ?_, ?_, ?_⟩
      all_goals simp only [oneEntry, hentry, if_false, false_and]
      · exact nodup_range
      · exact nodup_nil
      · exact fun idx hidx => mem_range.mp hidx
      · exact nofun
      · exact fun _ _ => trivial
      · exact nofun
  · intro entry idx hidx
    simp only [oneEntry] at hidx ⊢
    split_ifs at hidx with hentry
    · rw [if_pos ⟨hentry, mem_range.mp hidx⟩]
      decide
    · cases hidx

def nextRing : SlotPoint := ⟨1, 20⟩

def uplinkUplane : PoolKind := ⟨.userPlane, .uplink⟩

theorem fewLates_cleared : ClearsLates uplinkUplane (oneEntry 32 5) nextRing ∧
      (clearSlot uplinkUplane (oneEntry 32 5) nextRing).map Prod.fst = some 5 := by
  refine ⟨?_, by decide⟩
  apply (clearsLates_iff uplinkUplane (oneEntry 32 5) nextRing (oneEntry_content (by decide))).mpr
  decide

/-- With ten frames a symbol, 129 late frames of one entry do not fit in the burst. -/
theorem manyLates_assert :
    Content (oneEntry 160 129) ∧ clearSlot uplinkUplane (oneEntry 160 129) nextRing = none ∧
      ¬ ClearsLates uplinkUplane (oneEntry 160 129) nextRing := by
  have hcontent := @oneEntry_content 160 129 (by decide)
  have hclear : clearSlot uplinkUplane (oneEntry 160 129) nextRing = none := by
    rw [clearSlot_eq hcontent]
    apply if_neg
    intro hall
    have hfirst := hall 0 (by decide)
    have hlength : ((oneEntry 160 129).pool (symbolEntry nextRing 0)).pendingList.length = 129 :=
      length_range
    rw [hlength] at hfirst
    exact absurd hfirst (by decide)
  refine ⟨hcontent, hclear, ?_⟩
  rintro ⟨nofLates, after, hsome, -⟩
  rw [hclear] at hsome
  cases hsome

end

end ProtoRu.FramePool
