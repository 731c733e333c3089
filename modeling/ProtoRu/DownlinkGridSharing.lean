import ProtoRu.DownlinkGridIsolation

namespace ProtoRu.DownlinkGrid

open Cplane Option DownlinkScheduling RxGridContext RxGridContextRepository List

/-- The requests to the upper PHY for a grid of the slot, granted or not. -/
def requests (slot : SlotPoint) (state : State) : List SlotPoint :=
  state.requested.filter (· = slot)

def Known (slot : SlotPoint) (repo : RxGridContextRepository) : Prop :=
  (∃ pending ∈ repo.pending, pending.context.slot = slot) ∨ (repo.findGrid slot).isSome

/-- The entries of a slot refer to one grid, the one that `findGrid` finds. -/
def OneGrid (slot : SlotPoint) (repo : RxGridContextRepository) : Prop :=
  ∀ symbol < maxNsymbPerSlot, ∀ grid, (repo.entry slot symbol).gridFor slot = some grid →
    repo.findGrid slot = some grid

/-- The entries of the slot keep their grids and the resource elements marked as received. -/
def Kept (slot : SlotPoint) (repo next : RxGridContextRepository) : Prop :=
  ∀ symbol, ((repo.entry slot symbol).gridFor slot).isSome →
    (repo.entry slot symbol).Extends (next.entry slot symbol)

/-- One grid is shared by the entries of the slot, and asked for once if any is registered. -/
structure Shared (slot : SlotPoint) (state : State) : Prop where
  one_grid : OneGrid slot state.repo
  requested : Known slot state.repo → (requests slot state).length = 1
  unrequested : ¬ Known slot state.repo → requests slot state = []

/-- Commands for other slots have other entries, and no symbol of the slot is finalised. -/
def Undisturbed (config : DownlinkConfig) (slot : SlotPoint) (state : State) : Event → Prop
  | .command results _ =>
    calculateRepositoryIndex results.radioHdr.slot state.repo.size =
      calculateRepositoryIndex slot state.repo.size → results.radioHdr.slot = slot
  | .close =>
    calculateRepositoryIndex (state.closing config).getSlot state.repo.size ≠
      calculateRepositoryIndex slot state.repo.size
  | _ => True

/-- A command for the slot finds a grid, stored or given, earlier registrations applied and room
in the queue, and asks for some symbols of a slot. -/
def Registers (slot : SlotPoint) (state : State) : Event → Prop
  | .command results offered => results.radioHdr.slot = slot →
      ((state.repo.findGrid slot).isSome ∨ offered.isSome) ∧
      (∀ pending ∈ state.repo.pending, pending.context.slot ≠ slot) ∧
      state.repo.pending.length < state.repo.size ∧
      0 < results.sectionFields.nofSymbols ∧
      results.radioHdr.startSymbol + results.sectionFields.nofSymbols ≤ maxNsymbPerSlot
  | _ => True

section

variable {slot : SlotPoint} {repo next : RxGridContextRepository} {pending : PendingContext}

lemma findGrid_congr (h : ∀ symbol, (next.entry slot symbol).gridFor slot =
      (repo.entry slot symbol).gridFor slot) : next.findGrid slot = repo.findGrid slot := by
  simp [findGrid, h]

lemma findGrid_isSome {symbol : Nat} (hsym : symbol < maxNsymbPerSlot)
    (h : ((repo.entry slot symbol).gridFor slot).isSome) : (repo.findGrid slot).isSome := by
  rw [findGrid, findSome?_isSome_iff]
  exact ⟨symbol, mem_range.mpr hsym, h⟩

lemma oneGrid_of_forall (shared : ResourceGrid) (h : ∀ symbol < maxNsymbPerSlot, ∀ grid,
      (repo.entry slot symbol).gridFor slot = some grid → grid = shared) : OneGrid slot repo := by
  intro symbol hsym grid hgrid
  obtain ⟨found, hfound⟩ := isSome_iff_exists.mp
    (findGrid_isSome hsym (isSome_of_eq_some hgrid))
  obtain ⟨other, hother, hat⟩ := exists_of_findSome?_eq_some hfound
  rw [hfound, h symbol hsym grid hgrid, h other (mem_range.mp hother) found hat]

lemma Kept.trans {final : RxGridContextRepository} (h : Kept slot repo next)
    (hnext : Kept slot next final) : Kept slot repo final := by
  intro symbol hsome
  have hkept := h symbol hsome
  exact hkept.trans (hnext symbol (by rwa [hkept.gridFor_eq]))

lemma kept_of_entry_eq (h : ∀ symbol, next.entry slot symbol = repo.entry slot symbol) :
    Kept slot repo next := by
  intro symbol _
  rw [h]
  exact .refl

section

variable {context : ResourceGridContext} {grid : ResourceGrid}

lemma registerSymbol_kept {symbol : Nat}
    (h : registerSymbol context grid repo symbol = some next) :
    Kept context.slot repo next ∧
      ((next.entry context.slot symbol).gridFor context.slot).isSome := by
  simp only [registerSymbol] at h
  split at h
  · split at h
    next hstored =>
      obtain rfl := some.inj h
      exact ⟨fun _ _ => .refl, hstored⟩
    next hvacant =>
      obtain rfl := some.inj h
      refine ⟨fun other hother => ?_, ?_⟩
      · have hsame : other ≠ symbol := by
          rintro rfl
          exact hvacant hother
        simp only [entry, setEntry, hsame, and_false, if_false]
        exact .refl
      · simp [entry, setEntry, gridFor, RxGridContext.new]
  · cases h

lemma foldlM_registerSymbol_kept {symbols : List Nat}
    (h : symbols.foldlM (registerSymbol context grid) repo = some next) :
    Kept context.slot repo next := by
  apply foldlM_invariant (Kept context.slot repo) h (fun _ _ => .refl)
  intro before symbol after _ hbefore hstep
  exact hbefore.trans (registerSymbol_kept hstep).1

end

section

variable (h : repo.register pending = some next)

include h

lemma register_entry_of_index_ne
    (hindex : calculateRepositoryIndex pending.context.slot repo.size ≠ calculateRepositoryIndex
      slot repo.size) (symbol : Nat) : next.entry slot symbol = repo.entry slot symbol := by
  have hregistered := register_registered h
  simp only [entry, hregistered.size_eq]
  obtain hsame | ⟨hother, -⟩ := hregistered.buffer (calculateRepositoryIndex slot repo.size) symbol
  · exact hsame
  · omega

lemma register_kept
    (halias : calculateRepositoryIndex pending.context.slot repo.size = calculateRepositoryIndex
      slot repo.size → pending.context.slot = slot) : Kept slot repo next := by
  by_cases hindex : calculateRepositoryIndex pending.context.slot repo.size =
      calculateRepositoryIndex slot repo.size
  · rw [← halias hindex]
    exact foldlM_registerSymbol_kept h
  · exact kept_of_entry_eq (register_entry_of_index_ne h hindex)

lemma register_findGrid (hrange : pending.symbolRange.start < pending.symbolRange.stop)
    (hmax : pending.symbolRange.stop ≤ maxNsymbPerSlot) :
    (next.findGrid pending.context.slot).isSome := by
  obtain ⟨rest, hrest⟩ : ∃ rest, pending.symbolRange.symbols =
      pending.symbolRange.start :: rest := by
    obtain ⟨count, hcount⟩ := Nat.exists_eq_add_of_lt hrange
    refine ⟨range' (pending.symbolRange.start + 1) count, ?_⟩
    rw [OfdmSymbolRange.symbols, ← range'_succ]
    congr 1
    omega
  simp only [register, hrest, foldlM_cons] at h
  obtain ⟨first, hfirst, hlater⟩ := bind_eq_some_iff.mp h
  have hstored := (registerSymbol_kept hfirst).2
  refine findGrid_isSome (hrange.trans_le hmax) ?_
  rwa [(foldlM_registerSymbol_kept hlater _ hstored).gridFor_eq]

end

lemma OneGrid.register (hone : OneGrid pending.context.slot repo)
    (h : repo.register pending = some next) : OneGrid pending.context.slot next := by
  have hregistered := register_registered h
  apply oneGrid_of_forall ((repo.findGrid pending.context.slot).getD pending.grid)
  intro symbol hsym grid hgrid
  simp only [entry, hregistered.size_eq] at hgrid
  obtain hsame | ⟨-, -, hnew⟩ := hregistered.buffer
    (calculateRepositoryIndex pending.context.slot repo.size) symbol
  · rw [hsame] at hgrid
    rw [hone symbol hsym grid hgrid]
    rfl
  · rw [hnew] at hgrid
    simpa [gridFor, RxGridContext.new] using hgrid.symm

lemma findGrid_add : (repo.add pending).findGrid slot = repo.findGrid slot := by
  rw [add]
  split <;> rfl

lemma entry_add (symbol : Nat) :
    (repo.add pending).entry slot symbol = repo.entry slot symbol := by
  rw [add]
  split <;> rfl

lemma gridFor_add (symbol : Nat) :
    ((repo.add pending).entry slot symbol).gridFor slot =
      (repo.entry slot symbol).gridFor slot := by
  rw [entry_add]

lemma mem_pending_add {other : PendingContext} (h : other ∈ (repo.add pending).pending) :
    other ∈ repo.pending ∨ other = pending := by
  rw [add] at h
  split at h
  · simpa using h
  · exact .inl h

lemma known_add (hslot : pending.context.slot ≠ slot) :
    Known slot (repo.add pending) ↔ Known slot repo := by
  rw [Known, Known, findGrid_add, add]
  split
  · simp [hslot]
  · rfl

end

variable {offered : Option ResourceGrid} {results : CplaneMessageDecoderResults} (index : Nat)

section

variable {config : DownlinkConfig} {slot : SlotPoint} {state next : State}

structure Tracked (slot : SlotPoint) (state : State) : Prop extends Shared slot state where
  own_entries : ∀ pending ∈ state.repo.pending,
    calculateRepositoryIndex pending.context.slot state.repo.size =
      calculateRepositoryIndex slot state.repo.size → pending.context.slot = slot
  range : ∀ pending ∈ state.repo.pending, pending.context.slot = slot →
    pending.symbolRange.start < pending.symbolRange.stop ∧
      pending.symbolRange.stop ≤ maxNsymbPerSlot

lemma Shared.congr (h : Shared slot state)
    (hentry : ∀ symbol, (next.repo.entry slot symbol).gridFor slot =
      (state.repo.entry slot symbol).gridFor slot)
    (hrequests : requests slot next = requests slot state)
    (hknown : Known slot next.repo ↔ Known slot state.repo) : Shared slot next where
  one_grid symbol hsym grid hgrid := by
    rw [hentry] at hgrid
    rw [findGrid_congr hentry]
    exact h.one_grid symbol hsym grid hgrid
  requested hnext := by
    rw [hrequests]
    exact h.requested (hknown.mp hnext)
  unrequested hnext := by
    rw [hrequests]
    exact h.unrequested (mt hknown.mpr hnext)

lemma Tracked.congr (h : Tracked slot state) (hsize : next.repo.size = state.repo.size)
    (hpending : next.repo.pending = state.repo.pending)
    (hentry : ∀ symbol, (next.repo.entry slot symbol).gridFor slot =
      (state.repo.entry slot symbol).gridFor slot)
    (hrequests : requests slot next = requests slot state) : Tracked slot next := by
  refine ⟨h.toShared.congr hentry hrequests ?_, ?_, ?_⟩
  · rw [Known, Known, hpending, findGrid_congr hentry]
  · rw [hsize, hpending]
    exact h.own_entries
  · rw [hpending]
    exact h.range

lemma tracked_initial (start : Int) : Tracked slot (initial config start) := by
  have hempty (symbol : Nat) :
      ((initial config start).repo.entry slot symbol).gridFor slot = none := by
    rw [gridFor]
    split <;> rfl
  have hknown : ¬ Known slot (initial config start).repo := by
    rintro (⟨pending, hpend, -⟩ | hfind)
    · exact absurd hpend not_mem_nil
    · obtain ⟨grid, hgrid⟩ := isSome_iff_exists.mp hfind
      obtain ⟨symbol, -, hat⟩ := exists_of_findSome?_eq_some hgrid
      simp [hempty] at hat
  refine ⟨⟨fun symbol _ grid hgrid => ?_, fun h => absurd h hknown, fun _ => rfl⟩, ?_, ?_⟩
  · simp [hempty] at hgrid
  · exact fun _ h => absurd h not_mem_nil
  · exact fun _ h => absurd h not_mem_nil

section

variable (h : Tracked slot state)

include h

lemma Tracked.add {pending : PendingContext} (hnext : next.repo = state.repo.add pending)
    (hshared : Shared slot next)
    (halias : calculateRepositoryIndex pending.context.slot state.repo.size =
      calculateRepositoryIndex slot state.repo.size → pending.context.slot = slot)
    (hrange : pending.context.slot = slot → pending.symbolRange.start < pending.symbolRange.stop ∧
      pending.symbolRange.stop ≤ maxNsymbPerSlot) : Tracked slot next := by
  have hsize : next.repo.size = state.repo.size := by
    rw [hnext, RxGridContextRepository.add]
    split <;> rfl
  refine ⟨hshared, fun other hother => ?_, fun other hother => ?_⟩
  · rw [hnext] at hother
    rw [hsize]
    obtain hold | rfl := mem_pending_add hother
    · exact h.own_entries other hold
    · exact halias
  · rw [hnext] at hother
    obtain hold | rfl := mem_pending_add hother
    · exact h.range other hold
    · exact hrange

lemma Tracked.command (halias : Undisturbed config slot state (.command results offered))
    (hregisters : Registers slot state (.command results offered)) :
    Tracked slot (state.command config results offered) := by
  have hrange (hslot : results.radioHdr.slot = slot) :
      (symbolRange results).start < (symbolRange results).stop ∧
        (symbolRange results).stop ≤ maxNsymbPerSlot := by
    obtain ⟨-, -, -, hpos, hmax⟩ := hregisters hslot
    exact ⟨Nat.lt_add_of_pos_right hpos, hmax⟩
  simp only [State.command]
  rcases hfind : state.repo.findGrid results.radioHdr.slot with _ | grid
  · obtain _ | grid := offered
    · have hslot : results.radioHdr.slot ≠ slot := by
        intro hslot
        have hgrid := (hregisters hslot).1
        rw [← hslot, hfind] at hgrid
        simp at hgrid
      refine h.congr rfl rfl (fun _ => rfl) ?_
      simp [requests, hslot]
    refine h.add rfl ?_ halias hrange
    by_cases hslot : results.radioHdr.slot = slot
    · obtain ⟨-, hnone, hroom, -⟩ := hregisters hslot
      have hunknown : ¬ Known slot state.repo := by
        rintro (⟨pending, hpend, hfor⟩ | hsome)
        · exact hnone pending hpend hfor
        · rw [← hslot, hfind] at hsome
          cases hsome
      have hrequests := h.unrequested hunknown
      rw [requests] at hrequests
      refine ⟨fun symbol hsym other hother => ?_, fun _ => ?_, fun hnot => ?_⟩
      · rw [entry_add] at hother
        rw [findGrid_add]
        exact h.one_grid symbol hsym other hother
      · simp [requests, hrequests, hslot]
      · refine absurd (.inl ?_) hnot
        simp only [RxGridContextRepository.add, if_pos hroom]
        exact ⟨_, mem_append_right _ (mem_singleton_self _), hslot⟩
    · refine h.toShared.congr gridFor_add ?_ (known_add hslot)
      simp [requests, hslot]
  · refine h.add rfl ?_ halias hrange
    by_cases hslot : results.radioHdr.slot = slot
    · have hsome : (state.repo.findGrid slot).isSome := by
        rw [← hslot, hfind]
        rfl
      refine h.toShared.congr gridFor_add rfl (iff_of_true (.inr ?_) (.inr hsome))
      rwa [findGrid_add]
    · exact h.toShared.congr gridFor_add rfl (known_add hslot)

lemma Tracked.process :
    Tracked slot (state.process index) ∧ Kept slot state.repo (state.process index).repo := by
  simp only [State.process]
  rcases hpend : state.repo.pending[index]? with _ | pending
  · exact ⟨h, fun _ _ => .refl⟩
  obtain ⟨hindex, hget⟩ := List.getElem?_eq_some_iff.mp hpend
  have hperm := getElem_cons_eraseIdx_perm hindex
  rw [hget] at hperm
  have hmem : pending ∈ state.repo.pending := mem_of_getElem? hpend
  dsimp only
  rcases hreg : RxGridContextRepository.register
    { state.repo with pending := state.repo.pending.eraseIdx index } pending with _ | repo
  · exact ⟨h, fun _ _ => .refl⟩
  have hqueue := register_pending hreg
  have hsize := (register_registered hreg).size_eq
  have hkept := register_kept hreg (h.own_entries pending hmem)
  have hone : OneGrid slot
    { state.repo with pending := state.repo.pending.eraseIdx index } := h.one_grid
  refine ⟨⟨?_, ?_, ?_⟩, hkept⟩
  · by_cases hslot : pending.context.slot = slot
    · have hknown : Known slot state.repo := .inl ⟨pending, hmem, hslot⟩
      obtain ⟨hstart, hstop⟩ := h.range pending hmem hslot
      refine ⟨?_, fun _ => h.requested hknown, fun hnot => absurd (.inr ?_) hnot⟩
      · subst hslot
        exact hone.register hreg
      · rw [← hslot]
        exact register_findGrid hreg hstart hstop
    · have hentry := register_entry_of_index_ne hreg (mt (h.own_entries pending hmem) hslot)
      have hgrids (symbol : Nat) : (repo.entry slot symbol).gridFor slot =
          (state.repo.entry slot symbol).gridFor slot := congrArg (gridFor · slot) (hentry symbol)
      refine h.toShared.congr hgrids rfl ?_
      rw [Known, Known, findGrid_congr hgrids, hqueue]
      refine or_congr ⟨?_, ?_⟩ Iff.rfl
      · rintro ⟨other, hother, hfor⟩
        exact ⟨other, mem_of_mem_eraseIdx hother, hfor⟩
      rintro ⟨other, hother, hfor⟩
      rw [← hperm.mem_iff, mem_cons] at hother
      obtain rfl | hrest := hother
      · exact absurd hfor hslot
      · exact ⟨other, hrest, hfor⟩
  · intro other hother
    rw [hqueue] at hother
    rw [hsize]
    exact h.own_entries other (mem_of_mem_eraseIdx hother)
  · intro other hother
    rw [hqueue] at hother
    exact h.range other (mem_of_mem_eraseIdx hother)

lemma Tracked.close (hopen : Undisturbed config slot state .close) :
    Tracked slot (state.close config) ∧ Kept slot state.repo (state.close config).repo := by
  obtain ⟨hsize, hpend, -, hbuf⟩ := popResourceGridSymbol_buffer state.repo
    (state.closing config).getSlot (state.closing config).getSymbolIndex
  have hentry (symbol : Nat) :
      (state.close config).repo.entry slot symbol = state.repo.entry slot symbol := by
    simp only [entry, State.close, hsize]
    exact hbuf _ _ (.inl (Ne.symm hopen))
  refine ⟨h.congr hsize hpend (fun symbol => ?_) rfl, kept_of_entry_eq hentry⟩
  rw [hentry]

lemma Tracked.write :
    Tracked slot (state.write index) ∧ Kept slot state.repo (state.write index).repo := by
  simp only [State.write]
  split
  · exact ⟨h, fun _ _ => .refl⟩
  split
  · exact ⟨h, fun _ _ => .refl⟩
  next repo hwrite =>
    have hmarked := writeGrid_marked hwrite
    have hentry (symbol : Nat) :
        (state.repo.entry slot symbol).Extends (repo.entry slot symbol) := by
      simp only [entry, hmarked.size_eq]
      exact hmarked.buffer _ symbol
    exact ⟨h.congr hmarked.size_eq hmarked.pending_eq
      (fun symbol => (hentry symbol).gridFor_eq slot) rfl, fun symbol _ => hentry symbol⟩

end

lemma command_kept : Kept slot state.repo (state.command config results offered).repo := by
  simp only [State.command]
  split
  · exact kept_of_entry_eq entry_add
  · exact kept_of_entry_eq entry_add
  · exact fun _ _ => .refl

lemma Tracked.step (h : Tracked slot state) (event : Event)
    (hguard : Undisturbed config slot state event ∧ Registers slot state event) :
    Tracked slot (state.step config event) := by
  cases event with
  | command results offered => exact h.command hguard.1 hguard.2
  | process index => exact (h.process index).1
  | lookup eaxc results =>
    simp only [State.step, State.lookup]
    split
    · exact h
    · exact h.congr rfl rfl (fun _ => rfl) rfl
  | write index => exact (h.write index).1
  | close => exact (h.close hguard.1).1

lemma Tracked.step_kept (h : Tracked slot state) (event : Event)
    (hguard : Undisturbed config slot state event) :
    Kept slot state.repo (state.step config event).repo := by
  cases event with
  | command results offered => exact command_kept
  | process index => exact (h.process index).2
  | lookup eaxc results =>
    simp only [State.step, State.lookup]
    split
    · exact fun _ _ => .refl
    · exact fun _ _ => .refl
  | write index => exact (h.write index).2
  | close => exact (h.close hguard).2

end

/-- When every command registers, the entries of the slot share the only grid asked for, and no
registered entry loses it or what was received. -/
theorem one_grid_of_registers (config : DownlinkConfig) (slot : SlotPoint) (start : Int)
    (events : List Event)
    (hguarded : Guarded (State.step config)
      (fun state event => Undisturbed config slot state event ∧ Registers slot state event)
      (initial config start) events) :
    Shared slot ((initial config start).run config events) ∧
    ∀ event, Undisturbed config slot ((initial config start).run config events) event →
      Kept slot ((initial config start).run config events).repo
        (((initial config start).run config events).step config event).repo := by
  have htracked := hguarded.invariant (Tracked slot) (fun _ event h => h.step event)
    (tracked_initial start)
  exact ⟨htracked.toShared, htracked.step_kept⟩

def symbolsCommand (startSymbol nofSymbols : Nat) : CplaneMessageDecoderResults :=
  { slotCommand 0 with
    radioHdr := ⟨.downlink, .standardChannelFilter, startSymbol, ⟨0, 0⟩⟩
    sectionFields := ⟨0, 0, 25, 0xfff, nofSymbols⟩ }

/-- Two commands for the slot, with data of symbol 0 received in between. -/
def twoCommands (nofSymbols : Nat) : List Event :=
  [.command (symbolsCommand 0 nofSymbols) (some grid25Prbs), .process 0,
    .lookup 0 (symbolData 0), .write 0,
    .command (symbolsCommand 0 14) (some grid25Prbs), .process 0]

theorem twoCommands_share : Guarded (State.step sector15kHz) (fun state event =>
      Undisturbed sector15kHz ⟨0, 0⟩ state event ∧ Registers ⟨0, 0⟩ state event)
      (initial sector15kHz 280) (twoCommands 7) ∧
    Shared ⟨0, 0⟩ ((initial sector15kHz 280).run sector15kHz (twoCommands 7)) ∧
    (((initial sector15kHz 280).run sector15kHz (twoCommands 7)).repo.entry ⟨0, 0⟩ 0).reWritten 0
      11 = true := by
  have hguarded : Guarded (State.step sector15kHz) (fun state event =>
      Undisturbed sector15kHz ⟨0, 0⟩ state event ∧ Registers ⟨0, 0⟩ state event)
      (initial sector15kHz 280) (twoCommands 7) := by
    refine ⟨⟨fun _ => rfl, fun _ => ?_⟩, ⟨trivial, trivial⟩, ⟨trivial, trivial⟩, ⟨trivial, trivial⟩,
      ⟨fun _ => rfl, fun _ => ?_⟩, ⟨trivial, trivial⟩, trivial⟩
    all_goals decide +kernel
  have hresult := one_grid_of_registers sector15kHz ⟨0, 0⟩ 280 (twoCommands 7) hguarded
  exact ⟨hguarded, hresult.1, by decide +kernel⟩

/-- A command for no symbol, one whose registration is not applied yet and one that is refused:
the next command asks for a grid again. -/
theorem secondGrid_requested :
    (requests ⟨0, 0⟩ ((initial sector15kHz 280).run sector15kHz (twoCommands 0))).length = 2 ∧
    (∀ offered ∈ [some grid25Prbs, none], (requests ⟨0, 0⟩ ((initial sector15kHz 280).run
      sector15kHz [.command (symbolsCommand 0 7) offered,
        .command (symbolsCommand 7 7) (some grid25Prbs)])).length = 2) ∧
    ¬ Shared ⟨0, 0⟩ ((initial sector15kHz 280).run sector15kHz (twoCommands 0)) := by
  have htwo : (requests ⟨0, 0⟩
      ((initial sector15kHz 280).run sector15kHz (twoCommands 0))).length = 2 := by
    decide +kernel
  refine ⟨htwo, by decide +kernel, fun hshared => ?_⟩
  by_cases hknown : Known ⟨0, 0⟩ ((initial sector15kHz 280).run sector15kHz (twoCommands 0)).repo
  · exact absurd (hshared.requested hknown) (by rw [htwo]; decide)
  · rw [hshared.unrequested hknown] at htwo
    cases htwo

end ProtoRu.DownlinkGrid
