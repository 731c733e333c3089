import ProtoRu.DownlinkGridRuns

namespace ProtoRu.DownlinkGrid

open Cplane DownlinkConfig SlotSymbolPoint Option Uplane
open RxGridContextRepository (new findGrid entry writeGrid)

/-- Data of a slot only reaches grids registered for it, and so does the hand-over when it closes.
-/
structure Isolated (state : State) : Prop where
  writes : ∀ write ∈ state.writes, write.context.slot = write.data.slot ∧
    (write.data.slot, write.grid) ∈ state.granted
  completions : ∀ completion ∈ state.completions,
    completion.context.slot = wireSlot completion.closing ∧
    (wireSlot completion.closing, completion.grid) ∈ state.granted

def nextClosing (config : DownlinkConfig) (state : State) : Int :=
  state.now - config.finalizeOffsetSymbols

/-- A symbol of the wire numbering that is still to close, at the next visit of its entry. -/
@[mk_iff]
structure Upcoming (config : DownlinkConfig) (closing : Int) (slot : SlotPoint)
    (symbol : Nat) : Prop where
  numerology_eq : slot.numerology = config.numerology
  count_lt : slot.count < wirePeriod config.numerology
  symbol_lt : symbol < config.nofSymbols
  inWindow : InWindow config.wireSymbols config.ringSymbols closing (config.position slot symbol)

instance (config : DownlinkConfig) (closing : Int) (slot : SlotPoint) (symbol : Nat) :
    Decidable (Upcoming config closing slot symbol) :=
  decidable_of_iff _ (upcoming_iff config closing slot symbol).symm

/-- Registrations are applied and data is written while their symbols are still to close. -/
def InTime (config : DownlinkConfig) (state : State) : Event → Prop
  | .process index => ∀ pending ∈ state.repo.pending[index]?,
      ∀ symbol ∈ pending.symbolRange.symbols,
        Upcoming config (nextClosing config state) pending.context.slot symbol
  | .write index => ∀ data ∈ state.inFlight[index]?,
      Upcoming config (nextClosing config state) data.slot data.symbol ∨
        (state.repo.entry data.slot data.symbol).empty
  | _ => True

instance (config : DownlinkConfig) (state : State) (event : Event) :
    Decidable (InTime config state event) := by
  cases event <;> dsimp only [InTime] <;> infer_instance

variable {slot : SlotPoint} {other : Nat}

section

variable {config : DownlinkConfig}

lemma nofSymbols_pos : 0 < config.nofSymbols := getNsymbPerSlot_pos config.cp

lemma wireSymbols_pos : 0 < config.wireSymbols :=
  Nat.mul_pos (wirePeriod_pos _) nofSymbols_pos

lemma ringSymbols_pos : 0 < config.ringSymbols :=
  Nat.mul_pos (sectorRepoSize_pos _) nofSymbols_pos

lemma ringSymbols_dvd_wireSymbols : config.ringSymbols ∣ config.wireSymbols :=
  Nat.mul_dvd_mul_right (sectorRepoSize_dvd_wirePeriod config.scs) _

variable {a b : SlotPoint} {symbol : Nat} {closing : Int}

lemma calculateRepositoryIndex_eq_iff (ha : a.numerology = config.numerology)
    (hb : b.numerology = config.numerology) :
    calculateRepositoryIndex a (sectorRepoSize config.scs) =
        calculateRepositoryIndex b (sectorRepoSize config.scs) ↔
      a.count ≡ b.count [MOD sectorRepoSize config.scs] := by
  have hdvd := sectorRepoSize_dvd_wirePeriod config.scs
  rw [calculateRepositoryIndex_eq a (by rwa [ha]), calculateRepositoryIndex_eq b (by rwa [hb])]
  rfl

lemma calculateRepositoryIndex_wireSlot (hslot : slot.numerology = config.numerology) :
    calculateRepositoryIndex (wireSlot slot) (sectorRepoSize config.scs) =
      calculateRepositoryIndex slot (sectorRepoSize config.scs) := by
  apply (calculateRepositoryIndex_eq_iff (a := wireSlot slot) hslot hslot).mpr
  apply (Nat.mod_modEq _ _).of_dvd
  rw [hslot]
  exact sectorRepoSize_dvd_wirePeriod config.scs

lemma position_inj (hsym : symbol < config.nofSymbols) (hother : other < config.nofSymbols)
    (h : config.position a symbol = config.position b other) :
    a.count = b.count ∧ symbol = other := by
  have hquot (count : Nat) {s : Nat} (hs : s < config.nofSymbols) :
      (count * config.nofSymbols + s) / config.nofSymbols = count := by
    rw [mul_comm, Nat.mul_add_div nofSymbols_pos, Nat.div_eq_of_lt hs, add_zero]
  simp only [position] at h
  have hcount : a.count = b.count := by
    rw [← hquot a.count hsym, h, hquot b.count hother]
  rw [hcount] at h
  exact ⟨hcount, Nat.add_left_cancel h⟩

lemma Upcoming.position_lt (h : Upcoming config closing slot symbol) :
    config.position slot symbol < config.wireSymbols := by
  have hcount := h.count_lt
  have hsym := h.symbol_lt
  calc slot.count * config.nofSymbols + symbol
      < (slot.count + 1) * config.nofSymbols := by rw [add_mul]; omega
    _ ≤ wirePeriod config.numerology * config.nofSymbols := Nat.mul_le_mul_right _ hcount

lemma Upcoming.eq_of_modEq (ha : Upcoming config closing a symbol)
    (hb : Upcoming config closing b other)
    (h : (config.position a symbol : Int) ≡ config.position b other [ZMOD config.wireSymbols]) :
    a = b ∧ symbol = other := by
  have hposn := Nat.ModEq.eq_of_lt_of_lt (Int.natCast_modEq_iff.mp h) ha.position_lt hb.position_lt
  obtain ⟨hcount, hsym⟩ := position_inj ha.symbol_lt hb.symbol_lt hposn
  exact ⟨SlotPoint.ext (ha.numerology_eq.trans hb.numerology_eq.symm) hcount, hsym⟩

lemma Upcoming.eq_of_index_eq (ha : Upcoming config closing a symbol)
    (hb : Upcoming config closing b symbol)
    (hindex : calculateRepositoryIndex a (sectorRepoSize config.scs) = calculateRepositoryIndex b
      (sectorRepoSize config.scs)) : a = b := by
  have hcount := (calculateRepositoryIndex_eq_iff ha.numerology_eq hb.numerology_eq).mp hindex
  have hposn : config.position a symbol ≡ config.position b symbol
      [MOD config.ringSymbols] := (hcount.mul_right' _).add_right _
  have hwire := InWindow.modEq wireSymbols_pos ringSymbols_dvd_wireSymbols ha.inWindow
    hb.inWindow (Int.natCast_modEq_iff.mpr hposn)
  exact (ha.eq_of_modEq hb hwire).1

def closingPoint (config : DownlinkConfig) (closing : Int) : SlotSymbolPoint :=
  .ofAbsolute config.nofSymbols config.numerology closing

lemma closingPoint_getSlot (closing : Int) : (closingPoint config closing).getSlot =
    ⟨config.numerology, (closingPoint config closing).count / config.nofSymbols⟩ :=
  if_pos (toNumerologyValue_lt config.scs)

lemma position_closing_modEq (closing : Int) :
    (config.position (wireSlot (closingPoint config closing).getSlot)
      (closingPoint config closing).getSymbolIndex : Int) ≡ closing [ZMOD config.wireSymbols] := by
  have hposn : config.position (wireSlot (closingPoint config closing).getSlot)
      (closingPoint config closing).getSymbolIndex =
        (closingPoint config closing).count % config.wireSymbols := by
    rw [closingPoint_getSlot, wireSymbols, mul_comm, Nat.mod_mul, add_comm]
    rw [mul_comm]
    rfl
  have hwrap : (config.wireSymbols : Int) ∣
      wrapLength config.nofSymbols config.numerology := by
    apply Int.natCast_dvd_natCast.mpr
    refine ⟨4, ?_⟩
    simp only [wrapLength, wireSymbols, wirePeriod, nofSfns, sfnMaxValue]
    ring
  have hcount : ((closingPoint config closing).count : Int) ≡ closing
      [ZMOD config.wireSymbols] := by
    rw [closingPoint, ofAbsolute_count_cast nofSymbols_pos]
    exact (Int.mod_modEq _ _).of_dvd hwrap
  rw [hposn]
  exact (Int.mod_modEq _ _).trans hcount

lemma upcoming_closing (closing : Int) :
    Upcoming config closing (wireSlot (closingPoint config closing).getSlot)
      (closingPoint config closing).getSymbolIndex where
  numerology_eq := by rw [closingPoint_getSlot]; rfl
  count_lt := by
    rw [closingPoint_getSlot]
    exact Nat.mod_lt _ (wirePeriod_pos _)
  symbol_lt := Nat.mod_lt _ nofSymbols_pos
  inWindow := (inWindow_self ringSymbols_pos closing).congr (position_closing_modEq closing)

lemma Upcoming.succ (h : Upcoming config closing slot symbol)
    (hother : ¬(slot = wireSlot (closingPoint config closing).getSlot ∧ symbol = (closingPoint
      config closing).getSymbolIndex))
    : Upcoming config (closing + 1) slot symbol where
  numerology_eq := h.numerology_eq
  count_lt := h.count_lt
  symbol_lt := h.symbol_lt
  inWindow := by
    apply h.inWindow.succ wireSymbols_pos
    intro hmod
    exact hother (h.eq_of_modEq (upcoming_closing closing)
      (hmod.trans (position_closing_modEq closing).symm))

end

/-- A grid in the repository is at the entry of its slot, and its symbol is still to close. -/
structure EntryInTime (config : DownlinkConfig) (state : State) (index symbol : Nat)
    (slot : SlotPoint) (grid : ResourceGrid) : Prop where
  granted : (slot, grid) ∈ state.granted
  index_eq : index = calculateRepositoryIndex slot (sectorRepoSize config.scs)
  upcoming : Upcoming config (nextClosing config state) slot symbol

structure Consistent (config : DownlinkConfig) (state : State) : Prop where
  size_eq : state.repo.size = sectorRepoSize config.scs
  pending : ∀ pending ∈ state.repo.pending, (pending.context.slot, pending.grid) ∈ state.granted
  entries : ∀ index symbol grid, (state.repo.buffer index symbol).grid = some grid →
    EntryInTime config state index symbol (state.repo.buffer index symbol).context.slot grid
  isolated : Isolated state

variable {pending : PendingContext} {index : Nat}

section

variable {config : DownlinkConfig} {state : State}

lemma consistent_initial (start : Int) : Consistent config (initial config start) where
  size_eq := rfl
  pending := by simp [initial, new]
  entries := by simp [initial, new, RxGridContext.initial]
  isolated := ⟨by simp [initial], by simp [initial]⟩

variable {grid : ResourceGrid} {next : State}

lemma EntryInTime.mono {index symbol : Nat} (h : EntryInTime config state index symbol slot grid)
    (hgrant : ∀ grant ∈ state.granted, grant ∈ next.granted) (hnow : next.now = state.now) :
    EntryInTime config next index symbol slot grid where
  granted := hgrant _ h.granted
  index_eq := h.index_eq
  upcoming := by
    rw [nextClosing, hnow]
    exact h.upcoming

lemma Isolated.mono (h : Isolated state) (hwrites : next.writes = state.writes)
    (hcompletions : next.completions = state.completions)
    (hgrant : ∀ grant ∈ state.granted, grant ∈ next.granted) : Isolated next where
  writes := by
    rw [hwrites]
    exact fun write hwrite => (h.writes write hwrite).imp_right (hgrant _)
  completions := by
    rw [hcompletions]
    exact fun completion hcompletion =>
      (h.completions completion hcompletion).imp_right (hgrant _)

section

variable (h : Consistent config state)

include h

lemma Consistent.frame (inFlight : List SectionWrite) (requested : List SlotPoint) :
    Consistent config { state with inFlight := inFlight, requested := requested } where
  size_eq := h.size_eq
  pending := h.pending
  entries index symbol grid hgrid := (h.entries index symbol grid hgrid).mono (fun _ => id) rfl
  isolated := h.isolated.mono rfl rfl fun _ => id

lemma Consistent.add {granted : List (SlotPoint × ResourceGrid)}
    (hgrant : ∀ grant ∈ state.granted, grant ∈ granted)
    (hpend : (pending.context.slot, pending.grid) ∈ granted) :
    Consistent config { state with repo := state.repo.add pending, granted := granted } := by
  have hadd : (state.repo.add pending).size = state.repo.size ∧
      (state.repo.add pending).buffer = state.repo.buffer ∧
      ∀ other ∈ (state.repo.add pending).pending, other ∈ state.repo.pending ∨ other = pending := by
    simp only [RxGridContextRepository.add]
    split
    · exact ⟨rfl, rfl, by simp⟩
    · exact ⟨rfl, rfl, fun _ => .inl⟩
  obtain ⟨hsize, hbuf, hqueue⟩ := hadd
  refine ⟨hsize.trans h.size_eq, fun other hother => ?_, fun index symbol grid hgrid => ?_,
    h.isolated.mono rfl rfl hgrant⟩
  · obtain hold | rfl := hqueue other hother
    · exact hgrant _ (h.pending other hold)
    · exact hpend
  · rw [hbuf] at hgrid ⊢
    exact (h.entries index symbol grid hgrid).mono hgrant rfl

lemma Consistent.findGrid_granted (hfind : state.repo.findGrid slot = some grid) :
    (slot, grid) ∈ state.granted := by
  obtain ⟨symbol, hslot, hgrid⟩ := RxGridContextRepository.findGrid_eq_some hfind
  have hentry := (h.entries _ symbol grid hgrid).granted
  rwa [← hslot]

lemma Consistent.command (results : CplaneMessageDecoderResults) (offered : Option ResourceGrid) :
    Consistent config (state.command config results offered) := by
  simp only [State.command]
  split
  · rename_i grid _ hfind
    exact h.add (fun _ => id) (h.findGrid_granted hfind)
  · exact (h.add (fun _ hgrant => List.mem_append_left _ hgrant) (by simp)).frame _ _
  · exact h.frame _ _

lemma Consistent.register {repo next : RxGridContextRepository}
    (hbuf : repo.buffer = state.repo.buffer) (hsize : repo.size = state.repo.size)
    (hqueue : ∀ other ∈ next.pending, other ∈ state.repo.pending)
    (hpend : pending ∈ state.repo.pending)
    (htime : ∀ symbol ∈ pending.symbolRange.symbols, Upcoming config (nextClosing config state)
      pending.context.slot symbol)
    (hreg : repo.register pending = some next) : Consistent config { state with repo := next } := by
  have hnext := RxGridContextRepository.register_registered hreg
  have hfind : repo.findGrid pending.context.slot = state.repo.findGrid pending.context.slot := by
    simp only [findGrid, entry]
    rw [hbuf, hsize]
  have hgrant : (pending.context.slot,
      (repo.findGrid pending.context.slot).getD pending.grid) ∈ state.granted := by
    rw [hfind]
    rcases hgrid : state.repo.findGrid pending.context.slot with _ | grid
    · exact h.pending pending hpend
    · exact h.findGrid_granted hgrid
  refine ⟨hnext.size_eq.trans (hsize.trans h.size_eq),
    fun other hother => h.pending other (hqueue other hother),
    fun index symbol grid hgrid => ?_, h.isolated.mono rfl rfl fun _ => id⟩
  obtain hkept | ⟨hindex, hsym, hnew⟩ := hnext.buffer index symbol
  · rw [hkept, hbuf] at hgrid ⊢
    exact (h.entries index symbol grid hgrid).mono (fun _ => id) rfl
  rw [hnew] at hgrid ⊢
  obtain rfl := some.inj hgrid
  rw [hsize, h.size_eq] at hindex
  exact ⟨hgrant, hindex, htime symbol hsym⟩

lemma Consistent.process (htime : InTime config state (.process index)) :
    Consistent config (state.process index) := by
  simp only [State.process]
  rcases hpend : state.repo.pending[index]? with _ | pending
  · exact h
  dsimp only
  split
  · exact h
  rename_i next hreg
  refine h.register (by rfl) (by rfl) (fun other hother => ?_)
    (List.mem_of_getElem? hpend) (htime pending hpend) hreg
  rw [RxGridContextRepository.register_pending hreg] at hother
  exact List.mem_of_mem_eraseIdx hother

lemma Consistent.lookup (eaxc : Nat) (results : UplaneMessageDecoderResults) :
    Consistent config (state.lookup config eaxc results) := by
  simp only [State.lookup]
  split
  · exact h
  · exact h.frame _ _

lemma Consistent.write_isolated {data : SectionWrite}
    (htime : Upcoming config (nextClosing config state) data.slot data.symbol ∨ (state.repo.entry
      data.slot data.symbol).empty)
    (hgrid : (state.repo.entry data.slot data.symbol).grid = some grid) :
    (state.repo.entry data.slot data.symbol).context.slot = data.slot ∧
      (data.slot, grid) ∈ state.granted := by
  have hentry := h.entries _ data.symbol grid hgrid
  obtain hupcoming | hempty := htime
  · have hslot := hentry.upcoming.eq_of_index_eq hupcoming (by rw [← hentry.index_eq, h.size_eq])
    exact ⟨hslot, hslot ▸ hentry.granted⟩
  · simp [RxGridContext.empty, hgrid] at hempty

lemma Consistent.write (htime : InTime config state (.write index)) :
    Consistent config (state.write index) := by
  simp only [State.write]
  rcases hdata : state.inFlight[index]? with _ | data
  · exact h
  dsimp only
  split
  · exact h
  next repo hwrite =>
    have hmarked := RxGridContextRepository.writeGrid_marked hwrite
    refine ⟨hmarked.size_eq.trans h.size_eq, ?_, fun index symbol grid hgrid => ?_, ?_,
      h.isolated.completions⟩
    · rw [hmarked.pending_eq]
      exact h.pending
    · have hkept := hmarked.buffer index symbol
      rw [hkept.grid_eq] at hgrid
      rw [hkept.context_eq]
      exact (h.entries index symbol grid hgrid).mono (fun _ => id) rfl
    · intro write hmem
      obtain hold | hnew := List.mem_append.mp hmem
      · exact h.isolated.writes write hold
      · obtain ⟨grid, hgrid, rfl⟩ := map_eq_some_iff.mp (mem_toList.mp hnew)
        exact h.write_isolated (htime data hdata) (hmarked.written grid hgrid)

end

lemma closing_eq : state.closing config = closingPoint config (nextClosing config state) :=
  ofAbsolute_sub nofSymbols_pos _ _ _

lemma closing_index_eq :
    calculateRepositoryIndex (wireSlot (state.closing config).getSlot) (sectorRepoSize config.scs) =
      calculateRepositoryIndex (state.closing config).getSlot (sectorRepoSize config.scs) := by
  apply calculateRepositoryIndex_wireSlot
  rw [closing_eq, closingPoint_getSlot]

section

variable (h : Consistent config state)

include h

lemma Consistent.closing_slot
    (hgrid : (state.repo.entry (state.closing config).getSlot (state.closing
      config).getSymbolIndex).grid = some grid) : (state.repo.entry (state.closing config).getSlot
        (state.closing config).getSymbolIndex).context.slot =
      wireSlot (state.closing config).getSlot ∧
    (wireSlot (state.closing config).getSlot, grid) ∈ state.granted := by
  have hentry := h.entries _ _ grid hgrid
  have hclosing : Upcoming config (nextClosing config state)
      (wireSlot (state.closing config).getSlot) (state.closing config).getSymbolIndex := by
    rw [closing_eq]
    exact upcoming_closing _
  have hslot := hentry.upcoming.eq_of_index_eq hclosing
    (by rw [← hentry.index_eq, h.size_eq, closing_index_eq])
  exact ⟨hslot, hslot ▸ hentry.granted⟩

lemma Consistent.close_entries (index symbol : Nat) (grid : ResourceGrid)
    (hgrid : ((state.close config).repo.buffer index symbol).grid = some grid) :
    EntryInTime config (state.close config) index symbol
      ((state.close config).repo.buffer index symbol).context.slot grid := by
  obtain ⟨hsize, -, hempty, hkept⟩ := state.repo.popResourceGridSymbol_buffer
    (state.closing config).getSlot (state.closing config).getSymbolIndex
  have hother : index ≠ calculateRepositoryIndex (state.closing config).getSlot state.repo.size ∨
      symbol ≠ (state.closing config).getSymbolIndex := by
    by_contra hsame
    obtain ⟨rfl, rfl⟩ := not_or.mp hsame |>.imp not_not.mp not_not.mp
    rw [entry, hsize] at hempty
    cases hempty.symm.trans hgrid
  have hbuf : (state.close config).repo.buffer index symbol = state.repo.buffer index symbol :=
    hkept index symbol hother
  rw [hbuf] at hgrid ⊢
  have hentry := h.entries index symbol grid hgrid
  refine ⟨hentry.granted, hentry.index_eq, ?_⟩
  have hnext : nextClosing config (state.close config) = nextClosing config state + 1 :=
    add_sub_right_comm _ _ _
  rw [hnext]
  apply hentry.upcoming.succ
  rw [← closing_eq]
  rintro ⟨hslot, rfl⟩
  have hindex := hentry.index_eq
  rw [hslot, closing_index_eq, ← h.size_eq] at hindex
  exact hother.elim (· hindex) (· rfl)

lemma Consistent.close : Consistent config (state.close config) := by
  obtain ⟨hsize, hpend, -, -⟩ := state.repo.popResourceGridSymbol_buffer
    (state.closing config).getSlot (state.closing config).getSymbolIndex
  refine ⟨hsize.trans h.size_eq, ?_, h.close_entries, h.isolated.writes, ?_⟩
  · intro pending hmem
    exact h.pending pending (hpend ▸ hmem)
  intro completion hcompletion
  obtain hold | hnew := List.mem_append.mp hcompletion
  · exact h.isolated.completions completion hold
  obtain ⟨info, hinfo, rfl⟩ := map_eq_some_iff.mp (mem_toList.mp hnew)
  rcases hgrid : (state.repo.entry (state.closing config).getSlot
    (state.closing config).getSymbolIndex).grid with _ | grid
  · rw [RxGridContextRepository.popResourceGridSymbol_of_none hgrid] at hinfo
    cases hinfo
  · rw [RxGridContextRepository.popResourceGridSymbol_of_some hgrid] at hinfo
    obtain rfl := some.inj hinfo
    exact h.closing_slot hgrid

lemma Consistent.step (event : Event) (htime : InTime config state event) :
    Consistent config (state.step config event) := by
  cases event with
  | command results offered => exact h.command results offered
  | process index => exact h.process htime
  | lookup eaxc results => exact h.lookup eaxc results
  | write index => exact h.write htime
  | close => exact h.close

end

end

/-- In every run that is in time, data and hand-overs only reach grids registered for their slot.
-/
theorem isolated_of_inTime (config : DownlinkConfig) (start : Int) (events : List Event)
    (htime : Guarded (State.step config) (InTime config) (initial config start) events) :
    Isolated ((initial config start).run config events) :=
  (htime.invariant (Consistent config) (fun _ event h => h.step event)
    (consistent_initial start)).isolated

def sector15kHz : DownlinkConfig where
  scs := .kHz15
  cp := .normal
  sector := 0
  finalizeOffsetSymbols := 0
  eaxcs := [0]

def grid25Prbs : ResourceGrid := ⟨0, 1, 300⟩

def slotCommand (slot : Nat) : CplaneMessageDecoderResults where
  numSections := 1
  sectionType := 1
  radioHdr := ⟨.downlink, .standardChannelFilter, 0, ⟨0, slot⟩⟩
  sectionFields := ⟨0, 0, 25, 0xfff, 14⟩

def symbolData (slot : Nat) : UplaneMessageDecoderResults where
  params := ⟨.downlink, ⟨0, slot⟩, .standardChannelFilter, 0⟩
  sections := [⟨0, true, true, 0, 1, ⟨.none, 16⟩, none, []⟩]

def commandDataClose (commanded received : Nat) : List Event :=
  [.command (slotCommand commanded) (some grid25Prbs), .process 0,
    .lookup 0 (symbolData received), .write 0, .close]

theorem commandDataClose_isolated :
    Guarded (State.step sector15kHz) (InTime sector15kHz) (initial sector15kHz 280)
      (commandDataClose 20 20) ∧
    Isolated ((initial sector15kHz 280).run sector15kHz (commandDataClose 20 20)) := by
  have htime : Guarded (State.step sector15kHz) (InTime sector15kHz)
      (initial sector15kHz 280) (commandDataClose 20 20) := by decide +kernel
  exact ⟨htime, isolated_of_inTime sector15kHz 280 _ htime⟩

/-- A command for slot 0 arrives when slot 20 is about to close, and its grid takes the data of
slot 20. -/
theorem lateCommand_not_isolated :
    ((initial sector15kHz 280).run sector15kHz (commandDataClose 0 20)).writes =
      [⟨⟨⟨0, 20⟩, 0, 0, 0, 1⟩, ⟨⟨0, 0⟩, 0⟩, grid25Prbs⟩] ∧
    ((initial sector15kHz 280).run sector15kHz (commandDataClose 0 20)).completions =
      [⟨⟨0, 20⟩, ⟨⟨0, 0⟩, 0⟩, grid25Prbs⟩] ∧
    ¬ Isolated ((initial sector15kHz 280).run sector15kHz (commandDataClose 0 20)) := by
  have hwrites : ((initial sector15kHz 280).run sector15kHz (commandDataClose 0 20)).writes =
      [⟨⟨⟨0, 20⟩, 0, 0, 0, 1⟩, ⟨⟨0, 0⟩, 0⟩, grid25Prbs⟩] := by decide +kernel
  refine ⟨hwrites, by decide +kernel, fun hisolated => ?_⟩
  have hslot := hisolated.writes _ (by rw [hwrites]; exact List.mem_singleton_self _)
  exact absurd hslot.1 (by decide)

end ProtoRu.DownlinkGrid
