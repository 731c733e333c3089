import Mathlib.Data.List.Nodup
import Mathlib.Data.List.Perm.Subperm
import ProtoRu.RepositoryIndexing
import ProtoRu.TransitionRuns
import ProtoRu.UplinkSymbolReordering

namespace ProtoRu.UplinkSymbols

open UplinkNotifiedGridSymbolRepository List

variable {Grid : Type}

/-- Symbols of the slot's range, none of them twice, all with the grid it was requested with. -/
structure ArriveOnce (request : UplinkSlot) (sector : Nat) (grid : Grid)
    (symbols : List (UplinkSymbol Grid)) : Prop where
  context : ∀ symbol ∈ symbols,
    symbol.slot = request.slot ∧ symbol.sector = sector ∧ symbol.grid = grid
  range : ∀ symbol ∈ symbols,
    request.startSymbol ≤ symbol.symbol ∧ symbol.symbol < getNsymbPerSlot request.cp
  nodup : (symbols.map (·.symbol)).Nodup

variable {arrival : UplinkSymbol Grid}

namespace ArriveOnce

variable {request : UplinkSlot} {sector : Nat} {grid : Grid} {symbols : List (UplinkSymbol Grid)}

lemma of_append {more : List (UplinkSymbol Grid)}
    (h : ArriveOnce request sector grid (symbols ++ more)) :
    ArriveOnce request sector grid symbols := by
  obtain ⟨hctx, hrange, hnodup⟩ := h
  rw [map_append] at hnodup
  refine ⟨?_, ?_, hnodup.of_append_left⟩
  · intro symbol hmem
    exact hctx symbol (mem_append_left _ hmem)
  · intro symbol hmem
    exact hrange symbol (mem_append_left _ hmem)

lemma symbol_ne_of_append_singleton (h : ArriveOnce request sector grid (symbols ++ [arrival]))
    {symbol : UplinkSymbol Grid} (hmem : symbol ∈ symbols) : symbol.symbol ≠ arrival.symbol := by
  intro heq
  have hnodup := h.nodup
  rw [map_append, nodup_append] at hnodup
  exact hnodup.2.2 _ (mem_map_of_mem hmem) _ (by simp) heq

end ArriveOnce

/-- The symbols before the next one are notified in order. Further ones that arrived are in the
word of the slot. -/
structure NotifiedUpTo (next : Nat) (request : UplinkSlot)
    (symbols notified : List (UplinkSymbol Grid)) (value : Nat) : Prop where
  start_le : request.startSymbol ≤ next
  next_le : next ≤ max request.startSymbol (getNsymbPerSlot request.cp)
  in_order : notified.map (·.symbol) = range' request.startSymbol (next - request.startSymbol)
  arrived : ∀ symbol ∈ notified, symbol ∈ symbols
  missing : next < getNsymbPerSlot request.cp →
    EntryHolds value request symbols ∧ ∀ symbol ∈ symbols, symbol.symbol ≠ next

namespace NotifiedUpTo

variable {next : Nat} {request : UplinkSlot} {symbols notified : List (UplinkSymbol Grid)}
  {value : Nat}

lemma exists_arrived (h : NotifiedUpTo next request symbols notified value) {i : Nat}
    (hlow : request.startSymbol ≤ i) (hhigh : i < next) :
    ∃ symbol ∈ symbols, symbol.symbol = i := by
  have hmem : i ∈ notified.map (·.symbol) := by
    rw [h.in_order, mem_range'_1]
    omega
  obtain ⟨symbol, hsym, rfl⟩ := mem_map.mp hmem
  exact ⟨symbol, h.arrived symbol hsym, rfl⟩

lemma initial (request : UplinkSlot) :
    NotifiedUpTo request.startSymbol request ([] : List (UplinkSymbol Grid)) []
      (initialValue request) := by
  refine ⟨le_rfl, le_max_left _ _, by simp, by simp, ?_⟩
  intro _
  exact ⟨entryHolds_initialValue request, by simp⟩

end NotifiedUpTo

section

variable {next : Nat} {request : UplinkSlot} {symbols notified : List (UplinkSymbol Grid)}
  {repository : UplinkNotifiedGridSymbolRepository} {arrival : UplinkSymbol Grid}
  {sector : Nat} {grid : Grid}

lemma NotifiedUpTo.arrival_later
    (h : NotifiedUpTo next request symbols notified (repository.getEntry arrival.slot))
    (hnext : next < arrival.symbol) (hlt : arrival.symbol < getNsymbPerSlot request.cp) :
    (onNewUplinkSymbol repository arrival).2 = [] ∧
      NotifiedUpTo next request (symbols ++ [arrival]) notified
        ((onNewUplinkSymbol repository arrival).1.getEntry arrival.slot) := by
  have hmax := getNsymbPerSlot_le_max request.cp
  obtain ⟨hentry, hmiss⟩ := h.missing (hnext.trans hlt)
  have hbit : (repository.getEntry arrival.slot).testBit next = false := by
    rw [← Bool.not_eq_true, hentry.received next (by omega)]
    rintro (hbefore | ⟨symbol, hmem, heq⟩)
    · exact absurd h.start_le hbefore.not_ge
    · exact hmiss symbol hmem heq
  have hmissed := (isAnyPreviousSymbolMissed_iff _ _).mpr ⟨next, hnext, hbit⟩
  simp only [onNewUplinkSymbol, updateRxSymbolAndComputeSymbolsToNotify, hmissed, Bool.or_true,
    if_true]
  refine ⟨rfl, h.start_le, h.next_le, h.in_order, ?_, ?_⟩
  · intro symbol hmem
    exact mem_append_left _ (h.arrived symbol hmem)
  intro _
  rw [getEntry_store]
  refine ⟨hentry.receive arrival (by omega), ?_⟩
  intro symbol hmem
  obtain hold | hnew := mem_append.mp hmem
  · exact hmiss symbol hold
  · rw [mem_singleton.mp hnew]
    omega

lemma testBit_valid_eq {value : Nat} (h : EntryHolds value request symbols)
    (honce : ArriveOnce request sector grid symbols) {own : UplinkSymbol Grid}
    (hown : own ∈ symbols) :
    value.testBit (validSymbolBitmaskStartBit + own.symbol) = own.isValid := by
  have hrange := honce.range own hown
  have hmax := getNsymbPerSlot_le_max request.cp
  rw [Bool.eq_iff_iff, h.valid own.symbol (by omega)]
  constructor
  · rintro ⟨other, hother, heq, hvalid⟩
    rwa [inj_on_of_nodup_map honce.nodup hown hother heq.symm]
  · intro hvalid
    exact ⟨own, hown, rfl, hvalid⟩

lemma NotifiedUpTo.not_missed {value : Nat} (h : NotifiedUpTo next request symbols notified value)
    (hlt : next < getNsymbPerSlot request.cp) : isAnyPreviousSymbolMissed value next = false := by
  have hmax := getNsymbPerSlot_le_max request.cp
  rw [← Bool.not_eq_true, isAnyPreviousSymbolMissed_iff]
  rintro ⟨i, hi, hbit⟩
  apply Bool.false_ne_true
  rw [← hbit, (h.missing hlt).1.received i (by omega)]
  obtain hbefore | hafter := lt_or_ge i request.startSymbol
  · exact Or.inl hbefore
  · exact Or.inr (h.exists_arrived hafter hi)

lemma NotifiedUpTo.arrival_next
    (h : NotifiedUpTo arrival.symbol request symbols notified (repository.getEntry arrival.slot))
    (hlt : arrival.symbol < getNsymbPerSlot request.cp)
    (honce : ArriveOnce request sector grid (symbols ++ [arrival])) :
    ∃ following, NotifiedUpTo following request (symbols ++ [arrival])
      (notified ++ (onNewUplinkSymbol repository arrival).2)
      ((onNewUplinkSymbol repository arrival).1.getEntry arrival.slot) := by
  have hstart := h.start_le
  have hmax := getNsymbPerSlot_le_max request.cp
  have hentry := (h.missing hlt).1
  set value := repository.getEntry arrival.slot with hvalue
  have hupdated := hentry.receive arrival (by omega)
  set updated := value ||| receivedBits arrival.symbol arrival.isValid with hor
  have hbehind := nofBehind_le value request arrival.symbol
  have hused : isSlotUsed value := by
    rw [isSlotUsed_eq]
    exact hentry.used
  simp only [onNewUplinkSymbol, updateRxSymbolAndComputeSymbolsToNotify, ← hvalue, ← hor, hused,
    h.not_missed hlt, notifications, Nat.testBit_shiftRight, Bool.not_true, Bool.or_self,
    Bool.false_eq_true, if_false]
  rw [hentry.getNofSymbolsToNotify_eq hlt, getEntry_store]
  refine ⟨arrival.symbol + (nofBehind value request arrival.symbol + 1), ?_, ?_, ?_, ?_, ?_⟩
  · omega
  · omega
  · rw [map_append, h.in_order, map_map, Function.comp_def, map_id']
    have hlast : arrival.symbol =
        request.startSymbol + (arrival.symbol - request.startSymbol) := by omega
    nth_rewrite 2 [hlast]
    rw [range'_append_1, ← Nat.sub_add_comm hstart]
  · intro symbol hmem
    obtain hold | hnew := mem_append.mp hmem
    · exact mem_append_left _ (h.arrived symbol hold)
    obtain ⟨i, hi, rfl⟩ := mem_map.mp hnew
    rw [mem_range'_1] at hi
    obtain ⟨own, hown, rfl⟩ : ∃ own ∈ symbols ++ [arrival], own.symbol = i := by
      obtain rfl | hgt := hi.1.eq_or_lt
      · exact ⟨arrival, by simp, rfl⟩
      · obtain ⟨own, hown, heq⟩ := hentry.exists_arrived_behind hstart hgt (by omega)
        exact ⟨own, mem_append_left _ hown, heq⟩
    have hctx := honce.context own hown
    have harr := honce.context arrival (by simp)
    rwa [testBit_valid_eq hupdated honce hown, harr.1, harr.2.1, harr.2.2, ← hctx.1, ← hctx.2.1,
      ← hctx.2.2]
  · intro hmore
    have hfree : ∀ symbol ∈ symbols ++ [arrival],
        symbol.symbol ≠ arrival.symbol + (nofBehind value request arrival.symbol + 1) := by
      intro symbol hmem
      obtain hold | hnew := mem_append.mp hmem
      · exact hentry.symbol_ne_after_behind hmore hold
      · rw [mem_singleton.mp hnew]
        omega
    have hbit : updated.testBit
        (arrival.symbol + (nofBehind value request arrival.symbol + 1)) = false := by
      rw [← Bool.not_eq_true, hupdated.received _ (by omega)]
      rintro (hbefore | ⟨symbol, hmem, heq⟩)
      · omega
      · exact hfree symbol hmem heq
    rw [areAllSymbolsNotified_eq_false (by rwa [hupdated.cp]) hbit]
    exact ⟨hupdated, hfree⟩

end

variable {state : Reorderer Grid} (slot : SlotPoint) {event : Event Grid}

section

variable {request : UplinkSlot} {sector : Nat} {grid : Grid} {slot : SlotPoint}

/-- Slots less than the repository's size apart do not share an entry, also around the wrap. -/
lemma eq_of_count_mod_eq {scs : SubcarrierSpacing} {minimumRepoSize size : Nat} {jump : Int}
    (hsize : calculateRepositorySize scs minimumRepoSize = some size)
    (hscs : slot.numerology = toNumerologyValue scs) (hvalid : slot.Valid) (hjump : |jump| < size)
    (hindex : (slot.add jump).count % size = slot.count % size) : slot.add jump = slot := by
  have hdvd : (size : Int) ∣ slot.nofSlotsPerHyperSystemFrame := by
    have hper := wirePeriod_dvd slot
    rw [hscs] at hper
    exact_mod_cast (dvd_wirePeriod_of_calculateRepositorySize hsize).trans hper
  have hcount : ((slot.add jump).count : Int) =
      (slot.count + jump) % slot.nofSlotsPerHyperSystemFrame :=
    truncWrap_cast slot.nofSlotsPerHyperSystemFrame_pos _
  have hzero : jump = 0 := by
    have hmod : ((slot.count : Int) + jump) % size = slot.count % size := by
      rw [← Int.emod_emod_of_dvd _ hdvd, ← hcount]
      exact_mod_cast hindex
    have hmultiple : (size : Int) ∣ jump := by
      have hdiff := Int.ModEq.dvd hmod.symm
      rwa [add_sub_cancel_left] at hdiff
    exact Int.eq_zero_of_abs_lt_dvd hmultiple hjump
  have hlt : ((slot.count : Int) + 0) % slot.nofSlotsPerHyperSystemFrame = slot.count := by
    exact_mod_cast Nat.mod_eq_of_lt hvalid.count_lt
  rw [hzero, hlt] at hcount
  rw [hzero]
  exact SlotPoint.ext rfl (by exact_mod_cast hcount)

lemma ofSlot_append (symbols more : List (UplinkSymbol Grid)) :
    ofSlot slot (symbols ++ more) = ofSlot slot symbols ++ ofSlot slot more :=
  filter_append _ _

lemma arrivals_append (events more : List (Event Grid)) :
    arrivals slot (events ++ more) = arrivals slot events ++ arrivals slot more := by
  simp [arrivals, ofSlot]

lemma arrivals_singleton_of_ne (h : event.slot ≠ slot) : arrivals slot [event] = [] := by
  cases event with
  | newSlot other => rfl
  | uplinkSymbol received hsym =>
    have hne : received.slot ≠ slot := h
    simp [arrivals, ofSlot, hne]

lemma arrivals_singleton_of_eq {received : UplinkSymbol Grid}
    {hsym : received.symbol < maxNsymbPerSlot} :
    arrivals received.slot [.uplinkSymbol received hsym] = [received] := by
  simp [arrivals, ofSlot]

lemma step_of_index_ne
    (h : slot.count % state.repository.size ≠ event.slot.count % state.repository.size) :
    (step state event).repository.getEntry slot = state.repository.getEntry slot ∧
      ofSlot slot (step state event).notified = ofSlot slot state.notified := by
  cases event with
  | newSlot other => exact ⟨getEntry_store_of_ne _ _ h, rfl⟩
  | uplinkSymbol received hsym =>
    obtain ⟨value, hvalue⟩ := exists_onNewUplinkSymbol_store state.repository received
    constructor
    · change (onNewUplinkSymbol state.repository received).1.getEntry slot = _
      rw [hvalue]
      exact getEntry_store_of_ne _ _ h
    · change ofSlot slot (state.notified ++ (onNewUplinkSymbol state.repository received).2) = _
      rw [ofSlot_append]
      apply append_right_eq_self.mpr
      apply filter_eq_nil_iff.mpr
      intro symbol hmem heq
      apply h
      rw [Event.slot, ← slot_of_mem_onNewUplinkSymbol hmem, of_decide_eq_true heq]

lemma size_step (state : Reorderer Grid) (event : Event Grid) :
    (step state event).repository.size = state.repository.size := by
  cases event with
  | newSlot other => rfl
  | uplinkSymbol received hsym =>
    obtain ⟨value, hvalue⟩ := exists_onNewUplinkSymbol_store state.repository received
    change (onNewUplinkSymbol state.repository received).1.size = _
    rw [hvalue, size_store]

lemma NotifiedUpTo.step_arrival {next : Nat} {symbols : List (UplinkSymbol Grid)}
    {hsym : arrival.symbol < maxNsymbPerSlot}
    (h : NotifiedUpTo next request symbols (ofSlot request.slot state.notified)
      (state.repository.getEntry request.slot))
    (honce : ArriveOnce request sector grid (symbols ++ [arrival])) :
    ∃ following, NotifiedUpTo following request (symbols ++ [arrival])
      (ofSlot request.slot (step state (.uplinkSymbol arrival hsym)).notified)
      ((step state (.uplinkSymbol arrival hsym)).repository.getEntry request.slot) := by
  have hslot := (honce.context arrival (by simp)).1
  obtain ⟨hstart, hlt⟩ := honce.range arrival (by simp)
  have hnotif : ofSlot request.slot (step state (.uplinkSymbol arrival hsym)).notified =
      ofSlot request.slot state.notified ++ (onNewUplinkSymbol state.repository arrival).2 := by
    change ofSlot request.slot
      (state.notified ++ (onNewUplinkSymbol state.repository arrival).2) = _
    rw [ofSlot_append]
    congr 1
    apply filter_eq_self.mpr
    intro symbol hmem
    rw [slot_of_mem_onNewUplinkSymbol hmem, hslot, decide_eq_true rfl]
  rw [hnotif]
  rw [← hslot] at h ⊢
  have hle : next ≤ arrival.symbol := by
    rw [← not_lt]
    intro hgt
    obtain ⟨symbol, hmem, heq⟩ := h.exists_arrived hstart hgt
    exact honce.symbol_ne_of_append_singleton hmem heq
  obtain rfl | hlater := hle.eq_or_lt
  · exact h.arrival_next hlt honce
  · obtain ⟨hnone, hnext⟩ := h.arrival_later hlater hlt
    rw [hnone, append_nil]
    exact ⟨next, hnext⟩

/-- Events while a slot is received: its entry is used by its own symbols alone. -/
structure Interleaved (size : Nat) (request : UplinkSlot) (sector : Nat) (grid : Grid)
    (events : List (Event Grid)) : Prop where
  own_entry : ∀ event ∈ events, event.slot.count % size = request.slot.count % size →
    ∃ received hsymbol, event = .uplinkSymbol received hsymbol ∧ received.slot = request.slot
  once : ArriveOnce request sector grid (arrivals request.slot events)

lemma Interleaved.of_append {size : Nat} {events more : List (Event Grid)}
    (h : Interleaved size request sector grid (events ++ more)) :
    Interleaved size request sector grid events := by
  refine ⟨?_, ?_⟩
  · intro event hmem
    exact h.own_entry event (mem_append_left _ hmem)
  · have honce := h.once
    rw [arrivals_append] at honce
    exact honce.of_append

lemma run_notifiedUpTo (repository : UplinkNotifiedGridSymbolRepository)
    (events : List (Event Grid)) (h : Interleaved repository.size request sector grid events) :
    let final := run ⟨repository.add request, []⟩ events
    ∃ next, NotifiedUpTo next request (arrivals request.slot events)
      (ofSlot request.slot final.notified) (final.repository.getEntry request.slot) := by
  have hrun := @foldl_history_invariant _ _ ⟨repository.add request, []⟩ step
    (fun history (state : Reorderer Grid) =>
      Interleaved repository.size request sector grid history →
        state.repository.size = repository.size ∧
          ∃ next, NotifiedUpTo next request (arrivals request.slot history)
            (ofSlot request.slot state.notified) (state.repository.getEntry request.slot))
  refine (hrun ?initial ?step events h).2
  case initial =>
    intro _
    refine ⟨rfl, request.startSymbol, ?_⟩
    rw [add, getEntry_store]
    exact NotifiedUpTo.initial request
  case step =>
    intro history before event ih hevents
    obtain ⟨hsize, next, hnext⟩ := ih hevents.of_append
    refine ⟨(size_step before event).trans hsize, ?_⟩
    have honce := hevents.once
    rw [arrivals_append] at honce ⊢
    rcases eq_or_ne (event.slot.count % repository.size) (request.slot.count % repository.size)
      with hown | hother
    · obtain ⟨received, hsym, rfl, hslot⟩ := hevents.own_entry event (by simp) hown
      rw [← hslot, arrivals_singleton_of_eq, hslot] at honce ⊢
      exact hnext.step_arrival honce
    have hne : event.slot ≠ request.slot := by
      intro heq
      exact hother (by rw [heq])
    have hindex : request.slot.count % before.repository.size ≠
        event.slot.count % before.repository.size := by
      rw [hsize]
      exact hother.symm
    obtain ⟨hentry, hnotif⟩ := step_of_index_ne hindex
    rw [arrivals_singleton_of_ne hne, append_nil, hentry, hnotif]
    exact ⟨next, hnext⟩

lemma NotifiedUpTo.complete {next value : Nat} {symbols notified : List (UplinkSymbol Grid)}
    (h : NotifiedUpTo next request symbols notified value)
    (hperm : (symbols.map (·.symbol)).Perm (range' request.startSymbol
      (getNsymbPerSlot request.cp - request.startSymbol))) :
    notified.map (·.symbol) = range' request.startSymbol
        (getNsymbPerSlot request.cp - request.startSymbol) ∧ notified.Perm symbols := by
  have hstart := h.start_le
  have hend : next - request.startSymbol = getNsymbPerSlot request.cp - request.startSymbol := by
    obtain hlt | hge := lt_or_ge next (getNsymbPerSlot request.cp)
    · have hmem : next ∈ symbols.map (·.symbol) := by
        rw [hperm.mem_iff, mem_range'_1]
        omega
      obtain ⟨symbol, hsym, heq⟩ := mem_map.mp hmem
      exact absurd heq ((h.missing hlt).2 symbol hsym)
    · have := h.next_le
      omega
  have horder := h.in_order
  rw [hend] at horder
  refine ⟨horder, ?_⟩
  have hnodup : (notified.map (·.symbol)).Nodup := by
    rw [horder]
    exact nodup_range'
  apply (subperm_of_subset hnodup.of_map h.arrived).perm_of_length_le
  rw [← length_map (f := (·.symbol)), hperm.length_eq, ← horder, length_map]

/-- In whatever order the symbols of a slot arrive, interleaved with other slots, exactly these
are notified: in order, each once and as it arrived. -/
theorem notified_in_order {scs : SubcarrierSpacing} {minimumRepoSize : Nat}
    {repository : UplinkNotifiedGridSymbolRepository}
    (hsize : calculateRepositorySize scs minimumRepoSize = some repository.size)
    (hscs : request.slot.numerology = toNumerologyValue scs) (hvalid : request.slot.Valid)
    {during : List (Event Grid)}
    (hspan : ∀ event ∈ during, ∃ jump : Int,
      |jump| < repository.size ∧ event.slot = request.slot.add jump)
    (hrequested : ∀ other, .newSlot other ∈ during → other.slot ≠ request.slot)
    (hgrid : ∀ symbol ∈ arrivals request.slot during, symbol.sector = sector ∧ symbol.grid = grid)
    (hperm : ((arrivals request.slot during).map (·.symbol)).Perm
      (range' request.startSymbol (getNsymbPerSlot request.cp - request.startSymbol))) :
    let final := run ⟨repository, []⟩ (.newSlot request :: during)
    (ofSlot request.slot final.notified).map (·.symbol) = range' request.startSymbol
        (getNsymbPerSlot request.cp - request.startSymbol) ∧
      (ofSlot request.slot final.notified).Perm (arrivals request.slot during) := by
  have hinterleaved : Interleaved repository.size request sector grid during := by
    refine ⟨?_, ⟨?_, ?_, ?_⟩⟩
    · intro event hmem hindex
      obtain ⟨jump, hjump, hslot⟩ := hspan event hmem
      rw [hslot] at hindex
      have heq := eq_of_count_mod_eq hsize hscs hvalid hjump hindex
      rw [heq] at hslot
      cases event with
      | newSlot other => exact absurd hslot (hrequested other hmem)
      | uplinkSymbol received hsymbol => exact ⟨received, hsymbol, rfl, hslot⟩
    · intro symbol hmem
      exact ⟨of_decide_eq_true (mem_filter.mp hmem).2, hgrid symbol hmem⟩
    · intro symbol hmem
      have hrange := (hperm.mem_iff).mp (mem_map_of_mem hmem)
      rw [mem_range'_1] at hrange
      omega
    · rw [hperm.nodup_iff]
      exact nodup_range'
  obtain ⟨next, hnext⟩ := run_notifiedUpTo repository during hinterleaved
  exact hnext.complete hperm

def lastTwoSymbols : UplinkSlot := ⟨⟨1, 40⟩, 12, .normal, by decide⟩

def otherSlot : UplinkSlot := ⟨⟨1, 41⟩, 13, .normal, by decide⟩

def interleavedEvents : List (Event Unit) :=
  [.uplinkSymbol ⟨⟨1, 40⟩, 13, 0, (), true⟩ (by decide), .newSlot otherSlot,
    .uplinkSymbol ⟨⟨1, 41⟩, 13, 0, (), true⟩ (by decide),
    .uplinkSymbol ⟨⟨1, 40⟩, 12, 0, (), false⟩ (by decide)]

theorem lastTwoSymbols_notified_in_order :
    let final := run ⟨⟨20, fun _ => 0⟩, []⟩ (.newSlot lastTwoSymbols :: interleavedEvents)
    (ofSlot lastTwoSymbols.slot final.notified).map (·.symbol) = [12, 13] ∧
      (ofSlot lastTwoSymbols.slot final.notified).Perm
        (arrivals lastTwoSymbols.slot interleavedEvents) := by
  have hsize : calculateRepositorySize .kHz30 20 = some 20 := by decide +kernel
  have hgrid : ∀ symbol ∈ arrivals lastTwoSymbols.slot interleavedEvents,
      symbol.sector = 0 ∧ symbol.grid = () := by
    intro symbol hmem
    exact ⟨by revert symbol; decide, rfl⟩
  refine notified_in_order hsize (by decide) (by decide) ?_ ?_ hgrid (by decide)
  · intro event hmem
    have hslot : event.slot = ⟨1, 40⟩ ∨ event.slot = ⟨1, 41⟩ := by
      revert event
      simp [interleavedEvents, Event.slot, otherSlot]
    obtain hown | hother := hslot
    · exact ⟨0, by decide, hown.trans (by decide +kernel)⟩
    · exact ⟨1, by decide, hother.trans (by decide +kernel)⟩
  · intro other hmem
    have heq : other = otherSlot := by simpa [interleavedEvents] using hmem
    rw [heq]
    decide

end

end ProtoRu.UplinkSymbols
