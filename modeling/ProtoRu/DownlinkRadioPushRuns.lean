import ProtoRu.DownlinkGridRuns
import ProtoRu.DownlinkRadioPush

namespace ProtoRu.DownlinkRadio

open DownlinkGrid List Option

def occurrenceSlot (scs : SubcarrierSpacing) (occurrence : Nat) : SlotPoint :=
  ⟨toNumerologyValue scs, occurrence % wirePeriod (toNumerologyValue scs)⟩

structure RadioPush where
  occurrence : Nat
  context : ResourceGridContext
  grid : ResourceGrid

structure State where
  phy : SdrUpperPhy
  closingSymbol : Nat
  completed : List Nat
  pushes : List RadioPush

inductive Event where
  | connectDownlink
  | setGpsSlotOffset (offset : Nat)
  | setCurrentRadioSlot (count : Nat)
  /-- A symbol closes, with the grid that was registered for it if it is scheduled. -/
  | closeSymbol (grid : Option ResourceGrid)

namespace State

variable (scs : SubcarrierSpacing) (nofSymbols : Nat)

def initial (sectorId closingSymbol : Nat) : State :=
  ⟨SdrUpperPhy.new sectorId, closingSymbol, [], []⟩

def occurrence (state : State) : Nat := state.closingSymbol / nofSymbols

def complete (state : State) (grid : ResourceGrid) : State :=
  let occurrence := state.occurrence nofSymbols
  let (phy, push) := state.phy.onDownlinkRxGridCompleted (occurrenceSlot scs occurrence) grid
  { state with
    phy := phy
    completed := state.completed ++ [occurrence]
    pushes := state.pushes ++ (push.map fun pushed => ⟨occurrence, pushed.1, pushed.2⟩).toList }

def step (state : State) : Event → State
  | .connectDownlink => { state with phy := { state.phy with dlHandlerConnected := true } }
  | .setGpsSlotOffset offset =>
    { state with phy := { state.phy with gpsSlotOffset := some offset } }
  | .setCurrentRadioSlot count =>
    { state with phy := { state.phy with currentRadioSlotCount := count } }
  | .closeSymbol none => { state with closingSymbol := state.closingSymbol + 1 }
  | .closeSymbol (some grid) =>
    { state.complete scs nofSymbols grid with closingSymbol := state.closingSymbol + 1 }

def run (state : State) (events : List Event) : State :=
  events.foldl (step scs nofSymbols) state

/-- Every slot with a completed grid was pushed once, and no other was. -/
def PushedOnce (state : State) : Prop :=
  ∀ occurrence, (state.pushes.map RadioPush.occurrence).count occurrence =
    if occurrence ∈ state.completed then 1 else 0

end State

open State (initial complete)

def onNewSymbol (config : DownlinkConfig) (repo : RxGridContextRepository)
    (phy : SdrUpperPhy) (symbolPoint : SlotSymbolPoint) :
    Option (RxGridContextRepository × SdrUpperPhy ×
      Option (ResourceGridContext × ResourceGrid)) := do
  let (info, repo) ← DownlinkGrid.onNewSymbol config repo symbolPoint
  match info with
  | none => return (repo, phy, none)
  | some (context, grid) => return (repo, phy.onDownlinkRxGridCompleted context.slot grid)

/-- A grid of a new slot is pushed if a radio is connected and aligned, and the slot number is
new. -/
def PushesNewSlot (scs : SubcarrierSpacing) (nofSymbols : Nat) (state : State) : Event → Prop
  | .closeSymbol (some _) =>
    state.occurrence nofSymbols ∉ state.completed →
      state.phy.dlHandlerConnected ∧ state.phy.gpsSlotOffset.isSome ∧
        ∀ earlier ∈ state.completed.getLast?,
          occurrenceSlot scs earlier ≠ occurrenceSlot scs (state.occurrence nofSymbols)
  | _ => True

/-- Notifications come in the order of the slots, and the upper PHY remembers the last of them. -/
structure InOrder (scs : SubcarrierSpacing) (nofSymbols : Nat) (state : State) : Prop where
  lastPushedSlot_eq : state.phy.lastPushedSlot =
    (state.completed.getLast?.map (occurrenceSlot scs)).getD SlotPoint.invalid
  completed_le : ∀ occurrence ∈ state.completed, occurrence ≤ state.occurrence nofSymbols
  le_last : ∀ occurrence ∈ state.completed, ∀ last ∈ state.completed.getLast?, occurrence ≤ last

section

variable {scs : SubcarrierSpacing} {nofSymbols : Nat} {state : State}

lemma occurrenceSlot_ne_invalid (scs : SubcarrierSpacing) (occurrence : Nat) :
    occurrenceSlot scs occurrence ≠ SlotPoint.invalid := by
  intro h
  have hnum := toNumerologyValue_lt scs
  have hcontra : toNumerologyValue scs = nofNumerologies := congrArg SlotPoint.numerology h
  omega

lemma InOrder.initial (sectorId closingSymbol : Nat) :
    InOrder scs nofSymbols (initial sectorId closingSymbol) := by
  constructor
  · rfl
  · rintro occurrence ⟨⟩
  · rintro occurrence ⟨⟩

lemma occurrence_mono (nofSymbols : Nat) (state : State) : state.occurrence nofSymbols ≤
      State.occurrence nofSymbols { state with closingSymbol := state.closingSymbol + 1 } :=
  Nat.div_le_div_right (Nat.le_succ _)

section

variable (hstate : InOrder scs nofSymbols state)

include hstate

lemma InOrder.step (event : Event) :
    InOrder scs nofSymbols (state.step scs nofSymbols event) := by
  obtain ⟨hlast, hle, hmax⟩ := hstate
  have hnext := occurrence_mono nofSymbols state
  match event with
  | .connectDownlink | .setGpsSlotOffset _ | .setCurrentRadioSlot _ => exact ⟨hlast, hle, hmax⟩
  | .closeSymbol none =>
    exact ⟨hlast, fun occurrence hmem => (hle occurrence hmem).trans hnext, hmax⟩
  | .closeSymbol (some grid) =>
    have hall : ∀ occurrence ∈ state.completed ++ [state.occurrence nofSymbols],
        occurrence ≤ state.occurrence nofSymbols :=
      forall_mem_append.mpr ⟨hle, forall_mem_singleton.mpr le_rfl⟩
    constructor
    · simp only [State.step, complete, getLast?_append, getLast?_singleton,
        some_or, map_some, getD_some]
      exact SdrUpperPhy.onDownlinkRxGridCompleted_lastPushedSlot _ _ _
    · intro occurrence hmem
      exact (hall occurrence hmem).trans hnext
    · intro occurrence hmem last hlast
      obtain rfl : state.occurrence nofSymbols = last := by
        simpa [State.step, complete] using hlast
      exact hall occurrence hmem

lemma InOrder.getLast?_eq (hmem : state.occurrence nofSymbols ∈ state.completed) :
    state.completed.getLast? = some (state.occurrence nofSymbols) := by
  obtain ⟨last, hlast⟩ : ∃ last, state.completed.getLast? = some last := by
    rw [← isSome_iff_exists, getLast?_isSome]
    exact ne_nil_of_mem hmem
  have hge := hstate.completed_le last (mem_of_getLast? hlast)
  rw [hlast, le_antisymm (hstate.le_last _ hmem last hlast) hge]

lemma InOrder.isSome_push_iff (grid : ResourceGrid) : (state.phy.onDownlinkRxGridCompleted
        (occurrenceSlot scs (state.occurrence nofSymbols)) grid).2.isSome ↔
      state.occurrence nofSymbols ∉ state.completed ∧
        PushesNewSlot scs nofSymbols state (.closeSymbol (some grid)) := by
  rw [SdrUpperPhy.onDownlinkRxGridCompleted_isSome_iff, hstate.lastPushedSlot_eq, PushesNewSlot]
  by_cases hmem : state.occurrence nofSymbols ∈ state.completed
  · simp [hstate.getLast?_eq hmem]
  rcases hlast : state.completed.getLast? with _ | last
  · simp [hmem, (occurrenceSlot_ne_invalid scs _).symm]
  · simp
    tauto

end

lemma complete_pushes_occurrence (state : State) (grid : ResourceGrid) :
    (state.complete scs nofSymbols grid).pushes.map RadioPush.occurrence =
      state.pushes.map RadioPush.occurrence ++
        if (state.phy.onDownlinkRxGridCompleted
            (occurrenceSlot scs (state.occurrence nofSymbols)) grid).2.isSome then
          [state.occurrence nofSymbols]
        else [] := by
  simp only [complete, map_append]
  cases (state.phy.onDownlinkRxGridCompleted
    (occurrenceSlot scs (state.occurrence nofSymbols)) grid).2 <;> rfl

variable (hstate : InOrder scs nofSymbols state) (hpushed : state.PushedOnce)

include hstate hpushed

lemma pushedOnce_complete_iff (grid : ResourceGrid) :
    (state.complete scs nofSymbols grid).PushedOnce ↔
      PushesNewSlot scs nofSymbols state (.closeSymbol (some grid)) := by
  have hpush := hstate.isSome_push_iff grid
  have hcompd : (state.complete scs nofSymbols grid).completed =
      state.completed ++ [state.occurrence nofSymbols] := rfl
  by_cases hmem : state.occurrence nofSymbols ∈ state.completed
  · -- A later symbol of the same slot: nothing is pushed, and nothing is missing.
    have hguard : PushesNewSlot scs nofSymbols state (.closeSymbol (some grid)) :=
      fun hnew => absurd hmem hnew
    refine iff_of_true ?_ hguard
    intro occurrence
    rw [complete_pushes_occurrence, if_neg (fun h => (hpush.mp h).1 hmem), append_nil,
      hpushed, hcompd]
    obtain rfl | hne := eq_or_ne occurrence (state.occurrence nofSymbols)
    · simp [hmem]
    · simp [hne]
  · by_cases hguard : PushesNewSlot scs nofSymbols state (.closeSymbol (some grid))
    · refine iff_of_true ?_ hguard
      intro occurrence
      rw [complete_pushes_occurrence, if_pos (hpush.mpr ⟨hmem, hguard⟩), count_append,
        hpushed, hcompd]
      obtain rfl | hne := eq_or_ne occurrence (state.occurrence nofSymbols)
      · simp [hmem]
      · simp [hne, hne.symm]
    · refine iff_of_false ?_ hguard
      intro hall
      have hmiss := hall (state.occurrence nofSymbols)
      rw [complete_pushes_occurrence, if_neg (fun h => hguard (hpush.mp h).2),
        append_nil, hpushed, hcompd] at hmiss
      simp [hmem] at hmiss

lemma pushedOnce_step_iff (event : Event) :
    (state.step scs nofSymbols event).PushedOnce ↔ PushesNewSlot scs nofSymbols state event := by
  match event with
  | .connectDownlink => exact iff_of_true hpushed trivial
  | .setGpsSlotOffset _ => exact iff_of_true hpushed trivial
  | .setCurrentRadioSlot _ | .closeSymbol none => exact iff_of_true hpushed trivial
  | .closeSymbol (some grid) => exact pushedOnce_complete_iff hstate hpushed grid

end

/-- Each scheduled slot is pushed once exactly if the first grid of every slot finds an aligned
radio and a number other than that of the slot before. -/
theorem pushedOnce_iff_pushesNewSlots (scs : SubcarrierSpacing)
    (nofSymbols sectorId closingSymbol : Nat) (events : List Event) :
    (∀ earlier later, events = earlier ++ later →
        ((initial sectorId closingSymbol).run scs nofSymbols earlier).PushedOnce) ↔
      Guarded (State.step scs nofSymbols) (PushesNewSlot scs nofSymbols)
        (initial sectorId closingSymbol) events := by
  apply throughout_iff_guarded (InOrder scs nofSymbols)
  · intro before event hbefore _
    exact hbefore.step event
  · intro before event hbefore hpushed
    exact pushedOnce_step_iff hbefore hpushed event
  · exact InOrder.initial sectorId closingSymbol
  · intro occurrence
    rfl

lemma run_closeEmpty (scs : SubcarrierSpacing) (nofSymbols nofClosed : Nat) (state : State) :
    state.run scs nofSymbols (replicate nofClosed (.closeSymbol none)) =
      { state with closingSymbol := state.closingSymbol + nofClosed } := by
  induction nofClosed generalizing state with
  | zero => rfl
  | succ nofClosed ih =>
    apply (ih _).trans
    simp only [State.step, State.mk.injEq, and_self, and_true, true_and]
    omega

def exampleGrid : ResourceGrid := ⟨0, 1, 624⟩

def repeatedSlotRun : List Event :=
  [.connectDownlink, .setGpsSlotOffset 0, .closeSymbol (some exampleGrid)] ++
    replicate (2560 * 14 - 1) (.closeSymbol none) ++ [.closeSymbol (some exampleGrid)]

theorem repeatedSlotRun_not_pushedOnce : ¬ ∀ earlier later, repeatedSlotRun = earlier ++ later →
      ((initial 0 0).run .kHz15 14 earlier).PushedOnce := by
  intro hall
  have hfinal := hall repeatedSlotRun [] (append_nil _).symm 2560
  have hrun : (initial 0 0).run .kHz15 14 repeatedSlotRun =
      State.run .kHz15 14 { (initial 0 0).run .kHz15 14
        [.connectDownlink, .setGpsSlotOffset 0, .closeSymbol (some exampleGrid)] with
          closingSymbol := 2560 * 14 } [.closeSymbol (some exampleGrid)] := by
    rw [State.run, repeatedSlotRun, foldl_append, foldl_append, ← State.run, ← State.run,
      run_closeEmpty]
    rfl
  rw [hrun] at hfinal
  contradiction

/-- One step is one call of the window handler while the repository holds just a grid of the slot.
-/
lemma onNewSymbol_eq_step {config : DownlinkConfig} {repo repo' : RxGridContextRepository}
    {state : State} {symbolPoint : SlotSymbolPoint}
    {info : Option (ResourceGridContext × ResourceGrid)}
    (hclosed : DownlinkGrid.onNewSymbol config repo symbolPoint = some (info, repo'))
    (hslot : ∀ completed ∈ info, completed.1.slot =
      occurrenceSlot config.scs (state.occurrence config.nofSymbols)) :
    let next := state.step config.scs config.nofSymbols (.closeSymbol (info.map Prod.snd))
    ∃ push, onNewSymbol config repo state.phy symbolPoint = some (repo', next.phy, push) ∧
      next.pushes = state.pushes ++ (push.map fun pushed =>
        ⟨state.occurrence config.nofSymbols, pushed.1, pushed.2⟩).toList := by
  obtain _ | ⟨context, grid⟩ := info
  · refine ⟨none, ?_, (append_nil _).symm⟩
    rw [onNewSymbol, hclosed]
    rfl
  have hctx : context.slot =
      occurrenceSlot config.scs (state.occurrence config.nofSymbols) := hslot _ rfl
  refine ⟨(state.phy.onDownlinkRxGridCompleted context.slot grid).2, ?_, ?_⟩
  · rw [onNewSymbol, hclosed, map_some, State.step, complete, ← hctx]
    rfl
  · rw [map_some, State.step, complete, ← hctx]

end ProtoRu.DownlinkRadio
