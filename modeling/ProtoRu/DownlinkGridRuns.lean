import ProtoRu.DownlinkScheduling
import ProtoRu.UplaneRoundTrip

namespace ProtoRu.DownlinkGrid

open Cplane DownlinkScheduling Option List Uplane RxGridContextRepository

structure DownlinkConfig where
  scs : SubcarrierSpacing
  cp : CyclicPrefix
  sector : Nat
  finalizeOffsetSymbols : Int
  eaxcs : List Nat

namespace DownlinkConfig

variable (config : DownlinkConfig)

def numerology : Nat := toNumerologyValue config.scs

def nofSymbols : Nat := getNsymbPerSlot config.cp

def position (slot : SlotPoint) (symbol : Nat) : Nat :=
  slot.count * config.nofSymbols + symbol

def wireSymbols : Nat := wirePeriod config.numerology * config.nofSymbols

def ringSymbols : Nat := sectorRepoSize config.scs * config.nofSymbols

end DownlinkConfig

structure SectionWrite where
  slot : SlotPoint
  symbol : Nat
  port : Nat
  startPrb : Nat
  nofPrbs : Nat
  deriving DecidableEq

structure GridWrite where
  data : SectionWrite
  context : ResourceGridContext
  grid : ResourceGrid
  deriving DecidableEq

structure GridCompletion where
  closing : SlotPoint
  context : ResourceGridContext
  grid : ResourceGrid
  deriving DecidableEq

/-- The writes of a message into the grid found for its symbol. Sections are cut to its width. -/
def sectionWrites (config : DownlinkConfig) (eaxc : Nat)
    (results : UplaneMessageDecoderResults) (grid : ResourceGrid) : List SectionWrite :=
  let port := config.eaxcs.idxOf eaxc
  let duNofPrbs := grid.nofSubc / nofSubcarriersPerRb
  (results.sections.filter (·.startPrb < duNofPrbs)).map fun params =>
    let nofPrbs :=
      if params.startPrb + params.nofPrbs < duNofPrbs then params.nofPrbs
      else duNofPrbs - params.startPrb
    ⟨results.params.slot, results.params.symbolId, port, params.startPrb, nofPrbs⟩

/-- The downlink of a sector: `now` counts OTA symbols, `requested` are the slots a grid was asked
for, and `granted` the grids given out. -/
structure State where
  repo : RxGridContextRepository
  now : Int
  inFlight : List SectionWrite
  requested : List SlotPoint
  granted : List (SlotPoint × ResourceGrid)
  writes : List GridWrite
  completions : List GridCompletion

def initial (config : DownlinkConfig) (start : Int) : State :=
  ⟨new (sectorRepoSize config.scs), start, [], [], [], [], []⟩

/-- The steps of the actors, each atomic under the mutex of the repository. -/
inductive Event where
  /-- A command is enqueued; `offered` is the grid the upper PHY has for its slot. -/
  | command (results : CplaneMessageDecoderResults) (offered : Option ResourceGrid)
  | process (index : Nat)
  /-- The writer of a received message looks for the grid of its symbol. -/
  | lookup (eaxc : Nat) (results : UplaneMessageDecoderResults)
  | write (index : Nat)
  | close

namespace State

variable (config : DownlinkConfig) (state : State)

def command (results : CplaneMessageDecoderResults) (offered : Option ResourceGrid) :
    State :=
  let slot := results.radioHdr.slot
  match state.repo.findGrid slot, offered with
  | some grid, _ =>
    { state with repo := state.repo.add ⟨⟨slot, config.sector⟩, grid, symbolRange results⟩ }
  | none, some grid =>
    { state with
      repo := state.repo.add ⟨⟨slot, config.sector⟩, grid, symbolRange results⟩
      requested := state.requested ++ [slot]
      granted := state.granted ++ [(slot, grid)] }
  | none, none => { state with requested := state.requested ++ [slot] }

def process (index : Nat) : State :=
  match state.repo.pending[index]? with
  | none => state
  | some pending =>
    let rest := { state.repo with pending := state.repo.pending.eraseIdx index }
    match rest.register pending with
    -- The registration violates the assertion of the entries.
    | none => state
    | some repo => { state with repo := repo }

def lookup (eaxc : Nat) (results : UplaneMessageDecoderResults) : State :=
  match (state.repo.entry results.params.slot results.params.symbolId).grid with
  | none => state
  | some grid =>
    { state with inFlight := state.inFlight ++ sectionWrites config eaxc results grid }

def write (index : Nat) : State :=
  match state.inFlight[index]? with
  | none => state
  | some data =>
    match state.repo.writeGrid data.slot data.port data.symbol
      (data.startPrb * nofSubcarriersPerRb) (data.nofPrbs * nofSubcarriersPerRb) with
    -- The write violates the assertion of the span.
    | none => state
    | some (grid, repo) =>
      let written := grid.map fun grid =>
        ⟨data, (state.repo.entry data.slot data.symbol).context, grid⟩
      { state with
        repo := repo
        inFlight := state.inFlight.eraseIdx index
        writes := state.writes ++ written.toList }

def closing : SlotSymbolPoint :=
  (SlotSymbolPoint.ofAbsolute config.nofSymbols config.numerology state.now).sub
    config.finalizeOffsetSymbols

def close : State :=
  let closing := state.closing config
  let popped := state.repo.popResourceGridSymbol closing.getSlot closing.getSymbolIndex
  let completed := popped.1.map fun info => ⟨closing.getSlot, info.1, info.2⟩
  { state with
    repo := popped.2
    now := state.now + 1
    completions := state.completions ++ completed.toList }

def step (state : State) : Event → State
  | .command results offered => state.command config results offered
  | .process index => state.process index
  | .lookup eaxc results => state.lookup config eaxc results
  | .write index => state.write index
  | .close => state.close config

def run (events : List Event) : State := events.foldl (step config) state

end State

def onNewSymbol (config : DownlinkConfig) (repo : RxGridContextRepository)
    (symbolPoint : SlotSymbolPoint) :
    Option (Option (ResourceGridContext × ResourceGrid) × RxGridContextRepository) := do
  let repo ← repo.processPendingContexts
  let closing := symbolPoint.sub config.finalizeOffsetSymbols
  return repo.popResourceGridSymbol closing.getSlot closing.getSymbolIndex

namespace State

variable {config : DownlinkConfig} {state : State}

lemma process_zero_cons {base next : RxGridContextRepository} {pending : PendingContext}
    {rest : List PendingContext} (h : base.register pending = some next) :
    process { state with repo := { base with pending := pending :: rest } } 0 =
      { state with repo := { next with pending := rest } } := by
  have hreg := register_withPending rest base pending
  rw [h, map_some] at hreg
  simp [process, hreg]

variable {repo : RxGridContextRepository}

lemma run_processPendingContexts (h : state.repo.processPendingContexts = some repo) :
    state.run config (replicate state.repo.pending.length (.process 0)) =
      { state with repo := repo } := by
  have key (queue : List PendingContext) (base : RxGridContextRepository)
      (hbase : queue.foldlM register { base with pending := [] } = some repo) :
      run config { state with repo := { base with pending := queue } }
        (replicate queue.length (.process 0)) = { state with repo := repo } := by
    induction queue generalizing base with
    | nil =>
      cases hbase
      rfl
    | cons pending rest ih =>
      rw [foldlM_cons, register_withPending] at hbase
      rcases hnext : base.register pending with _ | next
      · simp [hnext] at hbase
      · rw [hnext] at hbase
        refine Eq.trans ?_ (ih next hbase)
        exact congrArg (run config · _) (process_zero_cons hnext)
  exact key state.repo.pending state.repo h

lemma run_onNewSymbol {info : Option (ResourceGridContext × ResourceGrid)}
    (h : onNewSymbol config state.repo (.ofAbsolute config.nofSymbols config.numerology state.now) =
      some (info, repo)) :
    state.run config (replicate state.repo.pending.length (.process 0) ++ [.close]) =
      { state with
        repo := repo
        now := state.now + 1
        completions := state.completions ++
          (info.map fun info => ⟨(state.closing config).getSlot, info.1, info.2⟩).toList } := by
  obtain ⟨processed, hproc, hpop⟩ := bind_eq_some_iff.mp h
  have hpop : processed.popResourceGridSymbol (state.closing config).getSlot
      (state.closing config).getSymbolIndex = (info, repo) := some.inj hpop
  rw [run, foldl_append, ← run, ← run, run_processPendingContexts hproc]
  change State.close config { state with repo := processed } = _
  simp only [close]
  dsimp only [closing] at hpop ⊢
  rw [hpop]

lemma run_handleDownlinkScheduling {getDownlinkRxGrid : SlotPoint → Option ResourceGrid}
    {results : CplaneMessageDecoderResults}
    (h : handleDownlinkScheduling config.sector getDownlinkRxGrid state.repo results = some repo) :
    (state.run config (replicate state.repo.pending.length (.process 0) ++
      [.command results (getDownlinkRxGrid results.radioHdr.slot)])).repo = repo := by
  obtain ⟨processed, hproc, hadd⟩ := bind_eq_some_iff.mp h
  rw [run, foldl_append, ← run, ← run, run_processPendingContexts hproc]
  change (command config { state with repo := processed } results _).repo = _
  simp only [command]
  rcases hfind : processed.findGrid results.radioHdr.slot with _ | grid
  · rw [hfind] at hadd
    rcases hoffer : getDownlinkRxGrid results.radioHdr.slot with _ | grid
    · rw [hoffer] at hadd
      exact some.inj hadd
    · rw [hoffer] at hadd
      exact some.inj hadd
  · rw [hfind] at hadd
    exact some.inj hadd

end State

end ProtoRu.DownlinkGrid
