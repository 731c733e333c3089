import ProtoRu.RepositoryIndexing
import ProtoRu.TransitionRuns

namespace ProtoRu

structure ResourceGridContext where
  slot : SlotPoint
  sector : Nat
  deriving DecidableEq

structure ResourceGrid where
  id : Nat
  nofPorts : Nat
  nofSubc : Nat
  deriving DecidableEq

/-- A grid registered for a symbol, with what was received on each port. An empty context keeps
the slot of its last registration. -/
structure RxGridContext (Grid : Type) where
  symbol : Nat
  context : ResourceGridContext
  grid : Option Grid
  reWritten : Nat → Nat → Bool

namespace RxGridContext

variable {Grid : Type}

def initial : RxGridContext Grid := ⟨0, ⟨SlotPoint.invalid, 0⟩, none, fun _ _ => false⟩

def new (symbol : Nat) (context : ResourceGridContext) (grid : Grid) : RxGridContext Grid :=
  ⟨symbol, context, some grid, fun _ _ => false⟩

def empty (current : RxGridContext Grid) : Bool := current.grid.isNone

def gridFor (current : RxGridContext Grid) (slot : SlotPoint) : Option Grid :=
  if current.context.slot = slot then current.grid else none

/-- Mark resource elements of a port as received. -/
def fill (current : RxGridContext Grid) (port startRe nofRes : Nat) : RxGridContext Grid :=
  { current with reWritten := fun other re => current.reWritten other re ||
      other = port && startRe ≤ re && re < startRe + nofRes }

/-- The context keeps its grid, and what it has marked as received stays marked. -/
structure Extends (current next : RxGridContext Grid) : Prop where
  symbol_eq : next.symbol = current.symbol
  context_eq : next.context = current.context
  grid_eq : next.grid = current.grid
  reWritten : ∀ port re, current.reWritten port re → next.reWritten port re

variable {current next final : RxGridContext Grid}

lemma Extends.refl : current.Extends current := ⟨rfl, rfl, rfl, fun _ _ => id⟩

lemma Extends.trans (h : current.Extends next) (hnext : next.Extends final) :
    current.Extends final where
  symbol_eq := hnext.symbol_eq.trans h.symbol_eq
  context_eq := hnext.context_eq.trans h.context_eq
  grid_eq := hnext.grid_eq.trans h.grid_eq
  reWritten port re hmark := hnext.reWritten port re (h.reWritten port re hmark)

lemma Extends.gridFor_eq (h : current.Extends next) (slot : SlotPoint) :
    next.gridFor slot = current.gridFor slot := by
  rw [gridFor, gridFor, h.context_eq, h.grid_eq]

lemma extends_fill (port startRe nofRes : Nat) :
    current.Extends (current.fill port startRe nofRes) :=
  ⟨rfl, rfl, rfl, fun _ _ hmark => by simp [fill, hmark]⟩

end RxGridContext

structure PendingContext where
  context : ResourceGridContext
  grid : ResourceGrid
  symbolRange : OfdmSymbolRange

structure RxGridContextRepository where
  size : Nat
  pending : List PendingContext
  buffer : Nat → Nat → RxGridContext ResourceGrid

variable {slot : SlotPoint} {pending : PendingContext}

namespace RxGridContextRepository

def new (size : Nat) : RxGridContextRepository := ⟨size, [], fun _ _ => .initial⟩

/-- The context at a slot and symbol; the source asserts the symbol to be less
than `maxNsymbPerSlot`. -/
def entry (repo : RxGridContextRepository) (slot : SlotPoint) (symbol : Nat) :
    RxGridContext ResourceGrid :=
  repo.buffer (calculateRepositoryIndex slot repo.size) symbol

def setEntry (repo : RxGridContextRepository) (slot : SlotPoint) (symbol : Nat)
    (current : RxGridContext ResourceGrid) : RxGridContextRepository :=
  { repo with buffer := fun index symbol' =>
      if index = calculateRepositoryIndex slot repo.size ∧ symbol' = symbol then current
      else repo.buffer index symbol' }

def findGrid (repo : RxGridContextRepository) (slot : SlotPoint) : Option ResourceGrid :=
  (List.range maxNsymbPerSlot).findSome? fun symbol => (repo.entry slot symbol).gridFor slot

/-- Enqueue a registration; it is lost when the queue is full. -/
def add (repo : RxGridContextRepository) (pending : PendingContext) :
    RxGridContextRepository :=
  if repo.pending.length < repo.size then
    { repo with pending := repo.pending ++ [pending] }
  else repo

/-- One round of the registration loop. `entry` asserts the symbol index. -/
def registerSymbol (context : ResourceGridContext) (grid : ResourceGrid)
    (repo : RxGridContextRepository) (symbol : Nat) : Option RxGridContextRepository :=
  if symbol < maxNsymbPerSlot then
    if ((repo.entry context.slot symbol).gridFor context.slot).isSome then some repo
    else some (repo.setEntry context.slot symbol (.new symbol context grid))
  else none

def register (repo : RxGridContextRepository) (pending : PendingContext) :
    Option RxGridContextRepository :=
  let grid := (repo.findGrid pending.context.slot).getD pending.grid
  pending.symbolRange.symbols.foldlM (registerSymbol pending.context grid) repo

def processPendingContexts (repo : RxGridContextRepository) : Option RxGridContextRepository :=
  repo.pending.foldlM register { repo with pending := [] }

/-- Write resource elements of a port and mark them as received; returns the grid that takes them.
The slots are not compared, and the span asserts its range. -/
def writeGrid (repo : RxGridContextRepository) (slot : SlotPoint)
    (port symbol startRe nofRes : Nat) :
    Option (Option ResourceGrid × RxGridContextRepository) :=
  let current := repo.entry slot symbol
  match current.grid with
  | none => some (none, repo)
  | some grid =>
    if grid.nofPorts ≤ port then some (none, repo)
    else if grid.nofSubc < startRe + nofRes then none
    else some (some grid, repo.setEntry slot symbol (current.fill port startRe nofRes))

/-- Take the grid of a symbol out of the repository, whatever slot it is for. -/
def popResourceGridSymbol (repo : RxGridContextRepository) (slot : SlotPoint) (symbol : Nat) :
    Option (ResourceGridContext × ResourceGrid) × RxGridContextRepository :=
  let current := repo.entry slot symbol
  match current.grid with
  | none => (none, repo)
  | some grid =>
    (some (current.context, grid), repo.setEntry slot symbol { current with grid := none })

lemma registerSymbol_isSome_iff (context : ResourceGridContext) (grid : ResourceGrid)
    (repo : RxGridContextRepository) (symbol : Nat) :
    (registerSymbol context grid repo symbol).isSome ↔ symbol < maxNsymbPerSlot := by
  simp only [registerSymbol]
  by_cases hsym : symbol < maxNsymbPerSlot
  · rw [if_pos hsym]
    split <;> simpa using hsym
  · simp [hsym]

variable {grid : ResourceGrid} {repo next : RxGridContextRepository} {symbol : Nat}
  {context : ResourceGridContext}

lemma registerSymbol_pending (h : registerSymbol context grid repo symbol = some next) :
    next.pending = repo.pending := by
  simp only [registerSymbol] at h
  split at h
  · split at h
    · obtain rfl : repo = next := by simpa using h
      rfl
    · cases h
      rfl
  · simp at h

lemma register_pending (h : repo.register pending = some next) : next.pending = repo.pending := by
  apply foldlM_invariant (fun state => state.pending = repo.pending) h rfl
  intro before symbol after _ hbefore hstep
  exact (registerSymbol_pending hstep).trans hbefore

lemma processPendingContexts_pending (h : repo.processPendingContexts = some next) :
    next.pending = [] := by
  apply foldlM_invariant (fun state => state.pending = []) h rfl
  intro before pending after _ hbefore hstep
  exact (register_pending hstep).trans hbefore

lemma processPendingContexts_isSome_iff : repo.processPendingContexts.isSome ↔
      ∀ pending ∈ repo.pending,
        ∀ symbol ∈ pending.symbolRange.symbols, symbol < maxNsymbPerSlot := by
  apply foldlM_isSome_iff
  intro repo pending
  exact foldlM_isSome_iff (registerSymbol_isSome_iff _ _) _ _

lemma findGrid_eq_some (h : repo.findGrid slot = some grid) :
    ∃ symbol, (repo.entry slot symbol).context.slot = slot ∧
      (repo.entry slot symbol).grid = some grid := by
  obtain ⟨symbol, -, hgrid⟩ := List.exists_of_findSome?_eq_some h
  simp only [RxGridContext.gridFor] at hgrid
  split at hgrid
  · exact ⟨symbol, ‹_›, hgrid⟩
  · cases hgrid

structure Registered (context : ResourceGridContext) (grid : ResourceGrid)
    (symbols : List Nat) (repo next : RxGridContextRepository) : Prop where
  size_eq : next.size = repo.size
  buffer : ∀ index symbol, next.buffer index symbol = repo.buffer index symbol ∨
    index = calculateRepositoryIndex context.slot repo.size ∧ symbol ∈ symbols ∧
      next.buffer index symbol = .new symbol context grid

lemma registerSymbol_registered (h : registerSymbol context grid repo symbol = some next) :
    Registered context grid [symbol] repo next := by
  simp only [registerSymbol] at h
  split at h
  · split at h
    · cases h
      exact ⟨rfl, fun _ _ => .inl rfl⟩
    cases h
    refine ⟨rfl, fun index symbol' => ?_⟩
    by_cases hat : index = calculateRepositoryIndex context.slot repo.size ∧ symbol' = symbol
    · obtain ⟨hindex, rfl⟩ := hat
      exact .inr ⟨hindex, List.mem_singleton_self _, if_pos ⟨hindex, rfl⟩⟩
    · exact .inl (if_neg hat)
  · cases h

lemma register_registered (h : repo.register pending = some next) :
    Registered pending.context ((repo.findGrid pending.context.slot).getD pending.grid)
      pending.symbolRange.symbols repo next := by
  refine foldlM_invariant (Registered _ _ _ repo) h ⟨rfl, fun _ _ => .inl rfl⟩ ?_
  intro before symbol after hsym hbefore hstep
  have hafter := registerSymbol_registered hstep
  refine ⟨hafter.size_eq.trans hbefore.size_eq, fun index symbol' => ?_⟩
  obtain hkept | ⟨hindex, hsym', hnew⟩ := hafter.buffer index symbol'
  · rw [hkept]
    exact hbefore.buffer index symbol'
  · rw [hbefore.size_eq] at hindex
    obtain rfl := List.mem_singleton.mp hsym'
    exact .inr ⟨hindex, hsym, hnew⟩

structure Marked (slot : SlotPoint) (symbol : Nat) (written : Option ResourceGrid)
    (repo next : RxGridContextRepository) : Prop where
  size_eq : next.size = repo.size
  pending_eq : next.pending = repo.pending
  buffer : ∀ index symbol, (repo.buffer index symbol).Extends (next.buffer index symbol)
  written : ∀ grid, written = some grid → (repo.entry slot symbol).grid = some grid

lemma writeGrid_marked {port startRe nofRes : Nat} {written : Option ResourceGrid}
    (h : repo.writeGrid slot port symbol startRe nofRes = some (written, next)) :
    Marked slot symbol written repo next := by
  simp only [writeGrid] at h
  rcases hgrid : (repo.entry slot symbol).grid with _ | grid <;> rw [hgrid] at h
  · cases h
    exact ⟨rfl, rfl, fun _ _ => .refl, fun _ hnone => by cases hnone⟩
  dsimp only at h
  split_ifs at h
  · cases h
    exact ⟨rfl, rfl, fun _ _ => .refl, fun _ hnone => by cases hnone⟩
  cases h
  refine ⟨rfl, rfl, fun index symbol' => ?_, fun _ hwritten => by rw [hgrid, hwritten]⟩
  simp only [setEntry]
  split_ifs with hat
  · obtain ⟨rfl, rfl⟩ := hat
    exact RxGridContext.extends_fill port startRe nofRes
  · exact .refl

lemma popResourceGridSymbol_of_none (h : (repo.entry slot symbol).grid = none) :
    repo.popResourceGridSymbol slot symbol = (none, repo) := by
  simp [popResourceGridSymbol, h]

lemma popResourceGridSymbol_of_some (h : (repo.entry slot symbol).grid = some grid) :
    repo.popResourceGridSymbol slot symbol = (some ((repo.entry slot symbol).context, grid),
        repo.setEntry slot symbol { repo.entry slot symbol with grid := none }) := by
  simp [popResourceGridSymbol, h]

lemma popResourceGridSymbol_buffer (repo : RxGridContextRepository) (slot : SlotPoint)
    (symbol : Nat) : (repo.popResourceGridSymbol slot symbol).2.size = repo.size ∧
    (repo.popResourceGridSymbol slot symbol).2.pending = repo.pending ∧
    ((repo.popResourceGridSymbol slot symbol).2.entry slot symbol).grid = none ∧
    ∀ index symbol', index ≠ calculateRepositoryIndex slot repo.size ∨ symbol' ≠ symbol →
      (repo.popResourceGridSymbol slot symbol).2.buffer index symbol' =
        repo.buffer index symbol' := by
  rcases hgrid : (repo.entry slot symbol).grid with _ | grid
  · rw [popResourceGridSymbol_of_none hgrid]
    exact ⟨rfl, rfl, hgrid, fun _ _ _ => rfl⟩
  rw [popResourceGridSymbol_of_some hgrid]
  refine ⟨rfl, rfl, ?_, fun index symbol' hother => ?_⟩
  · simp [entry, setEntry]
  · exact if_neg (fun hat => hother.elim (· hat.1) (· hat.2))

lemma register_withPending (queue : List PendingContext) (repo : RxGridContextRepository)
    (pending : PendingContext) :
    RxGridContextRepository.register { repo with pending := queue } pending =
      (repo.register pending).map ({ · with pending := queue }) := by
  refine foldlM_map_comm (f := ({ · with pending := queue })) (fun state symbol => ?_) _ repo
  simp only [registerSymbol]
  rw [apply_ite (Option.map _), apply_ite (Option.map _)]
  rfl

end RxGridContextRepository

end ProtoRu
