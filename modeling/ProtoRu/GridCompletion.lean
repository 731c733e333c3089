import ProtoRu.DownlinkGridRepository
import ProtoRu.MessageFields

namespace ProtoRu.GridCompletion

open List

variable {Sample : Type}

structure SymbolGrid (Sample : Type) where
  nofPorts : Nat
  nofSubc : Nat
  samples : Nat → Nat → Sample

structure PrbSection (Sample : Type) where
  startPrb : Nat
  nofPrbs : Nat
  iqSamples : List Sample
  iqSamples_length : iqSamples.length = nofPrbs * nofSubcarriersPerRb

def PrbSection.inside (params : PrbSection Sample) (duNofPrbs : Nat) : List Sample :=
  let nofPrbsToWrite :=
    if params.startPrb + params.nofPrbs < duNofPrbs then params.nofPrbs
    else duNofPrbs - params.startPrb
  params.iqSamples.take (nofPrbsToWrite * nofSubcarriersPerRb)

/-- A write outside the view of the symbol violates the assertion of the span. -/
def writeGrid (context : RxGridContext (SymbolGrid Sample)) (port startRe : Nat)
    (reIqBuffer : List Sample) : Option (RxGridContext (SymbolGrid Sample)) :=
  match context.grid with
  | none => some context
  | some grid =>
    if grid.nofPorts ≤ port then some context
    else if grid.nofSubc < startRe + reIqBuffer.length then none
    else
      let samples (other re : Nat) : Sample :=
        if other = port ∧ startRe ≤ re ∧ re < startRe + reIqBuffer.length then
          (reIqBuffer[re - startRe]?).getD (grid.samples other re)
        else grid.samples other re
      some { context.fill port startRe reIqBuffer.length with
        grid := some { grid with samples := samples } }

/-- One round of the writer's loop. Sections are cut to the grid, or dropped outside of it. -/
def writeSection (context : RxGridContext (SymbolGrid Sample)) (port : Nat)
    (params : PrbSection Sample) : Option (RxGridContext (SymbolGrid Sample)) :=
  match context.grid with
  | none => some context
  | some grid =>
    let duNofPrbs := grid.nofSubc / nofSubcarriersPerRb
    if duNofPrbs ≤ params.startPrb then some context
    else
      writeGrid context port (params.startPrb * nofSubcarriersPerRb) (params.inside duNofPrbs)

def tryGettingCompleteResourceGrid (context : RxGridContext (SymbolGrid Sample)) :
    Option (SymbolGrid Sample) :=
  match context.grid with
  | none => none
  | some grid =>
    if ∀ port < grid.nofPorts, ∀ re < grid.nofSubc, context.reWritten port re then some grid
    else none

/-- The writer and the notifier take turns at the mutex of the repository. -/
inductive Event (Sample : Type) where
  | write (port : Nat) (params : PrbSection Sample)
  | tryPop

structure State (Sample : Type) where
  context : RxGridContext (SymbolGrid Sample)
  popped : List (SymbolGrid Sample)

def step (state : State Sample) : Event Sample → Option (State Sample)
  | .write port params => (writeSection state.context port params).map ({ state with context := · })
  | .tryPop =>
    match tryGettingCompleteResourceGrid state.context with
    | none => some state
    | some grid => some ⟨.initial, state.popped ++ [grid]⟩

def sectionsOn (port : Nat) (events : List (Event Sample)) : List (PrbSection Sample) :=
  events.filterMap fun
    | .write other params => if other = port then some params else none
    | .tryPop => none

def covers (nofSubc re : Nat) (params : PrbSection Sample) : Bool :=
  params.startPrb * nofSubcarriersPerRb ≤ re &&
    re < (params.startPrb + params.nofPrbs) * nofSubcarriersPerRb &&
    re < nofSubc / nofSubcarriersPerRb * nofSubcarriersPerRb

def lastSample (nofSubc re : Nat) (sections : List (PrbSection Sample)) : Option Sample :=
  (sections.reverse.find? (covers nofSubc re)).bind fun params =>
    params.iqSamples[re - params.startPrb * nofSubcarriersPerRb]?

/-- Some section covers each resource element of each port. -/
def Complete (grid : SymbolGrid Sample) (events : List (Event Sample)) : Prop :=
  ∀ port < grid.nofPorts, ∀ re < grid.nofSubc,
    ∃ params ∈ sectionsOn port events, covers grid.nofSubc re params

structure Assembled (grid : SymbolGrid Sample) (events : List (Event Sample))
    (context : RxGridContext (SymbolGrid Sample)) : Prop where
  grid_eq : ∃ samples, context.grid = some { grid with samples := samples } ∧
    ∀ port < grid.nofPorts, ∀ re, samples port re =
      (lastSample grid.nofSubc re (sectionsOn port events)).getD (grid.samples port re)
  reWritten_iff : ∀ port < grid.nofPorts, ∀ re, context.reWritten port re ↔
    ∃ params ∈ sectionsOn port events, covers grid.nofSubc re params

structure Outcome (grid : SymbolGrid Sample) (events : List (Event Sample))
    (state : State Sample) : Prop where
  assembled : state.popped = [] → Assembled grid events state.context
  emptied : state.popped ≠ [] → state.context = .initial
  once : state.popped.length ≤ 1

lemma sectionsOn_write (port other : Nat) (events : List (Event Sample))
    (params : PrbSection Sample) : sectionsOn port (events ++ [.write other params]) =
      sectionsOn port events ++ if other = port then [params] else [] := by
  by_cases h : other = port <;> simp [sectionsOn, h]

lemma sectionsOn_tryPop (port : Nat) (events : List (Event Sample)) :
    sectionsOn port (events ++ [.tryPop]) = sectionsOn port events := by
  simp [sectionsOn]

lemma lastSample_append (nofSubc re : Nat) (sections : List (PrbSection Sample))
    (params : PrbSection Sample) : lastSample nofSubc re (sections ++ [params]) =
      if covers nofSubc re params then
        params.iqSamples[re - params.startPrb * nofSubcarriersPerRb]?
      else lastSample nofSubc re sections := by
  simp only [lastSample]
  by_cases h : covers nofSubc re params <;> simp [h]

lemma covers_iff (nofSubc re : Nat) (params : PrbSection Sample) :
    covers nofSubc re params ↔ params.startPrb * nofSubcarriersPerRb ≤ re ∧
      re < (params.startPrb + params.nofPrbs) * nofSubcarriersPerRb ∧
      re < nofSubc / nofSubcarriersPerRb * nofSubcarriersPerRb := by
  simp [covers, and_assoc]

lemma length_inside (params : PrbSection Sample) (duNofPrbs : Nat) :
    (params.inside duNofPrbs).length =
      min params.nofPrbs (duNofPrbs - params.startPrb) * nofSubcarriersPerRb := by
  rw [PrbSection.inside, length_take, params.iqSamples_length, Nat.mul_min_mul_right]
  split <;> congr 1 <;> omega

variable {params : PrbSection Sample}

lemma covers_iff_inside {nofSubc : Nat} (hstart : params.startPrb < nofSubc / nofSubcarriersPerRb)
    (re : Nat) : params.startPrb * nofSubcarriersPerRb +
      (params.inside (nofSubc / nofSubcarriersPerRb)).length ≤ nofSubc ∧
    (covers nofSubc re params ↔ params.startPrb * nofSubcarriersPerRb ≤ re ∧
      re < params.startPrb * nofSubcarriersPerRb +
        (params.inside (nofSubc / nofSubcarriersPerRb)).length) := by
  rw [covers_iff, length_inside]
  simp only [nofSubcarriersPerRb] at *
  omega

lemma inside_getElem? {duNofPrbs i : Nat} (h : i < (params.inside duNofPrbs).length) :
    ∃ sample, (params.inside duNofPrbs)[i]? = some sample ∧ params.iqSamples[i]? = some sample := by
  refine ⟨_, getElem?_eq_getElem h, ?_⟩
  rw [← getElem?_eq_getElem h, PrbSection.inside, getElem?_take_of_lt]
  exact h.trans_le (length_take_le _ _)

variable {grid : SymbolGrid Sample} {events : List (Event Sample)}

section

variable {context : RxGridContext (SymbolGrid Sample)} (h : Assembled grid events context)

include h

lemma writeSection_assembled (port : Nat) (params : PrbSection Sample) :
    ∃ next, writeSection context port params = some next ∧
      Assembled grid (events ++ [.write port params]) next := by
  obtain ⟨⟨samples, hgrid, hsamps⟩, hwrit⟩ := h
  -- A section that is not written covers nothing of the port.
  have hkept (hnone : ∀ re, port < grid.nofPorts → ¬ covers grid.nofSubc re params) :
      Assembled grid (events ++ [.write port params]) context := by
    refine ⟨⟨samples, hgrid, fun other hother re => ?_⟩, fun other hother re => ?_⟩
    · rw [sectionsOn_write, hsamps other hother]
      split
      next heq =>
        rw [lastSample_append, if_neg (hnone re (heq ▸ hother))]
      · rw [append_nil]
    · rw [sectionsOn_write, hwrit other hother]
      split
      next heq =>
        simp [hnone re (heq ▸ hother)]
      · rw [append_nil]
  simp only [writeSection, hgrid]
  by_cases hstart : grid.nofSubc / nofSubcarriersPerRb ≤ params.startPrb
  · refine ⟨context, if_pos hstart, hkept fun re _ hcovers => ?_⟩
    obtain ⟨hle, -, hlt⟩ := (covers_iff _ _ _).mp hcovers
    have := Nat.mul_le_mul_right nofSubcarriersPerRb hstart
    omega
  · rw [if_neg hstart]
    simp only [writeGrid, hgrid]
    by_cases hport : grid.nofPorts ≤ port
    · exact ⟨context, if_pos hport, hkept fun _ hlt => absurd hlt hport.not_gt⟩
    have hinside := covers_iff_inside (not_le.mp hstart)
    rw [if_neg hport, if_neg (hinside 0).1.not_gt]
    refine ⟨_, rfl, ⟨_, rfl, fun other hother re => ?_⟩, fun other hother re => ?_⟩
    · rw [sectionsOn_write]
      by_cases heq : port = other
      · subst heq
        rw [if_pos rfl, lastSample_append]
        by_cases hcovers : covers grid.nofSubc re params
        · obtain ⟨hle, hlt⟩ := (hinside re).2.mp hcovers
          obtain ⟨sample, hbuf, hsample⟩ := inside_getElem? (Nat.sub_lt_left_of_lt_add hle hlt)
          rw [if_pos hcovers, hsample]
          simp [hle, hlt, hbuf]
        · have hnot := mt (hinside re).2.mpr hcovers
          rw [if_neg hcovers, ← hsamps port hother re]
          exact if_neg (by simpa using hnot)
      · rw [if_neg heq, append_nil, ← hsamps other hother re]
        exact if_neg (by simp [Ne.symm heq])
    · dsimp only [RxGridContext.fill]
      rw [sectionsOn_write, Bool.or_eq_true, hwrit other hother]
      by_cases heq : port = other
      · subst heq
        simp [(hinside re).2]
      · simp [heq, Ne.symm heq]

lemma tryGetting_eq :
    (Complete grid events → tryGettingCompleteResourceGrid context = context.grid) ∧
    (¬ Complete grid events → tryGettingCompleteResourceGrid context = none) := by
  obtain ⟨⟨samples, hgrid, -⟩, hwrit⟩ := h
  have hall : (∀ port < grid.nofPorts, ∀ re < grid.nofSubc, context.reWritten port re) ↔
      Complete grid events :=
    forall₂_congr fun port hport => forall₂_congr fun re _ => hwrit port hport re
  simp only [tryGettingCompleteResourceGrid, hgrid]
  exact ⟨fun hcompl => if_pos (hall.mpr hcompl), fun hmiss => if_neg (mt hall.mp hmiss)⟩

end

lemma Outcome.step {state : State Sample} (h : Outcome grid events state) (event : Event Sample) :
    ∃ next, GridCompletion.step state event = some next ∧
      Outcome grid (events ++ [event]) next := by
  by_cases hpopped : state.popped = []
  · have hassembled := h.assembled hpopped
    cases event with
    | write port params =>
      obtain ⟨next, hnext, hafter⟩ := writeSection_assembled hassembled port params
      refine ⟨{ state with context := next }, ?_, fun _ => hafter, absurd hpopped, h.once⟩
      rw [GridCompletion.step, hnext]
      rfl
    | tryPop =>
      obtain ⟨⟨samples, hgrid, hsamps⟩, hwrit⟩ := hassembled
      simp only [GridCompletion.step]
      rcases hget : tryGettingCompleteResourceGrid state.context with _ | popped
      · refine ⟨state, rfl, fun _ => ⟨⟨samples, hgrid, ?_⟩, ?_⟩, absurd hpopped, h.once⟩
        · simpa [sectionsOn_tryPop] using hsamps
        · simpa [sectionsOn_tryPop] using hwrit
      · refine ⟨_, rfl, fun hnil => ?_, fun _ => rfl, by simp [hpopped]⟩
        simp at hnil
  · -- The context is empty: sections are dropped and nothing is returned.
    have hempty := h.emptied hpopped
    refine ⟨state, ?_, fun hnil => absurd hnil hpopped, fun _ => hempty, h.once⟩
    obtain ⟨context, popped⟩ := state
    obtain rfl : context = .initial := hempty
    cases event <;> rfl

/-- What is written is the union of the sections, cut to the bandwidth, each with its last sample.
The symbol is returned once, when that is everything, and its context is emptied. -/
theorem grid_complete_iff_union (symbol : Nat) (context : ResourceGridContext)
    (grid : SymbolGrid Sample) (events : List (Event Sample)) :
    ∃ state, events.foldlM step ⟨.new symbol context grid, []⟩ = some state ∧
      Outcome grid events state ∧
      ((∃ popped, step state .tryPop = some ⟨.initial, state.popped ++ [popped]⟩ ∧
        state.context.grid = some popped) ↔ state.popped = [] ∧ Complete grid events) := by
  have hinit : Outcome grid [] ⟨.new symbol context grid, []⟩ := by
    refine ⟨fun _ => ⟨⟨grid.samples, rfl, fun _ _ _ => rfl⟩, ?_⟩, absurd rfl, Nat.zero_le 1⟩
    simp [RxGridContext.new, sectionsOn]
  have hrun : ∃ state, events.foldlM step ⟨.new symbol context grid, []⟩ = some state ∧
      Outcome grid events state :=
    foldlM_history_invariant (Outcome grid) hinit fun _ _ event _ h => h.step event
  obtain ⟨state, hrun, houtcome⟩ := hrun
  refine ⟨state, hrun, houtcome, ?_⟩
  by_cases hpopped : state.popped = []
  · obtain ⟨hcomplete, hmissing⟩ := tryGetting_eq (houtcome.assembled hpopped)
    obtain ⟨⟨samples, hgrid, -⟩, -⟩ := houtcome.assembled hpopped
    simp only [step]
    constructor
    · rintro ⟨popped, hpop, -⟩
      refine ⟨hpopped, not_not.mp fun hnot => ?_⟩
      rw [hmissing hnot, Option.some_inj] at hpop
      simpa using congrArg State.popped hpop
    · rintro ⟨-, hall⟩
      rw [hcomplete hall, hgrid]
      exact ⟨_, rfl, rfl⟩
  · simp [hpopped, houtcome.emptied hpopped, RxGridContext.initial]

end ProtoRu.GridCompletion
