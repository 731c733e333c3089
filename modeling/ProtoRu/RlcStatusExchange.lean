import ProtoRu.TransitionRuns

/-!
The exchange of status reports between the two sides of an RLC AM entity. Three buffers change
hands by atomic exchanges of a pointer, and a flag tells the transmitting side to take a report.
Reports are numbered as they are built.
-/

namespace ProtoRu.RlcStatusExchange

/-- How far the receiving side has come with a report, and whether it is to be sent. -/
inductive Writer where
  | idle
  | refreshed (requested : Bool)
  | stored (requested : Bool)
deriving DecidableEq

inductive Reader where
  | idle
  | required
  | cleared
deriving DecidableEq

structure Exchange where
  statusBuf : Fin 3 → Nat := fun _ => 0
  statusOwnedByWriter : Fin 3 := 0
  statusForExchange : Fin 3 := 1
  statusOwnedByReader : Fin 3 := 2
  doStatus : Bool := false
  nofReports : Nat := 0
  writer : Writer := .idle
  reader : Reader := .idle
  obtained : List Nat := []

inductive Event where
  | refreshStatusReport (requested : Bool)
  | storeStatusReport
  | setDoStatus
  | statusReportRequired
  | clearDoStatus
  | getStatusPdu

/-- One atomic step. A side that is not at this step does nothing. -/
def next (state : Exchange) : Event → Exchange
  | .refreshStatusReport requested =>
    if state.writer = .idle then
      { state with
        statusBuf := Function.update state.statusBuf state.statusOwnedByWriter
          (state.nofReports + 1)
        nofReports := state.nofReports + 1
        writer := .refreshed requested }
    else state
  | .storeStatusReport =>
    match state.writer with
    | .refreshed requested =>
      { state with
        statusOwnedByWriter := state.statusForExchange
        statusForExchange := state.statusOwnedByWriter
        writer := .stored requested }
    | _ => state
  | .setDoStatus =>
    match state.writer with
    | .stored requested =>
      { state with doStatus := requested || state.doStatus, writer := .idle }
    | _ => state
  | .statusReportRequired =>
    if state.reader = .idle ∧ state.doStatus then { state with reader := .required }
    else state
  | .clearDoStatus =>
    if state.reader = .required then
      { state with doStatus := false, reader := .cleared }
    else state
  | .getStatusPdu =>
    if state.reader = .cleared then
      { state with
        statusForExchange := state.statusOwnedByReader
        statusOwnedByReader := state.statusForExchange
        reader := .idle
        obtained := state.obtained ++ [state.statusBuf state.statusForExchange] }
    else state

/-- The exchange and flag of a requested report do not overlap with the clearing of the flag and
its exchange. -/
def Serial (state : Exchange) : Event → Prop
  | .storeStatusReport => state.writer = .refreshed true → state.reader ≠ .cleared
  | .clearDoStatus => state.writer ≠ .stored true
  | _ => True

/-- No buffer has two owners, and no report is older than one obtained before it. -/
def Sound (state : Exchange) : Prop :=
  [state.statusOwnedByWriter, state.statusForExchange,
    state.statusOwnedByReader].Nodup ∧ state.obtained.Pairwise (· ≤ ·)

structure Ordered (state : Exchange) : Prop where
  sound : Sound state
  bounded : ∀ i, state.statusBuf i ≤ state.nofReports
  obtained_le : ∀ report ∈ state.obtained, report ≤ state.nofReports
  newest : ∀ requested, state.writer = .refreshed requested →
    state.statusBuf state.statusOwnedByWriter = state.nofReports
  required : state.reader = .required → state.doStatus
  cleared : state.reader = .cleared → state.doStatus = false ∧ state.writer ≠ .stored true
  /-- A report that will be taken is not older than those obtained before. -/
  fresh : state.doStatus ∨ state.reader = .cleared ∨ state.writer = .stored true →
    ∀ report ∈ state.obtained, report ≤ state.statusBuf state.statusForExchange

lemma next_ordered (state : Exchange) (event : Event) (h : Ordered state)
    (hserial : Serial state event) : Ordered (next state event) := by
  have ⟨hnodup, hsorted⟩ := h.sound
  have hbounded := h.bounded
  have hobtained := h.obtained_le
  have hfresh := h.fresh
  cases event with
  | refreshStatusReport requested =>
    rw [next]
    split
    · exact { h with
        bounded := by grind
        obtained_le := by grind
        newest := by simp
        cleared := by grind [h.cleared]
        fresh := by grind }
    · exact h
  | storeStatusReport =>
    rw [next]
    split
    · exact { h with
        sound := by grind [Sound]
        newest := nofun
        cleared := by grind [h.cleared, Serial]
        -- The newest report is fresh, whatever has been obtained.
        fresh := by grind [h.newest] }
    · exact h
  | setDoStatus =>
    rw [next]
    split
    · exact { h with
        newest := nofun
        required := by grind [h.required]
        cleared := by grind [h.cleared]
        fresh := by grind }
    · exact h
  | statusReportRequired =>
    rw [next]
    split
    · exact { h with
        required := by grind
        cleared := nofun
        fresh := by grind }
    · exact h
  | clearDoStatus =>
    rw [next]
    split
    · exact { h with
        required := nofun
        cleared := by grind [Serial]
        fresh := by grind [h.required] }
    · exact h
  | getStatusPdu =>
    rw [next]
    split
    · exact { h with
        sound := by grind [Sound]
        obtained_le := by grind
        required := nofun
        cleared := nofun
        -- What is left for exchange is old, but the flag is clear and no request is under way.
        fresh := by grind [h.cleared] }
    · exact h

/-- The reports that the transmitting side obtains never go back in time. -/
theorem sound_of_serial {events : List Event} (hserial : Guarded next Serial {} events) :
    Sound (events.foldl next {}) :=
  (Guarded.invariant Ordered next_ordered hserial
    ⟨⟨by decide, .nil⟩, fun _ => Nat.le_refl _, nofun, nofun, nofun, nofun, nofun⟩).sound

def report : List Event := [.refreshStatusReport true, .storeStatusReport, .setDoStatus]

def take : List Event := [.statusReportRequired, .clearDoStatus, .getStatusPdu]

theorem twoReports_sound : Sound ((report ++ take ++ report ++ take).foldl next {}) :=
  @sound_of_serial (report ++ take ++ report ++ take) (by
    simp [Guarded, report, take, Serial, next])

/-- The writer exchanges between the clearing of the flag and the reader's exchange: its flag then
leads to the buffer given away. -/
theorem overlappingReports_not_sound :
    ¬ Sound ((report ++ [Event.statusReportRequired, .clearDoStatus, .refreshStatusReport true,
      .storeStatusReport, .getStatusPdu, .setDoStatus] ++ take).foldl next {}) := by
  unfold Sound
  decide

end ProtoRu.RlcStatusExchange
