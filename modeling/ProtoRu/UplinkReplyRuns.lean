import Mathlib.Data.List.Nodup
import ProtoRu.GpsSlotAlignment
import ProtoRu.TransitionRuns
import ProtoRu.UplinkRequestRepository
import ProtoRu.UplinkSymbolResponse

namespace ProtoRu.UplinkReplies

open Cplane GpsSlots RuUplinkRequestRepository List

structure UplinkConfig where
  scs : SubcarrierSpacing
  sector : Nat
  gpsSlotOffset : Nat
  eaxcs : SectorEaxc

/-- What happens to the uplink. Occurrences count slots since the radio started. -/
inductive Event where
  | request (occurrence eaxc : Nat) (results : CplaneMessageDecoderResults)
  | symbol (occurrence symbol : Nat) (isValid : Bool) (nofGridPorts : Nat)

structure Reply where
  requestIndex : Nat
  symbolIndex : Nat
  occurrence : Nat
  symbol : Nat
  context : UplaneResourceGridContext

structure State where
  repository : RuUplinkRequestRepository
  requestIndex : Nat → Nat → Nat
  replies : List Reply
  nofEvents : Nat

def initial (config : UplinkConfig) : State :=
  ⟨new (sectorRepoSize config.scs), fun _ _ => 0, [], 0⟩

def wireSlot (config : UplinkConfig) (occurrence : Nat) : SlotPoint :=
  toOfhSlot (radioSlot config.scs occurrence) config.gpsSlotOffset

def ringIndex (config : UplinkConfig) (slot : SlotPoint) : Nat :=
  calculateRepositoryIndex slot (sectorRepoSize config.scs)

/-- The message is dispatched to the uplink. -/
def Recorded (config : UplinkConfig) (eaxc : Nat) (results : CplaneMessageDecoderResults) :
    Prop :=
  onCplaneMessageReceived config.eaxcs eaxc results = some .uplink
  deriving Decidable

def idle (state : State) : State := { state with nofEvents := state.nofEvents + 1 }

def recordRequest (config : UplinkConfig) (state : State) (eaxc : Nat)
    (results : CplaneMessageDecoderResults) : State where
  repository := handleUplinkScheduling state.repository eaxc results
  requestIndex := fun index eaxc' =>
    if index = ringIndex config results.radioHdr.slot ∧ eaxc' = eaxc then state.nofEvents
    else state.requestIndex index eaxc'
  replies := state.replies
  nofEvents := state.nofEvents + 1

def captureSymbol (config : UplinkConfig) (state : State)
    (occurrence symbol nofGridPorts : Nat) : State :=
  let slot := wireSlot config occurrence
  let answer := handleUplinkSymbol config.sector config.eaxcs.ulEaxc state.repository slot
    symbol nofGridPorts
  { repository := answer.2
    requestIndex := state.requestIndex
    replies := state.replies ++ answer.1.map fun context =>
      { requestIndex := state.requestIndex (ringIndex config slot) context.eaxc
        symbolIndex := state.nofEvents
        occurrence := occurrence
        symbol := symbol
        context := context }
    nofEvents := state.nofEvents + 1 }

/-- One event of a run. The adapter drops symbols that are not valid. -/
def step (config : UplinkConfig) (state : State) : Event → State
  | .request _ eaxc results =>
    if Recorded config eaxc results then recordRequest config state eaxc results
    else idle state
  | .symbol occurrence symbol isValid nofGridPorts =>
    if isValid then captureSymbol config state occurrence symbol nofGridPorts
    else idle state

def run (config : UplinkConfig) (events : List Event) : State :=
  events.foldl (step config) (initial config)

def InOrder : Event → Event → Prop
  | .symbol occurrence symbol _ _, .symbol occurrence' symbol' _ _ =>
    occurrence = occurrence' → symbol < symbol'
  | _, _ => True

instance : DecidableRel InOrder := fun event event' => by
  cases event <;> cases event' <;> dsimp only [InOrder] <;> infer_instance

/-- The symbols of a slot are captured in increasing order. -/
def SymbolsIncreasing (events : List Event) : Prop := events.Pairwise InOrder
  deriving Decidable

variable {events : List Event} {occurrence : Nat} {config : UplinkConfig} {state : State}

lemma SymbolsIncreasing.symbol_lt (h : SymbolsIncreasing events) {i j symbol symbol' : Nat}
    {isValid isValid' : Bool} {nofGridPorts nofGridPorts' : Nat} (hij : i < j)
    (hi : events[i]? = some (.symbol occurrence symbol isValid nofGridPorts))
    (hj : events[j]? = some (.symbol occurrence symbol' isValid' nofGridPorts')) :
    symbol < symbol' := by
  obtain ⟨hilt, hi⟩ := List.getElem?_eq_some_iff.mp hi
  obtain ⟨hjlt, hj⟩ := List.getElem?_eq_some_iff.mp hj
  have horder := pairwise_iff_getElem.mp h i j hilt hjlt hij
  rw [hi, hj] at horder
  exact horder rfl

def Overwrites (config : UplinkConfig) (slot : SlotPoint) (eaxc : Nat) : Event → Prop
  | .request _ eaxc' results => Recorded config eaxc' results ∧ eaxc' = eaxc ∧
      ringIndex config results.radioHdr.slot = ringIndex config slot
  | .symbol .. => False

def Delivers (config : UplinkConfig) (slot : SlotPoint) (eaxc symbol : Nat) : Event → Prop
  | .request .. => False
  | .symbol occurrence symbol' isValid nofGridPorts => isValid = true ∧
      wireSlot config occurrence = slot ∧
      eaxc ∈ config.eaxcs.ulEaxc.values.take nofGridPorts ∧ symbol' = symbol

def Removes (config : UplinkConfig) (eaxc : Nat) (results : CplaneMessageDecoderResults)
    (event : Event) : Prop :=
  Overwrites config results.radioHdr.slot eaxc event ∨ Delivers config results.radioHdr.slot eaxc
      (results.radioHdr.startSymbol + results.sectionFields.nofSymbols - 1) event

/-- The request at a position of the history is the one stored, and nothing has removed it since.
-/
def HeldSince (config : UplinkConfig) (events : List Event) (index eaxc position : Nat)
    (request : RuUplinkRequest) : Prop :=
  ∃ occurrence results, events[position]? = some (.request occurrence eaxc results) ∧
    Recorded config eaxc results ∧ ringIndex config results.radioHdr.slot = index ∧
    request = toRuUplinkRequest results ∧
    ∀ k event, position < k → events[k]? = some event → ¬ Removes config eaxc results event

/-- A valid symbol that the request covers triggered the reply, and nothing had removed the
request. -/
def Justified (config : UplinkConfig) (events : List Event) (reply : Reply) : Prop :=
  ∃ occurrence results nofGridPorts,
    events[reply.requestIndex]? = some (.request occurrence reply.context.eaxc results) ∧
    events[reply.symbolIndex]? = some (.symbol reply.occurrence reply.symbol true nofGridPorts) ∧
    reply.requestIndex < reply.symbolIndex ∧
    Recorded config reply.context.eaxc results ∧
    wireSlot config reply.occurrence = results.radioHdr.slot ∧
    reply.context.eaxc ∈ config.eaxcs.ulEaxc.values.take nofGridPorts ∧
    (toRuUplinkRequest results).Covers reply.symbol ∧
    ∀ k event, reply.requestIndex < k → k < reply.symbolIndex → events[k]? = some event →
      ¬ Removes config reply.context.eaxc results event

structure Inv (config : UplinkConfig) (events : List Event) (state : State) : Prop where
  size_eq : state.repository.size = sectorRepoSize config.scs
  nofEvents_eq : state.nofEvents = events.length
  held : ∀ index eaxc, (state.repository.repo index eaxc).nofSymbols ≠ 0 →
    HeldSince config events index eaxc (state.requestIndex index eaxc)
      (state.repository.repo index eaxc)
  justified : ∀ reply ∈ state.replies, Justified config events reply
  nodup : (state.replies.map fun reply => (reply.symbolIndex, reply.context.eaxc)).Nodup

lemma getElem?_of_append_singleton {event event' : Event} {k : Nat}
    (h : (events ++ [event])[k]? = some event') :
    events[k]? = some event' ∨ k = events.length ∧ event' = event := by
  obtain hlt | heq | hgt := Nat.lt_trichotomy k events.length
  · rw [getElem?_append_left hlt] at h
    exact Or.inl h
  · subst heq
    simpa using h.symm
  · rw [getElem?_eq_none (by simp; omega)] at h
    cases h

lemma getElem?_append_singleton {event' : Event} {k : Nat} (h : events[k]? = some event')
    (event : Event) : (events ++ [event])[k]? = some event' := by
  obtain ⟨hlt, -⟩ := List.getElem?_eq_some_iff.mp h
  rwa [getElem?_append_left hlt]

lemma HeldSince.append {index eaxc position : Nat} {request : RuUplinkRequest}
    (h : HeldSince config events index eaxc position request) {event : Event}
    (hkeep : ∀ results, ringIndex config results.radioHdr.slot = index → request = toRuUplinkRequest
      results → ¬ Removes config eaxc results event) :
    HeldSince config (events ++ [event]) index eaxc position request := by
  obtain ⟨occurrence, results, hposn, hrec, hindex, hreq, hsince⟩ := h
  refine ⟨occurrence, results, getElem?_append_singleton hposn event, hrec, hindex, hreq, ?_⟩
  intro k event' hk hevent'
  obtain hold | ⟨-, rfl⟩ := getElem?_of_append_singleton hevent'
  · exact hsince k event' hk hold
  · exact hkeep results hindex hreq

lemma Justified.append {reply : Reply} (h : Justified config events reply) (event : Event) :
    Justified config (events ++ [event]) reply := by
  obtain ⟨occurrence, results, nofGridPorts, hreq, hsym, hlt, hrec, hslot, hport,
    hcovers, hsince⟩ := h
  refine ⟨occurrence, results, nofGridPorts, getElem?_append_singleton hreq event,
    getElem?_append_singleton hsym event, hlt, hrec, hslot, hport, hcovers, ?_⟩
  intro k event' hk hk' hevent'
  obtain ⟨hlen, -⟩ := List.getElem?_eq_some_iff.mp hsym
  rw [getElem?_append_left (hk'.trans hlen)] at hevent'
  exact hsince k event' hk hk' hevent'

lemma inv_initial (config : UplinkConfig) : Inv config [] (initial config) := by
  refine ⟨rfl, rfl, ?_, ?_, ?_⟩
  · intro index eaxc hnil
    exact absurd rfl hnil
  · intro reply hreply
    cases hreply
  · exact nodup_nil

lemma Inv.idle (h : Inv config events state) {event : Event}
    (hkeep : ∀ eaxc results, ¬ Removes config eaxc results event) :
    Inv config (events ++ [event]) (idle state) := by
  refine ⟨h.size_eq, ?_, ?_, ?_, h.nodup⟩
  · rw [length_append]
    exact congrArg (· + 1) h.nofEvents_eq
  · intro index eaxc hnil
    exact (h.held index eaxc hnil).append fun results _ _ => hkeep eaxc results
  · intro reply hreply
    exact (h.justified reply hreply).append event

section

variable {eaxc : Nat} {results : CplaneMessageDecoderResults}

lemma Inv.recordRequest (h : Inv config events state) (hrec : Recorded config eaxc results) :
    Inv config (events ++ [.request occurrence eaxc results])
      (recordRequest config state eaxc results) := by
  refine ⟨h.size_eq, ?_, ?_, ?_, h.nodup⟩
  · rw [length_append]
    exact congrArg (· + 1) h.nofEvents_eq
  · intro index eaxc' hnil
    simp only [UplinkReplies.recordRequest, handleUplinkScheduling, add_repo, h.size_eq] at hnil ⊢
    set slot := (toRuUplinkRequest results).slot
    change HeldSince config _ index eaxc'
      (if index = ringIndex config slot ∧ eaxc' = eaxc then state.nofEvents
      else state.requestIndex index eaxc') _
    rw [← ringIndex] at hnil ⊢
    by_cases hentry : index = ringIndex config slot ∧ eaxc' = eaxc
    · rw [if_pos hentry, if_pos hentry, h.nofEvents_eq]
      obtain ⟨rfl, rfl⟩ := hentry
      refine ⟨occurrence, results, by simp, hrec, rfl, rfl, ?_⟩
      intro k event hk hevent
      rw [getElem?_eq_none (by simp; omega)] at hevent
      cases hevent
    · rw [if_neg hentry] at hnil
      rw [if_neg hentry, if_neg hentry]
      apply (h.held index eaxc' hnil).append
      rintro results' hindex - (⟨-, heaxc, hring⟩ | hdelivers)
      · exact hentry ⟨hindex.symm.trans hring.symm, heaxc.symm⟩
      · exact hdelivers
  · intro reply hreply
    exact (h.justified reply hreply).append _

lemma finishes_last {repository : RuUplinkRequestRepository}
    (hsize : repository.size = sectorRepoSize config.scs)
    (hentry : repository.repo (ringIndex config results.radioHdr.slot) eaxc = toRuUplinkRequest
      results)
    (hnil : (toRuUplinkRequest results).nofSymbols ≠ 0) : finishes repository results.radioHdr.slot
      (results.radioHdr.startSymbol + results.sectionFields.nofSymbols - 1) eaxc := by
  have hget : repository.get results.radioHdr.slot eaxc = some (toRuUplinkRequest results) := by
    rw [get_eq_some_iff]
    refine ⟨?_, hnil, rfl⟩
    rw [entry, hsize]
    exact hentry
  have hcovers : (toRuUplinkRequest results).Covers
      (results.radioHdr.startSymbol + results.sectionFields.nofSymbols - 1) := by
    change results.sectionFields.nofSymbols ≠ 0 at hnil
    change results.radioHdr.startSymbol ≤ _ ∧ _ < results.radioHdr.startSymbol +
      results.sectionFields.nofSymbols
    omega
  exact (finishes_iff _ _ _ _).mpr ⟨toRuUplinkRequest results,
    (answered_eq_some_iff _ _ _ _ _).mpr ⟨hget, hcovers⟩, rfl⟩

end

lemma Inv.justified_of_mem (h : Inv config events state) {symbol nofGridPorts : Nat}
    {context : UplaneResourceGridContext}
    (hctx : context ∈ (handleUplinkSymbol config.sector config.eaxcs.ulEaxc state.repository
      (wireSlot config occurrence) symbol nofGridPorts).1) :
    Justified config (events ++ [.symbol occurrence symbol true nofGridPorts])
      ⟨state.requestIndex (ringIndex config (wireSlot config occurrence)) context.eaxc,
        state.nofEvents, occurrence, symbol, context⟩ := by
  obtain ⟨eaxc, port, request, hport, hanswered, rfl⟩ :=
    (mem_handleUplinkSymbol_replies _ _ _ _ _ _ _).mp hctx
  obtain ⟨hget, hcovers⟩ := (answered_eq_some_iff _ _ _ _ _).mp hanswered
  obtain ⟨hentry, hnil, hslot⟩ :=
    (get_eq_some_iff _ _ _ _).mp hget
  rw [entry, h.size_eq] at hentry
  subst hentry
  obtain ⟨occurrence', results, hposn, hrec, -, hreq, hsince⟩ :=
    h.held _ eaxc hnil
  obtain ⟨hlt, -⟩ := List.getElem?_eq_some_iff.mp hposn
  have hserved : eaxc ∈ config.eaxcs.ulEaxc.values.take nofGridPorts := by
    rw [← map_fst_servedPorts]
    exact mem_map_of_mem hport
  rw [hreq] at hslot hcovers
  refine ⟨occurrence', results, nofGridPorts, getElem?_append_singleton hposn _,
    ?_, ?_, hrec, hslot.symm, hserved, hcovers, ?_⟩
  · simp [h.nofEvents_eq]
  · exact hlt.trans_eq h.nofEvents_eq.symm
  · intro k event hk hk' hevent
    rw [getElem?_append_left (hk'.trans_eq h.nofEvents_eq)] at hevent
    exact hsince k event hk hevent

lemma Inv.captureSymbol (h : Inv config events state) (occurrence symbol nofGridPorts : Nat) :
    Inv config (events ++ [.symbol occurrence symbol true nofGridPorts])
      (captureSymbol config state occurrence symbol nofGridPorts) := by
  refine ⟨?_, ?_, ?_, ?_, ?_⟩
  · exact (handleUplinkSymbol_size _ _ _ _ _ _).trans h.size_eq
  · rw [length_append]
    exact congrArg (· + 1) h.nofEvents_eq
  · intro index eaxc hnil
    simp only [UplinkReplies.captureSymbol, handleUplinkSymbol_repo, h.size_eq] at hnil ⊢
    by_cases hcleared : eaxc ∈ config.eaxcs.ulEaxc.values.take nofGridPorts ∧
        index = calculateRepositoryIndex (wireSlot config occurrence) (sectorRepoSize config.scs) ∧
        finishes state.repository (wireSlot config occurrence) symbol eaxc
    · rw [if_pos hcleared] at hnil
      contradiction
    rw [if_neg hcleared] at hnil ⊢
    apply (h.held index eaxc hnil).append
    rintro results hindex hreq (hoverwrites | ⟨-, hslot, hport, hlast⟩)
    · exact hoverwrites
    rw [hreq] at hnil
    rw [hslot, hlast] at hcleared
    refine hcleared ⟨hport, hindex.symm, ?_⟩
    exact finishes_last h.size_eq (hindex ▸ hreq) hnil
  · intro reply hreply
    obtain hold | hnew := mem_append.mp hreply
    · exact (h.justified reply hold).append _
    · obtain ⟨context, hctx, rfl⟩ := mem_map.mp hnew
      exact h.justified_of_mem hctx
  · have hnew := handleUplinkSymbol_eaxc_nodup config.sector config.eaxcs.ulEaxc
      state.repository (wireSlot config occurrence) symbol nofGridPorts
    simp only [UplinkReplies.captureSymbol, map_append, map_map]
    rw [nodup_append]
    refine ⟨h.nodup, ?_, ?_⟩
    · have hpair : Function.Injective fun eaxc : Nat => (state.nofEvents, eaxc) :=
        fun _ _ heq => (Prod.mk.inj heq).2
      have hkeys := hnew.map hpair
      rw [map_map] at hkeys
      exact hkeys
    · rintro key hold key' hkey rfl
      obtain ⟨reply, hreply, rfl⟩ := mem_map.mp hold
      obtain ⟨context, -, hctx⟩ := mem_map.mp hkey
      obtain ⟨_, _, _, -, hsym, -⟩ := h.justified reply hreply
      obtain ⟨hlt, -⟩ := List.getElem?_eq_some_iff.mp hsym
      have heq : state.nofEvents = reply.symbolIndex := (Prod.mk.inj hctx).1
      have hlen := h.nofEvents_eq
      omega

lemma inv_run (config : UplinkConfig) (events : List Event) :
    Inv config events (run config events) := by
  refine foldl_history_invariant (Inv config) (inv_initial config) ?_ events
  intro events state event h
  cases event with
  | request occurrence eaxc results =>
    rw [step]
    split_ifs with hrec
    · exact h.recordRequest hrec
    apply h.idle
    rintro eaxc' results' (⟨hrec', -, -⟩ | hdelivers)
    · exact hrec hrec'
    · exact hdelivers
  | symbol occurrence symbol isValid nofGridPorts =>
    cases isValid with
    | true => exact h.captureSymbol occurrence symbol nofGridPorts
    | false =>
      apply h.idle
      rintro eaxc results (hoverwrites | ⟨hvalid, -⟩)
      · exact hoverwrites
      · cases hvalid

/-- Each request and symbol is answered at most once, and only in slots with a request of their
own. -/
structure AnsweredOnce (config : UplinkConfig) (events : List Event) : Prop where
  atMostOnce :
    ((run config events).replies.map fun reply => (reply.requestIndex, reply.symbol)).Nodup
  ownRequest : ∀ reply ∈ (run config events).replies, ∃ i < reply.symbolIndex, ∃ results,
    events[i]? = some (.request reply.occurrence reply.context.eaxc results) ∧
      Recorded config reply.context.eaxc results

/-- Before a later slot of the same number delivers a covered symbol, the request has been
removed. -/
def RemovedBeforeReuse (config : UplinkConfig) (events : List Event) : Prop :=
  ∀ (i j occurrence eaxc : Nat) (results : CplaneMessageDecoderResults)
      (occurrence' symbol nofGridPorts : Nat), i < j →
    events[i]? = some (.request occurrence eaxc results) → Recorded config eaxc results →
    events[j]? = some (.symbol occurrence' symbol true nofGridPorts) →
    Delivers config results.radioHdr.slot eaxc symbol
      (.symbol occurrence' symbol true nofGridPorts) →
    (toRuUplinkRequest results).Covers symbol → occurrence' ≠ occurrence →
    ∃ k event, i < k ∧ k < j ∧ events[k]? = some event ∧ Removes config eaxc results event

lemma Justified.occurrence_eq (hremd : RemovedBeforeReuse config events) {reply : Reply}
    (h : Justified config events reply) : ∃ results, events[reply.requestIndex]? =
        some (.request reply.occurrence reply.context.eaxc results) ∧
      Recorded config reply.context.eaxc results := by
  obtain ⟨occurrence, results, nofGridPorts, hreq, hsym, hlt, hrec, hslot, hport,
    hcovers, hsince⟩ := h
  by_cases hown : reply.occurrence = occurrence
  · rw [hown]
    exact ⟨results, hreq, hrec⟩
  · obtain ⟨k, event, hk, hk', hevent, hremoves⟩ := hremd _ _ _ _ _ _ _ _ hlt hreq
      hrec hsym ⟨rfl, hslot, hport, rfl⟩ hcovers hown
    exact absurd hremoves (hsince k event hk hk' hevent)

lemma symbolIndex_eq_of_same_request (hincreasing : SymbolsIncreasing events)
    (hremd : RemovedBeforeReuse config events) {reply reply' : Reply}
    (h : Justified config events reply) (h' : Justified config events reply')
    (hindex : reply.requestIndex = reply'.requestIndex) (hsym : reply.symbol = reply'.symbol) :
    reply.symbolIndex = reply'.symbolIndex ∧ reply.context.eaxc = reply'.context.eaxc := by
  obtain ⟨results, hreq, -⟩ := h.occurrence_eq hremd
  obtain ⟨results', hreq', -⟩ := h'.occurrence_eq hremd
  rw [hindex, hreq'] at hreq
  injection Option.some.inj hreq with hoccurrence heaxc
  obtain ⟨_, _, _, -, hcapture, -⟩ := h
  obtain ⟨_, _, _, -, hcapture', -⟩ := h'
  rw [hoccurrence] at hcapture'
  refine ⟨?_, heaxc.symm⟩
  obtain hlt | heq | hgt := Nat.lt_trichotomy reply.symbolIndex reply'.symbolIndex
  · have hless := hincreasing.symbol_lt hlt hcapture hcapture'
    omega
  · exact heq
  · have hless := hincreasing.symbol_lt hgt hcapture' hcapture
    omega

/-- When requests are removed before their slot number is used again, each is answered at most
once, in its own slot. -/
theorem answeredOnce_of_removedBeforeReuse (config : UplinkConfig) (events : List Event)
    (hincreasing : SymbolsIncreasing events) (hremoved : RemovedBeforeReuse config events) :
    AnsweredOnce config events := by
  have hinv := inv_run config events
  constructor
  · have hnodup := hinv.nodup
    rw [List.Nodup, pairwise_map] at hnodup ⊢
    apply hnodup.imp_of_mem
    intro reply reply' hreply hreply' hne heq
    obtain ⟨hindex, hsymbol⟩ := Prod.mk.inj heq
    obtain ⟨hevent, heaxc⟩ := symbolIndex_eq_of_same_request hincreasing hremoved
      (hinv.justified reply hreply) (hinv.justified reply' hreply') hindex hsymbol
    exact hne (Prod.ext hevent heaxc)
  · intro reply hreply
    have hjustified := hinv.justified reply hreply
    obtain ⟨results, hrequest, hrecorded⟩ := hjustified.occurrence_eq hremoved
    obtain ⟨_, _, _, -, -, hlt, -⟩ := hjustified
    exact ⟨reply.requestIndex, hlt, results, hrequest, hrecorded⟩

def exampleConfig : UplinkConfig where
  scs := .kHz15
  sector := 0
  gpsSlotOffset := 0
  eaxcs := ⟨oneEaxc, oneEaxc, oneEaxc⟩

def exampleRequest : CplaneMessageDecoderResults where
  numSections := 1
  sectionType := 1
  radioHdr := ⟨.uplink, .standardChannelFilter, 0, ⟨0, 0⟩⟩
  sectionFields := ⟨5, 0, 0, 0xfff, 2⟩

/-- The second symbol of the request is lost; 256 frames later the slot number
repeats. -/
def lostSymbolRun : List Event :=
  [.request 0 0 exampleRequest, .symbol 0 0 true 1, .symbol 0 1 false 1, .symbol 2560 0 true 1]

theorem lostSymbolRun_not_answeredOnce :
    SymbolsIncreasing lostSymbolRun ∧ ¬ AnsweredOnce exampleConfig lostSymbolRun := by
  refine ⟨by decide, ?_⟩
  intro honce
  exact absurd honce.atMostOnce (by decide +kernel)

def completeRun : List Event :=
  [.request 0 0 exampleRequest, .symbol 0 0 true 1, .symbol 0 1 true 1, .symbol 2560 0 true 1]

lemma completeRun_removedBeforeReuse : RemovedBeforeReuse exampleConfig completeRun := by
  intro i j occurrence eaxc results occurrence' symbol nofGridPorts hij hi hrec hj
    hdelivers hcovers hother
  match i, hi with
  | 0, hi =>
    cases hi
    match j, hj with
    | 1, hj | 2, hj =>
      cases hj
      exact absurd rfl hother
    | 3, hj =>
      refine ⟨2, .symbol 0 1 true 1, by decide, by decide, rfl, Or.inr ?_⟩
      exact ⟨rfl, by decide, by decide, rfl⟩
  | 3, hi => cases hi

theorem completeRun_answeredOnce :
    SymbolsIncreasing completeRun ∧ RemovedBeforeReuse exampleConfig completeRun ∧
      AnsweredOnce exampleConfig completeRun :=
  ⟨by decide, completeRun_removedBeforeReuse,
    answeredOnce_of_removedBeforeReuse exampleConfig completeRun (by decide)
      completeRun_removedBeforeReuse⟩

end ProtoRu.UplinkReplies
