import ProtoRu.PrachFrequencyMapping
import ProtoRu.RepositoryIndexing

namespace ProtoRu

open Cplane

/-- An uplink request waiting for its reply; an entry without symbols is empty. -/
structure RuUplinkRequest where
  slot : SlotPoint
  filterIndex : FilterIndexType
  startSymbol : Nat
  prbStart : Nat
  nofPrb : Nat
  nofSymbols : Nat
  sectionId : Nat
  prachScs : PrachSubcarrierSpacing := .invalid
  prachStartRb : Nat := 0
  deriving DecidableEq

def RuUplinkRequest.initial : RuUplinkRequest :=
  ⟨SlotPoint.invalid, .standardChannelFilter, 0, 0, 0, 0, 0, .invalid, 0⟩

def RuUplinkRequest.Covers (request : RuUplinkRequest) (symbol : Nat) : Prop :=
  request.startSymbol ≤ symbol ∧ symbol < request.startSymbol + request.nofSymbols
  deriving Decidable

def RuUplinkRequest.cleared (request : RuUplinkRequest) : RuUplinkRequest :=
  { request with nofSymbols := 0 }

def toRuUplinkRequest (results : CplaneMessageDecoderResults) : RuUplinkRequest where
  slot := results.radioHdr.slot
  filterIndex := results.radioHdr.filterIndex
  startSymbol := results.radioHdr.startSymbol
  prbStart := results.sectionFields.prbStart
  nofPrb := results.sectionFields.nofPrb
  nofSymbols := results.sectionFields.nofSymbols
  sectionId := results.sectionFields.sectionId

structure RuUplinkRequestRepository where
  size : Nat
  repo : Nat → Nat → RuUplinkRequest

namespace RuUplinkRequestRepository

def new (size : Nat) : RuUplinkRequestRepository := ⟨size, fun _ _ => .initial⟩

def entry (repository : RuUplinkRequestRepository) (slot : SlotPoint) (eaxc : Nat) :
    RuUplinkRequest :=
  repository.repo (calculateRepositoryIndex slot repository.size) eaxc

def setEntry (repository : RuUplinkRequestRepository) (slot : SlotPoint) (eaxc : Nat)
    (request : RuUplinkRequest) : RuUplinkRequestRepository :=
  { repository with repo := fun index eaxc' =>
      if index = calculateRepositoryIndex slot repository.size ∧ eaxc' = eaxc then request
      else repository.repo index eaxc' }

def add (repository : RuUplinkRequestRepository) (eaxc : Nat) (request : RuUplinkRequest) :
    RuUplinkRequestRepository :=
  repository.setEntry request.slot eaxc request

def get (repository : RuUplinkRequestRepository) (slot : SlotPoint) (eaxc : Nat) :
    Option RuUplinkRequest :=
  let request := repository.entry slot eaxc
  if request.nofSymbols ≠ 0 ∧ request.slot = slot then some request else none

def clear (repository : RuUplinkRequestRepository) (slot : SlotPoint) (eaxc : Nat) :
    RuUplinkRequestRepository :=
  let request := repository.entry slot eaxc
  if request.slot = slot then repository.setEntry slot eaxc request.cleared
  else repository

section

variable (repository : RuUplinkRequestRepository) (slot : SlotPoint) (eaxc : Nat)

@[simp] lemma clear_size : (repository.clear slot eaxc).size = repository.size := by
  simp only [clear]
  split <;> rfl

lemma add_repo (request : RuUplinkRequest) (index eaxc' : Nat) :
    (repository.add eaxc request).repo index eaxc' =
      if index = calculateRepositoryIndex request.slot repository.size ∧ eaxc' = eaxc then
        request
      else repository.repo index eaxc' := rfl

lemma get_eq_some_iff (request : RuUplinkRequest) : repository.get slot eaxc = some request ↔
      repository.entry slot eaxc = request ∧ request.nofSymbols ≠ 0 ∧ request.slot = slot := by
  simp only [get]
  constructor
  · intro h
    split at h
    · rename_i hentry
      cases h
      exact ⟨rfl, hentry⟩
    · simp at h
  · rintro ⟨rfl, hentry⟩
    rw [if_pos hentry]

lemma clear_repo_of_ne {eaxc eaxc' : Nat} (hne : eaxc' ≠ eaxc) (index : Nat) :
    (repository.clear slot eaxc).repo index eaxc' = repository.repo index eaxc' := by
  simp only [clear, setEntry]
  split <;> simp [hne]

end

section

variable {repository : RuUplinkRequestRepository} {slot : SlotPoint} {request : RuUplinkRequest}

lemma get_of_get_clear {eaxc eaxc' : Nat}
    (hget : (repository.clear slot eaxc).get slot eaxc' = some request) :
    repository.get slot eaxc' = some request := by
  rw [get_eq_some_iff] at hget ⊢
  obtain ⟨hentry, hsyms, hslot⟩ := hget
  rw [entry, clear_size] at hentry
  obtain rfl | hne := eq_or_ne eaxc' eaxc
  · simp only [clear] at hentry
    split at hentry
    · simp only [setEntry, and_self, if_true] at hentry
      rw [← hentry] at hsyms
      contradiction
    · exact ⟨hentry, hsyms, hslot⟩
  · rw [clear_repo_of_ne repository slot hne] at hentry
    exact ⟨hentry, hsyms, hslot⟩

lemma clear_repo_of_get {eaxc : Nat} (hget : repository.get slot eaxc = some request)
    (index : Nat) : (repository.clear slot eaxc).repo index eaxc =
      if index = calculateRepositoryIndex slot repository.size then
        request.cleared
      else repository.repo index eaxc := by
  obtain ⟨hentry, -, hslot⟩ := (get_eq_some_iff _ _ _ _).mp hget
  simp only [clear, setEntry]
  rw [hentry, if_pos hslot]
  simp

end

end RuUplinkRequestRepository

structure SectorEaxc where
  prachEaxc : EaxcList
  ulEaxc : EaxcList
  dlEaxc : EaxcList

inductive SchedulingRoute where
  | prach
  | uplink
  | downlink
  deriving DecidableEq

def cplaneSectionTypePrach : Nat := 3

/-- The dispatch of a Control-Plane message; none when its eAxC is not configured
for the route. -/
def onCplaneMessageReceived (eaxcs : SectorEaxc) (eaxc : Nat)
    (results : CplaneMessageDecoderResults) : Option SchedulingRoute :=
  if results.sectionType = cplaneSectionTypePrach then
    if eaxc ∈ eaxcs.prachEaxc.values then some .prach else none
  else if results.radioHdr.direction = .uplink then
    if eaxc ∈ eaxcs.ulEaxc.values then some .uplink else none
  else
    if eaxc ∈ eaxcs.dlEaxc.values then some .downlink else none

def handleUplinkScheduling (ulRequestRepo : RuUplinkRequestRepository) (eaxc : Nat)
    (results : CplaneMessageDecoderResults) : RuUplinkRequestRepository :=
  ulRequestRepo.add eaxc (toRuUplinkRequest results)

/-- Record a PRACH request, unless its filter does not fit or its frequency offset leaves the
grid. -/
def handlePrachScheduling (scs : SubcarrierSpacing) (ruNofPrbs : Nat)
    (prachRequestRepo : RuUplinkRequestRepository) (eaxc : Nat)
    (results : CplaneMessageDecoderResults) : RuUplinkRequestRepository :=
  let prachScs := toPrachSubcarrierSpacing results.frameStructureScs
  if isPrachFilterCompatible results.radioHdr.filterIndex prachScs then
    match calculatePrachRbOffset results.frequencyOffset prachScs scs ruNofPrbs with
    | none => prachRequestRepo
    | some rbOffset => prachRequestRepo.add eaxc
        { toRuUplinkRequest results with prachScs := prachScs, prachStartRb := rbOffset }
  else prachRequestRepo

lemma mem_ulEaxc_of_uplink {eaxcs : SectorEaxc} {eaxc : Nat}
    {results : CplaneMessageDecoderResults}
    (h : onCplaneMessageReceived eaxcs eaxc results = some .uplink) :
    eaxc ∈ eaxcs.ulEaxc.values := by
  simp only [onCplaneMessageReceived] at h
  split at h
  · split at h <;> simp at h
  split at h
  · split at h
    · assumption
    · simp at h
  · split at h <;> simp at h

end ProtoRu
