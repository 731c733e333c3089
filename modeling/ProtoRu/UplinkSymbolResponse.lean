import Mathlib.Data.List.Basic
import ProtoRu.UplinkRequestRepository

namespace ProtoRu.UplinkReplies

open List Prod RuUplinkRequestRepository

structure UplaneResourceGridContext where
  slot : SlotPoint
  sector : Nat
  port : Nat
  eaxc : Nat
  symbolRange : OfdmSymbolRange
  sectionId : Nat

def replyContext (sector : Nat) (slot : SlotPoint) (symbol eaxc port : Nat)
    (request : RuUplinkRequest) : UplaneResourceGridContext where
  slot := slot
  sector := sector
  port := port
  eaxc := eaxc
  symbolRange := OfdmSymbolRange.ofLength symbol 1
  sectionId := request.sectionId

/-- One round over the ports: reply to a request for the symbol, and clear it with its last
symbol. -/
def answerPort (sector : Nat) (slot : SlotPoint) (symbol : Nat)
    (state : List UplaneResourceGridContext × RuUplinkRequestRepository)
    (port : Nat × Nat) : List UplaneResourceGridContext × RuUplinkRequestRepository :=
  match state.2.get slot port.1 with
  | none => state
  | some request =>
    if request.Covers symbol then
      (state.1 ++ [replyContext sector slot symbol port.1 port.2 request],
        if symbol = request.startSymbol + request.nofSymbols - 1 then
          state.2.clear slot port.1
        else state.2)
    else state

def servedPorts (ulEaxc : EaxcList) (nofGridPorts : Nat) : List (Nat × Nat) :=
  ulEaxc.values.zipIdx.take nofGridPorts

def handleUplinkSymbol (sector : Nat) (ulEaxc : EaxcList)
    (repository : RuUplinkRequestRepository) (slot : SlotPoint)
    (symbol nofGridPorts : Nat) :
    List UplaneResourceGridContext × RuUplinkRequestRepository :=
  (servedPorts ulEaxc nofGridPorts).foldl (answerPort sector slot symbol) ([], repository)

def answered (repository : RuUplinkRequestRepository) (slot : SlotPoint)
    (symbol eaxc : Nat) : Option RuUplinkRequest :=
  (repository.get slot eaxc).filter fun request => request.Covers symbol

def finishes (repository : RuUplinkRequestRepository) (slot : SlotPoint)
    (symbol eaxc : Nat) : Bool :=
  (answered repository slot symbol eaxc).any fun request =>
    symbol = request.startSymbol + request.nofSymbols - 1

section

variable (repository : RuUplinkRequestRepository) (slot : SlotPoint) (symbol eaxc : Nat)

lemma answered_eq_some_iff (request : RuUplinkRequest) :
    answered repository slot symbol eaxc = some request ↔
      repository.get slot eaxc = some request ∧ request.Covers symbol := by
  simp [answered]

lemma finishes_iff : finishes repository slot symbol eaxc ↔
      ∃ request, answered repository slot symbol eaxc = some request ∧
        symbol = request.startSymbol + request.nofSymbols - 1 := by
  simp only [finishes]
  obtain _ | request := answered repository slot symbol eaxc <;> simp

end

lemma answered_congr {repository repository' : RuUplinkRequestRepository} {eaxc : Nat}
    (hsize : repository'.size = repository.size)
    (hrepo : ∀ index, repository'.repo index eaxc = repository.repo index eaxc)
    (slot : SlotPoint) (symbol : Nat) :
    answered repository' slot symbol eaxc = answered repository slot symbol eaxc := by
  have hentry : repository'.entry slot eaxc = repository.entry slot eaxc := by
    rw [RuUplinkRequestRepository.entry, RuUplinkRequestRepository.entry, hsize, hrepo]
  simp only [answered, RuUplinkRequestRepository.get]
  rw [hentry]

section

variable (sector : Nat) (slot : SlotPoint) (symbol : Nat)
  (state : List UplaneResourceGridContext × RuUplinkRequestRepository) (port : Nat × Nat)

lemma answerPort_fst : (answerPort sector slot symbol state port).1 = state.1 ++
      ((answered state.2 slot symbol port.1).map
        (replyContext sector slot symbol port.1 port.2)).toList := by
  simp only [answerPort, answered]
  obtain _ | request := state.2.get slot port.1
  · simp
  · by_cases hcovers : request.Covers symbol <;> simp [hcovers, Option.filter]

lemma answerPort_snd : (answerPort sector slot symbol state port).2 =
      if finishes state.2 slot symbol port.1 then state.2.clear slot port.1 else state.2 := by
  obtain hget | ⟨request, hget⟩ := Option.eq_none_or_eq_some (state.2.get slot port.1)
  · simp [answerPort, finishes, answered, hget]
  · by_cases hcovers : request.Covers symbol <;>
      simp [answerPort, finishes, answered, hget, hcovers]

lemma answerPort_size : (answerPort sector slot symbol state port).2.size = state.2.size := by
  rw [answerPort_snd]
  split
  · exact clear_size _ _ _
  · rfl

lemma answerPort_repo_of_ne {eaxc : Nat} (hne : eaxc ≠ port.1) (index : Nat) :
    (answerPort sector slot symbol state port).2.repo index eaxc = state.2.repo index eaxc := by
  rw [answerPort_snd]
  split
  · exact clear_repo_of_ne _ _ hne _
  · rfl

lemma answerPort_repo (index : Nat) :
    (answerPort sector slot symbol state port).2.repo index port.1 =
      if index = calculateRepositoryIndex slot state.2.size ∧
          finishes state.2 slot symbol port.1 then
        (state.2.repo index port.1).cleared
      else state.2.repo index port.1 := by
  rw [answerPort_snd]
  by_cases hfinishes : finishes state.2 slot symbol port.1
  · obtain ⟨request, hsome, -⟩ := (finishes_iff _ _ _ _).mp hfinishes
    have hget := ((answered_eq_some_iff _ _ _ _ _).mp hsome).1
    have hentry := ((get_eq_some_iff _ _ _ _).mp hget).1
    rw [if_pos hfinishes, clear_repo_of_get hget]
    by_cases hindex : index = calculateRepositoryIndex slot state.2.size
    · rw [if_pos hindex, if_pos ⟨hindex, hfinishes⟩, hindex, ← hentry]
      rfl
    · rw [if_neg hindex, if_neg (fun h => hindex h.1)]
  · simp [hfinishes]

end

section

variable (sector : Nat) (slot : SlotPoint) (symbol : Nat)

lemma foldl_answerPort_size (ports : List (Nat × Nat))
    (state : List UplaneResourceGridContext × RuUplinkRequestRepository) :
    (ports.foldl (answerPort sector slot symbol) state).2.size = state.2.size := by
  induction ports generalizing state with
  | nil => rfl
  | cons port rest ih =>
    rw [foldl_cons, ih]
    exact answerPort_size sector slot symbol state port

variable (ports : List (Nat × Nat)) (hnodup : (ports.map Prod.fst).Nodup)
  (state : List UplaneResourceGridContext × RuUplinkRequestRepository)

include hnodup

/-- The replies of the loop. Each is decided by the requests before it: a round only touches its
own eAxC. -/
lemma foldl_answerPort_replies : (ports.foldl (answerPort sector slot symbol) state).1 =
      state.1 ++ ports.filterMap fun port => (answered state.2 slot symbol port.1).map
        (replyContext sector slot symbol port.1 port.2) := by
  induction ports generalizing state with
  | nil => simp
  | cons port rest ih =>
    rw [map_cons, nodup_cons] at hnodup
    obtain ⟨hnotMem, hrest⟩ := hnodup
    have hlater : ∀ other ∈ rest,
        answered (answerPort sector slot symbol state port).2 slot symbol other.1 =
          answered state.2 slot symbol other.1 := by
      intro other hother
      have hne : other.1 ≠ port.1 := by
        intro heq
        exact hnotMem (heq ▸ mem_map_of_mem hother)
      exact answered_congr (answerPort_size sector slot symbol state port)
        (answerPort_repo_of_ne sector slot symbol state port hne) slot symbol
    rw [foldl_cons, ih hrest, answerPort_fst, append_assoc, filterMap_cons]
    cases answered state.2 slot symbol port.1 <;>
      simpa using filterMap_congr fun other hother => by rw [hlater other hother]

lemma foldl_answerPort_repo (index eaxc : Nat) :
    (ports.foldl (answerPort sector slot symbol) state).2.repo index eaxc =
      if eaxc ∈ ports.map fst ∧ index = calculateRepositoryIndex slot state.2.size ∧
          finishes state.2 slot symbol eaxc then
        (state.2.repo index eaxc).cleared
      else state.2.repo index eaxc := by
  induction ports generalizing state with
  | nil => simp
  | cons port rest ih =>
    rw [map_cons, nodup_cons] at hnodup
    obtain ⟨hnotMem, hrest⟩ := hnodup
    have hsize := answerPort_size sector slot symbol state port
    rw [foldl_cons, ih hrest, hsize]
    by_cases heq : eaxc = port.1
    · subst heq
      rw [if_neg (fun h => hnotMem h.1), answerPort_repo]
      simp
    have hrepo := answerPort_repo_of_ne sector slot symbol state port heq
    have hfinishes : finishes (answerPort sector slot symbol state port).2 slot symbol
        eaxc = finishes state.2 slot symbol eaxc := by
      simp only [finishes]
      rw [answered_congr hsize hrepo]
    have hmem : eaxc ∈ (port :: rest).map fst ↔ eaxc ∈ rest.map fst := by
      simp [heq]
    rw [hfinishes, hrepo]
    exact if_congr (and_congr_left fun _ => hmem.symm) rfl rfl

end

lemma map_fst_servedPorts (ulEaxc : EaxcList) (nofGridPorts : Nat) :
    (servedPorts ulEaxc nofGridPorts).map fst = ulEaxc.values.take nofGridPorts := by
  rw [servedPorts, map_take, zipIdx_map_fst]

lemma servedPorts_nodup (ulEaxc : EaxcList) (nofGridPorts : Nat) :
    ((servedPorts ulEaxc nofGridPorts).map fst).Nodup := by
  rw [map_fst_servedPorts]
  exact ulEaxc.nodup.sublist (take_sublist _ _)

section

variable (sector : Nat) (ulEaxc : EaxcList) (repository : RuUplinkRequestRepository)
  (slot : SlotPoint) (symbol nofGridPorts : Nat)

lemma handleUplinkSymbol_size :
    (handleUplinkSymbol sector ulEaxc repository slot symbol nofGridPorts).2.size =
      repository.size :=
  foldl_answerPort_size _ _ _ _ _

lemma mem_handleUplinkSymbol_replies (context : UplaneResourceGridContext) :
    context ∈ (handleUplinkSymbol sector ulEaxc repository slot symbol nofGridPorts).1 ↔
      ∃ eaxc port request, (eaxc, port) ∈ servedPorts ulEaxc nofGridPorts ∧
        answered repository slot symbol eaxc = some request ∧
        context = replyContext sector slot symbol eaxc port request := by
  rw [handleUplinkSymbol, foldl_answerPort_replies _ _ _ _ (servedPorts_nodup _ _),
    nil_append, mem_filterMap]
  constructor
  · rintro ⟨⟨eaxc, port⟩, hport, hctx⟩
    obtain ⟨request, hreq, rfl⟩ := Option.map_eq_some_iff.mp hctx
    exact ⟨eaxc, port, request, hport, hreq, rfl⟩
  · rintro ⟨eaxc, port, request, hport, hreq, rfl⟩
    exact ⟨(eaxc, port), hport, by rw [hreq]; rfl⟩

lemma handleUplinkSymbol_repo (symbol nofGridPorts index eaxc : Nat) :
    (handleUplinkSymbol sector ulEaxc repository slot symbol nofGridPorts).2.repo index eaxc =
      if eaxc ∈ ulEaxc.values.take nofGridPorts ∧
          index = calculateRepositoryIndex slot repository.size ∧
          finishes repository slot symbol eaxc then
        (repository.repo index eaxc).cleared
      else repository.repo index eaxc := by
  rw [handleUplinkSymbol, foldl_answerPort_repo _ _ _ _ (servedPorts_nodup _ _),
    map_fst_servedPorts]

end

lemma map_eaxc_replies_sublist (sector : Nat) (repository : RuUplinkRequestRepository)
    (slot : SlotPoint) (symbol : Nat) (ports : List (Nat × Nat)) :
    ((ports.filterMap fun port => (answered repository slot symbol port.1).map
        (replyContext sector slot symbol port.1 port.2)).map
      UplaneResourceGridContext.eaxc).Sublist (ports.map fst) := by
  induction ports with
  | nil => simp
  | cons port rest ih =>
    rcases hanswered : answered repository slot symbol port.1 with _ | request
    · rw [filterMap_cons, hanswered]
      exact ih.cons _
    · rw [filterMap_cons, hanswered]
      exact ih.cons_cons _

lemma handleUplinkSymbol_eaxc_nodup (sector : Nat) (ulEaxc : EaxcList)
    (repository : RuUplinkRequestRepository) (slot : SlotPoint) (symbol nofGridPorts : Nat) :
    ((handleUplinkSymbol sector ulEaxc repository slot symbol nofGridPorts).1.map
      UplaneResourceGridContext.eaxc).Nodup := by
  have hnodup := servedPorts_nodup ulEaxc nofGridPorts
  rw [handleUplinkSymbol, foldl_answerPort_replies _ _ _ _ hnodup]
  exact hnodup.sublist (map_eaxc_replies_sublist sector repository slot symbol _)

end ProtoRu.UplinkReplies
