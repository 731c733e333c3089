import ProtoRu.UplinkReplyRuns

namespace ProtoRu.UplinkReplies

open Cplane RuUplinkRequestRepository OfdmSymbolRange List

structure UplinkMessage where
  eaxc : Nat
  results : CplaneMessageDecoderResults

def UplinkMessage.slot (message : UplinkMessage) : SlotPoint := message.results.radioHdr.slot

def UplinkMessage.Covers (message : UplinkMessage) (symbol : Nat) : Prop :=
  (toRuUplinkRequest message.results).Covers symbol
  deriving Decidable

structure Capture where
  slot : SlotPoint
  symbol : Nat
  nofGridPorts : Nat

def recordMessage (config : UplinkConfig) (repository : RuUplinkRequestRepository)
    (message : UplinkMessage) : RuUplinkRequestRepository :=
  if Recorded config message.eaxc message.results then
    handleUplinkScheduling repository message.eaxc message.results
  else repository

def recordAll (config : UplinkConfig) (repository : RuUplinkRequestRepository)
    (messages : List UplinkMessage) : RuUplinkRequestRepository :=
  messages.foldl (recordMessage config) repository

def captureAll (config : UplinkConfig) :
    RuUplinkRequestRepository → List Capture → List UplaneResourceGridContext
  | _, [] => []
  | repository, capture :: rest =>
    let answer := handleUplinkSymbol config.sector config.eaxcs.ulEaxc repository
      capture.slot capture.symbol capture.nofGridPorts
    answer.1 ++ captureAll config answer.2 rest

/-- Messages for the same slot and eAxC cover different symbols. -/
def DisjointMessages (messages : List UplinkMessage) : Prop :=
  messages.Pairwise fun message message' =>
    message.slot = message'.slot → message.eaxc = message'.eaxc →
      ∀ symbol, message.Covers symbol → ¬ message'.Covers symbol

/-- The slots of the messages lie within as many consecutive wire slots as there are entries. -/
def InSpan (config : UplinkConfig) (messages : List UplinkMessage) : Prop :=
  ∃ first, ∀ message ∈ messages, ∃ distance < sectorRepoSize config.scs,
    message.slot = ⟨toNumerologyValue config.scs,
      (first + distance) % wirePeriod (toNumerologyValue config.scs)⟩

/-- All symbols of the slots of the messages are captured in order, on all ports. -/
structure CapturesAll (config : UplinkConfig) (cp : CyclicPrefix)
    (messages : List UplinkMessage) (captures : List Capture) : Prop where
  inOrder : ∀ message ∈ messages,
    (captures.filter fun capture => capture.slot = message.slot).map Capture.symbol =
      range (getNsymbPerSlot cp)
  allPorts : ∀ capture ∈ captures, config.eaxcs.ulEaxc.values.length ≤ capture.nofGridPorts

/-- Every symbol that a message covers gets a reply with its section identifier. -/
def AllAnswered (config : UplinkConfig) (cp : CyclicPrefix)
    (repository : RuUplinkRequestRepository) (messages : List UplinkMessage)
    (captures : List Capture) : Prop :=
  ∀ message ∈ messages, ∀ symbol < getNsymbPerSlot cp, message.Covers symbol →
    ∃ reply ∈ captureAll config (recordAll config repository messages) captures,
      reply.slot = message.slot ∧ reply.eaxc = message.eaxc ∧
        reply.symbolRange = ofLength symbol 1 ∧
        reply.sectionId = message.results.sectionFields.sectionId

/-- A message that is followed by another one for its slot and eAxC asks for no
symbol of the slot. -/
def LastMessageCounts (cp : CyclicPrefix) (messages : List UplinkMessage) : Prop :=
  messages.Pairwise fun message message' =>
    message.slot = message'.slot → message.eaxc = message'.eaxc →
      ∀ symbol < getNsymbPerSlot cp, ¬ message.Covers symbol

lemma ringIndex_wire (config : UplinkConfig) (count : Nat) :
    ringIndex config ⟨toNumerologyValue config.scs,
        count % wirePeriod (toNumerologyValue config.scs)⟩ = count % sectorRepoSize config.scs := by
  have hdvd := sectorRepoSize_dvd_wirePeriod config.scs
  have hindex := calculateRepositoryIndex_eq ⟨toNumerologyValue config.scs,
    count % wirePeriod (toNumerologyValue config.scs)⟩ hdvd
  rw [ringIndex, hindex]
  exact Nat.mod_mod_of_dvd count hdvd

variable {config : UplinkConfig} {repository : RuUplinkRequestRepository}
  {messages : List UplinkMessage}

lemma InSpan.slot_eq (h : InSpan config messages) {message message' : UplinkMessage}
    (hmem : message ∈ messages) (hmem' : message' ∈ messages)
    (hring : ringIndex config message.slot = ringIndex config message'.slot) :
    message.slot = message'.slot := by
  obtain ⟨first, hspan⟩ := h
  obtain ⟨distance, hlt, hslot⟩ := hspan message hmem
  obtain ⟨distance', hlt', hslot'⟩ := hspan message' hmem'
  rw [hslot, hslot', ringIndex_wire, ringIndex_wire] at hring
  have heq : first + distance = first + distance' :=
    eq_of_mod_eq_of_window (Nat.le_add_right first distance) (Nat.add_lt_add_left hlt first)
      (Nat.le_add_right first distance') (Nat.add_lt_add_left hlt' first) hring
  rw [hslot, hslot', heq]

/-- The entry of each message holds the last message for its ring entry and eAxC. -/
def HoldsLast (config : UplinkConfig) (messages : List UplinkMessage)
    (repository : RuUplinkRequestRepository) : Prop :=
  ∀ (i : Nat) (message : UplinkMessage), messages[i]? = some message →
    ∃ (k : Nat) (last : UplinkMessage), i ≤ k ∧ messages[k]? = some last ∧
      last.eaxc = message.eaxc ∧
      ringIndex config last.slot = ringIndex config message.slot ∧
      repository.repo (ringIndex config message.slot) message.eaxc = toRuUplinkRequest last.results

lemma recordAll_holdsLast (hsize : repository.size = sectorRepoSize config.scs)
    (messages : List UplinkMessage)
    (hrec : ∀ message ∈ messages, Recorded config message.eaxc message.results) :
    (recordAll config repository messages).size = sectorRepoSize config.scs ∧
      HoldsLast config messages (recordAll config repository messages) := by
  revert hrec
  refine foldl_history_invariant
    (fun (messages : List UplinkMessage) (state : RuUplinkRequestRepository) =>
      (∀ message ∈ messages, Recorded config message.eaxc message.results) →
        state.size = sectorRepoSize config.scs ∧ HoldsLast config messages state)
    ?_ ?_ messages
  · intro _
    exact ⟨hsize, fun _ _ hi => by simp at hi⟩
  intro messages state added hstate hrec
  obtain ⟨hstateSize, hents⟩ :=
    hstate fun message hmem => hrec message (mem_append_left _ hmem)
  have hadded : Recorded config added.eaxc added.results := hrec added (by simp)
  rw [recordMessage, if_pos hadded]
  refine ⟨hstateSize, ?_⟩
  intro i message hi
  rw [handleUplinkScheduling, add_repo, hstateSize]
  change ∃ k last, i ≤ k ∧ (messages ++ [added])[k]? = some last ∧ _ ∧ _ ∧
    (if ringIndex config message.slot = ringIndex config added.slot ∧
      message.eaxc = added.eaxc then toRuUplinkRequest added.results else _) = _
  obtain ⟨hlt, -⟩ := List.getElem?_eq_some_iff.mp hi
  rw [length_append, length_singleton] at hlt
  by_cases hsame : ringIndex config message.slot = ringIndex config added.slot ∧
      message.eaxc = added.eaxc
  · refine ⟨messages.length, added, by omega, by simp, hsame.2.symm, hsame.1.symm, ?_⟩
    rw [if_pos hsame]
  have hold : i < messages.length := by
    by_contra hge
    obtain rfl : i = messages.length := by omega
    obtain rfl : added = message := by simpa using hi
    exact hsame ⟨rfl, rfl⟩
  rw [getElem?_append_left hold] at hi
  obtain ⟨k, last, hik, hk, heaxc, hring, hentry⟩ := hents i message hi
  obtain ⟨hklt, -⟩ := List.getElem?_eq_some_iff.mp hk
  refine ⟨k, last, hik, ?_, heaxc, hring, ?_⟩
  · rwa [getElem?_append_left hklt]
  · rwa [if_neg hsame]

variable {captures : List Capture}

lemma mem_captureAll {reply : UplaneResourceGridContext}
    (hreply : reply ∈ captureAll config repository captures) :
    ∃ symbol, reply.symbolRange = ofLength symbol 1 ∧
      (repository.entry reply.slot reply.eaxc).Covers symbol := by
  induction captures generalizing repository with
  | nil => cases hreply
  | cons capture rest ih =>
    obtain hfirst | hlater := mem_append.mp hreply
    · obtain ⟨eaxc, port, request, -, hanswered, rfl⟩ :=
        (mem_handleUplinkSymbol_replies _ _ _ _ _ _ _).mp hfirst
      obtain ⟨hget, hcovers⟩ := (answered_eq_some_iff _ _ _ _ _).mp hanswered
      obtain ⟨hentry, -⟩ := (get_eq_some_iff _ _ _ _).mp hget
      exact ⟨capture.symbol, rfl, hentry ▸ hcovers⟩
    · obtain ⟨symbol, hrange, hcovers⟩ := ih hlater
      refine ⟨symbol, hrange, ?_⟩
      rw [entry, handleUplinkSymbol_size, handleUplinkSymbol_repo] at hcovers
      split at hcovers
      · obtain ⟨hstart, hstop⟩ := hcovers
        exact absurd hstop (Nat.not_lt.mpr hstart)
      · exact hcovers

section

variable {slot : SlotPoint} {eaxc : Nat} {request : RuUplinkRequest} {capture : Capture}

lemma get_after_capture (config : UplinkConfig) (hget : repository.get slot eaxc = some request)
    (hnotLast : capture.slot = slot → capture.symbol ≠ request.startSymbol + request.nofSymbols - 1)
    : (handleUplinkSymbol config.sector config.eaxcs.ulEaxc repository capture.slot
      capture.symbol capture.nofGridPorts).2.get slot eaxc = some request := by
  obtain ⟨hentry, hnil, hslot⟩ :=
    (get_eq_some_iff _ _ _ _).mp hget
  rw [get_eq_some_iff]
  refine ⟨?_, hnil, hslot⟩
  simp only [entry] at hentry ⊢
  rw [handleUplinkSymbol_size, handleUplinkSymbol_repo, if_neg]
  · exact hentry
  rintro ⟨-, hindex, hfinishes⟩
  obtain ⟨finished, hanswered, hlast⟩ := (finishes_iff _ _ _ _).mp hfinishes
  obtain ⟨hgetFinished, -⟩ := (answered_eq_some_iff _ _ _ _ _).mp hanswered
  obtain ⟨hentryFinished, -, hslotFinished⟩ :=
    (get_eq_some_iff _ _ _ _).mp hgetFinished
  rw [entry, ← hindex, hentry] at hentryFinished
  subst hentryFinished
  exact hnotLast (hslotFinished.symm.trans hslot) hlast

lemma exists_reply_of_get (heaxc : eaxc ∈ config.eaxcs.ulEaxc.values)
    {before after : List Capture} (hget : repository.get slot eaxc = some request)
    (hports : config.eaxcs.ulEaxc.values.length ≤ capture.nofGridPorts)
    (hslot : capture.slot = slot) (hcovers : request.Covers capture.symbol)
    (hbefore : ∀ earlier ∈ before, earlier.slot = slot → earlier.symbol ≠ request.startSymbol +
      request.nofSymbols - 1) : ∃ reply ∈ captureAll config repository (before ++ capture :: after),
      reply.slot = slot ∧ reply.eaxc = eaxc ∧ reply.symbolRange = ofLength capture.symbol 1 ∧
        reply.sectionId = request.sectionId := by
  induction before generalizing repository with
  | nil =>
    have hserved : eaxc ∈ (servedPorts config.eaxcs.ulEaxc capture.nofGridPorts).map Prod.fst := by
      rwa [map_fst_servedPorts, take_of_length_le hports]
    obtain ⟨⟨eaxc', port⟩, hport, rfl⟩ := mem_map.mp hserved
    subst hslot
    refine ⟨replyContext config.sector capture.slot capture.symbol eaxc' port request,
      mem_append_left _ ?_, rfl, rfl, rfl, rfl⟩
    rw [mem_handleUplinkSymbol_replies]
    exact ⟨eaxc', port, request, hport, (answered_eq_some_iff _ _ _ _ _).mpr ⟨hget, hcovers⟩, rfl⟩
  | cons earlier rest ih =>
    have hget' := get_after_capture config hget (hbefore earlier mem_cons_self)
    obtain ⟨reply, hreply, hfields⟩ := ih hget' fun other hother =>
      hbefore other (mem_cons_of_mem _ hother)
    exact ⟨reply, mem_append_right _ hreply, hfields⟩

end

lemma exists_capture {slot : SlotPoint} {nofSymbols symbol : Nat}
    (hinOrder : (captures.filter fun capture => capture.slot = slot).map Capture.symbol = range
      nofSymbols) (hsym : symbol < nofSymbols) :
    ∃ before capture after, captures = before ++ capture :: after ∧ capture.slot = slot ∧
      capture.symbol = symbol ∧
      ∀ earlier ∈ before, earlier.slot = slot → earlier.symbol < symbol := by
  obtain ⟨count, rfl⟩ : ∃ count, nofSymbols = symbol + (count + 1) :=
    ⟨nofSymbols - symbol - 1, by omega⟩
  have hsplit : range (symbol + (count + 1)) = range symbol ++
      symbol :: (range count).map fun i => symbol + (i + 1) := by
    rw [range_add, range_succ_eq_map]
    simp
  rw [hsplit, map_eq_append_iff] at hinOrder
  obtain ⟨smaller, others, hfilter, hsmaller, hothers⟩ := hinOrder
  obtain ⟨capture, rest, rfl, hcapture, -⟩ := map_eq_cons_iff.mp hothers
  obtain ⟨before, tail, rfl, hbefore, htail⟩ := filter_eq_append_iff.mp hfilter
  obtain ⟨skipped, after, rfl, hskip, hslot, -⟩ := filter_eq_cons_iff.mp htail
  refine ⟨before ++ skipped, capture, after, by simp, by simpa using hslot, hcapture, ?_⟩
  intro earlier hearl hearlierSlot
  obtain hmem | hmem := mem_append.mp hearl
  · have hin : earlier.symbol ∈ range symbol := by
      rw [← hsmaller, ← hbefore]
      exact mem_map_of_mem (mem_filter.mpr ⟨hmem, by simpa using hearlierSlot⟩)
    exact mem_range.mp hin
  · exact absurd hearlierSlot (by simpa using hskip earlier hmem)

lemma exists_last (hspan : InSpan config messages)
    (hsize : repository.size = sectorRepoSize config.scs)
    (hholds : HoldsLast config messages repository) {i : Nat} {message : UplinkMessage}
    (hi : messages[i]? = some message) :
    ∃ k last, i ≤ k ∧ messages[k]? = some last ∧ last.eaxc = message.eaxc ∧
      last.slot = message.slot ∧
      repository.entry message.slot message.eaxc = toRuUplinkRequest last.results := by
  obtain ⟨k, last, hik, hk, heaxc, hring, hentry⟩ := hholds i message hi
  refine ⟨k, last, hik, hk, heaxc, ?_, ?_⟩
  · exact hspan.slot_eq (mem_of_getElem? hk) (mem_of_getElem? hi) hring
  · rwa [entry, hsize]

/-- All symbols are answered exactly if only the last message for a slot and an eAxC covers any.
-/
theorem allAnswered_iff_lastMessageCounts (config : UplinkConfig) (cp : CyclicPrefix)
    (repository : RuUplinkRequestRepository) (messages : List UplinkMessage)
    (captures : List Capture) (hsize : repository.size = sectorRepoSize config.scs)
    (hrecorded : ∀ message ∈ messages, Recorded config message.eaxc message.results)
    (hdisjoint : DisjointMessages messages) (hspan : InSpan config messages)
    (hcaptures : CapturesAll config cp messages captures) :
    AllAnswered config cp repository messages captures ↔ LastMessageCounts cp messages := by
  obtain ⟨hrecordSize, hholds⟩ := recordAll_holdsLast hsize messages hrecorded
  constructor
  · intro hall
    apply pairwise_iff_getElem.mpr
    intro i j hi hj hij hslot heaxc symbol hsymbol hcovers
    obtain ⟨k, last, hjk, hk, hlastEaxc, hlastSlot, hentry⟩ :=
      exists_last hspan hrecordSize hholds (getElem?_eq_getElem hj)
    obtain ⟨reply, hreply, hreplySlot, hreplyEaxc, hreplyRange, -⟩ :=
      hall _ (getElem_mem hi) symbol hsymbol hcovers
    obtain ⟨symbol', hrange, hstored⟩ := mem_captureAll hreply
    rw [hreplyRange] at hrange
    have hsymbol' : symbol = symbol' := congrArg start hrange
    rw [hreplySlot, hreplyEaxc, hslot, heaxc, hentry, ← hsymbol'] at hstored
    obtain ⟨hklt, rfl⟩ := List.getElem?_eq_some_iff.mp hk
    have hapart := pairwise_iff_getElem.mp hdisjoint i k hi hklt (by omega)
    exact hapart (hslot.trans hlastSlot.symm) (heaxc.trans hlastEaxc.symm) symbol hcovers hstored
  · intro hlast message hmem symbol hsymbol hcovers
    obtain ⟨i, hi, rfl⟩ := getElem_of_mem hmem
    obtain ⟨k, last, hik, hk, hlastEaxc, hlastSlot, hentry⟩ :=
      exists_last hspan hrecordSize hholds (getElem?_eq_getElem hi)
    obtain ⟨hklt, rfl⟩ := List.getElem?_eq_some_iff.mp hk
    have hki : k = i := by
      by_contra hne
      have hempty := pairwise_iff_getElem.mp hlast i k hi hklt (by omega)
      exact hempty hlastSlot.symm hlastEaxc.symm symbol hsymbol hcovers
    subst hki
    have hnonempty : (toRuUplinkRequest messages[k].results).nofSymbols ≠ 0 := by
      have hbounds := hcovers
      simp only [UplinkMessage.Covers, RuUplinkRequest.Covers] at hbounds
      omega
    have hget := (get_eq_some_iff _ _ _ _).mpr ⟨hentry, hnonempty, rfl⟩
    obtain ⟨before, capture, after, rfl, hcaptureSlot, rfl, hbefore⟩ :=
      exists_capture (hcaptures.inOrder _ hmem) hsymbol
    apply exists_reply_of_get (mem_ulEaxc_of_uplink (hrecorded _ hmem)) hget
      (hcaptures.allPorts capture (by simp)) hcaptureSlot hcovers
    intro earlier hearlier hearlierSlot
    have hless := hbefore earlier hearlier hearlierSlot
    have hstop := hcovers.2
    omega

def exampleMessage (slot sectionId startSymbol nofSymbols : Nat) : UplinkMessage where
  eaxc := 0
  results := {
    numSections := 1
    sectionType := 1
    radioHdr := ⟨.uplink, .standardChannelFilter, startSymbol, ⟨0, slot⟩⟩
    sectionFields := ⟨sectionId, 0, 0, 0xfff, nofSymbols⟩ }

/-- The symbols of two slots on one port. -/
def exampleCaptures : List Capture := (range 28).map fun i => ⟨⟨0, i / 14⟩, i % 14, 1⟩

lemma exampleMessages_capturesAll (messages : List UplinkMessage)
    (hslot : ∀ message ∈ messages, ∃ slot < 2, message.slot = ⟨0, slot⟩) :
    InSpan exampleConfig messages ∧ CapturesAll exampleConfig .normal messages exampleCaptures := by
  refine ⟨⟨0, fun message hmem => ?_⟩, ⟨fun message hmem => ?_, by decide⟩⟩
  all_goals
    obtain ⟨slot, hlt, heq⟩ := hslot message hmem
    rw [heq]
    obtain rfl | rfl : slot = 0 ∨ slot = 1 := by omega
  · exact ⟨0, by decide, rfl⟩
  · exact ⟨1, by decide, rfl⟩
  · decide
  · decide

def halfSlotMessages : List UplinkMessage := [exampleMessage 0 1 0 7, exampleMessage 0 2 7 7]

theorem halfSlotMessages_not_allAnswered :
    (∀ message ∈ halfSlotMessages, Recorded exampleConfig message.eaxc message.results) ∧
      DisjointMessages halfSlotMessages ∧ InSpan exampleConfig halfSlotMessages ∧
      CapturesAll exampleConfig .normal halfSlotMessages exampleCaptures ∧
      ¬ AllAnswered exampleConfig .normal (new 20) halfSlotMessages exampleCaptures := by
  obtain ⟨hspan, hcaptures⟩ :=
    exampleMessages_capturesAll halfSlotMessages (by simp [halfSlotMessages]; decide)
  refine ⟨by simp [halfSlotMessages]; decide, ?_, hspan, hcaptures, ?_⟩
  · simp only [DisjointMessages, halfSlotMessages, pairwise_cons, mem_singleton]
    refine ⟨?_, by simp⟩
    rintro message rfl - - symbol ⟨-, hstop⟩ ⟨hstart, -⟩
    change symbol < 0 + 7 at hstop
    change 7 ≤ symbol at hstart
    omega
  · intro hall
    obtain ⟨reply, hreply, -, -, hrange, -⟩ :=
      hall (exampleMessage 0 1 0 7) (by simp [halfSlotMessages]) 0 (by decide) (by decide)
    have hnone : ∀ reply ∈ captureAll exampleConfig (recordAll exampleConfig
        (new 20) halfSlotMessages) exampleCaptures,
        reply.symbolRange ≠ ofLength 0 1 := by
      decide +kernel
    exact hnone reply hreply hrange

def twoSlotMessages : List UplinkMessage := [exampleMessage 0 1 0 14, exampleMessage 1 2 0 14]

theorem twoSlotMessages_allAnswered : LastMessageCounts .normal twoSlotMessages ∧
      AllAnswered exampleConfig .normal (new 20) twoSlotMessages exampleCaptures := by
  obtain ⟨hspan, hcaptures⟩ :=
    exampleMessages_capturesAll twoSlotMessages (by simp [twoSlotMessages]; decide)
  have hslots : twoSlotMessages.Pairwise fun message message' => message.slot ≠ message'.slot := by
    decide
  have hlast : LastMessageCounts .normal twoSlotMessages :=
    hslots.imp fun hne heq => absurd heq hne
  refine ⟨hlast, (allAnswered_iff_lastMessageCounts exampleConfig .normal _ _ exampleCaptures
    (by decide) (by decide) (hslots.imp fun hne heq => absurd heq hne) hspan hcaptures).mpr hlast⟩

end ProtoRu.UplinkReplies
