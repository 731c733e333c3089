import Mathlib.Algebra.Order.Ring.Int
import Mathlib.Data.List.DropRight
import ProtoRu.SequenceIdChecking
import ProtoRu.TransitionRuns

namespace ProtoRu.SequenceIds

open SequenceIdChecker (updateAndCompareSeqId setCounter)
open List

/-- One 8-bit counter per eAxC. -/
structure SequenceIdentifierGenerator where
  counters : Nat → Nat

def SequenceIdentifierGenerator.new (initValue : Nat) : SequenceIdentifierGenerator :=
  ⟨fun _ => initValue % nofSequencesIdentifiers⟩

/-- Return the counter of an eAxC and advance it; undefined when the eAxC is no index
of the table. -/
def SequenceIdentifierGenerator.generate (generator : SequenceIdentifierGenerator) (eaxc : Nat) :
    Option (Nat × SequenceIdentifierGenerator) :=
  if eaxc < maxSupportedEaxcIdValue then
    some (generator.counters eaxc, ⟨fun other =>
      if other = eaxc then (generator.counters eaxc + 1) % nofSequencesIdentifiers
      else generator.counters other⟩)
  else none

structure Message where
  eaxc : Nat
  lost : Bool

/-- Sender and receiver of a link, and what the checker returned for which eAxC. -/
structure Link where
  generator : SequenceIdentifierGenerator
  checker : SequenceIdChecker
  returned : List (Nat × Int)

open Link

def Link.new (initValue : Nat) : Link := ⟨.new initValue, .new, []⟩

/-- Number a message and, unless it is lost, hand it to the checker. -/
def Link.transfer (link : Link) (message : Message) : Option Link :=
  (link.generator.generate message.eaxc).bind fun (seqId, generator) =>
    if message.lost then some { link with generator := generator }
    else
      (link.checker.updateAndCompareSeqId message.eaxc seqId).map fun (nofSkipped, checker) =>
        ⟨generator, checker, link.returned ++ [(message.eaxc, nofSkipped)]⟩

/-- Which messages of an eAxC were lost, in the order they were sent. -/
def lostOn (eaxc : Nat) (messages : List Message) : List Bool :=
  (messages.filter (·.eaxc = eaxc)).map (·.lost)

/-- The messages up to the last received one. -/
def upToLast (losses : List Bool) : List Bool := losses.rdropWhile id

/-- The losses after the first received message and before the last one. -/
def lossesBetween (losses : List Bool) : Nat := ((upToLast losses).dropWhile id).count true

def returnedOn (eaxc : Nat) (link : Link) : List Int :=
  (link.returned.filter (·.1 = eaxc)).map (·.2)

def skippedOn (eaxc : Nat) (link : Link) : Int :=
  ((returnedOn eaxc link).filter (0 < ·)).sum

def expectedSeqId (checker : SequenceIdChecker) (eaxc : Nat) : Nat :=
  (checker.counters eaxc + 1) % nofSequencesIdentifiers

lemma getNofSkippedSequenceId_ahead (x : Nat) {gap : Nat} (hgap : gap < 128) :
    getNofSkippedSequenceId ((x + gap) % nofSequencesIdentifiers) (x % nofSequencesIdentifiers) =
      gap := by
  simp only [getNofSkippedSequenceId, nofSequencesIdentifiers]
  split_ifs <;> omega

lemma getNofSkippedSequenceId_pos_iff (x age : Nat) :
    0 < getNofSkippedSequenceId (x % nofSequencesIdentifiers)
        ((x + age + 1) % nofSequencesIdentifiers) ↔
      128 ≤ age % nofSequencesIdentifiers ∧ age % nofSequencesIdentifiers ≠ 255 := by
  simp only [getNofSkippedSequenceId, nofSequencesIdentifiers]
  split_ifs <;> omega

section

variable {losses : List Bool}

lemma upToLast_append_gap : upToLast losses ++ losses.rtakeWhile id = losses :=
  rdropWhile_append_rtakeWhile

lemma gap_eq_replicate : losses.rtakeWhile id = replicate (losses.rtakeWhile id).length true :=
  eq_replicate_of_mem fun _ => mem_rtakeWhile_imp

lemma gap_lt (hgaps : ¬ replicate 128 true <:+: losses) :
    (losses.rtakeWhile id).length < 128 := by
  by_contra hlong
  apply hgaps
  have hinner : replicate 128 true <:+: losses.rtakeWhile id := by
    refine ⟨[], replicate ((losses.rtakeWhile id).length - 128) true, ?_⟩
    rw [nil_append, replicate_append_replicate]
    conv_rhs => rw [gap_eq_replicate]
    rw [Nat.add_sub_of_le (by omega)]
  exact hinner.trans (rtakeWhile_suffix id losses).isInfix

lemma upToLast_lost : upToLast (losses ++ [true]) = upToLast losses :=
  rdropWhile_concat_pos id losses true rfl

lemma upToLast_received : upToLast (losses ++ [false]) = losses ++ [false] :=
  rdropWhile_concat_neg id losses false nofun

lemma dropWhile_upToLast_ne_nil (hany : upToLast losses ≠ []) :
    (upToLast losses).dropWhile id ≠ [] := by
  intro hnil
  rw [dropWhile_eq_nil_iff] at hnil
  exact rdropWhile_last_not id losses hany (hnil _ (getLast_mem hany))

lemma lossesBetween_first (hnone : upToLast losses = []) :
    lossesBetween (losses ++ [false]) = lossesBetween losses := by
  have hall : losses.dropWhile id = [] :=
    dropWhile_eq_nil_iff.mpr (rdropWhile_eq_nil_iff.mp hnone)
  rw [lossesBetween, lossesBetween, upToLast_received, hnone, dropWhile_append, hall]
  rfl

lemma lossesBetween_received (hany : upToLast losses ≠ []) :
    lossesBetween (losses ++ [false]) = lossesBetween losses + (losses.rtakeWhile id).length := by
  have hne := dropWhile_upToLast_ne_nil hany
  rw [lossesBetween, upToLast_received]
  nth_rewrite 1 [← @upToLast_append_gap losses]
  rw [append_assoc, dropWhile_append, if_neg (by simpa using hne), gap_eq_replicate]
  simp [lossesBetween]

end

structure Accounts (initValue eaxc : Nat) (losses : List Bool) (link : Link) : Prop where
  counter : link.generator.counters eaxc = (initValue + losses.length) % nofSequencesIdentifiers
  initialized : link.checker.initialized eaxc = true ↔ upToLast losses ≠ []
  expected : upToLast losses ≠ [] → expectedSeqId link.checker eaxc =
    (initValue + (upToLast losses).length) % nofSequencesIdentifiers
  skipped : skippedOn eaxc link = lossesBetween losses
  nonneg : ∀ value ∈ returnedOn eaxc link, 0 ≤ value

variable {initValue eaxc : Nat} {losses : List Bool} {link : Link}

section

variable (generator : SequenceIdentifierGenerator) (checker : SequenceIdChecker)

lemma returnedOn_concat (value : Int) :
    returnedOn eaxc ⟨generator, checker, link.returned ++ [(eaxc, value)]⟩ =
      returnedOn eaxc link ++ [value] := by
  simp [returnedOn]

lemma skippedOn_concat (gap : Nat) :
    skippedOn eaxc ⟨generator, checker, link.returned ++ [(eaxc, (gap : Int))]⟩ =
      skippedOn eaxc link + gap := by
  rw [skippedOn, returnedOn_concat, filter_append, sum_append, skippedOn]
  cases gap with
  | zero | succ gap => simp

end

variable {checker : SequenceIdChecker} {generator : SequenceIdentifierGenerator}

section

variable (heaxc : eaxc < maxSupportedEaxcIdValue)

include heaxc

lemma updateAndCompareSeqId_ahead (hseen : checker.initialized eaxc = true) {x gap : Nat}
    (hexp : expectedSeqId checker eaxc = x % nofSequencesIdentifiers) (hgap : gap < 128) :
    checker.updateAndCompareSeqId eaxc ((x + gap) % nofSequencesIdentifiers) =
      some ((gap : Int), checker.setCounter eaxc ((x + gap) % nofSequencesIdentifiers)) := by
  rw [expectedSeqId] at hexp
  simp only [updateAndCompareSeqId, if_pos heaxc, if_pos hseen, hexp,
    getNofSkippedSequenceId_ahead x hgap]
  cases gap with
  | zero => exact if_pos rfl
  | succ gap =>
    have hne : (x + (gap + 1)) % nofSequencesIdentifiers ≠ x % nofSequencesIdentifiers := by
      simp only [nofSequencesIdentifiers]
      omega
    rw [if_neg hne, if_pos (by omega)]

lemma updateAndCompareSeqId_past (hseen : checker.initialized eaxc = true) {x age : Nat}
    (hexp : expectedSeqId checker eaxc = (x + age + 1) % nofSequencesIdentifiers) :
    ∃ value after, checker.updateAndCompareSeqId eaxc (x % nofSequencesIdentifiers) =
        some (value, after) ∧ (expectedSeqId after eaxc = expectedSeqId checker eaxc ↔
        age % nofSequencesIdentifiers < 128) := by
  have hpos := getNofSkippedSequenceId_pos_iff x age
  have hset : ∀ seqId, expectedSeqId (checker.setCounter eaxc seqId) eaxc =
      (seqId + 1) % nofSequencesIdentifiers := by
    intro seqId
    rw [expectedSeqId, setCounter]
    simp
  rw [expectedSeqId] at hexp
  simp only [updateAndCompareSeqId, if_pos heaxc, if_pos hseen, hexp]
  split_ifs with hnext hahead
  · refine ⟨_, _, rfl, ?_⟩
    rw [hset, expectedSeqId, hexp]
    simp only [nofSequencesIdentifiers] at hnext ⊢
    omega
  · refine ⟨_, _, rfl, ?_⟩
    rw [hset, expectedSeqId, hexp]
    rw [hpos] at hahead
    simp only [nofSequencesIdentifiers] at hahead ⊢
    omega
  · refine ⟨_, _, rfl, ?_⟩
    rw [hpos] at hahead
    simp only [nofSequencesIdentifiers] at hnext hahead
    exact iff_of_true rfl (by simp only [nofSequencesIdentifiers]; omega)

end

lemma updateAndCompareSeqId_frame (checker : SequenceIdChecker)
    (heaxc : eaxc < maxSupportedEaxcIdValue) (seqId : Nat) :
    ∃ value after, checker.updateAndCompareSeqId eaxc seqId = some (value, after) ∧
      ∀ other ≠ eaxc, after.initialized other = checker.initialized other ∧
        after.counters other = checker.counters other := by
  have hset : ∀ newId, ∀ other ≠ eaxc,
      (checker.setCounter eaxc newId).initialized other = checker.initialized other ∧
        (checker.setCounter eaxc newId).counters other = checker.counters other :=
    fun _ _ hother => ⟨if_neg hother, if_neg hother⟩
  simp only [updateAndCompareSeqId, if_pos heaxc]
  split_ifs
  · exact ⟨_, _, rfl, hset _⟩
  · exact ⟨_, _, rfl, hset _⟩
  · exact ⟨_, _, rfl, fun _ _ => ⟨rfl, rfl⟩⟩
  · exact ⟨_, _, rfl, hset _⟩

section

variable (h : Accounts initValue eaxc losses link)
  (hcounter : generator.counters eaxc =
    (link.generator.counters eaxc + 1) % nofSequencesIdentifiers)

include h hcounter

lemma Accounts.lost :
    Accounts initValue eaxc (losses ++ [true]) { link with generator := generator } where
  counter := by
    rw [hcounter, h.counter, length_append, length_singleton, Nat.mod_add_mod, Nat.add_assoc]
  initialized := by
    rw [upToLast_lost]
    exact h.initialized
  expected := by
    rw [upToLast_lost]
    exact h.expected
  skipped := by
    rw [lossesBetween, upToLast_lost]
    exact h.skipped
  nonneg := h.nonneg

lemma Accounts.set {gap : Nat}
    (hgap : lossesBetween (losses ++ [false]) = lossesBetween losses + gap) :
    Accounts initValue eaxc (losses ++ [false])
      ⟨generator, link.checker.setCounter eaxc (link.generator.counters eaxc),
        link.returned ++ [(eaxc, (gap : Int))]⟩ where
  counter := (h.lost hcounter).counter.trans (by simp)
  initialized := by simp [upToLast_received, setCounter]
  expected := by
    intro _
    simp [upToLast_received, expectedSeqId, setCounter, h.counter, Nat.add_assoc]
  skipped := by
    rw [skippedOn_concat, h.skipped, hgap, Int.natCast_add]
  nonneg := by
    intro value hvalue
    rw [returnedOn_concat, mem_append, mem_singleton] at hvalue
    obtain hold | rfl := hvalue
    · exact h.nonneg value hold
    · exact Int.natCast_nonneg gap

end

lemma Accounts.received (h : Accounts initValue eaxc losses link)
    (heaxc : eaxc < maxSupportedEaxcIdValue) (hgap : (losses.rtakeWhile id).length < 128)
    (hcounter : generator.counters eaxc = (link.generator.counters eaxc + 1) %
      nofSequencesIdentifiers) {value : Int} {after : SequenceIdChecker}
    (hupdate : link.checker.updateAndCompareSeqId eaxc (link.generator.counters eaxc) = some (value,
      after)) : Accounts initValue eaxc (losses ++ [false])
      ⟨generator, after, link.returned ++ [(eaxc, value)]⟩ := by
  by_cases hnone : upToLast losses = []
  · have hfirst : link.checker.initialized eaxc = false := by
      rw [Bool.eq_false_iff, Ne, h.initialized]
      exact not_not_intro hnone
    rw [updateAndCompareSeqId, if_pos heaxc, hfirst] at hupdate
    cases hupdate
    exact h.set hcounter (lossesBetween_first hnone)
  · have hlen : losses.length = (upToLast losses).length + (losses.rtakeWhile id).length := by
      rw [← length_append, upToLast_append_gap]
    have hahead := updateAndCompareSeqId_ahead heaxc (h.initialized.mpr hnone) (h.expected hnone)
      hgap
    rw [Nat.add_assoc, ← hlen, ← h.counter, hupdate] at hahead
    cases hahead
    exact h.set hcounter (lossesBetween_received hnone)

lemma lostOn_concat_self (messages : List Message) (message : Message) :
    lostOn message.eaxc (messages ++ [message]) =
      lostOn message.eaxc messages ++ [message.lost] := by
  simp [lostOn]

variable {messages : List Message} {message : Message}

lemma lostOn_concat_other (hother : eaxc ≠ message.eaxc) :
    lostOn eaxc (messages ++ [message]) = lostOn eaxc messages := by
  simp [lostOn, hother.symm]

lemma Accounts.other {after : Link} (h : Accounts initValue eaxc losses link)
    (hcounter : after.generator.counters eaxc = link.generator.counters eaxc)
    (hinitialized : after.checker.initialized eaxc = link.checker.initialized eaxc)
    (hcounters : after.checker.counters eaxc = link.checker.counters eaxc)
    (hreturned : returnedOn eaxc after = returnedOn eaxc link) :
    Accounts initValue eaxc losses after where
  counter := hcounter.trans h.counter
  initialized := by
    rw [hinitialized]
    exact h.initialized
  expected := by
    rw [expectedSeqId, hcounters]
    exact h.expected
  skipped := by
    rw [skippedOn, hreturned]
    exact h.skipped
  nonneg := by
    rw [hreturned]
    exact h.nonneg

/-- Every eAxC without a gap of half of the identifiers is accounted for. -/
def AllAccounted (initValue : Nat) (messages : List Message) (link : Link) : Prop :=
  ∀ eaxc, ¬ replicate 128 true <:+: lostOn eaxc messages →
    Accounts initValue eaxc (lostOn eaxc messages) link

lemma transfer_accounts (h : AllAccounted initValue messages link)
    (heaxc : message.eaxc < maxSupportedEaxcIdValue) : ∃ after, link.transfer message = some after ∧
      AllAccounted initValue (messages ++ [message]) after := by
  have hgenerate : link.generator.generate message.eaxc = some (_, _) := if_pos heaxc
  obtain ⟨value, checker, hupdate, hframe⟩ :=
    updateAndCompareSeqId_frame link.checker heaxc (link.generator.counters message.eaxc)
  rw [transfer, hgenerate, Option.bind_some]
  cases hlost : message.lost with
  | true =>
    refine ⟨_, if_pos rfl, fun eaxc hgaps => ?_⟩
    by_cases hsame : eaxc = message.eaxc
    · subst hsame
      rw [lostOn_concat_self, hlost] at hgaps ⊢
      exact (h _ fun hinner => hgaps (hinner.trans (prefix_append _ _).isInfix)).lost (if_pos rfl)
    · rw [lostOn_concat_other hsame] at hgaps ⊢
      exact (h eaxc hgaps).other (if_neg hsame) rfl rfl rfl
  | false =>
    refine ⟨_, (if_neg nofun).trans (congrArg (Option.map _) hupdate), fun eaxc hgaps => ?_⟩
    by_cases hsame : eaxc = message.eaxc
    · subst hsame
      rw [lostOn_concat_self, hlost] at hgaps ⊢
      have hbefore : ¬ replicate 128 true <:+: lostOn message.eaxc messages :=
        fun hinner => hgaps (hinner.trans (prefix_append _ _).isInfix)
      exact (h _ hbefore).received heaxc (gap_lt hbefore) (if_pos rfl) hupdate
    · rw [lostOn_concat_other hsame] at hgaps ⊢
      obtain ⟨hinitialized, hcounters⟩ := hframe eaxc hsame
      exact (h eaxc hgaps).other (if_neg hsame) hinitialized hcounters
        (by simp [returnedOn, Ne.symm hsame])

lemma Link.new_accounts (initValue : Nat) : AllAccounted initValue [] (new initValue) :=
  fun _ _ => ⟨rfl, by simp [new, SequenceIdChecker.new, lostOn, upToLast], by
    simp [lostOn, upToLast], rfl, by simp [returnedOn, new]⟩

/-- The positive values of an eAxC sum to its losses, none is negative, and a late message leaves
the expected identifier alone exactly when it is less than half of the identifiers behind. -/
theorem losses_accounted (initValue : Nat) {messages : List Message}
    (heaxcs : ∀ message ∈ messages, message.eaxc < maxSupportedEaxcIdValue) {eaxc : Nat}
    (heaxc : eaxc < maxSupportedEaxcIdValue)
    (hgaps : ¬ replicate 128 true <:+: lostOn eaxc messages) :
    ∃ link, messages.foldlM transfer (new initValue) = some link ∧
      skippedOn eaxc link = lossesBetween (lostOn eaxc messages) ∧
      (∀ value ∈ returnedOn eaxc link, 0 ≤ value) ∧
      ∀ index age, index + age + 1 = (upToLast (lostOn eaxc messages)).length →
        ∃ value after, link.checker.updateAndCompareSeqId eaxc
            ((initValue + index) % nofSequencesIdentifiers) = some (value, after) ∧
          (expectedSeqId after eaxc = expectedSeqId link.checker eaxc ↔
            age % nofSequencesIdentifiers < 128) := by
  obtain ⟨link, hrun, haccounts⟩ := foldlM_history_invariant (AllAccounted initValue)
    (new_accounts initValue) (fun _ _ _ hmem h => transfer_accounts h (heaxcs _ hmem))
  have h := haccounts eaxc hgaps
  refine ⟨link, hrun, h.skipped, h.nonneg, fun index age hindex => ?_⟩
  have hany : upToLast (lostOn eaxc messages) ≠ [] := by
    rw [← length_pos_iff_ne_nil]
    omega
  apply updateAndCompareSeqId_past heaxc (h.initialized.mpr hany)
  rw [h.expected hany, ← hindex]
  simp [Nat.add_assoc]

theorem oneLoss_accounted :
    ∃ link, [⟨0, false⟩, ⟨0, true⟩, ⟨0, false⟩].foldlM transfer (new 255) = some link ∧
      skippedOn 0 link = 1 := by
  obtain ⟨link, hrun, hskipped, -⟩ :=
    @losses_accounted 255 [⟨0, false⟩, ⟨0, true⟩, ⟨0, false⟩] (by decide) 0 (by decide) (by decide)
  exact ⟨link, hrun, hskipped.trans (by decide)⟩

/-- A lost first message is not reported, and one repeated 200 messages later moves the
identifier. -/
theorem firstLoss_unreported :
    (∃ link, [⟨0, true⟩, ⟨0, false⟩].foldlM transfer (new 0) = some link ∧
      skippedOn 0 link ≠ (upToLast (lostOn 0 [⟨0, true⟩, ⟨0, false⟩])).count true) ∧
    ((replicate 201 ⟨0, false⟩).foldlM transfer (new 0)).bind (fun link =>
        (link.checker.updateAndCompareSeqId 0 0).map fun (_, after) =>
          decide (expectedSeqId after 0 = expectedSeqId link.checker 0)) =
      some false :=
  ⟨⟨_, rfl, by decide⟩, by decide +kernel⟩

end ProtoRu.SequenceIds
