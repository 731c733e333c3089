import ProtoRu.MessageFields

namespace ProtoRu.SequenceIds

def nofSequencesIdentifiers : Nat := 256

/-- One 8-bit counter per eAxC, and whether it has seen a packet. -/
structure SequenceIdChecker where
  initialized : Nat → Bool
  counters : Nat → Nat

def SequenceIdChecker.new : SequenceIdChecker := ⟨fun _ => false, fun _ => 0⟩

def getNofSkippedSequenceId (seqId expectedSeqId : Nat) : Int :=
  let a : Int := seqId - expectedSeqId
  if (nofSequencesIdentifiers / 2 : Nat) ≤ a then a - nofSequencesIdentifiers
  else if a < -(nofSequencesIdentifiers / 2 : Nat) then a + nofSequencesIdentifiers
  else a

def SequenceIdChecker.setCounter (checker : SequenceIdChecker) (eaxc seqId : Nat) :
    SequenceIdChecker where
  initialized := fun other => if other = eaxc then true else checker.initialized other
  counters := fun other => if other = eaxc then seqId else checker.counters other

/-- Compare an identifier with the expected one; undefined when the eAxC is no index of the table.
-/
def SequenceIdChecker.updateAndCompareSeqId (checker : SequenceIdChecker)
    (eaxc seqId : Nat) : Option (Int × SequenceIdChecker) :=
  if eaxc < maxSupportedEaxcIdValue then
    if checker.initialized eaxc then
      let expectedSeqId := (checker.counters eaxc + 1) % nofSequencesIdentifiers
      if seqId = expectedSeqId then some (0, checker.setCounter eaxc expectedSeqId)
      else
        let nofSkipped := getNofSkippedSequenceId seqId expectedSeqId
        if 0 < nofSkipped then some (nofSkipped, checker.setCounter eaxc seqId)
        else some (nofSkipped, checker)
    else some (0, checker.setCounter eaxc seqId)
  else none

end ProtoRu.SequenceIds
