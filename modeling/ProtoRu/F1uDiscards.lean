import ProtoRu.TransitionRuns

namespace ProtoRu.F1uDiscards

def nruMaxNofPdcpSnDiscardBlocks : Nat := 16

structure PdcpSnDiscardBlock where
  pdcpSnStart : Nat
  blockSize : Nat

/-- The pending blocks, the SNs discarded so far at the CU-UP and those signalled at the DU. -/
structure Bearers where
  discardBlocks : List PdcpSnDiscardBlock := []
  discarded : List Nat := []
  signalled : List Nat := []

/-- The loops of the DU over the blocks of a message and the SNs of a block. -/
def signals (blocks : List PdcpSnDiscardBlock) : List Nat :=
  blocks.flatMap fun block => List.range' block.pdcpSnStart block.blockSize

namespace Bearers

variable (bearers : Bearers)

def fillDiscardBlocks : Bearers :=
  { bearers with
    discardBlocks := []
    signalled := bearers.signalled ++ signals bearers.discardBlocks }

/-- The size of a block has 8 bits. -/
def queueDiscard (pdcpSn : Nat) : Bearers :=
  match bearers.discardBlocks.getLast? with
  | none => { bearers with discardBlocks := [⟨pdcpSn, 1⟩] }
  | some last =>
    if last.pdcpSnStart + last.blockSize = pdcpSn then
      { bearers with discardBlocks := bearers.discardBlocks.dropLast ++
          [⟨last.pdcpSnStart, (last.blockSize + 1) % 2 ^ 8⟩] }
    else
      let queued := { bearers with discardBlocks := bearers.discardBlocks ++ [⟨pdcpSn, 1⟩] }
      if queued.discardBlocks.length = nruMaxNofPdcpSnDiscardBlocks then queued.fillDiscardBlocks
      else queued

def discardSdu (pdcpSn : Nat) : Bearers :=
  { bearers.queueDiscard pdcpSn with discarded := bearers.discarded ++ [pdcpSn] }

end Bearers

open Bearers

inductive Event where
  | discardSdu (pdcpSn : Fin (2 ^ 18))
  | sdu
  | expiredDlNotifTimer

/-- A downlink PDU takes the blocks along. The timer sends them alone, if there are any. -/
def next (bearers : Bearers) : Event → Bearers
  | .discardSdu pdcpSn => bearers.discardSdu pdcpSn
  | .sdu | .expiredDlNotifTimer => bearers.fillDiscardBlocks

/-- No SN goes to a block that has 255 of them. -/
def Fits (bearers : Bearers) : Event → Prop
  | .discardSdu pdcpSn => ∀ last ∈ bearers.discardBlocks.getLast?,
      last.pdcpSnStart + last.blockSize = pdcpSn → last.blockSize < 255
  | _ => True

/-- Whatever was discarded is signalled or pending, and nothing else is. -/
def Kept (bearers : Bearers) : Prop :=
  ∀ sn, sn ∈ bearers.fillDiscardBlocks.signalled ↔ sn ∈ bearers.discarded

variable {bearers : Bearers}

lemma mem_queueDiscard {pdcpSn : Fin (2 ^ 18)} (hfits : Fits bearers (.discardSdu pdcpSn))
    (sn : Nat) : sn ∈ (bearers.queueDiscard pdcpSn).fillDiscardBlocks.signalled ↔
      sn ∈ bearers.fillDiscardBlocks.signalled ∨ sn = pdcpSn := by
  rw [queueDiscard]
  obtain hnil | ⟨blocks, last, hblocks⟩ := List.eq_nil_or_concat bearers.discardBlocks
  · simp [hnil, fillDiscardBlocks, signals]
  rw [List.concat_eq_append] at hblocks
  have hlast : bearers.discardBlocks.getLast? = some last := by simp [hblocks]
  rw [hlast]
  simp only
  split
  · rename_i hnext
    have hlt := hfits last hlast hnext
    rw [Nat.mod_eq_of_lt (by omega : last.blockSize + 1 < 2 ^ 8), hblocks, List.dropLast_concat]
    simp [fillDiscardBlocks, signals, hblocks, List.range'_concat, hnext, or_assoc]
  · split <;> simp [fillDiscardBlocks, signals, or_assoc]

lemma next_kept (bearers : Bearers) (event : Event) (hkept : Kept bearers)
    (hfits : Fits bearers event) : Kept (next bearers event) := by
  intro sn
  cases event with
  | discardSdu pdcpSn =>
    refine (mem_queueDiscard hfits sn).trans ?_
    rw [hkept sn]
    simp [next, discardSdu]
  | _ => simpa [next, fillDiscardBlocks, signals] using hkept sn

/-- Once the last blocks are sent, the DU has signalled what the CU-UP discarded. -/
theorem signalled_iff_discarded {events : List Event} (hguarded : Guarded next Fits {} events)
    (sn : Nat) : sn ∈ (next (events.foldl next {}) .expiredDlNotifTimer).signalled ↔
      sn ∈ (events.foldl next {}).discarded :=
  Guarded.invariant Kept next_kept hguarded (by simp [Kept, fillDiscardBlocks, signals]) sn

theorem twoSns_signalled :
    7 ∈ (next ([Event.discardSdu 6, .discardSdu 7].foldl next {}) .expiredDlNotifTimer).signalled :=
  (@signalled_iff_discarded [.discardSdu 6, .discardSdu 7]
    ⟨nofun, fun _ hlast _ => (by cases hlast; decide), trivial⟩ 7).mpr (by decide)

/-- The size of a block of 256 SNs is zero. -/
theorem longRun_not_signalled :
    let final := ((List.range 256).map fun sn => Event.discardSdu (.ofNat _ sn)).foldl next {}
    0 ∈ final.discarded ∧ 0 ∉ (next final .expiredDlNotifTimer).signalled := by
  decide +kernel

end ProtoRu.F1uDiscards
