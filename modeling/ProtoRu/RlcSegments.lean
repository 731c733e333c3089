import Mathlib.Data.List.Pairwise
import ProtoRu.RlcAmPdus

namespace ProtoRu.Rlc

structure Segment where
  si : SiField
  so : Nat
  payload : Bytes
deriving DecidableEq

namespace Segment

def lastByte (segment : Segment) : Nat := segment.so + segment.payload.length - 1

def advance (segment : Segment) (so : Nat) : Segment where
  si := segment.si
  so := so % 2 ^ 16
  payload := segment.payload.drop (so - segment.so)

def stop (segment : Segment) : Nat := segment.so + segment.payload.length

end Segment

/-- Insertion into a set ordered by the offsets. A segment of the same offset stays. -/
def insertSegment (new : Segment) : List Segment → List Segment
  | [] => [new]
  | cur :: rest =>
    if new.so < cur.so then new :: cur :: rest
    else if new.so = cur.so then cur :: rest
    else cur :: insertSegment new rest

/-- The segments that stay and those to insert, or nothing when the new segment has no new bytes.
-/
def fitSegment : List Segment → Segment → Option (List Segment × List Segment)
  | [], new => some ([], [new])
  | cur :: rest, new =>
    if cur.lastByte < new.so then
      (fitSegment rest new).map fun (kept, added) => (cur :: kept, added)
    else if cur.so ≤ new.so then
      if new.lastByte ≤ cur.lastByte then none
      else
        (fitSegment rest (new.advance (cur.lastByte + 1))).map fun (kept, added) =>
          (cur :: kept, added)
    else if new.lastByte < cur.so then some (cur :: rest, [new])
    else if new.lastByte < cur.lastByte then
      some (rest, [new, cur.advance (new.lastByte + 1)])
    else fitSegment rest new

/-- `none` stands for a new segment that is discarded. -/
def storeSegment (segments : List Segment) (new : Segment) : Option (List Segment) :=
  (fitSegment segments new).map fun (kept, added) => added.foldr insertSegment kept

structure Inventory where
  fullyReceived : Bool := false
  hasGap : Bool := false

def segmentInventory : Nat → List Segment → Inventory
  | _, [] => {}
  | nextByte, segm :: rest =>
    if segm.so ≠ nextByte then { hasGap := true }
    else if segm.si = .lastSegment then { fullyReceived := true }
    else segmentInventory (nextByte + segm.payload.length) rest

def chainSegments (segments : List Segment) : Bytes := segments.flatMap Segment.payload

/-- The NACK of the bytes between two segments. The assertion on its offsets fails for
`none`. -/
def gapNack (sn lastSo so : Nat) : Option (List Nack) :=
  let nack : Nack :=
    { nackSn := sn, hasSo := true, soStart := lastSo % 2 ^ 16, soEnd := (so + 2 ^ 16 - 1) % 2 ^ 16 }
  if so = lastSo then some []
  else if nack.soStart ≤ nack.soEnd then some [nack]
  else none

def segmentNacks (sn : Nat) : Nat → Bool → List Segment → Option (List Nack)
  | _, true, [] => some []
  | lastSo, false, [] =>
    some [{ nackSn := sn, hasSo := true, soStart := lastSo % 2 ^ 16, soEnd := soEndOfSdu }]
  | lastSo, haveLastSegment, segm :: rest => do
      let gap ← gapNack sn lastSo segm.so
      let later ← segmentNacks sn segm.stop (haveLastSegment || segm.si == .lastSegment) rest
      return gap ++ later

end ProtoRu.Rlc
