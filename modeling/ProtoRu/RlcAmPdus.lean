import Mathlib.Algebra.BigOperators.Group.List.Basic
import ProtoRu.NetworkOrderBytes

namespace ProtoRu.Rlc

open UInt8 Nat Prod List

inductive SnSize where
  | size12bits
  | size18bits

variable (snSize : SnSize)

namespace SnSize

def toNumber : SnSize → Nat
  | size12bits => 12
  | size18bits => 18

def cardinality (snSize : SnSize) : Nat := 2 ^ snSize.toNumber

def windowSize (snSize : SnSize) : Nat := 2 ^ (snSize.toNumber - 1)

def pduHeaderMinSize : SnSize → Nat
  | size12bits => 2
  | size18bits => 3

def pduHeaderMaxSize (snSize : SnSize) : Nat := snSize.pduHeaderMinSize + 2

lemma cardinality_eq : snSize.cardinality = 2 * snSize.windowSize := by
  cases snSize <;> rfl

lemma two_mul_range_lt_windowSize : 2 * 255 < snSize.windowSize := by
  cases snSize <;> decide

lemma cardinality_dvd : snSize.cardinality ∣ 2 ^ 32 := by
  cases snSize <;> decide

instance (snSize : SnSize) : NeZero snSize.windowSize where
  out := by cases snSize <;> decide

end SnSize

inductive SiField where
  | fullSdu
  | firstSegment
  | lastSegment
  | middleSegment
deriving DecidableEq

namespace SiField

def toNumber : SiField → Nat
  | fullSdu => 0
  | firstSegment => 1
  | lastSegment => 2
  | middleSegment => 3

def ofNumber : Nat → SiField
  | 0 => fullSdu
  | 1 => firstSegment
  | 2 => lastSegment
  | _ => middleSegment

/-- The header of the other segments of an SDU has a segment offset. -/
def hasOffset (si : SiField) : Bool := si == lastSegment || si == middleSegment

end SiField

structure PduHeader where
  p : Bool
  si : SiField
  sn : Nat
  so : Nat
deriving DecidableEq

def PduHeader.packedSize (snSize : SnSize) (header : PduHeader) : Nat :=
  if header.si.hasOffset then snSize.pduHeaderMaxSize else snSize.pduHeaderMinSize

def headerFlags (header : PduHeader) : Nat :=
  1 <<< 7 ||| header.p.toNat <<< 6 ||| (header.si.toNumber &&& 0x03) <<< 4

/-- The offset is written unless it is zero, whatever the kind of segment. -/
def writeDataPduHeader (snSize : SnSize) (header : PduHeader) : Bytes :=
  (match snSize with
  | .size12bits =>
    [ofNat (headerFlags header ||| (header.sn >>> 8 &&& 0x0f)), ofNat (header.sn &&& 0xff)]
  | .size18bits =>
    [ofNat (headerFlags header ||| (header.sn >>> 16 &&& 0x3)),
      ofNat (header.sn >>> 8), ofNat (header.sn &&& 0xff)]) ++
  if header.so ≠ 0 then [ofNat (header.so >>> 8), ofNat (header.so &&& 0xff)] else []

def readSn : SnSize → Deserializer (Nat × Nat)
  | .size12bits => do
      let first ← readOneByte
      let second ← readOneByte
      return (first, (first &&& 0x0f) <<< 8 ||| (second &&& 0xff))
  | .size18bits => do
      let first ← readOneByte
      require (first &&& 0x0c = 0)
      let second ← readOneByte
      let third ← readOneByte
      return (first, (first &&& 0x03) <<< 16 ||| (second &&& 0xff) <<< 8 ||| (third &&& 0xff))

def readSo : Bool → Deserializer Nat
  | false => return 0
  | true => readTwoBytes

def readHeaderFields (snSize : SnSize) : Deserializer PduHeader := do
  let (first, sn) ← readSn snSize
  let so ← readSo (SiField.ofNumber (first >>> 4 &&& 0x03)).hasOffset
  return { p := first >>> 6 &&& 0x01 = 1, si := .ofNumber (first >>> 4 &&& 0x03), sn, so }

def readDataPduHeader (snSize : SnSize) (pdu : Bytes) : Option PduHeader :=
  if pdu.length ≤ snSize.pduHeaderMinSize then none
  else (readHeaderFields snSize pdu).map Prod.fst

/-- The SO end value that stands for the end of the SDU. -/
def soEndOfSdu : Nat := 0xffff

structure Nack where
  nackSn : Nat := 0
  hasSo : Bool := false
  soStart : Nat := 0
  soEnd : Nat := soEndOfSdu
  hasNackRange : Bool := false
  nackRange : Nat := 0
deriving DecidableEq

def Nack.nofSdus (nack : Nack) : Nat := if nack.hasNackRange then nack.nackRange else 1

/-- The last SN of the range of a NACK, in the source's unsigned arithmetic. -/
def Nack.lastSn (nack : Nack) : Nat := (nack.nackSn + nack.nackRange + 2 ^ 32 - 1) % 2 ^ 32

def nackSize (snSize : SnSize) (nack : Nack) : Nat :=
  (match snSize with
  | .size12bits => 2
  | .size18bits => 3) +
  (if nack.hasSo then 4 else 0) + if nack.hasNackRange then 1 else 0

def sizeofHeaderAckSn : Nat := 3

structure StatusPdu where
  ackSn : Nat
  nacks : List Nack
deriving DecidableEq

def nacksSize (snSize : SnSize) (nacks : List Nack) : Nat := (nacks.map (nackSize snSize)).sum

/-- The source keeps this sum up to date with each change of the NACKs. -/
def StatusPdu.packedSize (snSize : SnSize) (status : StatusPdu) : Nat :=
  sizeofHeaderAckSn + nacksSize snSize status.nacks

def canBeMerged (snSize : SnSize) (left right : Nack) : Bool :=
  right.nackSn == (left.nackSn + left.nofSdus) % snSize.cardinality &&
    !(left.hasSo && left.soEnd != soEndOfSdu) &&
    !(right.hasSo && right.soStart != 0) &&
    decide (left.nofSdus + right.nofSdus ≤ 255)

def mergeNack (prev nack : Nack) : Nack where
  nackSn := prev.nackSn
  hasSo := prev.hasSo || nack.hasSo
  soStart := if nack.hasSo && !prev.hasSo then 0 else prev.soStart
  soEnd := if nack.hasSo then nack.soEnd else if prev.hasSo then soEndOfSdu else prev.soEnd
  hasNackRange := true
  nackRange := prev.nofSdus + nack.nofSdus

def pushNack (snSize : SnSize) (nacks : List Nack) (nack : Nack) : List Nack :=
  match nacks.getLast? with
  | none => [nack]
  | some prev =>
    if canBeMerged snSize prev nack then nacks.dropLast ++ [mergeNack prev nack]
    else nacks ++ [nack]

def trimNacks (snSize : SnSize) (maxPackedSize : Nat) : List Nack → Nat → List Nack × Nat
  | [], ackSn => ([], ackSn)
  | back :: rest, ackSn =>
    if maxPackedSize < sizeofHeaderAckSn + nacksSize snSize (back :: rest) ∨
        back.nackSn = ackSn then
      trimNacks snSize maxPackedSize rest back.nackSn
    else (back :: rest, ackSn)

def StatusPdu.trim (snSize : SnSize) (maxPackedSize : Nat) (status : StatusPdu) :
    Option StatusPdu :=
  if status.packedSize snSize ≤ maxPackedSize then some status
  else if maxPackedSize < sizeofHeaderAckSn then none
  else
    let (nacks, ackSn) := trimNacks snSize maxPackedSize status.nacks.reverse status.ackSn
    some { ackSn, nacks := nacks.reverse }

def packNackExtensions (nack : Nack) : Bytes :=
  (if nack.hasSo then
    [ofNat (nack.soStart >>> 8), ofNat nack.soStart, ofNat (nack.soEnd >>> 8), ofNat nack.soEnd]
  else []) ++ if nack.hasNackRange then [ofNat nack.nackRange] else []

def extensionFlags (more : Bool) (nack : Nack) : Nat :=
  more.toNat <<< 2 ||| nack.hasSo.toNat <<< 1 ||| nack.hasNackRange.toNat

def packNack (snSize : SnSize) (more : Bool) (nack : Nack) : Bytes :=
  (match snSize with
  | .size12bits =>
    [ofNat (nack.nackSn >>> 4 &&& 0xff),
      ofNat ((nack.nackSn &&& 0x0f) <<< 4 ||| extensionFlags more nack <<< 1)]
  | .size18bits =>
    [ofNat (nack.nackSn >>> 10 &&& 0xff), ofNat (nack.nackSn >>> 2 &&& 0xff),
      ofNat (nack.nackSn <<< 6 &&& 0xc0 ||| extensionFlags more nack <<< 3)]) ++
  packNackExtensions nack

def packNacks (snSize : SnSize) : List Nack → Bytes
  | [] => []
  | nack :: rest => packNack snSize (!rest.isEmpty) nack ++ packNacks snSize rest

def StatusPdu.pack (snSize : SnSize) (status : StatusPdu) : Bytes :=
  (match snSize with
  | .size12bits =>
    [ofNat (status.ackSn >>> 8 &&& 0x0f), ofNat (status.ackSn &&& 0xff),
      if status.nacks.isEmpty then 0x00 else 0x80]
  | .size18bits =>
    [ofNat (status.ackSn >>> 14 &&& 0x0f), ofNat (status.ackSn >>> 6 &&& 0xff),
      ofNat (status.ackSn <<< 2 &&& 0xfc ||| (!status.nacks.isEmpty).toNat <<< 1)]) ++
  packNacks snSize status.nacks

def readNackSn : SnSize → Deserializer (Nat × Bool × Bool × Bool)
  | .size12bits => do
      requireRemaining 2
      let first ← readOneByte
      let second ← readOneByte
      require (second &&& 0x01 = 0)
      return ((first &&& 0xff) <<< 4 ||| (second &&& 0xf0) >>> 4, second &&& 0x08 ≠ 0,
        second &&& 0x04 ≠ 0, second &&& 0x02 ≠ 0)
  | .size18bits => do
      requireRemaining 3
      let first ← readOneByte
      let second ← readOneByte
      let third ← readOneByte
      require (third &&& 0x07 = 0)
      return ((first &&& 0xff) <<< 10 ||| (second &&& 0xff) <<< 2 ||| (third &&& 0xc0) >>> 6,
        third &&& 0x20 ≠ 0, third &&& 0x10 ≠ 0, third &&& 0x08 ≠ 0)

def readNackOffsets (nack : Nack) : Bool → Deserializer Nack
  | false => return nack
  | true => do
      requireRemaining 4
      let soStart ← readTwoBytes
      let soEnd ← readTwoBytes
      return { nack with hasSo := true, soStart, soEnd }

def readNackRange (nack : Nack) : Bool → Deserializer Nack
  | false => return nack
  | true => do
      requireRemaining 1
      let nackRange ← readOneByte
      return { nack with hasNackRange := true, nackRange }

def readNack (snSize : SnSize) : Deserializer (Nack × Bool) := do
  let (nackSn, e1, e2, e3) ← readNackSn snSize
  let withOffsets ← readNackOffsets { nackSn } e2
  let withRange ← readNackRange withOffsets e3
  return (withRange, e1)

/-- The loop over the NACKs. Every round consumes a byte at least, which bounds the rounds. -/
def readNacks (snSize : SnSize) : Nat → Bool → List Nack → Deserializer (List Nack)
  | _, false, nacks => return nacks
  | 0, true, _ => failure
  | rounds + 1, true, nacks => do
      let (nack, e1) ← readNack snSize
      readNacks snSize rounds e1 (pushNack snSize nacks nack)

def readAckSn : SnSize → Deserializer (Nat × Bool)
  | .size12bits => do
      requireRemaining sizeofHeaderAckSn
      let first ← readOneByte
      require (first >>> 7 &&& 0x01 = 0)
      require (first >>> 4 &&& 0x07 = 0)
      let second ← readOneByte
      let third ← readOneByte
      require (third &&& 0x7f = 0)
      return ((first &&& 0x0f) <<< 8 ||| (second &&& 0xff), third &&& 0x80 ≠ 0)
  | .size18bits => do
      requireRemaining sizeofHeaderAckSn
      let first ← readOneByte
      require (first >>> 7 &&& 0x01 = 0)
      require (first >>> 4 &&& 0x07 = 0)
      let second ← readOneByte
      let third ← readOneByte
      require (third &&& 0x01 = 0)
      return ((first &&& 0x0f) <<< 14 ||| (second &&& 0xff) <<< 6 ||| (third &&& 0xfc) >>> 2,
        third &&& 0x02 ≠ 0)

def readStatus (snSize : SnSize) (rounds : Nat) : Deserializer StatusPdu := do
  let (ackSn, e1) ← readAckSn snSize
  let nacks ← readNacks snSize rounds e1 []
  return { ackSn, nacks }

def StatusPdu.unpack (snSize : SnSize) (pdu : Bytes) : Option StatusPdu :=
  (readStatus snSize pdu.length pdu).map Prod.fst

structure Nack.Encodable (snSize : SnSize) (nack : Nack) : Prop where
  nackSn_lt : nack.nackSn < snSize.cardinality
  soStart_lt : nack.soStart < 2 ^ 16
  soEnd_lt : nack.soEnd < 2 ^ 16
  nofSdus_le : nack.nofSdus ≤ 255

variable {snSize : SnSize} {nack : Nack} {remaining rest : Bytes}

lemma mergeNack_encodable {prev : Nack} (hprev : prev.Encodable snSize)
    (hnack : nack.Encodable snSize) (hmerged : canBeMerged snSize prev nack) :
    (mergeNack prev nack).Encodable snSize := by
  obtain ⟨-, hrange⟩ : _ ∧ prev.nofSdus + nack.nofSdus ≤ 255 := by
    simpa [canBeMerged] using hmerged
  refine ⟨hprev.nackSn_lt, ?_, ?_, hrange⟩
  · simp only [mergeNack]
    split
    · decide
    · exact hprev.soStart_lt
  · simp only [mergeNack]
    split
    · exact hnack.soEnd_lt
    · split
      · decide
      · exact hprev.soEnd_lt

lemma pushNack_encodable {nacks : List Nack} (hnacks : ∀ other ∈ nacks, other.Encodable snSize)
    (hnack : nack.Encodable snSize) :
    ∀ other ∈ pushNack snSize nacks nack, other.Encodable snSize := by
  rw [pushNack]
  split
  · exact forall_mem_singleton.mpr hnack
  rename_i prev hprev
  have hmem : prev ∈ nacks := mem_of_getLast? hprev
  split_ifs with hmerged
  · refine forall_mem_append.mpr ⟨?_, forall_mem_singleton.mpr ?_⟩
    · exact fun other hearl => hnacks other (dropLast_subset _ hearl)
    · exact mergeNack_encodable (hnacks prev hmem) hnack hmerged
  · exact forall_mem_append.mpr ⟨hnacks, forall_mem_singleton.mpr hnack⟩

lemma read_bind_iff {α β : Type} {p : Deserializer α} {f : α → Deserializer β} {result : β} :
    (p >>= f) remaining = some (result, rest) ↔
      ∃ a middle, p remaining = some (a, middle) ∧ f a middle = some (result, rest) :=
  Option.bind_eq_some_iff.trans Prod.exists

lemma pure_eq_some_iff {α : Type} {a result : α} :
    (pure a : Deserializer α) remaining = some (result, rest) ↔ a = result ∧ remaining = rest := by
  rw [pure_apply, Option.some.injEq, mk.injEq]

lemma mask_shiftRight_lt (value shift : Nat) {mask width : Nat}
    (hmask : mask < 2 ^ width * 2 ^ shift) : (value &&& mask) >>> shift < 2 ^ width := by
  rw [shiftRight_eq_div_pow]
  exact Nat.div_lt_of_lt_mul (by rw [Nat.mul_comm]; exact Nat.and_le_right.trans_lt hmask)

lemma three_fields_lt (a b c : Nat) {high middle low : Nat} (hhigh : high < 2 ^ a)
    (hmiddle : middle < 2 ^ b) (hlow : low < 2 ^ c) :
    high <<< (b + c) ||| middle <<< c ||| low < 2 ^ (a + (b + c)) := by
  rw [Nat.or_assoc]
  exact shiftLeft_or_lt a hhigh (shiftLeft_or_lt b hmiddle hlow)

lemma readNackSn_lt {nackSn : Nat} {e1 e2 e3 : Bool}
    (h : readNackSn snSize remaining = some ((nackSn, e1, e2, e3), rest)) :
    nackSn < snSize.cardinality := by
  cases snSize with
  | size12bits =>
    simp only [readNackSn, read_bind_iff, pure_eq_some_iff, mk.injEq] at h
    obtain ⟨_, _, -, first, _, -, second, _, -, _, _, -, ⟨rfl, -⟩, -⟩ := h
    exact shiftLeft_or_lt 8 (and_lt_two_pow first (by decide))
      (mask_shiftRight_lt second 4 (by decide))
  | size18bits =>
    simp only [readNackSn, read_bind_iff, pure_eq_some_iff, mk.injEq] at h
    obtain ⟨_, _, -, first, _, -, second, _, -, third, _, -, _, _, -, ⟨rfl, -⟩, -⟩ := h
    exact three_fields_lt 8 8 2 (and_lt_two_pow first (by decide))
      (and_lt_two_pow second (by decide)) (mask_shiftRight_lt third 6 (by decide))

lemma readOneByte_lt {value : Nat} (h : readOneByte remaining = some (value, rest)) :
    value < 2 ^ 8 := by
  cases remaining with
  | nil => cases h
  | cons first others =>
    simp only [readOneByte, Option.some.injEq, mk.injEq] at h
    rw [← h.1]
    exact first.toNat_lt

lemma readTwoBytes_lt {value : Nat} (h : readTwoBytes remaining = some (value, rest)) :
    value < 2 ^ 16 := by
  simp only [readTwoBytes, read_bind_iff, pure_eq_some_iff] at h
  obtain ⟨msb, _, hmsb, lsb, _, hlsb, rfl, -⟩ := h
  exact shiftLeft_or_lt 8 (readOneByte_lt hmsb) (readOneByte_lt hlsb)

lemma readNackOffsets_encodable {result : Nack} {e2 : Bool}
    (h : readNackOffsets nack e2 remaining = some (result, rest)) (hnack : nack.Encodable snSize) :
    result.Encodable snSize := by
  cases e2 with
  | false =>
    obtain ⟨rfl, -⟩ := pure_eq_some_iff.mp h
    exact hnack
  | true =>
    simp only [readNackOffsets, read_bind_iff, pure_eq_some_iff] at h
    obtain ⟨_, _, -, soStart, _, hstart, soEnd, _, hend, rfl, -⟩ := h
    exact ⟨hnack.nackSn_lt, readTwoBytes_lt hstart, readTwoBytes_lt hend, hnack.nofSdus_le⟩

lemma readNackRange_encodable {result : Nack} {e3 : Bool}
    (h : readNackRange nack e3 remaining = some (result, rest)) (hnack : nack.Encodable snSize) :
    result.Encodable snSize := by
  cases e3 with
  | false =>
    obtain ⟨rfl, -⟩ := pure_eq_some_iff.mp h
    exact hnack
  | true =>
    simp only [readNackRange, read_bind_iff, pure_eq_some_iff] at h
    obtain ⟨_, _, -, nackRange, _, hvalue, rfl, -⟩ := h
    exact { hnack with nofSdus_le := le_of_lt_succ (readOneByte_lt hvalue) }

variable {e1 : Bool}

lemma readNack_encodable (h : readNack snSize remaining = some ((nack, e1), rest)) :
    nack.Encodable snSize := by
  simp only [readNack, read_bind_iff, pure_eq_some_iff, mk.injEq] at h
  obtain ⟨⟨nackSn, more, e2, e3⟩, _, hsn, _, _, hoffs, _, _, hrange, ⟨rfl, -⟩, -⟩ := h
  have hinit : Nack.Encodable snSize { nackSn } :=
    ⟨readNackSn_lt hsn, Nat.two_pow_pos 16, Nat.lt_succ_self 65535, Nat.le_of_ble_eq_true rfl⟩
  exact readNackRange_encodable hrange (readNackOffsets_encodable hoffs hinit)

lemma readNacks_encodable {rounds : Nat} {nacks result : List Nack}
    (h : readNacks snSize rounds e1 nacks remaining = some (result, rest))
    (hnacks : ∀ nack ∈ nacks, nack.Encodable snSize) : ∀ nack ∈ result, nack.Encodable snSize := by
  induction rounds generalizing e1 nacks remaining with
  | zero =>
    cases e1 with
    | false =>
      obtain ⟨rfl, -⟩ := pure_eq_some_iff.mp h
      exact hnacks
    | true => cases h
  | succ rounds ih =>
    cases e1 with
    | false =>
      obtain ⟨rfl, -⟩ := pure_eq_some_iff.mp h
      exact hnacks
    | true =>
      obtain ⟨⟨nack, more⟩, middle, hnack, h⟩ := read_bind_iff.mp h
      exact ih h (pushNack_encodable hnacks (readNack_encodable hnack))

lemma readAckSn_lt {ackSn : Nat} (h : readAckSn snSize remaining = some ((ackSn, e1), rest)) :
    ackSn < snSize.cardinality := by
  cases snSize with
  | size12bits =>
    simp only [readAckSn, read_bind_iff, pure_eq_some_iff, mk.injEq] at h
    obtain ⟨_, _, -, first, _, -, _, _, -, _, _, -, second, _, -, _, _, -, _, _, -, ⟨rfl, -⟩, -⟩ :=
      h
    exact shiftLeft_or_lt 4 (and_lt_two_pow first (by decide))
      (and_lt_two_pow second (by decide))
  | size18bits =>
    simp only [readAckSn, read_bind_iff, pure_eq_some_iff, mk.injEq] at h
    obtain ⟨_, _, -, first, _, -, _, _, -, _, _, -, second, _, -, third, _, -, _, _, -, ⟨rfl, -⟩,
      -⟩ := h
    exact three_fields_lt 4 8 6 (and_lt_two_pow first (by decide))
      (and_lt_two_pow second (by decide)) (mask_shiftRight_lt third 2 (by decide))

lemma readSn_lt {first sn : Nat} (h : readSn snSize remaining = some ((first, sn), rest)) :
    sn < snSize.cardinality := by
  cases snSize with
  | size12bits =>
    simp only [readSn, read_bind_iff, pure_eq_some_iff, mk.injEq] at h
    obtain ⟨first, _, -, second, _, -, ⟨-, rfl⟩, -⟩ := h
    exact shiftLeft_or_lt 4 (and_lt_two_pow first (by decide))
      (and_lt_two_pow second (by decide))
  | size18bits =>
    simp only [readSn, read_bind_iff, pure_eq_some_iff, mk.injEq] at h
    obtain ⟨first, _, -, _, _, -, second, _, -, third, _, -, ⟨-, rfl⟩, -⟩ := h
    exact three_fields_lt 2 8 8 (and_lt_two_pow first (by decide))
      (and_lt_two_pow second (by decide)) (and_lt_two_pow third (by decide))

lemma readDataPduHeader_sn_lt {pdu : Bytes} {header : PduHeader}
    (h : readDataPduHeader snSize pdu = some header) : header.sn < snSize.cardinality := by
  rw [readDataPduHeader] at h
  split at h
  · cases h
  obtain ⟨⟨result, rest⟩, hread, rfl⟩ := Option.map_eq_some_iff.mp h
  simp only [readHeaderFields, read_bind_iff, pure_eq_some_iff] at hread
  obtain ⟨⟨first, sn⟩, _, hsn, so, _, -, rfl, -⟩ := hread
  exact readSn_lt hsn

structure StatusPdu.Encodable (snSize : SnSize) (status : StatusPdu) : Prop where
  ackSn_lt : status.ackSn < snSize.cardinality
  nacks : ∀ nack ∈ status.nacks, nack.Encodable snSize

lemma unpack_encodable {pdu : Bytes} {status : StatusPdu}
    (h : StatusPdu.unpack snSize pdu = some status) : status.Encodable snSize := by
  obtain ⟨⟨result, rest⟩, hread, rfl⟩ := Option.map_eq_some_iff.mp h
  simp only [readStatus, read_bind_iff, pure_eq_some_iff] at hread
  obtain ⟨⟨ackSn, e1⟩, _, hack, nacks, _, hnacks, rfl, -⟩ := hread
  exact ⟨readAckSn_lt hack, readNacks_encodable hnacks (by simp)⟩

end ProtoRu.Rlc
