import ProtoRu.NetworkOrderBytes

namespace ProtoRu.PdcpCounts

open Nat List UInt8

inductive RbType where
  | srb
  | drb
deriving DecidableEq

inductive RlcMode where
  | um
  | am
deriving DecidableEq

inductive SnSize where
  | size12bits
  | size18bits
deriving DecidableEq

variable {sn : Nat} (count : Nat)

namespace SnSize

variable (size : SnSize)

def toNat : SnSize → Nat
  | size12bits => 12
  | size18bits => 18

def cardinality : Nat := 1 <<< size.toNat

def windowSize : Nat := 1 <<< (size.toNat - 1)

def dataHeaderSize : Nat := if size = size12bits then 2 else 3

def computeSn (count : Nat) : Nat := count &&& (0xffffffff >>> (32 - size.toNat))

def computeHfn (count : Nat) : Nat := count >>> size.toNat

def computeCount (hfn sn : Nat) : Nat := (hfn <<< size.toNat) % 2 ^ 32 ||| sn

lemma cardinality_eq : size.cardinality = 2 ^ size.toNat := Nat.one_shiftLeft _

lemma windowSize_pos : 0 < size.windowSize := by
  cases size <;> decide

instance : NeZero size.windowSize := ⟨Nat.pos_iff_ne_zero.mp size.windowSize_pos⟩

lemma computeSn_eq : size.computeSn count = count % size.cardinality := by
  have hmask : 0xffffffff >>> (32 - size.toNat) = 2 ^ size.toNat - 1 := by
    cases size <;> decide
  rw [computeSn, hmask, and_two_pow_sub_one_eq_mod, cardinality_eq]

lemma computeSn_lt : size.computeSn count < size.cardinality := by
  rw [computeSn_eq]
  exact Nat.mod_lt _ (by rw [cardinality_eq]; exact Nat.two_pow_pos _)

lemma computeCount_eq (hfn : Nat) (hsn : sn < size.cardinality) :
    size.computeCount hfn sn = hfn % 2 ^ (32 - size.toNat) * size.cardinality + sn := by
  rw [cardinality_eq] at hsn ⊢
  have hwidth : 2 ^ 32 = 2 ^ (32 - size.toNat) * 2 ^ size.toNat := by
    cases size <;> decide
  rw [computeCount, shiftLeft_eq, hwidth, mul_mod_mul_right, ← shiftLeft_eq,
    shiftLeft_or_eq hsn, shiftLeft_eq]

lemma computeHfn_eq : size.computeHfn count = count / size.cardinality := by
  rw [computeHfn, shiftRight_eq_div_pow, cardinality_eq]

lemma sizes : size.windowSize = 2048 ∧ size.cardinality = 4096 ∧ 2 ^ (32 - size.toNat) = 1048576 ∨
      size.windowSize = 131072 ∧ size.cardinality = 262144 ∧ 2 ^ (32 - size.toNat) = 16384 := by
  cases size with
  | size12bits => exact .inl ⟨rfl, rfl, rfl⟩
  | size18bits => exact .inr ⟨rfl, rfl, rfl⟩

end SnSize

def dataPduHeader (rbType : RbType) (size : SnSize) (sn : Nat) : Bytes :=
  let dc : Nat := if rbType = .srb then 0x00 else 0x80
  match size with
  | .size12bits => [UInt8.ofNat (dc ||| ((sn &&& 0xf00) >>> 8)), UInt8.ofNat (sn &&& 0xff)]
  | .size18bits =>
    [UInt8.ofNat (dc ||| ((sn &&& 0x30000) >>> 16)), UInt8.ofNat ((sn &&& 0xff00) >>> 8),
      UInt8.ofNat (sn &&& 0xff)]

def readDataPduHeader (size : SnSize) (pdu : Bytes) : Option Nat :=
  if pdu.length ≤ size.dataHeaderSize then none
  else
    some <| match size with
    | .size12bits =>
      ((pdu.getD 0 0).toNat &&& 0x0f) <<< 8 ||| ((pdu.getD 1 0).toNat &&& 0xff)
    | .size18bits =>
      ((pdu.getD 0 0).toNat &&& 0x03) <<< 16 ||| ((pdu.getD 1 0).toNat &&& 0xff) <<< 8 |||
        ((pdu.getD 2 0).toNat &&& 0xff)

lemma and_mask_eq_mod (value width : Nat) {mask : Nat} (hmask : mask = 2 ^ width - 1) :
    value &&& mask = value % 2 ^ width := by
  rw [hmask, and_two_pow_sub_one_eq_mod]

lemma lt_length_of_readDataPduHeader {size : SnSize} {pdu : Bytes}
    (hsn : readDataPduHeader size pdu = some sn) : size.dataHeaderSize < pdu.length := by
  by_contra hle
  have hnone : readDataPduHeader size pdu = none := if_pos (Nat.le_of_not_lt hle)
  rw [hnone] at hsn
  cases hsn

lemma readDataPduHeader_lt {size : SnSize} {pdu : Bytes}
    (hsn : readDataPduHeader size pdu = some sn) : sn < size.cardinality := by
  have hbyte (x : Nat) : x &&& 0xff = x % 256 := and_mask_eq_mod x 8 rfl
  cases size with
  | size12bits =>
    have hmask (x : Nat) : x &&& 0x0f = x % 16 := and_mask_eq_mod x 4 rfl
    rw [readDataPduHeader] at hsn
    split at hsn
    · cases hsn
    cases hsn
    show _ < 4096
    rw [hmask, hbyte, @shiftLeft_or_eq _ _ 8 (by omega)]
    omega
  | size18bits =>
    have hmask (x : Nat) : x &&& 0x03 = x % 4 := and_mask_eq_mod x 2 rfl
    rw [readDataPduHeader] at hsn
    split at hsn
    · cases hsn
    cases hsn
    show _ < 262144
    rw [hmask, hbyte, hbyte, Nat.or_assoc, @shiftLeft_or_eq _ _ 8 (by omega),
      @shiftLeft_or_eq _ _ 16 (by omega)]
    omega

def estimateCount (size : SnSize) (lower sn : Nat) : Nat :=
  let hfn := size.computeHfn lower
  size.computeCount (if sn + size.windowSize < size.computeSn lower then (hfn + 1) % 2 ^ 32
     else if size.computeSn lower + size.windowSize ≤ sn then (hfn + 2 ^ 32 - 1) % 2 ^ 32
     else hfn)
    sn

lemma estimateCount_computeSn (size : SnSize) {lower count : Nat} (hcount : count < 2 ^ 32)
    (hlow : lower ≤ count + size.windowSize) (hhigh : count < lower + size.windowSize) :
    estimateCount size lower (size.computeSn count) = count := by
  rw [estimateCount, size.computeCount_eq _ (size.computeSn_lt count), size.computeSn_eq,
    size.computeSn_eq, size.computeHfn_eq]
  obtain ⟨hwindow, hcard, hbits⟩ | ⟨hwindow, hcard, hbits⟩ := size.sizes
  all_goals
    rw [hcard, hbits]
    split
    · omega
    split <;> omega

variable (size : SnSize) {lower sn : Nat} (hsn : sn < size.cardinality)

include hsn

/-- An SN a window size above the lower edge is that of a COUNT below it, which may wrap. -/
lemma estimateCount_of_wraps (hwraps : lower + size.windowSize ≤ sn) :
    estimateCount size lower sn = 2 ^ 32 - size.cardinality + sn := by
  rw [estimateCount, size.computeCount_eq _ hsn, size.computeSn_eq, size.computeHfn_eq]
  obtain ⟨hwindow, hcard, hbits⟩ | ⟨hwindow, hcard, hbits⟩ := size.sizes
  all_goals
    rw [hcard, hbits, if_neg (by omega), if_pos (by omega)]
    omega

lemma estimateCount_lt (hnear : sn < lower + size.windowSize) :
    estimateCount size lower sn < lower + size.windowSize := by
  rw [estimateCount, size.computeCount_eq _ hsn, size.computeSn_eq, size.computeHfn_eq]
  obtain ⟨hwindow, hcard, hbits⟩ | ⟨hwindow, hcard, hbits⟩ := size.sizes
  all_goals
    rw [hcard, hbits]
    split
    · omega
    split <;> omega

end ProtoRu.PdcpCounts
