import ProtoRu.IqDecompression

namespace ProtoRu.IqBitPacking

open Option Nat

def bitAt (buffer : Bytes) (position : Nat) : Bool :=
  (byteAt buffer (position / 8)).testBit (7 - position % 8)

def maskMsbZeros (count : Nat) : Nat := maskLsbOnes (8 - count)

def maskMsbOnes (count : Nat) : Nat := 255 ^^^ maskMsbZeros count

def storeWord (buffer : Bytes) (word value : Nat) : Bytes :=
  buffer.set word (UInt8.ofNat value)

/-- Write the given number of bits; the value has to fit in them and they have to lie in the
buffer. -/
def insert (buffer : Bytes) (value startpos count : Nat) : Option Bytes :=
  let startWord := startpos / 8
  let startMod := startpos % 8
  if 8 < count then none
  else if 1 <<< count ≤ value then none
  else if 8 * buffer.length < startpos + count then none
  else if startMod = 0 then
    some (storeWord buffer startWord
      (byteAt buffer startWord &&& maskMsbZeros count ||| value <<< (8 - count)))
  else if startMod + count ≤ 8 then
    some (storeWord buffer startWord
      (byteAt buffer startWord &&& (maskMsbOnes startMod ||| maskLsbOnes (8 - startMod - count)) |||
        value <<< (8 - startMod - count)))
  else
    let buffer := storeWord buffer startWord
      (byteAt buffer startWord &&& maskMsbOnes startMod ||| value >>> (startMod + count - 8))
    some (storeWord buffer (startWord + 1)
      (byteAt buffer (startWord + 1) &&& maskMsbZeros (startMod + count - 8) |||
        value <<< (16 - startMod - count)))

def packSample : Nat → Bytes → BitVec 16 → Nat → Nat → Option Bytes
  | 0, buffer, _, _, _ => some buffer
  | rounds + 1, buffer, sample, startPos, leftToPack =>
    if leftToPack = 0 then some buffer
    else if 8 < leftToPack then do
      let buffer ← insert buffer ((sample.sshiftRight (leftToPack - 8)).toNat % 256) startPos 8
      packSample rounds buffer (sample &&& BitVec.ofNat 16 (maskLsbOnes (leftToPack - 8)))
        (startPos + 8) (leftToPack - 8)
    else insert buffer (sample.toNat &&& 255) startPos leftToPack

def packSamples (iqWidth : Nat) : List (BitVec 16) → Bytes → Nat → Option Bytes
  | [], buffer, _ => some buffer
  | sample :: rest, buffer, startPos => do
      let buffer ← packSample iqWidth buffer sample startPos iqWidth
      packSamples iqWidth rest buffer (startPos + iqWidth)

def packBytes (buffer : Bytes) (compressedIq : List (BitVec 16)) (iqWidth : Nat) :
    Option Bytes := do
  let buffer ← packSamples iqWidth compressedIq buffer 0
  let startPos := iqWidth * compressedIq.length
  if startPos % 8 = 0 then return buffer else insert buffer 0 startPos (8 - startPos % 8)

variable {i : Nat} {after : Bytes}

section

lemma testBit_maskLsbOnes (count i : Nat) :
    (maskLsbOnes count).testBit i = decide (i < count) := by
  rw [maskLsbOnes, one_shiftLeft, testBit_two_pow_sub_one]

lemma testBit_maskMsbZeros (count i : Nat) :
    (maskMsbZeros count).testBit i = decide (i + count < 8) := by
  rw [maskMsbZeros, testBit_maskLsbOnes]
  congr 1
  rw [Nat.lt_sub_iff_add_lt]

variable {count word value position startpos : Nat} {buffer : Bytes}

lemma testBit_maskMsbOnes (hi : i < 8) :
    (maskMsbOnes count).testBit i = decide (8 ≤ i + count) := by
  have hall : (255 : Nat).testBit i = true := by
    rw [show (255 : Nat) = 2 ^ 8 - 1 from rfl, testBit_two_pow_sub_one]
    simpa using hi
  rw [maskMsbOnes, testBit_xor, hall, testBit_maskMsbZeros, Bool.true_xor, ← decide_not,
    decide_eq_decide]
  exact not_lt

@[simp] lemma length_storeWord (buffer : Bytes) (word value : Nat) :
    (storeWord buffer word value).length = buffer.length :=
  List.length_set

lemma byteAt_storeWord_of_ne (h : i ≠ word) :
    byteAt (storeWord buffer word value) i = byteAt buffer i := by
  rw [byteAt, byteAt, storeWord, List.getD_eq_getElem?_getD, List.getElem?_set_ne h.symm,
    List.getD_eq_getElem?_getD]

lemma testBit_byteAt_storeWord (hword : word < buffer.length) (hi : i < 8) :
    (byteAt (storeWord buffer word value) word).testBit i = value.testBit i := by
  have hbyte : byteAt (storeWord buffer word value) word = value % 2 ^ 8 := by
    rw [byteAt, storeWord, List.getD_eq_getElem?_getD, List.getElem?_set_self hword]
    simp
  rw [hbyte, testBit_mod_two_pow]
  simp [hi]

/-- A field of one word. The bits of a value above its first byte are not stored. -/
lemma bitAt_storeField {offset mask : Nat} (hword : word < buffer.length)
    (hinside : offset + count ≤ 8) (hvalue : offset = 0 ∨ value < 2 ^ count)
    (hmask : ∀ i < 8, mask.testBit i = decide (8 ≤ i + offset ∨ i + offset + count < 8)) :
    bitAt (storeWord buffer word (byteAt buffer word &&& mask ||| value <<< (8 - offset - count)))
        position =
      if 8 * word + offset ≤ position ∧ position < 8 * word + offset + count then
        value.testBit (8 * word + offset + count - 1 - position)
      else bitAt buffer position := by
  obtain hsame | hother := eq_or_ne (position / 8) word
  · rw [bitAt, hsame, testBit_byteAt_storeWord hword (by omega), testBit_or, testBit_and,
      testBit_shiftLeft, hmask _ (by omega)]
    split
    · have hunmasked : ¬(8 ≤ 7 - position % 8 + offset ∨
          7 - position % 8 + offset + count < 8) := by
        omega
      have hbit : 7 - position % 8 - (8 - offset - count) =
          8 * word + offset + count - 1 - position := by omega
      have hshift : 8 - offset - count ≤ 7 - position % 8 := by omega
      simp [hunmasked, hshift, hbit]
    · have hmasked : 8 ≤ 7 - position % 8 + offset ∨ 7 - position % 8 + offset + count < 8 := by
        omega
      rw [decide_eq_true hmasked, bitAt, hsame]
      obtain hbelow | habove := lt_or_ge (7 - position % 8) (8 - offset - count)
      · simp [not_le.mpr hbelow]
      have hhigh : value < 2 ^ (7 - position % 8 - (8 - offset - count)) := by
        apply (hvalue.resolve_left (by omega)).trans_le
        apply Nat.pow_le_pow_right (by decide)
        omega
      simp [Nat.testBit_lt_two_pow hhigh]
  · rw [bitAt, bitAt, byteAt_storeWord_of_ne hother, if_neg]
    omega

lemma bitAt_insert (hpos : 0 < count) (hinsert : insert buffer value startpos count = some after)
    (position : Nat) : bitAt after position =
      if startpos ≤ position ∧ position < startpos + count then
        value.testBit (startpos + count - 1 - position)
      else bitAt buffer position := by
  simp only [insert, ite_none_left_eq_some, not_lt, not_le, one_shiftLeft] at hinsert
  obtain ⟨hcount, hvalue, hbits, hinsert⟩ := hinsert
  have hword : startpos / 8 < buffer.length := by omega
  split at hinsert
  case isTrue halign =>
    obtain rfl := some.inj hinsert
    refine (bitAt_storeField hword (show 0 + count ≤ 8 by omega) (.inl rfl) fun i hi => ?_).trans ?_
    · rw [testBit_maskMsbZeros, decide_eq_decide]
      omega
    · rw [show 8 * (startpos / 8) + 0 = startpos by omega]
  case isFalse =>
    split at hinsert
    case isTrue hinside =>
      obtain rfl := some.inj hinsert
      refine (bitAt_storeField hword hinside (.inr hvalue) fun i hi => ?_).trans ?_
      · rw [testBit_or, testBit_maskMsbOnes hi, testBit_maskLsbOnes, ← Bool.decide_or,
          decide_eq_decide]
        omega
      · rw [div_add_mod]
    case isFalse hacross =>
      -- The low bits of the value open the second word, the others close the first one.
      obtain rfl := some.inj hinsert
      have hhigh : value >>> (startpos % 8 + count - 8) < 2 ^ (8 - startpos % 8) := by
        rw [Nat.shiftRight_eq_div_pow, Nat.div_lt_iff_lt_mul (Nat.two_pow_pos _), ← pow_add]
        exact hvalue.trans_le (Nat.pow_le_pow_right Nat.two_pos (by omega))
      have hshift : value >>> (startpos % 8 + count - 8) = value >>> (startpos % 8 + count - 8) <<<
          (8 - startpos % 8 - (8 - startpos % 8)) := by rw [Nat.sub_self, Nat.shiftLeft_zero]
      rw [show 16 - startpos % 8 - count = 8 - 0 - (startpos % 8 + count - 8) by omega,
        bitAt_storeField (by rw [length_storeWord]; omega) (by omega) (.inl rfl), hshift,
        bitAt_storeField hword (by omega) (.inr hhigh), testBit_shiftRight]
      · split
        · rw [if_pos (by omega)]
          congr 1
          omega
        split
        · rw [if_pos (by omega)]
          congr 1
          omega
        · rw [if_neg (by omega)]
      · intro i hi
        rw [testBit_maskMsbOnes hi, decide_eq_decide]
        omega
      · intro i hi
        rw [testBit_maskMsbZeros, decide_eq_decide]
        omega

lemma length_insert (hinsert : insert buffer value startpos count = some after) :
    after.length = buffer.length := by
  simp only [insert, ite_none_left_eq_some] at hinsert
  obtain ⟨-, -, -, hinsert⟩ := hinsert
  split at hinsert
  · rw [← some.inj hinsert, length_storeWord]
  · split at hinsert
    · rw [← some.inj hinsert, length_storeWord]
    · rw [← some.inj hinsert, length_storeWord, length_storeWord]

lemma insert_isSome_iff (buffer : Bytes) (value startpos count : Nat) :
    (insert buffer value startpos count).isSome ↔
      count ≤ 8 ∧ value < 2 ^ count ∧ startpos + count ≤ 8 * buffer.length := by
  rw [insert, one_shiftLeft]
  obtain hcount | hcount := lt_or_ge 8 count
  · simp [hcount]
  obtain hvalue | hvalue := le_or_gt (2 ^ count) value
  · simp [hvalue]
  obtain hbits | hbits := lt_or_ge (8 * buffer.length) (startpos + count)
  · simp [hbits]
  simp only [if_neg (not_lt.mpr hcount), if_neg (not_le.mpr hvalue),
    if_neg (not_lt.mpr hbits), hcount, hvalue, hbits, true_and, iff_true]
  split
  · rfl
  · split <;> rfl

lemma testBit_byteAt (hi : i < 8) :
    (byteAt buffer word).testBit i = bitAt buffer (8 * word + 7 - i) := by
  have hword : (8 * word + 7 - i) / 8 = word := by omega
  have hbit : 7 - (8 * word + 7 - i) % 8 = i := by omega
  rw [bitAt, hword, hbit]

lemma testBit_byteAt_of_ge (hi : 8 ≤ i) : (byteAt buffer word).testBit i = false :=
  Nat.testBit_lt_two_pow ((byteAt_lt _ _).trans_le (Nat.pow_le_pow_right Nat.two_pos hi))

lemma testBit_extract (hextract : extract buffer startpos count = some value) (i : Nat) :
    value.testBit i = (decide (i < count) && bitAt buffer (startpos + count - 1 - i)) := by
  simp only [extract, ite_none_left_eq_some, not_lt] at hextract
  obtain ⟨hcount, hbits, hextract⟩ := hextract
  split at hextract
  case isTrue halign =>
    rw [← some.inj hextract, testBit_shiftRight]
    obtain hlt | hge := lt_or_ge i count
    · rw [decide_eq_true hlt, Bool.true_and, testBit_byteAt (by omega)]
      congr 1
      omega
    · rw [decide_eq_false (not_lt.mpr hge), Bool.false_and, testBit_byteAt_of_ge (by omega)]
  case isFalse =>
    -- The mask clears the bits above the field, so only those below `count` are left.
    obtain hlt | hge := lt_or_ge i count
    · rw [decide_eq_true hlt, Bool.true_and]
      split at hextract
      · rw [← some.inj hextract, testBit_and, testBit_maskLsbOnes, decide_eq_true hlt,
          Bool.and_true, testBit_shiftRight, testBit_byteAt (by omega)]
        congr 1
        omega
      · rw [← some.inj hextract, testBit_and, testBit_maskLsbOnes, decide_eq_true hlt,
          Bool.and_true, testBit_shiftRight, testBit_or, testBit_shiftLeft]
        obtain hlow | hhigh := lt_or_ge (16 - startpos % 8 - count + i) 8
        · rw [decide_eq_false (not_le.mpr hlow), Bool.false_and, Bool.false_or, testBit_byteAt hlow]
          congr 1
          omega
        · rw [decide_eq_true hhigh, Bool.true_and, testBit_byteAt_of_ge hhigh, Bool.or_false,
            testBit_byteAt (by omega)]
          congr 1
          omega
    · split at hextract <;>
        rw [← some.inj hextract, testBit_and, testBit_maskLsbOnes,
          decide_eq_false (not_lt.mpr hge), Bool.and_false, Bool.false_and]

end

section

variable {buffer after : Bytes} {width : Nat}

lemma unpackBits_of_le (hpos : 0 < width) (hle : width ≤ 8) (offset : Nat) :
    unpackBits buffer offset width = (extract buffer offset width).map (0 ||| ·) := by
  obtain ⟨rounds, rfl⟩ := exists_eq_succ_of_ne_zero hpos.ne'
  rw [unpackBits, unpackBitsLoop, if_neg (by omega), if_neg (by omega), map_eq_bind]
  rfl

lemma unpackBits_of_gt (hgt : 8 < width) (hle : width ≤ 16) (offset : Nat) :
    unpackBits buffer offset width = (extract buffer offset 8).bind fun msb =>
      (extract buffer (offset + 8) (width - 8)).map (msb <<< (width - 8) % 2 ^ 16 ||| ·) := by
  obtain ⟨rounds, rfl⟩ := Nat.exists_eq_add_of_le' (show 2 ≤ width by omega)
  rw [unpackBits, unpackBitsLoop, if_neg (by omega), if_pos hgt]
  apply Option.bind_congr
  intro msb _
  rw [unpackBitsLoop, if_neg (by omega), if_neg (by omega), map_eq_bind]
  rfl

lemma testBit_unpackBits {offset value : Nat} (hpos : 0 < width) (hle : width ≤ 16)
    (hunpack : unpackBits buffer offset width = some value) (i : Nat) :
    value.testBit i = (decide (i < width) && bitAt buffer (offset + width - 1 - i)) := by
  obtain hshort | hlong := le_or_gt width 8
  · rw [unpackBits_of_le hpos hshort] at hunpack
    obtain ⟨lsb, hlsb, rfl⟩ := map_eq_some_iff.mp hunpack
    rw [zero_or, testBit_extract hlsb]
  rw [unpackBits_of_gt hlong hle] at hunpack
  obtain ⟨msb, hmsb, hrest⟩ := bind_eq_some_iff.mp hunpack
  obtain ⟨lsb, hlsb, rfl⟩ := map_eq_some_iff.mp hrest
  rw [testBit_or, testBit_mod_two_pow, testBit_shiftLeft, testBit_extract hmsb,
    testBit_extract hlsb]
  obtain hlow | hhigh := lt_or_ge i (width - 8)
  · have hposn : offset + 8 + (width - 8) - 1 - i = offset + width - 1 - i := by omega
    rw [hposn, decide_eq_false (not_le.mpr hlow), Bool.false_and, Bool.and_false,
      Bool.false_or, decide_eq_true hlow, decide_eq_true (by omega)]
  have hposn : offset + 8 - 1 - (i - (width - 8)) = offset + width - 1 - i := by omega
  rw [decide_eq_false (not_lt.mpr hhigh), Bool.false_and, Bool.or_false, decide_eq_true hhigh,
    Bool.true_and, hposn, ← Bool.and_assoc, ← Bool.decide_and]
  congr 2
  apply propext
  omega

lemma packSample_of_le (hpos : 0 < width) (hle : width ≤ 8) (sample : BitVec 16)
    (startPos : Nat) : packSample width buffer sample startPos width =
      insert buffer (sample.toNat &&& 255) startPos width := by
  obtain ⟨rounds, rfl⟩ := exists_eq_succ_of_ne_zero hpos.ne'
  rw [packSample, if_neg (by omega), if_neg (by omega)]

lemma packSample_of_gt (hgt : 8 < width) (hle : width ≤ 16) (sample : BitVec 16)
    (startPos : Nat) : packSample width buffer sample startPos width =
      (insert buffer ((sample.sshiftRight (width - 8)).toNat % 256) startPos 8).bind fun buffer =>
        insert buffer ((sample &&& BitVec.ofNat 16 (maskLsbOnes (width - 8))).toNat &&& 255)
          (startPos + 8) (width - 8) := by
  obtain ⟨rounds, rfl⟩ := Nat.exists_eq_add_of_le' (show 2 ≤ width by omega)
  rw [packSample, if_neg (by omega), if_pos hgt]
  apply Option.bind_congr
  intro buffer _
  rw [packSample, if_neg (by omega), if_neg (by omega)]

lemma testBit_and_255 (value i : Nat) : (value &&& 255).testBit i =
    (value.testBit i && decide (i < 8)) := by
  rw [testBit_and, show (255 : Nat) = 2 ^ 8 - 1 from rfl, testBit_two_pow_sub_one]

variable {sample : BitVec 16}

lemma testBit_high_byte (hle : width ≤ 16) (hi : i < 8) :
    ((sample.sshiftRight (width - 8)).toNat % 256).testBit i =
      sample.toNat.testBit (width - 8 + i) := by
  rw [show (256 : Nat) = 2 ^ 8 from rfl, testBit_mod_two_pow, decide_eq_true hi,
    Bool.true_and, BitVec.testBit_toNat, BitVec.getLsbD_sshiftRight, if_pos (by omega),
    decide_eq_false (by omega), BitVec.testBit_toNat]
  simp

lemma testBit_low_bits (sample : BitVec 16) (hle : width ≤ 16) (i : Nat) :
    ((sample &&& BitVec.ofNat 16 (maskLsbOnes (width - 8))).toNat &&& 255).testBit i =
      (sample.toNat.testBit i && decide (i < width - 8)) := by
  rw [testBit_and_255, BitVec.toNat_and, testBit_and, BitVec.toNat_ofNat,
    testBit_mod_two_pow, testBit_maskLsbOnes, Bool.and_assoc, ← Bool.decide_and,
    ← Bool.decide_and]
  congr 2
  apply propext
  omega

section

variable {startPos : Nat} (hpos : 0 < width) (hle : width ≤ 16)
  (hpack : packSample width buffer sample startPos width = some after)

include hpos hle hpack

lemma bitAt_packSample (position : Nat) : bitAt after position =
      if startPos ≤ position ∧ position < startPos + width then
        sample.toNat.testBit (startPos + width - 1 - position)
      else bitAt buffer position := by
  obtain hshort | hlong := le_or_gt width 8
  · rw [packSample_of_le hpos hshort] at hpack
    rw [bitAt_insert hpos hpack]
    split
    · rw [testBit_and_255, decide_eq_true (by omega), Bool.and_true]
    · rfl
  · rw [packSample_of_gt hlong hle] at hpack
    obtain ⟨middle, hfirst, hsecond⟩ := bind_eq_some_iff.mp hpack
    rw [bitAt_insert (by omega) hsecond, bitAt_insert (by omega) hfirst]
    split
    · rw [if_pos (by omega), testBit_low_bits sample hle, decide_eq_true (by omega), Bool.and_true]
      congr 1
      omega
    split
    · rw [if_pos (by omega), testBit_high_byte hle (by omega)]
      congr 1
      omega
    · rw [if_neg (by omega)]

lemma length_packSample : after.length = buffer.length := by
  obtain hshort | hlong := le_or_gt width 8
  · rw [packSample_of_le hpos hshort] at hpack
    exact length_insert hpack
  · rw [packSample_of_gt hlong hle] at hpack
    obtain ⟨middle, hfirst, hsecond⟩ := bind_eq_some_iff.mp hpack
    rw [length_insert hsecond, length_insert hfirst]

end

/-- The assertion of `insert`: a field of fewer than eight bits takes the low byte as a whole. -/
def PackableIn (width : Nat) (sample : BitVec 16) : Prop :=
  8 ≤ width ∨ sample.toNat % 256 < 2 ^ width

lemma packSample_isSome_iff (buffer : Bytes) (startPos : Nat) (hpos : 0 < width)
    (hle : width ≤ 16) (hbits : startPos + width ≤ 8 * buffer.length) :
    (packSample width buffer sample startPos width).isSome ↔ PackableIn width sample := by
  have hand : sample.toNat &&& 255 = sample.toNat % 256 := and_two_pow_sub_one_eq_mod _ 8
  obtain hshort | hlong := le_or_gt width 8
  · rw [packSample_of_le hpos hshort, insert_isSome_iff, hand, PackableIn]
    constructor
    · rintro ⟨-, hvalue, -⟩
      exact Or.inr hvalue
    · rintro (height | hvalue)
      · obtain rfl : width = 8 := by omega
        exact ⟨hshort, mod_lt _ (by decide), hbits⟩
      · exact ⟨hshort, hvalue, hbits⟩
  · rw [packSample_of_gt hlong hle]
    refine iff_of_true ?_ (Or.inl hlong.le)
    obtain ⟨middle, hmiddle⟩ := isSome_iff_exists.mp ((insert_isSome_iff buffer
      ((sample.sshiftRight (width - 8)).toNat % 256) startPos 8).mpr
        ⟨le_rfl, mod_lt _ (by decide), by omega⟩)
    rw [hmiddle, bind_some, insert_isSome_iff, length_insert hmiddle]
    refine ⟨by omega, ?_, by omega⟩
    apply lt_pow_two_of_testBit
    intro i hi
    rw [testBit_low_bits sample hle, decide_eq_false (not_lt.mpr hi), Bool.and_false]

end

section

variable {buffer after : Bytes} {width startPos : Nat}

variable {samples : List (BitVec 16)}

section

variable (hpos : 0 < width) (hle : width ≤ 16)
  (hpack : packSamples width samples buffer startPos = some after)

include hpos hle hpack

lemma length_packSamples : after.length = buffer.length := by
  induction samples generalizing buffer startPos with
  | nil => rw [← some.inj hpack]
  | cons sample rest ih =>
    obtain ⟨middle, hfirst, hrest⟩ := bind_eq_some_iff.mp hpack
    rw [ih hrest, length_packSample hpos hle hfirst]

lemma bitAt_packSamples_of_lt {position : Nat} (hbefore : position < startPos) :
    bitAt after position = bitAt buffer position := by
  induction samples generalizing buffer startPos with
  | nil => rw [← some.inj hpack]
  | cons sample rest ih =>
    obtain ⟨middle, hfirst, hrest⟩ := bind_eq_some_iff.mp hpack
    rw [ih hrest (by omega), bitAt_packSample hpos hle hfirst, if_neg (by omega)]

end

section

variable (hpos : 0 < width) (hle : width ≤ 16)
  (hbits : startPos + width * samples.length ≤ 8 * buffer.length)

include hpos hle hbits

lemma packSamples_isSome_iff : (packSamples width samples buffer startPos).isSome ↔
      ∀ sample ∈ samples, PackableIn width sample := by
  induction samples generalizing buffer startPos with
  | nil => simp [packSamples]
  | cons sample rest ih =>
    rw [List.length_cons, mul_add, mul_one] at hbits
    rw [List.forall_mem_cons, packSamples,
      ← packSample_isSome_iff buffer startPos hpos hle (by omega)]
    rcases hfirst : packSample width buffer sample startPos width with _ | middle
    · simp
    · have hlen := length_packSample hpos hle hfirst
      simpa using ih (by omega)

lemma unpackBits_packSamples (hpack : packSamples width samples buffer startPos = some after)
    {k : Nat} (hk : k < samples.length) :
    unpackBits after (startPos + width * k) width = some (samples[k].toNat % 2 ^ width) := by
  induction samples generalizing buffer startPos k with
  | nil => exact absurd hk (not_lt_zero k)
  | cons sample rest ih =>
    obtain ⟨middle, hfirst, hrest⟩ := bind_eq_some_iff.mp hpack
    have hlen := length_packSample hpos hle hfirst
    rw [List.length_cons, mul_add] at hbits
    cases k with
    | zero =>
      have hafter := length_packSamples hpos hle hrest
      obtain ⟨value, hvalue⟩ : ∃ value, unpackBits after startPos width = some value :=
        exists_unpackBitsLoop width 0 (by omega)
      rw [mul_zero, add_zero, hvalue]
      congr 1
      apply eq_of_testBit_eq
      intro i
      rw [testBit_unpackBits hpos hle hvalue, testBit_mod_two_pow]
      obtain hi | hi := lt_or_ge i width
      · rw [bitAt_packSamples_of_lt hpos hle hrest (by omega),
          bitAt_packSample hpos hle hfirst, if_pos (by omega)]
        congr 2
        omega
      · rw [decide_eq_false (not_lt.mpr hi), Bool.false_and, Bool.false_and]
    | succ k =>
      have hnext := ih (by omega) hrest (k := k) (by simpa using hk)
      rwa [mul_add, mul_one, add_comm (width * k), ← add_assoc]

end

def toComplex {α : Type} : List α → List (α × α)
  | re :: im :: rest => (re, im) :: toComplex rest
  | _ => []

lemma map_toComplex {α β : Type} (f : α → β) (values : List α) :
    (toComplex values).map (Prod.map f f) = toComplex (values.map f) := by
  fun_induction toComplex values with
  | case1 re im rest ih => simp [toComplex, ih]
  | case2 values hshort =>
    obtain _ | ⟨re, _ | ⟨im, rest⟩⟩ := values
    · rfl
    · rfl
    · exact absurd rfl (hshort re im rest)

lemma unpackSamples_of_unpackBits {values : List Nat} {count readPos : Nat}
    (hlen : values.length = 2 * count) (hvalues : ∀ k (hk : k < values.length),
      unpackBits buffer (readPos + width * k) width = some values[k]) :
    unpackSamples buffer width count readPos =
      some (toComplex (values.map (signExtend width))) := by
  induction count generalizing values readPos with
  | zero =>
    obtain rfl := List.eq_nil_of_length_eq_zero hlen
    rfl
  | succ count ih =>
    obtain _ | ⟨re, _ | ⟨im, rest⟩⟩ := values
    · simp at hlen
    · rw [List.length_singleton] at hlen
      omega
    have hre := hvalues 0 (by simp)
    have him := hvalues 1 (by simp)
    have hrest : unpackSamples buffer width count (readPos + width * 2) =
        some (toComplex (rest.map (signExtend width))) := by
      apply ih
      · simp only [List.length_cons] at hlen
        omega
      intro k hk
      have hnext := hvalues (k + 2) (by simpa using hk)
      rw [mul_add, add_comm (width * k), ← add_assoc] at hnext
      simpa using hnext
    rw [mul_zero, add_zero] at hre
    rw [mul_one] at him
    simp only [unpackSamples, hre, him, hrest]
    rfl

end

section

def FitsIn (width : Nat) (value : Int) : Prop :=
  -2 ^ (width - 1) ≤ value ∧ value < 2 ^ (width - 1)

lemma signExtend_of_fitsIn {width : Nat} {sample : BitVec 16} (hpos : 0 < width)
    (hle : width ≤ 16) (hfits : FitsIn width sample.toInt) :
    signExtend width (sample.toNat % 2 ^ width) = sample.toInt := by
  have hsplit : (2 : Int) ^ width * 2 ^ (16 - width) = 2 ^ 16 := by
    rw [← pow_add, Nat.add_sub_cancel' hle]
  have hhalf : (2 : Int) ^ (width - 1) * 2 ^ (16 - width) = 2 ^ 15 := by
    rw [← pow_add]
    congr 1
    omega
  have hscale : (0 : Int) < 2 ^ (16 - width) := by positivity
  have hlow : (2 : Int) ^ width ∣ sample.toInt - (sample.toNat % 2 ^ width : Nat) := by
    have hword : (2 : Int) ^ width ∣ sample.toInt - sample.toNat := by
      rw [BitVec.toInt_eq_toNat_cond]
      split
      · simp
      · rw [sub_sub_cancel_left, Int.dvd_neg]
        exact_mod_cast pow_dvd_pow 2 hle
    have hmod : (2 : Int) ^ width ∣ sample.toNat - (sample.toNat % 2 ^ width : Nat) := by
      exact Int.dvd_self_sub_emod
    have hsum := Int.dvd_add hword hmod
    rwa [sub_add_sub_cancel] at hsum
  have hshift : (BitVec.ofNat 16 (sample.toNat % 2 ^ width) <<< (16 - width)).toInt =
      sample.toInt * 2 ^ (16 - width) := by
    rw [BitVec.toInt_shiftLeft, BitVec.toNat_ofNat, mod_eq_of_lt, Int.bmod_eq_iff (by decide)]
    · refine ⟨?_, ?_, ?_⟩
      · have hmul := mul_le_mul_of_nonneg_right hfits.1 hscale.le
        norm_num at hmul ⊢
        omega
      · have hmul := mul_lt_mul_of_pos_right hfits.2 hscale
        omega
      have hdvd := mul_dvd_mul_right hlow (2 ^ (16 - width))
      rw [hsplit, sub_mul] at hdvd
      rwa [shiftLeft_eq]
    · exact (mod_le _ _).trans_lt sample.isLt
  rw [signExtend, BitVec.toInt_sshiftRight, hshift, Int.shiftRight_eq_div_pow]
  exact Int.mul_ediv_cancel _ hscale.ne'

end

end ProtoRu.IqBitPacking
