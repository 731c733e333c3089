import ProtoRu.NetworkOrderBytes

/-!
Writing and reading of bits in a buffer of bytes. The first bit of a field is the highest
free bit of the current byte. The memory of a buffer does not run out here, so packing does
not fail.
-/

namespace ProtoRu.BitEncoding

open Nat List

structure BitEncoder where
  bytes : Bytes := []
  offset : Nat := 0

namespace BitEncoder

def grow (e : BitEncoder) : BitEncoder :=
  if e.offset = 0 then { e with bytes := e.bytes ++ [0] } else e

def addToBack (e : BitEncoder) (val : Nat) : Bytes :=
  e.bytes.dropLast ++ [e.bytes.getLastD 0 + UInt8.ofNat val]

def packRounds : Nat → Nat → Nat → BitEncoder → BitEncoder
  | 0, _, _, e => e
  | rounds + 1, val, nBits, e =>
    if nBits = 0 then e
    else
      let e := e.grow
      let val := if nBits < 64 then val &&& (2 ^ nBits - 1) else val
      if nBits < 8 - e.offset then
        { bytes := e.addToBack (val <<< (8 - e.offset - nBits)), offset := e.offset + nBits }
      else
        packRounds rounds val (nBits - (8 - e.offset))
          { bytes := e.addToBack (val >>> (nBits + e.offset - 8)), offset := 0 }

def pack (e : BitEncoder) (val nBits : Nat) : BitEncoder := packRounds nBits val nBits e

def packBytes (e : BitEncoder) (bytes : Bytes) : BitEncoder :=
  if bytes.isEmpty then e
  else if e.offset = 0 then { e with bytes := e.bytes ++ bytes }
  else bytes.foldl (fun e byte => e.pack byte.toNat 8) e

end BitEncoder

open BitEncoder

structure BitDecoder where
  buffer : Bytes
  it : Nat := 0
  offset : Nat := 0

structure Unpacked where
  val : Nat
  ok : Bool
  decoder : BitDecoder

namespace BitDecoder

def unpackRounds : Nat → Nat → Nat → BitDecoder → Unpacked
  | 0, val, _, d => ⟨val, true, d⟩
  | rounds + 1, val, nBits, d =>
    if nBits = 0 then ⟨val, true, d⟩
    else
      match d.buffer[d.it]? with
      | none => ⟨val, false, d⟩
      | some byte =>
        if nBits < 8 - d.offset then
          let mask := 2 ^ (8 - d.offset) - 2 ^ (8 - d.offset - nBits)
          ⟨val + ((byte.toNat &&& mask) >>> (8 - d.offset - nBits)), true,
            { d with offset := d.offset + nBits }⟩
        else
          let mask := 2 ^ (8 - d.offset) - 1
          unpackRounds rounds (val + ((byte.toNat &&& mask) <<< (nBits + d.offset - 8)))
            (nBits - (8 - d.offset)) { d with it := d.it + 1, offset := 0 }

def unpack (d : BitDecoder) (nBits : Nat) : Unpacked := unpackRounds nBits 0 nBits d

def alignBytes (d : BitDecoder) : BitDecoder :=
  if d.offset = 0 then d else { d with it := d.it + 1, offset := 0 }

/-- Nothing is read if the bytes are not there. -/
def unpackAlignedBytes (d : BitDecoder) (nBytes : Nat) : Bytes × BitDecoder :=
  let d := d.alignBytes
  if nBytes = 0 then ([], d)
  else if d.buffer.length - d.it < nBytes then ([], d)
  else ((d.buffer.drop d.it).take nBytes, { d with it := d.it + nBytes })

def nofBytes (d : BitDecoder) : Nat := d.it + if d.offset = 0 then 0 else 1

end BitDecoder

open BitDecoder

def toBytes : Nat → Nat → Bytes
  | 0, _ => []
  | k + 1, val => UInt8.ofNat (val >>> (8 * k)) :: toBytes k val

def ofBytes : Bytes → Nat
  | [] => 0
  | byte :: rest => byte.toNat <<< (8 * rest.length) + ofBytes rest

variable (k val : Nat)

@[simp]
lemma length_toBytes : (toBytes k val).length = k := by
  induction k with
  | zero => rfl
  | succ k ih => rw [toBytes, length_cons, ih]

lemma ofBytes_toBytes : ofBytes (toBytes k val) = val % 2 ^ (8 * k) := by
  induction k with
  | zero => simp [toBytes, ofBytes, mod_one]
  | succ k ih =>
    have hbyte : (UInt8.ofNat (val >>> (8 * k))).toNat = val / 2 ^ (8 * k) % 2 ^ 8 := by
      rw [UInt8.toNat_ofNat', shiftRight_eq_div_pow]
    rw [toBytes, ofBytes, length_toBytes, ih, hbyte, Nat.shiftLeft_eq, Nat.mul_succ, Nat.pow_add,
      mod_mul, Nat.mul_comm, add_comm]

lemma toBytes_of_testBit_eq {k : Nat} {val other : Nat}
    (h : ∀ i < 8 * k, val.testBit i = other.testBit i) : toBytes k val = toBytes k other := by
  induction k with
  | zero => rfl
  | succ k ih =>
    rw [toBytes, ih fun i _ => h i (by omega)]
    congr 1
    rw [← UInt8.toNat_inj, UInt8.toNat_ofNat', UInt8.toNat_ofNat']
    apply eq_of_testBit_eq
    intro i
    simp only [testBit_mod_two_pow, testBit_shiftRight]
    obtain hlt | hge := lt_or_ge i 8
    · rw [h _ (by omega)]
    · simp [not_lt.mpr hge]

lemma toBytes_and : toBytes k (val &&& (2 ^ (8 * k) - 1)) = toBytes k val := by
  apply toBytes_of_testBit_eq
  intro i hi
  simp [hi]

section

variable {e : BitEncoder}

lemma addToBack_grow (h : e.offset = 0) (val : Nat) :
    e.grow.addToBack val = e.bytes ++ [UInt8.ofNat val] := by
  rw [grow, if_pos h, addToBack]
  simp

lemma packRounds_aligned (k rounds val : Nat) (hrounds : k ≤ rounds) {e : BitEncoder}
    (h : e.offset = 0) : e.packRounds rounds val (8 * k) = ⟨e.bytes ++ toBytes k val, 0⟩ := by
  induction k generalizing rounds val e with
  | zero =>
    obtain ⟨bytes, offset⟩ := e
    obtain rfl : offset = 0 := h
    cases rounds with
    | zero | succ rounds => simp [packRounds, toBytes]
  | succ k ih =>
    cases rounds with
    | zero => exact absurd hrounds (not_succ_le_zero k)
    | succ rounds =>
      have hoff : e.grow.offset = 0 := by
        rw [grow, if_pos h]
        exact h
      rw [packRounds, if_neg (by omega)]
      simp only [hoff, Nat.mul_succ, Nat.add_sub_cancel, Nat.sub_zero, Nat.add_zero,
        if_neg (not_lt.mpr (le_add_left 8 (8 * k)))]
      rw [ih rounds _ (Nat.le_of_succ_le_succ hrounds) rfl, addToBack_grow h,
        append_assoc, singleton_append, ← toBytes]
      congr 2
      split
      · exact toBytes_and (k + 1) val
      · rfl

lemma pack_aligned (h : e.offset = 0) : e.pack val (8 * k) = ⟨e.bytes ++ toBytes k val, 0⟩ :=
  packRounds_aligned k (8 * k) val (Nat.le_mul_of_pos_left k (by decide)) h

lemma packBytes_aligned (bytes : Bytes) (h : e.offset = 0) :
    e.packBytes bytes = ⟨e.bytes ++ bytes, 0⟩ := by
  obtain ⟨written, offset⟩ := e
  obtain rfl : offset = 0 := h
  rw [packBytes]
  cases bytes with
  | nil => simp
  | cons byte rest => rfl

end

section

variable {d : BitDecoder}

lemma and_mask_shiftRight (byte high width : Nat) :
    (byte &&& (2 ^ (high + width) - 2 ^ high)) >>> high = byte >>> high % 2 ^ width := by
  have hmask : 2 ^ (high + width) - 2 ^ high = (2 ^ width - 1) <<< high := by
    rw [Nat.shiftLeft_eq, Nat.sub_one_mul, Nat.pow_add, Nat.mul_comm]
  rw [hmask, shiftRight_and_distrib, shiftLeft_shiftRight, and_two_pow_sub_one_eq_mod]

lemma unpack_within {nBits : Nat} {byte : UInt8} (hpos : 0 < nBits)
    (hbits : d.offset + nBits < 8) (hbyte : d.buffer[d.it]? = some byte) :
    d.unpack nBits = ⟨byte.toNat >>> (8 - d.offset - nBits) % 2 ^ nBits, true,
      { d with offset := d.offset + nBits }⟩ := by
  obtain ⟨rounds, rfl⟩ := Nat.exists_eq_add_of_le' hpos
  have hhigh : 8 - d.offset = 8 - d.offset - (rounds + 1) + (rounds + 1) := by omega
  rw [unpack, unpackRounds, if_neg (succ_ne_zero rounds), hbyte]
  simp only
  rw [if_pos (by omega), zero_add]
  congr 1
  conv_lhs => rw [hhigh, Nat.add_sub_cancel]
  exact and_mask_shiftRight _ _ _

lemma unpack_rest_of_byte {nBits : Nat} {byte : UInt8} (hpos : 0 < nBits)
    (hbits : d.offset + nBits = 8) (hbyte : d.buffer[d.it]? = some byte) :
    d.unpack nBits = ⟨byte.toNat % 2 ^ nBits, true, { d with it := d.it + 1, offset := 0 }⟩ := by
  obtain ⟨rounds, rfl⟩ := Nat.exists_eq_add_of_le' hpos
  have hwidth : 8 - d.offset = rounds + 1 := by omega
  have hshift : rounds + 1 + d.offset - 8 = 0 := by omega
  rw [unpack, unpackRounds, hbyte]
  simp only [hwidth, hshift, if_neg (Nat.lt_irrefl _), Nat.sub_self, Nat.shiftLeft_zero,
    zero_add, and_two_pow_sub_one_eq_mod]
  cases rounds <;> rfl

lemma unpackRounds_aligned (bytes : Bytes) {rest : Bytes} {rounds val : Nat}
    (hrounds : bytes.length ≤ rounds) {d : BitDecoder} (h : d.offset = 0)
    (hbytes : d.buffer.drop d.it = bytes ++ rest) :
    d.unpackRounds rounds val (8 * bytes.length) =
      ⟨val + ofBytes bytes, true, { d with it := d.it + bytes.length }⟩ := by
  induction bytes generalizing rounds val d with
  | nil => cases rounds <;> simp [unpackRounds, ofBytes]
  | cons byte bytes ih =>
    cases rounds with
    | zero => exact absurd hrounds (not_succ_le_zero _)
    | succ rounds =>
      have hbyte : d.buffer[d.it]? = some byte := by
        rw [← head?_drop, hbytes]
        rfl
      have htail : d.buffer.drop (d.it + 1) = bytes ++ rest := by
        rw [← drop_drop, hbytes]
        rfl
      have hmask : byte.toNat % 2 ^ 8 = byte.toNat := mod_eq_of_lt byte.toNat_lt
      rw [length_cons, unpackRounds, if_neg (by omega), hbyte]
      simp only [h, Nat.sub_zero, Nat.mul_succ, Nat.add_sub_cancel, Nat.add_zero,
        if_neg (not_lt.mpr (le_add_left 8 (8 * bytes.length))),
        and_two_pow_sub_one_eq_mod, hmask]
      rw [ih (Nat.le_of_succ_le_succ hrounds) rfl htail, ofBytes, Nat.add_assoc]
      simp [Nat.add_assoc, add_comm 1]

lemma unpack_aligned (bytes : Bytes) {rest : Bytes} (h : d.offset = 0)
    (hbytes : d.buffer.drop d.it = bytes ++ rest) :
    d.unpack (8 * bytes.length) = ⟨ofBytes bytes, true, { d with it := d.it + bytes.length }⟩ := by
  rw [unpack, unpackRounds_aligned bytes (Nat.le_mul_of_pos_left _ (by decide)) h hbytes, zero_add]

lemma unpack_byte (h : d.offset = 0) :
    d.unpack 8 = ⟨(d.buffer.drop d.it).head?.elim 0 UInt8.toNat, (d.buffer.drop d.it).head?.isSome,
      { d with it := if d.it < d.buffer.length then d.it + 1 else d.it }⟩ := by
  cases hbytes : d.buffer.drop d.it with
  | nil =>
    have hend := drop_eq_nil_iff.mp hbytes
    have hnone : d.buffer[d.it]? = none := getElem?_eq_none hend
    rw [if_neg (not_lt.mpr hend), unpack, unpackRounds, hnone]
    rfl
  | cons byte rest =>
    have hlt : d.it < d.buffer.length := by
      by_contra hend
      rw [drop_eq_nil_of_le (Nat.le_of_not_lt hend)] at hbytes
      cases hbytes
    rw [if_pos hlt]
    exact (@unpack_aligned d [byte] rest h hbytes)

end

end ProtoRu.BitEncoding
