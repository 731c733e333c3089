import Mathlib.Data.List.Basic
import Mathlib.Tactic.Ring

namespace ProtoRu.BitsetPacking

open List

def bitAt (msb : Bool) {width : Nat} (integer : BitVec width) (j : Nat) : Bool :=
  if msb then integer.getMsbD j else integer.getLsbD j

/-- A set of `size` bits. The words hold no bits beyond it. -/
structure Bitset where
  lowestInfoBitIsMsb : Bool
  size : Nat
  buffer : Nat → BitVec 64
  sanitized : ∀ pos, size ≤ pos → bitAt lowestInfoBitIsMsb (buffer (pos / 64)) (pos % 64) = false

namespace Bitset

variable (b : Bitset) {width : Nat}

def test (pos : Nat) : Bool := bitAt b.lowestInfoBitIsMsb (b.buffer (pos / 64)) (pos % 64)

def nofWords : Nat := (b.size + 63) / 64

def stepsPerWord (width : Nat) : Nat := 64 / width

def lastWordSteps (width : Nat) : Nat :=
  if b.size % 64 ≠ 0 then (b.size % 64 + (width - 1)) / width else stepsPerWord width

def integerAt (width i j : Nat) : BitVec width :=
  if b.lowestInfoBitIsMsb then (b.buffer i >>> (64 - (j + 1) * width)).setWidth width
  else (b.buffer i >>> (j * stepsPerWord width)).setWidth width

def toPackedBits (width : Nat) : List (BitVec width) :=
  (range b.nofWords).flatMap fun i =>
    (range (if i = b.nofWords - 1 then b.lastWordSteps width else stepsPerWord width)).map
      (b.integerAt width i)

/-- The integers are as many as the bits need, and each bit is at its place in them. -/
def Packs (width : Nat) : Prop :=
  (b.toPackedBits width).length = (b.size + (width - 1)) / width ∧ ∀ pos < b.size,
    (b.toPackedBits width)[pos / width]?.map (bitAt b.lowestInfoBitIsMsb · (pos % width)) =
      some (b.test pos)

section

variable {α : Type} {steps : Nat} (f : Nat → Nat → α)

lemma map_range_eq (n : Nat) {last : Nat} (hlast : last ≤ steps) : (range last).map (f n) =
    (range last).map fun j => f ((n * steps + j) / steps) ((n * steps + j) % steps) := by
  apply map_congr_left
  intro j hj
  have hlt : j < steps := (mem_range.mp hj).trans_le hlast
  rw [Nat.mul_comm, Nat.mul_add_div (by omega), Nat.div_eq_of_lt hlt, Nat.mul_add_mod,
    Nat.mod_eq_of_lt hlt, Nat.add_zero]

lemma flatMap_range_eq (n : Nat) : ((range n).flatMap fun i => (range steps).map (f i)) =
    (range (n * steps)).map fun k => f (k / steps) (k % steps) := by
  induction n with
  | zero => simp
  | succ n ih =>
    rw [range_succ, flatMap_append, flatMap_singleton, ih, Nat.succ_mul, range_add, map_append,
      map_map, map_range_eq f n le_rfl]
    rfl

end

variable (hwidth : width = 8 ∨ width = 16 ∨ width = 32 ∨ width = 64)

include hwidth

lemma toPackedBits_eq : b.toPackedBits width = (range ((b.size + (width - 1)) / width)).map
    fun k => b.integerAt width (k / stepsPerWord width) (k % stepsPerWord width) := by
  rw [toPackedBits]
  cases hn : b.nofWords with
  | zero =>
    have hsize : b.size = 0 := by
      rw [nofWords] at hn
      omega
    obtain rfl | rfl | rfl | rfl := hwidth <;> rw [hsize] <;> rfl
  | succ n =>
    have hlast : b.lastWordSteps width ≤ stepsPerWord width ∧
        (b.size + (width - 1)) / width = n * stepsPerWord width + b.lastWordSteps width := by
      rw [nofWords] at hn
      rw [lastWordSteps, stepsPerWord]
      obtain rfl | rfl | rfl | rfl := hwidth <;> split_ifs <;> omega
    have hfull : (range n).flatMap (fun i => (range (if i = n then b.lastWordSteps width
        else stepsPerWord width)).map (b.integerAt width i)) =
        (range n).flatMap fun i => (range (stepsPerWord width)).map (b.integerAt width i) := by
      apply flatMap_congr
      intro i hi
      rw [if_neg (mem_range.mp hi).ne]
    rw [Nat.add_sub_cancel, range_succ, flatMap_append, flatMap_singleton, hfull, flatMap_range_eq,
      if_pos rfl, map_range_eq _ n hlast.1, hlast.2, range_add, map_append, map_map]
    rfl

lemma packs_iff_forall : b.Packs width ↔ ∀ pos < b.size,
    bitAt b.lowestInfoBitIsMsb (b.integerAt width (pos / 64) (pos % 64 / width)) (pos % width) =
      b.test pos := by
  rw [Packs, toPackedBits_eq b hwidth, length_map, length_range, eq_self, true_and]
  refine forall₂_congr fun pos hpos => ?_
  have hplace : pos / width < (b.size + (width - 1)) / width ∧
      pos / width / stepsPerWord width = pos / 64 ∧
      pos / width % stepsPerWord width = pos % 64 / width := by
    rw [stepsPerWord]
    obtain rfl | rfl | rfl | rfl := hwidth <;> omega
  rw [getElem?_map, getElem?_range hplace.1]
  simp [hplace.2]

omit hwidth in
lemma bitAt_integerAt (i : Nat) {j t : Nat} (ht : t < width) (hj : (j + 1) * width ≤ 64)
    (hshift : b.lowestInfoBitIsMsb ∨ j * stepsPerWord width = j * width) :
    bitAt b.lowestInfoBitIsMsb (b.integerAt width i j) t =
      bitAt b.lowestInfoBitIsMsb (b.buffer i) (j * width + t) := by
  rw [Nat.succ_mul] at hj
  rw [bitAt, bitAt, integerAt, Nat.succ_mul]
  split_ifs with hmsb
  · have hbit : 64 - (j * width + width) + (width - 1 - t) = 64 - 1 - (j * width + t) := by omega
    have hlow : width - 1 - t < width := by omega
    simp [BitVec.getMsbD, ht, hlow, show j * width + t < 64 by omega, hbit]
  · simp [hshift.resolve_left hmsb, ht]

omit hwidth in
lemma one_shiftLeft_sanitized {size place : Nat} (hplace : place < size) (pos : Nat)
    (hpos : size ≤ pos) :
    bitAt false (if pos / 64 = 0 then 1#64 <<< place else 0) (pos % 64) = false := by
  split_ifs with hword
  · have hne : ¬ pos % 64 - place = 0 := by omega
    simp [bitAt, hne]
  · simp [bitAt]

/-- The set of one bit in the first word, in LSB order. -/
def single (size place : Nat) (hplace : place < size) : Bitset where
  lowestInfoBitIsMsb := false
  size := size
  buffer i := if i = 0 then 1 <<< place else 0
  sanitized := one_shiftLeft_sanitized hplace

/-- Every set is packed exactly if the first bit is the highest, a word holds as many integers as
an integer bits, or one integer is enough. -/
theorem packs_iff (msb : Bool) (size : Nat) :
    (∀ b : Bitset, b.lowestInfoBitIsMsb = msb → b.size = size → b.Packs width) ↔
      msb ∨ width = 8 ∨ width = 64 ∨ size ≤ width := by
  simp only [packs_iff_forall _ hwidth, test]
  constructor
  · intro h
    by_contra hnot
    simp only [not_or, Bool.not_eq_true, Nat.not_le] at hnot
    obtain ⟨rfl, hoctet, hword, hlt⟩ := hnot
    have hbit := h (single size width hlt) rfl rfl width hlt
    obtain rfl | rfl : width = 16 ∨ width = 32 := by omega
    · simp [single, bitAt, integerAt, stepsPerWord] at hbit
    · simp [single, bitAt, integerAt, stepsPerWord] at hbit
  · rintro h b rfl rfl pos hpos
    have hplace : pos % width < width ∧ (pos % 64 / width + 1) * width ≤ 64 ∧
        pos % 64 / width * width + pos % width = pos % 64 := by
      obtain rfl | rfl | rfl | rfl := hwidth <;> omega
    have hshift : b.lowestInfoBitIsMsb ∨
        pos % 64 / width * stepsPerWord width = pos % 64 / width * width := by
      refine h.imp_right fun h => ?_
      rw [stepsPerWord]
      obtain rfl | rfl | rfl | rfl := hwidth <;> omega
    rw [bitAt_integerAt _ _ hplace.1 hplace.2.1 hshift, hplace.2.2]

omit hwidth

theorem octets_packed : (single 100 40 (by decide)).Packs 8 :=
  (packs_iff (.inl rfl) false 100).mpr (by decide) _ rfl rfl

theorem secondInteger_misplaced : ¬(single 32 16 (by decide)).Packs 16 := by
  intro h
  exact absurd (h.2 16 (by decide)) (by decide)

end Bitset

end ProtoRu.BitsetPacking
