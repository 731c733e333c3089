import Mathlib.Tactic.Ring
import ProtoRu.CircularArithmetic

namespace ProtoRu

open Int

inductive SubcarrierSpacing where
  | kHz15
  | kHz30
  | kHz60
  | kHz120
  | kHz240
  deriving DecidableEq

def toNumerologyValue : SubcarrierSpacing → Nat
  | .kHz15 => 0
  | .kHz30 => 1
  | .kHz60 => 2
  | .kHz120 => 3
  | .kHz240 => 4

def getNofSlotsPerSubframe (scs : SubcarrierSpacing) : Nat :=
  1 <<< toNumerologyValue scs

inductive CyclicPrefix where
  | normal
  | extended
  deriving DecidableEq

def nofOfdmSymPerSlotNormalCp : Nat := 14

def nofOfdmSymPerSlotExtendedCp : Nat := 12

def maxNsymbPerSlot : Nat := 14

def getNsymbPerSlot : CyclicPrefix → Nat
  | .normal => nofOfdmSymPerSlotNormalCp
  | .extended => nofOfdmSymPerSlotExtendedCp

lemma getNsymbPerSlot_pos (cp : CyclicPrefix) : 0 < getNsymbPerSlot cp := by
  cases cp <;> decide

lemma getNsymbPerSlot_le_max (cp : CyclicPrefix) : getNsymbPerSlot cp ≤ maxNsymbPerSlot := by
  cases cp <;> decide

structure OfdmSymbolRange where
  start : Nat
  stop : Nat
  start_le_stop : start ≤ stop
  deriving DecidableEq

def OfdmSymbolRange.symbols (range : OfdmSymbolRange) : List Nat :=
  List.range' range.start (range.stop - range.start)

def OfdmSymbolRange.ofLength (start nofSymbols : Nat) : OfdmSymbolRange :=
  ⟨start, start + nofSymbols, Nat.le_add_right _ _⟩

@[simp] lemma OfdmSymbolRange.mem_symbols (range : OfdmSymbolRange) (symbol : Nat) :
    symbol ∈ range.symbols ↔ range.start ≤ symbol ∧ symbol < range.stop := by
  rw [OfdmSymbolRange.symbols, List.mem_range'_1]
  omega

def nofNumerologies : Nat := 5

def nofSubframesPerFrame : Nat := 10

def nofSfns : Nat := 1024

lemma toNumerologyValue_lt (scs : SubcarrierSpacing) :
    toNumerologyValue scs < nofNumerologies := by
  cases scs <;> decide

/-- A slot of the 1024-frame numbering. The constructors' assertions are the `...Asserts` below.
-/
@[ext] structure SlotPoint where
  numerology : Nat
  count : Nat
  deriving DecidableEq

namespace SlotPoint

def invalid : SlotPoint := ⟨nofNumerologies, 0⟩

def nofSlotsPerSubframe (s : SlotPoint) : Nat := 1 <<< s.numerology

def nofSlotsPerFrame (s : SlotPoint) : Nat :=
  s.nofSlotsPerSubframe * nofSubframesPerFrame

def nofSlotsPerHyperSystemFrame (s : SlotPoint) : Nat :=
  s.nofSlotsPerFrame * nofSfns

def slotIndex (s : SlotPoint) : Nat := s.count % s.nofSlotsPerFrame

def sfn (s : SlotPoint) : Nat := s.count / s.nofSlotsPerFrame % nofSfns

def subframeIndex (s : SlotPoint) : Nat := s.slotIndex / s.nofSlotsPerSubframe

def subframeSlotIndex (s : SlotPoint) : Nat := s.count % s.nofSlotsPerSubframe

def ofFrame (numerology sfn slotIndex : Nat) : SlotPoint :=
  ⟨numerology, slotIndex + sfn * (1 <<< numerology * nofSubframesPerFrame)⟩

def ofSubframe (numerology sfn subframe slot : Nat) : SlotPoint :=
  ⟨numerology, slot + subframe * 1 <<< numerology + sfn * (1 <<< numerology * nofSubframesPerFrame)⟩

structure OfSubframeAsserts (numerology sfn subframe slot : Nat) : Prop where
  numerology_lt : numerology < nofNumerologies
  sfn_lt : sfn < nofSfns
  subframe_lt : subframe < nofSubframesPerFrame
  slot_lt : slot < 1 <<< numerology

/-- A slot of a known numerology, within the hyper frame. -/
structure Valid (s : SlotPoint) : Prop where
  numerology_lt : s.numerology < nofNumerologies
  count_lt : s.count < s.nofSlotsPerHyperSystemFrame

instance (s : SlotPoint) : Decidable s.Valid :=
  decidable_of_iff (s.numerology < nofNumerologies ∧ s.count < s.nofSlotsPerHyperSystemFrame)
    ⟨fun h => ⟨h.1, h.2⟩, fun h => ⟨h.1, h.2⟩⟩

def add (s : SlotPoint) (jump : Int) : SlotPoint :=
  ⟨s.numerology, truncWrap s.nofSlotsPerHyperSystemFrame (s.count + jump)⟩

def sub (s : SlotPoint) (jump : Nat) : SlotPoint := s.add (-(jump : Int))

/-- The order of the source, whose ambiguity range is half of the slots of a hyperframe. -/
def lt (s other : SlotPoint) : Bool :=
  let v := (other.count : Int) - s.count
  if v > 0 then v < (s.nofSlotsPerHyperSystemFrame : Int).tdiv 2
  else v < (-(s.nofSlotsPerHyperSystemFrame : Int)).tdiv 2

def ge (s other : SlotPoint) : Bool := !s.lt other

def gt (s other : SlotPoint) : Bool := s ≠ other && s.ge other

def difference (s other : SlotPoint) : Int :=
  let a := (s.count : Int) - other.count
  if a ≥ (s.nofSlotsPerHyperSystemFrame : Int).tdiv 2 then a - s.nofSlotsPerHyperSystemFrame
  else if a < (-(s.nofSlotsPerHyperSystemFrame : Int)).tdiv 2 then
    a + s.nofSlotsPerHyperSystemFrame
  else a

section

variable (s : SlotPoint)

lemma nofSlotsPerSubframe_pos : 0 < s.nofSlotsPerSubframe := by
  simp [nofSlotsPerSubframe]

lemma nofSlotsPerFrame_pos : 0 < s.nofSlotsPerFrame :=
  Nat.mul_pos s.nofSlotsPerSubframe_pos (by decide)

lemma nofSlotsPerHyperSystemFrame_pos : 0 < s.nofSlotsPerHyperSystemFrame :=
  Nat.mul_pos s.nofSlotsPerFrame_pos (by decide)

lemma slotIndex_lt : s.slotIndex < s.nofSlotsPerFrame :=
  Nat.mod_lt _ s.nofSlotsPerFrame_pos

lemma subframeIndex_lt : s.subframeIndex < nofSubframesPerFrame :=
  Nat.div_lt_of_lt_mul s.slotIndex_lt

lemma subframeSlotIndex_lt : s.subframeSlotIndex < s.nofSlotsPerSubframe :=
  Nat.mod_lt _ s.nofSlotsPerSubframe_pos

lemma subframeSlotIndex_add_subframeIndex :
    s.subframeSlotIndex + s.subframeIndex * s.nofSlotsPerSubframe = s.slotIndex := by
  have hdvd : s.nofSlotsPerSubframe ∣ s.nofSlotsPerFrame := Dvd.intro _ rfl
  have hslot : s.subframeSlotIndex = s.slotIndex % s.nofSlotsPerSubframe :=
    (Nat.mod_mod_of_dvd s.count hdvd).symm
  rw [hslot, Nat.mul_comm]
  exact Nat.mod_add_div _ _

end

lemma ofSubframe_valid {numerology sfn subframe slot : Nat}
    (h : OfSubframeAsserts numerology sfn subframe slot) :
    (ofSubframe numerology sfn subframe slot).Valid := by
  obtain ⟨hnum, hsfn, hsubf, hslot⟩ := h
  refine ⟨hnum, ?_⟩
  change slot + subframe * 1 <<< numerology + sfn * (1 <<< numerology * nofSubframesPerFrame) <
    1 <<< numerology * nofSubframesPerFrame * nofSfns
  generalize 1 <<< numerology = perSubframe at *
  have hframe : slot + subframe * perSubframe < perSubframe * nofSubframesPerFrame := by
    calc slot + subframe * perSubframe < perSubframe + subframe * perSubframe := by omega
      _ = (subframe + 1) * perSubframe := by ring
      _ ≤ nofSubframesPerFrame * perSubframe := Nat.mul_le_mul_right _ hsubf
      _ = perSubframe * nofSubframesPerFrame := Nat.mul_comm _ _
  generalize perSubframe * nofSubframesPerFrame = perFrame at *
  calc slot + subframe * perSubframe + sfn * perFrame < perFrame + sfn * perFrame := by omega
    _ = (sfn + 1) * perFrame := by ring
    _ ≤ nofSfns * perFrame := Nat.mul_le_mul_right _ hsfn
    _ = perFrame * nofSfns := Nat.mul_comm _ _

end SlotPoint

/-- A symbol of the 1024-frame numbering, counted in symbols. -/
structure SlotSymbolPoint where
  nofSymbols : Nat
  numerology : Nat
  count : Nat
  deriving DecidableEq

variable (nofSymbols numerology : Nat)

namespace SlotSymbolPoint

/-- The constructor from a slot; the source asserts `symbolIndex < nofSymbols`. -/
def ofSlot (slot : SlotPoint) (symbolIndex nofSymbols : Nat) : SlotSymbolPoint :=
  ⟨nofSymbols, slot.numerology, slot.count * nofSymbols + symbolIndex⟩

def getSlot (p : SlotSymbolPoint) : SlotPoint :=
  if p.numerology < nofNumerologies then ⟨p.numerology, p.count / p.nofSymbols⟩
  else SlotPoint.invalid

def getSymbolIndex (p : SlotSymbolPoint) : Nat := p.count % p.nofSymbols

def nofSymbolsPerSlotWrap (p : SlotSymbolPoint) : Nat :=
  nofSfns * nofSubframesPerFrame * 1 <<< p.numerology * p.nofSymbols

def add (p : SlotSymbolPoint) (jump : Int) : SlotSymbolPoint :=
  { p with count := truncWrap p.nofSymbolsPerSlotWrap (p.count + jump) }

def sub (p : SlotSymbolPoint) (jump : Int) : SlotSymbolPoint := p.add (-jump)

/-- The order of the source, which allows for one wrap between its arguments. -/
def lt (p other : SlotSymbolPoint) : Bool :=
  let v := (other.count : Int) - p.count
  if v > 0 then v < (p.nofSymbolsPerSlotWrap : Int).tdiv 2
  else v < (-(p.nofSymbolsPerSlotWrap : Int)).tdiv 2

def ge (p other : SlotSymbolPoint) : Bool := !p.lt other

def gt (p other : SlotSymbolPoint) : Bool := p ≠ other && p.ge other

def distance (lhs rhs : SlotSymbolPoint) : Int :=
  let tmp := (lhs.count : Int) - rhs.count
  if tmp > (lhs.nofSymbolsPerSlotWrap : Int).tdiv 2 then tmp - lhs.nofSymbolsPerSlotWrap
  else if tmp < -((lhs.nofSymbolsPerSlotWrap : Int).tdiv 2) then
    tmp + lhs.nofSymbolsPerSlotWrap
  else tmp

def wrapLength (nofSymbols numerology : Nat) : Nat :=
  nofSfns * nofSubframesPerFrame * 1 <<< numerology * nofSymbols

def ofAbsolute (nofSymbols numerology : Nat) (symbol : Int) : SlotSymbolPoint :=
  ⟨nofSymbols, numerology, (symbol % wrapLength nofSymbols numerology).toNat⟩

lemma nofSymbolsPerSlotWrap_ofAbsolute (symbol : Int) :
    (ofAbsolute nofSymbols numerology symbol).nofSymbolsPerSlotWrap =
      wrapLength nofSymbols numerology := rfl

lemma wrapLength_eq_two_mul : (wrapLength nofSymbols numerology : Int) =
      2 * (wrapLength nofSymbols numerology : Int).tdiv 2 := by
  have heven : (2 : Int) ∣ wrapLength nofSymbols numerology := by
    apply natCast_dvd_natCast.mpr
    refine ⟨512 * nofSubframesPerFrame * 1 <<< numerology * nofSymbols, ?_⟩
    simp only [wrapLength, nofSfns]
    ring
  exact (mul_tdiv_cancel_of_dvd heven).symm

section

variable {nofSymbols : Nat} (hsymbols : 0 < nofSymbols) (numerology : Nat)

include hsymbols

lemma wrapLength_pos : 0 < wrapLength nofSymbols numerology := by
  simp only [wrapLength, nofSfns, nofSubframesPerFrame]
  rw [Nat.one_shiftLeft]
  positivity

lemma ofAbsolute_count_cast (symbol : Int) :
    ((ofAbsolute nofSymbols numerology symbol).count : Int) =
      symbol % wrapLength nofSymbols numerology := by
  have hpos : (0 : Int) < wrapLength nofSymbols numerology := by
    exact_mod_cast wrapLength_pos hsymbols numerology
  exact toNat_of_nonneg (emod_nonneg _ hpos.ne')

lemma ofAbsolute_add (symbol jump : Int) : (ofAbsolute nofSymbols numerology symbol).add jump =
      ofAbsolute nofSymbols numerology (symbol + jump) := by
  have hpos := wrapLength_pos hsymbols numerology
  have hcount : truncWrap (wrapLength nofSymbols numerology)
      ((ofAbsolute nofSymbols numerology symbol).count + jump) =
        (ofAbsolute nofSymbols numerology (symbol + jump)).count := by
    rw [← natCast_inj, truncWrap_cast hpos, ofAbsolute_count_cast hsymbols,
      ofAbsolute_count_cast hsymbols, emod_add_emod]
  simp only [add]
  rw [nofSymbolsPerSlotWrap_ofAbsolute, hcount]
  rfl

lemma ofAbsolute_sub (symbol jump : Int) : (ofAbsolute nofSymbols numerology symbol).sub jump =
      ofAbsolute nofSymbols numerology (symbol - jump) :=
  ofAbsolute_add hsymbols numerology symbol (-jump)

lemma ofAbsolute_count_sub (symbol other : Int)
    (hlow : -(wrapLength nofSymbols numerology : Int) < other - symbol)
    (hhigh : other - symbol < wrapLength nofSymbols numerology) :
    let v := ((ofAbsolute nofSymbols numerology other).count : Int) -
      (ofAbsolute nofSymbols numerology symbol).count
    v = other - symbol ∨ v = other - symbol + wrapLength nofSymbols numerology ∧ other < symbol ∨
      v = other - symbol - wrapLength nofSymbols numerology ∧ symbol < other := by
  have hpos : (0 : Int) < wrapLength nofSymbols numerology :=
    natCast_pos.mpr (wrapLength_pos hsymbols numerology)
  have hsym := emod_lt_of_pos symbol hpos
  have hother := emod_lt_of_pos other hpos
  have hsym' := emod_nonneg symbol hpos.ne'
  have hother' := emod_nonneg other hpos.ne'
  have hcases := emod_sub_emod_cases hlow hhigh
  rw [ofAbsolute_count_cast hsymbols, ofAbsolute_count_cast hsymbols]
  omega

section

variable {symbol other : Int}
  (hlow : -(wrapLength nofSymbols numerology : Int) < 2 * (other - symbol))
  (hhigh : 2 * (other - symbol) < wrapLength nofSymbols numerology)

include hlow hhigh

lemma ofAbsolute_lt_iff :
    (ofAbsolute nofSymbols numerology symbol).lt (ofAbsolute nofSymbols numerology other) ↔
      symbol < other := by
  have hcases := ofAbsolute_count_sub hsymbols numerology symbol other
  have hhalf := wrapLength_eq_two_mul nofSymbols numerology
  simp only [lt]
  rw [nofSymbolsPerSlotWrap_ofAbsolute, Int.neg_tdiv]
  split <;> rw [decide_eq_true_iff] <;> omega

lemma ofAbsolute_distance : (ofAbsolute nofSymbols numerology other).distance
      (ofAbsolute nofSymbols numerology symbol) = other - symbol := by
  have hcases := ofAbsolute_count_sub hsymbols numerology symbol other
  have hhalf := wrapLength_eq_two_mul nofSymbols numerology
  simp only [distance]
  rw [nofSymbolsPerSlotWrap_ofAbsolute]
  split
  · omega
  · split <;> omega

lemma ofAbsolute_gt_iff :
    (ofAbsolute nofSymbols numerology symbol).gt (ofAbsolute nofSymbols numerology other) ↔
      other < symbol := by
  have hlt := ofAbsolute_lt_iff hsymbols numerology hlow hhigh
  have hcases := ofAbsolute_count_sub hsymbols numerology symbol other
  simp only [gt, ge]
  rw [Bool.and_eq_true, Bool.not_eq_true', decide_eq_true_iff, ← Bool.not_eq_true, hlt]
  constructor
  · rintro ⟨hne, hle⟩
    have : symbol ≠ other := fun h => hne (by rw [h])
    omega
  · intro hgt
    refine ⟨?_, by omega⟩
    intro heq
    rw [heq] at hcases
    omega

end

end

end SlotSymbolPoint

section

/-- Two points are compared over the shorter way. Of antipodal points each is greater than the
other. -/
structure CircularlyOrdered {α : Type} (period : Nat) (count : α → Nat) (add : α → Int → α)
    (sub : α → α → Int) (lt gt : α → α → Bool) (a b : α) : Prop where
  sub_add : ∀ n : Int, 2 * n.natAbs < period → sub (add a n) a = n
  lt_add_iff : ∀ n : Int, 2 * n.natAbs < period → (lt a (add a n) ↔ 0 < n)
  not_lt_and_lt : ¬(lt a b ∧ lt b a)
  gt_iff : gt a b ↔ lt b a ∨ 2 * ((count a : Int) - count b).natAbs = period

/-- Slots and symbols are circularly ordered by the operators of their classes. -/
theorem points_circularlyOrdered :
    (∀ a b : SlotPoint, a.Valid → b.Valid → a.numerology = b.numerology →
      CircularlyOrdered a.nofSlotsPerHyperSystemFrame SlotPoint.count SlotPoint.add
        SlotPoint.difference SlotPoint.lt SlotPoint.gt a b) ∧
    ∀ a b : SlotSymbolPoint, a.count < a.nofSymbolsPerSlotWrap →
      b.count < b.nofSymbolsPerSlotWrap → a.numerology = b.numerology →
      a.nofSymbols = b.nofSymbols →
      CircularlyOrdered a.nofSymbolsPerSlotWrap SlotSymbolPoint.count SlotSymbolPoint.add
        SlotSymbolPoint.distance SlotSymbolPoint.lt SlotSymbolPoint.gt a b := by
  constructor
  · rintro ⟨numerology, x⟩ ⟨_, y⟩ ⟨-, hx⟩ ⟨-, hy⟩ rfl
    -- the slots are the symbols of slots of one symbol
    have hperiod (count : Nat) : SlotPoint.nofSlotsPerHyperSystemFrame ⟨numerology, count⟩ =
        SlotSymbolPoint.wrapLength 1 numerology := by
      simp only [SlotPoint.nofSlotsPerHyperSystemFrame, SlotPoint.nofSlotsPerFrame,
        SlotPoint.nofSlotsPerSubframe, SlotSymbolPoint.wrapLength]
      ring
    have hhalf := SlotSymbolPoint.wrapLength_eq_two_mul 1 numerology
    refine ⟨fun n hn => ?_, fun n hn => ?_, ?_, ?_⟩
    all_goals
      simp only [SlotPoint.lt, SlotPoint.gt, SlotPoint.ge, SlotPoint.difference, SlotPoint.add,
        hperiod, Int.neg_tdiv] at *
      generalize (SlotSymbolPoint.wrapLength 1 numerology : Int).tdiv 2 = half at *
      generalize SlotSymbolPoint.wrapLength 1 numerology = period at *
    · obtain ⟨z, hz, hlt, hcases⟩ := truncWrap_cases hx hn
      grind
    · obtain ⟨z, hz, hlt, hcases⟩ := truncWrap_cases hx hn
      grind
    all_goals grind
  · rintro ⟨nofSymbols, numerology, x⟩ ⟨_, _, y⟩ hx hy rfl rfl
    have hperiod (count : Nat) : SlotSymbolPoint.nofSymbolsPerSlotWrap
        ⟨nofSymbols, numerology, count⟩ = SlotSymbolPoint.wrapLength nofSymbols numerology := rfl
    have hhalf := SlotSymbolPoint.wrapLength_eq_two_mul nofSymbols numerology
    refine ⟨fun n hn => ?_, fun n hn => ?_, ?_, ?_⟩
    all_goals
      simp only [SlotSymbolPoint.lt, SlotSymbolPoint.gt, SlotSymbolPoint.ge,
        SlotSymbolPoint.distance, SlotSymbolPoint.add, hperiod, Int.neg_tdiv] at *
      generalize (SlotSymbolPoint.wrapLength nofSymbols numerology : Int).tdiv 2 = half at *
      generalize SlotSymbolPoint.wrapLength nofSymbols numerology = period at *
    · obtain ⟨z, hz, hlt, hcases⟩ := truncWrap_cases hx hn
      grind
    · obtain ⟨z, hz, hlt, hcases⟩ := truncWrap_cases hx hn
      grind
    all_goals grind

theorem antipodalSlots_gt_not_lt : ¬∀ a b : SlotPoint, a.Valid → b.Valid →
    a.numerology = b.numerology → (a.gt b ↔ b.lt a) := by
  intro h
  exact absurd (h ⟨0, 0⟩ ⟨0, 5120⟩ (by decide) (by decide) rfl) (by decide)

end

end ProtoRu
