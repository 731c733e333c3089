import Mathlib.Data.List.Basic
import Mathlib.Tactic.Ring

namespace ProtoRu.RbgConversion

/-- The CRBs of a bandwidth part, as many as a bitmap of PRBs holds. -/
structure BwpRbs where
  start : Nat
  length : Nat
  length_le : length ≤ 275

inductive NominalRbgSize where
  | p2
  | p4
  | p8
  | p16

def toNominalRbgSizeValue : NominalRbgSize → Nat
  | .p2 => 2
  | .p4 => 4
  | .p8 => 8
  | .p16 => 16

def fill (size startpos endpos : Nat) (bits : Nat → Bool) : Option (Nat → Bool) :=
  if startpos ≤ endpos ∧ endpos ≤ size then
    some fun pos => bits pos || (startpos ≤ pos && pos < endpos)
  else none

section

variable (bwpRbs : BwpRbs) (P : NominalRbgSize)

def getNofRbgs : Nat :=
  (bwpRbs.length + bwpRbs.start % toNominalRbgSizeValue P + (toNominalRbgSizeValue P - 1)) /
    toNominalRbgSizeValue P

def getRbgSize (rbgIdx : Nat) : Nat :=
  let ret := (bwpRbs.start + bwpRbs.length) % toNominalRbgSizeValue P
  if rbgIdx = 0 then toNominalRbgSizeValue P - bwpRbs.start % toNominalRbgSizeValue P
  else if rbgIdx = getNofRbgs bwpRbs P - 1 ∧ 0 < ret then ret
  else toNominalRbgSizeValue P

def prbIdx (idx : Nat) : Nat :=
  ((((idx : Int) - 1) * toNominalRbgSizeValue P + getRbgSize bwpRbs P 0) % 2 ^ 32).toNat

def prbEnd (idx : Nat) : Nat :=
  min ((prbIdx bwpRbs P idx +
    if idx = 0 then getRbgSize bwpRbs P 0 else toNominalRbgSizeValue P) % 2 ^ 32) bwpRbs.length

/-- The loop over the groups from an index on, which passes over those that are not set. -/
def fillRbgs : Nat → List Bool → (Nat → Bool) → Option (Nat → Bool)
  | _, [], prbs => some prbs
  | idx, false :: rest, prbs => fillRbgs (idx + 1) rest prbs
  | idx, true :: rest, prbs =>
    (fill bwpRbs.length (prbIdx bwpRbs P idx) (prbEnd bwpRbs P idx) prbs).bind fun prbs =>
      if idx + 1 = bwpRbs.length then some prbs else fillRbgs (idx + 1) rest prbs

def convertRbgsToPrbs (rbgs : List Bool) : Option (Nat → Bool) :=
  fillRbgs bwpRbs P 0 rbgs fun _ => false

/-- The group that a PRB is in: the borders of groups are multiples of P in CRBs. -/
def rbgOf (prb : Nat) : Nat :=
  (bwpRbs.start + prb) / toNominalRbgSizeValue P - bwpRbs.start / toNominalRbgSizeValue P

/-- Each PRB of the part has the bit of its group. -/
def Converts (rbgs : List Bool) : Prop :=
  ∃ prbs, convertRbgsToPrbs bwpRbs P rbgs = some prbs ∧
    ∀ prb < bwpRbs.length, prbs prb = rbgs.getD (rbgOf bwpRbs P prb) false

variable {bwpRbs P} {idx : Nat} {rbgs : List Bool}

lemma fill_rbg (hidx : idx < getNofRbgs bwpRbs P)
    (hfirst : bwpRbs.start % toNominalRbgSizeValue P = 0 ∨ idx ≠ 0) (prbs : Nat → Bool) :
    ∃ after, fill bwpRbs.length (prbIdx bwpRbs P idx) (prbEnd bwpRbs P idx) prbs = some after ∧
      ∀ prb < bwpRbs.length, after prb = (prbs prb || rbgOf bwpRbs P prb == idx) := by
  have hle := bwpRbs.length_le
  rw [getNofRbgs] at hidx
  have hrange : prbIdx bwpRbs P idx ≤ prbEnd bwpRbs P idx ∧ prbEnd bwpRbs P idx ≤ bwpRbs.length ∧
      ∀ prb < bwpRbs.length, prbIdx bwpRbs P idx ≤ prb ∧ prb < prbEnd bwpRbs P idx ↔
        rbgOf bwpRbs P prb = idx := by
    rw [prbEnd, prbIdx, getRbgSize, if_pos rfl]
    simp only [rbgOf]
    cases P <;> simp only [toNominalRbgSizeValue] at * <;> refine ⟨?_, by omega, ?_⟩ <;> split_ifs
    all_goals omega
  refine ⟨_, if_pos ⟨hrange.1, hrange.2.1⟩, fun prb hprb => ?_⟩
  rw [Bool.eq_iff_iff]
  simp [hrange.2.2 prb hprb]

lemma fillRbgs_spec (hsize : idx + rbgs.length = getNofRbgs bwpRbs P)
    (hfirst : bwpRbs.start % toNominalRbgSizeValue P = 0 ∨ idx ≠ 0 ∨ rbgs.headD false = false)
    (prbs : Nat → Bool) :
    ∃ after, fillRbgs bwpRbs P idx rbgs prbs = some after ∧ ∀ prb < bwpRbs.length, after prb =
      (prbs prb || (rbgs.zipIdx idx).any fun rbg => rbg.1 && rbgOf bwpRbs P prb == rbg.2) := by
  induction rbgs generalizing idx prbs with
  | nil => exact ⟨prbs, rfl, by simp⟩
  | cons rbg rest ih =>
    rw [List.length_cons] at hsize
    have hrest := @ih (idx + 1) (by omega) (.inr (.inl idx.succ_ne_zero))
    cases rbg with
    | false =>
      obtain ⟨after, hafter, hbits⟩ := hrest prbs
      exact ⟨after, hafter, by simpa using hbits⟩
    | true =>
      obtain ⟨filled, hfill, hset⟩ :=
        @fill_rbg bwpRbs P idx (by omega) (by simpa using hfirst) prbs
      obtain ⟨after, hafter, hbits⟩ := hrest filled
      refine ⟨after, ?_, fun prb hprb => ?_⟩
      · rw [fillRbgs, hfill, Option.bind_some]
        split_ifs with hlast
        -- There are not more groups than PRBs.
        · have hnone : rest.length = 0 := by
            rw [getNofRbgs] at hsize
            cases P <;> simp only [toNominalRbgSizeValue] at hsize <;> omega
          rwa [List.length_eq_zero_iff.mp hnone] at hafter
        · exact hafter
      · rw [hbits prb hprb, hset prb hprb, List.zipIdx_cons, List.any_cons, Bool.or_assoc]
        rfl

/-- The PRBs are those of their groups exactly if the first group is not a shortened one that is
set. -/
theorem convertRbgsToPrbs_iff (hsize : rbgs.length = getNofRbgs bwpRbs P) :
    Converts bwpRbs P rbgs ↔
      bwpRbs.start % toNominalRbgSizeValue P = 0 ∨ rbgs.headD false = false := by
  constructor
  · rintro ⟨prbs, hconv, -⟩
    rcases rbgs with _ | ⟨_ | _, rest⟩
    · exact .inr rfl
    · exact .inr rfl
    left
    by_contra hshort
    have hbelow : ¬(prbIdx bwpRbs P 0 ≤ prbEnd bwpRbs P 0 ∧
        prbEnd bwpRbs P 0 ≤ bwpRbs.length) := by
      have hle := bwpRbs.length_le
      rw [prbEnd, prbIdx, getRbgSize, if_pos rfl]
      cases P <;> simp only [toNominalRbgSizeValue] at * <;> omega
    rw [convertRbgsToPrbs, fillRbgs, fill, if_neg hbelow] at hconv
    cases hconv
  · intro hfirst
    obtain ⟨after, hafter, hbits⟩ := @fillRbgs_spec bwpRbs P 0 rbgs (by simpa using hsize)
      (hfirst.imp_right .inr) fun _ => false
    refine ⟨after, hafter, fun prb hprb => ?_⟩
    rw [hbits prb hprb, Bool.eq_iff_iff]
    cases hbit : rbgs[rbgOf bwpRbs P prb]? <;> simp [List.mem_zipIdx_iff_getElem?, hbit]

def fromCrb6 : BwpRbs := ⟨6, 12, by decide⟩

theorem lastGroup_converted : Converts fromCrb6 .p4 [false, false, false, true] :=
  (convertRbgsToPrbs_iff rfl).mpr (by decide)

theorem shortGroup_not_converted : ¬Converts fromCrb6 .p4 [true, false, false, false] := by
  rintro ⟨prbs, hnone, -⟩
  cases hnone

end

end ProtoRu.RbgConversion
