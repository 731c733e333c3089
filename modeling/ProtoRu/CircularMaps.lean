import Mathlib.Algebra.Order.Ring.Nat
import Mathlib.Data.Finset.Card
import Mathlib.Order.Interval.Finset.Nat

/-!
Maps from sequence numbers into a ring of slots. A key lives in the slot given by
its residue, together with the key itself, and displaces whatever the slot held.
The number of occupied slots is kept next to the slots.
-/

namespace ProtoRu

open Finset Option

/-- Slots, each holding a key of its own residue or nothing. -/
structure CircularMap (capacity : Nat) (α : Type) where
  slots : Nat → Option (Nat × α)
  count : Nat
  keyed : ∀ i key value, slots i = some (key, value) → key % capacity = i
  counted : count = ((range capacity).filter fun i => (slots i).isSome).card

variable (key : Nat)

namespace CircularMap

variable {capacity : Nat} {α : Type} (m : CircularMap capacity α)

def empty (capacity : Nat) (α : Type) : CircularMap capacity α where
  slots := fun _ => none
  count := 0
  keyed := by simp
  counted := by simp

def get? (key : Nat) : Option α :=
  (m.slots (key % capacity)).bind fun entry => if entry.1 = key then some entry.2 else none

def contains (key : Nat) : Bool := (m.get? key).isSome

def size : Nat := m.count

def isEmpty : Bool := m.count == 0

def full : Bool := m.count == capacity

lemma keyed_update {slot : Nat} {entry : Option (Nat × α)}
    (hentry : ∀ stored ∈ entry, stored.1 % capacity = slot) (i key : Nat) (value : α)
    (h : (if i = slot then entry else m.slots i) = some (key, value)) : key % capacity = i := by
  split_ifs at h with hslot
  · rw [hslot]
    exact hentry (key, value) h
  · exact m.keyed i key value h

lemma occupied_update (slot : Nat) (entry : Option (Nat × α)) (hslot : slot < capacity) :
    ((range capacity).filter fun i => (if i = slot then entry else m.slots i).isSome) =
      if entry.isSome then insert slot ((range capacity).filter fun i => (m.slots i).isSome)
      else ((range capacity).filter fun i => (m.slots i).isSome).erase slot := by
  ext i
  obtain rfl | hne := eq_or_ne i slot
  · rcases entry with _ | entry <;> simp [hslot]
  · rcases entry with _ | entry <;> simp [hne]

def replaceSlot (slot : Nat) (entry : Option (Nat × α)) (hslot : slot < capacity)
    (hentry : ∀ stored ∈ entry, stored.1 % capacity = slot) : CircularMap capacity α where
  slots := fun i => if i = slot then entry else m.slots i
  count := m.count - (if (m.slots slot).isSome then 1 else 0) + (if entry.isSome then 1 else 0)
  keyed := m.keyed_update hentry
  counted := by
    rw [m.occupied_update slot entry hslot, m.counted]
    generalize hset : ((range capacity).filter fun i => (m.slots i).isSome) = occupied
    have hmem : slot ∈ occupied ↔ (m.slots slot).isSome := by
      rw [← hset]
      simp [hslot]
    rcases hold : m.slots slot with _ | old
    · have hnot : slot ∉ occupied := by simp [hmem, hold]
      rcases entry with _ | entry
      · simp [erase_eq_of_notMem hnot]
      · simp [card_insert_of_notMem hnot]
    · have hin : slot ∈ occupied := by simp [hmem, hold]
      have hpos : 0 < occupied.card := card_pos.mpr ⟨slot, hin⟩
      rcases entry with _ | entry
      · simp [card_erase_of_mem hin]
      · simp only [isSome_some, if_true, insert_eq_of_mem hin]
        omega

@[simp]
lemma get?_empty : (empty capacity α).get? key = none := rfl

lemma get?_eq_some_iff {key : Nat} {value : α} :
    m.get? key = some value ↔ m.slots (key % capacity) = some (key, value) := by
  rw [get?]
  rcases m.slots (key % capacity) with _ | ⟨stored, other⟩ <;> simp

lemma contains_iff {key : Nat} : m.contains key ↔ ∃ value, m.get? key = some value := by
  rw [contains, isSome_iff_exists]

lemma size_le : m.size ≤ capacity := by
  rw [size, m.counted]
  exact (card_filter_le _ _).trans_eq (card_range capacity)

lemma eq_of_contains {key other : Nat} (hkey : m.contains key) (hother : m.contains other)
    (hslot : key % capacity = other % capacity) : key = other := by
  obtain ⟨value, hvalue⟩ := m.contains_iff.mp hkey
  obtain ⟨value', hvalue'⟩ := m.contains_iff.mp hother
  rw [get?_eq_some_iff] at hvalue hvalue'
  rw [hslot, hvalue'] at hvalue
  simpa using (congrArg (Option.map Prod.fst) hvalue).symm

lemma full_of_contains (hall : ∀ i < capacity, ∃ key, m.contains key ∧ key % capacity = i) :
    m.full := by
  have hoccupied : ((range capacity).filter fun i => (m.slots i).isSome) = range capacity := by
    apply filter_true_of_mem
    intro i hi
    obtain ⟨key, hkey, rfl⟩ := hall i (mem_range.mp hi)
    obtain ⟨value, hvalue⟩ := m.contains_iff.mp hkey
    rw [get?_eq_some_iff] at hvalue
    rw [hvalue]
    rfl
  rw [full, m.counted, hoccupied, card_range]
  exact beq_self_eq_true capacity

variable [NeZero capacity]

lemma slot_lt : key % capacity < capacity :=
  Nat.mod_lt _ (Nat.pos_of_ne_zero (NeZero.ne capacity))

def overwrite (key : Nat) (value : α) : CircularMap capacity α :=
  m.replaceSlot (key % capacity) (some (key, value)) (slot_lt key) (by simp)

def erase (key : Nat) : CircularMap capacity α :=
  if m.contains key then m.replaceSlot (key % capacity) none (slot_lt key) (by simp) else m

def modify (key : Nat) (f : α → α) : CircularMap capacity α :=
  (m.get? key).elim m fun value => m.overwrite key (f value)

section

variable (key other : Nat)

lemma get?_overwrite (value : α) : (m.overwrite key value).get? other =
      if other = key then some value
      else if other % capacity = key % capacity then none else m.get? other := by
  obtain rfl | hne := eq_or_ne other key
  · simp [get?, overwrite, replaceSlot]
  rw [if_neg hne]
  split_ifs with hslot
  · simp [get?, overwrite, replaceSlot, hslot, hne.symm]
  · simp [get?, overwrite, replaceSlot, hslot]

lemma get?_erase : (m.erase key).get? other = if other = key then none else m.get? other := by
  rw [erase]
  split
  · rename_i hkey
    split
    · rename_i heq
      simp [get?, replaceSlot, heq]
    rename_i hne
    rcases eq_or_ne (other % capacity) (key % capacity) with hslot | hslot
    · have habsent : m.get? other = none := by
        rw [← not_isSome_iff_eq_none]
        intro hother
        exact hne (m.eq_of_contains hother hkey hslot)
      rw [habsent]
      simp [get?, replaceSlot, hslot]
    · simp [get?, replaceSlot, hslot]
  · rename_i hkey
    split_ifs with heq
    · rw [heq]
      simpa [contains] using hkey
    · rfl

lemma get?_modify (f : α → α) : (m.modify key f).get? other =
      if other = key then (m.get? key).map f else m.get? other := by
  rw [modify]
  rcases hvalue : m.get? key with _ | value
  · simp only [elim_none, map_none]
    split_ifs with heq
    · rw [heq, hvalue]
    · rfl
  · rw [elim_some, get?_overwrite]
    split
    · rfl
    rename_i hne
    split_ifs with hslot
    · symm
      rw [← not_isSome_iff_eq_none]
      intro hother
      have hkey : m.contains key := m.contains_iff.mpr ⟨value, hvalue⟩
      exact hne (m.eq_of_contains hother hkey hslot)
    · rfl

@[simp]
lemma contains_modify (f : α → α) : (m.modify key f).contains other = m.contains other := by
  rw [contains, contains, get?_modify]
  split_ifs with heq
  · rw [heq, isSome_map]
  · rfl

end

lemma size_modify (f : α → α) : (m.modify key f).size = m.size := by
  rw [modify]
  rcases hvalue : m.get? key with _ | value
  · rfl
  rw [elim_some]
  have hslot := m.get?_eq_some_iff.mp hvalue
  have hpos : 0 < m.count := by
    rw [m.counted, card_pos]
    exact ⟨key % capacity, by simp [slot_lt, hslot]⟩
  simp only [size, overwrite, replaceSlot, hslot, isSome_some, if_true]
  omega

@[simp]
lemma full_modify (f : α → α) : (m.modify key f).full = m.full := by
  have hsize := m.size_modify key f
  rw [size, size] at hsize
  rw [full, full, hsize]

lemma contains_overwrite (key other : Nat) (value : α) : (m.overwrite key value).contains other =
      (decide (other = key) ||
        (!decide (other % capacity = key % capacity) && m.contains other)) := by
  rw [contains, contains, get?_overwrite]
  split
  · rename_i heq
    simp [heq]
  rename_i hne
  split_ifs with hslot <;> simp [hne, hslot]

lemma contains_erase (key other : Nat) :
    (m.erase key).contains other = (!decide (other = key) && m.contains other) := by
  rw [contains, contains, get?_erase]
  split_ifs with heq <;> simp [heq]

lemma size_eq_card {keys : Finset Nat} (hkeys : ∀ key, m.contains key ↔ key ∈ keys) :
    m.size = keys.card := by
  rw [size, m.counted]
  symm
  apply card_bij (fun key _ => key % capacity)
  · intro key hkey
    obtain ⟨value, hvalue⟩ := m.contains_iff.mp ((hkeys key).mpr hkey)
    rw [get?_eq_some_iff] at hvalue
    simp [slot_lt, hvalue]
  · intro key hkey other hother hslot
    exact m.eq_of_contains ((hkeys key).mpr hkey) ((hkeys other).mpr hother) hslot
  · intro i hi
    obtain ⟨-, hsome⟩ := mem_filter.mp hi
    obtain ⟨⟨key, value⟩, hentry⟩ := isSome_iff_exists.mp hsome
    have hslot := m.keyed i key value hentry
    refine ⟨key, (hkeys key).mp (m.contains_iff.mpr ⟨value, ?_⟩), hslot⟩
    rw [get?_eq_some_iff, hslot, hentry]

end CircularMap

end ProtoRu
