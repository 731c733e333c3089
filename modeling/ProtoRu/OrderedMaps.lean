import Mathlib.Data.List.Nodup
import Mathlib.Tactic.Ring

/-!
Ordered maps with natural numbers as keys, as what they hold at a key after each operation.
-/

namespace ProtoRu.OrderedMaps

open Std (TreeMap)

variable {β : Type} (m : TreeMap Nat β) (key other : Nat) (value : β)

lemma getElem?_emplace : (m.insertIfNew key value)[other]? =
      if other = key ∧ m[key]? = none then some value else m[other]? := by
  rw [TreeMap.getElem?_insertIfNew]
  simp only [Std.compare_eq_iff_eq, TreeMap.mem_iff_isSome_getElem?, Option.not_isSome_iff_eq_none,
    eq_comm (a := other)]

variable {key : Nat}

lemma getElem?_emplace_of_some {other : Nat} {value old : β} (h : m[other]? = some old) :
    (m.insertIfNew key value)[other]? = some old := by
  rw [getElem?_emplace, if_neg]
  · exact h
  · rintro ⟨rfl, hnone⟩
    rw [hnone] at h
    cases h

lemma getElem?_insert :
    (m.insert key value)[other]? = if other = key then some value else m[other]? := by
  rw [TreeMap.getElem?_insert]
  simp [eq_comm (a := other)]

lemma getElem?_erase : (m.erase key)[other]? = if other = key then none else m[other]? := by
  rw [TreeMap.getElem?_erase]
  simp [eq_comm (a := other)]

lemma nodup_keys : m.keys.Nodup := by
  apply List.Pairwise.imp _ m.distinct_keys
  intro key other hne
  simpa using hne

lemma contains_iff : m.contains key ↔ ∃ value, m[key]? = some value := by
  rw [TreeMap.contains_iff_mem, TreeMap.mem_iff_isSome_getElem?, Option.isSome_iff_exists]

lemma getElem?_eq_none_of_contains (h : m.contains key = false) : m[key]? = none := by
  apply Option.eq_none_iff_forall_ne_some.mpr
  intro value heq
  have hcont := (contains_iff m).mpr ⟨value, heq⟩
  rw [h] at hcont
  cases hcont

lemma mem_keys_iff : key ∈ m.keys ↔ ∃ value, m[key]? = some value := by
  rw [TreeMap.mem_keys, TreeMap.mem_iff_isSome_getElem?, Option.isSome_iff_exists]

lemma nodup_toList : m.toList.Nodup := by
  apply List.Pairwise.imp _ m.distinct_keys_toList
  rintro entry other hne rfl
  simp at hne

lemma nodup_map_fst_toList : (m.toList.map Prod.fst).Nodup := by
  rw [TreeMap.map_fst_toList_eq_keys]
  exact nodup_keys m

lemma mem_toList_iff {entry : Nat × β} : entry ∈ m.toList ↔ m[entry.1]? = some entry.2 :=
  TreeMap.mem_toList_iff_getElem?_eq_some

variable (value : β)

lemma toList_emplace_perm (hnew : m[key]? = none) :
    (m.insertIfNew key value).toList.Perm ((key, value) :: m.toList) := by
  have habsent : (key, value) ∉ m.toList := by
    rw [mem_toList_iff, hnew]
    exact nofun
  rw [List.perm_ext_iff_of_nodup (nodup_toList _) (List.nodup_cons.mpr ⟨habsent, nodup_toList m⟩)]
  intro entry
  rw [List.mem_cons, mem_toList_iff, mem_toList_iff, getElem?_emplace]
  simp only [hnew, and_true, Prod.ext_iff]
  split_ifs with heq
  · rw [heq, hnew]
    simp [eq_comm]
  · simp [heq]

lemma toList_emplace_perm_of_some {old : β} (hold : m[key]? = some old) :
    (m.insertIfNew key value).toList.Perm m.toList := by
  rw [List.perm_ext_iff_of_nodup (nodup_toList _) (nodup_toList m)]
  intro entry
  rw [mem_toList_iff, mem_toList_iff, getElem?_emplace, hold]
  simp

lemma flatMap_emplace {α : Type} (f : β → List α) (key : Nat) (value : β) :
    (((m.insertIfNew key value).toList.map Prod.snd).flatMap f).Perm
        (f value ++ (m.toList.map Prod.snd).flatMap f) ∨
      (((m.insertIfNew key value).toList.map Prod.snd).flatMap f).Perm
        ((m.toList.map Prod.snd).flatMap f) := by
  rcases hold : m[key]? with _ | old
  · exact .inl (((toList_emplace_perm m value hold).map Prod.snd).flatMap_right f)
  · exact .inr (((toList_emplace_perm_of_some m value hold).map Prod.snd).flatMap_right f)

lemma keys_emplace_perm (hnew : m[key]? = none) :
    (m.insertIfNew key value).keys.Perm (key :: m.keys) := by
  have hperm := (toList_emplace_perm m value hnew).map Prod.fst
  rwa [List.map_cons, TreeMap.map_fst_toList_eq_keys, TreeMap.map_fst_toList_eq_keys] at hperm

end ProtoRu.OrderedMaps
