import Mathlib.Algebra.Order.Ring.Nat
import Mathlib.Data.List.Basic

/-!
Sequences cut into pieces. A piece may be one that nothing can follow. A tiling may stop
before the end of the sequence, and then leaves a rest.
-/

namespace ProtoRu.Tilings

open List

variable {α σ : Type}

inductive Tiles (piece : List α → σ → Prop) (last : σ → Prop) : List α → List σ → List α → Prop
  | nil (rest : List α) : Tiles piece last rest [] rest
  | cons {front middle rest : List α} {tile : σ} {tiles : List σ} (hpiece : piece front tile)
      (hlast : last tile → middle = []) (htiles : Tiles piece last middle tiles rest) :
      Tiles piece last (front ++ middle) (tile :: tiles) rest

namespace Tiles

variable {piece : List α → σ → Prop} {last : σ → Prop} {whole middle rest : List α}
  {tiles others : List σ}

lemma split (h : Tiles piece last whole (tiles ++ others) rest) :
    ∃ middle, Tiles piece last whole tiles middle ∧ Tiles piece last middle others rest := by
  induction tiles generalizing whole with
  | nil => exact ⟨whole, .nil whole, h⟩
  | cons tile tiles ih =>
    cases h with
    | cons hpiece hlast htiles =>
      obtain ⟨middle, hfirst, hsecond⟩ := ih htiles
      exact ⟨middle, .cons hpiece hlast hfirst, hsecond⟩

section

variable (size : σ → Nat) (hsize : ∀ front tile, piece front tile → front.length = size tile)
  (h : Tiles piece last whole tiles rest)

include hsize h

lemma length_eq : whole.length = (tiles.map size).sum + rest.length := by
  induction h with
  | nil rest => simp
  | cons hpiece hlast htiles ih =>
    rw [length_append, hsize _ _ hpiece, ih, map_cons, sum_cons, Nat.add_assoc]

lemma length_rest_eq {other : List α} (h' : Tiles piece last whole tiles other) :
    rest.length = other.length := by
  have hlen := h.length_eq size hsize
  rw [h'.length_eq size hsize] at hlen
  omega

end

lemma length_le (hpos : ∀ front tile, piece front tile → 0 < front.length)
    (h : Tiles piece last whole tiles rest) : tiles.length + rest.length ≤ whole.length := by
  induction h with
  | nil rest => simp
  | cons hpiece hlast htiles ih =>
    have := hpos _ _ hpiece
    rw [length_append, length_cons]
    omega

lemma snoc (h : Tiles piece last whole tiles []) (hopen : ∀ tile ∈ tiles, ¬ last tile)
    {front : List α} {tile : σ} (hpiece : piece front tile) :
    Tiles piece last (whole ++ front) (tiles ++ [tile]) [] := by
  generalize hrest : [] = rest at h
  induction h with
  | nil rest =>
    obtain rfl := hrest
    have hcons : Tiles piece last (front ++ []) [tile] [] :=
      .cons hpiece (fun _ => rfl) (.nil [])
    rw [append_nil] at hcons
    exact hcons
  | cons hfirst hlast htiles ih =>
    rw [append_assoc]
    refine .cons hfirst (fun hclosed => ?_) (ih (fun other hother => ?_) hrest)
    · exact absurd hclosed (hopen _ mem_cons_self)
    · exact hopen other (mem_cons_of_mem _ hother)

/-- When a piece and what follows it can be told from the sequence, there is one tiling. -/
lemma unique (hpos : ∀ front tile, piece front tile → 0 < front.length)
    (hpiece : ∀ front front' middle middle' tile tile', piece front tile → piece front' tile' →
      (last tile → middle = []) → (last tile' → middle' = []) →
      front ++ middle = front' ++ middle' → tile = tile' ∧ middle = middle')
    (h : Tiles piece last whole tiles []) (h' : Tiles piece last whole others []) :
    tiles = others := by
  have hnil (tiles : List σ) (h : Tiles piece last [] tiles []) : tiles = [] := by
    have hle := h.length_le hpos
    exact length_eq_zero_iff.mp (by simpa using hle)
  generalize hrest : [] = rest at h
  induction h generalizing others with
  | nil rest =>
    obtain rfl := hrest
    exact (hnil others h').symm
  | cons hfront hlast htiles ih =>
    rename_i front middle rest tile tiles
    obtain rfl := hrest
    generalize hwhole : front ++ middle = whole at h'
    generalize hrest' : [] = rest' at h'
    cases h' with
    | nil =>
      rw [← hrest'] at hwhole
      have := hpos front tile hfront
      rw [(append_eq_nil_iff.mp hwhole).1] at this
      cases this
    | cons hfront' hlast' htiles' =>
      obtain rfl := hrest'
      obtain ⟨rfl, rfl⟩ := hpiece _ _ _ _ _ _ hfront hfront' hlast hlast' hwhole
      rw [ih htiles' rfl]

end Tiles

end ProtoRu.Tilings
