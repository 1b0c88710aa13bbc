import Mathlib.Algebra.Order.Floor.Ring
import Mathlib.Data.List.Forall2
import Mathlib.Data.List.GetD
import Mathlib.Data.List.Sort
import Mathlib.Tactic

/-! # Interpolation between the entries of a list

The polygon through the points `(i, l[i])`. On an ordered list it increases, and it increases with the
entries. The intended home is beside the order lemmas of lists.
-/

namespace List

variable {K : Type*} [Field K] [LinearOrder K] [IsStrictOrderedRing K] [FloorRing K]

/-- The polygon through the entries at position `x`. -/
def interpolate (l : List K) (x : K) : K :=
  l.getD ⌊x⌋.toNat 0 * (1 - Int.fract x) + l.getD ⌈x⌉.toNat 0 * Int.fract x

variable {l m : List K} {x y : K}

/-- The corners next to a position of the polygon are entries. -/
theorem interpolate_index (nonneg : 0 ≤ x) (inside : x ≤ l.length - 1) :
    ⌊x⌋.toNat ≤ ⌈x⌉.toNat ∧ ⌈x⌉.toNat < l.length := by
  have ceil : ⌈x⌉ ≤ (l.length : ℤ) - 1 := Int.ceil_le.mpr (by exact_mod_cast inside)
  have floor : 0 ≤ ⌊x⌋ := Int.floor_nonneg.mpr nonneg
  have order : ⌊x⌋ ≤ ⌈x⌉ := Int.floor_le_ceil x
  omega

theorem le_interpolate {a : K} (nonneg : 0 ≤ x) (inside : x ≤ l.length - 1) (all : ∀ v ∈ l, a ≤ v) :
    a ≤ interpolate l x := by
  obtain ⟨order, bound⟩ := interpolate_index nonneg inside
  have low : a ≤ l.getD ⌊x⌋.toNat 0 := by
    rw [getD_eq_getElem l 0 (order.trans_lt bound)]
    exact all _ (getElem_mem _)
  have high : a ≤ l.getD ⌈x⌉.toNat 0 := by
    rw [getD_eq_getElem l 0 bound]
    exact all _ (getElem_mem _)
  have front := mul_le_mul_of_nonneg_right low (sub_nonneg.mpr (Int.fract_lt_one x).le)
  have back := mul_le_mul_of_nonneg_right high (Int.fract_nonneg x)
  unfold interpolate
  linarith

theorem interpolate_le {a : K} (nonneg : 0 ≤ x) (inside : x ≤ l.length - 1) (all : ∀ v ∈ l, v ≤ a) :
    interpolate l x ≤ a := by
  obtain ⟨order, bound⟩ := interpolate_index nonneg inside
  have low : l.getD ⌊x⌋.toNat 0 ≤ a := by
    rw [getD_eq_getElem l 0 (order.trans_lt bound)]
    exact all _ (getElem_mem _)
  have high : l.getD ⌈x⌉.toNat 0 ≤ a := by
    rw [getD_eq_getElem l 0 bound]
    exact all _ (getElem_mem _)
  have front := mul_le_mul_of_nonneg_right low (sub_nonneg.mpr (Int.fract_lt_one x).le)
  have back := mul_le_mul_of_nonneg_right high (Int.fract_nonneg x)
  unfold interpolate
  linarith

omit [IsStrictOrderedRing K] [FloorRing K] in
theorem Pairwise.getD_le (sorted : l.Pairwise (· ≤ ·)) {i j : ℕ} (order : i ≤ j) (bound : j < l.length) :
    l.getD i 0 ≤ l.getD j 0 := by
  rw [getD_eq_getElem l 0 (order.trans_lt bound), getD_eq_getElem l 0 bound]
  exact sorted.sortedLE.getElem_le_getElem_of_le order

private theorem Pairwise.floor_le_interpolate (sorted : l.Pairwise (· ≤ ·)) (nonneg : 0 ≤ x)
    (inside : x ≤ l.length - 1) : l.getD ⌊x⌋.toNat 0 ≤ interpolate l x := by
  obtain ⟨order, bound⟩ := interpolate_index nonneg inside
  have back := mul_le_mul_of_nonneg_right (sorted.getD_le order bound) (Int.fract_nonneg x)
  unfold interpolate
  linarith

private theorem Pairwise.interpolate_le_ceil (sorted : l.Pairwise (· ≤ ·)) (nonneg : 0 ≤ x)
    (inside : x ≤ l.length - 1) : interpolate l x ≤ l.getD ⌈x⌉.toNat 0 := by
  obtain ⟨order, bound⟩ := interpolate_index nonneg inside
  have front := mul_le_mul_of_nonneg_right (sorted.getD_le order bound) (sub_nonneg.mpr (Int.fract_lt_one x).le)
  unfold interpolate
  linarith

private theorem ceil_eq_of_fract_pos (inner : 0 < Int.fract x) : ⌈x⌉ = ⌊x⌋ + 1 := by
  have split := Int.floor_add_fract x
  have small := Int.fract_lt_one x
  rw [Int.ceil_eq_iff]
  push_cast
  exact ⟨by linarith, by linarith⟩

/-- Between two neighbouring corners the polygon of an ordered list is a rising line. -/
private theorem Pairwise.interpolate_mono_cell (sorted : l.Pairwise (· ≤ ·)) (nonneg : 0 ≤ x) (order : x ≤ y)
    (inside : y ≤ l.length - 1) (cell : ⌊x⌋ = ⌊y⌋) : interpolate l x ≤ interpolate l y := by
  have fracs : Int.fract x ≤ Int.fract y := by
    rw [Int.fract, Int.fract, cell]
    linarith
  rcases (Int.fract_nonneg x).eq_or_lt with corner | inner
  · have value : interpolate l x = l.getD ⌊y⌋.toNat 0 := by
      have whole : ⌈x⌉ = ⌊x⌋ := by
        have split := Int.floor_add_fract x
        rw [← corner, add_zero] at split
        rw [← split, Int.ceil_intCast, Int.floor_intCast]
      unfold interpolate
      rw [whole, ← corner, cell]
      ring
    rw [value]
    exact sorted.floor_le_interpolate (nonneg.trans order) inside
  · have ceils : ⌈x⌉ = ⌈y⌉ := by
      rw [ceil_eq_of_fract_pos inner, ceil_eq_of_fract_pos (inner.trans_le fracs), cell]
    obtain ⟨corners, bound⟩ := interpolate_index (nonneg.trans order) inside
    have rise := mul_le_mul_of_nonneg_right fracs (sub_nonneg.mpr (sorted.getD_le corners bound))
    unfold interpolate
    rw [cell, ceils]
    linarith

/-- The polygon through an ordered list increases. -/
theorem Pairwise.interpolate_mono (sorted : l.Pairwise (· ≤ ·)) (nonneg : 0 ≤ x) (order : x ≤ y)
    (inside : y ≤ l.length - 1) : interpolate l x ≤ interpolate l y := by
  rcases (Int.floor_le_floor order).eq_or_lt with cell | before
  · exact sorted.interpolate_mono_cell nonneg order inside cell
  · have corner : ⌈x⌉.toNat ≤ ⌊y⌋.toNat := by
      have next : ⌈x⌉ ≤ ⌊x⌋ + 1 := Int.ceil_le_floor_add_one x
      omega
    obtain ⟨corners, bound⟩ := interpolate_index (nonneg.trans order) inside
    calc interpolate l x
      _ ≤ l.getD ⌈x⌉.toNat 0 := sorted.interpolate_le_ceil nonneg (order.trans inside)
      _ ≤ l.getD ⌊y⌋.toNat 0 := sorted.getD_le corner (corners.trans_lt bound)
      _ ≤ interpolate l y := sorted.floor_le_interpolate (nonneg.trans order) inside

/-- Larger entries make a higher polygon. -/
theorem Forall₂.interpolate_le (related : Forall₂ (· ≤ ·) l m) (nonneg : 0 ≤ x) (inside : x ≤ l.length - 1) :
    interpolate l x ≤ interpolate m x := by
  obtain ⟨order, bound⟩ := interpolate_index nonneg inside
  have entry : ∀ i < l.length, l.getD i 0 ≤ m.getD i 0 := by
    intro i within
    have other : i < m.length := related.length_eq ▸ within
    rw [getD_eq_getElem l 0 within, getD_eq_getElem m 0 other]
    exact related.get within other
  have front := mul_le_mul_of_nonneg_right (entry _ (order.trans_lt bound)) (sub_nonneg.mpr (Int.fract_lt_one x).le)
  have back := mul_le_mul_of_nonneg_right (entry _ bound) (Int.fract_nonneg x)
  unfold interpolate
  linarith

end List
