import Mathlib.Analysis.SpecialFunctions.Complex.Arg
import Mathlib.Analysis.SpecialFunctions.Trigonometric.Bounds
import Mathlib.Tactic

/-! # The argument of a number near a given direction

A number that differs from one of known direction by a part of its size has an argument that differs from that
direction by at most half a turn times that part, up to full turns. Half a turn is the best constant: a number
just past the origin already points the other way. The intended home is beside the arguments of products.
-/

namespace PlaneAngle

open Complex Real

/-- Near one the sine of the argument is at most the distance. -/
private theorem abs_sin_arg_le {w : ℂ} {r : ℝ} (near : ‖w - 1‖ ≤ r) (small : r < 1) : |Real.sin w.arg| ≤ r := by
  have nonneg : 0 ≤ r := (norm_nonneg _).trans near
  have square : (w.re - 1) * (w.re - 1) + w.im * w.im ≤ r ^ 2 := by
    have parts : ‖w - 1‖ ^ 2 = (w.re - 1) * (w.re - 1) + w.im * w.im := by
      rw [Complex.sq_norm, normSq_apply, sub_re, sub_im, one_re, one_im, sub_zero]
    rw [← parts]
    exact pow_le_pow_left₀ (norm_nonneg _) near 2
  have size : ‖w‖ ^ 2 = w.re * w.re + w.im * w.im := by rw [Complex.sq_norm, normSq_apply]
  -- The tangent from the origin to the circle of radius `r` about one touches it where the real part is `1 - r ^ 2`.
  have tangent : w.im ^ 2 ≤ (r * ‖w‖) ^ 2 := by
    have touch := sq_nonneg (w.re - (1 - r ^ 2))
    have shrink : 0 ≤ (1 - r ^ 2) * (r ^ 2 - ((w.re - 1) * (w.re - 1) + w.im * w.im)) :=
      mul_nonneg (by nlinarith) (sub_nonneg.mpr square)
    rw [mul_pow, size]
    nlinarith
  rw [sin_arg, abs_div, abs_norm]
  refine div_le_of_le_mul₀ (norm_nonneg _) nonneg ?_
  exact abs_le_of_sq_le_sq tangent (mul_nonneg nonneg (norm_nonneg _))

/-- Near one the argument is at most a quarter turn times the distance. -/
private theorem abs_arg_le {w : ℂ} {r : ℝ} (near : ‖w - 1‖ ≤ r) (small : r < 1) : |w.arg| ≤ π / 2 * r := by
  have right : 0 ≤ w.re := by
    have gap := (abs_re_le_norm (w - 1)).trans near
    rw [sub_re, one_re] at gap
    linarith [neg_le_of_abs_le gap]
  have chord := mul_abs_le_abs_sin (abs_arg_le_pi_div_two_iff.mpr right)
  have bound : 2 / π * |w.arg| ≤ r := chord.trans (abs_sin_arg_le near small)
  rw [div_mul_eq_mul_div, div_le_iff₀ pi_pos] at bound
  linarith

/-- Every difference of angles is within half a turn of a full one. -/
private theorem exists_turns (angle : ℝ) : ∃ turns : ℤ, |angle - 2 * π * turns| ≤ π := by
  refine ⟨round (angle / (2 * π)), ?_⟩
  have full : 0 < 2 * π := mul_pos two_pos pi_pos
  have split : angle - 2 * π * round (angle / (2 * π)) = 2 * π * (angle / (2 * π) - round (angle / (2 * π))) := by
    rw [mul_sub, mul_div_cancel₀ _ full.ne']
  rw [split, abs_mul, abs_of_pos full]
  have half := mul_le_mul_of_nonneg_left (abs_sub_round (angle / (2 * π))) full.le
  linarith

/-- The argument of a number near one of size `ρ` and direction `φ`. -/
theorem exists_arg_sub_le (u : ℂ) {ρ : ℝ} (pos : 0 < ρ) (φ : ℝ) :
    ∃ turns : ℤ, |u.arg - φ - 2 * π * turns| ≤ π * (‖u - ρ * (Real.cos φ + Real.sin φ * I)‖ / ρ) := by
  set v : ℂ := ρ * (Real.cos φ + Real.sin φ * I) with v_eq
  set r := ‖u - v‖ / ρ with r_eq
  by_cases small : r < 1
  · have size : ‖v‖ = ρ := by
      rw [v_eq, norm_mul, norm_real, norm_of_nonneg pos.le, ofReal_cos, ofReal_sin, norm_cos_add_sin_mul_I, mul_one]
    have nonzero : v ≠ 0 := norm_pos_iff.mp (size ▸ pos)
    have quotient : u / v - 1 = (u - v) / v := by rw [sub_div, div_self nonzero]
    have near : ‖u / v - 1‖ ≤ r := by rw [quotient, norm_div, size]
    have left : u ≠ 0 := by
      rintro rfl
      rw [zero_div, zero_sub, norm_neg, norm_one] at near
      linarith
    have direction : (v.arg : Real.Angle) = φ := by
      have known := arg_mul_cos_add_sin_mul_I_coe_angle pos φ
      rwa [Real.Angle.cos_coe, Real.Angle.sin_coe] at known
    have difference : ((u / v).arg : Real.Angle) = (u.arg - φ : ℝ) := by
      rw [arg_div_coe_angle left nonzero, direction, Real.Angle.coe_sub]
    obtain ⟨turns, equal⟩ := Real.Angle.angle_eq_iff_two_pi_dvd_sub.mp difference.symm
    refine ⟨turns, ?_⟩
    have arg : u.arg - φ - 2 * π * turns = (u / v).arg := by linarith
    rw [arg]
    have nonneg : 0 ≤ r := (norm_nonneg _).trans near
    have quarter := abs_arg_le near small
    nlinarith [mul_nonneg pi_pos.le nonneg]
  · obtain ⟨turns, half⟩ := exists_turns (u.arg - φ)
    exact ⟨turns, half.trans (le_mul_of_one_le_right pi_pos.le (not_lt.mp small))⟩

/-- In the right half plane no turns are needed. -/
theorem abs_arg_sub_le {u : ℂ} (right : 0 ≤ u.re) {ρ φ : ℝ} (pos : 0 < ρ) (direction : |φ| ≤ π / 2) :
    |u.arg - φ| ≤ π * (‖u - ρ * (Real.cos φ + Real.sin φ * I)‖ / ρ) := by
  obtain ⟨turns, bound⟩ := exists_arg_sub_le u pos φ
  have half : |u.arg - φ| ≤ π := by
    have sum := abs_sub u.arg φ
    have own := abs_arg_le_pi_div_two_iff.mpr right
    linarith
  by_cases none : turns = 0
  · rw [none, Int.cast_zero, mul_zero, sub_zero] at bound
    exact bound
  · have turned : π ≤ |u.arg - φ - 2 * π * turns| := by
      have full : 2 * π ≤ |2 * π * (turns : ℝ)| := by
        have one : (1 : ℝ) ≤ |(turns : ℝ)| := by exact_mod_cast Int.one_le_abs none
        rw [abs_mul, abs_of_pos (mul_pos two_pos pi_pos)]
        exact le_mul_of_one_le_right (mul_pos two_pos pi_pos).le one
      have apart := abs_sub_abs_le_abs_sub (2 * π * (turns : ℝ)) (u.arg - φ)
      rw [abs_sub_comm (2 * π * (turns : ℝ))] at apart
      linarith
    exact half.trans (turned.trans bound)

end PlaneAngle
