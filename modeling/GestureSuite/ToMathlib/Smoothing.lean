import Mathlib.Algebra.BigOperators.Group.List.Basic
import Mathlib.Tactic

/-! # Exponential smoothing

A smoothed value moves towards each target by a weighted part of its distance. Two values that are smoothed
with the same targets and weights approach each other by the product of the remaining parts, whatever the
targets are; against a constant target this is the rate of convergence. The intended home is beside the
products of lists.
-/

namespace Smoothing

variable {K : Type*} [CommRing K]

/-- Move by a weighted part of the distance to a target. -/
def smooth (value : K) (step : K × K) : K := value + (step.1 - value) * step.2

/-- Smooth with every target and weight in turn. -/
def smoothAll (value : K) (steps : List (K × K)) : K := steps.foldl smooth value

/-- What is left of a distance to the target behind all the weights. -/
def remainder (steps : List (K × K)) : K := (steps.map fun step => 1 - step.2).prod

@[simp] theorem remainder_nil : remainder ([] : List (K × K)) = 1 := rfl

@[simp] theorem remainder_cons (step : K × K) (steps : List (K × K)) :
    remainder (step :: steps) = (1 - step.2) * remainder steps := by
  simp [remainder]

theorem smooth_sub (value other : K) (step : K × K) :
    smooth value step - smooth other step = (value - other) * (1 - step.2) := by
  simp only [smooth]
  ring

/-- The distance of two smoothed values shrinks by the product of the remaining parts. -/
theorem smoothAll_sub (value other : K) (steps : List (K × K)) :
    smoothAll value steps - smoothAll other steps = (value - other) * remainder steps := by
  induction steps generalizing value other with
  | nil => simp [smoothAll]
  | cons step rest ih =>
    have later := ih (smooth value step) (smooth other step)
    rw [smooth_sub, mul_assoc, ← remainder_cons] at later
    exact later

/-- Weights of two sizes leave the product of two powers. -/
theorem remainder_map_ite {α : Type*} (p : α → Bool) (target : α → K) (first second : K) (l : List α) :
    remainder (l.map fun a => (target a, if p a then first else second)) =
      (1 - first) ^ l.countP p * (1 - second) ^ l.countP (fun a => !p a) := by
  induction l with
  | nil => simp
  | cons a l ih =>
    rw [List.map_cons, remainder_cons, ih]
    cases holds : p a with
    | true =>
      simp only [holds, if_true, List.countP_cons_of_pos, Bool.not_true, Bool.false_eq_true, not_false_eq_true,
        List.countP_cons_of_neg, pow_succ]
      ring
    | false =>
      simp only [holds, Bool.false_eq_true, if_false, Bool.not_false, not_false_eq_true, List.countP_cons_of_pos,
        List.countP_cons_of_neg, pow_succ]
      ring

section Order

variable {F : Type*} [Field F] [LinearOrder F] [IsStrictOrderedRing F]

/-- Weights between zero and one keep a value between bounds of the targets. -/
theorem smoothAll_mem_Icc {value low high : F} {steps : List (F × F)} (inside : value ∈ Set.Icc low high)
    (targets : ∀ step ∈ steps, step.1 ∈ Set.Icc low high) (weights : ∀ step ∈ steps, step.2 ∈ Set.Icc 0 1) :
    smoothAll value steps ∈ Set.Icc low high := by
  induction steps generalizing value with
  | nil => exact inside
  | cons step rest ih =>
    obtain ⟨nonneg, small⟩ := weights step List.mem_cons_self
    obtain ⟨above, below⟩ := targets step List.mem_cons_self
    have here : smooth value step ∈ Set.Icc low high := by
      have split : smooth value step = value * (1 - step.2) + step.1 * step.2 := by
        rw [smooth]
        ring
      have left : 0 ≤ 1 - step.2 := sub_nonneg.mpr small
      have lower := add_le_add (mul_le_mul_of_nonneg_right inside.1 left) (mul_le_mul_of_nonneg_right above nonneg)
      have upper := add_le_add (mul_le_mul_of_nonneg_right inside.2 left) (mul_le_mul_of_nonneg_right below nonneg)
      rw [split]
      constructor <;> linarith
    exact ih here (fun other member => targets other (List.mem_cons_of_mem _ member))
      fun other member => weights other (List.mem_cons_of_mem _ member)

end Order

end Smoothing
