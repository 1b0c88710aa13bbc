import Mathlib
import GestureSuite.Model.Host.Calibrator
import GestureSuite.ToMathlib.ListWindow

/-! # What the calibrator may conclude from a sample

A frame counts as still by the wrapped sums of squares. The wrapped sums decide as the true ones do,
unless a sum of 2^32 or more wraps into the accepted range; for sixteen-bit samples that is impossible.
On these the bias stays in the ball of still rates and gravity in the box of the accelerations.
-/

namespace GestureSuite.Host

/-- `Math.Sqrt` on an `int`, with NaN as `none`. -/
noncomputable def mathSqrt (n : ℤ) : Option ℝ := if n < 0 then none else some √(n : ℝ)

theorem sqrtBelow_iff (n : ℤ) (bound : ℕ) :
    sqrtBelow n bound = true ↔ ∃ root ∈ mathSqrt n, root < (bound : ℝ) := by
  by_cases negative : n < 0
  · simp [sqrtBelow, mathSqrt, negative]
  · have nonneg : (0 : ℝ) ≤ n := by exact_mod_cast not_lt.mp negative
    have squares : √(n : ℝ) < bound ↔ n < (bound : ℤ) ^ 2 := by
      rw [Real.sqrt_lt nonneg (Nat.cast_nonneg bound)]
      exact_mod_cast Iff.rfl
    simp [sqrtBelow, mathSqrt, negative, squares, not_lt.mp negative]

theorem sqrtNear_iff (n : ℤ) {centre tolerance : ℕ} (smaller : tolerance < centre) :
    sqrtNear n centre tolerance = true ↔
      ∃ root ∈ mathSqrt n, |root - (centre : ℝ)| < (tolerance : ℝ) := by
  by_cases negative : n < 0
  · simp [sqrtNear, mathSqrt, negative]
  · have nonneg : (0 : ℝ) ≤ n := by exact_mod_cast not_lt.mp negative
    have lower : ((centre - tolerance : ℕ) : ℝ) < √(n : ℝ) ↔ ((centre - tolerance : ℕ) : ℤ) ^ 2 < n := by
      rw [Real.lt_sqrt (Nat.cast_nonneg _)]
      exact_mod_cast Iff.rfl
    have upper : √(n : ℝ) < ((centre + tolerance : ℕ) : ℝ) ↔ n < ((centre + tolerance : ℕ) : ℤ) ^ 2 := by
      rw [Real.sqrt_lt nonneg (Nat.cast_nonneg _)]
      exact_mod_cast Iff.rfl
    have split : |√(n : ℝ) - (centre : ℝ)| < (tolerance : ℝ) ↔
        ((centre - tolerance : ℕ) : ℝ) < √(n : ℝ) ∧ √(n : ℝ) < ((centre + tolerance : ℕ) : ℝ) := by
      rw [abs_lt, Nat.cast_sub smaller.le, Nat.cast_add]
      constructor
      · rintro ⟨below, above⟩
        exact ⟨by linarith, by linarith⟩
      · rintro ⟨below, above⟩
        exact ⟨by linarith, by linarith⟩
    simp only [sqrtNear, mathSqrt, negative, if_false, Option.mem_some_iff, exists_eq_left', split, lower, upper,
      not_lt.mp negative, decide_true, Bool.true_and, Bool.and_eq_true, decide_eq_true_eq]

namespace ImuRawSample

def gyroSquares (raw : ImuRawSample) : ℤ := raw.gx ^ 2 + raw.gy ^ 2 + raw.gz ^ 2

def accelSquares (raw : ImuRawSample) : ℤ := raw.ax ^ 2 + raw.ay ^ 2 + raw.az ^ 2

/-- Stillness by the true magnitudes of the exact values. -/
def Still (raw : ImuRawSample) : Prop :=
  √((raw.gx : ℝ) ^ 2 + (raw.gy : ℝ) ^ 2 + (raw.gz : ℝ) ^ 2) < 320 ∧
    |√((raw.ax : ℝ) ^ 2 + (raw.ay : ℝ) ^ 2 + (raw.az : ℝ) ^ 2) - 16384| < 2000

/-- A sum of squares beyond 32 bits whose low bits look like those of a still frame. -/
def Aliased (raw : ImuRawSample) : Prop :=
  (2 ^ 32 ≤ raw.gyroSquares ∨ 2 ^ 32 ≤ raw.accelSquares) ∧
    raw.gyroSquares % 2 ^ 32 < 320 ^ 2 ∧
    14384 ^ 2 < raw.accelSquares % 2 ^ 32 ∧ raw.accelSquares % 2 ^ 32 < 18384 ^ 2

end ImuRawSample

private theorem wrap32_eq (n : ℤ) :
    wrap32 n = if n % 2 ^ 32 < 2 ^ 31 then n % 2 ^ 32 else n % 2 ^ 32 - 2 ^ 32 := by
  rw [wrap32, Int.bmod_def]
  norm_num

private theorem sumOfSquares_eq (x y z : ℤ) : sumOfSquares x y z = wrap32 (x ^ 2 + y ^ 2 + z ^ 2) := by
  simp only [sumOfSquares, wrap32, Int.bmod_add_bmod, Int.add_bmod_bmod, pow_two]

/-- Squares wrap into the lower half exactly when their residue lies there. -/
private theorem isStationary_iff_residue (raw : ImuRawSample) :
    raw.isStationary = true ↔ raw.gyroSquares % 2 ^ 32 < 320 ^ 2 ∧
      14384 ^ 2 < raw.accelSquares % 2 ^ 32 ∧ raw.accelSquares % 2 ^ 32 < 18384 ^ 2 := by
  simp only [ImuRawSample.isStationary, sqrtBelow, sqrtNear, sumOfSquares_eq, oneG, gyroStillThreshold,
    accelMagTolerance, Bool.and_eq_true, decide_eq_true_eq]
  change ((0 ≤ wrap32 raw.gyroSquares ∧ wrap32 raw.gyroSquares < _) ∧
    (0 ≤ wrap32 raw.accelSquares ∧ _ < wrap32 raw.accelSquares) ∧ wrap32 raw.accelSquares < _) ↔ _
  rw [wrap32_eq, wrap32_eq]
  norm_num
  omega

private theorem still_iff_squares (raw : ImuRawSample) :
    raw.Still ↔ raw.gyroSquares < 320 ^ 2 ∧ 14384 ^ 2 < raw.accelSquares ∧ raw.accelSquares < 18384 ^ 2 := by
  have gyro : 0 ≤ raw.gyroSquares := by unfold ImuRawSample.gyroSquares; positivity
  have accel : 0 ≤ raw.accelSquares := by unfold ImuRawSample.accelSquares; positivity
  have below := sqrtBelow_iff raw.gyroSquares 320
  have near := sqrtNear_iff raw.accelSquares (show 2000 < 16384 by norm_num)
  simp only [sqrtBelow, sqrtNear, mathSqrt, gyro, accel, not_lt.mpr gyro, not_lt.mpr accel, if_false,
    Option.mem_some_iff, exists_eq_left', decide_true, Bool.true_and, Bool.and_eq_true, decide_eq_true_eq]
    at below near
  have gyroCast : ((raw.gyroSquares : ℤ) : ℝ) = (raw.gx : ℝ) ^ 2 + (raw.gy : ℝ) ^ 2 + (raw.gz : ℝ) ^ 2 := by
    simp [ImuRawSample.gyroSquares]
  have accelCast : ((raw.accelSquares : ℤ) : ℝ) = (raw.ax : ℝ) ^ 2 + (raw.ay : ℝ) ^ 2 + (raw.az : ℝ) ^ 2 := by
    simp [ImuRawSample.accelSquares]
  rw [gyroCast] at below
  rw [accelCast] at near
  norm_num at below near
  rw [ImuRawSample.Still, ← below, ← near]
  norm_num

/-- The flag and the truth differ on the aliased frames only. -/
private theorem isStationary_iff_still_iff (raw : ImuRawSample) :
    (raw.isStationary = true ↔ raw.Still) ↔ ¬ raw.Aliased := by
  have gyro : 0 ≤ raw.gyroSquares := by unfold ImuRawSample.gyroSquares; positivity
  have accel : 0 ≤ raw.accelSquares := by unfold ImuRawSample.accelSquares; positivity
  rw [isStationary_iff_residue, still_iff_squares, ImuRawSample.Aliased]
  omega

/-- The calibrator judges the frame of an accepted payload by its true magnitudes, and a frame that is not
still leaves the bias alone. -/
def JudgesTruly (c : ImuAutoCalibrator) (payload : List Char) : Prop :=
  ∃ next raw calibrated, process c payload = (next, some (raw, calibrated)) ∧
    (calibrated.isStationary = true ↔ raw.Still) ∧
    (¬ raw.Still → next.gyroBiasX = c.gyroBiasX ∧ next.gyroBiasY = c.gyroBiasY ∧ next.gyroBiasZ = c.gyroBiasZ)

private theorem update_bias_of_moving (c : ImuAutoCalibrator) (raw : ImuRawSample)
    (moving : raw.isStationary = false) :
    (c.update raw).1.gyroBiasX = c.gyroBiasX ∧ (c.update raw).1.gyroBiasY = c.gyroBiasY ∧
      (c.update raw).1.gyroBiasZ = c.gyroBiasZ := by
  simp only [ImuAutoCalibrator.update, ImuAutoCalibrator.updateGravity, ImuAutoCalibrator.updateBias, moving,
    ImuAutoCalibrator.seedGravity, Bool.false_eq_true, if_false]
  split <;> exact ⟨rfl, rfl, rfl⟩

private theorem process_accepted (c : ImuAutoCalibrator) {payload : List Char} {raw : ImuRawSample}
    (accepted : tryParseImuRaw payload = some raw) :
    process c payload = ((c.update raw).1, some (raw, (c.update raw).2)) := by
  simp only [process, accepted]

private theorem judgesTruly_iff_flag (c : ImuAutoCalibrator) {payload : List Char} {raw : ImuRawSample}
    (accepted : tryParseImuRaw payload = some raw) :
    JudgesTruly c payload ↔ (raw.isStationary = true ↔ raw.Still) := by
  have processed := process_accepted c accepted
  constructor
  · rintro ⟨next, other, calibrated, result, judged, -⟩
    obtain ⟨-, rfl, rfl⟩ : (c.update raw).1 = next ∧ raw = other ∧ (c.update raw).2 = calibrated := by
      simpa only [processed, Prod.mk.injEq, Option.some.injEq] using result
    exact judged
  · intro judged
    refine ⟨_, _, _, processed, judged, ?_⟩
    intro violent
    apply update_bias_of_moving
    exact Bool.eq_false_iff.mpr (mt judged.mp violent)

/-- Over every calibrator and every accepted payload, the code judges by the true magnitudes exactly when
no sum of squares beyond 32 bits wraps into the range of a still frame. -/
theorem judgesTruly_iff_not_aliased (c : ImuAutoCalibrator) {payload : List Char} {raw : ImuRawSample}
    (accepted : tryParseImuRaw payload = some raw) : JudgesTruly c payload ↔ ¬ raw.Aliased := by
  rw [judgesTruly_iff_flag c accepted]
  exact isStationary_iff_still_iff raw

/-- The line of a resting device. -/
private def restingLine : List Char := "IMU,0,0,0,16384,0,0,0,0".toList

/-- A rate whose square is exactly 2^32. -/
private def spinningLine : List Char := "IMU,0,0,0,16384,65536,0,0,0".toList

private theorem restingLine_accepted : tryParseImuRaw restingLine = some ⟨0, 0, 16384, 0, 0, 0, 0⟩ := by
  decide

private theorem spinningLine_accepted : tryParseImuRaw spinningLine = some ⟨0, 0, 16384, 65536, 0, 0, 0⟩ := by
  decide

theorem restingLine_judged : JudgesTruly {} restingLine := by
  apply (judgesTruly_iff_not_aliased {} restingLine_accepted).mpr
  rintro ⟨large | large, -⟩
  · norm_num [ImuRawSample.gyroSquares] at large
  · norm_num [ImuRawSample.accelSquares] at large

/-- A rotation of 65536 counts is taken for stillness and pulls the bias. -/
theorem spinningLine_misjudged :
    ¬ (∀ (c : ImuAutoCalibrator) (payload : List Char) (raw : ImuRawSample),
      tryParseImuRaw payload = some raw → JudgesTruly c payload) ∧
    (process {} spinningLine).1.gyroBiasX = 1966.08 := by
  constructor
  · intro always
    have judged := (judgesTruly_iff_flag {} spinningLine_accepted).mp (always {} _ _ spinningLine_accepted)
    apply (isStationary_iff_still_iff _).mp judged
    norm_num [ImuRawSample.Aliased, ImuRawSample.gyroSquares, ImuRawSample.accelSquares]
  · have taken : (⟨0, 0, 16384, 65536, 0, 0, 0⟩ : ImuRawSample).isStationary = true := by decide
    rw [process_accepted {} spinningLine_accepted]
    change ((ImuAutoCalibrator.seedGravity {} _).updateBias _).gyroBiasX = _
    rw [ImuAutoCalibrator.updateBias, if_pos taken]
    norm_num [lerp, gyroBiasAlpha, ImuAutoCalibrator.seedGravity]

namespace ImuRawSample

/-- Every component is a signed sixteen-bit value. -/
def SixteenBit (raw : ImuRawSample) : Prop :=
  ∀ component ∈ [raw.ax, raw.ay, raw.az, raw.gx, raw.gy, raw.gz, raw.temp],
    -2 ^ 15 ≤ component ∧ component < 2 ^ 15

end ImuRawSample

private theorem sq_le_of_sixteenBit {n : ℤ} (bounds : -2 ^ 15 ≤ n ∧ n < 2 ^ 15) : n ^ 2 ≤ 2 ^ 30 := by
  nlinarith [bounds.1, bounds.2]

/-- Three squares of sixteen-bit values stay below 2^32, so none of them is aliased. -/
private theorem isStationary_iff_still {raw : ImuRawSample} (sixteen : raw.SixteenBit) :
    raw.isStationary = true ↔ raw.Still := by
  apply (isStationary_iff_still_iff raw).mpr
  rintro ⟨large, -⟩
  have squares : ∀ component ∈ [raw.ax, raw.ay, raw.az, raw.gx, raw.gy, raw.gz, raw.temp],
      component ^ 2 ≤ 2 ^ 30 :=
    fun component member => sq_le_of_sixteenBit (sixteen component member)
  simp only [List.forall_mem_cons] at squares
  obtain ⟨ax, ay, az, gx, gy, gz, -⟩ := squares
  simp only [ImuRawSample.gyroSquares, ImuRawSample.accelSquares] at large
  omega

private theorem lerp_mem_segment {low start stop alpha : ℚ} (nonneg : 0 ≤ alpha) (small : alpha ≤ 1)
    (first : low ≤ start) (second : low ≤ stop) : low ≤ lerp start stop alpha := by
  have combination : lerp start stop alpha = (1 - alpha) * start + alpha * stop := by
    unfold lerp
    ring
  rw [combination]
  nlinarith [mul_le_mul_of_nonneg_left first (sub_nonneg.mpr small), mul_le_mul_of_nonneg_left second nonneg]

private theorem lerp_neg (start stop alpha : ℚ) : lerp (-start) (-stop) alpha = -lerp start stop alpha := by
  unfold lerp
  ring

/-- The square of a mixture is at most the mixture of the squares. -/
private theorem lerp_sq_le (start stop : ℚ) {alpha : ℚ} (nonneg : 0 ≤ alpha) (small : alpha ≤ 1) :
    lerp start stop alpha ^ 2 ≤ lerp (start ^ 2) (stop ^ 2) alpha := by
  have gap : lerp (start ^ 2) (stop ^ 2) alpha - lerp start stop alpha ^ 2 =
      alpha * (1 - alpha) * (start - stop) ^ 2 := by
    unfold lerp
    ring
  have positive : 0 ≤ alpha * (1 - alpha) * (start - stop) ^ 2 :=
    mul_nonneg (mul_nonneg nonneg (sub_nonneg.mpr small)) (sq_nonneg _)
  linarith

/-- A value between the least and the greatest reading of an axis. -/
def Within (axis : ImuRawSample → ℤ) (history : List ImuRawSample) (value : ℚ) : Prop :=
  (∃ low ∈ history, (axis low : ℚ) ≤ value) ∧ ∃ high ∈ history, value ≤ axis high

private theorem Within.single (axis : ImuRawSample → ℤ) (history : List ImuRawSample) (raw : ImuRawSample) :
    Within axis (history ++ [raw]) (axis raw) :=
  ⟨⟨raw, by simp, le_refl _⟩, raw, by simp, le_refl _⟩

private theorem Within.append {axis : ImuRawSample → ℤ} {history : List ImuRawSample} {value : ℚ}
    (within : Within axis history value) (raw : ImuRawSample) : Within axis (history ++ [raw]) value := by
  obtain ⟨⟨low, lowIn, below⟩, high, highIn, above⟩ := within
  exact ⟨⟨low, List.mem_append_left _ lowIn, below⟩, high, List.mem_append_left _ highIn, above⟩

/-- Moving towards the newest reading stays between the readings. -/
private theorem Within.lerp {axis : ImuRawSample → ℤ} {history : List ImuRawSample} {raw : ImuRawSample}
    {value alpha : ℚ} (within : Within axis (history ++ [raw]) value) (nonneg : 0 ≤ alpha) (small : alpha ≤ 1) :
    Within axis (history ++ [raw]) (lerp value (axis raw) alpha) := by
  obtain ⟨⟨low, lowIn, below⟩, high, highIn, above⟩ := within
  constructor
  · rcases le_total (axis low) (axis raw) with order | order
    · exact ⟨low, lowIn, lerp_mem_segment nonneg small below (by exact_mod_cast order)⟩
    · exact ⟨raw, by simp, lerp_mem_segment nonneg small (le_trans (by exact_mod_cast order) below) le_rfl⟩
  · rcases le_total (axis high) (axis raw) with order | order
    · refine ⟨raw, by simp, neg_le_neg_iff.mp ?_⟩
      rw [← lerp_neg]
      exact lerp_mem_segment nonneg small (neg_le_neg (le_trans above (by exact_mod_cast order))) le_rfl
    · refine ⟨high, highIn, neg_le_neg_iff.mp ?_⟩
      rw [← lerp_neg]
      exact lerp_mem_segment nonneg small (neg_le_neg above) (neg_le_neg (by exact_mod_cast order))

/-- Gravity lies in the box of the accelerations. -/
def ImuAutoCalibrator.InBox (history : List ImuRawSample) (c : ImuAutoCalibrator) : Prop :=
  Within ImuRawSample.ax history c.gravityX ∧ Within ImuRawSample.ay history c.gravityY ∧
    Within ImuRawSample.az history c.gravityZ

/-- The state of the calibrator after the samples of `history`. -/
structure ImuAutoCalibrator.Estimates (history : List ImuRawSample) (c : ImuAutoCalibrator) : Prop where
  bias : c.gyroBiasX ^ 2 + c.gyroBiasY ^ 2 + c.gyroBiasZ ^ 2 < 320 ^ 2
  gravity : c.initialized = true → c.InBox history
  frames : c.stableFrames = (history.rtakeWhile ImuRawSample.isStationary).length

namespace ImuAutoCalibrator

variable {c : ImuAutoCalibrator} {history : List ImuRawSample} {raw : ImuRawSample}

variable (raw) in
private theorem seedGravity_inBox (gravity : c.initialized = true → c.InBox history) :
    (c.seedGravity raw).initialized = true ∧ (c.seedGravity raw).InBox (history ++ [raw]) := by
  unfold seedGravity
  cases seeded : c.initialized with
  | true =>
    obtain ⟨x, y, z⟩ := gravity seeded
    exact ⟨seeded, x.append raw, y.append raw, z.append raw⟩
  | false => exact ⟨rfl, Within.single _ history raw, Within.single _ history raw, Within.single _ history raw⟩

variable (c raw) in
private theorem seedGravity_frame : (c.seedGravity raw).gyroBiasX = c.gyroBiasX ∧
    (c.seedGravity raw).gyroBiasY = c.gyroBiasY ∧ (c.seedGravity raw).gyroBiasZ = c.gyroBiasZ ∧
    (c.seedGravity raw).stableFrames = c.stableFrames := by
  unfold seedGravity
  split <;> exact ⟨rfl, rfl, rfl, rfl⟩

variable (c raw) in
private theorem updateBias_frame : (c.updateBias raw).initialized = c.initialized ∧
    (c.updateBias raw).gravityX = c.gravityX ∧ (c.updateBias raw).gravityY = c.gravityY ∧
    (c.updateBias raw).gravityZ = c.gravityZ := by
  unfold updateBias
  split <;> exact ⟨rfl, rfl, rfl, rfl⟩

/-- The ball of still rates is convex. -/
private theorem updateBias_bias (sixteen : raw.SixteenBit)
    (bias : c.gyroBiasX ^ 2 + c.gyroBiasY ^ 2 + c.gyroBiasZ ^ 2 < 320 ^ 2) :
    (c.updateBias raw).gyroBiasX ^ 2 + (c.updateBias raw).gyroBiasY ^ 2 + (c.updateBias raw).gyroBiasZ ^ 2
      < 320 ^ 2 := by
  unfold updateBias
  split
  · next still =>
    have rates := ((still_iff_squares raw).mp ((isStationary_iff_still sixteen).mp still)).1
    have exact_rates : (raw.gx : ℚ) ^ 2 + (raw.gy : ℚ) ^ 2 + (raw.gz : ℚ) ^ 2 < 320 ^ 2 := by
      exact_mod_cast rates
    have nonneg : 0 ≤ gyroBiasAlpha := by norm_num [gyroBiasAlpha]
    have small : gyroBiasAlpha ≤ 1 := by norm_num [gyroBiasAlpha]
    have x := lerp_sq_le c.gyroBiasX raw.gx nonneg small
    have y := lerp_sq_le c.gyroBiasY raw.gy nonneg small
    have z := lerp_sq_le c.gyroBiasZ raw.gz nonneg small
    simp only [lerp, gyroBiasAlpha] at x y z ⊢
    linarith
  · exact bias

private theorem updateBias_frames (count : history.length < 2 ^ 31 - 1)
    (frames : c.stableFrames = (history.rtakeWhile ImuRawSample.isStationary).length) :
    (c.updateBias raw).stableFrames = ((history ++ [raw]).rtakeWhile ImuRawSample.isStationary).length := by
  unfold updateBias
  split
  · next still =>
    have short : (history.rtakeWhile ImuRawSample.isStationary).length ≤ history.length :=
      (List.rtakeWhile_suffix _ _).length_le
    rw [List.rtakeWhile_concat_pos _ _ _ still, List.length_append, List.length_singleton]
    change wrap32 (c.stableFrames + 1) = _
    rw [frames, wrap32_eq, if_pos (by omega)]
    omega
  · next moving =>
    rw [List.rtakeWhile_concat_neg _ _ _ moving]
    rfl

private theorem updateGravity_inBox (inside : c.InBox (history ++ [raw])) :
    (c.updateGravity raw).InBox (history ++ [raw]) := by
  obtain ⟨x, y, z⟩ := inside
  unfold updateGravity
  have nonneg : (0 : ℚ) ≤ if raw.isStationary then gravityAlphaStill else gravityAlphaMove := by
    split <;> norm_num [gravityAlphaStill, gravityAlphaMove]
  have small : (if raw.isStationary then gravityAlphaStill else gravityAlphaMove) ≤ 1 := by
    split <;> norm_num [gravityAlphaStill, gravityAlphaMove]
  exact ⟨x.lerp nonneg small, y.lerp nonneg small, z.lerp nonneg small⟩

/-- One sample keeps the estimates inside the data. -/
private theorem Estimates.update (sixteen : raw.SixteenBit) (count : history.length < 2 ^ 31 - 1)
    (estimates : c.Estimates history) :
    (c.update raw).1.initialized = true ∧ (c.update raw).1.Estimates (history ++ [raw]) := by
  obtain ⟨seeded, inside⟩ := seedGravity_inBox raw estimates.gravity
  obtain ⟨biasX, biasY, biasZ, frames⟩ := seedGravity_frame c raw
  obtain ⟨kept, gravityX, gravityY, gravityZ⟩ := updateBias_frame (c.seedGravity raw) raw
  have boxed : ((c.seedGravity raw).updateBias raw).InBox (history ++ [raw]) := by
    rw [InBox, gravityX, gravityY, gravityZ]
    exact inside
  refine ⟨kept.trans seeded, ?_, fun _ => updateGravity_inBox boxed, ?_⟩
  · apply updateBias_bias sixteen
    rw [biasX, biasY, biasZ]
    exact estimates.bias
  · apply updateBias_frames count
    rw [frames]
    exact estimates.frames

end ImuAutoCalibrator

private theorem calibratorAt_estimated {samples : List ImuRawSample}
    (sixteen : ∀ raw ∈ samples, raw.SixteenBit) (count : samples.length < 2 ^ 31) (k : ℕ)
    (bound : k ≤ samples.length) : (calibratorAt samples k).Estimates (samples.take k) := by
  refine Machine.trajectory_invariant _ _ _
    (fun k (c : ImuAutoCalibrator) => c.Estimates (samples.take k)) ?_ ?_ k bound
  · exact ⟨by norm_num, by simp, by simp⟩
  · intro j raw present estimates
    have within : j < samples.length := (List.getElem?_eq_some_iff.mp present).1
    have next : samples.take (j + 1) = samples.take j ++ [raw] := by
      rw [List.take_add_one, present]
      rfl
    rw [next]
    refine (estimates.update (sixteen raw (List.mem_of_getElem? present)) ?_).2
    rw [List.length_take]
    omega

/-- After every sample of a sixteen-bit run: the bias is shorter than the still threshold, gravity lies
between the extreme readings of each axis, gravity and linear acceleration add up to the reading, and the
calibrator is ready exactly when the last twenty samples were still; the flag tells stillness exactly. -/
theorem calibratorAt_inside_data (samples : List ImuRawSample) (sixteen : ∀ raw ∈ samples, raw.SixteenBit)
    (count : samples.length < 2 ^ 31) {k : ℕ} {raw : ImuRawSample} (present : samples[k]? = some raw) :
    let history := samples.take (k + 1)
    let result := ((calibratorAt samples k).update raw).2
    √((result.gyroBiasX : ℝ) ^ 2 + (result.gyroBiasY : ℝ) ^ 2 + (result.gyroBiasZ : ℝ) ^ 2) < 320 ∧
    (Within ImuRawSample.ax history result.gravityX ∧ Within ImuRawSample.ay history result.gravityY ∧
      Within ImuRawSample.az history result.gravityZ) ∧
    (result.linearX + result.gravityX = raw.ax ∧ result.linearY + result.gravityY = raw.ay ∧
      result.linearZ + result.gravityZ = raw.az) ∧
    (result.isReady = true ↔
      20 ≤ history.length ∧ ∀ sample ∈ history.rtake 20, sample.isStationary = true) ∧
    ∀ sample ∈ history, sample.isStationary = true ↔ sample.Still := by
  intro history result
  have within : k < samples.length := (List.getElem?_eq_some_iff.mp present).1
  have estimated := calibratorAt_estimated sixteen count k within.le
  have next : history = samples.take k ++ [raw] := by
    change samples.take (k + 1) = _
    rw [List.take_add_one, present]
    rfl
  have short : (samples.take k).length < 2 ^ 31 - 1 := by
    rw [List.length_take]
    omega
  obtain ⟨seeded, after⟩ := estimated.update (sixteen raw (List.mem_of_getElem? present)) short
  rw [← next] at after
  refine ⟨?_, after.gravity seeded, ?_, ?_, ?_⟩
  · rw [Real.sqrt_lt' (by norm_num)]
    exact_mod_cast after.bias
  · exact ⟨sub_add_cancel _ _, sub_add_cancel _ _, sub_add_cancel _ _⟩
  · rw [← List.le_length_rtakeWhile_iff]
    change decide (readyStableFrames ≤ ((calibratorAt samples k).update raw).1.stableFrames) = true ↔ _
    rw [decide_eq_true_eq, after.frames]
    exact Int.ofNat_le
  · intro sample member
    exact isStationary_iff_still (sixteen sample (List.mem_of_mem_take member))

private def restingSample : ImuRawSample := ⟨0, 0, 16384, 12, -7, 3, 0⟩

/-- Twenty-five resting samples satisfy the hypotheses, and the calibrator is ready. -/
theorem calibratorAt_resting :
    ((calibratorAt (List.replicate 25 restingSample) 24).update restingSample).2.isReady = true := by
  have sixteen : ∀ raw ∈ List.replicate 25 restingSample, raw.SixteenBit := by
    intro raw member
    rw [List.eq_of_mem_replicate member]
    unfold ImuRawSample.SixteenBit
    decide
  have inside := calibratorAt_inside_data (List.replicate 25 restingSample) sixteen (by decide)
    (show (List.replicate 25 restingSample)[24]? = some restingSample from rfl)
  refine inside.2.2.2.1.mpr ⟨by decide, ?_⟩
  decide

end GestureSuite.Host
