import GestureSuite.Soundness.Pipeline
import GestureSuite.ToMathlib.PlaneAngle

/-! # The pose of a board that is held still

At rest the accelerometer shows gravity alone, and the pose is read off the smoothed accelerations. Whatever the
client went through before, the poses of a board that is held at an attitude approach that attitude: the distance
that is left is made of the noise of the accelerations, a part of the first distance that shrinks with every frame,
and the accuracy of the functions of `Math`.
-/

namespace GestureSuite.Pipeline

open Gesture Host Real

/-- Roll and pitch in degrees, with the board's long axis not vertical. -/
structure Attitude where
  roll : ℝ
  pitch : ℝ
  upright : |pitch| < 90

noncomputable def radians (degrees : ℝ) : ℝ := degrees * (π / 180)

namespace Attitude

/-- Gravity of size `g` on the axes of the sensor. -/
noncomputable def gravityX (a : Attitude) (g : ℝ) : ℝ := -(g * cos (radians a.pitch) * sin (radians a.roll))

@[inherit_doc gravityX]
noncomputable def gravityY (a : Attitude) (g : ℝ) : ℝ := g * sin (radians a.pitch)

@[inherit_doc gravityX]
noncomputable def gravityZ (a : Attitude) (g : ℝ) : ℝ := g * cos (radians a.pitch) * cos (radians a.roll)

/-- Accelerations that differ from gravity by at most `error` on each axis. -/
structure Near (a : Attitude) (g error : ℝ) (x y z : ℚ) : Prop where
  x : |x - a.gravityX g| ≤ error
  y : |y - a.gravityY g| ≤ error
  z : |z - a.gravityZ g| ≤ error

variable {a : Attitude} {g error : ℝ} {x y z : ℚ}

theorem Near.mono {larger : ℝ} (near : a.Near g error x y z) (le : error ≤ larger) : a.Near g larger x y z :=
  ⟨near.x.trans le, near.y.trans le, near.z.trans le⟩

private theorem abs_radians_pitch_lt (a : Attitude) : |radians a.pitch| < π / 2 := by
  have unit : 0 < π / 180 := div_pos pi_pos (by norm_num)
  rw [radians, abs_mul, abs_of_pos unit]
  calc |a.pitch| * (π / 180) < 90 * (π / 180) := mul_lt_mul_of_pos_right a.upright unit
    _ = π / 2 := by ring

private theorem cos_pitch_pos (a : Attitude) : 0 < cos (radians a.pitch) :=
  cos_pos_of_mem_Ioo (abs_lt.mp a.abs_radians_pitch_lt)

end Attitude

section Calibrator

variable {a : Attitude} {g noise far : ℝ} {c : ImuAutoCalibrator} {raw : ImuRawSample}

/-- A calibrator that has seen a sample is near gravity. -/
def Settling (a : Attitude) (g error : ℝ) (c : ImuAutoCalibrator) : Prop :=
  c.initialized = true → a.Near g error c.gravityX c.gravityY c.gravityZ

private theorem lerp_near {value target alpha : ℚ} {limit : ℝ} (start : |value - limit| ≤ noise + far)
    (near : |target - limit| ≤ noise) (nonneg : 0 ≤ far) (least : 7 / 50 ≤ alpha) (most : alpha ≤ 1) :
    |lerp value target alpha - limit| ≤ noise + far * 0.86 := by
  have low : (7 / 50 : ℝ) ≤ alpha := by
    have cast := (Rat.cast_le (K := ℝ)).mpr least
    push_cast at cast
    exact cast
  have high : (alpha : ℝ) ≤ 1 := by exact_mod_cast most
  have split : (lerp value target alpha : ℝ) - limit = (value - limit) * (1 - alpha) + (target - limit) * alpha := by
    rw [lerp]
    push_cast
    ring
  calc |lerp value target alpha - limit|
      ≤ |value - limit| * (1 - alpha) + |target - limit| * alpha := by
        rw [split]
        refine (abs_add_le _ _).trans (le_of_eq ?_)
        rw [abs_mul, abs_mul, abs_of_nonneg (sub_nonneg.mpr high), abs_of_nonneg (by linarith : (0 : ℝ) ≤ alpha)]
    _ ≤ (noise + far) * (1 - alpha) + noise * alpha :=
        add_le_add (mul_le_mul_of_nonneg_right start (sub_nonneg.mpr high))
          (mul_le_mul_of_nonneg_right near (by linarith))
    _ ≤ noise + far * 0.86 := by nlinarith

/-- A sample near gravity takes a share of the distance away. -/
private theorem update_settles (nonneg : 0 ≤ far) (settling : Settling a g (noise + far) c)
    (near : a.Near g noise raw.ax raw.ay raw.az) :
    (c.update raw).1.initialized = true ∧
      a.Near g (noise + far * 0.86) (c.update raw).1.gravityX (c.update raw).1.gravityY (c.update raw).1.gravityZ := by
  have seeded : (c.seedGravity raw).initialized = true ∧ a.Near g (noise + far) (c.seedGravity raw).gravityX
      (c.seedGravity raw).gravityY (c.seedGravity raw).gravityZ := by
    rw [ImuAutoCalibrator.seedGravity]
    split
    · next known => exact ⟨known, settling known⟩
    · exact ⟨rfl, near.mono (by linarith)⟩
  obtain ⟨known, start⟩ := seeded
  have alpha : 7 / 50 ≤ (if raw.isStationary then gravityAlphaStill else gravityAlphaMove) ∧
      (if raw.isStationary then gravityAlphaStill else gravityAlphaMove) ≤ 1 := by
    split <;> norm_num [gravityAlphaStill, gravityAlphaMove]
  have bias : ((c.seedGravity raw).updateBias raw).initialized = (c.seedGravity raw).initialized ∧
      ((c.seedGravity raw).updateBias raw).gravityX = (c.seedGravity raw).gravityX ∧
      ((c.seedGravity raw).updateBias raw).gravityY = (c.seedGravity raw).gravityY ∧
      ((c.seedGravity raw).updateBias raw).gravityZ = (c.seedGravity raw).gravityZ := by
    rw [ImuAutoCalibrator.updateBias]
    split <;> exact ⟨rfl, rfl, rfl, rfl⟩
  obtain ⟨sameKnown, sameX, sameY, sameZ⟩ := bias
  refine ⟨sameKnown.trans known, ?_, ?_, ?_⟩
  · refine lerp_near ?_ near.x nonneg alpha.1 alpha.2
    rw [sameX]
    exact start.x
  · refine lerp_near ?_ near.y nonneg alpha.1 alpha.2
    rw [sameY]
    exact start.y
  · refine lerp_near ?_ near.z nonneg alpha.1 alpha.2
    rw [sameZ]
    exact start.z

end Calibrator

/-- The angle of a vector in degrees. -/
noncomputable def direction (y x : ℝ) : ℝ := Complex.arg ⟨x, y⟩ * (180 / π)

/-- `Math.Sqrt` up to a relative error and `Math.Atan2` in degrees up to an absolute one. On the left half plane
full turns are left open: there the sign of a zero, which exact arithmetic does not have, decides between the ends
of the range. -/
structure Numerics.Accurate (m : Numerics) (ε : ℝ) : Prop where
  sqrt_nonneg : ∀ q : ℚ, 0 ≤ q → 0 ≤ m.sqrt q
  sqrt : ∀ q : ℚ, 0 ≤ q → |m.sqrt q - √q| ≤ ε * √q
  atan2_right : ∀ y x : ℚ, 0 ≤ x → |m.atan2 y x * m.radToDeg - direction y x| ≤ ε
  atan2 : ∀ y x : ℚ, ∃ turns : ℤ, |m.atan2 y x * m.radToDeg - direction y x - 360 * turns| ≤ ε

section Pose

variable {a : Attitude} {g error : ℝ} {x y z : ℚ}

/-- A vector with two coordinates near those of another one. -/
private theorem norm_sub_le_of_parts {u v : ℂ} {first second bound : ℝ} (re : |u.re - v.re| ≤ first)
    (im : |u.im - v.im| ≤ second) (nonneg : 0 ≤ bound) (sum : first ^ 2 + second ^ 2 ≤ bound ^ 2) :
    ‖u - v‖ ≤ bound := by
  refine abs_le_of_sq_le_sq ?_ nonneg |>.trans' (le_abs_self _)
  rw [Complex.sq_norm, Complex.normSq_apply, Complex.sub_re, Complex.sub_im, ← sq, ← sq]
  have left := sq_le_sq' (neg_le_of_abs_le re) (le_of_abs_le re)
  have right := sq_le_sq' (neg_le_of_abs_le im) (le_of_abs_le im)
  linarith

private theorem polar_parts (ρ φ : ℝ) :
    (ρ * (cos φ + sin φ * Complex.I) : ℂ).re = ρ * cos φ ∧ (ρ * (cos φ + sin φ * Complex.I) : ℂ).im = ρ * sin φ := by
  constructor <;> simp [-Complex.ofReal_cos, -Complex.ofReal_sin]

/-- The part of gravity across the long axis. -/
private theorem Attitude.Near.across (near : a.Near g error x y z) :
    ‖(⟨z, -x⟩ : ℂ) - (g * cos (radians a.pitch) : ℝ) * (cos (radians a.roll) + sin (radians a.roll) * Complex.I)‖ ≤
      √2 * error := by
  have nonneg : 0 ≤ error := (abs_nonneg _).trans near.x
  obtain ⟨re, im⟩ := polar_parts (g * cos (radians a.pitch)) (radians a.roll)
  have up : |(⟨z, -x⟩ : ℂ).re - (g * cos (radians a.pitch) * cos (radians a.roll))| ≤ error := near.z
  have side : |(⟨z, -x⟩ : ℂ).im - (g * cos (radians a.pitch) * sin (radians a.roll))| ≤ error := by
    have other := near.x
    rwa [← abs_neg, neg_sub', Attitude.gravityX, neg_neg] at other
  rw [← re] at up
  rw [← im] at side
  refine norm_sub_le_of_parts up side (mul_nonneg (sqrt_nonneg _) nonneg) ?_
  rw [mul_pow, sq_sqrt (by norm_num)]
  linarith

private theorem Attitude.Near.size (near : a.Near g error x y z) (pos : 0 < g) :
    |‖(⟨z, -x⟩ : ℂ)‖ - g * cos (radians a.pitch)| ≤ √2 * error := by
  have apart := (abs_norm_sub_norm_le _ _).trans near.across
  rwa [norm_mul, Complex.norm_real, norm_of_nonneg (mul_pos pos a.cos_pitch_pos).le, Complex.ofReal_cos,
    Complex.ofReal_sin, Complex.norm_cos_add_sin_mul_I, mul_one] at apart

/-- The part of gravity along the long axis against the size of the part across it. -/
private theorem Attitude.Near.along (near : a.Near g error x y z) (pos : 0 < g) :
    ‖(⟨‖(⟨z, -x⟩ : ℂ)‖, y⟩ : ℂ) - g * (cos (radians a.pitch) + sin (radians a.pitch) * Complex.I)‖ ≤ √3 * error := by
  have nonneg : 0 ≤ error := (abs_nonneg _).trans near.x
  obtain ⟨re, im⟩ := polar_parts g (radians a.pitch)
  have size := near.size pos
  have up : |y - g * sin (radians a.pitch)| ≤ error := near.y
  rw [← re] at size
  rw [← im] at up
  refine norm_sub_le_of_parts size up (mul_nonneg (sqrt_nonneg _) nonneg) ?_
  rw [mul_pow, mul_pow, sq_sqrt (by norm_num), sq_sqrt (by norm_num)]
  linarith

private theorem degrees_sub_le {angle φ turns r : ℝ} (bound : |angle - radians φ - 2 * π * turns| ≤ π * r) :
    |angle * (180 / π) - φ - 360 * turns| ≤ 180 * r := by
  have unit : 0 < 180 / π := div_pos (by norm_num) pi_pos
  have scaled : angle * (180 / π) - φ - 360 * turns = (angle - radians φ - 2 * π * turns) * (180 / π) := by
    rw [radians]
    field_simp
    ring
  rw [scaled, abs_mul, abs_of_pos unit]
  calc |angle - radians φ - 2 * π * turns| * (180 / π) ≤ π * r * (180 / π) := mul_le_mul_of_nonneg_right bound unit.le
    _ = 180 * r := by field_simp

variable {m : Numerics} {ε : ℝ}

private theorem roll_near (accurate : m.Accurate ε) (near : a.Near g error x y z) (pos : 0 < g) :
    ∃ turns : ℤ, |(m.atan2 (-x) z * m.radToDeg : ℚ) - a.roll - 360 * turns| ≤
      180 * (√2 * error / (g * cos (radians a.pitch))) + ε := by
  have size : 0 < g * cos (radians a.pitch) := mul_pos pos a.cos_pitch_pos
  obtain ⟨computed, close⟩ := accurate.atan2 (-x) z
  obtain ⟨turns, bound⟩ := PlaneAngle.exists_arg_sub_le ⟨z, -x⟩ size (radians a.roll)
  have angle : |direction (-x) z - a.roll - 360 * turns| ≤ 180 * (√2 * error / (g * cos (radians a.pitch))) :=
    degrees_sub_le (bound.trans (mul_le_mul_of_nonneg_left (div_le_div_of_nonneg_right near.across size.le) pi_pos.le))
  refine ⟨computed + turns, ?_⟩
  push_cast at close ⊢
  have sum := (abs_add_le _ _).trans (add_le_add angle close)
  calc _ = |direction (-x) z - a.roll - 360 * turns +
        (m.atan2 (-x) z * m.radToDeg - direction (-x) z - 360 * computed)| := by congr 1; ring
    _ ≤ _ := sum

/-- The vector the pitch is read from, with the root as it is computed. -/
private theorem rounded_near (accurate : m.Accurate ε) (near : a.Near g error x y z) (pos : 0 < g) :
    ‖(⟨m.sqrt (-x * -x + z * z), y⟩ : ℂ) - g * (cos (radians a.pitch) + sin (radians a.pitch) * Complex.I)‖ ≤
      √3 * error + ε * (g + √2 * error) := by
  have root := accurate.sqrt _ (add_nonneg (mul_self_nonneg (-x)) (mul_self_nonneg z))
  have size : √((-x * -x + z * z : ℚ) : ℝ) = ‖(⟨z, -x⟩ : ℂ)‖ := by
    rw [Complex.norm_def, Complex.normSq_apply]
    push_cast
    rw [add_comm]
  rw [size] at root
  have accuracy : 0 ≤ ε := (abs_nonneg _).trans (accurate.atan2_right 0 0 le_rfl)
  have length : ‖(⟨z, -x⟩ : ℂ)‖ ≤ g + √2 * error := by
    have across := le_of_abs_le (near.size pos)
    have part := mul_le_of_le_one_right pos.le (cos_le_one (radians a.pitch))
    linarith
  have moved : |m.sqrt (-x * -x + z * z) - ‖(⟨z, -x⟩ : ℂ)‖| ≤ ε * (g + √2 * error) :=
    root.trans (mul_le_mul_of_nonneg_left length accuracy)
  have same : |(y : ℝ) - y| ≤ 0 := by rw [sub_self, abs_zero]
  have rounded : ‖(⟨m.sqrt (-x * -x + z * z), y⟩ : ℂ) - ⟨‖(⟨z, -x⟩ : ℂ)‖, y⟩‖ ≤ ε * (g + √2 * error) :=
    norm_sub_le_of_parts moved same ((abs_nonneg _).trans moved) (by linarith)
  have apart := (norm_sub_le_norm_sub_add_norm_sub _ _ _).trans (add_le_add rounded (near.along pos))
  linarith

private theorem pitch_near (accurate : m.Accurate ε) (near : a.Near g error x y z) (pos : 0 < g) :
    |(m.atan2 y (m.sqrt (-x * -x + z * z)) * m.radToDeg : ℚ) - a.pitch| ≤
      180 * ((√3 * error + ε * (g + √2 * error)) / g) + ε := by
  have apart := rounded_near accurate near pos
  have positive := accurate.sqrt_nonneg _ (add_nonneg (mul_self_nonneg (-x)) (mul_self_nonneg z))
  have close := accurate.atan2_right y _ positive
  have right : 0 ≤ (⟨m.sqrt (-x * -x + z * z), y⟩ : ℂ).re := Rat.cast_nonneg.mpr positive
  generalize m.sqrt (-x * -x + z * z) = s at *
  have bound : |Complex.arg ⟨s, y⟩ - radians a.pitch - 2 * π * 0| ≤
      π * ((√3 * error + ε * (g + √2 * error)) / g) := by
    rw [mul_zero, sub_zero]
    exact (PlaneAngle.abs_arg_sub_le right pos a.abs_radians_pitch_lt.le).trans
      (mul_le_mul_of_nonneg_left (div_le_div_of_nonneg_right apart pos.le) pi_pos.le)
  have angle : |direction y s - a.pitch - 360 * 0| ≤ _ := degrees_sub_le bound
  rw [mul_zero, sub_zero] at angle
  have sum := (abs_add_le _ _).trans (add_le_add angle close)
  push_cast
  calc _ = |direction y s - a.pitch + (m.atan2 y s * m.radToDeg - direction y s)| := by congr 1; ring
    _ ≤ _ := sum

end Pose

/-- The poses of the frames among the events of the client. -/
def poses (raised : List ClientEvent) : List ImuPoseSample :=
  raised.filterMap fun
    | .imuFrameProcessed result => some result.pose
    | _ => none

private theorem poses_map (raised : List Gesture.Event) : poses (raised.map .gesture) = [] := by
  rw [poses, List.filterMap_map, List.filterMap_eq_nil_iff]
  intro event _
  rfl

variable {m : Numerics} (rate : TickRate)

/-- A notification that is read gives the pose of the gravity behind its sample. -/
private theorem valueChanged_readable (c : Client) {arrival : Readings × List UInt8} {raw : ImuRawSample}
    (read : tryParseImuRaw (bufferToUtf8OrHex arrival.2) = some raw) :
    (c.imuCharacteristicValueChanged m rate arrival).1.autoCalibrator = (c.autoCalibrator.update raw).1 ∧
      (poses (c.imuCharacteristicValueChanged m rate arrival).2).map some =
        [tryBuildPoseFromCalibratedGravity m (c.autoCalibrator.update raw).2] := by
  rw [Client.imuCharacteristicValueChanged, Client.handleImuPayloadText, process, read]
  refine ⟨rfl, ?_⟩
  change (_ :: poses (_ : List ClientEvent)).map some = _
  rw [poses_map]
  rfl

private theorem valueChanged_unreadable (c : Client) {arrival : Readings × List UInt8}
    (unread : tryParseImuRaw (bufferToUtf8OrHex arrival.2) = none) :
    (c.imuCharacteristicValueChanged m rate arrival).1 = c ∧
      poses (c.imuCharacteristicValueChanged m rate arrival).2 = [] := by
  rw [Client.imuCharacteristicValueChanged, Client.handleImuPayloadText, process, unread]
  exact ⟨rfl, rfl⟩

/-- Frame by frame the poses are those of accelerations that come closer to gravity. -/
private theorem poses_settle {a : Attitude} {g noise far : ℝ} {arrivals : List (Readings × List UInt8)} {c : Client}
    (steady : ∀ reading ∈ arrivals.filterMap readArrival, a.Near g noise reading.2.ax reading.2.ay reading.2.az)
    (nonneg : 0 ≤ far) (settling : Settling a g (noise + far) c.autoCalibrator) {k : ℕ} {pose : ImuPoseSample}
    (raised : (poses (c.receive m rate arrivals).2)[k]? = some pose) :
    ∃ calibrated : ImuCalibratedSample,
      a.Near g (noise + far * 0.86 ^ (k + 1)) calibrated.gravityX calibrated.gravityY calibrated.gravityZ ∧
      tryBuildPoseFromCalibratedGravity m calibrated = some pose := by
  induction arrivals generalizing c far k with
  | nil => cases raised
  | cons arrival rest ih =>
    rw [Client.receive] at raised
    dsimp only at raised
    rw [poses, List.filterMap_append] at raised
    change (poses _ ++ poses _)[k]? = some pose at raised
    cases read : tryParseImuRaw (bufferToUtf8OrHex arrival.2) with
    | none =>
      obtain ⟨unchanged, silent⟩ := valueChanged_unreadable (m := m) rate c read
      rw [unchanged, silent, List.nil_append] at raised
      rw [List.filterMap_cons_none (by rw [readArrival, read]; rfl)] at steady
      exact ih steady nonneg settling raised
    | some raw =>
      obtain ⟨updated, built⟩ := valueChanged_readable (m := m) rate c read
      rw [List.filterMap_cons_some (b := (arrival.1, raw)) (by rw [readArrival, read]; rfl)] at steady
      obtain ⟨-, closer⟩ := update_settles nonneg settling (steady _ List.mem_cons_self)
      obtain ⟨first, only, pose_eq⟩ := List.map_eq_singleton_iff.mp built
      rw [only, List.singleton_append] at raised
      cases k with
      | zero =>
        obtain rfl := Option.some.inj raised
        rw [zero_add, pow_one]
        exact ⟨_, closer, pose_eq.symm⟩
      | succ k =>
        have less : 0 ≤ far * 0.86 := mul_nonneg nonneg (by norm_num)
        have settled : Settling a g (noise + far * 0.86)
            (c.imuCharacteristicValueChanged m rate arrival).1.autoCalibrator := by
          rw [updated]
          exact fun _ => closer
        have later := ih (fun reading member => steady reading (List.mem_cons_of_mem _ member)) less settled raised
        rwa [mul_assoc, ← pow_succ'] at later

/-- From any state of the client, behind notifications that all show the gravity of a board held at an attitude up
to some noise, the pose of every frame is that attitude up to the noise, what is left of the first distance and the
accuracy of the functions of `Math`. -/
theorem pose_follows_attitude {ε : ℝ} (accurate : m.Accurate ε) (a : Attitude) {g noise far : ℝ} (pos : 0 < g)
    (noisy : 0 ≤ noise) (away : 0 ≤ far) (c : Client) (start : Settling a g far c.autoCalibrator)
    (arrivals : List (Readings × List UInt8))
    (steady : ∀ reading ∈ arrivals.filterMap readArrival, a.Near g noise reading.2.ax reading.2.ay reading.2.az)
    (k : ℕ) (pose : ImuPoseSample) (raised : (poses (c.receive m rate arrivals).2)[k]? = some pose) :
    |pose.pitch - a.pitch| ≤ 180 * ((√3 * (noise + far * 0.86 ^ (k + 1)) +
        ε * (g + √2 * (noise + far * 0.86 ^ (k + 1)))) / g) + ε ∧
      ∃ turns : ℤ, |pose.roll - a.roll - 360 * turns| ≤
        180 * (√2 * (noise + far * 0.86 ^ (k + 1)) / (g * cos (radians a.pitch))) + ε := by
  have settling : Settling a g (noise + far) c.autoCalibrator := fun known => (start known).mono (by linarith)
  obtain ⟨calibrated, near, built⟩ := poses_settle rate steady away settling raised
  obtain rfl := Option.some.inj built
  have pitch := pitch_near accurate near pos
  have roll := roll_near accurate near pos
  rw [← neg_neg calibrated.gravityY] at pitch
  exact ⟨pitch, roll⟩

/-- Functions of any accuracy exist among those with rational values. -/
private theorem exists_accurate {ε : ℝ} (pos : 0 < ε) : ∃ m : Numerics, m.Accurate ε := by
  have roots (q : ℚ) : ∃ root : ℚ, 0 ≤ root ∧ |root - √q| ≤ ε * √q := by
    rcases (sqrt_nonneg (q : ℝ)).eq_or_lt with zero | positive
    · exact ⟨0, le_rfl, by rw [← zero]; simp⟩
    · obtain ⟨root, above, below⟩ := exists_rat_btwn (lt_mul_of_one_lt_left positive (by linarith : 1 < 1 + ε))
      refine ⟨root, by exact_mod_cast (positive.trans above).le, ?_⟩
      rw [abs_of_pos (sub_pos.mpr above)]
      linarith
  have angles (y x : ℚ) : ∃ angle : ℚ, |angle * (57.29577951308232 : ℚ) - direction y x| ≤ ε := by
    have unit : (0 : ℝ) < (57.29577951308232 : ℚ) := by norm_num
    generalize ((57.29577951308232 : ℚ) : ℝ) = u at unit
    obtain ⟨angle, close⟩ := exists_rat_near (direction y x / u) (div_pos pos unit)
    have scaled : (direction y x / u - angle) * u = -(angle * u - direction y x) := by
      rw [sub_mul, div_mul_cancel₀ _ unit.ne']
      ring
    rw [lt_div_iff₀ unit, ← abs_of_pos unit, ← abs_mul, abs_of_pos unit, scaled, abs_neg] at close
    exact ⟨angle, close.le⟩
  choose root root_nonneg root_near using roots
  choose angle angle_near using angles
  refine ⟨⟨root, angle, 57.29577951308232⟩, fun q _ => root_nonneg q, fun q _ => root_near q, fun y x _ => ?_,
    fun y x => ⟨0, ?_⟩⟩
  · exact angle_near y x
  · rw [Int.cast_zero, mul_zero, sub_zero]
    exact angle_near y x

/-- The line of a board that lies on its side. -/
def onSide : Readings × List UInt8 := ({ ticks := 5400000 }, Text.asciiBytes "IMU,540,-16384,0,0,0,0,0,0".toList)

/-- A client that has just started sees the board there. -/
theorem pose_follows_attitude_onSide :
    ∃ m : Numerics, m.Accurate (1 / 1000) ∧ ∃ (pose : ImuPoseSample) (turns : ℤ),
      poses (Client.receive m ⟨10000000, by decide⟩ {} [onSide]).2 = [pose] ∧
      |(pose.roll : ℝ) - 90 - 360 * turns| ≤ 1 / 1000 := by
  obtain ⟨m, accurate⟩ := exists_accurate (by norm_num : (0 : ℝ) < 1 / 1000)
  refine ⟨m, accurate, ?_⟩
  have read : tryParseImuRaw (bufferToUtf8OrHex onSide.2) = some ⟨-16384, 0, 0, 0, 0, 0, 0⟩ := by decide
  have shown : [onSide].filterMap readArrival = [(onSide.1, ⟨-16384, 0, 0, 0, 0, 0, 0⟩)] := by
    rw [List.filterMap_cons_some (by rw [readArrival, read]; rfl), List.filterMap_nil]
  have steady : ∀ reading ∈ [onSide].filterMap readArrival,
      Attitude.Near ⟨90, 0, by norm_num⟩ 16384 0 reading.2.ax reading.2.ay reading.2.az := by
    have quarter : radians 90 = π / 2 := by rw [radians]; ring
    have flat : radians 0 = 0 := by rw [radians, zero_mul]
    intro reading member
    rw [shown, List.mem_singleton] at member
    rw [member]
    constructor <;> simp [Attitude.gravityX, Attitude.gravityY, Attitude.gravityZ, quarter, flat]
  have built := (valueChanged_readable (m := m) ⟨10000000, by decide⟩ {} read).2
  obtain ⟨pose, raised, -⟩ := List.map_eq_singleton_iff.mp built
  have only : poses (Client.receive m ⟨10000000, by decide⟩ {} [onSide]).2 = [pose] := by
    rw [← raised, ← List.append_nil (Client.imuCharacteristicValueChanged _ _ _ _).2]
    rfl
  have kth : (poses (Client.receive m ⟨10000000, by decide⟩ {} [onSide]).2)[0]? = some pose := by rw [only]; rfl
  obtain ⟨-, turns, roll⟩ := pose_follows_attitude ⟨10000000, by decide⟩ accurate ⟨90, 0, by norm_num⟩ (by norm_num)
    le_rfl le_rfl {} (fun known => by cases known) [onSide] steady 0 pose kth
  exact ⟨pose, turns, only, by simpa using roll⟩

end GestureSuite.Pipeline
