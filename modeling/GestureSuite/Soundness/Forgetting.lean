import GestureSuite.Soundness.Calibration
import GestureSuite.Soundness.Pipeline
import GestureSuite.ToMathlib.Smoothing

/-! # How the calibrator forgets its start

Gravity and bias are smoothed values, so two calibrators that see the same samples approach each other at a rate
that depends only on how many of the samples are still. This bounds what the start of a run can do to it, in
particular the line of zeros that the board shows before its first sample and that a client may read when it
connects.
-/

namespace GestureSuite.Host

open Smoothing

namespace ImuAutoCalibrator

/-- The calibrator behind a list of samples. -/
def after (c : ImuAutoCalibrator) (samples : List ImuRawSample) : ImuAutoCalibrator :=
  samples.foldl (fun c raw => (c.update raw).1) c

/-- The targets and weights by which the samples move one axis of gravity. -/
def gravitySteps (axis : ImuRawSample → ℤ) (samples : List ImuRawSample) : List (ℚ × ℚ) :=
  samples.map fun raw => ((axis raw : ℚ), if raw.isStationary then gravityAlphaStill else gravityAlphaMove)

/-- The targets and weights by which the samples move one axis of the bias. -/
def biasSteps (axis : ImuRawSample → ℤ) (samples : List ImuRawSample) : List (ℚ × ℚ) :=
  (samples.filter ImuRawSample.isStationary).map fun raw => ((axis raw : ℚ), gyroBiasAlpha)

/-- The six estimates behind some samples, as values smoothed from the ones in front of them. -/
structure Smooths (c d : ImuAutoCalibrator) (samples : List ImuRawSample) : Prop where
  initialized : d.initialized = true
  gravityX : d.gravityX = smoothAll c.gravityX (gravitySteps ImuRawSample.ax samples)
  gravityY : d.gravityY = smoothAll c.gravityY (gravitySteps ImuRawSample.ay samples)
  gravityZ : d.gravityZ = smoothAll c.gravityZ (gravitySteps ImuRawSample.az samples)
  biasX : d.gyroBiasX = smoothAll c.gyroBiasX (biasSteps ImuRawSample.gx samples)
  biasY : d.gyroBiasY = smoothAll c.gyroBiasY (biasSteps ImuRawSample.gy samples)
  biasZ : d.gyroBiasZ = smoothAll c.gyroBiasZ (biasSteps ImuRawSample.gz samples)

private theorem lerp_eq_smooth (start stop alpha : ℚ) : lerp start stop alpha = smooth start (stop, alpha) := rfl

private theorem update_smooths {c : ImuAutoCalibrator} (seeded : c.initialized = true) (raw : ImuRawSample) :
    Smooths c (c.update raw).1 [raw] := by
  have same : c.seedGravity raw = c := by
    rw [seedGravity, if_pos seeded]
  have step : (c.update raw).1 = (c.updateBias raw).updateGravity raw := by
    rw [update, same]
  rw [step]
  cases still : raw.isStationary with
  | true =>
    have moved : c.updateBias raw = { c with
        gyroBiasX := lerp c.gyroBiasX raw.gx gyroBiasAlpha
        gyroBiasY := lerp c.gyroBiasY raw.gy gyroBiasAlpha
        gyroBiasZ := lerp c.gyroBiasZ raw.gz gyroBiasAlpha
        stableFrames := wrap32 (c.stableFrames + 1) } := by
      rw [updateBias, if_pos still]
    have bias (axis : ImuRawSample → ℤ) : biasSteps axis [raw] = [((axis raw : ℚ), gyroBiasAlpha)] := by
      rw [biasSteps, List.filter_singleton, still]
      rfl
    rw [moved]
    exact ⟨seeded, rfl, rfl, rfl, by rw [bias]; rfl, by rw [bias]; rfl, by rw [bias]; rfl⟩
  | false =>
    have kept : c.updateBias raw = { c with stableFrames := 0 } := by
      rw [updateBias, still]
      rfl
    have bias (axis : ImuRawSample → ℤ) : biasSteps axis [raw] = [] := by
      rw [biasSteps, List.filter_singleton, still]
      rfl
    rw [kept]
    exact ⟨seeded, rfl, rfl, rfl, by rw [bias]; rfl, by rw [bias]; rfl, by rw [bias]; rfl⟩

private theorem Smooths.trans {c d e : ImuAutoCalibrator} {front back : List ImuRawSample} (first : Smooths c d front)
    (second : Smooths d e back) : Smooths c e (front ++ back) := by
  have gravity (axis : ImuRawSample → ℤ) (value : ℚ) : smoothAll value (gravitySteps axis (front ++ back)) =
      smoothAll (smoothAll value (gravitySteps axis front)) (gravitySteps axis back) := by
    rw [gravitySteps, List.map_append, smoothAll, List.foldl_append]
    rfl
  have bias (axis : ImuRawSample → ℤ) (value : ℚ) : smoothAll value (biasSteps axis (front ++ back)) =
      smoothAll (smoothAll value (biasSteps axis front)) (biasSteps axis back) := by
    rw [biasSteps, List.filter_append, List.map_append, smoothAll, List.foldl_append]
    rfl
  refine ⟨second.initialized, ?_, ?_, ?_, ?_, ?_, ?_⟩
  · rw [second.gravityX, first.gravityX, gravity]
  · rw [second.gravityY, first.gravityY, gravity]
  · rw [second.gravityZ, first.gravityZ, gravity]
  · rw [second.biasX, first.biasX, bias]
  · rw [second.biasY, first.biasY, bias]
  · rw [second.biasZ, first.biasZ, bias]

theorem after_smooths {c : ImuAutoCalibrator} (seeded : c.initialized = true) (samples : List ImuRawSample) :
    Smooths c (c.after samples) samples := by
  induction samples generalizing c with
  | nil => exact ⟨seeded, rfl, rfl, rfl, rfl, rfl, rfl⟩
  | cons raw rest ih =>
    have here := update_smooths seeded raw
    exact here.trans (ih here.initialized)

/-- What is left of a distance of two gravity estimates behind some samples. -/
def gravityLeft (samples : List ImuRawSample) : ℚ :=
  0.86 ^ samples.countP ImuRawSample.isStationary * 0.78 ^ samples.countP (fun raw => !raw.isStationary)

/-- What is left of a distance of two biases behind some samples. -/
def biasLeft (samples : List ImuRawSample) : ℚ := 0.97 ^ samples.countP ImuRawSample.isStationary

private theorem remainder_gravitySteps (axis : ImuRawSample → ℤ) (samples : List ImuRawSample) :
    remainder (gravitySteps axis samples) = gravityLeft samples := by
  have two := remainder_map_ite ImuRawSample.isStationary (fun raw => (axis raw : ℚ)) gravityAlphaStill
    gravityAlphaMove samples
  have still : 1 - gravityAlphaStill = 0.86 := by norm_num [gravityAlphaStill]
  have moving : 1 - gravityAlphaMove = 0.78 := by norm_num [gravityAlphaMove]
  rw [still, moving] at two
  exact two

private theorem remainder_biasSteps (axis : ImuRawSample → ℤ) (samples : List ImuRawSample) :
    remainder (biasSteps axis samples) = biasLeft samples := by
  have still : 1 - gyroBiasAlpha = 0.97 := by norm_num [gyroBiasAlpha]
  rw [remainder, biasSteps, biasLeft, List.map_map, List.countP_eq_length_filter]
  simp only [Function.comp_def, still, List.map_const', List.prod_replicate]

/-- The distance of two calibrators, on every axis. -/
theorem after_sub {c d : ImuAutoCalibrator} (seeded : c.initialized = true) (seeded' : d.initialized = true)
    (samples : List ImuRawSample) :
    ((c.after samples).gravityX - (d.after samples).gravityX = (c.gravityX - d.gravityX) * gravityLeft samples ∧
      (c.after samples).gravityY - (d.after samples).gravityY = (c.gravityY - d.gravityY) * gravityLeft samples ∧
      (c.after samples).gravityZ - (d.after samples).gravityZ = (c.gravityZ - d.gravityZ) * gravityLeft samples) ∧
    (c.after samples).gyroBiasX - (d.after samples).gyroBiasX = (c.gyroBiasX - d.gyroBiasX) * biasLeft samples ∧
      (c.after samples).gyroBiasY - (d.after samples).gyroBiasY = (c.gyroBiasY - d.gyroBiasY) * biasLeft samples ∧
      (c.after samples).gyroBiasZ - (d.after samples).gyroBiasZ = (c.gyroBiasZ - d.gyroBiasZ) * biasLeft samples := by
  have first := after_smooths seeded samples
  have second := after_smooths seeded' samples
  refine ⟨⟨?_, ?_, ?_⟩, ?_, ?_, ?_⟩
  · rw [first.gravityX, second.gravityX, smoothAll_sub, remainder_gravitySteps]
  · rw [first.gravityY, second.gravityY, smoothAll_sub, remainder_gravitySteps]
  · rw [first.gravityZ, second.gravityZ, smoothAll_sub, remainder_gravitySteps]
  · rw [first.biasX, second.biasX, smoothAll_sub, remainder_biasSteps]
  · rw [first.biasY, second.biasY, smoothAll_sub, remainder_biasSteps]
  · rw [first.biasZ, second.biasZ, smoothAll_sub, remainder_biasSteps]

/-- The first sample is the estimate behind it. -/
private theorem after_first (raw : ImuRawSample) :
    let c := ImuAutoCalibrator.after {} [raw]
    c.initialized = true ∧ c.gravityX = raw.ax ∧ c.gravityY = raw.ay ∧ c.gravityZ = raw.az := by
  have unmoved (x alpha : ℚ) : lerp x x alpha = x := by
    rw [lerp]
    ring
  intro c
  have seeded : c = ((seedGravity {} raw).updateBias raw).updateGravity raw := rfl
  rw [seeded, updateGravity]
  cases still : raw.isStationary with
  | true =>
    simp only [updateBias, still, if_true]
    exact ⟨rfl, unmoved _ _, unmoved _ _, unmoved _ _⟩
  | false =>
    simp only [updateBias, still, Bool.false_eq_true, if_false]
    exact ⟨rfl, unmoved _ _, unmoved _ _, unmoved _ _⟩

private theorem after_append (c : ImuAutoCalibrator) (front back : List ImuRawSample) :
    c.after (front ++ back) = (c.after front).after back := List.foldl_append

/-- Readings between bounds keep the smoothed value between them. -/
private theorem smoothAll_gravitySteps {axis : ImuRawSample → ℤ} {samples : List ImuRawSample} {low high : ℤ}
    (bounds : ∀ raw ∈ samples, low ≤ axis raw ∧ axis raw ≤ high) {value : ℚ}
    (inside : value ∈ Set.Icc (low : ℚ) high) :
    smoothAll value (gravitySteps axis samples) ∈ Set.Icc (low : ℚ) high := by
  apply smoothAll_mem_Icc inside
  · intro step member
    obtain ⟨raw, among, rfl⟩ := List.mem_map.mp member
    exact ⟨Int.cast_le.mpr (bounds raw among).1, Int.cast_le.mpr (bounds raw among).2⟩
  · intro step member
    obtain ⟨raw, -, rfl⟩ := List.mem_map.mp member
    dsimp only
    split <;> norm_num [gravityAlphaStill, gravityAlphaMove]

/-- On sixteen-bit samples every estimate of gravity lies between the sixteen-bit bounds. -/
private theorem after_sixteenBit {history : List ImuRawSample} (nonempty : history ≠ [])
    (sixteen : ∀ raw ∈ history, raw.SixteenBit) :
    let c := ImuAutoCalibrator.after {} history
    c.initialized = true ∧ c.gravityX ∈ Set.Icc ((-2 ^ 15 : ℤ) : ℚ) (2 ^ 15 : ℤ) ∧
      c.gravityY ∈ Set.Icc ((-2 ^ 15 : ℤ) : ℚ) (2 ^ 15 : ℤ) ∧
      c.gravityZ ∈ Set.Icc ((-2 ^ 15 : ℤ) : ℚ) (2 ^ 15 : ℤ) := by
  obtain ⟨first, rest, rfl⟩ := List.exists_cons_of_ne_nil nonempty
  obtain ⟨seeded, x, y, z⟩ := after_first first
  have smooths := after_smooths seeded rest
  have start (axis : ImuRawSample → ℤ) (bounds : ∀ raw ∈ first :: rest, -2 ^ 15 ≤ axis raw ∧ axis raw ≤ 2 ^ 15) :
      smoothAll (axis first : ℚ) (gravitySteps axis rest) ∈ Set.Icc ((-2 ^ 15 : ℤ) : ℚ) (2 ^ 15 : ℤ) := by
    obtain ⟨low, high⟩ := bounds first List.mem_cons_self
    exact smoothAll_gravitySteps (fun raw among => bounds raw (List.mem_cons_of_mem _ among))
      ⟨Int.cast_le.mpr low, Int.cast_le.mpr high⟩
  have within (raw : ImuRawSample) (member : raw ∈ first :: rest) {component : ℤ}
      (among : component ∈ [raw.ax, raw.ay, raw.az, raw.gx, raw.gy, raw.gz, raw.temp]) :
      -2 ^ 15 ≤ component ∧ component ≤ 2 ^ 15 :=
    ⟨(sixteen raw member component among).1, (sixteen raw member component among).2.le⟩
  refine ⟨smooths.initialized, ?_, ?_, ?_⟩
  · change ((after {} [first]).after rest).gravityX ∈ _
    rw [smooths.gravityX, x]
    exact start ImuRawSample.ax fun raw member => within raw member (by simp)
  · change ((after {} [first]).after rest).gravityY ∈ _
    rw [smooths.gravityY, y]
    exact start ImuRawSample.ay fun raw member => within raw member (by simp)
  · change ((after {} [first]).after rest).gravityZ ∈ _
    rw [smooths.gravityZ, z]
    exact start ImuRawSample.az fun raw member => within raw member (by simp)

private theorem gravityLeft_le (samples : List ImuRawSample) :
    0 ≤ gravityLeft samples ∧ gravityLeft samples ≤ 0.86 ^ samples.length := by
  have split := List.length_eq_countP_add_countP ImuRawSample.isStationary (l := samples)
  have moving : (0.78 : ℚ) ^ samples.countP (fun raw => !raw.isStationary) ≤
      0.86 ^ samples.countP (fun raw => !raw.isStationary) := pow_le_pow_left₀ (by norm_num) (by norm_num) _
  refine ⟨by rw [gravityLeft]; positivity, ?_⟩
  calc gravityLeft samples
      ≤ 0.86 ^ samples.countP ImuRawSample.isStationary * 0.86 ^ samples.countP (fun raw => !raw.isStationary) :=
        mul_le_mul_of_nonneg_left moving (by positivity)
    _ = 0.86 ^ samples.length := by
      rw [← pow_add, split]
      simp only [Bool.not_eq_true, Bool.decide_eq_false]

/-- A distance of sixteen-bit values is below one behind 74 samples. -/
private theorem gravity_within_one {x y : ℚ} {samples : List ImuRawSample} (long : 74 ≤ samples.length)
    (first : x ∈ Set.Icc ((-2 ^ 15 : ℤ) : ℚ) (2 ^ 15 : ℤ)) (second : y ∈ Set.Icc ((-2 ^ 15 : ℤ) : ℚ) (2 ^ 15 : ℤ)) :
    |(x - y) * gravityLeft samples| < 1 := by
  obtain ⟨nonneg, bound⟩ := gravityLeft_le samples
  have power : (0.86 : ℚ) ^ samples.length ≤ 0.86 ^ 74 := pow_le_pow_of_le_one (by norm_num) (by norm_num) long
  have distance : |x - y| ≤ 65536 := by
    have low := first.1
    have high := second.2
    rw [abs_le]
    push_cast at *
    constructor <;> linarith [first.2, second.1]
  calc |(x - y) * gravityLeft samples| = |x - y| * gravityLeft samples := by rw [abs_mul, abs_of_nonneg nonneg]
    _ ≤ 65536 * 0.86 ^ 74 := mul_le_mul distance (bound.trans power) nonneg (by norm_num)
    _ < 1 := by norm_num

/-- Whatever two calibrators saw before, the same samples bring them together: on every axis the distance of the
gravity estimates shrinks by 0.86 for a still sample and by 0.78 for another, that of the biases by 0.97 for a
still sample; after 74 samples the gravity estimates of sixteen-bit histories are less than one unit apart. -/
theorem start_forgotten (history history' samples : List ImuRawSample) (nonempty : history ≠ [])
    (nonempty' : history' ≠ []) (sixteen : ∀ raw ∈ history, raw.SixteenBit)
    (sixteen' : ∀ raw ∈ history', raw.SixteenBit) :
    let before := ImuAutoCalibrator.after {} history
    let before' := ImuAutoCalibrator.after {} history'
    let c := ImuAutoCalibrator.after {} (history ++ samples)
    let d := ImuAutoCalibrator.after {} (history' ++ samples)
    (c.gravityX - d.gravityX = (before.gravityX - before'.gravityX) * gravityLeft samples ∧
      c.gravityY - d.gravityY = (before.gravityY - before'.gravityY) * gravityLeft samples ∧
      c.gravityZ - d.gravityZ = (before.gravityZ - before'.gravityZ) * gravityLeft samples) ∧
    (c.gyroBiasX - d.gyroBiasX = (before.gyroBiasX - before'.gyroBiasX) * biasLeft samples ∧
      c.gyroBiasY - d.gyroBiasY = (before.gyroBiasY - before'.gyroBiasY) * biasLeft samples ∧
      c.gyroBiasZ - d.gyroBiasZ = (before.gyroBiasZ - before'.gyroBiasZ) * biasLeft samples) ∧
    (74 ≤ samples.length →
      |c.gravityX - d.gravityX| < 1 ∧ |c.gravityY - d.gravityY| < 1 ∧ |c.gravityZ - d.gravityZ| < 1) := by
  intro before before' c d
  obtain ⟨seeded, inX, inY, inZ⟩ := after_sixteenBit nonempty sixteen
  obtain ⟨seeded', inX', inY', inZ'⟩ := after_sixteenBit nonempty' sixteen'
  obtain ⟨⟨x, y, z⟩, bias⟩ := after_sub seeded seeded' samples
  have front : c = before.after samples := after_append _ _ _
  have back : d = before'.after samples := after_append _ _ _
  rw [front, back]
  refine ⟨⟨x, y, z⟩, bias, fun long => ?_⟩
  rw [x, y, z]
  exact ⟨gravity_within_one long inX inX', gravity_within_one long inY inY', gravity_within_one long inZ inZ'⟩

/-- A calibrator that was moved differs from one at rest by seventy-four still samples less than one unit. -/
theorem start_forgotten_resting :
    |(after {} (⟨16384, 0, 0, 0, 0, 0, 0⟩ :: List.replicate 74 ⟨0, 0, 16384, 0, 0, 0, 0⟩)).gravityX -
      (after {} (⟨0, 0, 16384, 0, 0, 0, 0⟩ :: List.replicate 74 ⟨0, 0, 16384, 0, 0, 0, 0⟩)).gravityX| < 1 := by
  have sixteen : ∀ raw ∈ [(⟨16384, 0, 0, 0, 0, 0, 0⟩ : ImuRawSample)], raw.SixteenBit := by
    unfold ImuRawSample.SixteenBit
    decide
  have sixteen' : ∀ raw ∈ [(⟨0, 0, 16384, 0, 0, 0, 0⟩ : ImuRawSample)], raw.SixteenBit := by
    unfold ImuRawSample.SixteenBit
    decide
  exact ((start_forgotten _ _ (List.replicate 74 ⟨0, 0, 16384, 0, 0, 0, 0⟩) (List.cons_ne_nil _ _)
    (List.cons_ne_nil _ _) sixteen sixteen').2.2 (by simp)).1

/-- The count of still samples does not depend on the estimates. -/
private theorem after_stableFrames {c d : ImuAutoCalibrator} (same : c.stableFrames = d.stableFrames)
    (samples : List ImuRawSample) : (c.after samples).stableFrames = (d.after samples).stableFrames := by
  induction samples generalizing c d with
  | nil => exact same
  | cons raw rest ih =>
    have counted (e : ImuAutoCalibrator) :
        (e.update raw).1.stableFrames = if raw.isStationary then wrap32 (e.stableFrames + 1) else 0 := by
      have seeded : (e.seedGravity raw).stableFrames = e.stableFrames := by
        rw [seedGravity]
        split <;> rfl
      change ((e.seedGravity raw).updateBias raw).stableFrames = _
      rw [updateBias]
      split <;> simp only [seeded]
    refine ih ?_
    rw [counted, counted, same]

/-- A run that starts with a sample is a run from the calibrator that has been seeded with it. -/
private theorem after_cons_seeded (first : ImuRawSample) (rest : List ImuRawSample) :
    after {} (first :: rest) = (seedGravity {} first).after (first :: rest) := rfl

end ImuAutoCalibrator

end GestureSuite.Host

namespace GestureSuite.Pipeline

open Gesture Host Text

variable (m : Numerics) (rate : TickRate)

/-- The value of the IMU characteristic until the board has sent its first sample. -/
def placeholder : List Char := "IMU,0,0,0,0,0,0,0,0".toList

example (c : Firmware.Controller) (surroundings : Firmware.Surroundings) :
    (c.execute surroundings .createService).imuCharacteristic = some { value := placeholder } := rfl

private theorem senseAll_autoCalibrator (c : Client) (readings : List (Readings × ImuRawSample)) :
    (c.senseAll m rate readings).1.autoCalibrator = c.autoCalibrator.after (readings.map Prod.snd) := by
  induction readings generalizing c with
  | nil => rfl
  | cons reading rest ih => exact ih (c.sense m rate reading).1

/-- The line of zeros is no still sample: it seeds gravity with zero and touches nothing else. -/
private theorem after_placeholder :
    ImuAutoCalibrator.after {} [⟨0, 0, 0, 0, 0, 0, 0⟩] = { initialized := true } := by
  have moving : ImuRawSample.isStationary ⟨0, 0, 0, 0, 0, 0, 0⟩ = false := by decide
  change ((ImuAutoCalibrator.seedGravity {} _).updateBias _).updateGravity _ = _
  simp [ImuAutoCalibrator.seedGravity, ImuAutoCalibrator.updateBias, ImuAutoCalibrator.updateGravity, moving, lerp]

/-- A client that reads the board's placeholder before the first sample differs from one that does not by what is
left of the first reading in its gravity estimate, and in nothing else of its calibrator. -/
theorem placeholder_forgotten (now : Readings) (arrivals : List (Readings × List UInt8))
    (first : Readings × ImuRawSample) (rest : List (Readings × ImuRawSample))
    (read : arrivals.filterMap readArrival = first :: rest) :
    let touched := (Client.receive m rate {} ((now, asciiBytes placeholder) :: arrivals)).1.autoCalibrator
    let fresh := (Client.receive m rate {} arrivals).1.autoCalibrator
    let left := ImuAutoCalibrator.gravityLeft ((first :: rest).map Prod.snd)
    (touched.gravityX = fresh.gravityX - first.2.ax * left ∧ touched.gravityY = fresh.gravityY - first.2.ay * left ∧
      touched.gravityZ = fresh.gravityZ - first.2.az * left) ∧
    (touched.gyroBiasX = fresh.gyroBiasX ∧ touched.gyroBiasY = fresh.gyroBiasY ∧
      touched.gyroBiasZ = fresh.gyroBiasZ) ∧
    touched.stableFrames = fresh.stableFrames := by
  intro touched fresh left
  have zeros : readArrival (now, asciiBytes placeholder) = some (now, ⟨0, 0, 0, 0, 0, 0, 0⟩) := by
    have parsed : tryParseImuRaw (bufferToUtf8OrHex (asciiBytes placeholder)) = some ⟨0, 0, 0, 0, 0, 0, 0⟩ := by decide
    rw [readArrival, parsed]
    rfl
  have freshRun : fresh = (ImuAutoCalibrator.seedGravity {} first.2).after ((first :: rest).map Prod.snd) := by
    change (Client.receive m rate {} arrivals).1.autoCalibrator = _
    rw [(Client.receive_eq_senseAll m rate {} arrivals).1, read, senseAll_autoCalibrator, List.map_cons,
      ← ImuAutoCalibrator.after_cons_seeded]
  have touchedRun : touched = ImuAutoCalibrator.after { initialized := true } ((first :: rest).map Prod.snd) := by
    change (Client.receive m rate {} _).1.autoCalibrator = _
    rw [(Client.receive_eq_senseAll m rate {} _).1, List.filterMap_cons_some zeros, read, senseAll_autoCalibrator,
      List.map_cons, ← after_placeholder]
    rfl
  obtain ⟨⟨x, y, z⟩, biasX, biasY, biasZ⟩ := ImuAutoCalibrator.after_sub (c := { initialized := true })
    (d := ImuAutoCalibrator.seedGravity {} first.2) rfl rfl ((first :: rest).map Prod.snd)
  have frames := ImuAutoCalibrator.after_stableFrames (c := { initialized := true })
    (d := ImuAutoCalibrator.seedGravity {} first.2) rfl ((first :: rest).map Prod.snd)
  rw [touchedRun, freshRun]
  have seedX : (ImuAutoCalibrator.seedGravity {} first.2).gravityX = first.2.ax := rfl
  have seedY : (ImuAutoCalibrator.seedGravity {} first.2).gravityY = first.2.ay := rfl
  have seedZ : (ImuAutoCalibrator.seedGravity {} first.2).gravityZ = first.2.az := rfl
  rw [seedX] at x
  rw [seedY] at y
  rw [seedZ] at z
  refine ⟨⟨?_, ?_, ?_⟩, ⟨?_, ?_, ?_⟩, frames⟩
  · linear_combination x
  · linear_combination y
  · linear_combination z
  · have unmoved : (ImuAutoCalibrator.seedGravity {} first.2).gyroBiasX = 0 := rfl
    linear_combination biasX - unmoved * ImuAutoCalibrator.biasLeft ((first :: rest).map Prod.snd)
  · have unmoved : (ImuAutoCalibrator.seedGravity {} first.2).gyroBiasY = 0 := rfl
    linear_combination biasY - unmoved * ImuAutoCalibrator.biasLeft ((first :: rest).map Prod.snd)
  · have unmoved : (ImuAutoCalibrator.seedGravity {} first.2).gyroBiasZ = 0 := rfl
    linear_combination biasZ - unmoved * ImuAutoCalibrator.biasLeft ((first :: rest).map Prod.snd)

/-- Behind one still sample, 86 hundredths of the reading are missing. -/
theorem placeholder_forgotten_resting :
    (Client.receive axisNumerics ⟨10000000, by decide⟩ {} [({ ticks := 1 }, asciiBytes placeholder),
        ({ ticks := 2 }, asciiBytes "IMU,540,0,0,16384,0,0,0,0".toList)]).1.autoCalibrator.gravityZ =
      (Client.receive axisNumerics ⟨10000000, by decide⟩ {}
        [({ ticks := 2 }, asciiBytes "IMU,540,0,0,16384,0,0,0,0".toList)]).1.autoCalibrator.gravityZ -
        16384 * 0.86 := by
  have read : [({ ticks := 2 }, asciiBytes "IMU,540,0,0,16384,0,0,0,0".toList)].filterMap readArrival =
      [(({ ticks := 2 } : Readings), (⟨0, 0, 16384, 0, 0, 0, 0⟩ : ImuRawSample))] := by decide
  have forgotten := (placeholder_forgotten axisNumerics ⟨10000000, by decide⟩ { ticks := 1 } _ _ _ read).1.2.2
  have left : ImuAutoCalibrator.gravityLeft [⟨0, 0, 16384, 0, 0, 0, 0⟩] = 0.86 := by
    have still : ImuRawSample.isStationary ⟨0, 0, 16384, 0, 0, 0, 0⟩ = true := by decide
    simp [ImuAutoCalibrator.gravityLeft, still]
  rw [forgotten]
  change _ - _ * ImuAutoCalibrator.gravityLeft [⟨0, 0, 16384, 0, 0, 0, 0⟩] = _
  rw [left]
  norm_num

end GestureSuite.Pipeline
