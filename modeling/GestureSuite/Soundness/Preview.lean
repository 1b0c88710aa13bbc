import GestureSuite.Machine.Throttle
import GestureSuite.Model.Preview

/-! # The preview over whole runs

The page gets poses that are never out of range and never too close in time, and no stretch of frames goes by
without one. The integrated velocity is bounded by the acceleration, and once the acceleration stays inside the
dead band both velocity and position die out: the sum of the position and a multiple of the velocity shrinks with
every integrated frame.
-/

namespace GestureSuite.Live

open Gesture Host Machine

/-- The frames that meet a loaded page. -/
def loaded (frames : List PreviewFrame) : List PreviewFrame := frames.filter (·.pageLoaded)

private theorem after_posts_ticks (rate : TickRate) (frames : List PreviewFrame) (p : Preview) :
    (p.after rate frames).posts.map (·.ticks) =
      p.posts.map (·.ticks) ++ throttled (due rate posePublishIntervalSeconds) p.lastPosePublishTicks
        ((loaded frames).map (·.publishTicks)) := by
  induction frames generalizing p with
  | nil => simp [Preview.after, loaded, throttled]
  | cons frame rest ih =>
    have later := ih (p.next rate frame)
    change ((p.next rate frame).after rate rest).posts.map (·.ticks) = _
    rw [later]
    cases page : frame.pageLoaded with
    | false =>
      have skipped : p.next rate frame =
          { p with motion := updateMotionPosition rate p.motion frame.motionTicks frame.calibrated } := by
        rw [Preview.next, page]
        rfl
      rw [skipped, loaded, loaded, List.filter_cons_of_neg (by simp [page])]
    | true =>
      rw [loaded, loaded, List.filter_cons_of_pos (by simp [page]), List.map_cons, throttled]
      by_cases passes : due rate posePublishIntervalSeconds p.lastPosePublishTicks frame.publishTicks = true
      · simp [Preview.next, page, shouldPublishPoseToWeb, passes]
      · simp [Preview.next, page, shouldPublishPoseToWeb, passes]

private theorem after_telemetry (rate : TickRate) (frames : List PreviewFrame) (p : Preview) :
    (p.after rate frames).telemetry =
      p.telemetry ++ throttled (due rate telemetryIntervalSeconds) p.lastTelemetryLogTicks
        ((loaded frames).map (·.telemetryTicks)) := by
  induction frames generalizing p with
  | nil => simp [Preview.after, loaded, throttled]
  | cons frame rest ih =>
    have later := ih (p.next rate frame)
    change ((p.next rate frame).after rate rest).telemetry = _
    rw [later]
    cases page : frame.pageLoaded with
    | false =>
      have skipped : p.next rate frame =
          { p with motion := updateMotionPosition rate p.motion frame.motionTicks frame.calibrated } := by
        rw [Preview.next, page]
        rfl
      rw [skipped, loaded, loaded, List.filter_cons_of_neg (by simp [page])]
    | true =>
      rw [loaded, loaded, List.filter_cons_of_pos (by simp [page]), List.map_cons, throttled]
      by_cases passes : due rate telemetryIntervalSeconds p.lastTelemetryLogTicks frame.telemetryTicks = true
      · simp [Preview.next, page, maybeLogTelemetry, passes]
      · simp [Preview.next, page, maybeLogTelemetry, passes]

/-- What `due` says about two readings behind the start of the clock. -/
private theorem due_iff {rate : TickRate} {interval : ℚ} {last now : ℤ} (started : last ≠ 0) :
    due rate interval last now = true ↔ interval ≤ rate.elapsedSeconds last now := by
  simp [due, started]

private theorem not_due {rate : TickRate} {interval : ℚ} {last now : ℤ} (early : due rate interval last now = false) :
    last ≠ 0 ∧ rate.elapsedSeconds last now < interval := by
  simpa [due] using early

/-- The readings a throttle lets through lie its interval apart, and every other reading lies less than the interval
behind one of them. A reading of zero counts as none. -/
def Paced (rate : TickRate) (interval : ℚ) (readings passed : List ℤ) : Prop :=
  passed.Sublist readings ∧ passed.IsChain (fun a b => a = 0 ∨ interval ≤ rate.elapsedSeconds a b) ∧
    ∀ now ∈ readings, now ∈ passed ∨ ∃ earlier ∈ passed, earlier ≤ now ∧ rate.elapsedSeconds earlier now < interval

private theorem throttled_paced (rate : TickRate) (interval : ℚ) {readings : List ℤ}
    (ordered : readings.Pairwise (· ≤ ·)) (nonneg : ∀ now ∈ readings, 0 ≤ now) :
    Paced rate interval readings (throttled (due rate interval) 0 readings) := by
  refine ⟨throttled_sublist _ _ _, ?_, ?_⟩
  · have chain := (throttled_isChain (due rate interval) 0 readings).tail
    refine chain.imp fun a b passes => ?_
    by_cases started : a = 0
    · exact .inl started
    · exact .inr ((due_iff started).mp passes)
  · intro now member
    rcases throttled_covers (List.pairwise_cons.mpr ⟨nonneg, ordered⟩) member with
      through | ⟨earlier, among, order, early⟩
    · exact .inl through
    · obtain ⟨started, close⟩ := not_due early
      exact .inr ⟨earlier, (List.mem_cons.mp among).resolve_left started, order, close⟩

private theorem clamp_mem {value low high : ℚ} (order : low ≤ high) : clamp value low high ∈ Set.Icc low high :=
  ⟨le_max_left _ _, max_le order (min_le_right _ _)⟩

private theorem abs_clamp_le {value bound : ℚ} (nonneg : 0 ≤ bound) : |clamp value (-bound) bound| ≤ |value| := by
  rw [clamp]
  rcases le_total value bound with below | above
  · rw [min_eq_left below]
    rcases le_total (-bound) value with inside | under
    · rw [max_eq_right inside]
    · rw [max_eq_left under, abs_neg, abs_of_nonneg nonneg, abs_of_nonpos (by linarith)]
      linarith
  · rw [min_eq_right above, max_eq_right (by linarith), abs_of_nonneg nonneg]
    exact above.trans (le_abs_self value)

/-- Every axis of a position is inside the box. -/
def Motion.InBox (motion : Motion) : Prop :=
  |motion.x.position| ≤ maxPos ∧ |motion.y.position| ≤ maxPos ∧ |motion.z.position| ≤ maxPos

private theorem Axis.move_position_le (axis : Axis) (dt linear : ℚ) (isStationary : Bool) :
    |(axis.move dt linear isStationary).position| ≤ maxPos := by
  have box (value : ℚ) : |clamp value (-maxPos) maxPos| ≤ maxPos :=
    abs_le.mpr (clamp_mem (by norm_num [maxPos]))
  rw [Axis.move]
  split
  · dsimp only
    rw [abs_mul, abs_of_nonneg (show (0 : ℚ) ≤ 0.985 by norm_num)]
    have inside := box ((axis.position + (axis.velocity + acceleration linear * dt) * 0.94 * dt) * 0.998)
    have nonneg : 0 ≤ maxPos := by norm_num [maxPos]
    nlinarith
  · exact box _

private theorem updateMotionPosition_inBox (rate : TickRate) {motion : Motion} (inBox : motion.InBox) (nowTicks : ℤ)
    (calibrated : ImuCalibratedSample) : (updateMotionPosition rate motion nowTicks calibrated).InBox := by
  rw [updateMotionPosition]
  split
  · exact inBox
  · exact ⟨Axis.move_position_le .., Axis.move_position_le .., Axis.move_position_le ..⟩

private theorem after_inBox (rate : TickRate) (frames : List PreviewFrame) (p : Preview) (inBox : p.motion.InBox)
    (posted : ∀ post ∈ p.posts, |post.tx| ≤ maxPos ∧ |post.ty| ≤ maxPos ∧ |post.tz| ≤ maxPos) :
    ∀ post ∈ (p.after rate frames).posts, |post.tx| ≤ maxPos ∧ |post.ty| ≤ maxPos ∧ |post.tz| ≤ maxPos := by
  induction frames generalizing p with
  | nil => exact posted
  | cons frame rest ih =>
    have moved := updateMotionPosition_inBox rate inBox frame.motionTicks frame.calibrated
    have motion : (p.next rate frame).motion =
        updateMotionPosition rate p.motion frame.motionTicks frame.calibrated := by
      rw [Preview.next]
      split <;> rfl
    refine ih (p.next rate frame) (motion ▸ moved) ?_
    intro post member
    have cases : post ∈ p.posts ∨ post = ⟨frame.publishTicks, frame.pose, (p.next rate frame).motion.x.position,
        (p.next rate frame).motion.y.position, (p.next rate frame).motion.z.position⟩ := by
      rw [motion]
      rw [Preview.next] at member
      split at member
      · exact .inl member
      · dsimp only at member
        split at member
        · rcases List.mem_append.mp member with earlier | new
          · exact .inl earlier
          · exact .inr (List.mem_singleton.mp new)
        · exact .inl member
    rcases cases with earlier | rfl
    · exact posted post earlier
    · rw [motion]
      exact moved

/-- Every posted position lies in the box. -/
theorem posts_inBox (rate : TickRate) (frames : List PreviewFrame) :
    ∀ post ∈ (Preview.after rate {} frames).posts, |post.tx| ≤ maxPos ∧ |post.ty| ≤ maxPos ∧ |post.tz| ≤ maxPos := by
  have zero : Motion.InBox {} := by
    have inside : |(0 : ℚ)| ≤ maxPos := by norm_num [maxPos]
    exact ⟨inside, inside, inside⟩
  exact after_inBox rate frames {} zero (by simp)

/-- The readings of the clock over a run, in the order in which they are made. -/
def readings (frames : List PreviewFrame) : List ℤ :=
  frames.flatMap fun frame => [frame.motionTicks, frame.publishTicks, frame.telemetryTicks]

private theorem loaded_sublist_readings (frames : List PreviewFrame) :
    ((loaded frames).map (·.publishTicks)).Sublist (readings frames) ∧
      ((loaded frames).map (·.telemetryTicks)).Sublist (readings frames) := by
  induction frames with
  | nil => exact ⟨List.Sublist.refl _, List.Sublist.refl _⟩
  | cons frame rest ih =>
    obtain ⟨publish, telemetry⟩ := ih
    have whole : readings (frame :: rest) =
        frame.motionTicks :: frame.publishTicks :: frame.telemetryTicks :: readings rest := rfl
    rw [whole]
    cases page : frame.pageLoaded with
    | false =>
      rw [loaded, List.filter_cons_of_neg (by simp [page])]
      exact ⟨((publish.cons _).cons _).cons _, ((telemetry.cons _).cons _).cons _⟩
    | true =>
      rw [loaded, List.filter_cons_of_pos (by simp [page])]
      exact ⟨((publish.cons _).cons_cons _).cons _, ((telemetry.cons_cons _).cons _).cons _⟩

/-- On a clock that does not run backwards, the poses that reach the page are at least a thirtieth of a second apart,
no frame is left without a pose for longer than that, the telemetry keeps a second in the same way, and every
posted position lies in the box. -/
theorem preview_paced (rate : TickRate) (frames : List PreviewFrame)
    (ordered : (readings frames).Pairwise (· ≤ ·)) (nonneg : ∀ now ∈ readings frames, 0 ≤ now) :
    Paced rate (1 / 30) ((loaded frames).map (·.publishTicks)) ((Preview.after rate {} frames).posts.map (·.ticks)) ∧
      Paced rate 1 ((loaded frames).map (·.telemetryTicks)) (Preview.after rate {} frames).telemetry ∧
      ∀ post ∈ (Preview.after rate {} frames).posts, |post.tx| ≤ 1.5 ∧ |post.ty| ≤ 1.5 ∧ |post.tz| ≤ 1.5 := by
  obtain ⟨publish, telemetry⟩ := loaded_sublist_readings frames
  refine ⟨?_, ?_, ?_⟩
  · rw [after_posts_ticks]
    exact throttled_paced rate _ (ordered.sublist publish) fun now member => nonneg now (publish.subset member)
  · rw [after_telemetry]
    exact throttled_paced rate _ (ordered.sublist telemetry) fun now member => nonneg now (telemetry.subset member)
  · exact posts_inBox rate frames

/-- A frame on a loaded page with all three readings at one time. -/
private def restingFrame (ticks : ℤ) : PreviewFrame where
  calibrated := ⟨0, 0, 16384, 0, 0, 0, 0, 0, 0, true, true⟩
  pose := { roll := 0, pitch := 0 }
  motionTicks := ticks
  publishTicks := ticks
  telemetryTicks := ticks

/-- Frames twenty milliseconds apart: every second one is posted. -/
theorem preview_paced_resting :
    Paced ⟨1000, by decide⟩ (1 / 30) [20, 40, 60]
      ((Preview.after ⟨1000, by decide⟩ {} [restingFrame 20, restingFrame 40, restingFrame 60]).posts.map (·.ticks)) :=
  (preview_paced ⟨1000, by decide⟩ [restingFrame 20, restingFrame 40, restingFrame 60] (by decide) (by decide)).1

/-- The motion behind a list of frames, each with its reading of the clock. -/
def Motion.after (rate : TickRate) (motion : Motion) (frames : List (ℤ × ImuCalibratedSample)) : Motion :=
  frames.foldl (fun motion frame => updateMotionPosition rate motion frame.1 frame.2) motion

/-- How many of the frames are integrated. -/
def integrated (rate : TickRate) (motion : Motion) : List (ℤ × ImuCalibratedSample) → ℕ
  | [] => 0
  | frame :: rest =>
    (if (motion.step? rate frame.1).isSome then 1 else 0) +
      integrated rate (updateMotionPosition rate motion frame.1 frame.2) rest

private theorem step?_bounds {rate : TickRate} {motion : Motion} {nowTicks : ℤ} {dt : ℚ}
    (step : motion.step? rate nowTicks = some dt) : 0 < dt ∧ dt ≤ 0.2 := by
  dsimp only [Motion.step?] at step
  split_ifs at step with fresh out
  obtain rfl := Option.some.inj step
  rw [not_or, not_le, not_lt] at out
  exact out

/-- What remains of a velocity, and how far it carries. -/
private theorem Axis.move_bounds (axis : Axis) {dt linear bound : ℚ} (positive : 0 < dt) (short : dt ≤ 0.2)
    (isStationary : Bool) (small : |acceleration linear| ≤ bound) :
    |(axis.move dt linear isStationary).velocity| ≤ (|axis.velocity| + bound * 0.2) * 0.94 ∧
      |(axis.move dt linear isStationary).position| ≤
        (|axis.position| + (|axis.velocity| + bound * 0.2) * 0.94 * 0.2) * 0.998 := by
  have nonneg : 0 ≤ bound := (abs_nonneg _).trans small
  have pushed : |acceleration linear * dt| ≤ bound * 0.2 := by
    rw [abs_mul, abs_of_pos positive]
    exact mul_le_mul small short positive.le nonneg
  have velocity : |(axis.velocity + acceleration linear * dt) * 0.94| ≤ (|axis.velocity| + bound * 0.2) * 0.94 := by
    rw [abs_mul, abs_of_nonneg (show (0 : ℚ) ≤ 0.94 by norm_num)]
    have sum := (abs_add_le axis.velocity (acceleration linear * dt)).trans (add_le_add_right pushed _)
    exact mul_le_mul_of_nonneg_right sum (by norm_num)
  simp only [Axis.move]
  generalize (axis.velocity + acceleration linear * dt) * 0.94 = v at velocity
  have carried : |v * dt| ≤ (|axis.velocity| + bound * 0.2) * 0.94 * 0.2 := by
    rw [abs_mul, abs_of_pos positive]
    exact mul_le_mul velocity short positive.le (by positivity)
  have position : |clamp ((axis.position + v * dt) * 0.998) (-maxPos) maxPos| ≤
      (|axis.position| + (|axis.velocity| + bound * 0.2) * 0.94 * 0.2) * 0.998 := by
    refine (abs_clamp_le (by norm_num [maxPos])).trans ?_
    rw [abs_mul, abs_of_nonneg (show (0 : ℚ) ≤ 0.998 by norm_num)]
    have sum := (abs_add_le axis.position (v * dt)).trans (add_le_add_right carried _)
    exact mul_le_mul_of_nonneg_right sum (by norm_num)
  generalize clamp ((axis.position + v * dt) * 0.998) (-maxPos) maxPos = p at position
  cases isStationary with
  | false => exact ⟨velocity, position⟩
  | true =>
    have damped (value factor : ℚ) (low : 0 ≤ factor) (high : factor ≤ 1) : |value * factor| ≤ |value| := by
      rw [abs_mul, abs_of_nonneg low]
      exact mul_le_of_le_one_right (abs_nonneg value) high
    exact ⟨(damped v 0.25 (by norm_num) (by norm_num)).trans velocity,
      (damped p 0.985 (by norm_num) (by norm_num)).trans position⟩

/-- The largest velocity that a bounded acceleration can build up. -/
def Axis.Slower (axis : Axis) (bound : ℚ) : Prop := |axis.velocity| ≤ 47 / 15 * bound

/-- The accelerations of a frame on the three axes of the viewer. -/
def accelerations (calibrated : ImuCalibratedSample) : List ℚ :=
  [acceleration (-calibrated.linearY), acceleration (-calibrated.linearX), acceleration calibrated.linearZ]

private theorem Axis.Slower.move {axis : Axis} {dt linear bound : ℚ} (slower : axis.Slower bound) (positive : 0 < dt)
    (short : dt ≤ 0.2) (isStationary : Bool) (small : |acceleration linear| ≤ bound) :
    (axis.move dt linear isStationary).Slower bound := by
  have velocity := (axis.move_bounds positive short isStationary small).1
  unfold Axis.Slower at slower ⊢
  linarith

private theorem after_slower (rate : TickRate) {bound : ℚ} (frames : List (ℤ × ImuCalibratedSample)) (motion : Motion)
    (slower : motion.x.Slower bound ∧ motion.y.Slower bound ∧ motion.z.Slower bound)
    (small : ∀ frame ∈ frames, ∀ a ∈ accelerations frame.2, |a| ≤ bound) :
    (motion.after rate frames).x.Slower bound ∧ (motion.after rate frames).y.Slower bound ∧
      (motion.after rate frames).z.Slower bound := by
  induction frames generalizing motion with
  | nil => exact slower
  | cons frame rest ih =>
    have here := small frame List.mem_cons_self
    simp only [accelerations, List.mem_cons, List.not_mem_nil, or_false, forall_eq_or_imp, forall_eq] at here
    refine ih (updateMotionPosition rate motion frame.1 frame.2) ?_ fun other member =>
      small other (List.mem_cons_of_mem _ member)
    rw [updateMotionPosition]
    split
    · exact slower
    · next dt step =>
      obtain ⟨positive, short⟩ := step?_bounds step
      exact ⟨slower.1.move positive short _ here.1, slower.2.1.move positive short _ here.2.1,
        slower.2.2.move positive short _ here.2.2⟩

/-- Behind some integrated frames without acceleration. -/
def Axis.Settles (before after : Axis) (count : ℕ) : Prop :=
  |after.velocity| ≤ 0.94 ^ count * |before.velocity| ∧
    |after.position| + 3.25 * |after.velocity| ≤ 0.998 ^ count * (|before.position| + 3.25 * |before.velocity|)

private theorem Axis.settles_move (axis : Axis) {dt linear : ℚ} (positive : 0 < dt) (short : dt ≤ 0.2)
    (isStationary : Bool) (quiet : acceleration linear = 0) : axis.Settles (axis.move dt linear isStationary) 1 := by
  have small : |acceleration linear| ≤ 0 := by rw [quiet, abs_zero]
  obtain ⟨velocity, position⟩ := axis.move_bounds positive short isStationary small
  have nonneg := abs_nonneg axis.velocity
  constructor
  · linarith
  · linarith

private theorem Axis.Settles.trans {a b c : Axis} {m n : ℕ} (first : a.Settles b m) (second : b.Settles c n) :
    a.Settles c (m + n) := by
  constructor
  · calc |c.velocity| ≤ 0.94 ^ n * |b.velocity| := second.1
      _ ≤ 0.94 ^ n * (0.94 ^ m * |a.velocity|) := mul_le_mul_of_nonneg_left first.1 (by positivity)
      _ = 0.94 ^ (m + n) * |a.velocity| := by ring
  · calc |c.position| + 3.25 * |c.velocity| ≤ 0.998 ^ n * (|b.position| + 3.25 * |b.velocity|) := second.2
      _ ≤ 0.998 ^ n * (0.998 ^ m * (|a.position| + 3.25 * |a.velocity|)) :=
        mul_le_mul_of_nonneg_left first.2 (by positivity)
      _ = 0.998 ^ (m + n) * (|a.position| + 3.25 * |a.velocity|) := by ring

private theorem Axis.settles_refl (axis : Axis) : axis.Settles axis 0 := by simp [Axis.Settles]

private theorem after_settles (rate : TickRate) (frames : List (ℤ × ImuCalibratedSample)) (motion : Motion)
    (quiet : ∀ frame ∈ frames, ∀ a ∈ accelerations frame.2, a = 0) :
    motion.x.Settles (motion.after rate frames).x (integrated rate motion frames) ∧
      motion.y.Settles (motion.after rate frames).y (integrated rate motion frames) ∧
      motion.z.Settles (motion.after rate frames).z (integrated rate motion frames) := by
  induction frames generalizing motion with
  | nil => exact ⟨motion.x.settles_refl, motion.y.settles_refl, motion.z.settles_refl⟩
  | cons frame rest ih =>
    have here := quiet frame List.mem_cons_self
    simp only [accelerations, List.mem_cons, List.not_mem_nil, or_false, forall_eq_or_imp, forall_eq] at here
    have later := ih (updateMotionPosition rate motion frame.1 frame.2) fun other member =>
      quiet other (List.mem_cons_of_mem _ member)
    rw [integrated]
    change motion.x.Settles ((updateMotionPosition rate motion frame.1 frame.2).after rate rest).x _ ∧
      motion.y.Settles ((updateMotionPosition rate motion frame.1 frame.2).after rate rest).y _ ∧
      motion.z.Settles ((updateMotionPosition rate motion frame.1 frame.2).after rate rest).z _
    cases step : motion.step? rate frame.1 with
    | none =>
      have skipped : updateMotionPosition rate motion frame.1 frame.2 = { motion with lastImuTicks := frame.1 } := by
        rw [updateMotionPosition, step]
      rw [skipped] at later ⊢
      simpa using later
    | some dt =>
      obtain ⟨positive, short⟩ := step?_bounds step
      have moved : updateMotionPosition rate motion frame.1 frame.2 =
          { x := motion.x.move dt (-frame.2.linearY) frame.2.isStationary
            y := motion.y.move dt (-frame.2.linearX) frame.2.isStationary
            z := motion.z.move dt frame.2.linearZ frame.2.isStationary
            lastImuTicks := frame.1 } := by
        rw [updateMotionPosition, step]
        rfl
      rw [moved] at later ⊢
      exact ⟨(motion.x.settles_move positive short _ here.1).trans later.1,
        (motion.y.settles_move positive short _ here.2.1).trans later.2.1,
        (motion.z.settles_move positive short _ here.2.2).trans later.2.2⟩

/-- Over every run the velocity stays within a multiple of the largest acceleration. Once the acceleration stays
inside the dead band, each integrated frame takes six hundredths of the velocity, and position and velocity
together shrink to nothing, so that no drift is left when a gesture has ended. -/
theorem motion_settles (rate : TickRate) (moving quiet : List (ℤ × ImuCalibratedSample)) (bound : ℚ)
    (nonneg : 0 ≤ bound) (small : ∀ frame ∈ moving, ∀ a ∈ accelerations frame.2, |a| ≤ bound)
    (band : ∀ frame ∈ quiet, ∀ linear ∈ [frame.2.linearX, frame.2.linearY, frame.2.linearZ],
      |linear| / 16384 * 9.80665 < 0.18) :
    let ended := Motion.after rate {} moving
    let rested := ended.after rate quiet
    let count := integrated rate ended quiet
    (ended.x.Slower bound ∧ ended.y.Slower bound ∧ ended.z.Slower bound) ∧
      ended.x.Settles rested.x count ∧ ended.y.Settles rested.y count ∧ ended.z.Settles rested.z count := by
  intro ended rested count
  have dead {linear : ℚ} (inside : |linear| / 16384 * 9.80665 < 0.18) : acceleration linear = 0 := by
    have size : |linear / countsPerG * gravity| = |linear| / 16384 * 9.80665 := by
      rw [abs_mul, abs_div, countsPerG, gravity]
      norm_num
    rw [acceleration, applyDeadband, if_pos (by rw [size]; exact inside)]
  constructor
  · have start : Axis.Slower {} bound := by
      rw [Axis.Slower, abs_zero]
      positivity
    exact after_slower rate moving {} ⟨start, start, start⟩ small
  · apply after_settles rate quiet ended
    intro frame member a among
    have inside := band frame member
    simp only [List.mem_cons, List.not_mem_nil, or_false, forall_eq_or_imp, forall_eq] at inside
    simp only [accelerations, List.mem_cons, List.not_mem_nil, or_false] at among
    rcases among with rfl | rfl | rfl
    · exact dead (by rw [abs_neg]; exact inside.2.1)
    · exact dead (by rw [abs_neg]; exact inside.1)
    · exact dead inside.2.2

private theorem updateMotionPosition_lastImuTicks (rate : TickRate) (motion : Motion) (nowTicks : ℤ)
    (calibrated : ImuCalibratedSample) :
    (updateMotionPosition rate motion nowTicks calibrated).lastImuTicks = nowTicks := by
  rw [updateMotionPosition]
  split <;> rfl

/-- A push along the first axis of the sensor, of half the standard gravity. -/
private def pushed : ImuCalibratedSample := ⟨0, 0, 16384, 8192, 0, 0, 0, 0, 0, false, true⟩

private def rested : ImuCalibratedSample := ⟨0, 0, 16384, 0, 0, 0, 0, 0, 0, true, true⟩

/-- Two frames of a push and two of rest. -/
theorem motion_settles_pushed :
    (Motion.after ⟨1000, by decide⟩ {} [(20, pushed), (40, pushed)]).y.Slower 5 ∧
      (Motion.after ⟨1000, by decide⟩ {} [(20, pushed), (40, pushed)]).y.Settles
        ((Motion.after ⟨1000, by decide⟩ {} [(20, pushed), (40, pushed)]).after ⟨1000, by decide⟩
          [(60, rested), (80, rested)]).y 2 := by
  have band : ∀ frame ∈ [((60 : ℤ), rested), (80, rested)],
      ∀ linear ∈ [frame.2.linearX, frame.2.linearY, frame.2.linearZ], |linear| / 16384 * 9.80665 < 0.18 := by
    norm_num [rested]
  have small : ∀ frame ∈ [((20 : ℤ), pushed), (40, pushed)], ∀ a ∈ accelerations frame.2, |a| ≤ 5 := by
    norm_num [pushed, accelerations, acceleration, applyDeadband, countsPerG, gravity, abs_lt, abs_le]
  have settled := motion_settles ⟨1000, by decide⟩ [(20, pushed), (40, pushed)] [(60, rested), (80, rested)] 5
    (by norm_num) small band
  refine ⟨settled.1.2.1, ?_⟩
  have count : integrated ⟨1000, by decide⟩ (Motion.after ⟨1000, by decide⟩ {} [(20, pushed), (40, pushed)])
      [(60, rested), (80, rested)] = 2 := by
    norm_num [integrated, Motion.after, Motion.step?, updateMotionPosition_lastImuTicks, TickRate.elapsedSeconds]
  rw [← count]
  exact settled.2.2.1

end GestureSuite.Live
