import GestureSuite.Soundness.Gesture.Movement
import GestureSuite.ToMathlib.ListForall

/-! # A calmer hand

Two buffers that differ in the gyro magnitudes only are compared frame by frame. Every statistic of
the detector moves in one direction when the magnitudes fall: percentiles, spikes and the jitter
energy fall, the share of still frames rises, and everything computed from poses and accelerations
stays. Each test points the same way, so a movement that is accepted stays accepted.
-/

namespace GestureSuite.Gesture

variable {rate : TickRate}

/-- The same frame with a gyro magnitude that is not larger. -/
structure Calmer (calm shaky : MotionFrameFeature) : Prop where
  ticks : calm.ticks = shaky.ticks
  roll : calm.roll = shaky.roll
  pitch : calm.pitch = shaky.pitch
  linearAccelMagnitude : calm.linearAccelMagnitude = shaky.linearAccelMagnitude
  nonneg : 0 ≤ calm.gyroMagnitude
  gyroMagnitude : calm.gyroMagnitude ≤ shaky.gyroMagnitude

instance (calm shaky : MotionFrameFeature) : Decidable (Calmer calm shaky) :=
  decidable_of_iff (calm.ticks = shaky.ticks ∧ calm.roll = shaky.roll ∧ calm.pitch = shaky.pitch ∧
      calm.linearAccelMagnitude = shaky.linearAccelMagnitude ∧ 0 ≤ calm.gyroMagnitude ∧
      calm.gyroMagnitude ≤ shaky.gyroMagnitude)
    ⟨fun ⟨ticks, roll, pitch, accel, nonneg, gyro⟩ => ⟨ticks, roll, pitch, accel, nonneg, gyro⟩,
      fun ⟨ticks, roll, pitch, accel, nonneg, gyro⟩ => ⟨ticks, roll, pitch, accel, nonneg, gyro⟩⟩

section Statistics

variable {calm shaky : List MotionFrameFeature} (calmer : List.Forall₂ Calmer calm shaky)
include calmer

private theorem filter_calmer (keep : ℤ → Bool) :
    List.Forall₂ Calmer (calm.filter fun frame => keep frame.ticks) (shaky.filter fun frame => keep frame.ticks) := by
  refine List.rel_filter ?_ calmer
  intro a b frames
  change keep a.ticks = true ↔ keep b.ticks = true
  rw [frames.ticks]

private theorem pushFeatureFrame_calmer {new new' : MotionFrameFeature} (current : Calmer new new') :
    List.Forall₂ Calmer (pushFeatureFrame rate calm new) (pushFeatureFrame rate shaky new') := by
  rw [pushFeatureFrame, pushFeatureFrame]
  apply List.Forall₂.dropWhile
  · exact List.rel_append calmer (.cons current .nil)
  · intro a b frames
    rw [frames.ticks, current.ticks]

private theorem average_calmer (value : MotionFrameFeature → ℚ)
    (agree : ∀ a b, Calmer a b → value a = value b) : average value calm = average value shaky := by
  rw [average, average, calmer.map_eq value value agree, calmer.length_eq]

private theorem maxOf_calmer (value : MotionFrameFeature → ℚ)
    (agree : ∀ a b, Calmer a b → value a = value b) : maxOf value calm = maxOf value shaky := by
  rw [maxOf, maxOf, calmer.map_eq value value agree]

private theorem minOf_calmer (value : MotionFrameFeature → ℚ)
    (agree : ∀ a b, Calmer a b → value a = value b) : minOf value calm = minOf value shaky := by
  rw [minOf, minOf, calmer.map_eq value value agree]

omit calmer in
private theorem percentileSorted_le {low high : List ℚ} (order : List.Forall₂ (· ≤ ·) low high) (percentile : ℚ) :
    percentileSorted low percentile ≤ percentileSorted high percentile := by
  obtain ⟨length, positions⟩ := List.forall₂_iff_get.mp order
  rw [percentileSorted, percentileSorted, length]
  split_ifs with empty
  · exact le_rfl
  · dsimp only
    generalize (max 0 (min ⌊((high.length - 1 : ℕ) : ℚ) * percentile⌋ ((high.length - 1 : ℕ) : ℤ))).toNat = i
    rw [List.getD_eq_getElem?_getD, List.getD_eq_getElem?_getD]
    by_cases inside : i < high.length
    · rw [List.getElem?_eq_getElem inside, List.getElem?_eq_getElem (by omega)]
      exact positions i (by omega) inside
    · rw [List.getElem?_eq_none (by omega), List.getElem?_eq_none (by omega)]

private theorem gyros_calmer : List.Forall₂ (· ≤ ·)
    ((calm.map (·.gyroMagnitude)).insertionSort (· ≤ ·)) ((shaky.map (·.gyroMagnitude)).insertionSort (· ≤ ·)) := by
  apply List.Forall₂.insertionSort_le
  rw [List.forall₂_map_left_iff, List.forall₂_map_right_iff]
  exact calmer.imp fun a b frames => frames.gyroMagnitude

end Statistics

/-- The scan of a calmer buffer: the same flips over the same frames, with no more energy. -/
structure CalmerScan (calm shaky : JitterScan) : Prop where
  rollFlipCount : calm.rollFlipCount = shaky.rollFlipCount
  prevSign : calm.prevSign = shaky.prevSign
  count : calm.count = shaky.count
  gyroSquaredSum : calm.gyroSquaredSum ≤ shaky.gyroSquaredSum

/-- The summary of a window that is at least as still, in the same pose and at the same time. -/
structure Steadier (calm shaky : StableWindowSummary) : Prop where
  endTicks : calm.endTicks = shaky.endTicks
  endPitch : calm.endPitch = shaky.endPitch
  endRoll : calm.endRoll = shaky.endRoll
  rollSpan : calm.rollSpan = shaky.rollSpan
  belowRatio : shaky.belowRatio ≤ calm.belowRatio
  gyroP50 : calm.gyroP50 ≤ shaky.gyroP50
  gyroP90 : calm.gyroP90 ≤ shaky.gyroP90
  highGyroSpikeCount : calm.highGyroSpikeCount ≤ shaky.highGyroSpikeCount

section Tests

variable {calm shaky : List MotionFrameFeature} (calmer : List.Forall₂ Calmer calm shaky)
include calmer

private theorem summarizeStableWindow_calmer :
    Steadier (summarizeStableWindow calm) (summarizeStableWindow shaky) where
  endTicks := by
    change (calm.getLast?.map (·.ticks)).getD 0 = (shaky.getLast?.map (·.ticks)).getD 0
    rw [← List.getLast?_map, ← List.getLast?_map, calmer.map_eq _ _ fun a b frames => frames.ticks]
  endPitch := average_calmer calmer _ fun a b frames => frames.pitch
  endRoll := average_calmer calmer _ fun a b frames => frames.roll
  rollSpan := by
    change maxOf (·.roll) calm - minOf (·.roll) calm = maxOf (·.roll) shaky - minOf (·.roll) shaky
    rw [maxOf_calmer calmer _ fun a b frames => frames.roll, minOf_calmer calmer _ fun a b frames => frames.roll]
  belowRatio := by
    simp only [summarizeStableWindow]
    rw [calmer.length_eq]
    apply div_le_div_of_nonneg_right _ (Nat.cast_nonneg _)
    have counts := calmer.flip.countP_le (fun frame => decide (frame.gyroMagnitude ≤ stableGyroP50Max))
      (fun frame => decide (frame.gyroMagnitude ≤ stableGyroP50Max)) fun a b frames below => by
        rw [decide_eq_true_eq] at below ⊢
        exact frames.gyroMagnitude.trans below
    exact_mod_cast counts
  gyroP50 := percentileSorted_le (gyros_calmer calmer) _
  gyroP90 := percentileSorted_le (gyros_calmer calmer) _
  highGyroSpikeCount := by
    apply calmer.countP_le
    intro a b frames spike
    rw [decide_eq_true_eq] at spike ⊢
    exact spike.trans frames.gyroMagnitude

private theorem tryFindStableWindowSummary_calmer {start now : ℤ} {summary : StableWindowSummary}
    (found : tryFindStableWindowSummary rate shaky start now = .ok summary) :
    ∃ steadier, tryFindStableWindowSummary rate calm start now = .ok steadier ∧ Steadier steadier summary := by
  have windows : List.Forall₂ Calmer (stableWindow rate calm start now) (stableWindow rate shaky start now) :=
    filter_calmer calmer fun ticks => now - rate.ticks stableWindowSeconds ≤ ticks && ticks ≤ now && start ≤ ticks
  have steadier := summarizeStableWindow_calmer windows
  obtain ⟨enough, rfl, stable⟩ := tryFindStableWindowSummary_ok_iff.mp found
  refine ⟨_, tryFindStableWindowSummary_ok_iff.mpr ⟨?_, rfl, ?_⟩, steadier⟩
  · rw [windows.length_eq]
    exact enough
  · constructor
    · exact stable.belowRatio.trans steadier.belowRatio
    · exact steadier.gyroP50.trans stable.gyroP50
    · exact steadier.gyroP90.trans stable.gyroP90
    · rw [steadier.rollSpan]
      exact stable.rollSpan
    · exact steadier.highGyroSpikeCount.trans stable.highGyroSpikeCount

omit calmer in
/-- A steadier window scores at least as many points on the same trajectory. -/
private theorem trajectoryScore_le {steadier stable : StableWindowSummary} (order : Steadier steadier stable)
    (summary : TrajectorySummary) : trajectoryScore stable summary ≤ trajectoryScore steadier summary := by
  have point {p q : Prop} [Decidable p] [Decidable q] (passes : p → q) :
      (if p then 1 else 0 : ℕ) ≤ if q then 1 else 0 := by
    split_ifs with holds still
    · exact le_rfl
    · exact absurd (passes holds) still
    · exact Nat.zero_le 1
    · exact le_rfl
  rw [trajectoryScore, trajectoryScore]
  apply Nat.add_le_add
  · apply Nat.add_le_add
    · apply Nat.add_le_add_left
      exact point fun strong => strong.trans order.belowRatio
    · exact point fun low => order.gyroP90.trans low
  · exact point fun few => order.highGyroSpikeCount.trans few

private theorem tryBuildTrajectorySummary_calmer {start : ℤ} {steadier stable : StableWindowSummary}
    {summary : TrajectorySummary} (order : Steadier steadier stable)
    (built : tryBuildTrajectorySummary rate shaky start stable = .ok summary) :
    tryBuildTrajectorySummary rate calm start steadier = .ok summary := by
  have segments : List.Forall₂ Calmer (trajectorySegment calm start stable.endTicks)
      (trajectorySegment shaky start stable.endTicks) :=
    filter_calmer calmer fun ticks => start ≤ ticks && ticks ≤ stable.endTicks
  have features : summarizeTrajectory rate (trajectorySegment calm start stable.endTicks) start steadier =
      summarizeTrajectory rate (trajectorySegment shaky start stable.endTicks) start stable := by
    rw [summarizeTrajectory, summarizeTrajectory]
    rw [order.endTicks, order.endPitch, order.endRoll]
    rw [maxOf_calmer segments _ fun a b frames => frames.pitch,
      minOf_calmer segments _ fun a b frames => frames.pitch,
      maxOf_calmer segments _ fun a b frames => frames.linearAccelMagnitude,
      average_calmer segments _ fun a b frames => by rw [frames.linearAccelMagnitude]]
  obtain ⟨started, enough, rfl, raise⟩ := tryBuildTrajectorySummary_ok_iff.mp built
  apply tryBuildTrajectorySummary_ok_iff.mpr
  rw [order.endTicks, features, segments.length_eq]
  exact ⟨started, enough, rfl, raise.longEnough, raise.shortEnough, raise.accelMin, raise.accelMax,
    raise.score.trans (trajectoryScore_le order _)⟩

omit calmer in
private theorem add_calmer (minTicks : ℤ) {scan scan' : JitterScan} (before : CalmerScan scan scan')
    {a b : MotionFrameFeature} (frames : Calmer a b) : CalmerScan (scan.add minTicks a) (scan'.add minTicks b) := by
  obtain ⟨flips, sign, count, energy⟩ := before
  have squares : a.gyroMagnitude * a.gyroMagnitude ≤ b.gyroMagnitude * b.gyroMagnitude :=
    mul_self_le_mul_self frames.nonneg frames.gyroMagnitude
  rw [JitterScan.add, JitterScan.add, frames.ticks, frames.roll, flips, sign, count]
  dsimp only
  split_ifs
  · exact ⟨flips, sign, count, energy⟩
  · exact ⟨rfl, rfl, rfl, add_le_add energy squares⟩
  · exact ⟨rfl, rfl, rfl, add_le_add energy squares⟩
  · exact ⟨rfl, rfl, rfl, add_le_add energy squares⟩

private theorem scan_calmer (minTicks : ℤ) :
    CalmerScan (calm.foldl (JitterScan.add minTicks) {}) (shaky.foldl (JitterScan.add minTicks) {}) :=
  List.rel_foldl (R := Calmer) (P := CalmerScan) (fun _ _ before _ _ frames => add_calmer minTicks before frames)
    ⟨rfl, rfl, rfl, le_rfl⟩ calmer

private theorem analyzeRecentJitter_calmer (rate : TickRate) (now : ℤ) :
    (analyzeRecentJitter rate calm now).1 = (analyzeRecentJitter rate shaky now).1 ∧
      (analyzeRecentJitter rate calm now).2 ≤ (analyzeRecentJitter rate shaky now).2 := by
  obtain ⟨flips, -, count, energy⟩ := scan_calmer calmer (now - rate.ticks jitterWindowSeconds)
  rw [analyzeRecentJitter, analyzeRecentJitter]
  dsimp only
  rw [flips, count]
  refine ⟨rfl, ?_⟩
  split_ifs
  · exact div_le_div_of_nonneg_right energy (Nat.cast_nonneg _)
  · exact le_rfl

private theorem jitterAcceptable_calmer {now : ℤ}
    (steady : jitterAcceptable (analyzeRecentJitter rate shaky now) = true) :
    jitterAcceptable (analyzeRecentJitter rate calm now) = true := by
  obtain ⟨flips, rms⟩ := analyzeRecentJitter_calmer calmer rate now
  rw [jitterAcceptable, Bool.and_eq_true, decide_eq_true_eq, decide_eq_true_eq] at steady ⊢
  rw [flips]
  exact ⟨steady.1, rms.trans steady.2⟩

end Tests

/-- A frame that takes a detector from `Moving` to `Holding` does so on every calmer buffer as well. -/
theorem calmer_settles (rate : TickRate) (calm shaky : Detector) (calmFrame shakyFrame : Frame)
    (calmMoving : calm.gestureState = .moving) (shakyMoving : shaky.gestureState = .moving)
    (start : calm.movingStartTicks = shaky.movingStartTicks)
    (calmer : List.Forall₂ Calmer calm.recentFeatures shaky.recentFeatures)
    (current : Calmer calmFrame.feature shakyFrame.feature)
    (calmPrepared : calm.movingPrepared rate calmFrame = true)
    (settles : (shaky.next rate shakyFrame).gestureState = .holding) :
    (calm.next rate calmFrame).gestureState = .holding := by
  have ticks : calmFrame.ticks = shakyFrame.ticks := current.ticks
  have queues : List.Forall₂ Calmer (calm.queueAt rate calmFrame) (shaky.queueAt rate shakyFrame) :=
    pushFeatureFrame_calmer calmer current
  obtain ⟨-, stable, summary, window, steady, built⟩ := (Detector.next_holding_iff rate _ _ shakyMoving).mp settles
  obtain ⟨steadier, window', order⟩ := tryFindStableWindowSummary_calmer queues window
  rw [← start] at window' built
  rw [← ticks] at window' steady
  apply (Detector.next_holding_iff rate _ _ calmMoving).mpr
  exact ⟨⟨calmPrepared, steadier, window'⟩, steadier, summary, window', jitterAcceptable_calmer queues steady,
    tryBuildTrajectorySummary_calmer queues order built⟩

theorem calmer_settles_sampleGesture :
    (((detectorAt sampleRate (raiseAt [(1060, 1000), (1090, 950), (1120, 950), (1150, 400), (1180, 400), (1210, 400),
      (1240, 400)]) 10).next sampleRate (raisedFrame 1270 0))).gestureState = .holding := by
  refine calmer_settles sampleRate _ (detectorAt sampleRate (sampleGesture 1000) 10) _ (raisedFrame 1270 500)
    ?_ ?_ ?_ ?_ ?_ ?_ ?_
  · decide +kernel
  · decide +kernel
  · decide +kernel
  · decide +kernel
  · decide +kernel
  · decide +kernel
  · decide +kernel

end GestureSuite.Gesture
