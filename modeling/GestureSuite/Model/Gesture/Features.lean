import Mathlib.Data.Rat.Floor
import Mathlib.Analysis.Real.Sqrt
import Mathlib.Data.List.Sort
import Mathlib.Tactic

/-! # Motion features and window tests of the gesture detector

Every IMU frame becomes one `MotionFrameFeature` in a bounded queue, and each test of the detector
looks at the frames of that queue in a time window. Ticks are integers and all other quantities are
rationals, so a `double` is one of the values and arithmetic is exact. A root mean square occurs
only in comparisons with a constant; the model keeps its square and compares squares.
-/

namespace GestureSuite.Gesture

/-- `Stopwatch.Frequency`: how many ticks of the gesture clock make a second. -/
structure TickRate where
  frequency : ℕ
  positive : 0 < frequency

/-- `(long)(seconds * Stopwatch.Frequency)` for a non-negative constant. -/
def TickRate.ticks (rate : TickRate) (seconds : ℚ) : ℤ := ⌊seconds * rate.frequency⌋

/-- `(now - start) / (double)Stopwatch.Frequency`. -/
def TickRate.elapsedSeconds (rate : TickRate) (start now : ℤ) : ℚ :=
  ((now - start : ℤ) : ℚ) / rate.frequency

def moveStartGyroThreshold : ℚ := 650
def stillGyroThreshold : ℚ := 700
def holdBreakGyroThreshold : ℚ := 2300
def stopPosePitchMin : ℚ := 14
def stopPosePitchMax : ℚ := 42
def stopPoseRollMin : ℚ := -186
def stopPoseRollMax : ℚ := -120
def stopPoseRollCenter : ℚ := (stopPoseRollMin + stopPoseRollMax) / 2
def trajectoryPeakPitchMin : ℚ := 16
def trajectoryPitchSpanMin : ℚ := 2
def trajectoryAccelRmsMin : ℚ := 30
def trajectoryAccelRmsMax : ℚ := 9000
def trajectoryMinSeconds : ℚ := 0.12
def trajectoryMaxSeconds : ℚ := 4.80
def stableWindowSeconds : ℚ := 0.24
def stableWindowMinFrames : ℕ := 5
def writingPrecheckSeconds : ℚ := 0.16
def writingPrecheckMinFrames : ℕ := 3
def writingPosePitchMin : ℚ := -20
def writingPosePitchMax : ℚ := 20
def writingPoseRollMin : ℚ := -40
def writingPoseRollMax : ℚ := 40
def stableBelowRatioMin : ℚ := 0.58
def stableBelowRatioStrong : ℚ := 0.75
def stableGyroP50Max : ℚ := 900
def stableGyroP90Max : ℚ := 1600
def stableRollSpanMax : ℚ := 24
def stableHighGyroSpikeThreshold : ℚ := 1800
def stableHighGyroSpikeMax : ℕ := 6
def trajectoryScoreMin : ℕ := 3
def holdSeconds : ℚ := 0.18
def movingMinSeconds : ℚ := 0.06
def jitterWindowSeconds : ℚ := 0.40
def jitterGyroRmsMax : ℚ := 1700
def jitterRollFlipMax : ℕ := 5
def cooldownSeconds : ℚ := 0.8
def featureBufferRetentionSeconds : ℚ := 4

/-- One entry of `_recentFeatures`; the roll is already re-centred on the stop pose. -/
structure MotionFrameFeature where
  ticks : ℤ
  roll : ℚ
  pitch : ℚ
  gyroMagnitude : ℚ
  linearAccelMagnitude : ℚ
deriving DecidableEq, Repr

/-- `sqrt meanSquare <= bound` for a non-negative bound, without the root. -/
def rmsAtMost (meanSquare bound : ℚ) : Prop := meanSquare ≤ bound * bound

instance (meanSquare bound : ℚ) : Decidable (rmsAtMost meanSquare bound) :=
  inferInstanceAs (Decidable (_ ≤ _))

/-- Comparing squares is the comparison of the source. -/
theorem rmsAtMost_iff_sqrt (meanSquare bound : ℚ) (nonneg : 0 ≤ bound) :
    rmsAtMost meanSquare bound ↔ Real.sqrt meanSquare ≤ bound := by
  rw [Real.sqrt_le_left (by exact_mod_cast nonneg), rmsAtMost, ← pow_two]
  exact_mod_cast Iff.rfl

/-- The `reason` computed for a frame, with the values its message prints. -/
inductive Reason where
  | raiseDetected
  | waitingForRaise
  | precheckTooFewSamples
  | precheckNotWritingPose (avgPitch avgRoll : ℚ)
  | jitterAfterStop (rollFlipCount : ℕ) (gyroMeanSquare : ℚ)
  | stopTrajectoryMatched (endPitch endRoll gyroP90 : ℚ)
  | stableTooFewSamples
  | stableInsufficient (belowRatio gyroP50 gyroP90 rollSpan : ℚ) (highGyroSpikeCount : ℕ)
  | trajectoryNoStart
  | trajectoryTooFewSamples
  | trajectoryDuration (durationSeconds : ℚ)
  | trajectoryAccel (accelMeanSquare accelPeak : ℚ)
  | trajectoryScore (score : ℕ) (endPitch endRoll peakPitch pitchSpan belowRatio : ℚ)
      (highGyroSpikeCount : ℕ)
  | movingTimeout
  | transitionTooShort (movingElapsedSeconds movingPeakGyro : ℚ)
  | holdingLeftStopPose
  | holdingJitter (rollFlipCount : ℕ) (gyroMeanSquare : ℚ)
  | holdingGyroTooHigh
  | triggered
  | holdingCounting
  | cooldownOver
  | coolingDown
deriving DecidableEq, Repr

/-- `while (delta > 180) delta -= 360`, cut off after `rounds` rounds. -/
def lowerDelta : ℕ → ℚ → ℚ
  | 0, delta => delta
  | rounds + 1, delta => if 180 < delta then lowerDelta rounds (delta - 360) else delta

/-- `while (delta < -180) delta += 360`, cut off after `rounds` rounds. -/
def raiseDelta : ℕ → ℚ → ℚ
  | 0, delta => delta
  | rounds + 1, delta => if delta < -180 then raiseDelta rounds (delta + 360) else delta

/-- Enough rounds for either loop to reach its exit. -/
def deltaRounds (delta : ℚ) : ℕ := ⌈|delta| / 360⌉.toNat

def normalizeAngleToReference (angle reference : ℚ) : ℚ :=
  let delta := angle - reference
  let lowered := lowerDelta (deltaRounds delta) delta
  reference + raiseDelta (deltaRounds lowered) lowered

def canonicalizeRoll (roll : ℚ) : ℚ := normalizeAngleToReference roll stopPoseRollCenter

def isInStopPose (pitch roll : ℚ) : Bool :=
  let canonicalRoll := canonicalizeRoll roll
  stopPosePitchMin ≤ pitch && pitch ≤ stopPosePitchMax
    && stopPoseRollMin ≤ canonicalRoll && canonicalRoll ≤ stopPoseRollMax

/-- `PushFeatureFrame`: append, then dequeue from the front while the front is too old. -/
def pushFeatureFrame (rate : TickRate) (recentFeatures : List MotionFrameFeature)
    (frame : MotionFrameFeature) : List MotionFrameFeature :=
  let retentionTicks := rate.ticks featureBufferRetentionSeconds
  (recentFeatures ++ [frame]).dropWhile fun old => frame.ticks - old.ticks > retentionTicks

/-- Accumulators of the loop in `AnalyzeRecentJitter`. -/
structure JitterScan where
  rollFlipCount : ℕ := 0
  prevSign : ℤ := 0
  count : ℕ := 0
  gyroSquaredSum : ℚ := 0

/-- The sign of a roll, with a dead zone of 12 degrees around zero. -/
def rollSign (roll : ℚ) : ℤ := if |roll| < 12 then 0 else (SignType.sign roll : ℤ)

def JitterScan.add (minTicks : ℤ) (scan : JitterScan) (frame : MotionFrameFeature) : JitterScan :=
  if frame.ticks < minTicks then scan
  else
    let counted := { scan with
      count := scan.count + 1
      gyroSquaredSum := scan.gyroSquaredSum + frame.gyroMagnitude * frame.gyroMagnitude }
    let sign := rollSign frame.roll
    if sign = 0 then counted
    else
      { counted with
        rollFlipCount :=
          if scan.prevSign ≠ 0 ∧ scan.prevSign ≠ sign then scan.rollFlipCount + 1 else scan.rollFlipCount
        prevSign := sign }

/-- `AnalyzeRecentJitter`: the flip count and the square of `gyroRms`. -/
def analyzeRecentJitter (rate : TickRate) (recentFeatures : List MotionFrameFeature) (nowTicks : ℤ) :
    ℕ × ℚ :=
  let minTicks := nowTicks - rate.ticks jitterWindowSeconds
  let scan := recentFeatures.foldl (JitterScan.add minTicks) {}
  (scan.rollFlipCount, if 0 < scan.count then scan.gyroSquaredSum / scan.count else 0)

/-- `Enumerable.Average`, used on non-empty windows only. -/
def average (value : MotionFrameFeature → ℚ) (window : List MotionFrameFeature) : ℚ :=
  (window.map value).sum / window.length

/-- `Enumerable.Max`, used on non-empty windows only. -/
def maxOf (value : MotionFrameFeature → ℚ) (window : List MotionFrameFeature) : ℚ :=
  ((window.map value).max?).getD 0

/-- `Enumerable.Min`, used on non-empty windows only. -/
def minOf (value : MotionFrameFeature → ℚ) (window : List MotionFrameFeature) : ℚ :=
  ((window.map value).min?).getD 0

def percentileSorted (sortedValues : List ℚ) (percentile : ℚ) : ℚ :=
  if sortedValues.length = 0 then 0
  else
    let index := ⌊((sortedValues.length - 1 : ℕ) : ℚ) * percentile⌋
    let clamped := max 0 (min index (sortedValues.length - 1 : ℕ))
    sortedValues.getD clamped.toNat 0

/-- The frames `IsInWritingStartPose` averages: the precheck window, without the current frame. -/
def preWindow (rate : TickRate) (frames : List MotionFrameFeature) (nowTicks : ℤ) :
    List MotionFrameFeature :=
  let minTicks := nowTicks - rate.ticks writingPrecheckSeconds
  frames.filter fun frame => minTicks ≤ frame.ticks && frame.ticks < nowTicks

def isInWritingStartPose (rate : TickRate) (recentFeatures : List MotionFrameFeature) (nowTicks : ℤ) :
    Except Reason Unit :=
  let window := preWindow rate recentFeatures nowTicks
  if window.length < writingPrecheckMinFrames then .error .precheckTooFewSamples
  else
    let avgPitch := average (·.pitch) window
    let avgRoll := average (·.roll) window
    if avgPitch < writingPosePitchMin ∨ writingPosePitchMax < avgPitch
        ∨ avgRoll < writingPoseRollMin ∨ writingPoseRollMax < avgRoll then
      .error (.precheckNotWritingPose avgPitch avgRoll)
    else .ok ()

structure StableWindowSummary where
  startTicks : ℤ
  endTicks : ℤ
  endPitch : ℚ
  endRoll : ℚ
  belowRatio : ℚ
  gyroP50 : ℚ
  gyroP90 : ℚ
  rollSpan : ℚ
  highGyroSpikeCount : ℕ
deriving DecidableEq, Repr

/-- The frames of the current movement inside the stable window. -/
def stableWindow (rate : TickRate) (recentFeatures : List MotionFrameFeature)
    (movingStartTicks nowTicks : ℤ) : List MotionFrameFeature :=
  let minTicks := nowTicks - rate.ticks stableWindowSeconds
  recentFeatures.filter fun frame =>
    minTicks ≤ frame.ticks && frame.ticks ≤ nowTicks && movingStartTicks ≤ frame.ticks

def summarizeStableWindow (window : List MotionFrameFeature) : StableWindowSummary :=
  let gyros := (window.map (·.gyroMagnitude)).insertionSort (· ≤ ·)
  { startTicks := (window.head?.map (·.ticks)).getD 0
    endTicks := (window.getLast?.map (·.ticks)).getD 0
    endPitch := average (·.pitch) window
    endRoll := average (·.roll) window
    belowRatio := (window.countP fun frame => frame.gyroMagnitude ≤ stableGyroP50Max : ℕ) / window.length
    gyroP50 := percentileSorted gyros 0.5
    gyroP90 := percentileSorted gyros 0.9
    rollSpan := maxOf (·.roll) window - minOf (·.roll) window
    highGyroSpikeCount := window.countP fun frame => stableHighGyroSpikeThreshold ≤ frame.gyroMagnitude }

def tryFindStableWindowSummary (rate : TickRate) (recentFeatures : List MotionFrameFeature)
    (movingStartTicks nowTicks : ℤ) : Except Reason StableWindowSummary :=
  let window := stableWindow rate recentFeatures movingStartTicks nowTicks
  if window.length < stableWindowMinFrames then .error .stableTooFewSamples
  else
    let summary := summarizeStableWindow window
    if summary.belowRatio < stableBelowRatioMin ∨ stableGyroP50Max < summary.gyroP50
        ∨ stableGyroP90Max < summary.gyroP90 ∨ stableRollSpanMax < summary.rollSpan
        ∨ stableHighGyroSpikeMax < summary.highGyroSpikeCount then
      .error (.stableInsufficient summary.belowRatio summary.gyroP50 summary.gyroP90 summary.rollSpan
        summary.highGyroSpikeCount)
    else .ok summary

structure TrajectorySummary where
  durationSeconds : ℚ
  endPitch : ℚ
  endRoll : ℚ
  peakPitch : ℚ
  minPitch : ℚ
  accelMeanSquare : ℚ
  accelPeak : ℚ
deriving DecidableEq, Repr

def TrajectorySummary.pitchSpan (summary : TrajectorySummary) : ℚ := summary.peakPitch - summary.minPitch

/-- The frames from the start of the movement to the end of the stable window. -/
def trajectorySegment (recentFeatures : List MotionFrameFeature) (movingStartTicks endTicks : ℤ) :
    List MotionFrameFeature :=
  recentFeatures.filter fun frame => movingStartTicks ≤ frame.ticks && frame.ticks ≤ endTicks

/-- One point for each of the seven soft criteria that is met. -/
def trajectoryScore (stable : StableWindowSummary) (summary : TrajectorySummary) : ℕ :=
  (if isInStopPose summary.endPitch summary.endRoll then 1 else 0)
    + (if trajectoryMinSeconds ≤ summary.durationSeconds ∧ summary.durationSeconds ≤ trajectoryMaxSeconds
        then 1 else 0)
    + (if trajectoryPeakPitchMin ≤ summary.peakPitch then 1 else 0)
    + (if trajectoryPitchSpanMin ≤ summary.pitchSpan then 1 else 0)
    + (if stableBelowRatioStrong ≤ stable.belowRatio then 1 else 0)
    + (if stable.gyroP90 ≤ 1100 then 1 else 0)
    + (if stable.highGyroSpikeCount ≤ 2 then 1 else 0)

def tryBuildTrajectorySummary (rate : TickRate) (recentFeatures : List MotionFrameFeature)
    (movingStartTicks : ℤ) (stable : StableWindowSummary) : Except Reason TrajectorySummary :=
  if movingStartTicks ≤ 0 then .error .trajectoryNoStart
  else
    let segment := trajectorySegment recentFeatures movingStartTicks stable.endTicks
    if segment.length < 6 then .error .trajectoryTooFewSamples
    else
      let durationSeconds := rate.elapsedSeconds movingStartTicks stable.endTicks
      if durationSeconds < trajectoryMinSeconds ∨ trajectoryMaxSeconds < durationSeconds then
        .error (.trajectoryDuration durationSeconds)
      else
        let summary : TrajectorySummary :=
          { durationSeconds
            endPitch := stable.endPitch
            endRoll := stable.endRoll
            peakPitch := maxOf (·.pitch) segment
            minPitch := minOf (·.pitch) segment
            accelMeanSquare := average (fun frame => frame.linearAccelMagnitude * frame.linearAccelMagnitude) segment
            accelPeak := maxOf (·.linearAccelMagnitude) segment }
        if summary.accelMeanSquare < trajectoryAccelRmsMin * trajectoryAccelRmsMin
            ∨ ¬ rmsAtMost summary.accelMeanSquare trajectoryAccelRmsMax then
          .error (.trajectoryAccel summary.accelMeanSquare summary.accelPeak)
        else
          let score := trajectoryScore stable summary
          if score < trajectoryScoreMin then
            .error (.trajectoryScore score stable.endPitch stable.endRoll summary.peakPitch summary.pitchSpan
              stable.belowRatio stable.highGyroSpikeCount)
          else .ok summary

end GestureSuite.Gesture
