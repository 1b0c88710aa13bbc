import GestureSuite.Model.Gesture.Features
import GestureSuite.Machine.Run

/-! # The gesture state machine

`updateGestureAndMaybeSendHotkey` is the source function of that name as a step on the detector's
fields. The input carries what the source reads from outside: the clock, the pose, the two
magnitudes, the result of sending the hotkey and the wall clock. The output lists the raised
events in order. One definition per `case` of the source's `switch` keeps the branches apart.
-/

namespace GestureSuite.Gesture

inductive GestureState where
  | idle
  | moving
  | holding
  | cooldown
deriving DecidableEq, Repr

structure ImuPoseSample where
  roll : ℚ
  pitch : ℚ
  yaw : ℚ := 0
deriving DecidableEq, Repr

/-- What one call reads: a processed IMU frame, the clock and the answers of the system. -/
structure Frame where
  ticks : ℤ
  pose : ImuPoseSample
  gyroMagnitude : ℚ
  linearAccelMagnitude : ℚ
  hotkeySendOk : Bool := true
  sentTime : ℕ := 0
deriving DecidableEq, Repr

/-- The feature a frame leaves in the queue. -/
def Frame.feature (frame : Frame) : MotionFrameFeature where
  ticks := frame.ticks
  roll := canonicalizeRoll frame.pose.roll
  pitch := frame.pose.pitch
  gyroMagnitude := frame.gyroMagnitude
  linearAccelMagnitude := frame.linearAccelMagnitude

@[simp] theorem Frame.feature_ticks (frame : Frame) : frame.feature.ticks = frame.ticks := rfl

structure GestureTriggerResult where
  gestureName : String
  hotkeySent : Bool
  triggerCount : ℤ
  triggeredAt : ℕ
  pose : ImuPoseSample
deriving DecidableEq, Repr

inductive Event where
  | gestureTriggered (result : GestureTriggerResult)
  | hotkeySent (gestureName : String) (count : ℤ) (sentTime : ℕ)
  | log (line : String)
  | gestureStateChanged (state : GestureState) (reason : Reason)
deriving DecidableEq, Repr

def Event.isTrigger : Event → Bool
  | .gestureTriggered _ => true
  | _ => false

/-- The detector's fields. -/
structure Detector where
  gestureState : GestureState := .idle
  movingStartTicks : ℤ := 0
  holdStartTicks : ℤ := 0
  cooldownUntilTicks : ℤ := 0
  movingPeakGyro : ℚ := 0
  hotkeySentCount : ℤ := 0
  lastPublishedGestureState : GestureState := .idle
  recentFeatures : List MotionFrameFeature := []
deriving DecidableEq, Repr

/-- The outcome of one `case`: the fields, the reason and the events raised inside it. -/
structure Verdict where
  detector : Detector
  reason : Reason
  events : List Event := []

/-- `_gestureState = Moving` together with the two fields every such branch re-arms. -/
def Detector.startMoving (d : Detector) (frame : Frame) : Detector :=
  { d with gestureState := .moving, movingStartTicks := frame.ticks, movingPeakGyro := frame.gyroMagnitude }

/-- `_gestureState = Idle` together with the cleared peak. -/
def Detector.resetToIdle (d : Detector) : Detector :=
  { d with gestureState := .idle, movingPeakGyro := 0 }

def idleCase (rate : TickRate) (d : Detector) (frame : Frame) : Verdict :=
  if moveStartGyroThreshold ≤ frame.gyroMagnitude then
    match isInWritingStartPose rate d.recentFeatures frame.ticks with
    | .ok _ => ⟨d.startMoving frame, .raiseDetected, []⟩
    | .error precheckReason => ⟨d, precheckReason, []⟩
  else ⟨d, .waitingForRaise, []⟩

def jitterAcceptable (jitter : ℕ × ℚ) : Bool :=
  jitter.1 ≤ jitterRollFlipMax && rmsAtMost jitter.2 jitterGyroRmsMax

def movingCase (rate : TickRate) (d₀ : Detector) (frame : Frame) (jitter : ℕ × ℚ) : Verdict :=
  let d := { d₀ with movingPeakGyro := max d₀.movingPeakGyro frame.gyroMagnitude }
  let movingElapsedSeconds := rate.elapsedSeconds d.movingStartTicks frame.ticks
  let movingPrepared : Bool :=
    movingMinSeconds ≤ movingElapsedSeconds && moveStartGyroThreshold ≤ d.movingPeakGyro
  let stable := tryFindStableWindowSummary rate d.recentFeatures d.movingStartTicks frame.ticks
  match movingPrepared, stable with
  | true, .ok stableWindow =>
    if jitterAcceptable jitter then
      match tryBuildTrajectorySummary rate d.recentFeatures d.movingStartTicks stableWindow with
      | .ok summary =>
        ⟨{ d with gestureState := .holding, holdStartTicks := frame.ticks },
          .stopTrajectoryMatched summary.endPitch summary.endRoll stableWindow.gyroP90, []⟩
      | .error summaryReason => ⟨d.resetToIdle, summaryReason, []⟩
    else ⟨d.resetToIdle, .jitterAfterStop jitter.1 jitter.2, []⟩
  | prepared, stable =>
    if trajectoryMaxSeconds + 0.8 ≤ movingElapsedSeconds ∧ frame.gyroMagnitude ≤ stableGyroP50Max then
      ⟨d.resetToIdle, .movingTimeout, []⟩
    else
      match prepared, stable with
      | true, .error stableReasonPreview => ⟨d, stableReasonPreview, []⟩
      | _, _ => ⟨d, .transitionTooShort movingElapsedSeconds d.movingPeakGyro, []⟩

/-- The events of a trigger, in the order the source raises them. -/
def triggerEvents (frame : Frame) (count : ℤ) : List Event :=
  .gestureTriggered
      { gestureName := "MOUTH_HOLD", hotkeySent := frame.hotkeySendOk, triggerCount := count,
        triggeredAt := frame.sentTime, pose := frame.pose }
    :: if frame.hotkeySendOk then
        [.hotkeySent "MOUTH_HOLD" count frame.sentTime, .log "热键发送完成: Ctrl+Alt+Q"]
      else [.log "热键发送失败: Ctrl+Alt+Q"]

def holdingCase (rate : TickRate) (d : Detector) (frame : Frame) (jitter : ℕ × ℚ) (inStopPose : Bool) :
    Verdict :=
  if !inStopPose then
    if moveStartGyroThreshold ≤ frame.gyroMagnitude then
      ⟨d.startMoving frame, .holdingLeftStopPose, []⟩
    else ⟨{ d with gestureState := .idle }, .holdingLeftStopPose, []⟩
  else if !jitterAcceptable jitter then ⟨d.startMoving frame, .holdingJitter jitter.1 jitter.2, []⟩
  else if holdBreakGyroThreshold ≤ frame.gyroMagnitude then ⟨d.startMoving frame, .holdingGyroTooHigh, []⟩
  else if holdSeconds ≤ rate.elapsedSeconds d.holdStartTicks frame.ticks
      ∧ d.cooldownUntilTicks ≤ frame.ticks then
    let count := (d.hotkeySentCount + 1).bmod (2 ^ 32)
    ⟨{ d with
        hotkeySentCount := count
        cooldownUntilTicks := frame.ticks + rate.ticks cooldownSeconds
        gestureState := .cooldown
        movingPeakGyro := 0 },
      .triggered, triggerEvents frame count⟩
  else ⟨d, .holdingCounting, []⟩

def cooldownCase (d : Detector) (frame : Frame) : Verdict :=
  if d.cooldownUntilTicks ≤ frame.ticks ∧ frame.gyroMagnitude ≤ stillGyroThreshold then
    ⟨d.resetToIdle, .cooldownOver, []⟩
  else ⟨d, .coolingDown, []⟩

/-- The `switch` on the state, after the frame has been queued. -/
def switchState (rate : TickRate) (d : Detector) (frame : Frame) : Verdict :=
  let jitter := analyzeRecentJitter rate d.recentFeatures frame.ticks
  match d.gestureState with
  | .idle => idleCase rate d frame
  | .moving => movingCase rate d frame jitter
  | .holding =>
    holdingCase rate d frame jitter (isInStopPose frame.pose.pitch (canonicalizeRoll frame.pose.roll))
  | .cooldown => cooldownCase d frame

/-- Raise `GestureStateChanged` when the state differs from the last published one. -/
def Verdict.publish (v : Verdict) : Detector × List Event :=
  if v.detector.gestureState ≠ v.detector.lastPublishedGestureState then
    ({ v.detector with lastPublishedGestureState := v.detector.gestureState },
      v.events ++ [.gestureStateChanged v.detector.gestureState v.reason])
  else (v.detector, v.events)

def updateGestureAndMaybeSendHotkey (rate : TickRate) (d : Detector) (frame : Frame) :
    Detector × List Event :=
  let queued := { d with recentFeatures := pushFeatureFrame rate d.recentFeatures frame.feature }
  (switchState rate queued frame).publish

/-- The fields after one frame. -/
def Detector.next (rate : TickRate) (d : Detector) (frame : Frame) : Detector :=
  (updateGestureAndMaybeSendHotkey rate d frame).1

/-- `GestureTriggered` is raised while the frame is processed. -/
def Detector.fires (rate : TickRate) (d : Detector) (frame : Frame) : Bool :=
  (updateGestureAndMaybeSendHotkey rate d frame).2.any Event.isTrigger

/-- The detector in front of frame `k` of a run from the initial state. -/
def detectorAt (rate : TickRate) (frames : List Frame) (k : ℕ) : Detector :=
  Machine.trajectory (Detector.next rate) {} frames k

end GestureSuite.Gesture
