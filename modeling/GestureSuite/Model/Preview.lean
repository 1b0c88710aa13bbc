import GestureSuite.Model.Pipeline

/-! # The live preview of the window

For every processed frame the window integrates the linear acceleration to a position and posts the pose with it to
the page, at most thirty times a second. The three axes are treated alike; the clock is read anew for the
integration, the post and the telemetry line. Arithmetic is exact.
-/

namespace GestureSuite.Live

open Gesture Host

def countsPerG : ℚ := 16384
def gravity : ℚ := 9.80665
def maxPos : ℚ := 1.5
def posePublishIntervalSeconds : ℚ := 1 / 30
def telemetryIntervalSeconds : ℚ := 1

def applyDeadband (value threshold : ℚ) : ℚ := if |value| < threshold then 0 else value

/-- Counts to m/s², without what is small enough to be noise. -/
def acceleration (linear : ℚ) : ℚ := applyDeadband (linear / countsPerG * gravity) 0.18

/-- `Math.Clamp`. -/
def clamp (value low high : ℚ) : ℚ := max low (min value high)

/-- The two fields of one axis. -/
structure Axis where
  position : ℚ := 0
  velocity : ℚ := 0
deriving DecidableEq, Repr

def Axis.move (axis : Axis) (dt linear : ℚ) (isStationary : Bool) : Axis :=
  let velocity := (axis.velocity + acceleration linear * dt) * 0.94
  let position := clamp ((axis.position + velocity * dt) * 0.998) (-maxPos) maxPos
  if isStationary then { position := position * 0.985, velocity := velocity * 0.25 } else { position, velocity }

structure Motion where
  x : Axis := {}
  y : Axis := {}
  z : Axis := {}
  lastImuTicks : ℤ := 0
deriving DecidableEq, Repr

/-- The time step of a frame, if the frame is integrated. -/
def Motion.step? (rate : TickRate) (motion : Motion) (nowTicks : ℤ) : Option ℚ :=
  if motion.lastImuTicks = 0 then none
  else
    let dt := rate.elapsedSeconds motion.lastImuTicks nowTicks
    if dt ≤ 0 ∨ 0.2 < dt then none else some dt

def updateMotionPosition (rate : TickRate) (motion : Motion) (nowTicks : ℤ) (calibrated : ImuCalibratedSample) :
    Motion :=
  match motion.step? rate nowTicks with
  | none => { motion with lastImuTicks := nowTicks }
  | some dt =>
    let (lx, ly, lz) := Pipeline.mapAccelToViewerAxes calibrated.linearX calibrated.linearY calibrated.linearZ
    { x := motion.x.move dt lx calibrated.isStationary
      y := motion.y.move dt ly calibrated.isStationary
      z := motion.z.move dt lz calibrated.isStationary
      lastImuTicks := nowTicks }

/-- The test of the window's throttles: a zero says that nothing has passed yet. -/
def due (rate : TickRate) (interval : ℚ) (last now : ℤ) : Bool := last = 0 || !(rate.elapsedSeconds last now < interval)

/-- `ShouldPublishPoseToWeb`, with the field behind it. -/
def shouldPublishPoseToWeb (rate : TickRate) (lastPosePublishTicks nowTicks : ℤ) : Bool × ℤ :=
  if due rate posePublishIntervalSeconds lastPosePublishTicks nowTicks then (true, nowTicks)
  else (false, lastPosePublishTicks)

/-- Whether `MaybeLogTelemetry` writes a line, with the field behind it. -/
def maybeLogTelemetry (rate : TickRate) (lastTelemetryLogTicks now : ℤ) : Bool × ℤ :=
  if due rate telemetryIntervalSeconds lastTelemetryLogTicks now then (true, now) else (false, lastTelemetryLogTicks)

/-- What a handled frame brings: the calibrated sample, the pose, whether there is a page and the readings of the
clock. -/
structure PreviewFrame where
  calibrated : ImuCalibratedSample
  pose : ImuPoseSample
  pageLoaded : Bool := true
  motionTicks : ℤ
  publishTicks : ℤ
  telemetryTicks : ℤ
deriving DecidableEq, Repr

/-- The arguments of a posted pose message, with the time of the post. -/
structure Post where
  ticks : ℤ
  pose : ImuPoseSample
  tx : ℚ
  ty : ℚ
  tz : ℚ
deriving DecidableEq, Repr

structure Preview where
  motion : Motion := {}
  lastPosePublishTicks : ℤ := 0
  lastTelemetryLogTicks : ℤ := 0
  posts : List Post := []
  /-- The times of the telemetry lines. -/
  telemetry : List ℤ := []
deriving DecidableEq, Repr

/-- The part of `HandleImuFrameProcessed` behind the recording. -/
def Preview.next (rate : TickRate) (p : Preview) (frame : PreviewFrame) : Preview :=
  let motion := updateMotionPosition rate p.motion frame.motionTicks frame.calibrated
  if !frame.pageLoaded then { p with motion }
  else
    let (publishes, lastPosePublishTicks) := shouldPublishPoseToWeb rate p.lastPosePublishTicks frame.publishTicks
    let (logs, lastTelemetryLogTicks) := maybeLogTelemetry rate p.lastTelemetryLogTicks frame.telemetryTicks
    { motion
      lastPosePublishTicks
      lastTelemetryLogTicks
      posts :=
        if publishes then
          p.posts ++ [⟨frame.publishTicks, frame.pose, motion.x.position, motion.y.position, motion.z.position⟩]
        else p.posts
      telemetry := if logs then p.telemetry ++ [frame.telemetryTicks] else p.telemetry }

/-- The preview behind a list of frames. -/
def Preview.after (rate : TickRate) (p : Preview) (frames : List PreviewFrame) : Preview :=
  frames.foldl (Preview.next rate) p

end GestureSuite.Live
