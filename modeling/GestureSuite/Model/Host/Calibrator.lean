import Mathlib.Data.Rat.Defs
import GestureSuite.Machine.Run
import GestureSuite.Model.Host.Payload

/-! # The automatic calibration of the sensor

`ImuAutoCalibrator.update` decides whether a sample is still, moves the gyroscope bias on still samples
and the gravity estimate on every sample. The sums of squares are computed on `int` without overflow
checks; the filters are computed in exact arithmetic.
-/

namespace GestureSuite.Host

/-- An unchecked `int` operation keeps the low 32 bits of its result. -/
def wrap32 (n : ℤ) : ℤ := n.bmod (2 ^ 32)

/-- `(x * x) + (y * y) + (z * z)` on `int`. -/
def sumOfSquares (x y z : ℤ) : ℤ :=
  wrap32 (wrap32 (wrap32 (x * x) + wrap32 (y * y)) + wrap32 (z * z))

/-- `Math.Sqrt(n) < bound`. The root of a negative number is NaN, and no comparison with NaN holds. -/
def sqrtBelow (n : ℤ) (bound : ℕ) : Bool := 0 ≤ n && n < (bound : ℤ) ^ 2

/-- `Math.Abs(Math.Sqrt(n) - centre) < tolerance`, with the same treatment of NaN; the tolerance is
smaller than the centre. -/
def sqrtNear (n : ℤ) (centre tolerance : ℕ) : Bool :=
  0 ≤ n && ((centre - tolerance : ℕ) : ℤ) ^ 2 < n && n < ((centre + tolerance : ℕ) : ℤ) ^ 2

def oneG : ℕ := 16384
def gyroStillThreshold : ℕ := 320
def accelMagTolerance : ℕ := 2000
def gyroBiasAlpha : ℚ := 0.03
def gravityAlphaStill : ℚ := 0.14
def gravityAlphaMove : ℚ := 0.22
def readyStableFrames : ℤ := 20

structure ImuCalibratedSample where
  gravityX : ℚ
  gravityY : ℚ
  gravityZ : ℚ
  linearX : ℚ
  linearY : ℚ
  linearZ : ℚ
  gyroBiasX : ℚ
  gyroBiasY : ℚ
  gyroBiasZ : ℚ
  isStationary : Bool
  isReady : Bool
deriving DecidableEq, Repr

structure ImuAutoCalibrator where
  initialized : Bool := false
  stableFrames : ℤ := 0
  gyroBiasX : ℚ := 0
  gyroBiasY : ℚ := 0
  gyroBiasZ : ℚ := 0
  gravityX : ℚ := 0
  gravityY : ℚ := 0
  gravityZ : ℚ := 0
deriving DecidableEq, Repr

def lerp (start stop alpha : ℚ) : ℚ := start + (stop - start) * alpha

/-- The local `isStationary` of `Update`. -/
def ImuRawSample.isStationary (raw : ImuRawSample) : Bool :=
  sqrtBelow (sumOfSquares raw.gx raw.gy raw.gz) gyroStillThreshold &&
    sqrtNear (sumOfSquares raw.ax raw.ay raw.az) oneG accelMagTolerance

namespace ImuAutoCalibrator

/-- The first sample is the first estimate of gravity. -/
def seedGravity (c : ImuAutoCalibrator) (raw : ImuRawSample) : ImuAutoCalibrator :=
  if c.initialized then c
  else { c with gravityX := raw.ax, gravityY := raw.ay, gravityZ := raw.az, initialized := true }

/-- A still sample pulls the bias and counts; any other sample starts the count again. -/
def updateBias (c : ImuAutoCalibrator) (raw : ImuRawSample) : ImuAutoCalibrator :=
  if raw.isStationary then
    { c with
      gyroBiasX := lerp c.gyroBiasX raw.gx gyroBiasAlpha
      gyroBiasY := lerp c.gyroBiasY raw.gy gyroBiasAlpha
      gyroBiasZ := lerp c.gyroBiasZ raw.gz gyroBiasAlpha
      stableFrames := wrap32 (c.stableFrames + 1) }
  else { c with stableFrames := 0 }

/-- Gravity follows every sample, more slowly on still ones. -/
def updateGravity (c : ImuAutoCalibrator) (raw : ImuRawSample) : ImuAutoCalibrator :=
  let gravityAlpha := if raw.isStationary then gravityAlphaStill else gravityAlphaMove
  { c with
    gravityX := lerp c.gravityX raw.ax gravityAlpha
    gravityY := lerp c.gravityY raw.ay gravityAlpha
    gravityZ := lerp c.gravityZ raw.az gravityAlpha }

def update (c : ImuAutoCalibrator) (raw : ImuRawSample) : ImuAutoCalibrator × ImuCalibratedSample :=
  let next := ((c.seedGravity raw).updateBias raw).updateGravity raw
  (next,
    { gravityX := next.gravityX
      gravityY := next.gravityY
      gravityZ := next.gravityZ
      linearX := raw.ax - next.gravityX
      linearY := raw.ay - next.gravityY
      linearZ := raw.az - next.gravityZ
      gyroBiasX := next.gyroBiasX
      gyroBiasY := next.gyroBiasY
      gyroBiasZ := next.gyroBiasZ
      isStationary := raw.isStationary
      isReady := readyStableFrames ≤ next.stableFrames })

end ImuAutoCalibrator

/-- The calibrator in front of sample `k` of a run from the start. -/
def calibratorAt (samples : List ImuRawSample) (k : ℕ) : ImuAutoCalibrator :=
  Machine.trajectory (fun c raw => (c.update raw).1) {} samples k

/-- The part of `ImuPayloadProcessor.Process` in front of the pose, which is computed from the result and
never fails. -/
def process (c : ImuAutoCalibrator) (payload : List Char) :
    ImuAutoCalibrator × Option (ImuRawSample × ImuCalibratedSample) :=
  match tryParseImuRaw payload with
  | none => (c, none)
  | some raw => ((c.update raw).1, some (raw, (c.update raw).2))

end GestureSuite.Host
