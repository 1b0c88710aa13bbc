import GestureSuite.Model.Gesture.Update
import GestureSuite.Model.Host.Calibrator
import GestureSuite.Model.Window

/-! # From a notification to the events of the client

`HandleImuPayloadText` is the way of every IMU text through the client: parse, calibrate, estimate the pose,
then run the gesture machine on the frame. A text that does not parse ends at its first step. The functions of
`Math` are parameters; the arithmetic around them is exact, as in the calibrator and the detector.
-/

namespace GestureSuite.Pipeline

open Gesture Host
open Window (ImuProcessingStatus)

/-- `Math.Sqrt`, `Math.Atan2` and the constant `180.0 / Math.PI`. -/
structure Numerics where
  sqrt : ℚ → ℚ
  atan2 : ℚ → ℚ → ℚ
  radToDeg : ℚ

def Numerics.magnitude (m : Numerics) (x y z : ℚ) : ℚ := m.sqrt (x * x + y * y + z * z)

def mapAccelToViewerAxes (ax ay az : ℚ) : ℚ × ℚ × ℚ := (-ay, -ax, az)

/-- The source function never returns `false`; the `Option` keeps its type. -/
def tryBuildPoseFromCalibratedGravity (m : Numerics) (calibrated : ImuCalibratedSample) : Option ImuPoseSample :=
  let (mx, my, mz) := mapAccelToViewerAxes calibrated.gravityX calibrated.gravityY calibrated.gravityZ
  some
    { roll := m.atan2 my mz * m.radToDeg
      pitch := m.atan2 (-mx) (m.sqrt (my * my + mz * mz)) * m.radToDeg
      yaw := 0 }

structure ImuProcessingResult where
  rawPayload : List Char
  raw : ImuRawSample
  calibrated : ImuCalibratedSample
  pose : ImuPoseSample
deriving DecidableEq, Repr

/-- `ImuPayloadProcessor.Process`. -/
def process (m : Numerics) (autoCalibrator : ImuAutoCalibrator) (payload : List Char) :
    ImuAutoCalibrator × Except ImuProcessingStatus ImuProcessingResult :=
  match tryParseImuRaw payload with
  | none => (autoCalibrator, .error .parseFailed)
  | some raw =>
    let (updated, calibrated) := autoCalibrator.update raw
    match tryBuildPoseFromCalibratedGravity m calibrated with
    | none => (updated, .error .poseFailed)
    | some pose => (updated, .ok { rawPayload := payload, raw, calibrated, pose })

/-- What a callback reads from the system while it handles a text. -/
structure Readings where
  ticks : ℤ
  hotkeySendOk : Bool := true
  sentTime : ℕ := 0
deriving DecidableEq, Repr

/-- The quantities `UpdateGestureAndMaybeSendHotkey` computes from a processed frame. -/
def frameOf (m : Numerics) (now : Readings) (result : ImuProcessingResult) : Frame where
  ticks := now.ticks
  pose := result.pose
  gyroMagnitude :=
    m.magnitude (result.raw.gx - result.calibrated.gyroBiasX) (result.raw.gy - result.calibrated.gyroBiasY)
      (result.raw.gz - result.calibrated.gyroBiasZ)
  linearAccelMagnitude :=
    m.magnitude result.calibrated.linearX result.calibrated.linearY result.calibrated.linearZ
  hotkeySendOk := now.hotkeySendOk
  sentTime := now.sentTime

inductive ClientEvent where
  | imuPayloadReceived (payload : List Char)
  | imuFrameProcessed (result : ImuProcessingResult)
  | imuFrameProcessingFailed (status : ImuProcessingStatus) (payload : List Char)
  | gesture (event : Gesture.Event)
deriving DecidableEq

/-- The fields of the client that texts reach. -/
structure Client where
  autoCalibrator : ImuAutoCalibrator := {}
  detector : Detector := {}
deriving DecidableEq, Repr

namespace Client

variable (m : Numerics) (rate : TickRate)

/-- The client afterwards and the events it raised, in order. -/
def handleImuPayloadText (c : Client) (now : Readings) (payload : List Char) : Client × List ClientEvent :=
  match process m c.autoCalibrator payload with
  | (updated, .ok result) =>
    let (detector, raised) := updateGestureAndMaybeSendHotkey rate c.detector (frameOf m now result)
    ({ autoCalibrator := updated, detector },
      .imuPayloadReceived payload :: .imuFrameProcessed result :: raised.map .gesture)
  | (updated, .error status) =>
    ({ c with autoCalibrator := updated },
      [.imuPayloadReceived payload, .imuFrameProcessingFailed status payload])

/-- A notification: its bytes and what the callback reads. -/
def imuCharacteristicValueChanged (c : Client) (arrival : Readings × List UInt8) : Client × List ClientEvent :=
  c.handleImuPayloadText m rate arrival.1 (bufferToUtf8OrHex arrival.2)

/-- The client behind a list of notifications, with everything it raised. -/
def receive (c : Client) : List (Readings × List UInt8) → Client × List ClientEvent
  | [] => (c, [])
  | arrival :: rest =>
    let (middle, raised) := c.imuCharacteristicValueChanged m rate arrival
    let (last, later) := middle.receive rest
    (last, raised ++ later)

end Client

end GestureSuite.Pipeline
