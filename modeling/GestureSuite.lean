import GestureSuite.Soundness.Attitude
import GestureSuite.Soundness.Calibration
import GestureSuite.Soundness.Connection.Discovery
import GestureSuite.Soundness.Connection.FailedConnect
import GestureSuite.Soundness.Connection.Scan
import GestureSuite.Soundness.Connection.Supervision
import GestureSuite.Soundness.Connection.WakeUp
import GestureSuite.Soundness.Durability
import GestureSuite.Soundness.Firmware.Streaming
import GestureSuite.Soundness.Fitter.Invariance
import GestureSuite.Soundness.Fitter.Streak
import GestureSuite.Soundness.Fitter.TwoPass
import GestureSuite.Soundness.Forgetting
import GestureSuite.Soundness.Gesture.Calmer
import GestureSuite.Soundness.Gesture.Coverage
import GestureSuite.Soundness.Gesture.Guards
import GestureSuite.Soundness.Gesture.Published
import GestureSuite.Soundness.Gesture.RollCut
import GestureSuite.Soundness.Hotkey
import GestureSuite.Soundness.Message
import GestureSuite.Soundness.Page
import GestureSuite.Soundness.PairMapping
import GestureSuite.Soundness.Payload
import GestureSuite.Soundness.Pipeline
import GestureSuite.Soundness.Preview
import GestureSuite.Soundness.Reconnection
import GestureSuite.Soundness.Recording
import GestureSuite.Soundness.RollWindow
import GestureSuite.Soundness.SensorToFile
import GestureSuite.Soundness.Window.Closing
import GestureSuite.Soundness.Window.Snapshots
