import GestureSuite.Machine.Run
import GestureSuite.Model.Window

/-! # The window of the SDK sample

`BleSdkSampleWindow` records everything from its construction to its closing. The client raises its events on
threads of its own; each is put into the queue of the UI thread, which handles one after the other. A connection
starts a validation of the stream: a delay that a later connection, a disconnection or the closing cancels, and
behind it a check that is queued once more. What only the display shows is left out.

`raised`, `recorded` and `late` are not fields of the source: they say what was put into the queue by the client
and what the UI thread has handled, before the end of the recording and after it.
-/

namespace GestureSuite.SdkSample

open Text Recorder Window

/-- The events of the client that a handler of the window does more with than display them. -/
inductive ClientEvent where
  | connectionStateChanged (state : BleConnectionLifecycleState)
  | statusPayloadReceived (payload : NetString)
  | imuPayloadReceived (payload : NetString)
  | imuFrameProcessed (frame : ImuProcessingResult)
  | gestureTriggered (result : Gesture.GestureTriggerResult)
  | imuFrameProcessingFailed (status : ImuProcessingStatus) (payload : NetString)

/-- What stands in the queue of the UI thread. A delay that is over posts the rest of `ValidateImuStreamAsync`,
and that posts the check; both go with the number of the validation. -/
inductive UiAction where
  | event (event : ClientEvent)
  | delayOver (validation : ℕ)
  | check (validation : ℕ)

/-- The delay of a validation, with the token it was given. -/
inductive Delay where
  | waiting
  | cancelled
  | elapsed
deriving DecidableEq, Repr

/-- What the UI thread has handled, with the readings its handler made. -/
structure Handled where
  action : UiAction
  now : ClockReads
  isConnected : Bool

structure BleSdkSampleWindow where
  records : Records
  imuRawPacketCount : ℤ := 0
  imuParsedPacketCount : ℤ := 0
  lastImuPayloadPreview : NetString := utf16Encode "<none>".toList
  /-- One delay for each validation; `_imuValidationCts` is that of the last. -/
  delays : List Delay := []
  queue : List UiAction := []
  isClosing : Bool := false
  /-- The readings of `StopSession`, once the closing has come to it. -/
  stopped : Option ClockReads := none
  raised : List ClientEvent := []
  recorded : List Handled := []
  late : List Handled := []

def imuProcessingStatusText : ImuProcessingStatus → List Char
  | .success => "Success".toList
  | .parseFailed => "ParseFailed".toList
  | .poseFailed => "PoseFailed".toList

def trimForLog (payload : NetString) : NetString :=
  if payload.length ≤ 100 then payload else payload.take 100 ++ utf16Encode "...".toList

def noPayload : NetString := utf16Encode "IMU_VALIDATION:NO_PAYLOAD".toList

def parseZero (raw : ℤ) (preview : NetString) : NetString :=
  utf16Encode ("IMU_VALIDATION:PARSE_ZERO raw=".toList ++ printInt raw ++ " in 6s, last=".toList) ++ preview

namespace BleSdkSampleWindow

variable (p : Platform)

def log (s : BleSdkSampleWindow) (now : ClockReads) (call : LogCall) : BleSdkSampleWindow :=
  { s with records := s.records.log p.fs p.formats (now, call) }

/-- `_imuValidationCts?.Cancel()`. -/
def cancelValidation (s : BleSdkSampleWindow) : BleSdkSampleWindow :=
  { s with
    delays := s.delays.modify (s.delays.length - 1) fun
      | .waiting => .cancelled
      | other => other }

def startImuValidation (s : BleSdkSampleWindow) : BleSdkSampleWindow :=
  let cancelled := s.cancelValidation
  { cancelled with
    delays := cancelled.delays ++ [.waiting]
    imuRawPacketCount := 0
    imuParsedPacketCount := 0
    lastImuPayloadPreview := utf16Encode "<none>".toList }

def handleConnectionState (s : BleSdkSampleWindow) : BleConnectionLifecycleState → BleSdkSampleWindow
  | .scanning => s
  | .connected => s.startImuValidation
  | .disconnected => s.cancelValidation

def handleImuFrame (s : BleSdkSampleWindow) (now : ClockReads) (frame : ImuProcessingResult) : BleSdkSampleWindow :=
  let logged := s.log p now (logProcessed frame)
  -- the counters are of type `int` and their increments are unchecked
  { logged with imuParsedPacketCount := (logged.imuParsedPacketCount + 1).bmod (2 ^ 32) }

def handleEvent (s : BleSdkSampleWindow) (now : ClockReads) : ClientEvent → BleSdkSampleWindow
  | .connectionStateChanged state => s.handleConnectionState state
  | .statusPayloadReceived payload => s.log p now (.logStatus payload)
  | .imuPayloadReceived payload =>
    { s with
      imuRawPacketCount := (s.imuRawPacketCount + 1).bmod (2 ^ 32)
      lastImuPayloadPreview := trimForLog payload }
  | .imuFrameProcessed frame => s.handleImuFrame p now frame
  | .gestureTriggered result => s.log p now (.logMarker (utf16Encode result.gestureName.toList))
  | .imuFrameProcessingFailed status _ =>
    s.log p now (.logMarker (utf16Encode ("IMU_PARSE_FAIL:".toList ++ imuProcessingStatusText status)))

/-- What `ValidateImuStreamAsync` queues behind its delay. -/
def checkImuStream (s : BleSdkSampleWindow) (now : ClockReads) (isConnected : Bool) : BleSdkSampleWindow :=
  if !isConnected then s
  else if 0 < s.imuParsedPacketCount then s
  else if s.imuRawPacketCount = 0 then s.log p now (.logMarker noPayload)
  else s.log p now (.logMarker (parseZero s.imuRawPacketCount s.lastImuPayloadPreview))

def handle (s : BleSdkSampleWindow) (now : ClockReads) (isConnected : Bool) : UiAction → BleSdkSampleWindow
  | .event event => s.handleEvent p now event
  | .delayOver validation => { s with queue := s.queue ++ [.check validation] }
  | .check _ => s.checkImuStream p now isConnected

/-- The history behind a handled action. -/
def remember (s : BleSdkSampleWindow) (handled : Handled) : BleSdkSampleWindow :=
  match s.stopped with
  | none => { s with recorded := s.recorded ++ [handled] }
  | some _ => { s with late := s.late ++ [handled] }

end BleSdkSampleWindow

/-- What can happen next, in any order: the client raises an event, the UI thread handles what is first in its
queue, a delay is over, the window is closed, and the closing comes to its end. -/
inductive Action where
  | raise (event : ClientEvent)
  | dispatch (now : ClockReads) (isConnected : Bool)
  | elapse (validation : ℕ)
  | close
  | finishClose (now : ClockReads)

def BleSdkSampleWindow.step (p : Platform) (s : BleSdkSampleWindow) : Action → Option BleSdkSampleWindow
  | .raise event => some { s with queue := s.queue ++ [.event event], raised := s.raised ++ [event] }
  | .dispatch now isConnected =>
    match s.queue with
    | [] => none
    | action :: rest =>
      some (({ s with queue := rest }.handle p now isConnected action).remember { action, now, isConnected })
  | .elapse validation =>
    if s.delays[validation]? = some .waiting then
      some { s with
        delays := s.delays.set validation .elapsed
        queue := s.queue ++ [.delayOver validation] }
    else none
  | .close => some { s.cancelValidation with isClosing := true }
  | .finishClose now =>
    if s.isClosing && s.stopped.isNone then
      some { s with
        records := (s.records.stopSession p.fs p.formats now).stopSessionInternal p.fs
        stopped := some now }
    else none

/-- What the constructor reads. -/
structure Opening where
  now : LocalTime
  opened : ℤ
  reads : ClockReads

def sessionLabel : NetString := utf16Encode "blesdk_auto".toList

def Opening.start (opening : Opening) : Start where
  now := opening.now
  opened := opening.opened
  reads := opening.reads
  sessionLabel := sessionLabel

/-- The window once its constructor has started the recording, over given files. -/
def sampleWindow (p : Platform) (files : NetString → Option NetString) (opening : Opening) :
    Machine.System BleSdkSampleWindow Action where
  init := { records := ({ files } : Records).startSession p.fs p.formats opening.start }
  step := BleSdkSampleWindow.step p

end GestureSuite.SdkSample
