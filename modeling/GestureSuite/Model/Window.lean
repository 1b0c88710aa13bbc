import GestureSuite.Machine.Run
import GestureSuite.Model.Gesture.Update
import GestureSuite.Model.Records

/-! # The window that collects samples

`MainWindow` as its UI thread runs it: one handler after the other, on the fields that the collection of
samples reads and writes. A click of the collect button starts a sample or stops it; a stopped sample waits in
its handler until the label dialog is closed, while other handlers go on. The dialog is modal, so no click is
handled in the meantime. What only the display shows is left out. The closing of the window comes last.

The second detector of the source, `UpdateMouthActionDetector`, is called by nothing. It is the only caller
of `PushFeatureFrame`, so no handler here adds to `recentFeatures`.
-/

namespace GestureSuite.Window

open Text Recorder

/-- What the window relies on: the file system and the formatting and comparing of the runtime. -/
structure Platform where
  fs : FileSystem
  formats : Formats
  /-- `Stopwatch.Frequency`. -/
  rate : Gesture.TickRate
  /-- `ToString` with so many decimal places. -/
  fixed : ℕ → ℚ → List Char
  /-- `string.Equals` with `OrdinalIgnoreCase`. -/
  equalsIgnoreCase : NetString → NetString → Bool

structure MotionFrameFeature where
  ticks : ℤ
  roll : ℚ
  pitch : ℚ
  gyroMagnitude : ℚ
deriving DecidableEq, Repr

/-- What the answer to the label dialog makes of a sample. -/
inductive SampleResultTag where
  | unknown
  | correct
  | wrong
  | unlabeled
deriving DecidableEq, Repr

def SampleResultTag.text : SampleResultTag → List Char
  | .unknown => "UNKNOWN".toList
  | .correct => "CORRECT".toList
  | .wrong => "WRONG".toList
  | .unlabeled => "UNLABELED".toList

inductive TriggerResultTag where
  | triggered
  | missed
deriving DecidableEq, Repr

def TriggerResultTag.text : TriggerResultTag → List Char
  | .triggered => "TRIGGERED".toList
  | .missed => "MISSED".toList

/-- A sample whose handler is through: where its file is, what that file holds, and the two tags. -/
structure Sample where
  path : Option NetString
  content : Option NetString
  sampleResultTag : SampleResultTag
  triggerResultTag : TriggerResultTag

/-- The local variables of a stopped sample's handler. -/
structure Labelling where
  sourcePath : Option NetString

structure MainWindow where
  records : Records := {}
  isSampleCollecting : Bool := false
  activeSampleFilePath : Option NetString := none
  activeSampleTriggerCount : ℤ := 0
  isImuCalibrationReady : Bool := false
  hasImuStream : Bool := false
  recentFeatures : List MotionFrameFeature := []
  /-- The handler that waits for the dialog. -/
  labelling : Option Labelling := none
  samples : List Sample := []

/-- What a click reads when it starts a sample. -/
structure StartClick where
  labelTime : LocalTime
  now : LocalTime
  opened : ℤ
  reads : ClockReads
  created : Bool := true

/-- What a click reads when it stops a sample. The two moves are those of the renaming, and take place here
only when there is no dialog. -/
structure StopClick where
  ticks : ℤ
  feature : ClockReads
  requested : ClockReads
  stop : ClockReads
  hasXamlRoot : Bool := true
  moved : Bool × Bool := (true, true)

inductive ContentDialogResult where
  | none
  | primary
  | secondary
deriving DecidableEq, Repr

/-- A result as the detector raises it. -/
structure SdkTrigger where
  result : Gesture.GestureTriggerResult
  named : result.gestureName = "MOUTH_HOLD"

inductive ImuProcessingStatus where
  | success
  | parseFailed
  | poseFailed
deriving DecidableEq, Repr

structure ImuProcessingResult where
  raw : Host.ImuRawSample
  /-- `Calibrated.IsReady`. -/
  isReady : Bool
  roll : Double
  pitch : Double
  yaw : Double
  rawPayload : NetString

inductive BleConnectionLifecycleState where
  | disconnected
  | scanning
  | connected
deriving DecidableEq, Repr

/-- What the UI thread handles, with the readings its handler makes. -/
inductive UiEvent where
  | collectSampleClick (start : StartClick) (stop : StopClick)
  | dialogClosed (result : ContentDialogResult) (moved : Bool × Bool)
  | gestureTriggered (ticks : ℤ) (feature marker : ClockReads) (trigger : SdkTrigger)
  | imuFrameProcessed (ticks : ℤ) (now : ClockReads) (result : ImuProcessingResult)
  | imuFrameProcessingFailed (now : ClockReads) (status : ImuProcessingStatus) (payload : NetString)
  | statusPayloadReceived (now : ClockReads) (payload : NetString)
  | connectionStateChanged (state : BleConnectionLifecycleState)

def featureWindowSeconds : ℚ := 1.2

/-- The note of a snapshot of some frames. -/
def featureLine (p : Platform) (tag : List Char) (frames : List MotionFrameFeature) : List Char :=
  let mean (value : MotionFrameFeature → ℚ) : ℚ := (frames.map value).sum / frames.length
  let largest (value : MotionFrameFeature → ℚ) : ℚ := (frames.map value).foldl max 0
  "FEATURE[".toList ++ tag ++ "] win=".toList ++ p.fixed 1 featureWindowSeconds ++
    "s n=".toList ++ printInt frames.length ++
    " rollMean=".toList ++ p.fixed 1 (mean (·.roll)) ++ " pitchMean=".toList ++ p.fixed 1 (mean (·.pitch)) ++
    " rollAbsMax=".toList ++ p.fixed 1 (largest (|·.roll|)) ++
    " pitchAbsMax=".toList ++ p.fixed 1 (largest (|·.pitch|)) ++
    " gyroMean=".toList ++ p.fixed 0 (mean (·.gyroMagnitude)) ++
    " gyroMax=".toList ++ p.fixed 0 (largest (·.gyroMagnitude))

/-- `LogImu` of a payload without a sample. -/
def logFailed (payload : NetString) (note : List Char) : LogCall :=
  .logImu payload none none none none none none none none none none (utf16Encode note)

def logProcessed (result : ImuProcessingResult) : LogCall :=
  let note := if result.isReady then "imu-auto-cal-ready".toList else "imu-auto-cal-learning".toList
  let raw := result.raw
  .logImu result.rawPayload (some raw.ax) (some raw.ay) (some raw.az) (some raw.gx) (some raw.gy) (some raw.gz)
    (some raw.temp) (some result.roll) (some result.pitch) (some result.yaw) (utf16Encode note)

namespace MainWindow

variable (p : Platform)

def log (w : MainWindow) (now : ClockReads) (call : LogCall) : MainWindow :=
  { w with records := w.records.log p.fs p.formats (now, call) }

def publishWindowFeatureSnapshot (w : MainWindow) (tag : List Char) (ticks : ℤ) (now : ClockReads) : MainWindow :=
  if w.recentFeatures.isEmpty then w
  else
    let minTicks := ticks - p.rate.ticks featureWindowSeconds
    let frames := w.recentFeatures.filter fun frame => minTicks ≤ frame.ticks
    if frames.length = 0 then w else w.log p now (.logMarker (utf16Encode (featureLine p tag frames)))

def handleSdkGestureTriggered (w : MainWindow) (ticks : ℤ) (feature marker : ClockReads)
    (result : Gesture.GestureTriggerResult) : MainWindow :=
  let published := w.publishWindowFeatureSnapshot p "sdk_trigger".toList ticks feature
  let counted :=
    if published.isSampleCollecting && result.hotkeySent then
      -- `_activeSampleTriggerCount` is an `int` and its increment is unchecked
      { published with activeSampleTriggerCount := (published.activeSampleTriggerCount + 1).bmod (2 ^ 32) }
    else published
  counted.log p marker (.logMarker (utf16Encode result.gestureName.toList))

def handleImuProcessingFailed (w : MainWindow) (now : ClockReads) (status : ImuProcessingStatus)
    (payload : NetString) : MainWindow :=
  match status with
  | .parseFailed => w.log p now (logFailed payload "parse-failed".toList)
  | .poseFailed => w.log p now (logFailed payload "pose-failed".toList)
  | .success => w

def handleImuFrameProcessed (w : MainWindow) (now : ClockReads) (result : ImuProcessingResult) : MainWindow :=
  { w with hasImuStream := true, isImuCalibrationReady := result.isReady }.log p now (logProcessed result)

/-- `Connected` starts a new validation of the stream. -/
def handleBleConnectionStateChanged (w : MainWindow) : BleConnectionLifecycleState → MainWindow
  | .scanning => w
  | .connected => { w with isImuCalibrationReady := false, hasImuStream := false }
  | .disconnected => { w with isImuCalibrationReady := false }

end MainWindow

/-- `Path.GetFileName`. -/
def getFileName (path : NetString) : NetString := path.rtakeWhile fun unit => !isSeparator unit

/-- `Path.GetDirectoryName` of a file in a folder. -/
def getDirectoryName (path : NetString) : NetString :=
  (path.rdropWhile fun unit => !isSeparator unit).rdropWhile isSeparator

def getFileNameWithoutExtension (path : NetString) : NetString :=
  let name := getFileName path
  if name.contains 0x2E then (name.rdropWhile fun unit => unit ≠ 0x2E).dropLast else name

def getExtension (path : NetString) : NetString :=
  let name := getFileName path
  let extension := name.rtakeWhile fun unit => unit ≠ 0x2E
  if name.contains 0x2E && !extension.isEmpty then 0x2E :: extension else []

def targetPath (sourcePath : NetString) (sampleResultTag : List Char) : NetString :=
  combine (getDirectoryName sourcePath)
    (getFileNameWithoutExtension sourcePath ++ 0x5F :: utf16Encode sampleResultTag ++ getExtension sourcePath)

/-- `File.Move` with `overwrite: true`. -/
def moveFile (fs : FileSystem) (sourcePath targetPath : NetString) (files : NetString → Option NetString) :
    NetString → Option NetString :=
  Function.update (Function.update files (fs.key sourcePath) none) (fs.key targetPath) (files (fs.key sourcePath))

/-- The path of the file afterwards, and the folder. A move that fails leaves both as they are. -/
def tryRenameSampleFile (p : Platform) (sourcePath : Option NetString) (sampleResultTag : List Char) (moved : Bool)
    (files : NetString → Option NetString) : Option NetString × (NetString → Option NetString) :=
  match sourcePath with
  | none => (none, files)
  | some source =>
    if isNullOrWhiteSpace source || (files (p.fs.key source)).isNone then (some source, files)
    else
      let target := targetPath source sampleResultTag
      if !p.equalsIgnoreCase source target && moved then (some target, moveFile p.fs source target files)
      else (some source, files)

namespace MainWindow

variable (p : Platform)

/-- The end of a stopped sample's handler. -/
def finishSample (w : MainWindow) (sourcePath : Option NetString) (sampleResultTag : SampleResultTag)
    (moved : Bool × Bool) : MainWindow :=
  let triggerResultTag := if 0 < w.activeSampleTriggerCount then TriggerResultTag.triggered else .missed
  let labelled := tryRenameSampleFile p sourcePath sampleResultTag.text moved.1 w.records.files
  let renamed := tryRenameSampleFile p labelled.1 triggerResultTag.text moved.2 labelled.2
  let path := renamed.1.or sourcePath
  { w with
    records := { w.records with files := renamed.2 }
    activeSampleTriggerCount := 0
    labelling := none
    samples := w.samples ++
      [{ path, content := path.bind fun path => renamed.2 (p.fs.key path), sampleResultTag, triggerResultTag }] }

def sampleLabel (labelTime : LocalTime) : NetString := utf16Encode ("sample_".toList ++ labelTime.timeOfDay)

def startSample (w : MainWindow) (click : StartClick) : MainWindow :=
  if !w.isImuCalibrationReady && !w.hasImuStream then w
  else
    let start : Start :=
      { now := click.now, opened := click.opened, reads := click.reads, sessionLabel := sampleLabel click.labelTime
        created := click.created }
    let started := { w with records := w.records.startSession p.fs p.formats start }
    -- an exception of `StartSession` leaves the handler here
    if click.created then
      { started with
        isSampleCollecting := true
        activeSampleFilePath := some (p.fs.sessionPath start.now start.sessionLabel)
        activeSampleTriggerCount := 0 }
    else started

def stopSample (w : MainWindow) (click : StopClick) : MainWindow :=
  let published := w.publishWindowFeatureSnapshot p "sample_stop".toList click.ticks click.feature
  let requested := published.log p click.requested (.logMarker (utf16Encode "SAMPLE_STOP_REQUESTED".toList))
  let sourcePath := requested.activeSampleFilePath
  let stopped := { requested with
    records := requested.records.stopSession p.fs p.formats click.stop
    isSampleCollecting := false
    activeSampleFilePath := none }
  if click.hasXamlRoot then { stopped with labelling := some { sourcePath } }
  else stopped.finishSample p sourcePath .unknown click.moved

def collectSampleButtonClick (w : MainWindow) (start : StartClick) (stop : StopClick) : MainWindow :=
  if !w.isSampleCollecting then w.startSample p start else w.stopSample p stop

def resultTag : ContentDialogResult → SampleResultTag
  | .primary => .correct
  | .secondary => .wrong
  | .none => .unlabeled

/-- One event. While the dialog is open no click is handled, and without a dialog none is closed. -/
def next (w : MainWindow) : UiEvent → MainWindow
  | .collectSampleClick start stop =>
    if w.labelling.isSome then w else w.collectSampleButtonClick p start stop
  | .dialogClosed result moved =>
    match w.labelling with
    | none => w
    | some waiting => w.finishSample p waiting.sourcePath (resultTag result) moved
  | .gestureTriggered ticks feature marker trigger => w.handleSdkGestureTriggered p ticks feature marker trigger.result
  | .imuFrameProcessed _ now result => w.handleImuFrameProcessed p now result
  | .imuFrameProcessingFailed now status payload => w.handleImuProcessingFailed p now status payload
  | .statusPayloadReceived now payload => w.log p now (.logStatus payload)
  | .connectionStateChanged state => w.handleBleConnectionStateChanged state

end MainWindow

/-- The window in front of event `k`, over given files. -/
def windowAt (p : Platform) (files : NetString → Option NetString) (events : List UiEvent) (k : ℕ) : MainWindow :=
  Machine.trajectory (MainWindow.next p) { records := { files } } events k

theorem windowAt_succ (p : Platform) (files : NetString → Option NetString) {events : List UiEvent} {k : ℕ}
    {event : UiEvent} (present : events[k]? = some event) :
    windowAt p files events (k + 1) = (windowAt p files events k).next p event :=
  Machine.trajectory_succ _ _ _ present

/-- What the UI thread handles once the window is being closed: queued events, a further request to close, and
what is left of `AppWindow_Closing` behind its awaits. -/
inductive ExitEvent where
  | closing (marker stop : ClockReads)
  | handled (event : UiEvent)
  | disposed

namespace MainWindow

variable (p : Platform)

/-- `AppWindow_Closing` up to its first `await`. -/
def appWindowClosing (w : MainWindow) (marker stop : ClockReads) : MainWindow :=
  if w.isSampleCollecting then
    let marked := w.log p marker (.logMarker (utf16Encode "SAMPLE_RESULT:UNFINISHED_EXIT".toList))
    { marked with records := marked.records.stopSession p.fs p.formats stop }
  else w

/-- The recorder's `Dispose`. -/
def disposeRecorder (w : MainWindow) : MainWindow := { w with records := w.records.stopSessionInternal p.fs }

def exitNext (w : MainWindow) : ExitEvent → MainWindow
  | .closing marker stop => w.appWindowClosing p marker stop
  | .handled event => w.next p event
  | .disposed => w.disposeRecorder p

end MainWindow

end GestureSuite.Window
