import GestureSuite.Model.SdkSample
import GestureSuite.Soundness.Window.Closing

/-! # What the sample window records

The specification of the recording looks at nothing but the handled actions: every event has its line, and a
check speaks about the payloads and the frames since the last connection. The counters of the window carry just
that, so in every interleaving of the client, the UI thread, the delays and the closing the file is the one of
the specification.
-/

namespace GestureSuite.SdkSample

open Text Recorder Window

namespace UiAction

def event? : UiAction → Option ClientEvent
  | UiAction.event raised => some raised
  | .delayOver _ => none
  | .check _ => none

def isConnect : UiAction → Bool
  | .event (.connectionStateChanged .connected) => true
  | _ => false

def payload? : UiAction → Option NetString
  | .event (.imuPayloadReceived payload) => some payload
  | _ => none

def isFrame : UiAction → Bool
  | .event (.imuFrameProcessed _) => true
  | _ => false

end UiAction

/-- What was handled since the last connection. -/
def sinceConnected (handled : List Handled) : List Handled := handled.rtakeWhile fun h => !h.action.isConnect

/-- The payloads since the last connection. -/
def payloads (handled : List Handled) : List NetString := (sinceConnected handled).filterMap (·.action.payload?)

/-- How many frames there were since the last connection. -/
def frames (handled : List Handled) : ℕ := (sinceConnected handled).countP (·.action.isFrame)

/-- The last payload since the last connection, as it is shown. -/
def preview (handled : List Handled) : NetString :=
  match (payloads handled).getLast? with
  | none => utf16Encode "<none>".toList
  | some payload => trimForLog payload

/-- What a check has to report behind the given actions. -/
def diagnosis (handled : List Handled) : Option NetString :=
  if 0 < sequenceAt (frames handled) then none
  else if sequenceAt (payloads handled).length = 0 then some noPayload
  else some (parseZero (sequenceAt (payloads handled).length) (preview handled))

/-- The lines a handled action adds to the file. -/
def Handled.calls (before : List Handled) (h : Handled) : List LogCall :=
  match h.action with
  | .event (.statusPayloadReceived payload) => [.logStatus payload]
  | .event (.imuFrameProcessed frame) => [logProcessed frame]
  | .event (.gestureTriggered result) => [.logMarker (utf16Encode result.gestureName.toList)]
  | .event (.imuFrameProcessingFailed status _) =>
    [.logMarker (utf16Encode ("IMU_PARSE_FAIL:".toList ++ imuProcessingStatusText status))]
  | .event (.imuPayloadReceived _) => []
  | .event (.connectionStateChanged _) => []
  | .delayOver _ => []
  | .check _ => if h.isConnected then (diagnosis before).toList.map .logMarker else []

/-- The lines of actions that were handled behind others. -/
def transcript (before : List Handled) : List Handled → List (ClockReads × LogCall)
  | [] => []
  | h :: rest => (h.calls before).map (fun call => (h.now, call)) ++ transcript (before ++ [h]) rest

private theorem transcript_concat (before handled : List Handled) (h : Handled) :
    transcript before (handled ++ [h]) =
      transcript before handled ++ (h.calls (before ++ handled)).map fun call => (h.now, call) := by
  induction handled generalizing before with
  | nil => simp [transcript]
  | cons first rest ih =>
    rw [List.cons_append, transcript, ih, transcript]
    simp

/-- What the recorder is called with over the life of the window. -/
def session (opening : Opening) (handled : List Handled) (stop : ClockReads) : Recorder.Session where
  opened := opening.opened
  start := opening.reads
  sessionLabel := sessionLabel
  calls := transcript [] handled
  stop := stop

/-- The counters of the window say what the specification looks at. -/
structure Counts (handled : List Handled) (s : BleSdkSampleWindow) : Prop where
  raw : s.imuRawPacketCount = sequenceAt (payloads handled).length
  parsed : s.imuParsedPacketCount = sequenceAt (frames handled)
  preview : s.lastImuPayloadPreview = preview handled

section Counters

variable {handled : List Handled} {h : Handled} {s t : BleSdkSampleWindow}

private theorem sinceConnected_connect (connect : h.action.isConnect = true) : sinceConnected (handled ++ [h]) = [] :=
  List.rtakeWhile_concat_neg _ _ _ (by simp [connect])

private theorem sinceConnected_other (other : h.action.isConnect = false) :
    sinceConnected (handled ++ [h]) = sinceConnected handled ++ [h] :=
  List.rtakeWhile_concat_pos _ _ _ (by simp [other])

private theorem preview_congr {other : List Handled} (same : payloads other = payloads handled) :
    preview other = preview handled := by
  rw [preview, same, preview]

private theorem Counts.fresh (since : sinceConnected handled = []) (raw : t.imuRawPacketCount = 0)
    (parsed : t.imuParsedPacketCount = 0) (shown : t.lastImuPayloadPreview = utf16Encode "<none>".toList) :
    Counts handled t := by
  have none : payloads handled = [] := by
    rw [payloads, since]
    rfl
  constructor
  · rw [raw, none]
    rfl
  · rw [parsed, frames, since]
    rfl
  · rw [shown, SdkSample.preview, none]
    rfl

/-- An action that is neither a connection nor a payload nor a frame changes no count. -/
private theorem Counts.other (counts : Counts handled s) (other : h.action.isConnect = false)
    (noPayload : h.action.payload? = none) (noFrame : h.action.isFrame = false)
    (raw : t.imuRawPacketCount = s.imuRawPacketCount) (parsed : t.imuParsedPacketCount = s.imuParsedPacketCount)
    (shown : t.lastImuPayloadPreview = s.lastImuPayloadPreview) : Counts (handled ++ [h]) t := by
  have same : payloads (handled ++ [h]) = payloads handled := by
    rw [payloads, sinceConnected_other other, List.filterMap_append, payloads]
    simp [noPayload]
  constructor
  · rw [raw, counts.raw, same]
  · rw [parsed, counts.parsed, frames, frames, sinceConnected_other other, List.countP_append]
    simp [noFrame]
  · rw [shown, counts.preview, preview_congr same]

private theorem Counts.payload (counts : Counts handled s) {payload : NetString}
    (received : h.action = .event (.imuPayloadReceived payload))
    (raw : t.imuRawPacketCount = (s.imuRawPacketCount + 1).bmod (2 ^ 32))
    (parsed : t.imuParsedPacketCount = s.imuParsedPacketCount)
    (shown : t.lastImuPayloadPreview = trimForLog payload) : Counts (handled ++ [h]) t := by
  have since : sinceConnected (handled ++ [h]) = sinceConnected handled ++ [h] :=
    sinceConnected_other (by rw [received]; rfl)
  have more : payloads (handled ++ [h]) = payloads handled ++ [payload] := by
    rw [payloads, since, List.filterMap_append, payloads]
    simp [received, UiAction.payload?]
  constructor
  · rw [raw, counts.raw, sequenceAt_succ, more, List.length_append, List.length_singleton]
  · rw [parsed, counts.parsed, frames, frames, since, List.countP_append]
    simp [received, UiAction.isFrame]
  · rw [shown, SdkSample.preview, more, List.getLast?_concat]

private theorem Counts.frame (counts : Counts handled s) {frame : ImuProcessingResult}
    (processed : h.action = .event (.imuFrameProcessed frame))
    (raw : t.imuRawPacketCount = s.imuRawPacketCount)
    (parsed : t.imuParsedPacketCount = (s.imuParsedPacketCount + 1).bmod (2 ^ 32))
    (shown : t.lastImuPayloadPreview = s.lastImuPayloadPreview) : Counts (handled ++ [h]) t := by
  have since : sinceConnected (handled ++ [h]) = sinceConnected handled ++ [h] :=
    sinceConnected_other (by rw [processed]; rfl)
  have same : payloads (handled ++ [h]) = payloads handled := by
    rw [payloads, since, List.filterMap_append, payloads]
    simp [processed, UiAction.payload?]
  constructor
  · rw [raw, counts.raw, same]
  · rw [parsed, counts.parsed, sequenceAt_succ, frames, frames, since, List.countP_append]
    simp [processed, UiAction.isFrame]
  · rw [shown, counts.preview, preview_congr same]

end Counters

section Steps

variable (p : Platform)

/-- What the handling of an action leaves alone. -/
structure Untouched (s t : BleSdkSampleWindow) : Prop where
  queue : t.queue.filterMap UiAction.event? = s.queue.filterMap UiAction.event?
  stopped : t.stopped = s.stopped
  raised : t.raised = s.raised
  recorded : t.recorded = s.recorded
  late : t.late = s.late

variable {handled : List Handled} {s : BleSdkSampleWindow} {now : ClockReads} {isConnected : Bool}

private theorem handleEvent_untouched (s : BleSdkSampleWindow) (now : ClockReads) (event : ClientEvent) :
    Untouched s (s.handleEvent p now event) := by
  cases event with
  | connectionStateChanged state => cases state <;> exact ⟨rfl, rfl, rfl, rfl, rfl⟩
  | _ => exact ⟨rfl, rfl, rfl, rfl, rfl⟩

private theorem checkImuStream_untouched (s : BleSdkSampleWindow) (now : ClockReads) (isConnected : Bool) :
    Untouched s (s.checkImuStream p now isConnected) := by
  rw [BleSdkSampleWindow.checkImuStream]
  split
  · exact ⟨rfl, rfl, rfl, rfl, rfl⟩
  · split
    · exact ⟨rfl, rfl, rfl, rfl, rfl⟩
    · split <;> exact ⟨rfl, rfl, rfl, rfl, rfl⟩

private theorem handle_untouched (s : BleSdkSampleWindow) (now : ClockReads) (isConnected : Bool) (action : UiAction) :
    Untouched s (s.handle p now isConnected action) := by
  cases action with
  | event event => exact handleEvent_untouched p s now event
  | delayOver validation =>
    refine ⟨?_, rfl, rfl, rfl, rfl⟩
    simp [BleSdkSampleWindow.handle, UiAction.event?]
  | check validation => exact checkImuStream_untouched p s now isConnected

/-- The check writes what the specification has to report. -/
private theorem checkImuStream_records (counts : Counts handled s) :
    (s.checkImuStream p now isConnected).records =
      ((if isConnected then (diagnosis handled).toList.map LogCall.logMarker else []).map
        fun call => (now, call)).foldl (Records.log p.fs p.formats) s.records := by
  rw [BleSdkSampleWindow.checkImuStream, diagnosis, ← counts.parsed, ← counts.raw, ← counts.preview]
  cases isConnected with
  | false => rfl
  | true =>
    rw [if_neg (by simp), if_pos rfl]
    split
    · rfl
    · split <;> rfl

/-- The lines of a handled action are those of the specification. -/
private theorem handle_records (counts : Counts handled s) (action : UiAction) :
    (s.handle p now isConnected action).records =
      ((Handled.calls handled { action, now, isConnected }).map fun call => (now, call)).foldl
        (Records.log p.fs p.formats) s.records := by
  cases action with
  | event event =>
    cases event with
    | connectionStateChanged state => cases state <;> rfl
    | _ => rfl
  | delayOver validation => rfl
  | check validation => exact checkImuStream_records p counts

private theorem checkImuStream_counts (s : BleSdkSampleWindow) (now : ClockReads) (isConnected : Bool) :
    (s.checkImuStream p now isConnected).imuRawPacketCount = s.imuRawPacketCount ∧
      (s.checkImuStream p now isConnected).imuParsedPacketCount = s.imuParsedPacketCount ∧
      (s.checkImuStream p now isConnected).lastImuPayloadPreview = s.lastImuPayloadPreview := by
  rw [BleSdkSampleWindow.checkImuStream]
  split
  · exact ⟨rfl, rfl, rfl⟩
  · split
    · exact ⟨rfl, rfl, rfl⟩
    · split <;> exact ⟨rfl, rfl, rfl⟩

private theorem Counts.handle (counts : Counts handled s) (action : UiAction) :
    Counts (handled ++ [⟨action, now, isConnected⟩]) (s.handle p now isConnected action) := by
  cases action with
  | event event =>
    cases event with
    | connectionStateChanged state =>
      cases state with
      | connected => exact .fresh (sinceConnected_connect rfl) rfl rfl rfl
      | scanning => exact counts.other rfl rfl rfl rfl rfl rfl
      | disconnected => exact counts.other rfl rfl rfl rfl rfl rfl
    | imuPayloadReceived payload => exact counts.payload rfl rfl rfl rfl
    | imuFrameProcessed frame => exact counts.frame rfl rfl rfl rfl
    | statusPayloadReceived payload => exact counts.other rfl rfl rfl rfl rfl rfl
    | gestureTriggered result => exact counts.other rfl rfl rfl rfl rfl rfl
    | imuFrameProcessingFailed status payload => exact counts.other rfl rfl rfl rfl rfl rfl
  | delayOver validation => exact counts.other rfl rfl rfl rfl rfl rfl
  | check validation =>
    obtain ⟨raw, parsed, shown⟩ := checkImuStream_counts p s now isConnected
    exact counts.other rfl rfl rfl raw parsed shown

end Steps

/-- Where the file of the recording is. -/
def recordPath (p : Platform) (opening : Opening) : NetString := p.fs.sessionPath opening.now sessionLabel

section Runs

variable (p : Platform) (opening : Opening)

/-- The window has recorded what it has handled, and has handled what the client raised, up to what is queued. -/
structure Recorded (s : BleSdkSampleWindow) : Prop where
  events : s.raised = (s.recorded ++ s.late).filterMap (·.action.event?) ++ s.queue.filterMap UiAction.event?
  counts : Counts (s.recorded ++ s.late) s
  running : s.stopped = none → s.late = [] ∧ s.records.currentFilePath = some (recordPath p opening) ∧
    s.records.recorder = (transcript [] s.recorded).foldl (Recorder.log p.formats)
      (startSession p.formats opening.opened opening.reads sessionLabel {})
  ended : ∀ stop, s.stopped = some stop → s.records.recorder.writer = none ∧
    s.records.files (p.fs.key (recordPath p opening)) = some ((session opening s.recorded stop).file p.formats)

variable {p opening} {s t : BleSdkSampleWindow}

/-- A step that only adds to the queue, or touches the delays. -/
private theorem Recorded.of_untouched (recorded : Recorded p opening s) (untouched : Untouched s t)
    (records : t.records = s.records) (raw : t.imuRawPacketCount = s.imuRawPacketCount)
    (parsed : t.imuParsedPacketCount = s.imuParsedPacketCount)
    (shown : t.lastImuPayloadPreview = s.lastImuPayloadPreview) : Recorded p opening t := by
  constructor
  · rw [untouched.raised, untouched.recorded, untouched.late, untouched.queue]
    exact recorded.events
  · rw [untouched.recorded, untouched.late]
    exact ⟨raw.trans recorded.counts.raw, parsed.trans recorded.counts.parsed, shown.trans recorded.counts.preview⟩
  · rw [untouched.stopped, untouched.late, untouched.recorded, records]
    exact recorded.running
  · rw [untouched.stopped, untouched.recorded, records]
    exact recorded.ended

private theorem Recorded.raise (recorded : Recorded p opening s) (event : ClientEvent) :
    Recorded p opening { s with queue := s.queue ++ [.event event], raised := s.raised ++ [event] } := by
  have counts := recorded.counts
  refine ⟨?_, ⟨counts.raw, counts.parsed, counts.preview⟩, recorded.running, recorded.ended⟩
  change s.raised ++ [event] = _ ++ (s.queue ++ [UiAction.event event]).filterMap UiAction.event?
  rw [recorded.events, List.filterMap_append]
  simp [UiAction.event?]

/-- A handled action goes into the history, and its lines into the file while that is open. -/
private theorem Recorded.remember (recorded : Recorded p opening s) {h : Handled}
    (events : s.raised = (s.recorded ++ s.late ++ [h]).filterMap (·.action.event?) ++
      t.queue.filterMap UiAction.event?)
    (counts : Counts (s.recorded ++ s.late ++ [h]) t)
    (records : t.records = ((h.calls (s.recorded ++ s.late)).map fun call => (h.now, call)).foldl
      (Recorder.Records.log p.fs p.formats) s.records)
    (raised : t.raised = s.raised) (history : t.recorded = s.recorded) (late : t.late = s.late)
    (stopped : t.stopped = s.stopped) : Recorded p opening (t.remember h) := by
  cases ending : s.stopped with
  | none =>
    obtain ⟨nothing, current, recorder⟩ := recorded.running ending
    have remembered : t.remember h = { t with recorded := t.recorded ++ [h] } := by
      rw [BleSdkSampleWindow.remember, stopped, ending]
    rw [nothing, List.append_nil] at events counts records
    rw [nothing] at late
    rw [remembered]
    constructor
    · dsimp only
      rw [raised, history, late, List.append_nil]
      exact events
    · dsimp only
      rw [history, late, List.append_nil]
      exact ⟨counts.raw, counts.parsed, counts.preview⟩
    · intro _
      dsimp only
      refine ⟨late, ?_, ?_⟩
      · rw [records, foldl_log_currentFilePath, current]
      · rw [records, foldl_log_recorder, recorder, history, transcript_concat, List.foldl_append, List.nil_append]
    · intro stop ends
      cases (stopped.trans ending).symm.trans ends
  | some stop =>
    obtain ⟨closed, file⟩ := recorded.ended stop ending
    have remembered : t.remember h = { t with late := t.late ++ [h] } := by
      rw [BleSdkSampleWindow.remember, stopped, ending]
    rw [foldl_log_of_closed p.fs p.formats _ closed] at records
    rw [List.append_assoc] at events counts
    rw [remembered]
    constructor
    · dsimp only
      rw [raised, history, late]
      exact events
    · dsimp only
      rw [history, late]
      exact ⟨counts.raw, counts.parsed, counts.preview⟩
    · intro runs
      cases (stopped.trans ending).symm.trans runs
    · intro stop' ends
      obtain rfl : stop = stop' := by
        have both := (stopped.trans ending).symm.trans ends
        simpa using both
      dsimp only
      rw [records, history]
      exact ⟨closed, file⟩

/-- The UI thread takes an action from its queue, and the action goes from the queue into the history. -/
private theorem Recorded.dispatch (recorded : Recorded p opening s) {action : UiAction} {rest : List UiAction}
    (queued : s.queue = action :: rest) (now : ClockReads) (isConnected : Bool) :
    Recorded p opening
      (({ s with queue := rest }.handle p now isConnected action).remember ⟨action, now, isConnected⟩) := by
  have before : Counts (s.recorded ++ s.late) { s with queue := rest } :=
    ⟨recorded.counts.raw, recorded.counts.parsed, recorded.counts.preview⟩
  have untouched := handle_untouched p { s with queue := rest } now isConnected action
  refine recorded.remember ?_ (before.handle p action) (handle_records p before action) untouched.raised
    untouched.recorded untouched.late untouched.stopped
  have first : s.queue.filterMap UiAction.event? = action.event?.toList ++ rest.filterMap UiAction.event? := by
    rw [queued]
    cases same : action.event? <;> simp [same]
  have last : ([⟨action, now, isConnected⟩] : List Handled).filterMap (·.action.event?) = action.event?.toList := by
    cases same : action.event? <;> simp [same]
  refine recorded.events.trans ?_
  rw [first, untouched.queue, List.filterMap_append (l := s.recorded ++ s.late), last, List.append_assoc]

/-- The end of the closing ends the session, and disposing of the recorder adds nothing. -/
private theorem Recorded.finishClose (recorded : Recorded p opening s) (running : s.stopped = none)
    (now : ClockReads) :
    Recorded p opening { s with
      records := (s.records.stopSession p.fs p.formats now).stopSessionInternal p.fs
      stopped := some now } := by
  obtain ⟨none, current, recorder⟩ := recorded.running running
  have counts := recorded.counts
  refine ⟨recorded.events, ⟨counts.raw, counts.parsed, counts.preview⟩, ?_, ?_⟩
  · intro runs
    cases runs
  · intro stop ends
    obtain rfl : now = stop := by simpa using ends
    obtain ⟨writer, opened, content⟩ := session_content p.formats (session opening s.recorded now) {}
    refine ⟨rfl, ?_⟩
    have stopped : (s.records.stopSession p.fs p.formats now).recorder.writer = Option.none := rfl
    dsimp only
    rw [(stopSessionInternal_of_closed p.fs stopped).1, ← content]
    exact stopSession_files p.fs p.formats current (recorder ▸ opened)

private theorem Recorded.step {action : Action} (recorded : Recorded p opening s)
    (moved : s.step p action = some t) : Recorded p opening t := by
  cases action with
  | raise event =>
    obtain rfl := Option.some.inj moved
    exact recorded.raise event
  | dispatch now isConnected =>
    rw [BleSdkSampleWindow.step] at moved
    cases queued : s.queue with
    | nil =>
      rw [queued] at moved
      cases moved
    | cons action rest =>
      rw [queued] at moved
      obtain rfl := Option.some.inj moved
      exact recorded.dispatch queued now isConnected
  | elapse validation =>
    rw [BleSdkSampleWindow.step] at moved
    split at moved
    · obtain rfl := Option.some.inj moved
      refine recorded.of_untouched ⟨?_, rfl, rfl, rfl, rfl⟩ rfl rfl rfl rfl
      simp [UiAction.event?]
    · cases moved
  | close =>
    obtain rfl := Option.some.inj moved
    exact recorded.of_untouched ⟨rfl, rfl, rfl, rfl, rfl⟩ rfl rfl rfl rfl
  | finishClose now =>
    rw [BleSdkSampleWindow.step] at moved
    split at moved
    · next closing =>
      obtain rfl := Option.some.inj moved
      exact recorded.finishClose (by simpa using (Bool.and_eq_true_iff.mp closing).2) now
    · cases moved

theorem recorded_of_reachable {files : NetString → Option NetString}
    (reached : (sampleWindow p files opening).Reachable s) : Recorded p opening s := by
  refine Machine.System.ReachableUnder.invariant ?_ ?_ reached
  · refine ⟨rfl, .fresh rfl rfl rfl rfl, fun _ => ⟨rfl, rfl, rfl⟩, ?_⟩
    intro stop ends
    cases ends
  · exact fun s action t _ recorded _ moved => recorded.step moved

end Runs

/-- In every interleaving the window handles what the client raised in order and without loss, and the file it
leaves is the one the handled actions call for. -/
theorem recording_complete (p : Platform) (files : NetString → Option NetString) (opening : Opening)
    (s : BleSdkSampleWindow) (reached : (sampleWindow p files opening).Reachable s) :
    s.raised = (s.recorded ++ s.late).filterMap (·.action.event?) ++ s.queue.filterMap UiAction.event? ∧
      (s.stopped = none → s.late = [] ∧ s.records.recorder = (transcript [] s.recorded).foldl
        (Recorder.log p.formats) (startSession p.formats opening.opened opening.reads sessionLabel {})) ∧
      ∀ stop, s.stopped = some stop → s.records.recorder.writer = none ∧
        s.records.files (p.fs.key (recordPath p opening)) =
          some ((session opening s.recorded stop).file p.formats) := by
  have recorded : Recorded p opening s := recorded_of_reachable reached
  refine ⟨recorded.events, ?_, recorded.ended⟩
  intro running
  obtain ⟨nothing, -, recorder⟩ := recorded.running running
  exact ⟨nothing, recorder⟩

def sampleOpening : Opening where
  now := sampleLocalTime
  opened := (sampleClock 1).timestamp
  reads := sampleClock 1

def samplePayload : NetString := utf16Encode "READY".toList

/-- Two events of which one is handled before the end of the recording and one behind it. -/
def closedRun : List Action :=
  [.raise (.statusPayloadReceived samplePayload), .raise (.imuPayloadReceived samplePayload), .close,
    .dispatch (sampleClock 2) true, .finishClose (sampleClock 3), .dispatch (sampleClock 4) true]

theorem recording_complete_closedRun :
    ∃ s, (sampleWindow samplePlatform (fun _ => none) sampleOpening).Reachable s ∧
      s.raised = [.statusPayloadReceived samplePayload, .imuPayloadReceived samplePayload] ∧
      s.records.files (samplePlatform.fs.key (recordPath samplePlatform sampleOpening)) =
        some ((session sampleOpening [⟨.event (.statusPayloadReceived samplePayload), sampleClock 2, true⟩]
          (sampleClock 3)).file samplePlatform.formats) := by
  let system := sampleWindow samplePlatform (fun _ => none) sampleOpening
  obtain ⟨s, ran, raised, recorded, stopped⟩ : ∃ s, system.run system.init closedRun = some s ∧
      s.raised = [.statusPayloadReceived samplePayload, .imuPayloadReceived samplePayload] ∧
      s.recorded = [⟨.event (.statusPayloadReceived samplePayload), sampleClock 2, true⟩] ∧
      s.stopped = some (sampleClock 3) := ⟨_, rfl, rfl, rfl, rfl⟩
  have reached : system.Reachable s := Machine.System.Reachable.run .init ran
  obtain ⟨-, -, ended⟩ := recording_complete samplePlatform (fun _ => none) sampleOpening s reached
  refine ⟨s, reached, raised, ?_⟩
  rw [← recorded]
  exact (ended (sampleClock 3) stopped).2

namespace UiAction

/-- The number of the validation that the action belongs to. -/
def validation? : UiAction → Option ℕ
  | UiAction.event _ => none
  | .delayOver validation => some validation
  | .check validation => some validation

/-- The action is the check of the validation. -/
def checks (validation : ℕ) : UiAction → Bool
  | .check other => other == validation
  | _ => false

/-- What the action puts into the queue. -/
def posts : UiAction → List UiAction
  | .delayOver validation => [.check validation]
  | _ => []

end UiAction

/-- How often a validation stands in the queue: its delay is over, and its check is to come. -/
def underWay (validation : ℕ) (queue : List UiAction) : ℕ := queue.countP (·.validation? = some validation)

/-- How often a validation has been checked. -/
def checked (validation : ℕ) (handled : List Handled) : ℕ := handled.countP (·.action.checks validation)

/-- One delay for each connection, at most the last of them running, and for each that was over its own check. -/
structure Validated (s : BleSdkSampleWindow) : Prop where
  waiting : ∀ i, s.delays[i]? = some .waiting → i + 1 = s.delays.length
  connections : s.delays.length = (s.recorded ++ s.late).countP (·.action.isConnect)
  checks : ∀ v, underWay v s.queue + checked v (s.recorded ++ s.late) =
    if s.delays[v]? = some .elapsed then 1 else 0

section Validations

variable {p : Platform} {s t : BleSdkSampleWindow}

private theorem cancelValidation_length (s : BleSdkSampleWindow) :
    s.cancelValidation.delays.length = s.delays.length := by
  simp [BleSdkSampleWindow.cancelValidation]

private theorem cancelValidation_elapsed (s : BleSdkSampleWindow) (v : ℕ) :
    s.cancelValidation.delays[v]? = some .elapsed ↔ s.delays[v]? = some .elapsed := by
  rw [BleSdkSampleWindow.cancelValidation]
  dsimp only
  rw [List.getElem?_modify]
  cases s.delays[v]? with
  | none => simp
  | some delay =>
    by_cases last : s.delays.length - 1 = v
    · cases delay <;> simp [last]
    · simp [last]

/-- No delay runs behind a cancellation. -/
private theorem cancelValidation_waiting (waiting : ∀ i, s.delays[i]? = some .waiting → i + 1 = s.delays.length)
    (i : ℕ) : s.cancelValidation.delays[i]? ≠ some .waiting := by
  intro runs
  rw [BleSdkSampleWindow.cancelValidation] at runs
  dsimp only at runs
  rw [List.getElem?_modify] at runs
  cases present : s.delays[i]? with
  | none => simp [present] at runs
  | some delay =>
    by_cases last : s.delays.length - 1 = i
    · cases delay <;> simp [present, last] at runs
    · have running : delay = .waiting := by simpa [present, last] using runs
      have := waiting i (running ▸ present)
      omega

/-- What the handling of an action does to the delays and to the queue. -/
private structure Handles (action : UiAction) (s t : BleSdkSampleWindow) : Prop where
  waiting : ∀ i, t.delays[i]? = some .waiting → i + 1 = t.delays.length
  connections : t.delays.length = s.delays.length + (if action.isConnect then 1 else 0)
  elapsed : ∀ v : ℕ, t.delays[v]? = some Delay.elapsed ↔ s.delays[v]? = some Delay.elapsed
  queue : t.queue = s.queue ++ action.posts

private theorem Handles.of_same {action : UiAction}
    (waiting : ∀ i, s.delays[i]? = some .waiting → i + 1 = s.delays.length) (other : action.isConnect = false)
    (delays : t.delays = s.delays) (queue : t.queue = s.queue ++ action.posts) : Handles action s t := by
  refine ⟨?_, ?_, ?_, queue⟩
  · rw [delays]
    exact waiting
  · simp [delays, other]
  · intro v
    rw [delays]

private theorem startImuValidation_handles {action : UiAction}
    (waiting : ∀ i, s.delays[i]? = some .waiting → i + 1 = s.delays.length) (connect : action.isConnect = true)
    (quiet : action.posts = []) : Handles action s s.startImuValidation := by
  constructor
  · intro i runs
    have length : s.startImuValidation.delays.length = s.cancelValidation.delays.length + 1 := by
      simp [BleSdkSampleWindow.startImuValidation]
    rw [length]
    by_cases before : i < s.cancelValidation.delays.length
    · refine absurd ?_ (cancelValidation_waiting waiting i)
      rw [← runs]
      exact (List.getElem?_append_left before).symm
    · have inside := (List.getElem?_eq_some_iff.mp runs).1
      omega
  · simp [BleSdkSampleWindow.startImuValidation, cancelValidation_length, connect]
  · intro v
    rw [← cancelValidation_elapsed s v, BleSdkSampleWindow.startImuValidation]
    dsimp only
    rw [List.getElem?_append]
    split
    · rfl
    · next beyond =>
      rw [List.getElem?_eq_none (not_lt.mp beyond)]
      simp [List.getElem?_singleton]
  · simp [BleSdkSampleWindow.startImuValidation, BleSdkSampleWindow.cancelValidation, quiet]

private theorem checkImuStream_same (s : BleSdkSampleWindow) (now : ClockReads) (isConnected : Bool) :
    (s.checkImuStream p now isConnected).delays = s.delays ∧
      (s.checkImuStream p now isConnected).queue = s.queue := by
  rw [BleSdkSampleWindow.checkImuStream]
  split
  · exact ⟨rfl, rfl⟩
  · split
    · exact ⟨rfl, rfl⟩
    · split <;> exact ⟨rfl, rfl⟩

private theorem handle_handles (s : BleSdkSampleWindow)
    (waiting : ∀ i, s.delays[i]? = some .waiting → i + 1 = s.delays.length) (now : ClockReads) (isConnected : Bool)
    (action : UiAction) :
    Handles action s (s.handle p now isConnected action) := by
  cases action with
  | event event =>
    cases event with
    | connectionStateChanged state =>
      cases state with
      | connected => exact startImuValidation_handles waiting rfl rfl
      | scanning => exact .of_same waiting rfl rfl (List.append_nil _).symm
      | disconnected =>
        refine ⟨?_, cancelValidation_length s, cancelValidation_elapsed s, (List.append_nil _).symm⟩
        exact fun i runs => absurd runs (cancelValidation_waiting waiting i)
    | _ => exact .of_same waiting rfl rfl (List.append_nil _).symm
  | delayOver validation => exact .of_same waiting rfl rfl rfl
  | check validation =>
    obtain ⟨delays, queue⟩ := checkImuStream_same s now isConnected
    exact .of_same waiting rfl delays (queue.trans (List.append_nil _).symm)

private theorem remember_countP (f : Handled → Bool) (s : BleSdkSampleWindow) (h : Handled) :
    ((s.remember h).recorded ++ (s.remember h).late).countP f =
      (s.recorded ++ s.late).countP f + (if f h then 1 else 0) := by
  rw [BleSdkSampleWindow.remember]
  split
  · simp only [List.countP_append, List.countP_singleton]
    omega
  · simp only [List.countP_append, List.countP_singleton]
    omega

private theorem remember_frame (s : BleSdkSampleWindow) (h : Handled) :
    (s.remember h).delays = s.delays ∧ (s.remember h).queue = s.queue := by
  rw [BleSdkSampleWindow.remember]
  split <;> exact ⟨rfl, rfl⟩

/-- A validation under way is over with its check, and its delay posts that. -/
private theorem underWay_posts (v : ℕ) (action : UiAction) :
    (if action.validation? = some v then 1 else 0) = underWay v action.posts + (if action.checks v then 1 else 0) := by
  cases action <;> simp [underWay, UiAction.validation?, UiAction.checks, UiAction.posts, List.countP_cons]

private theorem underWay_cons (v : ℕ) (action : UiAction) (rest : List UiAction) :
    underWay v (action :: rest) = underWay v rest + (if action.validation? = some v then 1 else 0) := by
  simp [underWay, List.countP_cons]

private theorem underWay_append (v : ℕ) (queue later : List UiAction) :
    underWay v (queue ++ later) = underWay v queue + underWay v later := List.countP_append

private theorem Validated.dispatch (validated : Validated s) {action : UiAction} {rest : List UiAction}
    (queued : s.queue = action :: rest) (now : ClockReads) (isConnected : Bool) :
    Validated (({ s with queue := rest }.handle p now isConnected action).remember ⟨action, now, isConnected⟩) := by
  have handles := handle_handles (p := p) { s with queue := rest } validated.waiting now isConnected action
  have untouched := handle_untouched p { s with queue := rest } now isConnected action
  obtain ⟨delays, queue⟩ := remember_frame ({ s with queue := rest }.handle p now isConnected action)
    ⟨action, now, isConnected⟩
  constructor
  · rw [delays]
    exact handles.waiting
  · rw [delays, handles.connections, remember_countP, untouched.recorded, untouched.late]
    exact congrArg (· + _) validated.connections
  · intro v
    have before := validated.checks v
    have next := underWay_posts v action
    rw [queued, underWay_cons, checked] at before
    rw [delays, queue, handles.queue, underWay_append, checked, remember_countP, untouched.recorded, untouched.late,
      if_congr (handles.elapsed v) rfl rfl]
    dsimp only
    omega

private theorem Validated.elapse (validated : Validated s) {v : ℕ} (waiting : s.delays[v]? = some .waiting) :
    Validated { s with delays := s.delays.set v .elapsed, queue := s.queue ++ [.delayOver v] } := by
  obtain ⟨inside, running⟩ := List.getElem?_eq_some_iff.mp waiting
  constructor
  · intro i runs
    have same : i ≠ v := by
      rintro rfl
      simp [inside] at runs
    dsimp only at runs ⊢
    rw [List.getElem?_set_ne same.symm] at runs
    rw [List.length_set]
    exact validated.waiting i runs
  · rw [List.length_set]
    exact validated.connections
  · intro w
    have before := validated.checks w
    dsimp only
    rw [underWay_append]
    by_cases same : v = w
    · subst same
      rw [waiting, if_neg (by simp)] at before
      rw [List.getElem?_set_self inside, if_pos rfl]
      have posted : underWay v [.delayOver v] = 1 := by simp [underWay, UiAction.validation?]
      omega
    · have posted : underWay w [.delayOver v] = 0 := by simp [underWay, UiAction.validation?, same]
      rw [List.getElem?_set_ne same, posted]
      exact before

private theorem Validated.step {action : Action} (validated : Validated s) (moved : s.step p action = some t) :
    Validated t := by
  cases action with
  | raise event =>
    obtain rfl := Option.some.inj moved
    refine ⟨validated.waiting, validated.connections, fun v => ?_⟩
    have same : underWay v (s.queue ++ [.event event]) = underWay v s.queue := underWay_append v _ _
    dsimp only
    rw [same]
    exact validated.checks v
  | dispatch now isConnected =>
    rw [BleSdkSampleWindow.step] at moved
    cases queued : s.queue with
    | nil =>
      rw [queued] at moved
      cases moved
    | cons action rest =>
      rw [queued] at moved
      obtain rfl := Option.some.inj moved
      exact validated.dispatch queued now isConnected
  | elapse v =>
    rw [BleSdkSampleWindow.step] at moved
    split at moved
    · next waiting =>
      obtain rfl := Option.some.inj moved
      exact validated.elapse waiting
    · cases moved
  | close =>
    obtain rfl := Option.some.inj moved
    refine ⟨?_, ?_, ?_⟩
    · exact fun i runs => absurd runs (cancelValidation_waiting validated.waiting i)
    · exact (cancelValidation_length s).trans validated.connections
    · exact fun v => (validated.checks v).trans (if_congr (cancelValidation_elapsed s v).symm rfl rfl)
  | finishClose now =>
    rw [BleSdkSampleWindow.step] at moved
    split at moved
    · obtain rfl := Option.some.inj moved
      exact ⟨validated.waiting, validated.connections, validated.checks⟩
    · cases moved

/-- A connection is not handled while an earlier validation is under way. -/
def Prompt (s : BleSdkSampleWindow) (action : Action) : Prop :=
  ∀ now isConnected, action = .dispatch now isConnected →
    ∀ first rest, s.queue = first :: rest → first.isConnect = true → ∀ v, underWay v rest = 0

/-- What is under way belongs to the last connection. -/
private def Own (s : BleSdkSampleWindow) : Prop :=
  ∀ queued ∈ s.queue, ∀ v, queued.validation? = some v → v + 1 = s.delays.length

private theorem not_mem_of_underWay {queue : List UiAction} {v : ℕ} (nothing : underWay v queue = 0)
    {queued : UiAction} (member : queued ∈ queue) : queued.validation? ≠ some v := by
  simpa using List.countP_eq_zero.mp nothing queued member

private theorem posts_validation {action queued : UiAction} (member : queued ∈ action.posts) :
    queued.validation? = action.validation? := by
  cases action with
  | delayOver v =>
    obtain rfl := List.mem_singleton.mp member
    rfl
  | _ => cases member

private theorem Own.dispatch (own : Own s) (validated : Validated s) {action : UiAction} {rest : List UiAction}
    (queued : s.queue = action :: rest) (prompt : action.isConnect = true → ∀ v, underWay v rest = 0)
    (now : ClockReads) (isConnected : Bool) :
    Own (({ s with queue := rest }.handle p now isConnected action).remember ⟨action, now, isConnected⟩) := by
  have handles := handle_handles (p := p) { s with queue := rest } validated.waiting now isConnected action
  obtain ⟨delays, queue⟩ := remember_frame ({ s with queue := rest }.handle p now isConnected action)
    ⟨action, now, isConnected⟩
  intro other member v belongs
  rw [queue, handles.queue, List.mem_append] at member
  rw [delays, handles.connections]
  cases connect : action.isConnect with
  | true =>
    rcases member with waits | posted
    · exact absurd belongs (not_mem_of_underWay (prompt connect v) waits)
    · cases action with
      | delayOver v => cases connect
      | _ => cases posted
  | false =>
    rw [if_neg Bool.false_ne_true]
    rcases member with waits | posted
    · exact own other (queued ▸ List.mem_cons_of_mem action waits) v belongs
    · exact own action (queued ▸ List.mem_cons_self) v ((posts_validation posted).symm.trans belongs)

private theorem Own.step {action : Action} (own : Own s) (validated : Validated s) (prompt : Prompt s action)
    (moved : s.step p action = some t) : Own t := by
  cases action with
  | raise event =>
    obtain rfl := Option.some.inj moved
    intro queued member v belongs
    rcases List.mem_append.mp member with waits | new
    · exact own queued waits v belongs
    · obtain rfl := List.mem_singleton.mp new
      cases belongs
  | dispatch now isConnected =>
    rw [BleSdkSampleWindow.step] at moved
    cases queued : s.queue with
    | nil =>
      rw [queued] at moved
      cases moved
    | cons action rest =>
      rw [queued] at moved
      obtain rfl := Option.some.inj moved
      exact own.dispatch validated queued (prompt now isConnected rfl action rest queued) now isConnected
  | elapse v =>
    rw [BleSdkSampleWindow.step] at moved
    split at moved
    · next waiting =>
      obtain rfl := Option.some.inj moved
      intro queued member w belongs
      dsimp only at member ⊢
      rw [List.length_set]
      rcases List.mem_append.mp member with waits | new
      · exact own queued waits w belongs
      · obtain rfl := List.mem_singleton.mp new
        obtain rfl : v = w := by simpa [UiAction.validation?] using belongs
        exact validated.waiting v waiting
    · cases moved
  | close =>
    obtain rfl := Option.some.inj moved
    intro queued member v belongs
    exact (own queued member v belongs).trans (cancelValidation_length s).symm
  | finishClose now =>
    rw [BleSdkSampleWindow.step] at moved
    split at moved
    · obtain rfl := Option.some.inj moved
      exact own
    · cases moved

end Validations

private theorem validated_of_reachable {p : Platform} {files : NetString → Option NetString} {opening : Opening}
    {s : BleSdkSampleWindow} (reached : (sampleWindow p files opening).Reachable s) : Validated s := by
  refine Machine.System.ReachableUnder.invariant ?_ ?_ reached
  · refine ⟨?_, rfl, fun _ => rfl⟩
    intro i runs
    cases runs
  · exact fun s action t _ validated _ moved => validated.step moved

/-- A connection, its delay, and a second connection that is handled while the check of the first is queued. -/
def hastyRun (now : ClockReads) : List Action :=
  [.raise (.connectionStateChanged .connected), .dispatch now true, .elapse 0,
    .raise (.connectionStateChanged .disconnected), .raise (.connectionStateChanged .connected),
    .dispatch now true, .dispatch now true, .dispatch now true]

/-- At most one delay runs, that of the last connection, and each delay that was over leads to one check, its own. A
check speaks for its own connection if connections are handled promptly; else it may report that a connection is
without payloads whose delay still runs. -/
theorem validations_sound (p : Platform) (files : NetString → Option NetString) (opening : Opening) :
    (∀ s, (sampleWindow p files opening).Reachable s →
      (∀ i, s.delays[i]? = some .waiting → i + 1 = s.delays.length) ∧
        s.delays.length = (s.recorded ++ s.late).countP (·.action.isConnect) ∧
        ∀ v, underWay v s.queue + checked v (s.recorded ++ s.late) =
          if s.delays[v]? = some .elapsed then 1 else 0) ∧
      (∀ s, (sampleWindow p files opening).ReachableUnder Prompt s →
        ∀ v, .check v ∈ s.queue → v + 1 = s.delays.length) ∧
      ∃ s t, (sampleWindow p files opening).Reachable s ∧ s.queue = [.check 0] ∧ s.delays = [.elapsed, .waiting] ∧
        diagnosis s.recorded = some noPayload ∧ s.step p (.dispatch opening.reads true) = some t ∧
        t.records = s.records.log p.fs p.formats (opening.reads, .logMarker noPayload) ∧
        t.delays = [.elapsed, .waiting] := by
  refine ⟨?_, ?_, ?_⟩
  · intro s reached
    have validated := validated_of_reachable reached
    exact ⟨validated.waiting, validated.connections, validated.checks⟩
  · intro s reached v queued
    have own : Own s := by
      refine Machine.System.ReachableUnder.invariant ?_ ?_ reached
      · intro other member
        cases member
      · exact fun s action t before own prompt moved =>
          own.step (validated_of_reachable before.reachable) prompt moved
    exact own _ queued v rfl
  · obtain ⟨s, t, ran, queue, delays, recorded, checked, logged, still⟩ : ∃ s t,
        (sampleWindow p files opening).run (sampleWindow p files opening).init (hastyRun opening.reads) = some s ∧
          s.queue = [.check 0] ∧ s.delays = [.elapsed, .waiting] ∧ sinceConnected s.recorded = [] ∧
          s.step p (.dispatch opening.reads true) = some t ∧
          t.records = s.records.log p.fs p.formats (opening.reads, .logMarker noPayload) ∧
          t.delays = [.elapsed, .waiting] :=
      ⟨_, _, rfl, rfl, rfl, rfl, rfl, rfl, rfl⟩
    refine ⟨s, t, Machine.System.Reachable.run .init ran, queue, delays, ?_, checked, logged, still⟩
    rw [diagnosis, frames, payloads, recorded]
    rfl

end GestureSuite.SdkSample
