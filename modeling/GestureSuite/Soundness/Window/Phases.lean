import Mathlib
import GestureSuite.Model.Window
import GestureSuite.Soundness.Recording

/-! # The phases of the window

At every boundary between two events the window is in one of three phases: no sample, a sample being
collected, a sample waiting for its label. While a sample is collected, what its recorder has written and what
its counter has counted both belong to the same events; while it waits, nothing touches either.
-/

namespace GestureSuite.Window

open Text Recorder

namespace UiEvent

/-- The logging calls of the event's handler; a snapshot, which needs features, is not among them. -/
def calls : UiEvent → List (ClockReads × LogCall)
  | .gestureTriggered _ _ marker trigger => [(marker, .logMarker (utf16Encode trigger.result.gestureName.toList))]
  | .imuFrameProcessed _ now result => [(now, logProcessed result)]
  | .imuFrameProcessingFailed now .parseFailed payload => [(now, logFailed payload "parse-failed".toList)]
  | .imuFrameProcessingFailed now .poseFailed payload => [(now, logFailed payload "pose-failed".toList)]
  | .imuFrameProcessingFailed _ .success _ => []
  | .statusPayloadReceived now payload => [(now, .logStatus payload)]
  | .connectionStateChanged _ => []
  | .collectSampleClick _ _ => []
  | .dialogClosed _ _ => []

/-- A trigger whose hotkey was sent. -/
def isHotkey : UiEvent → Bool
  | .gestureTriggered _ _ _ trigger => trigger.result.hotkeySent
  | _ => false

def isClick : UiEvent → Bool
  | .collectSampleClick _ _ => true
  | _ => false

def isDialogClosed : UiEvent → Bool
  | .dialogClosed _ _ => true
  | _ => false

end UiEvent

section Records

variable (fs : FileSystem) (formats : Formats)

theorem foldl_log_recorder (calls : List (ClockReads × LogCall)) (r : Records) :
    (calls.foldl (Records.log fs formats) r).recorder = calls.foldl (Recorder.log formats) r.recorder := by
  induction calls generalizing r with
  | nil => rfl
  | cons call rest ih => exact ih (r.log fs formats call)

theorem foldl_log_currentFilePath (calls : List (ClockReads × LogCall)) (r : Records) :
    (calls.foldl (Records.log fs formats) r).currentFilePath = r.currentFilePath := by
  induction calls generalizing r with
  | nil => rfl
  | cons call rest ih => exact ih (r.log fs formats call)

/-- Nothing is logged while no file is open. -/
theorem foldl_log_of_closed (calls : List (ClockReads × LogCall)) {r : Records}
    (closed : r.recorder.writer = none) : calls.foldl (Records.log fs formats) r = r := by
  have once : ∀ call, r.log fs formats call = r := by
    intro call
    have same : Recorder.log formats r.recorder call = r.recorder := by
      rw [Recorder.log, writeEventInternal]
      rw [closed]
    obtain ⟨recorder, path, files⟩ := r
    rw [Records.log]
    dsimp only at same closed ⊢
    rw [same, closed]
    cases path <;> rfl
  induction calls with
  | nil => rfl
  | cons call rest ih => rw [List.foldl_cons, once call, ih]

theorem stopSession_files {r : Records} {path : NetString} {now : ClockReads} {writer : Writer}
    (current : r.currentFilePath = some path)
    (opened : (writeEventInternal formats now { eventType := .sessionStop } r.recorder).writer = some writer) :
    (r.stopSession fs formats now).files (fs.key path) = some writer.content := by
  rw [Records.stopSession]
  dsimp only [Records.stopSessionInternal]
  rw [current, opened]
  exact Function.update_self _ _ _

end Records

section Steps

variable (p : Platform)

/-- What an event that is neither a click nor the end of a dialog makes of the window. -/
structure Follows (event : UiEvent) (w w' : MainWindow) : Prop where
  records : w'.records = event.calls.foldl (Records.log p.fs p.formats) w.records
  collecting : w'.isSampleCollecting = w.isSampleCollecting
  path : w'.activeSampleFilePath = w.activeSampleFilePath
  count : w'.activeSampleTriggerCount =
    if w.isSampleCollecting && event.isHotkey then (w.activeSampleTriggerCount + 1).bmod (2 ^ 32)
    else w.activeSampleTriggerCount
  features : w'.recentFeatures = w.recentFeatures
  labelling : w'.labelling = w.labelling
  samples : w'.samples = w.samples

/-- Without features there is no snapshot. -/
theorem publishWindowFeatureSnapshot_of_nil {w : MainWindow} (empty : w.recentFeatures = []) (tag : List Char)
    (ticks : ℤ) (now : ClockReads) : w.publishWindowFeatureSnapshot p tag ticks now = w := by
  rw [MainWindow.publishWindowFeatureSnapshot]
  exact if_pos (by rw [empty]; rfl)

theorem next_follows {w : MainWindow} {event : UiEvent} (empty : w.recentFeatures = []) (other : event.isClick = false)
    (pending : w.labelling = none ∨ event.isDialogClosed = false) : Follows p event w (w.next p event) := by
  have uncounted : event.isHotkey = false → w.activeSampleTriggerCount =
      if w.isSampleCollecting && event.isHotkey then (w.activeSampleTriggerCount + 1).bmod (2 ^ 32)
      else w.activeSampleTriggerCount := by
    intro plain
    rw [plain, Bool.and_false, if_neg Bool.false_ne_true]
  cases event with
  | collectSampleClick start stop => cases other
  | dialogClosed result moved =>
    have none : w.labelling = none := pending.resolve_right (by simp [UiEvent.isDialogClosed])
    rw [MainWindow.next, none]
    exact ⟨rfl, rfl, rfl, uncounted rfl, rfl, rfl, rfl⟩
  | gestureTriggered ticks feature marker trigger =>
    rw [MainWindow.next, MainWindow.handleSdkGestureTriggered, publishWindowFeatureSnapshot_of_nil p empty]
    split
    · next counts => exact ⟨rfl, rfl, rfl, (if_pos counts).symm, rfl, rfl, rfl⟩
    · next skips => exact ⟨rfl, rfl, rfl, (if_neg skips).symm, rfl, rfl, rfl⟩
  | imuFrameProcessed ticks now result => exact ⟨rfl, rfl, rfl, uncounted rfl, rfl, rfl, rfl⟩
  | imuFrameProcessingFailed now status payload =>
    cases status <;> exact ⟨rfl, rfl, rfl, uncounted rfl, rfl, rfl, rfl⟩
  | statusPayloadReceived now payload => exact ⟨rfl, rfl, rfl, uncounted rfl, rfl, rfl, rfl⟩
  | connectionStateChanged state => cases state <;> exact ⟨rfl, rfl, rfl, uncounted rfl, rfl, rfl, rfl⟩

private theorem startSample_frame (w : MainWindow) (start : StartClick) :
    (w.startSample p start).recentFeatures = w.recentFeatures ∧ (w.startSample p start).samples = w.samples := by
  rw [MainWindow.startSample]
  split
  · exact ⟨rfl, rfl⟩
  · dsimp only
    split <;> exact ⟨rfl, rfl⟩

/-- A renaming takes the file along. -/
theorem tryRenameSampleFile_content {source content : NetString} {files : NetString → Option NetString}
    (there : files (p.fs.key source) = some content) (tag : List Char) (moved : Bool) :
    ∃ path, (tryRenameSampleFile p (some source) tag moved files).1 = some path ∧
      (tryRenameSampleFile p (some source) tag moved files).2 (p.fs.key path) = some content := by
  rw [tryRenameSampleFile]
  dsimp only
  split
  · exact ⟨source, rfl, there⟩
  · split
    · exact ⟨_, rfl, (Function.update_self _ _ _).trans there⟩
    · exact ⟨source, rfl, there⟩

/-- A finished sample's file holds what it held, and its tag is that of the counter. -/
private theorem finishSample_samples {w : MainWindow} {source content : NetString}
    (there : w.records.files (p.fs.key source) = some content) (tag : SampleResultTag) (moved : Bool × Bool) :
    ∃ sample : Sample, (w.finishSample p (some source) tag moved).samples = w.samples ++ [sample] ∧
      sample.content = some content ∧
      sample.triggerResultTag = if 0 < w.activeSampleTriggerCount then .triggered else .missed := by
  obtain ⟨first, named, kept⟩ := tryRenameSampleFile_content p there tag.text moved.1
  refine ⟨_, rfl, ?_, rfl⟩
  dsimp only
  rw [named]
  obtain ⟨second, renamed, held⟩ := tryRenameSampleFile_content p kept
    (if 0 < w.activeSampleTriggerCount then TriggerResultTag.triggered else .missed).text moved.2
  rw [renamed]
  exact held

end Steps

/-- The events after `i` and in front of `k`. -/
def between (events : List UiEvent) (i k : ℕ) : List UiEvent := (events.take k).drop (i + 1)

/-- A sample: a click that starts it, a click that stops it, and no click between the two. -/
structure SampleClicks (events : List UiEvent) (i : ℕ) (start : StartClick) (j : ℕ) (stop : StopClick) : Prop where
  started : ∃ unused, events[i]? = some (.collectSampleClick start unused)
  stopped : ∃ unused, events[j]? = some (.collectSampleClick unused stop)
  ordered : i < j
  quiet : ∀ event ∈ between events i j, event.isClick = false

/-- What the recorder is called with from the start of a sample to its end. -/
def sampleSession (events : List UiEvent) (i : ℕ) (start : StartClick) (j : ℕ) (stop : StopClick) :
    Recorder.Session where
  opened := start.opened
  start := start.reads
  sessionLabel := MainWindow.sampleLabel start.labelTime
  calls := (between events i j).flatMap UiEvent.calls ++
    [(stop.requested, .logMarker (utf16Encode "SAMPLE_STOP_REQUESTED".toList))]
  stop := stop.stop

/-- The triggers between two events whose hotkey was sent. -/
def hotkeys (events : List UiEvent) (i k : ℕ) : ℕ := (between events i k).countP UiEvent.isHotkey

section Phases

variable (p : Platform) (events : List UiEvent)

/-- Neither a sample nor a dialog. -/
structure Resting (w : MainWindow) : Prop where
  collecting : w.isSampleCollecting = false
  labelling : w.labelling = none
  closed : w.records.recorder.writer = none

/-- The click at `i` has started a sample and no click has stopped it. -/
structure Collecting (i : ℕ) (start : StartClick) (k : ℕ) (w : MainWindow) : Prop where
  started : ∃ unused, events[i]? = some (.collectSampleClick start unused)
  earlier : i < k
  quiet : ∀ event ∈ between events i k, event.isClick = false
  collecting : w.isSampleCollecting = true
  labelling : w.labelling = none
  recorder : ∃ s, w.records.recorder = ((between events i k).flatMap UiEvent.calls).foldl (Recorder.log p.formats)
    (startSession p.formats start.opened start.reads (MainWindow.sampleLabel start.labelTime) s)
  path : ∃ path, w.records.currentFilePath = some path ∧ w.activeSampleFilePath = some path
  count : w.activeSampleTriggerCount = sequenceAt (hotkeys events i k)

/-- The file of the sample from `i` to `j` is closed and its handler waits. -/
structure Waiting (i : ℕ) (start : StartClick) (j : ℕ) (stop : StopClick) (w : MainWindow) : Prop where
  clicks : SampleClicks events i start j stop
  collecting : w.isSampleCollecting = false
  closed : w.records.recorder.writer = none
  file : ∃ path, w.labelling = some { sourcePath := some path } ∧
    w.records.files (p.fs.key path) = some ((sampleSession events i start j stop).file p.formats)
  count : w.activeSampleTriggerCount = sequenceAt (hotkeys events i j)

/-- A finished sample stands for two clicks in front of `k`: its file is that of the session between them and
its tag that of the hotkeys between them. -/
def Finished (k : ℕ) (sample : Sample) : Prop :=
  ∃ i start j stop, SampleClicks events i start j stop ∧ j < k ∧
    sample.content = some ((sampleSession events i start j stop).file p.formats) ∧
    sample.triggerResultTag = if 0 < sequenceAt (hotkeys events i j) then .triggered else .missed

structure Phase (k : ℕ) (w : MainWindow) : Prop where
  features : w.recentFeatures = []
  samples : ∀ sample ∈ w.samples, Finished p events k sample
  phase : Resting w ∨ (∃ i start, Collecting p events i start k w) ∨
    ∃ i start j stop, j < k ∧ Waiting p events i start j stop w

variable {p events}

private theorem between_succ {i k : ℕ} {event : UiEvent} (earlier : i < k) (present : events[k]? = some event) :
    between events i (k + 1) = between events i k ++ [event] := by
  have bound := (List.getElem?_eq_some_iff.mp present).1
  have long : i + 1 ≤ (events.take k).length := by
    rw [List.length_take]
    omega
  rw [between, List.take_add_one, present, between, List.drop_append_of_le_length long]
  rfl

private theorem between_self {k : ℕ} : between events k (k + 1) = [] := by
  rw [between, List.drop_eq_nil_iff, List.length_take]
  omega

private theorem Finished.later {k : ℕ} {sample : Sample} (finished : Finished p events k sample) :
    Finished p events (k + 1) sample := by
  obtain ⟨i, start, j, stop, clicks, before, rest⟩ := finished
  exact ⟨i, start, j, stop, clicks, by omega, rest⟩

/-- An event that is no click carries a sample on. -/
private theorem Collecting.follows {i k : ℕ} {start : StartClick} {w w' : MainWindow} {event : UiEvent}
    (collecting : Collecting p events i start k w) (present : events[k]? = some event)
    (other : event.isClick = false) (follows : Follows p event w w') : Collecting p events i start (k + 1) w' := by
  have longer := between_succ collecting.earlier present
  obtain ⟨s, recorder⟩ := collecting.recorder
  obtain ⟨path, current, active⟩ := collecting.path
  constructor
  · exact collecting.started
  · exact Nat.lt_succ_of_lt collecting.earlier
  · intro e member
    rw [longer, List.mem_append, List.mem_singleton] at member
    rcases member with before | rfl
    · exact collecting.quiet e before
    · exact other
  · rw [follows.collecting, collecting.collecting]
  · rw [follows.labelling, collecting.labelling]
  · refine ⟨s, ?_⟩
    rw [follows.records, foldl_log_recorder, recorder, longer, List.flatMap_append, List.foldl_append,
      List.flatMap_singleton]
  · refine ⟨path, ?_, ?_⟩
    · rw [follows.records, foldl_log_currentFilePath, current]
    · rw [follows.path, active]
  · rw [follows.count, collecting.collecting, collecting.count, hotkeys, hotkeys, longer, List.countP_append,
      List.countP_singleton, Bool.true_and]
    split
    · exact sequenceAt_succ _
    · rfl

/-- A click between samples starts one, unless it is refused or the file cannot be created. -/
private theorem Resting.startSample {k : ℕ} {start : StartClick} {stop : StopClick} {w : MainWindow}
    (resting : Resting w) (present : events[k]? = some (.collectSampleClick start stop)) :
    Resting (w.startSample p start) ∨ Collecting p events k start (k + 1) (w.startSample p start) := by
  have noEvents : between events k (k + 1) = [] := between_self
  rw [MainWindow.startSample]
  split
  · exact .inl resting
  · dsimp only
    split
    · next created =>
      right
      constructor
      · exact ⟨stop, present⟩
      · exact Nat.lt_succ_self k
      · simp [noEvents]
      · rfl
      · exact resting.labelling
      · refine ⟨w.records.recorder, ?_⟩
        rw [noEvents, Records.startSession, if_pos created]
        rfl
      · refine ⟨_, ?_, rfl⟩
        rw [Records.startSession, if_pos created]
      · rw [hotkeys, noEvents]
        rfl
    · next failed =>
      left
      constructor
      · exact resting.collecting
      · exact resting.labelling
      · rw [Records.startSession, if_neg failed]
        rfl

/-- The file that a stop click closes is that of the session since the start of the sample. -/
private theorem Collecting.closedFile {i k : ℕ} {start : StartClick} {w : MainWindow}
    (collecting : Collecting p events i start k w) (stop : StopClick) :
    ∃ path, w.activeSampleFilePath = some path ∧
      ((w.records.log p.fs p.formats
        (stop.requested, .logMarker (utf16Encode "SAMPLE_STOP_REQUESTED".toList))).stopSession
        p.fs p.formats stop.stop).files (p.fs.key path) =
        some ((sampleSession events i start k stop).file p.formats) := by
  obtain ⟨s, recorder⟩ := collecting.recorder
  obtain ⟨path, current, active⟩ := collecting.path
  refine ⟨path, active, ?_⟩
  let session := sampleSession events i start k stop
  have calls : session.calls = (between events i k).flatMap UiEvent.calls ++
      [(stop.requested, .logMarker (utf16Encode "SAMPLE_STOP_REQUESTED".toList))] := rfl
  have logged : Recorder.log p.formats w.records.recorder
      (stop.requested, .logMarker (utf16Encode "SAMPLE_STOP_REQUESTED".toList)) =
      session.calls.foldl (Recorder.log p.formats)
        (startSession p.formats session.opened session.start session.sessionLabel s) := by
    rw [recorder, calls, List.foldl_append]
    rfl
  obtain ⟨writer, opened, content⟩ := session_content p.formats session s
  rw [← logged] at opened
  rw [← content]
  exact stopSession_files p.fs p.formats current opened

/-- A click during a sample closes its file and leaves its handler at the dialog, if there is one. -/
private theorem Collecting.stopSample {i k : ℕ} {start unused : StartClick} {stop : StopClick} {w : MainWindow}
    (collecting : Collecting p events i start k w) (empty : w.recentFeatures = [])
    (present : events[k]? = some (.collectSampleClick unused stop)) :
    ∃ path stopped, Waiting p events i start k stop stopped ∧ stopped.labelling = some { sourcePath := some path } ∧
      stopped.samples = w.samples ∧ stopped.recentFeatures = [] ∧
      w.stopSample p stop =
        if stop.hasXamlRoot then stopped else stopped.finishSample p (some path) .unknown stop.moved := by
  obtain ⟨path, active, file⟩ := collecting.closedFile stop
  refine ⟨path, { w with
    records := (w.records.log p.fs p.formats
      (stop.requested, .logMarker (utf16Encode "SAMPLE_STOP_REQUESTED".toList))).stopSession p.fs p.formats stop.stop
    isSampleCollecting := false
    activeSampleFilePath := none
    labelling := some { sourcePath := some path } }, ?_, rfl, rfl, empty, ?_⟩
  · constructor
    · exact ⟨collecting.started, ⟨unused, present⟩, collecting.earlier, collecting.quiet⟩
    · rfl
    · rfl
    · exact ⟨path, rfl, file⟩
    · exact collecting.count
  · rw [MainWindow.stopSample, publishWindowFeatureSnapshot_of_nil p empty]
    dsimp only [MainWindow.log]
    rw [active]
    split
    · rfl
    · rfl

/-- The end of the handler leaves no sample open, and one more finished. -/
private theorem Waiting.finishSample {i j k : ℕ} {start : StartClick} {stop : StopClick} {w : MainWindow}
    (waiting : Waiting p events i start j stop w) {path : NetString}
    (labelling : w.labelling = some { sourcePath := some path }) (before : j < k) (tag : SampleResultTag)
    (moved : Bool × Bool) :
    Resting (w.finishSample p (some path) tag moved) ∧
      ∃ sample, (w.finishSample p (some path) tag moved).samples = w.samples ++ [sample] ∧
        Finished p events k sample := by
  obtain ⟨path', same, there⟩ := waiting.file
  obtain rfl : path = path' := by
    have paths := labelling.symm.trans same
    simpa using paths
  constructor
  · exact ⟨waiting.collecting, rfl, waiting.closed⟩
  · obtain ⟨sample, added, content, tagged⟩ := finishSample_samples p there tag moved
    rw [waiting.count] at tagged
    exact ⟨sample, added, i, start, j, stop, waiting.clicks, before, content, tagged⟩

private theorem Phase.click {k : ℕ} {start : StartClick} {stop : StopClick} {w : MainWindow}
    (phase : Phase p events k w) (present : events[k]? = some (.collectSampleClick start stop)) :
    Phase p events (k + 1) (w.next p (.collectSampleClick start stop)) := by
  have later : ∀ sample ∈ w.samples, Finished p events (k + 1) sample :=
    fun sample member => (phase.samples sample member).later
  rw [MainWindow.next]
  rcases phase.phase with resting | ⟨i, first, collecting⟩ | ⟨i, first, j, last, before, waiting⟩
  · rw [resting.labelling, if_neg (by simp), MainWindow.collectSampleButtonClick, resting.collecting, if_pos (by simp)]
    obtain ⟨features, samples⟩ := startSample_frame p w start
    refine ⟨features.trans phase.features, samples ▸ later, ?_⟩
    rcases resting.startSample present with still | started
    · exact .inl still
    · exact .inr (.inl ⟨k, start, started⟩)
  · rw [collecting.labelling, if_neg (by simp), MainWindow.collectSampleButtonClick, collecting.collecting,
      if_neg (by simp)]
    obtain ⟨path, stopped, waiting, labelling, samples, features, stops⟩ :=
      collecting.stopSample phase.features present
    rw [stops]
    split
    · exact ⟨features, samples ▸ later, .inr (.inr ⟨i, first, k, stop, Nat.lt_succ_self k, waiting⟩)⟩
    · obtain ⟨resting, sample, added, finished⟩ :=
        waiting.finishSample labelling (Nat.lt_succ_self k) .unknown stop.moved
      refine ⟨features, ?_, .inl resting⟩
      rw [added, samples, List.forall_mem_append, List.forall_mem_singleton]
      exact ⟨later, finished⟩
  · obtain ⟨path, labelling, -⟩ := waiting.file
    rw [labelling, Option.isSome_some, if_pos rfl]
    exact ⟨phase.features, later, .inr (.inr ⟨i, first, j, last, by omega, waiting⟩)⟩

/-- An event that is neither a click nor the end of an open dialog changes nothing while no file is open. -/
private theorem Follows.of_closed {event : UiEvent} {w w' : MainWindow} (follows : Follows p event w w')
    (closed : w.records.recorder.writer = none) (collecting : w.isSampleCollecting = false) :
    w'.records = w.records ∧ w'.activeSampleTriggerCount = w.activeSampleTriggerCount := by
  constructor
  · rw [follows.records, foldl_log_of_closed p.fs p.formats event.calls closed]
  · rw [follows.count, collecting, Bool.false_and, if_neg Bool.false_ne_true]

private theorem Phase.follows {k : ℕ} {event : UiEvent} {w w' : MainWindow} (phase : Phase p events k w)
    (present : events[k]? = some event) (other : event.isClick = false) (follows : Follows p event w w') :
    Phase p events (k + 1) w' := by
  have later : ∀ sample ∈ w'.samples, Finished p events (k + 1) sample := by
    rw [follows.samples]
    exact fun sample member => (phase.samples sample member).later
  refine ⟨follows.features.trans phase.features, later, ?_⟩
  rcases phase.phase with resting | ⟨i, start, collecting⟩ | ⟨i, start, j, stop, before, waiting⟩
  · obtain ⟨records, -⟩ := follows.of_closed resting.closed resting.collecting
    left
    constructor
    · rw [follows.collecting, resting.collecting]
    · rw [follows.labelling, resting.labelling]
    · rw [records, resting.closed]
  · exact .inr (.inl ⟨i, start, collecting.follows present other follows⟩)
  · obtain ⟨records, count⟩ := follows.of_closed waiting.closed waiting.collecting
    refine .inr (.inr ⟨i, start, j, stop, by omega, ?_⟩)
    constructor
    · exact waiting.clicks
    · rw [follows.collecting, waiting.collecting]
    · rw [records, waiting.closed]
    · rw [records, follows.labelling]
      exact waiting.file
    · rw [count, waiting.count]

private theorem Phase.next {k : ℕ} {event : UiEvent} {w : MainWindow} (phase : Phase p events k w)
    (present : events[k]? = some event) : Phase p events (k + 1) (w.next p event) := by
  cases click : event.isClick with
  | true =>
    cases event with
    | collectSampleClick start stop => exact phase.click present
    | _ => cases click
  | false =>
    by_cases pending : w.labelling = none ∨ event.isDialogClosed = false
    · exact phase.follows present click (next_follows p phase.features click pending)
    · -- only a dialog that is open is closed
      obtain ⟨isOpen, closes⟩ := not_or.mp pending
      cases event with
      | dialogClosed result moved =>
        rcases phase.phase with resting | ⟨i, start, collecting⟩ | ⟨i, start, j, stop, before, waiting⟩
        · exact absurd resting.labelling isOpen
        · exact absurd collecting.labelling isOpen
        · obtain ⟨path, labelling, -⟩ := waiting.file
          obtain ⟨resting, sample, added, finished⟩ :=
            waiting.finishSample labelling (Nat.lt_succ_of_lt before) (MainWindow.resultTag result) moved
          rw [MainWindow.next, labelling]
          refine ⟨phase.features, ?_, .inl resting⟩
          rw [added, List.forall_mem_append, List.forall_mem_singleton]
          exact ⟨fun other old => (phase.samples other old).later, finished⟩
      | _ => exact absurd rfl closes

private theorem writeEventInternal_isSome (formats : Formats) (now : ClockReads) (e : Recorder.Event) (s : State) :
    (writeEventInternal formats now e s).writer.isSome = s.writer.isSome := by
  rw [writeEventInternal]
  cases opened : s.writer with
  | none => simp [opened]
  | some writer =>
    dsimp only
    split <;> rfl

private theorem foldl_log_isSome (formats : Formats) (calls : List (ClockReads × LogCall)) (s : State) :
    (calls.foldl (Recorder.log formats) s).writer.isSome = s.writer.isSome := by
  induction calls generalizing s with
  | nil => rfl
  | cons call rest ih => exact (ih _).trans (writeEventInternal_isSome formats call.1 call.2.event s)

/-- A file is open exactly while a sample is collected. -/
theorem Phase.isSome_eq {k : ℕ} {w : MainWindow} (phase : Phase p events k w) :
    w.records.recorder.writer.isSome = w.isSampleCollecting := by
  rcases phase.phase with resting | ⟨i, start, collecting⟩ | ⟨i, start, j, stop, before, waiting⟩
  · rw [resting.closed, resting.collecting]
    rfl
  · obtain ⟨s, recorder⟩ := collecting.recorder
    rw [recorder, foldl_log_isSome, startSession, writeEventInternal_isSome, collecting.collecting]
    rfl
  · rw [waiting.closed, waiting.collecting]
    rfl

theorem Phase.labelling_eq {k : ℕ} {w : MainWindow} (phase : Phase p events k w)
    (collecting : w.isSampleCollecting = true) : w.labelling = none := by
  rcases phase.phase with resting | ⟨i, start, active⟩ | ⟨i, start, j, stop, before, waiting⟩
  · exact resting.labelling
  · exact active.labelling
  · cases waiting.collecting.symm.trans collecting

/-- Every state of a run is in one of the phases. -/
theorem windowAt_phase (files : NetString → Option NetString) (k : ℕ) (bound : k ≤ events.length) :
    Phase p events k (windowAt p files events k) := by
  apply Machine.trajectory_invariant (MainWindow.next p) _ events (Phase p events) _ _ k bound
  · exact ⟨rfl, fun sample member => absurd member (List.not_mem_nil), .inl ⟨rfl, rfl, rfl⟩⟩
  · exact fun k event present phase => phase.next present

end Phases

end GestureSuite.Window
