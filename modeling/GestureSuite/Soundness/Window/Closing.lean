import GestureSuite.Soundness.Window.Samples

/-! # Closing the window

A sample that is being collected when the window is closed ends there: its file is marked as unfinished and
closed. A sample that waits for its label has its file already. In both cases nothing that the UI thread still
handles, and nothing of the rest of the closing, takes a line from the file.
-/

namespace GestureSuite.Window

open Text Recorder

section Closed

variable (fs : FileSystem) (formats : Formats) {r : Records}

theorem stopSessionInternal_of_closed (closed : r.recorder.writer = none) :
    (r.stopSessionInternal fs).files = r.files ∧ (r.stopSessionInternal fs).recorder.writer = none := by
  refine ⟨?_, rfl⟩
  rw [Records.stopSessionInternal, closed]
  cases r.currentFilePath <;> rfl

private theorem log_of_closed (closed : r.recorder.writer = none) (call : ClockReads × LogCall) :
    r.log fs formats call = r :=
  foldl_log_of_closed fs formats [call] closed

private theorem stopSession_of_closed (closed : r.recorder.writer = none) (now : ClockReads) :
    (r.stopSession fs formats now).files = r.files ∧ (r.stopSession fs formats now).recorder.writer = none := by
  have unwritten : writeEventInternal formats now { eventType := .sessionStop } r.recorder = r.recorder := by
    rw [writeEventInternal, closed]
  have unchanged : Records.persist fs r.currentFilePath r.recorder.writer r.files = r.files := by
    rw [closed]
    cases r.currentFilePath <;> rfl
  refine ⟨?_, rfl⟩
  rw [Records.stopSession, unwritten, unchanged]
  exact (stopSessionInternal_of_closed fs closed).1

end Closed

section Kept

variable (p : Platform)

/-- The window can tell where the file is: it is that of the sample collected last, that of the sample whose
label is asked for, or that of a finished sample. -/
def MainWindow.Names (w : MainWindow) (path : NetString) : Prop :=
  w.activeSampleFilePath = some path ∨ w.labelling = some { sourcePath := some path } ∨
    ∃ sample ∈ w.samples, sample.path = some path

/-- No file is open, and one the window can tell has the given content. -/
structure Kept (content : NetString) (w : MainWindow) : Prop where
  features : w.recentFeatures = []
  closed : w.records.recorder.writer = none
  file : ∃ path, w.Names path ∧ w.records.files (p.fs.key path) = some content
  /-- A dialog is open only for the file itself. -/
  dialog : ∀ waiting, w.labelling = some waiting →
    ∃ path, waiting.sourcePath = some path ∧ w.records.files (p.fs.key path) = some content

variable {p} {content : NetString} {w : MainWindow}

/-- What changes neither a file nor a name keeps the file. -/
private theorem Kept.of_files {w' : MainWindow} (kept : Kept p content w) (features : w'.recentFeatures = [])
    (closed : w'.records.recorder.writer = none) (files : w'.records.files = w.records.files)
    (active : w'.activeSampleFilePath = w.activeSampleFilePath) (labelling : w'.labelling = w.labelling)
    (samples : w'.samples = w.samples) : Kept p content w' := by
  constructor
  · exact features
  · exact closed
  · obtain ⟨path, names, there⟩ := kept.file
    refine ⟨path, ?_, ?_⟩
    · rw [MainWindow.Names, active, labelling, samples]
      exact names
    · rw [files, there]
  · rw [files, labelling]
    exact kept.dialog

private theorem Kept.appWindowClosing (kept : Kept p content w) (marker stop : ClockReads) :
    Kept p content (w.appWindowClosing p marker stop) := by
  rw [MainWindow.appWindowClosing]
  split
  · have unmarked : w.log p marker (.logMarker (utf16Encode "SAMPLE_RESULT:UNFINISHED_EXIT".toList)) = w := by
      rw [MainWindow.log, log_of_closed p.fs p.formats kept.closed]
    rw [unmarked]
    obtain ⟨files, closed⟩ := stopSession_of_closed p.fs p.formats kept.closed stop
    exact kept.of_files kept.features closed files rfl rfl rfl
  · exact kept

private theorem Kept.disposeRecorder (kept : Kept p content w) : Kept p content (w.disposeRecorder p) := by
  obtain ⟨files, closed⟩ := stopSessionInternal_of_closed p.fs kept.closed
  exact kept.of_files kept.features closed files rfl rfl rfl

/-- The answer to the dialog moves the file, and the finished sample tells where to. -/
private theorem Kept.finishSample {path : NetString} (kept : Kept p content w)
    (there : w.records.files (p.fs.key path) = some content) (tag : SampleResultTag) (moved : Bool × Bool) :
    Kept p content (w.finishSample p (some path) tag moved) := by
  obtain ⟨first, named, held⟩ := tryRenameSampleFile_content p there tag.text moved.1
  obtain ⟨second, renamed, there'⟩ := tryRenameSampleFile_content p held
    (if 0 < w.activeSampleTriggerCount then TriggerResultTag.triggered else .missed).text moved.2
  constructor
  · exact kept.features
  · exact kept.closed
  · refine ⟨second, .inr (.inr ⟨_, List.mem_append_right _ (List.mem_singleton_self _), ?_⟩), ?_⟩
    · dsimp only
      rw [named, renamed]
      rfl
    · rw [MainWindow.finishSample]
      dsimp only
      rw [named]
      exact there'
  · intro waiting still
    cases still

private theorem Kept.next {event : UiEvent} (kept : Kept p content w) (other : event.isClick = false) :
    Kept p content (w.next p event) := by
  by_cases pending : w.labelling = none ∨ event.isDialogClosed = false
  · have follows := next_follows p kept.features other pending
    have records : (w.next p event).records = w.records := by
      rw [follows.records, foldl_log_of_closed p.fs p.formats event.calls kept.closed]
    exact kept.of_files (follows.features.trans kept.features) (by rw [records, kept.closed]) (by rw [records])
      follows.path follows.labelling follows.samples
  · obtain ⟨isOpen, closes⟩ := not_or.mp pending
    cases event with
    | dialogClosed result moved =>
      obtain ⟨waiting, labelling⟩ := Option.ne_none_iff_exists'.mp isOpen
      obtain ⟨path, source, there⟩ := kept.dialog waiting labelling
      rw [MainWindow.next, labelling]
      dsimp only
      rw [source]
      exact kept.finishSample there (MainWindow.resultTag result) moved
    | _ => exact absurd rfl closes

private theorem Kept.exitNext {event : ExitEvent} (kept : Kept p content w)
    (noClick : ∀ handled, event = .handled handled → handled.isClick = false) :
    Kept p content (w.exitNext p event) := by
  cases event with
  | closing marker stop => exact kept.appWindowClosing marker stop
  | handled event => exact kept.next (noClick event rfl)
  | disposed => exact kept.disposeRecorder

private theorem Kept.exits {exits : List ExitEvent} (kept : Kept p content w)
    (noClick : ∀ handled, .handled handled ∈ exits → handled.isClick = false) :
    Kept p content (exits.foldl (MainWindow.exitNext p) w) := by
  induction exits generalizing w with
  | nil => exact kept
  | cons event rest ih =>
    apply ih
    · exact kept.exitNext fun handled same => noClick handled (same ▸ List.mem_cons_self)
    · exact fun handled member => noClick handled (List.mem_cons_of_mem event member)

end Kept

/-- What the recorder is called with from the start of a sample to the closing of the window in front of `k`. -/
def unfinishedSession (events : List UiEvent) (i : ℕ) (start : StartClick) (k : ℕ) (marker stop : ClockReads) :
    Recorder.Session where
  opened := start.opened
  start := start.reads
  sessionLabel := MainWindow.sampleLabel start.labelTime
  calls := (between events i k).flatMap UiEvent.calls ++
    [(marker, .logMarker (utf16Encode "SAMPLE_RESULT:UNFINISHED_EXIT".toList))]
  stop := stop

section Closing

variable {p : Platform} {events : List UiEvent} {w : MainWindow} {k : ℕ}

/-- The closing ends the session of the sample that is being collected. -/
private theorem Collecting.appWindowClosing {i : ℕ} {start : StartClick}
    (collecting : Collecting p events i start k w) (features : w.recentFeatures = []) (marker stop : ClockReads) :
    Kept p ((unfinishedSession events i start k marker stop).file p.formats) (w.appWindowClosing p marker stop) := by
  obtain ⟨s, recorder⟩ := collecting.recorder
  obtain ⟨path, current, active⟩ := collecting.path
  let session := unfinishedSession events i start k marker stop
  have logged : Recorder.log p.formats w.records.recorder
      (marker, .logMarker (utf16Encode "SAMPLE_RESULT:UNFINISHED_EXIT".toList)) =
      session.calls.foldl (Recorder.log p.formats)
        (startSession p.formats session.opened session.start session.sessionLabel s) := by
    rw [recorder]
    change _ = ((between events i k).flatMap UiEvent.calls ++ [_]).foldl _ _
    rw [List.foldl_append]
    rfl
  obtain ⟨writer, opened, content⟩ := session_content p.formats session s
  rw [← logged] at opened
  rw [MainWindow.appWindowClosing, if_pos collecting.collecting]
  constructor
  · exact features
  · rfl
  · refine ⟨path, .inl active, ?_⟩
    rw [← content]
    exact stopSession_files p.fs p.formats current opened
  · intro waiting labelling
    cases collecting.labelling.symm.trans labelling

private theorem Waiting.kept {i j : ℕ} {start : StartClick} {stop : StopClick}
    (waiting : Waiting p events i start j stop w) (features : w.recentFeatures = []) :
    Kept p ((sampleSession events i start j stop).file p.formats) w := by
  obtain ⟨path, labelling, there⟩ := waiting.file
  constructor
  · exact features
  · exact waiting.closed
  · exact ⟨path, .inr (.inl labelling), there⟩
  · intro other same
    obtain rfl : { sourcePath := some path } = other := by
      have both := labelling.symm.trans same
      simpa using both
    exact ⟨path, rfl, there⟩

/-- Without a sample and without a dialog the window stays as it is. -/
private theorem Resting.exits {exits : List ExitEvent} (resting : Resting w) (features : w.recentFeatures = [])
    (noClick : ∀ handled, .handled handled ∈ exits → handled.isClick = false) :
    (exits.foldl (MainWindow.exitNext p) w).records.recorder.writer = none := by
  induction exits generalizing w with
  | nil => exact resting.closed
  | cons event rest ih =>
    have later : ∀ handled, .handled handled ∈ rest → handled.isClick = false :=
      fun handled member => noClick handled (List.mem_cons_of_mem event member)
    cases event with
    | closing marker stop =>
      have same : w.exitNext p (.closing marker stop) = w := if_neg (by rw [resting.collecting]; simp)
      rw [List.foldl_cons, same]
      exact ih resting features later
    | handled event =>
      have follows := next_follows p features (noClick event List.mem_cons_self) (.inl resting.labelling)
      have records : (w.next p event).records = w.records := by
        rw [follows.records, foldl_log_of_closed p.fs p.formats event.calls resting.closed]
      refine ih ⟨?_, ?_, ?_⟩ (follows.features.trans features) later
      · exact follows.collecting.trans resting.collecting
      · exact follows.labelling.trans resting.labelling
      · exact records ▸ resting.closed
    | disposed => exact ih ⟨resting.collecting, resting.labelling, rfl⟩ features later

end Closing

/-- Whenever the window is closed, what it collected stays: a sample being collected has its whole session in
its file, down to the mark of the exit, and a sample waiting for its label the session between its clicks. -/
theorem closing_keeps_samples (p : Platform) (files : NetString → Option NetString) (events : List UiEvent)
    (marker stop : ClockReads) (exits : List ExitEvent)
    (noClick : ∀ handled, .handled handled ∈ exits → handled.isClick = false) :
    let w := windowAt p files events events.length
    let exited := exits.foldl (MainWindow.exitNext p) (w.appWindowClosing p marker stop)
    (w.isSampleCollecting = true → ∃ i start path,
      (∃ unused, events[i]? = some (.collectSampleClick start unused)) ∧
      (∀ event ∈ between events i events.length, event.isClick = false) ∧ exited.Names path ∧
      exited.records.files (p.fs.key path) =
        some ((unfinishedSession events i start events.length marker stop).file p.formats)) ∧
    (w.labelling.isSome = true → ∃ i start j last path, SampleClicks events i start j last ∧ exited.Names path ∧
      exited.records.files (p.fs.key path) = some ((sampleSession events i start j last).file p.formats)) ∧
    exited.records.recorder.writer = none := by
  intro w exited
  have phase : Phase p events events.length w := windowAt_phase files events.length le_rfl
  rcases phase.phase with resting | ⟨i, start, collecting⟩ | ⟨i, start, j, last, before, waiting⟩
  · refine ⟨?_, ?_, ?_⟩
    · rw [resting.collecting]
      simp
    · rw [resting.labelling]
      simp
    · have same : w.appWindowClosing p marker stop = w := if_neg (by rw [resting.collecting]; simp)
      change (exits.foldl (MainWindow.exitNext p) (w.appWindowClosing p marker stop)).records.recorder.writer = none
      rw [same]
      exact resting.exits phase.features noClick
  · have kept := (collecting.appWindowClosing phase.features marker stop).exits noClick
    obtain ⟨path, names, there⟩ := kept.file
    refine ⟨fun _ => ⟨i, start, path, collecting.started, collecting.quiet, names, there⟩, ?_, kept.closed⟩
    rw [collecting.labelling]
    simp
  · have kept := ((waiting.kept phase.features).appWindowClosing marker stop).exits noClick
    obtain ⟨path, names, there⟩ := kept.file
    refine ⟨?_, fun _ => ⟨i, start, j, last, path, waiting.clicks, names, there⟩, kept.closed⟩
    rw [waiting.collecting]
    simp

/-- A sample with one trigger, and the window closed in the middle of it. -/
def interruptedRun : List UiEvent := [sampleFrame, .collectSampleClick sampleStart sampleStop, sampleTrigger]

theorem closing_keeps_samples_interrupted :
    let w := windowAt samplePlatform (fun _ => none) interruptedRun 3
    w.isSampleCollecting = true ∧ ∃ i start path,
      (∃ unused, interruptedRun[i]? = some (.collectSampleClick start unused)) ∧
      (([ExitEvent.handled sampleTrigger, .disposed].foldl (MainWindow.exitNext samplePlatform)
        (w.appWindowClosing samplePlatform (sampleClock 3) (sampleClock 4))).records.files
          (samplePlatform.fs.key path) =
        some ((unfinishedSession interruptedRun i start 3 (sampleClock 3) (sampleClock 4)).file
          samplePlatform.formats)) := by
  have collecting : (windowAt samplePlatform (fun _ => none) interruptedRun 3).isSampleCollecting = true := rfl
  refine ⟨collecting, ?_⟩
  obtain ⟨i, start, path, started, -, -, there⟩ :=
    (closing_keeps_samples samplePlatform (fun _ => none) interruptedRun (sampleClock 3) (sampleClock 4)
      [.handled sampleTrigger, .disposed] (by simp [sampleTrigger, UiEvent.isClick])).1 collecting
  exact ⟨i, start, path, started, there⟩

end GestureSuite.Window
