import Mathlib
import GestureSuite.Soundness.Window.Samples

/-! # Snapshots that are not taken

A trigger and the end of a sample ask for a snapshot of the frames of the last 1.2 seconds. No handler puts a
frame into the queue the snapshot is taken from, so none is ever written.
-/

namespace GestureSuite.Window

open Text Recorder

/-- The reading of the clock at which the event asks for a snapshot. -/
def UiEvent.snapshotTicks : UiEvent → Option ℤ
  | .gestureTriggered ticks _ _ _ => some ticks
  | .collectSampleClick _ stop => some stop.ticks
  | _ => none

/-- The frames that `handleImuFrameProcessed` has handled within the window of a snapshot. -/
def recentFrames (p : Platform) (events : List UiEvent) (ticks : ℤ) : List (ℤ × ImuProcessingResult) :=
  events.filterMap fun
    | .imuFrameProcessed handled _ result =>
      if ticks - p.rate.ticks featureWindowSeconds ≤ handled then some (handled, result) else none
    | _ => none

/-- What a stop click does to the recorder after it has logged. -/
def UiEvent.closes (p : Platform) : UiEvent → State → State
  | .collectSampleClick _ stop, s => stopSession p.formats stop.stop s
  | _, s => s

/-- These logging calls are what the event adds to the recorder. -/
def Writes (p : Platform) (w : MainWindow) (event : UiEvent) (calls : List (ClockReads × LogCall)) : Prop :=
  (w.next p event).records.recorder = event.closes p (calls.foldl (Recorder.log p.formats) w.records.recorder)

/-- Among what the event writes is the marker of a snapshot of exactly these frames. -/
def SnapshotWritten (p : Platform) (w : MainWindow) (event : UiEvent) (frames : List (ℤ × ImuProcessingResult)) :
    Prop :=
  ∀ calls, Writes p w event calls → ∃ call ∈ calls, ∃ tag features,
    call.2 = .logMarker (utf16Encode (featureLine p tag features)) ∧
    features.map (·.ticks) = frames.map (·.1)

private theorem featureLine_head (p : Platform) (tag : List Char) (features : List MotionFrameFeature) :
    (featureLine p tag features).head? = some 'F' := by
  have first : "FEATURE[".toList.head? = some 'F' := by decide
  delta featureLine
  dsimp only
  simp only [List.head?_append, first, Option.some_or]

private theorem featureLine_ne {p : Platform} {tag : List Char} {features : List MotionFrameFeature} {note : List Char}
    (other : note.head? ≠ some 'F') :
    LogCall.logMarker (utf16Encode note) ≠ .logMarker (utf16Encode (featureLine p tag features)) := by
  intro same
  have units : utf16Encode note = utf16Encode (featureLine p tag features) := by simpa using same
  have texts : note = featureLine p tag features := by
    rw [← utf16Decode_utf16Encode note, units, utf16Decode_utf16Encode]
  apply other
  rw [texts, featureLine_head]

/-- An event that only writes one other marker takes no snapshot. -/
private theorem not_snapshotWritten {p : Platform} {w : MainWindow} {event : UiEvent} {now : ClockReads}
    {note : List Char} (writes : Writes p w event [(now, .logMarker (utf16Encode note))])
    (other : note.head? ≠ some 'F') (frames : List (ℤ × ImuProcessingResult)) :
    ¬SnapshotWritten p w event frames := by
  intro written
  obtain ⟨call, member, tag, features, marker, -⟩ := written _ writes
  obtain rfl := List.mem_singleton.mp member
  exact featureLine_ne other marker

private theorem trigger_writes {p : Platform} {w : MainWindow} (empty : w.recentFeatures = []) (ticks : ℤ)
    (feature marker : ClockReads) (trigger : SdkTrigger) :
    Writes p w (.gestureTriggered ticks feature marker trigger)
      [(marker, .logMarker (utf16Encode "MOUTH_HOLD".toList))] := by
  have follows : Follows p (.gestureTriggered ticks feature marker trigger) w _ := next_follows p empty rfl (.inr rfl)
  rw [Writes, follows.records, foldl_log_recorder, ← trigger.named]
  rfl

private theorem click_writes {p : Platform} {w : MainWindow} (empty : w.recentFeatures = [])
    (collecting : w.isSampleCollecting = true) (labelling : w.labelling = none) (start : StartClick)
    (stop : StopClick) :
    Writes p w (.collectSampleClick start stop)
      [(stop.requested, .logMarker (utf16Encode "SAMPLE_STOP_REQUESTED".toList))] := by
  rw [Writes, MainWindow.next, labelling, if_neg (by simp), MainWindow.collectSampleButtonClick, collecting,
    if_neg (by simp), MainWindow.stopSample, publishWindowFeatureSnapshot_of_nil p empty]
  dsimp only
  split <;> rfl

/-- Whatever frames have been handled, a trigger or a stop click during a sample writes no snapshot. -/
theorem snapshot_never_written (p : Platform) (files : NetString → Option NetString) (events : List UiEvent)
    {event : UiEvent} {ticks : ℤ} (asks : event.snapshotTicks = some ticks)
    (isOpen : (windowAt p files events events.length).records.recorder.writer.isSome = true) :
    ¬SnapshotWritten p (windowAt p files events events.length) event (recentFrames p events ticks) := by
  have phase : Phase p events events.length (windowAt p files events events.length) := windowAt_phase files _ le_rfl
  have collecting : (windowAt p files events events.length).isSampleCollecting = true :=
    phase.isSome_eq.symm.trans isOpen
  cases event with
  | gestureTriggered ticks feature marker trigger =>
    exact not_snapshotWritten (trigger_writes phase.features ticks feature marker trigger) (by decide) _
  | collectSampleClick start stop =>
    have labelling := phase.labelling_eq collecting
    exact not_snapshotWritten (click_writes phase.features collecting labelling start stop) (by decide) _
  | _ => cases asks

/-- A frame that makes the stream known, and a click that starts a sample. -/
def startedEvents : List UiEvent := [sampleFrame, .collectSampleClick sampleStart sampleStop]

theorem snapshot_never_written_startedEvents :
    (recentFrames samplePlatform startedEvents 0).length = 1 ∧
      ¬SnapshotWritten samplePlatform (windowAt samplePlatform (fun _ => none) startedEvents 2)
        (.collectSampleClick sampleStart sampleStop) (recentFrames samplePlatform startedEvents 0) :=
  ⟨by decide +kernel, snapshot_never_written samplePlatform (fun _ => none) startedEvents rfl rfl⟩

/-- A trigger right after one frame of an open sample leaves no snapshot of it. -/
theorem trigger_without_snapshot :
    (windowAt samplePlatform (fun _ => none) startedEvents 2).records.recorder.writer.isSome = true ∧
      (recentFrames samplePlatform startedEvents 0).length = 1 ∧
      ¬SnapshotWritten samplePlatform (windowAt samplePlatform (fun _ => none) startedEvents 2) sampleTrigger
        (recentFrames samplePlatform startedEvents 0) :=
  ⟨rfl, by decide +kernel, not_snapshotWritten (trigger_writes rfl _ _ _ _) (by decide) _⟩

end GestureSuite.Window
