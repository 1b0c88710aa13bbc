import Mathlib
import GestureSuite.Soundness.Gesture.Step
import GestureSuite.Soundness.Records
import GestureSuite.Soundness.Window.Phases

/-! # Samples and their tags

The tag of a sample comes from a counter of the window and its rows from the recorder. Both follow the events
between the two clicks of the sample, so they agree as long as the counter does not overflow.
-/

namespace GestureSuite.Window

open Text Recorder

/-- What the detector raises can be handled. -/
def SdkTrigger.ofRaised {rate : Gesture.TickRate} {d : Gesture.Detector} {frame : Gesture.Frame}
    {result : Gesture.GestureTriggerResult}
    (raised : Gesture.Event.gestureTriggered result ∈ (Gesture.updateGestureAndMaybeSendHotkey rate d frame).2) :
    SdkTrigger :=
  { result, named := Gesture.gestureName_of_raised raised }

/-- The file of a finished sample holds, row by row, the session between two clicks. -/
structure RecordedAs (p : Platform) (events : List UiEvent) (sample : Sample) (i : ℕ) (start : StartClick) (j : ℕ)
    (stop : StopClick) (rows : List (List (List Char))) : Prop where
  clicks : SampleClicks events i start j stop
  parsed : ∃ content, sample.content = some content ∧ csvParse (utf16Decode content) = some (columnNames :: rows)
  session : rows = (sampleSession events i start j stop).events.mapIdx fun n event =>
    recordFields p.formats (sequenceAt (n + 1)) event

/-- Some trigger between `i` and `j` whose hotkey was sent has its marker among the rows. -/
def TriggerRecorded (p : Platform) (events : List UiEvent) (i j : ℕ) (rows : List (List (List Char))) : Prop :=
  ∃ m, i < m ∧ m < j ∧ ∃ ticks feature marker trigger,
    events[m]? = some (.gestureTriggered ticks feature marker trigger) ∧ trigger.result.hotkeySent = true ∧
    ∃ n, recordFields p.formats (sequenceAt n)
      (marker.timestamp, { eventType := .mark, note := utf16Encode "MOUTH_HOLD".toList }) ∈ rows

section Tags

variable {p : Platform} {events : List UiEvent}

private theorem mem_between_iff {i j : ℕ} {event : UiEvent} :
    event ∈ between events i j ↔ ∃ m, i < m ∧ m < j ∧ events[m]? = some event := by
  rw [between, List.mem_iff_getElem?]
  constructor
  · rintro ⟨n, found⟩
    rw [List.getElem?_drop, List.getElem?_take] at found
    split_ifs at found with inside
    exact ⟨i + 1 + n, by omega, inside, found⟩
  · rintro ⟨m, after, before, found⟩
    refine ⟨m - (i + 1), ?_⟩
    rw [List.getElem?_drop, List.getElem?_take, show i + 1 + (m - (i + 1)) = m by omega, if_pos before, found]

/-- Every logging call of a session has its row. -/
private theorem row_of_call {session : Recorder.Session} {call : ClockReads × LogCall} (member : call ∈ session.calls) :
    ∃ n, recordFields p.formats (sequenceAt n) (call.1.timestamp, call.2.event) ∈
      session.events.mapIdx fun n event => recordFields p.formats (sequenceAt (n + 1)) event := by
  have among : (call.1.timestamp, call.2.event) ∈ session.events :=
    List.mem_append_left _ (List.mem_cons_of_mem _ (List.mem_map_of_mem member))
  obtain ⟨n, found⟩ := List.mem_iff_getElem?.mp among
  refine ⟨n + 1, List.mem_iff_getElem?.mpr ⟨n, ?_⟩⟩
  rw [List.getElem?_mapIdx, found]
  rfl

/-- The marker of a sent trigger is in the file of the sample it falls into. -/
private theorem triggerRecorded_iff {i j : ℕ} {start : StartClick} {stop : StopClick} :
    TriggerRecorded p events i j ((sampleSession events i start j stop).events.mapIdx fun n event =>
      recordFields p.formats (sequenceAt (n + 1)) event) ↔ 0 < hotkeys events i j := by
  rw [hotkeys, List.countP_pos_iff]
  constructor
  · rintro ⟨m, after, before, ticks, feature, marker, trigger, found, sent, -⟩
    exact ⟨_, mem_between_iff.mpr ⟨m, after, before, found⟩, sent⟩
  · rintro ⟨event, member, sent⟩
    obtain ⟨m, after, before, found⟩ := mem_between_iff.mp member
    cases event with
    | gestureTriggered ticks feature marker trigger =>
      refine ⟨m, after, before, ticks, feature, marker, trigger, found, sent, ?_⟩
      have called : (marker, LogCall.logMarker (utf16Encode trigger.result.gestureName.toList)) ∈
          (sampleSession events i start j stop).calls :=
        List.mem_append_left _ (List.mem_flatMap.mpr ⟨_, member, List.mem_singleton_self _⟩)
      rw [trigger.named] at called
      exact row_of_call called
    | _ => cases sent

private theorem Finished.recordedAs {k : ℕ} {sample : Sample} (finished : Finished p events k sample) :
    ∃ i start j stop rows, RecordedAs p events sample i start j stop rows ∧ j < k ∧
      (sample.triggerResultTag = if 0 < sequenceAt (hotkeys events i j) then .triggered else .missed) ∧
      (TriggerRecorded p events i j rows ↔ 0 < hotkeys events i j) := by
  obtain ⟨i, start, j, stop, clicks, before, content, tagged⟩ := finished
  exact ⟨i, start, j, stop, _, ⟨clicks, ⟨_, content, csvParse_file p.formats _⟩, rfl⟩, before, tagged,
    triggerRecorded_iff⟩

/-- A trigger outside a sample changes nothing. -/
private theorem Phase.trigger_of_not_collecting {k : ℕ} {w : MainWindow} (phase : Phase p events k w)
    (collecting : w.isSampleCollecting = false) (ticks : ℤ) (feature marker : ClockReads) (trigger : SdkTrigger) :
    w.next p (.gestureTriggered ticks feature marker trigger) = w := by
  have closed : w.records.recorder.writer = none := by
    rw [← Option.not_isSome_iff_eq_none, phase.isSome_eq, collecting]
    exact Bool.false_ne_true
  have silent : w.records.log p.fs p.formats
      (marker, .logMarker (utf16Encode trigger.result.gestureName.toList)) = w.records :=
    foldl_log_of_closed p.fs p.formats [_] closed
  rw [MainWindow.next, MainWindow.handleSdkGestureTriggered, publishWindowFeatureSnapshot_of_nil p phase.features,
    collecting, Bool.false_and, if_neg Bool.false_ne_true, MainWindow.log, silent]

/-- A file is open exactly while a sample is collected; the file of every finished sample holds the session
between its two clicks, and with fewer than `2 ^ 31` hotkeys the sample is tagged as triggered exactly when a
trigger whose hotkey was sent has its marker in that file; and a trigger outside a sample changes nothing. -/
theorem samples_tagged (p : Platform) (files : NetString → Option NetString) (events : List UiEvent) :
    (∀ k ≤ events.length, (windowAt p files events k).records.recorder.writer.isSome =
      (windowAt p files events k).isSampleCollecting) ∧
    (∀ k ≤ events.length, ∀ sample ∈ (windowAt p files events k).samples, ∃ i start j stop rows,
      RecordedAs p events sample i start j stop rows ∧ j < k ∧
      (hotkeys events i j < 2 ^ 31 →
        (sample.triggerResultTag = .triggered ↔ TriggerRecorded p events i j rows))) ∧
    (∀ k ticks feature marker trigger, events[k]? = some (.gestureTriggered ticks feature marker trigger) →
      (windowAt p files events k).isSampleCollecting = false →
      windowAt p files events (k + 1) = windowAt p files events k) := by
  refine ⟨?_, ?_, ?_⟩
  · exact fun k bound => (windowAt_phase files k bound).isSome_eq
  · intro k bound sample member
    obtain ⟨i, start, j, stop, rows, recorded, before, tagged, triggers⟩ :=
      ((windowAt_phase files k bound).samples sample member).recordedAs
    refine ⟨i, start, j, stop, rows, recorded, before, fun short => ?_⟩
    rw [tagged, triggers, sequenceAt_of_lt short]
    by_cases counted : 0 < hotkeys events i j
    · simp [counted]
    · simp [Nat.eq_zero_of_not_pos counted]
  · intro k ticks feature marker trigger present collecting
    have bound := (List.getElem?_eq_some_iff.mp present).1
    rw [windowAt_succ p files present]
    exact (windowAt_phase files k bound.le).trigger_of_not_collecting collecting ticks feature marker trigger

end Tags

def samplePlatform : Platform where
  fs := sampleFileSystem
  formats := sampleFormats
  rate := { frequency := 10000000, positive := by decide }
  fixed places value := printFixed places (value < 0) (round (|value| * 10 ^ places)).toNat
  equalsIgnoreCase a b := sampleFileSystem.key a = sampleFileSystem.key b

def sampleFrame : UiEvent :=
  .imuFrameProcessed 0 (sampleClock 1)
    { raw := { ax := 0, ay := 0, az := 16384, gx := 0, gy := 0, gz := 0, temp := 0 }, isReady := true
      roll := .finite false 0, pitch := .finite false 0, yaw := .finite false 0, rawPayload := [] }

def sampleStart : StartClick :=
  { labelTime := sampleLocalTime, now := sampleLocalTime, opened := (sampleClock 2).timestamp, reads := sampleClock 2 }

def sampleStop : StopClick :=
  { ticks := 0, feature := sampleClock 3, requested := sampleClock 3, stop := sampleClock 3, hasXamlRoot := false }

/-- The trigger of a detector that has been holding for five seconds. -/
def sampleResult : Gesture.GestureTriggerResult where
  gestureName := "MOUTH_HOLD"
  hotkeySent := true
  triggerCount := 1
  triggeredAt := 0
  pose := { roll := -150, pitch := 30 }

private theorem sampleResult_raised :
    Gesture.Event.gestureTriggered sampleResult ∈
      (Gesture.updateGestureAndMaybeSendHotkey samplePlatform.rate { gestureState := .holding }
        ⟨50000000, { roll := -150, pitch := 30 }, 0, 0, true, 0⟩).2 := by
  decide +kernel

def sampleTrigger : UiEvent :=
  .gestureTriggered 0 (sampleClock 2) (sampleClock 2) (.ofRaised sampleResult_raised)

/-- A sample with so many triggers. -/
def triggeredRun (n : ℕ) : List UiEvent :=
  [sampleFrame, .collectSampleClick sampleStart sampleStop] ++ List.replicate n sampleTrigger ++
    [.collectSampleClick sampleStart sampleStop]

private theorem triggers_collecting (n : ℕ) {w : MainWindow} (empty : w.recentFeatures = [])
    (collecting : w.isSampleCollecting = true) (labelling : w.labelling = none) :
    ((List.replicate n sampleTrigger).foldl (MainWindow.next samplePlatform) w).isSampleCollecting = true ∧
      ((List.replicate n sampleTrigger).foldl (MainWindow.next samplePlatform) w).labelling = none := by
  induction n generalizing w with
  | zero => exact ⟨collecting, labelling⟩
  | succ n ih =>
    have follows : Follows samplePlatform sampleTrigger w (w.next samplePlatform sampleTrigger) :=
      next_follows samplePlatform empty rfl (.inl labelling)
    exact ih (follows.features.trans empty) (follows.collecting.trans collecting) (follows.labelling.trans labelling)

private theorem triggeredRun_length (n : ℕ) : (triggeredRun n).length = n + 3 := by
  simp [triggeredRun]

/-- The run ends with a finished sample. -/
private theorem triggeredRun_samples (n : ℕ) :
    ∃ sample, sample ∈ (windowAt samplePlatform (fun _ => none) (triggeredRun n) (n + 3)).samples := by
  have whole : (triggeredRun n).take (n + 3) = triggeredRun n := List.take_of_length_le (triggeredRun_length n).le
  obtain ⟨collecting, labelling⟩ := triggers_collecting n
    (w := [sampleFrame, .collectSampleClick sampleStart sampleStop].foldl (MainWindow.next samplePlatform) {})
    rfl rfl rfl
  rw [windowAt, Machine.trajectory, whole, triggeredRun, List.foldl_append, List.foldl_append, List.foldl_cons,
    List.foldl_nil, MainWindow.next, labelling, if_neg (by simp), MainWindow.collectSampleButtonClick, collecting,
    if_neg (by simp), MainWindow.stopSample]
  exact ⟨_, List.mem_append_right _ (List.mem_singleton_self _)⟩

private theorem triggeredRun_click {n m : ℕ} {start : StartClick} {stop : StopClick}
    (present : (triggeredRun n)[m]? = some (.collectSampleClick start stop)) : m = 1 ∨ m = n + 2 := by
  match m, present with
  | 0, present => cases present
  | 1, _ => exact .inl rfl
  | m + 2, present =>
    have tail : (List.replicate n sampleTrigger ++ [.collectSampleClick sampleStart sampleStop])[m]? =
        some (.collectSampleClick start stop) := present
    have bound := (List.getElem?_eq_some_iff.mp tail).1
    rw [List.length_append, List.length_replicate, List.length_singleton] at bound
    by_cases inside : m < n
    · rw [List.getElem?_append_left (by simpa using inside), List.getElem?_replicate_of_lt inside] at tail
      cases tail
    · exact .inr (by omega)

private theorem triggeredRun_hotkeys (n : ℕ) : hotkeys (triggeredRun n) 1 (n + 2) = n := by
  have inner : between (triggeredRun n) 1 (n + 2) = List.replicate n sampleTrigger := by
    have front : (triggeredRun n).take (n + 2) =
        [sampleFrame, .collectSampleClick sampleStart sampleStop] ++ List.replicate n sampleTrigger :=
      List.take_left' (by simp)
    rw [between, front]
    rfl
  have sent : sampleTrigger.isHotkey = true := rfl
  rw [hotkeys, inner, List.countP_replicate, sent, if_pos rfl]

/-- The sample of the run lies between its two clicks. -/
private theorem triggeredRun_clicks {n i j : ℕ} {start : StartClick} {stop : StopClick}
    (clicks : SampleClicks (triggeredRun n) i start j stop) : i = 1 ∧ j = n + 2 := by
  obtain ⟨_, started⟩ := clicks.started
  obtain ⟨_, stopped⟩ := clicks.stopped
  have ordered := clicks.ordered
  rcases triggeredRun_click started with first | first <;> rcases triggeredRun_click stopped with last | last <;> omega

/-- After `2 ^ 31` triggers the counter is negative, and a sample full of markers is tagged as missed. -/
theorem overflowed_sample_missed :
    ¬∀ sample ∈ (windowAt samplePlatform (fun _ => none) (triggeredRun (2 ^ 31)) (2 ^ 31 + 3)).samples,
      ∃ i start j stop rows, RecordedAs samplePlatform (triggeredRun (2 ^ 31)) sample i start j stop rows ∧
        (sample.triggerResultTag = .triggered ↔ TriggerRecorded samplePlatform (triggeredRun (2 ^ 31)) i j rows) := by
  intro agree
  obtain ⟨sample, member⟩ := triggeredRun_samples (2 ^ 31)
  obtain ⟨i, start, j, stop, rows, recorded, tag⟩ := agree sample member
  obtain ⟨i', start', j', stop', clicks, -, -, tagged⟩ :=
    (windowAt_phase (fun _ => none) (2 ^ 31 + 3) (triggeredRun_length _).ge).samples sample member
  obtain ⟨rfl, rfl⟩ := triggeredRun_clicks recorded.clicks
  obtain ⟨rfl, rfl⟩ := triggeredRun_clicks clicks
  rw [recorded.session, triggerRecorded_iff, triggeredRun_hotkeys, tagged, triggeredRun_hotkeys] at tag
  have negative : ¬0 < sequenceAt (2 ^ 31) := by decide
  rw [if_neg negative] at tag
  exact absurd (tag.mpr (by decide)) (by decide)

end GestureSuite.Window
