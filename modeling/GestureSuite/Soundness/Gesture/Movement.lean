import GestureSuite.Soundness.Gesture.Trigger

/-! # How a movement ends

A frame processed in `Moving` is judged only once the movement is prepared and a stable window is
found; the verdict is then final in both directions. In every other case the movement goes on until
the timeout. The two equivalences below state this once. From them follow how early a movement can
be discarded, how late it can be accepted, and that a movement which has timed out is left on the
first frame that is not a fast one.
-/

namespace GestureSuite.Gesture

variable {rate : TickRate} {frames : List Frame}

/-- `movingPrepared` of the source, with the peak that already counts the frame. -/
def Detector.movingPrepared (rate : TickRate) (d : Detector) (frame : Frame) : Bool :=
  movingMinSeconds ≤ rate.elapsedSeconds d.movingStartTicks frame.ticks
    && moveStartGyroThreshold ≤ max d.movingPeakGyro frame.gyroMagnitude

/-- The movement is prepared and its most recent part is still enough to be judged. -/
def Detector.Stops (rate : TickRate) (d : Detector) (frame : Frame) : Prop :=
  d.movingPrepared rate frame = true ∧
    ∃ stable, tryFindStableWindowSummary rate (d.queueAt rate frame) d.movingStartTicks frame.ticks = .ok stable

/-- Both summaries are accepted and the jitter limits are kept. -/
def Detector.Matches (rate : TickRate) (d : Detector) (frame : Frame) : Prop :=
  ∃ stable summary, Settles rate (d.queueAt rate frame) d.movingStartTicks frame stable summary

/-- The guard of the timeout branch. -/
def Detector.TimesOut (rate : TickRate) (d : Detector) (frame : Frame) : Prop :=
  trajectoryMaxSeconds + 0.8 ≤ rate.elapsedSeconds d.movingStartTicks frame.ticks ∧
    frame.gyroMagnitude ≤ stableGyroP50Max

/-- The state a frame leaves behind is the one its `case` has chosen. -/
private theorem next_gestureState_of_moving (d : Detector) (frame : Frame) (moving : d.gestureState = .moving) :
    (d.next rate frame).gestureState =
      (movingCase rate { d with recentFeatures := d.queueAt rate frame } frame
        (analyzeRecentJitter rate (d.queueAt rate frame) frame.ticks)).detector.gestureState := by
  rw [Detector.next, updateGestureAndMaybeSendHotkey, switchState, Verdict.publish]
  simp only [moving]
  split <;> rfl

/-- The state after a frame processed in `Moving`. -/
theorem Detector.next_of_moving (rate : TickRate) (d : Detector) (frame : Frame)
    (moving : d.gestureState = .moving) :
    (d.Stops rate frame ∧ d.Matches rate frame ∧ (d.next rate frame).gestureState = .holding) ∨
      (d.Stops rate frame ∧ ¬ d.Matches rate frame ∧ (d.next rate frame).gestureState = .idle) ∨
      (¬ d.Stops rate frame ∧ d.TimesOut rate frame ∧ (d.next rate frame).gestureState = .idle) ∨
      (¬ d.Stops rate frame ∧ ¬ d.TimesOut rate frame ∧ (d.next rate frame).gestureState = .moving) := by
  rw [next_gestureState_of_moving d frame moving]
  rw [movingCase]
  dsimp only
  split
  · next stable prepared window =>
    have stops : d.Stops rate frame := ⟨prepared, stable, window⟩
    split_ifs with steady
    · cases built : tryBuildTrajectorySummary rate (d.queueAt rate frame) d.movingStartTicks stable with
      | ok summary => exact .inl ⟨stops, ⟨stable, summary, window, steady, built⟩, rfl⟩
      | error =>
        refine .inr (.inl ⟨stops, ?_, rfl⟩)
        rintro ⟨stable', summary, window', _, accepted⟩
        obtain rfl := Except.ok.inj (window.symm.trans window')
        simp [built] at accepted
    · refine .inr (.inl ⟨stops, ?_, rfl⟩)
      rintro ⟨_, _, _, accepted, _⟩
      exact steady accepted
  · next unjudged =>
    have goesOn : ¬ d.Stops rate frame := by
      rintro ⟨prepared, stable, window⟩
      exact unjudged stable prepared window
    split_ifs with timeout
    · exact .inr (.inr (.inl ⟨goesOn, timeout, rfl⟩))
    · refine .inr (.inr (.inr ⟨goesOn, timeout, ?_⟩))
      split <;> exact moving

/-- A movement is accepted exactly when it stops and both summaries match. -/
theorem Detector.next_holding_iff (rate : TickRate) (d : Detector) (frame : Frame)
    (moving : d.gestureState = .moving) :
    (d.next rate frame).gestureState = .holding ↔ d.Stops rate frame ∧ d.Matches rate frame := by
  rcases d.next_of_moving rate frame moving with
    ⟨stops, accepted, state⟩ | ⟨stops, rejected, state⟩ | ⟨goesOn, _, state⟩ | ⟨goesOn, _, state⟩
  all_goals simp [*]

/-- A movement is discarded exactly when it stops without a match or times out before it stops. -/
theorem Detector.next_idle_iff (rate : TickRate) (d : Detector) (frame : Frame)
    (moving : d.gestureState = .moving) :
    (d.next rate frame).gestureState = .idle ↔
      (d.Stops rate frame ∧ ¬ d.Matches rate frame) ∨ (¬ d.Stops rate frame ∧ d.TimesOut rate frame) := by
  rcases d.next_of_moving rate frame moving with
    ⟨stops, accepted, state⟩ | ⟨stops, rejected, state⟩ | ⟨goesOn, _, state⟩ | ⟨goesOn, _, state⟩
  all_goals simp [*]

/-- Clock readings that are positive and strictly increase. -/
def StrictlyChronological (frames : List Frame) : Prop :=
  (frames.Pairwise fun a b => a.ticks < b.ticks) ∧ ∀ frame ∈ frames, 0 < frame.ticks

instance (frames : List Frame) : Decidable (StrictlyChronological frames) :=
  inferInstanceAs (Decidable (_ ∧ _))

theorem StrictlyChronological.chronological (strict : StrictlyChronological frames) : Chronological frames :=
  strict.1.imp le_of_lt

/-- A movement that matches has lasted at least 0.12 s and at most 4.8 s. -/
theorem matches_duration (ordered : Chronological frames) {k : ℕ} {frame : Frame}
    (present : frames[k]? = some frame) (moving : (detectorAt rate frames k).gestureState = .moving)
    (accepted : (detectorAt rate frames k).Matches rate frame) :
    0.12 * rate.frequency ≤ ((frame.ticks - (detectorAt rate frames k).movingStartTicks : ℤ) : ℚ) ∧
      ((frame.ticks - (detectorAt rate frames k).movingStartTicks : ℤ) : ℚ) ≤ 4.8 * rate.frequency := by
  obtain ⟨stable, summary, settles⟩ := accepted
  obtain ⟨older, newest⟩ := queueAt_getLast? rate ordered present
  exact settles.duration newest (movingStart_le rate ordered present (.inl moving))

/-- A movement is accepted only between 0.12 s and 4.8 s after its start, and once 5.6 s have passed
the first frame that is not fast ends it. -/
theorem moving_deadlines (rate : TickRate) (frames : List Frame) (ordered : Chronological frames)
    (k : ℕ) (frame : Frame) (present : frames[k]? = some frame)
    (moving : (detectorAt rate frames k).gestureState = .moving) :
    ((detectorAt rate frames (k + 1)).gestureState = .holding →
      0.12 * rate.frequency ≤ ((frame.ticks - (detectorAt rate frames k).movingStartTicks : ℤ) : ℚ) ∧
        ((frame.ticks - (detectorAt rate frames k).movingStartTicks : ℤ) : ℚ) ≤ 4.8 * rate.frequency) ∧
      (5.6 * rate.frequency ≤ ((frame.ticks - (detectorAt rate frames k).movingStartTicks : ℤ) : ℚ) →
        frame.gyroMagnitude ≤ 900 → (detectorAt rate frames (k + 1)).gestureState = .idle) := by
  rw [detectorAt_succ rate present]
  constructor
  · intro holding
    rw [Detector.next_holding_iff rate _ frame moving] at holding
    exact matches_duration ordered present moving holding.2
  · intro late slow
    have timesOut : (detectorAt rate frames k).TimesOut rate frame := by
      refine ⟨?_, slow⟩
      rw [rate.le_elapsedSeconds_iff]
      norm_num [trajectoryMaxSeconds] at late ⊢
      exact late
    rw [Detector.next_idle_iff rate _ frame moving]
    by_cases stops : (detectorAt rate frames k).Stops rate frame
    · refine .inl ⟨stops, fun accepted => ?_⟩
      have short := (matches_duration ordered present moving accepted).2
      have positive : (0 : ℚ) < rate.frequency := by exact_mod_cast rate.positive
      linarith
    · exact .inr ⟨stops, timesOut⟩

/-- Three frames of writing, then frames in the stop pose at the given readings. -/
def raiseAt (readings : List (ℤ × ℚ)) : List Frame :=
  [writingFrame 1000, writingFrame 1020, writingFrame 1040]
    ++ readings.map fun reading => raisedFrame reading.1 reading.2

theorem moving_deadlines_raiseAt :
    0.12 * (1000 : ℕ) ≤ ((1270 - (detectorAt sampleRate (sampleGesture 1000) 10).movingStartTicks : ℤ) : ℚ) ∧
      (detectorAt sampleRate (raiseAt [(1060, 1000), (6700, 900)]) 5).gestureState = .idle := by
  constructor
  · exact ((moving_deadlines sampleRate (sampleGesture 1000) (by decide) 10 (raisedFrame 1270 500) rfl
      (by decide +kernel)).1 (by decide +kernel)).1
  · exact (moving_deadlines sampleRate (raiseAt [(1060, 1000), (6700, 900)]) (by decide) 4 (raisedFrame 6700 900) rfl
      (by decide +kernel)).2 (by decide +kernel) (by decide +kernel)

/-- Less than 0.12 s after its start a movement can neither match nor time out, so it is discarded
exactly on the frame on which it already stops. -/
theorem early_discard_iff_stops (rate : TickRate) (frames : List Frame) (ordered : Chronological frames)
    (k : ℕ) (frame : Frame) (present : frames[k]? = some frame)
    (moving : (detectorAt rate frames k).gestureState = .moving)
    (early : (frame.ticks : ℚ) < (detectorAt rate frames k).movingStartTicks + 0.12 * rate.frequency) :
    ((detectorAt rate frames (k + 1)).gestureState = .idle ↔ (detectorAt rate frames k).Stops rate frame) ∧
      (¬ (detectorAt rate frames k).Stops rate frame →
        (detectorAt rate frames (k + 1)).gestureState = .moving) := by
  have noMatch : ¬ (detectorAt rate frames k).Matches rate frame := by
    intro accepted
    have long := (matches_duration ordered present moving accepted).1
    push_cast at long
    linarith
  have noTimeout : ¬ (detectorAt rate frames k).TimesOut rate frame := by
    rintro ⟨late, _⟩
    have positive : (0 : ℚ) < rate.frequency := by exact_mod_cast rate.positive
    rw [rate.le_elapsedSeconds_iff] at late
    push_cast [trajectoryMaxSeconds] at late
    linarith
  rw [detectorAt_succ rate present]
  rcases (detectorAt rate frames k).next_of_moving rate frame moving with
    ⟨_, accepted, _⟩ | ⟨stops, _, state⟩ | ⟨_, timesOut, _⟩ | ⟨goesOn, _, state⟩
  · exact absurd accepted noMatch
  · simp [stops, state]
  · exact absurd timesOut noTimeout
  · simp [goesOn, state]

/-- A raise at 50 frames per second whose speed never exceeds the limit of the stable window. -/
def slowRaise : List Frame := raiseAt [(1060, 700), (1080, 700), (1100, 700), (1120, 700), (1140, 700)]

theorem early_discard_iff_stops_slowRaise : (detectorAt sampleRate slowRaise 7).gestureState = .moving := by
  refine (early_discard_iff_stops sampleRate slowRaise (by decide) 6 (raisedFrame 1120 700) rfl
    (by decide +kernel) (by decide +kernel)).2 ?_
  rintro ⟨_, stable, window⟩
  -- four frames are too few for a stable window
  have few : tryFindStableWindowSummary sampleRate ((detectorAt sampleRate slowRaise 6).queueAt sampleRate
      (raisedFrame 1120 700)) (detectorAt sampleRate slowRaise 6).movingStartTicks 1120 =
      .error .stableTooFewSamples := by
    decide +kernel
  exact nomatch few.symm.trans window

/-- The slow raise is discarded 80 ms after its start, with the jitter limits kept. -/
theorem slowRaise_discarded_early :
    ¬ ∀ (rate : TickRate) (frames : List Frame), StrictlyChronological frames →
      ∀ (k : ℕ) (frame : Frame), frames[k]? = some frame →
        (detectorAt rate frames k).gestureState = .moving →
        (frame.ticks : ℚ) < (detectorAt rate frames k).movingStartTicks + 0.12 * rate.frequency →
        jitterAcceptable (analyzeRecentJitter rate (queueOf rate frames k frame) frame.ticks) = true →
        (detectorAt rate frames (k + 1)).gestureState ≠ .idle := by
  intro kept
  refine kept sampleRate slowRaise (by decide) 7 (raisedFrame 1140 700) rfl ?_ ?_ ?_ ?_
  · decide +kernel
  · decide +kernel
  · decide +kernel
  · decide +kernel

end GestureSuite.Gesture
