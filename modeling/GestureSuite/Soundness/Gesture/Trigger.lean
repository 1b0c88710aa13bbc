import GestureSuite.Soundness.Gesture.Angles
import GestureSuite.Soundness.Gesture.Phases

/-! # What a trigger rests on, and how far apart triggers are

A trigger presses a global hotkey. The first result recovers its evidence from an arbitrary run: a
raise out of the writing pose, a movement of the right duration that came to rest, and a hold in the
stop pose up to the trigger. The second bounds the time between any two triggers by the cooldown
plus one complete movement and one complete hold, whatever the machine does in between.
-/

namespace GestureSuite.Gesture

variable {rate : TickRate} {frames : List Frame}

theorem TickRate.le_elapsedSeconds_iff (rate : TickRate) (seconds : ℚ) (start now : ℤ) :
    seconds ≤ rate.elapsedSeconds start now ↔ seconds * rate.frequency ≤ (now - start : ℤ) :=
  le_div_iff₀ (by exact_mod_cast rate.positive)

theorem TickRate.elapsedSeconds_le_iff (rate : TickRate) (seconds : ℚ) (start now : ℤ) :
    rate.elapsedSeconds start now ≤ seconds ↔ ((now - start : ℤ) : ℚ) ≤ seconds * rate.frequency :=
  div_le_iff₀ (by exact_mod_cast rate.positive)

/-- What `TryFindStableWindowSummary` asks of the summary. -/
structure IsStable (summary : StableWindowSummary) : Prop where
  belowRatio : stableBelowRatioMin ≤ summary.belowRatio
  gyroP50 : summary.gyroP50 ≤ stableGyroP50Max
  gyroP90 : summary.gyroP90 ≤ stableGyroP90Max
  rollSpan : summary.rollSpan ≤ stableRollSpanMax
  highGyroSpikeCount : summary.highGyroSpikeCount ≤ stableHighGyroSpikeMax

theorem tryFindStableWindowSummary_ok_iff {queue : List MotionFrameFeature} {start now : ℤ}
    {summary : StableWindowSummary} :
    tryFindStableWindowSummary rate queue start now = .ok summary ↔
      stableWindowMinFrames ≤ (stableWindow rate queue start now).length ∧
        summary = summarizeStableWindow (stableWindow rate queue start now) ∧ IsStable summary := by
  rw [tryFindStableWindowSummary]
  dsimp only
  constructor
  · intro found
    split_ifs at found with few unstable
    obtain rfl := Except.ok.inj found
    simp only [not_or, not_lt] at few unstable
    obtain ⟨ratio, p50, p90, span, spikes⟩ := unstable
    exact ⟨few, rfl, ratio, p50, p90, span, spikes⟩
  · rintro ⟨enough, rfl, ratio, p50, p90, span, spikes⟩
    rw [if_neg (not_lt.mpr enough), if_neg]
    simp only [not_or, not_lt]
    exact ⟨ratio, p50, p90, span, spikes⟩

/-- The features `TryBuildTrajectorySummary` computes from a segment. -/
def summarizeTrajectory (rate : TickRate) (segment : List MotionFrameFeature) (start : ℤ)
    (stable : StableWindowSummary) : TrajectorySummary where
  durationSeconds := rate.elapsedSeconds start stable.endTicks
  endPitch := stable.endPitch
  endRoll := stable.endRoll
  peakPitch := maxOf (·.pitch) segment
  minPitch := minOf (·.pitch) segment
  accelMeanSquare := average (fun frame => frame.linearAccelMagnitude * frame.linearAccelMagnitude) segment
  accelPeak := maxOf (·.linearAccelMagnitude) segment

/-- What `TryBuildTrajectorySummary` asks of the features. -/
structure IsRaise (stable : StableWindowSummary) (summary : TrajectorySummary) : Prop where
  longEnough : trajectoryMinSeconds ≤ summary.durationSeconds
  shortEnough : summary.durationSeconds ≤ trajectoryMaxSeconds
  accelMin : trajectoryAccelRmsMin * trajectoryAccelRmsMin ≤ summary.accelMeanSquare
  accelMax : rmsAtMost summary.accelMeanSquare trajectoryAccelRmsMax
  score : trajectoryScoreMin ≤ trajectoryScore stable summary

theorem tryBuildTrajectorySummary_ok_iff {queue : List MotionFrameFeature} {start : ℤ}
    {stable : StableWindowSummary} {summary : TrajectorySummary} :
    tryBuildTrajectorySummary rate queue start stable = .ok summary ↔
      0 < start ∧ 6 ≤ (trajectorySegment queue start stable.endTicks).length ∧
        summary = summarizeTrajectory rate (trajectorySegment queue start stable.endTicks) start stable ∧
        IsRaise stable summary := by
  rw [tryBuildTrajectorySummary]
  dsimp only
  constructor
  · intro built
    split_ifs at built with unset few outside accel low
    obtain rfl := Except.ok.inj built
    simp only [not_or, not_lt, not_not] at unset few outside accel low
    exact ⟨not_le.mp unset, few, rfl, outside.1, outside.2, accel.1, accel.2, low⟩
  · rintro ⟨started, enough, rfl, long, short, accelMin, accelMax, score⟩
    rw [if_neg (not_le.mpr started), if_neg (not_lt.mpr enough), if_neg, if_neg, if_neg]
    · rfl
    · exact not_lt.mpr score
    · simp only [not_or, not_lt, not_not]
      exact ⟨accelMin, accelMax⟩
    · simp only [not_or, not_lt]
      exact ⟨long, short⟩

/-- An accepted movement is neither too short nor too long. -/
theorem tryBuildTrajectorySummary_duration {queue : List MotionFrameFeature} {movingStart : ℤ}
    {stable : StableWindowSummary} {summary : TrajectorySummary}
    (built : tryBuildTrajectorySummary rate queue movingStart stable = .ok summary) :
    trajectoryMinSeconds ≤ rate.elapsedSeconds movingStart stable.endTicks ∧
      rate.elapsedSeconds movingStart stable.endTicks ≤ trajectoryMaxSeconds := by
  obtain ⟨-, -, rfl, raise⟩ := tryBuildTrajectorySummary_ok_iff.mp built
  exact ⟨raise.longEnough, raise.shortEnough⟩

/-- A stable window that contains the newest frame ends with it. -/
theorem summarizeStableWindow_endTicks {older : List MotionFrameFeature} {new : MotionFrameFeature}
    {movingStart : ℤ} (started : movingStart ≤ new.ticks) :
    (summarizeStableWindow (stableWindow rate (older ++ [new]) movingStart new.ticks)).endTicks = new.ticks := by
  have width := rate.ticks_nonneg (show 0 ≤ stableWindowSeconds by norm_num [stableWindowSeconds])
  unfold stableWindow
  dsimp only
  rw [List.filter_append, List.filter_cons_of_pos (by simp [width, started]), List.filter_nil]
  simp [summarizeStableWindow]

/-- An accepted movement has lasted between 0.12 s and 4.8 s when the hold begins. -/
theorem Settles.duration {queue older : List MotionFrameFeature} {movingStart : ℤ} {frame : Frame}
    {stable : StableWindowSummary} {summary : TrajectorySummary}
    (settles : Settles rate queue movingStart frame stable summary)
    (newest : queue = older ++ [frame.feature]) (started : movingStart ≤ frame.ticks) :
    0.12 * rate.frequency ≤ ((frame.ticks - movingStart : ℤ) : ℚ) ∧
      ((frame.ticks - movingStart : ℤ) : ℚ) ≤ 4.8 * rate.frequency := by
  have endTicks : stable.endTicks = frame.ticks := by
    obtain ⟨-, summarized, -⟩ := tryFindStableWindowSummary_ok_iff.mp settles.window
    rw [summarized, newest]
    exact summarizeStableWindow_endTicks started
  have bounds := tryBuildTrajectorySummary_duration settles.trajectory
  rw [endTicks, rate.le_elapsedSeconds_iff, rate.elapsedSeconds_le_iff] at bounds
  norm_num [trajectoryMinSeconds, trajectoryMaxSeconds] at bounds ⊢
  exact bounds

/-- The movement in progress at a frame started no later than the frame. -/
theorem movingStart_le (rate : TickRate) (ordered : Chronological frames) {k : ℕ} {frame : Frame}
    (present : frames[k]? = some frame)
    (active : (timersAt rate frames k).state = .moving ∨ (timersAt rate frames k).state = .holding) :
    (timersAt rate frames k).movingStart ≤ frame.ticks := by
  obtain ⟨bound, _⟩ := List.getElem?_eq_some_iff.mp present
  obtain ⟨m, earlier, start, atM, same⟩ := movingStart_earlier rate bound.le active
  rw [same]
  exact ordered.key_le_of_getElem? Frame.ticks (by omega) atM present

/-- The frames of the whole run with a tick in `[lo, hi)`. -/
def framesBetween (frames : List Frame) (lo hi : ℤ) : List MotionFrameFeature :=
  (frames.map Frame.feature).filter fun frame => lo ≤ frame.ticks && frame.ticks < hi

/-- Frame `i` started the raise: it is the last one before `n` processed in `Idle`, it is fast enough,
and the 0.16 s in front of it were spent in the writing pose. -/
structure RaisedAt (rate : TickRate) (frames : List Frame) (i n : ℕ) (first : Frame) : Prop where
  idle : (detectorAt rate frames i).gestureState = .idle
  lastIdle : ∀ k, i < k → k < n → (detectorAt rate frames k).gestureState ≠ .idle
  gyro : 650 ≤ first.gyroMagnitude
  samples : 3 ≤ (framesBetween frames (first.ticks - ⌊(0.16 : ℚ) * rate.frequency⌋) first.ticks).length
  pitch : average (·.pitch) (framesBetween frames (first.ticks - ⌊(0.16 : ℚ) * rate.frequency⌋) first.ticks)
    ∈ Set.Icc (-20 : ℚ) 20
  roll : average (·.roll) (framesBetween frames (first.ticks - ⌊(0.16 : ℚ) * rate.frequency⌋) first.ticks)
    ∈ Set.Icc (-40 : ℚ) 40

/-- Frame `j` ended the movement: both summaries were accepted on a movement of the right duration. -/
structure SettledAt (rate : TickRate) (frames : List Frame) (j : ℕ) (settled : Frame) : Prop where
  moving : (detectorAt rate frames j).gestureState = .moving
  holding : (detectorAt rate frames (j + 1)).gestureState = .holding
  accepted : ∃ stable summary,
    tryFindStableWindowSummary rate (queueOf rate frames j settled)
      (detectorAt rate frames j).movingStartTicks settled.ticks = .ok stable ∧
    tryBuildTrajectorySummary rate (queueOf rate frames j settled)
      (detectorAt rate frames j).movingStartTicks stable = .ok summary
  longEnough : 0.12 * rate.frequency ≤ ((settled.ticks - (detectorAt rate frames j).movingStartTicks : ℤ) : ℚ)
  shortEnough : ((settled.ticks - (detectorAt rate frames j).movingStartTicks : ℤ) : ℚ) ≤ 4.8 * rate.frequency

/-- A frame of the hold: processed in `Holding`, in the stop pose, without jitter and not too fast. -/
structure HeldAt (rate : TickRate) (frames : List Frame) (k : ℕ) (frame : Frame) : Prop where
  holding : (detectorAt rate frames k).gestureState = .holding
  inStopPose : isInStopPose frame.pose.pitch frame.pose.roll = true
  flips : (analyzeRecentJitter rate (queueOf rate frames k frame) frame.ticks).1 ≤ 5
  rms : rmsAtMost (analyzeRecentJitter rate (queueOf rate frames k frame) frame.ticks).2 1700
  gyro : frame.gyroMagnitude < 2300

private theorem raise_writingPose {queue : List MotionFrameFeature} {now : ℤ}
    (pose : isInWritingStartPose rate queue now = .ok ()) :
    3 ≤ (preWindow rate queue now).length ∧ average (·.pitch) (preWindow rate queue now) ∈ Set.Icc (-20 : ℚ) 20 ∧
      average (·.roll) (preWindow rate queue now) ∈ Set.Icc (-40 : ℚ) 40 := by
  rw [isInWritingStartPose] at pose
  dsimp only at pose
  split_ifs at pose with few outside
  simp only [not_or, not_lt] at outside
  exact ⟨not_lt.mp few, ⟨outside.1, outside.2.1⟩, outside.2.2.1, outside.2.2.2⟩

private theorem raisedAt_of_moving (ordered : Chronological frames) {i n : ℕ} {first : Frame}
    (present : frames[i]? = some first) (idle : (timersAt rate frames i).state = .idle)
    (moving : (timersAt rate frames (i + 1)).state = .moving)
    (lastIdle : ∀ k, i < k → k < n → (timersAt rate frames k).state ≠ .idle) :
    RaisedAt rate frames i n first := by
  have moves := timersAt_moves rate present
  generalize timersAt rate frames (i + 1) = u at moves moving
  generalize Detector.fires rate _ _ = fired at moves
  cases moves with
  | raise _ gyro pose =>
    obtain ⟨samples, pitch, roll⟩ := raise_writingPose pose
    rw [preWindow_queueAt rate ordered present] at samples pitch roll
    exact ⟨idle, lastIdle, gyro, samples, pitch, roll⟩
  | stay => simp [idle] at moving
  | settle state | giveUp state | leave state | rearm state | keep state | trigger state | recover state =>
    simp [idle] at state

private theorem settledAt_of_holding (ordered : Chronological frames) {j : ℕ} {settled : Frame}
    (present : frames[j]? = some settled) (moving : (timersAt rate frames j).state = .moving)
    (holding : (timersAt rate frames (j + 1)).state = .holding) :
    SettledAt rate frames j settled ∧ (timersAt rate frames (j + 1)).holdStart = settled.ticks := by
  have entered := holding
  have moves := timersAt_moves rate present
  generalize timersAt rate frames (j + 1) = u at moves holding ⊢
  generalize Detector.fires rate _ _ = fired at moves
  cases moves with
  | settle _ settles =>
    obtain ⟨older, newest⟩ := queueAt_getLast? rate ordered present
    obtain ⟨long, short⟩ := settles.duration newest (movingStart_le rate ordered present (.inl moving))
    exact ⟨⟨moving, entered, ⟨_, _, settles.window, settles.trajectory⟩, long, short⟩, rfl⟩
  | stay state => exact absurd holding state
  | raise | giveUp | leave | rearm | trigger | recover => simp at holding
  | keep state => simp [moving] at state

private theorem heldAt_of_keeps {k : ℕ} {frame : Frame}
    (holding : (timersAt rate frames k).state = .holding)
    (keeps : KeepsHolding rate (queueOf rate frames k frame) frame) : HeldAt rate frames k frame := by
  have steady := keeps.steady
  simp only [jitterAcceptable, Bool.and_eq_true, decide_eq_true_eq] at steady
  have inStopPose := keeps.inStopPose
  rw [isInStopPose_canonicalizeRoll] at inStopPose
  exact ⟨holding, inStopPose, steady.1, steady.2, keeps.calm⟩

/-- A frame that is followed by `Holding` while holding passes the tests and leaves the timers alone. -/
private theorem keeps_of_holding {k : ℕ} {frame : Frame} (present : frames[k]? = some frame)
    (before : (timersAt rate frames k).state = .holding)
    (after : (timersAt rate frames (k + 1)).state = .holding) :
    HeldAt rate frames k frame ∧ timersAt rate frames (k + 1) = timersAt rate frames k := by
  have moves := timersAt_moves rate present
  generalize timersAt rate frames (k + 1) = u at moves after ⊢
  generalize Detector.fires rate _ _ = fired at moves
  cases moves with
  | keep _ keeps => exact ⟨heldAt_of_keeps before keeps, rfl⟩
  | stay state => exact absurd before state
  | raise | giveUp | leave | rearm | trigger | recover => simp at after
  | settle state => simp [before] at state

/-- Through an unbroken hold every frame passes the tests and the hold start stays put. -/
private theorem hold_unbroken {j n : ℕ} (bound : n ≤ frames.length)
    (held : ∀ k, j < k → k ≤ n → (timersAt rate frames k).state = .holding) (k : ℕ) (after : j < k)
    (within : k ≤ n) : (timersAt rate frames k).holdStart = (timersAt rate frames (j + 1)).holdStart ∧
      ∀ m frame, j < m → m < k → frames[m]? = some frame → HeldAt rate frames m frame := by
  induction k, after using Nat.le_induction with
  | base => exact ⟨rfl, fun m _ after before => by omega⟩
  | succ k after ih =>
    obtain ⟨start, earlier⟩ := ih (by omega)
    have present : frames[k]? = some frames[k] := List.getElem?_eq_getElem (by omega)
    obtain ⟨heldHere, same⟩ := keeps_of_holding present (held k after (by omega))
      (held (k + 1) (by omega) within)
    refine ⟨by rw [same, start], ?_⟩
    intro m frame afterM beforeM atM
    rcases Nat.lt_succ_iff_lt_or_eq.mp beforeM with older | rfl
    · exact earlier m frame afterM older atM
    · obtain rfl := Option.some.inj (present.symm.trans atM)
      exact heldHere

/-- Whenever a frame of a run fires, an earlier frame raised the arm out of the writing pose, a later
one ended the movement within the time limits, and every frame from there on held the stop pose. -/
theorem trigger_evidence (rate : TickRate) (frames : List Frame) (ordered : Chronological frames)
    (n : ℕ) (last : Frame) (present : frames[n]? = some last)
    (fires : (detectorAt rate frames n).fires rate last = true) :
    ∃ i j first settled, i < j ∧ j < n ∧ frames[i]? = some first ∧ frames[j]? = some settled ∧
      RaisedAt rate frames i n first ∧
      (∀ k, i < k → k < n → (detectorAt rate frames k).gestureState = .moving ∨
        (detectorAt rate frames k).gestureState = .holding) ∧
      SettledAt rate frames j settled ∧
      (∀ k frame, j < k → k ≤ n → frames[k]? = some frame → HeldAt rate frames k frame) ∧
      0.18 * rate.frequency ≤ ((last.ticks - settled.ticks : ℤ) : ℚ) ∧
      (detectorAt rate frames n).cooldownUntilTicks ≤ last.ticks := by
  obtain ⟨bound, _⟩ := List.getElem?_eq_some_iff.mp present
  have moves := timersAt_moves rate present
  rw [fires] at moves
  obtain ⟨holding, keeps, heldLong, cooled, _⟩ := moves.of_fires
  obtain ⟨i, j, iLt, jLt, idle, raised, active, moving, held⟩ :=
    exists_phases (s := fun k => (timersAt rate frames k).state) rfl
      (fun k before => timersAt_follows rate (by omega)) holding
  have atI : frames[i]? = some frames[i] := List.getElem?_eq_getElem (by omega)
  have atJ : frames[j]? = some frames[j] := List.getElem?_eq_getElem (by omega)
  have notIdle : ∀ k, i < k → k < n → (timersAt rate frames k).state ≠ .idle := by
    intro k after before
    rcases active k after before.le with state | state <;> simp [state]
  obtain ⟨settled, start⟩ := settledAt_of_holding ordered atJ moving (held (j + 1) (by omega) (by omega))
  obtain ⟨sameStart, heldBefore⟩ := hold_unbroken bound.le held n jLt le_rfl
  refine ⟨i, j, frames[i], frames[j], iLt, jLt, atI, atJ, raisedAt_of_moving ordered atI idle raised notIdle,
    fun k after before => active k after before.le, settled, ?_, ?_, cooled⟩
  · intro k frame after within atK
    rcases within.lt_or_eq with before | rfl
    · exact heldBefore k frame after before atK
    · obtain rfl := Option.some.inj (present.symm.trans atK)
      exact heldAt_of_keeps holding keeps
  · rw [sameStart, start, rate.le_elapsedSeconds_iff] at heldLong
    norm_num [holdSeconds] at heldLong ⊢
    exact heldLong

/-- A thousand ticks per second. -/
def sampleRate : TickRate := ⟨1000, by decide⟩

/-- A still frame in the writing pose. -/
def writingFrame (ticks : ℤ) : Frame := { ticks, pose := ⟨0, 0, 0⟩, gyroMagnitude := 0, linearAccelMagnitude := 100 }

/-- A frame in the stop pose. -/
def raisedFrame (ticks : ℤ) (gyroMagnitude : ℚ) : Frame :=
  { ticks, pose := ⟨-150, 30, 0⟩, gyroMagnitude, linearAccelMagnitude := 100 }

/-- One complete gesture: three frames of writing, a fast raise, a stop and a hold. -/
def sampleGesture (t : ℤ) : List Frame :=
  [writingFrame t, writingFrame (t + 20), writingFrame (t + 40), raisedFrame (t + 60) 1000,
    raisedFrame (t + 90) 1000, raisedFrame (t + 120) 1000, raisedFrame (t + 150) 500,
    raisedFrame (t + 180) 500, raisedFrame (t + 210) 500, raisedFrame (t + 240) 500,
    raisedFrame (t + 270) 500, raisedFrame (t + 450) 500]

theorem trigger_evidence_sampleGesture :
    (detectorAt sampleRate (sampleGesture 1000) 11).fires sampleRate (raisedFrame 1450 500) = true ∧
      ∃ i j first settled, i < j ∧ j < 11 ∧ RaisedAt sampleRate (sampleGesture 1000) i 11 first ∧
        SettledAt sampleRate (sampleGesture 1000) j settled := by
  have fires : (detectorAt sampleRate (sampleGesture 1000) 11).fires sampleRate (raisedFrame 1450 500) = true := by
    decide +kernel
  obtain ⟨i, j, first, settled, before, after, _, _, raised, _, ended, _⟩ :=
    trigger_evidence sampleRate (sampleGesture 1000) (by decide) 11 (raisedFrame 1450 500) rfl fires
  exact ⟨fires, i, j, first, settled, before, after, raised, ended⟩

/-- After a cooldown that ends no earlier than `base`, each phase of the next gesture lies behind it
by the durations of the phases already completed. -/
structure Paced (rate : TickRate) (frames : List Frame) (base : ℤ) (k : ℕ) (t : Timers) : Prop where
  cooling : t.state = .cooldown → base ≤ t.cooldownUntil
  later : t.state ≠ .cooldown → ∀ m frame, k ≤ m → frames[m]? = some frame → base ≤ frame.ticks
  moving : t.state = .moving → base ≤ t.movingStart
  holding : t.state = .holding → (base : ℚ) + 0.12 * rate.frequency ≤ t.holdStart

private theorem paced_step (ordered : Chronological frames) {base : ℤ} {k : ℕ} {frame : Frame}
    (present : frames[k]? = some frame) (paced : Paced rate frames base k (timersAt rate frames k)) :
    Paced rate frames base (k + 1) (timersAt rate frames (k + 1)) := by
  have active {phase : GestureState} (state : (timersAt rate frames k).state = phase) (other : phase ≠ .cooldown) :
      (timersAt rate frames k).state ≠ .cooldown := by rwa [state]
  have later (active : (timersAt rate frames k).state ≠ .cooldown) (m : ℕ) (other : Frame) (after : k + 1 ≤ m)
      (atM : frames[m]? = some other) : base ≤ other.ticks := paced.later active m other (by omega) atM
  have now (active : (timersAt rate frames k).state ≠ .cooldown) : base ≤ frame.ticks :=
    paced.later active k frame le_rfl present
  have moves := timersAt_moves rate present
  have started := movingStart_le rate ordered present
  obtain ⟨older, newest⟩ := queueAt_getLast? rate ordered present
  generalize timersAt rate frames (k + 1) = u at moves ⊢
  generalize Detector.fires rate _ _ = fired at moves
  cases moves with
  | stay notHolding => exact ⟨paced.cooling, later, paced.moving, fun state => absurd state notHolding⟩
  | raise state | rearm state =>
    exact ⟨by simp, fun _ => later (active state (by simp)), fun _ => now (active state (by simp)), by simp⟩
  | settle state settles =>
    refine ⟨by simp, fun _ => later (active state (by simp)), by simp, fun _ => ?_⟩
    have long := (settles.duration newest (started (.inl state))).1
    have base' : (base : ℚ) ≤ (timersAt rate frames k).movingStart := by exact_mod_cast paced.moving state
    push_cast at long ⊢
    linarith
  | giveUp state | leave state =>
    exact ⟨by simp, fun _ => later (active state (by simp)), by simp, by simp⟩
  | keep state => exact ⟨paced.cooling, later, paced.moving, paced.holding⟩
  | trigger state =>
    have cooldown := rate.ticks_nonneg (show 0 ≤ cooldownSeconds by norm_num [cooldownSeconds])
    have reached := now (active state (by simp))
    refine ⟨fun _ => ?_, by simp, by simp, by simp⟩
    show base ≤ frame.ticks + rate.ticks cooldownSeconds
    omega
  | recover state cooled =>
    refine ⟨by simp, fun _ m other after atM => ?_, by simp, by simp⟩
    have order : frame.ticks ≤ other.ticks :=
      ordered.key_le_of_getElem? Frame.ticks (by omega) present atM
    have := paced.cooling state
    omega

/-- Between two triggers lie the cooldown, a movement of 0.12 s and a hold of 0.18 s. -/
theorem trigger_spacing (rate : TickRate) (frames : List Frame) (ordered : Chronological frames)
    (m n : ℕ) (first second : Frame) (earlier : m < n) (atM : frames[m]? = some first)
    (atN : frames[n]? = some second) (firesFirst : (detectorAt rate frames m).fires rate first = true)
    (firesSecond : (detectorAt rate frames n).fires rate second = true) :
    (⌊(0.8 : ℚ) * rate.frequency⌋ : ℚ) + 0.12 * rate.frequency + 0.18 * rate.frequency ≤
      ((second.ticks - first.ticks : ℤ) : ℚ) := by
  obtain ⟨bound, _⟩ := List.getElem?_eq_some_iff.mp atN
  have firstMove := timersAt_moves rate atM
  rw [firesFirst] at firstMove
  obtain ⟨_, _, _, _, cooling⟩ := firstMove.of_fires
  have paced : ∀ k, m + 1 ≤ k → k ≤ n →
      Paced rate frames (first.ticks + rate.ticks cooldownSeconds) k (timersAt rate frames k) := by
    intro k after
    induction k, after using Nat.le_induction with
    | base =>
      intro _
      rw [cooling]
      exact ⟨fun _ => le_rfl, by simp, by simp, by simp⟩
    | succ k after ih =>
      intro within
      exact paced_step ordered (List.getElem?_eq_getElem (by omega)) (ih (by omega))
  have secondMove := timersAt_moves rate atN
  rw [firesSecond] at secondMove
  obtain ⟨holding, _, heldLong, _, _⟩ := secondMove.of_fires
  have behind := (paced n (by omega) le_rfl).holding holding
  rw [rate.le_elapsedSeconds_iff] at heldLong
  simp only [TickRate.ticks, cooldownSeconds, holdSeconds] at behind heldLong
  push_cast at behind heldLong ⊢
  linarith

theorem trigger_spacing_sampleGesture :
    (⌊(0.8 : ℚ) * (1000 : ℕ)⌋ : ℚ) + 0.12 * (1000 : ℕ) + 0.18 * (1000 : ℕ) ≤ ((2700 - 1450 : ℤ) : ℚ) :=
  trigger_spacing sampleRate (sampleGesture 1000 ++ sampleGesture 2250) (by decide) 11 23
    (raisedFrame 1450 500) (raisedFrame 2700 500) (by decide) rfl rfl (by decide +kernel) (by decide +kernel)

end GestureSuite.Gesture
