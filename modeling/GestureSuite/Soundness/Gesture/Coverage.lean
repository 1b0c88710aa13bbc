import GestureSuite.Soundness.Gesture.Movement

/-! # How much of a movement the queue still holds

The queue is pruned by age, and the longest admissible movement is bounded by another constant.
`keepingAt` is the detector with a queue that is never pruned, the reference for what the pruning
may change. Every test window but the trajectory is shorter than the retention time, so the two
detectors can only part on a frame that judges a trajectory of which the queue has lost the start.
-/

namespace GestureSuite.Gesture

open Machine

variable {rate : TickRate} {frames : List Frame}

/-- The detector with another queue. -/
@[simps]
def Detector.withQueue (d : Detector) (queue : List MotionFrameFeature) : Detector :=
  { d with recentFeatures := queue }

/-- The detector whose queue is never pruned. -/
def Detector.nextKeeping (rate : TickRate) (d : Detector) (frame : Frame) : Detector :=
  (switchState rate (d.withQueue (d.recentFeatures ++ [frame.feature])) frame).publish.1

/-- The never pruned detector in front of frame `k`. -/
def keepingAt (rate : TickRate) (frames : List Frame) (k : ℕ) : Detector :=
  trajectory (Detector.nextKeeping rate) {} frames k

/-- Two detectors that differ in their queues only. -/
def Detector.Agrees (d e : Detector) : Prop := d.withQueue [] = e.withQueue []

/-- A frame in `Moving` on which the trajectory is judged. -/
def Detector.Judges (rate : TickRate) (d : Detector) (frame : Frame) : Prop :=
  d.gestureState = .moving ∧ d.Stops rate frame ∧
    jitterAcceptable (analyzeRecentJitter rate (d.queueAt rate frame) frame.ticks) = true

/-- The movement a trajectory is judged on is accepted on one queue exactly when it is on the other. -/
def SameTrajectory (rate : TickRate) (queue other : List MotionFrameFeature) (start now : ℤ) : Prop :=
  ∀ stable, tryFindStableWindowSummary rate queue start now = .ok stable →
    ((∃ summary, tryBuildTrajectorySummary rate queue start stable = .ok summary) ↔
      ∃ summary, tryBuildTrajectorySummary rate other start stable = .ok summary)

section Verdicts

variable {queue other : List MotionFrameFeature} {d : Detector} {frame : Frame}

private theorem idleCase_agrees (same : SameWindows rate queue other frame.ticks) :
    (idleCase rate (d.withQueue queue) frame).detector.Agrees (idleCase rate (d.withQueue other) frame).detector := by
  simp only [idleCase, Detector.withQueue_recentFeatures, same.pose]
  split_ifs
  · split <;> rfl
  · rfl

private theorem movingCase_agrees (same : SameWindows rate queue other frame.ticks)
    (judged : d.movingPrepared rate frame = true →
      jitterAcceptable (analyzeRecentJitter rate queue frame.ticks) = true →
      SameTrajectory rate queue other d.movingStartTicks frame.ticks) :
    (movingCase rate (d.withQueue queue) frame (analyzeRecentJitter rate queue frame.ticks)).detector.Agrees
      (movingCase rate (d.withQueue other) frame (analyzeRecentJitter rate other frame.ticks)).detector := by
  simp only [movingCase, Detector.withQueue_recentFeatures, Detector.withQueue_movingStartTicks,
    Detector.withQueue_movingPeakGyro, ← same.stable, ← same.jitter]
  split
  · next stable prepared window =>
    split_ifs with steady
    · have agree := judged prepared steady stable window
      cases built : tryBuildTrajectorySummary rate queue d.movingStartTicks stable with
      | ok summary =>
        obtain ⟨summary', built'⟩ := agree.mp ⟨summary, built⟩
        rw [built']
        rfl
      | error =>
        cases built' : tryBuildTrajectorySummary rate other d.movingStartTicks stable with
        | ok summary' =>
          obtain ⟨summary, accepted⟩ := agree.mpr ⟨summary', built'⟩
          simp [built] at accepted
        | error => rfl
    · rfl
  · split_ifs
    · rfl
    · split <;> rfl

private theorem holdingCase_agrees (jitter : ℕ × ℚ) (inStopPose : Bool) :
    (holdingCase rate (d.withQueue queue) frame jitter inStopPose).detector.Agrees
      (holdingCase rate (d.withQueue other) frame jitter inStopPose).detector := by
  simp only [holdingCase, Detector.withQueue_holdStartTicks, Detector.withQueue_cooldownUntilTicks]
  split_ifs <;> rfl

private theorem cooldownCase_agrees :
    (cooldownCase (d.withQueue queue) frame).detector.Agrees (cooldownCase (d.withQueue other) frame).detector := by
  simp only [cooldownCase, Detector.withQueue_cooldownUntilTicks]
  split_ifs <;> rfl

private theorem publish_agrees {v w : Verdict} (agree : v.detector.Agrees w.detector) :
    v.publish.1.Agrees w.publish.1 := by
  have state : v.detector.gestureState = w.detector.gestureState := (Detector.mk.inj agree).1
  have published : v.detector.lastPublishedGestureState = w.detector.lastPublishedGestureState :=
    (Detector.mk.inj agree).2.2.2.2.2.2.1
  rw [Verdict.publish, Verdict.publish, state, published]
  split_ifs
  · exact congrArg (fun d : Detector => { d with lastPublishedGestureState := w.detector.gestureState }) agree
  · exact agree

/-- On two queues with the same windows a frame leaves the same fields behind, unless it judges a
trajectory on which the queues differ. -/
theorem switchState_agrees (same : SameWindows rate queue other frame.ticks)
    (judged : d.gestureState = .moving → d.movingPrepared rate frame = true →
      jitterAcceptable (analyzeRecentJitter rate queue frame.ticks) = true →
      SameTrajectory rate queue other d.movingStartTicks frame.ticks) :
    (switchState rate (d.withQueue queue) frame).publish.1.Agrees
      (switchState rate (d.withQueue other) frame).publish.1 := by
  apply publish_agrees
  simp only [switchState, Detector.withQueue_gestureState, Detector.withQueue_recentFeatures]
  cases state : d.gestureState with
  | idle => exact idleCase_agrees same
  | moving => exact movingCase_agrees same (judged state)
  | holding =>
    rw [same.jitter]
    exact holdingCase_agrees _ _
  | cooldown => exact cooldownCase_agrees

end Verdicts

/-- Detectors that agree are the same once they have the same queue. -/
theorem Detector.Agrees.withQueue {d e : Detector} (agree : d.Agrees e) (queue : List MotionFrameFeature) :
    d.withQueue queue = e.withQueue queue := by
  have requeued := congrArg (Detector.withQueue · queue) (show d.withQueue [] = e.withQueue [] from agree)
  exact requeued

/-- Frame `m` started the movement that is in progress in front of frame `k`. -/
structure MovesSince (rate : TickRate) (frames : List Frame) (m k : ℕ) (first : Frame) : Prop where
  present : frames[m]? = some first
  earlier : m < k
  entered : (detectorAt rate frames m).gestureState ≠ .moving
  moving : ∀ j, m < j → j ≤ k → (detectorAt rate frames j).gestureState = .moving

/-- The features of the frames from `m` to `k`. -/
def movement (frames : List Frame) (m k : ℕ) : List MotionFrameFeature := (history frames (k + 1)).drop m

/-- The frame that started a movement has set `_movingStartTicks`, and nothing has changed it since. -/
theorem MovesSince.movingStartTicks {m k : ℕ} {first : Frame} (since : MovesSince rate frames m k first)
    (bound : k ≤ frames.length) : (detectorAt rate frames k).movingStartTicks = first.ticks := by
  obtain ⟨present, earlier, entered, moving⟩ := since
  induction k, earlier using Nat.le_induction with
  | base =>
    have moves := timersAt_moves rate present
    have state : (timersAt rate frames (m + 1)).state = .moving := moving (m + 1) (by omega) le_rfl
    change (timersAt rate frames (m + 1)).movingStart = _
    generalize timersAt rate frames (m + 1) = u at moves state ⊢
    generalize Detector.fires rate _ _ = fired at moves
    cases moves with
    | stay => exact absurd state entered
    | keep before => exact absurd state entered
    | raise | rearm => rfl
    | settle | giveUp | leave | trigger | recover => simp at state
  | succ k after ih =>
    have earlier := ih (by omega) fun j later within => moving j later (by omega)
    have current : frames[k]? = some frames[k] := List.getElem?_eq_getElem (by omega)
    have moves := timersAt_moves rate current
    have before : (timersAt rate frames k).state = .moving := moving k after (by omega)
    have state : (timersAt rate frames (k + 1)).state = .moving := moving (k + 1) (by omega) le_rfl
    change (timersAt rate frames (k + 1)).movingStart = _
    generalize timersAt rate frames (k + 1) = u at moves state ⊢
    generalize Detector.fires rate _ _ = fired at moves
    cases moves with
    | stay => exact earlier
    | raise idle => simp [before] at idle
    | keep holding | rearm holding => simp [before] at holding
    | settle | giveUp | leave | trigger | recover => simp at state

/-- Every frame processed in `Moving` belongs to a movement some earlier frame has started. -/
theorem exists_movesSince {k : ℕ} (bound : k ≤ frames.length)
    (moving : (detectorAt rate frames k).gestureState = .moving) : ∃ m first, MovesSince rate frames m k first := by
  obtain ⟨m, within, entered, after⟩ :=
    exists_last (fun m => (detectorAt rate frames m).gestureState ≠ .moving) (by simp [detectorAt]) k
  have earlier : m < k := within.lt_of_ne (by rintro rfl; exact entered moving)
  refine ⟨m, frames[m], List.getElem?_eq_getElem (by omega), earlier, entered, ?_⟩
  intro j later upTo
  exact not_not.mp (after j later upTo)

private theorem history_strict (strict : StrictlyChronological frames) (k : ℕ) :
    (history frames k).Pairwise fun a b => a.ticks < b.ticks :=
  List.pairwise_map.mpr (strict.1.sublist (List.take_sublist k frames))

private theorem history_getElem? {m k : ℕ} {first : Frame} (present : frames[m]? = some first) (earlier : m < k) :
    (history frames k)[m]? = some first.feature := by
  rw [history, List.getElem?_map, List.getElem?_take_of_lt earlier, present, Option.map_some]

/-- Without pruning, the judged segment is the whole movement. -/
private theorem trajectorySegment_history (strict : StrictlyChronological frames) {m k : ℕ} {first frame : Frame}
    (since : MovesSince rate frames m k first) (present : frames[k]? = some frame) :
    trajectorySegment (history frames (k + 1)) first.ticks frame.ticks = movement frames m k := by
  have earlier := since.earlier
  have atM := history_getElem? (k := k + 1) since.present (by omega)
  rw [movement, ← (history_strict strict (k + 1)).filter_key_le_eq_drop MotionFrameFeature.ticks atM]
  apply List.filter_congr
  intro old member
  obtain ⟨i, atI⟩ := List.mem_iff_getElem?.mp member
  have inside : i < k + 1 := by
    obtain ⟨bound, _⟩ := List.getElem?_eq_some_iff.mp atI
    simp only [history, List.length_map, List.length_take] at bound
    omega
  have order : old.ticks ≤ frame.ticks :=
    (history_sorted strict.chronological (k + 1)).key_le_of_getElem? MotionFrameFeature.ticks (Nat.le_of_lt_succ inside)
      atI (history_getElem? present (by omega))
  rw [← Bool.decide_and]
  exact decide_eq_decide.mpr (and_iff_left order)

/-- The judged segment is the whole movement exactly while its first frame is inside the retention time. -/
theorem trajectorySegment_eq_movement_iff (strict : StrictlyChronological frames) {m k : ℕ} {first frame : Frame}
    (since : MovesSince rate frames m k first) (present : frames[k]? = some frame) :
    trajectorySegment (queueOf rate frames k frame) first.ticks frame.ticks = movement frames m k ↔
      frame.ticks - first.ticks ≤ rate.ticks featureBufferRetentionSeconds := by
  have earlier := since.earlier
  have atM := history_getElem? (k := k + 1) since.present (by omega)
  rw [queueOf, queueAt_eq_filter rate strict.chronological present]
  constructor
  · intro whole
    have member : first.feature ∈ movement frames m k := by
      apply List.mem_iff_getElem?.mpr
      exact ⟨0, by rw [movement, List.getElem?_drop]; exact atM⟩
    rw [← whole, trajectorySegment] at member
    have kept := List.of_mem_filter (List.mem_of_mem_filter member)
    rw [decide_eq_true_eq, Frame.feature_ticks] at kept
    omega
  · intro within
    rw [← trajectorySegment_history strict since present]
    rw [trajectorySegment, trajectorySegment]
    apply List.filter_filter_of_imp
    intro old kept
    rw [Bool.and_eq_true, decide_eq_true_eq] at kept
    rw [decide_eq_true_eq]
    omega

private theorem keepingAt_succ {k : ℕ} {frame : Frame} (present : frames[k]? = some frame) :
    keepingAt rate frames (k + 1) = (keepingAt rate frames k).nextKeeping rate frame :=
  trajectory_succ _ _ _ present

private theorem keepingAt_recentFeatures (k : ℕ) (bound : k ≤ frames.length) :
    (keepingAt rate frames k).recentFeatures = history frames k := by
  induction k with
  | zero => rfl
  | succ k ih =>
    have present : frames[k]? = some frames[k] := List.getElem?_eq_getElem (by omega)
    rw [keepingAt_succ present, Detector.nextKeeping, switchState_recentFeatures, Detector.withQueue_recentFeatures,
      ih (by omega), history_succ present]

/-- The stable window found on a frame of a run ends with that frame. -/
private theorem endTicks_of_found (ordered : Chronological frames) {k : ℕ} {frame : Frame}
    {stable : StableWindowSummary} (present : frames[k]? = some frame)
    (moving : (detectorAt rate frames k).gestureState = .moving)
    (window : tryFindStableWindowSummary rate (queueOf rate frames k frame)
      (detectorAt rate frames k).movingStartTicks frame.ticks = .ok stable) : stable.endTicks = frame.ticks := by
  obtain ⟨older, newest⟩ := queueAt_getLast? rate ordered present
  obtain ⟨-, summarized, -⟩ := tryFindStableWindowSummary_ok_iff.mp window
  rw [summarized, queueOf, newest]
  exact summarizeStableWindow_endTicks (movingStart_le rate ordered present (.inl moving))

/-- Outside the gap between the retention time and the longest admissible movement, both queues
give a judged trajectory the same verdict. -/
private theorem sameTrajectory_of_covered (strict : StrictlyChronological frames) {k : ℕ} {frame : Frame}
    (present : frames[k]? = some frame) (moving : (detectorAt rate frames k).gestureState = .moving)
    (covered : ¬ (⌊(4 : ℚ) * rate.frequency⌋ < frame.ticks - (detectorAt rate frames k).movingStartTicks ∧
      ((frame.ticks - (detectorAt rate frames k).movingStartTicks : ℤ) : ℚ) ≤ 4.8 * rate.frequency)) :
    SameTrajectory rate (queueOf rate frames k frame) (history frames (k + 1))
      (detectorAt rate frames k).movingStartTicks frame.ticks := by
  intro stable window
  obtain ⟨bound, _⟩ := List.getElem?_eq_some_iff.mp present
  obtain ⟨m, first, since⟩ := exists_movesSince bound.le moving
  have endTicks := endTicks_of_found strict.chronological present moving window
  have start := since.movingStartTicks bound.le
  rw [start] at covered ⊢
  rcases not_and_or.mp covered with inside | tooLong
  · have whole := (trajectorySegment_eq_movement_iff strict since present).mpr (not_lt.mp inside)
    rw [← trajectorySegment_history strict since present] at whole
    rw [tryBuildTrajectorySummary, tryBuildTrajectorySummary, endTicks, whole]
  · have rejected (queue : List MotionFrameFeature) :
        ¬ ∃ summary, tryBuildTrajectorySummary rate queue first.ticks stable = .ok summary := by
      rintro ⟨summary, built⟩
      have short := (tryBuildTrajectorySummary_duration built).2
      rw [endTicks, rate.elapsedSeconds_le_iff] at short
      norm_num [trajectoryMaxSeconds] at short tooLong
      linarith
    exact iff_of_false (rejected _) (rejected _)

/-- In a run in which no trajectory is judged inside the gap, pruning changes nothing but the queue. -/
private theorem agrees_of_covered (strict : StrictlyChronological frames)
    (covered : ∀ k frame, frames[k]? = some frame → (detectorAt rate frames k).Judges rate frame →
      ¬ (⌊(4 : ℚ) * rate.frequency⌋ < frame.ticks - (detectorAt rate frames k).movingStartTicks ∧
        ((frame.ticks - (detectorAt rate frames k).movingStartTicks : ℤ) : ℚ) ≤ 4.8 * rate.frequency))
    (k : ℕ) (bound : k ≤ frames.length) : (detectorAt rate frames k).Agrees (keepingAt rate frames k) := by
  induction k with
  | zero => rfl
  | succ k ih =>
    have present : frames[k]? = some frames[k] := List.getElem?_eq_getElem (by omega)
    have agree := ih (by omega)
    rw [detectorAt_succ rate present, keepingAt_succ present, Detector.nextKeeping,
      keepingAt_recentFeatures k (by omega), ← history_succ present, ← agree.withQueue]
    change ((switchState rate ((detectorAt rate frames k).withQueue (queueOf rate frames k frames[k]))
      frames[k]).publish.1).Agrees _
    apply switchState_agrees
    · rw [queueOf, queueAt_eq_filter rate strict.chronological present]
      exact sameWindows_pruned _ _
    · intro moving prepared steady stable window
      refine sameTrajectory_of_covered strict present moving ?_ stable window
      exact covered k _ present ⟨moving, ⟨prepared, stable, window⟩, steady⟩

/-- The segment a movement is judged on is the whole movement exactly up to 4 s after its start. A run
that judges no trajectory between 4 s and 4.8 s therefore computes every accepted trajectory from the
whole movement and goes through the states of the detector that keeps every frame. -/
theorem trajectory_covers_movement (rate : TickRate) (frames : List Frame) (strict : StrictlyChronological frames) :
    (∀ k frame m first, frames[k]? = some frame → MovesSince rate frames m k first →
      (trajectorySegment (queueOf rate frames k frame) (detectorAt rate frames k).movingStartTicks frame.ticks =
        movement frames m k ↔ frame.ticks - first.ticks ≤ ⌊(4 : ℚ) * rate.frequency⌋)) ∧
    ((∀ k frame, frames[k]? = some frame → (detectorAt rate frames k).Judges rate frame →
        ¬ (⌊(4 : ℚ) * rate.frequency⌋ < frame.ticks - (detectorAt rate frames k).movingStartTicks ∧
          ((frame.ticks - (detectorAt rate frames k).movingStartTicks : ℤ) : ℚ) ≤ 4.8 * rate.frequency)) →
      (∀ k frame stable summary m first, frames[k]? = some frame → MovesSince rate frames m k first →
        (detectorAt rate frames k).Judges rate frame →
        Settles rate (queueOf rate frames k frame) (detectorAt rate frames k).movingStartTicks frame stable summary →
        trajectorySegment (queueOf rate frames k frame) (detectorAt rate frames k).movingStartTicks
          stable.endTicks = movement frames m k) ∧
      ∀ k ≤ frames.length, (detectorAt rate frames k).Agrees (keepingAt rate frames k)) := by
  have whole : ∀ k frame m first, frames[k]? = some frame → MovesSince rate frames m k first →
      (trajectorySegment (queueOf rate frames k frame) (detectorAt rate frames k).movingStartTicks frame.ticks =
        movement frames m k ↔ frame.ticks - first.ticks ≤ ⌊(4 : ℚ) * rate.frequency⌋) := by
    intro k frame m first present since
    obtain ⟨bound, _⟩ := List.getElem?_eq_some_iff.mp present
    rw [since.movingStartTicks bound.le]
    exact trajectorySegment_eq_movement_iff strict since present
  refine ⟨whole, fun covered => ⟨?_, agrees_of_covered strict covered⟩⟩
  intro k frame stable summary m first present since judges settles
  obtain ⟨bound, _⟩ := List.getElem?_eq_some_iff.mp present
  have endTicks := endTicks_of_found strict.chronological present judges.1 settles.window
  have short := (matches_duration strict.chronological present judges.1 ⟨stable, summary, settles⟩).2
  have inside : frame.ticks - (detectorAt rate frames k).movingStartTicks ≤ ⌊(4 : ℚ) * rate.frequency⌋ := by
    by_contra outside
    exact covered k frame present judges ⟨not_le.mp outside, short⟩
  rw [endTicks, whole k frame m first present since, ← since.movingStartTicks bound.le]
  exact inside

theorem trajectory_covers_movement_sampleGesture :
    (detectorAt sampleRate (sampleGesture 1000) 12).Agrees (keepingAt sampleRate (sampleGesture 1000) 12) := by
  refine ((trajectory_covers_movement sampleRate (sampleGesture 1000) (by decide)).2 ?_).2 12 (by decide)
  rintro k frame present ⟨moving, _⟩ ⟨late, _⟩
  obtain ⟨bound, same⟩ := List.getElem?_eq_some_iff.mp present
  have last : ∀ frame ∈ sampleGesture 1000, frame.ticks ≤ 1450 := by decide
  have starts : ∀ k < 12, (detectorAt sampleRate (sampleGesture 1000) k).gestureState = .moving →
      (detectorAt sampleRate (sampleGesture 1000) k).movingStartTicks = 1060 := by
    decide +kernel
  rw [starts k bound moving] at late
  have early := last frame (List.mem_of_getElem? present)
  norm_num [sampleRate] at late
  omega

/-- A raise that takes 4.26 s and is accepted without its first frame. -/
def longRaise : List Frame :=
  raiseAt [(1060, 1000), (2000, 1000), (3000, 1000), (5200, 500), (5230, 500), (5260, 500), (5290, 500), (5320, 500)]

/-- A raise of the same length with so few frames that losing the first one makes the difference. -/
def sparseRaise : List Frame :=
  raiseAt [(1060, 1000), (5200, 500), (5230, 500), (5260, 500), (5290, 500), (5320, 500)]

/-- One raise is accepted on a segment that has lost its first frame, another is discarded that the
detector with every frame accepts. -/
theorem trajectory_loses_start :
    (¬ ∀ (rate : TickRate) (frames : List Frame), StrictlyChronological frames →
      ∀ k frame stable summary m first, frames[k]? = some frame → MovesSince rate frames m k first →
        (detectorAt rate frames k).Judges rate frame →
        Settles rate (queueOf rate frames k frame) (detectorAt rate frames k).movingStartTicks frame stable summary →
        trajectorySegment (queueOf rate frames k frame) (detectorAt rate frames k).movingStartTicks
          stable.endTicks = movement frames m k) ∧
    ¬ ∀ (rate : TickRate) (frames : List Frame), StrictlyChronological frames →
      ∀ k ≤ frames.length, (detectorAt rate frames k).Agrees (keepingAt rate frames k) := by
  constructor
  · intro whole
    have moving : (detectorAt sampleRate longRaise 10).gestureState = .moving := by decide +kernel
    have holding : ((detectorAt sampleRate longRaise 10).next sampleRate (raisedFrame 5320 500)).gestureState =
        .holding := by decide +kernel
    obtain ⟨stops, stable, summary, settles⟩ := (Detector.next_holding_iff sampleRate _ _ moving).mp holding
    have since : MovesSince sampleRate longRaise 3 10 (raisedFrame 1060 1000) := by
      refine ⟨rfl, by decide, by decide, ?_⟩
      intro j after within
      interval_cases j <;> decide +kernel
    have segment := whole sampleRate longRaise (by decide) 10 (raisedFrame 5320 500) stable summary 3
      (raisedFrame 1060 1000) rfl since ⟨moving, stops, settles.steady⟩ settles
    rw [endTicks_of_found (by decide) rfl moving settles.window] at segment
    revert segment
    decide +kernel
  · intro agree
    have same := (Detector.mk.inj (agree sampleRate sparseRaise (by decide) 9 (by decide))).1
    revert same
    decide +kernel

end GestureSuite.Gesture
