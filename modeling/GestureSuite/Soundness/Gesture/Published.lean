import Mathlib.Data.List.Destutter
import GestureSuite.Soundness.Gesture.Phases

/-! # What a listener learns from the events

The detector counts its triggers and publishes its state when it differs from the last published one. Read over
a whole run, the events are complete: the counts of the triggers have no gap, the hotkeys that were sent are
reported under the counts of their triggers, the published states are the states of the run without
repetitions, and a trigger is published as the entry into `Cooldown` and as nothing else.
-/

namespace GestureSuite.Gesture

/-- What the `switch` does to the fields that the events are numbered and published by. -/
inductive Verdict.Raises (d : Detector) (frame : Frame) (v : Verdict) : Prop
  | silent (events : v.events = []) (count : v.detector.hotkeySentCount = d.hotkeySentCount)
      (published : v.detector.lastPublishedGestureState = d.lastPublishedGestureState)
  | trigger (events : v.events = triggerEvents frame ((d.hotkeySentCount + 1).bmod (2 ^ 32)))
      (count : v.detector.hotkeySentCount = (d.hotkeySentCount + 1).bmod (2 ^ 32))
      (published : v.detector.lastPublishedGestureState = d.lastPublishedGestureState)

section Cases

variable (rate : TickRate) (d : Detector) (frame : Frame)

private theorem idleCase_raises : (idleCase rate d frame).Raises d frame := by
  rw [idleCase]
  split_ifs
  · split <;> exact .silent rfl rfl rfl
  · exact .silent rfl rfl rfl

private theorem movingCase_raises (jitter : ℕ × ℚ) : (movingCase rate d frame jitter).Raises d frame := by
  rw [movingCase]
  dsimp only
  split
  · split_ifs
    · split <;> exact .silent rfl rfl rfl
    · exact .silent rfl rfl rfl
  · split_ifs
    · exact .silent rfl rfl rfl
    · split <;> exact .silent rfl rfl rfl

private theorem holdingCase_raises (jitter : ℕ × ℚ) (inStopPose : Bool) :
    (holdingCase rate d frame jitter inStopPose).Raises d frame := by
  rw [holdingCase]
  split_ifs with outside gyro jitter high due
  · exact .silent rfl rfl rfl
  · exact .silent rfl rfl rfl
  · exact .silent rfl rfl rfl
  · exact .silent rfl rfl rfl
  · exact .trigger rfl rfl rfl
  · exact .silent rfl rfl rfl

private theorem cooldownCase_raises : (cooldownCase d frame).Raises d frame := by
  rw [cooldownCase]
  split_ifs <;> exact .silent rfl rfl rfl

private theorem switchState_raises : (switchState rate d frame).Raises d frame := by
  rw [switchState]
  split
  · exact idleCase_raises rate d frame
  · exact movingCase_raises rate d frame _
  · exact holdingCase_raises rate d frame _ _
  · exact cooldownCase_raises d frame

end Cases

/-- The result a `GestureTriggered` carries. -/
def Event.result? : Event → Option GestureTriggerResult
  | .gestureTriggered result => some result
  | _ => none

/-- The arguments of a `HotkeySent`. -/
def Event.hotkey? : Event → Option (String × ℤ × ℕ)
  | .hotkeySent gestureName count sentTime => some (gestureName, count, sentTime)
  | _ => none

/-- The state a `GestureStateChanged` publishes. -/
def Event.published? : Event → Option GestureState
  | .gestureStateChanged state _ => some state
  | _ => none

/-- The arguments `HotkeySent` is raised with for a trigger. -/
def GestureTriggerResult.hotkey (result : GestureTriggerResult) : String × ℤ × ℕ :=
  (result.gestureName, result.triggerCount, result.triggeredAt)

/-- The result of a trigger with a given count. -/
def Frame.result (frame : Frame) (count : ℤ) : GestureTriggerResult where
  gestureName := "MOUTH_HOLD"
  hotkeySent := frame.hotkeySendOk
  triggerCount := count
  triggeredAt := frame.sentTime
  pose := frame.pose

@[simp] theorem Frame.result_triggerCount (frame : Frame) (count : ℤ) : (frame.result count).triggerCount = count := rfl

private theorem triggerEvents_result (frame : Frame) (count : ℤ) :
    (triggerEvents frame count).filterMap Event.result? = [frame.result count] := by
  rw [triggerEvents]
  split_ifs <;> rfl

private theorem triggerEvents_hotkey (frame : Frame) (count : ℤ) :
    (triggerEvents frame count).filterMap Event.hotkey? =
      ([frame.result count].filter (·.hotkeySent)).map (·.hotkey) := by
  have kept : [frame.result count].filter (·.hotkeySent) = if frame.hotkeySendOk then [frame.result count] else [] := by
    rw [List.filter_singleton, cond_eq_ite]
    rfl
  rw [triggerEvents, kept]
  split_ifs <;> rfl

private theorem triggerEvents_published (frame : Frame) (count : ℤ) :
    (triggerEvents frame count).filterMap Event.published? = [] := by
  rw [triggerEvents]
  split_ifs <;> rfl

section Frames

variable (rate : TickRate) (d : Detector) (frame : Frame)

/-- What the detector raises for a frame. -/
def Detector.raised (rate : TickRate) (d : Detector) (frame : Frame) : List Event :=
  (updateGestureAndMaybeSendHotkey rate d frame).2

/-- Behind a frame, what was published last is the state. -/
theorem Detector.next_lastPublished :
    (d.next rate frame).lastPublishedGestureState = (d.next rate frame).gestureState := by
  rw [Detector.next, updateGestureAndMaybeSendHotkey, Verdict.publish]
  split_ifs with differs
  · rfl
  · exact (not_not.mp differs).symm

variable {d}

/-- A frame publishes the state behind it when it is a new one. -/
private theorem raised_published (inSync : d.lastPublishedGestureState = d.gestureState) :
    (d.raised rate frame).filterMap Event.published? =
      if d.gestureState ≠ (d.next rate frame).gestureState then [(d.next rate frame).gestureState] else [] := by
  rw [Detector.raised, Detector.next, updateGestureAndMaybeSendHotkey]
  set queued : Detector := { d with recentFeatures := pushFeatureFrame rate d.recentFeatures frame.feature } with same
  have raises := switchState_raises rate queued frame
  have before : queued.lastPublishedGestureState = d.gestureState := inSync
  generalize switchState rate queued frame = v at raises
  have unpublished : v.events.filterMap Event.published? = [] := by
    cases raises with
    | silent events => rw [events]; rfl
    | trigger events => rw [events, triggerEvents_published]
  have published : v.detector.lastPublishedGestureState = d.gestureState := by
    cases raises with
    | silent _ _ published => exact published.trans before
    | trigger _ _ published => exact published.trans before
  rw [Verdict.publish, published]
  by_cases differs : v.detector.gestureState = d.gestureState
  · simp [differs, unpublished]
  · rw [if_pos differs, if_pos (Ne.symm differs)]
    rw [List.filterMap_append, unpublished]
    rfl

variable (d)

/-- A frame that does not fire raises no trigger; one that fires raises the next one. -/
private theorem raised_trigger :
    (d.fires rate frame = false ∧ (d.next rate frame).hotkeySentCount = d.hotkeySentCount ∧
        (d.raised rate frame).filterMap Event.result? = [] ∧ (d.raised rate frame).filterMap Event.hotkey? = []) ∨
      (d.fires rate frame = true ∧ (d.next rate frame).hotkeySentCount = (d.hotkeySentCount + 1).bmod (2 ^ 32) ∧
        (d.raised rate frame).filterMap Event.result? = [frame.result ((d.hotkeySentCount + 1).bmod (2 ^ 32))] ∧
        (d.raised rate frame).filterMap Event.hotkey? =
          ([frame.result ((d.hotkeySentCount + 1).bmod (2 ^ 32))].filter (·.hotkeySent)).map (·.hotkey)) := by
  rw [Detector.raised, Detector.next, Detector.fires, updateGestureAndMaybeSendHotkey]
  set queued : Detector := { d with recentFeatures := pushFeatureFrame rate d.recentFeatures frame.feature }
  have raises := switchState_raises rate queued frame
  generalize switchState rate queued frame = v at raises
  have count : v.publish.1.hotkeySentCount = v.detector.hotkeySentCount := by
    rw [Verdict.publish]
    split <;> rfl
  -- the state change at the end is neither a trigger nor a hotkey
  have results : v.publish.2.filterMap Event.result? = v.events.filterMap Event.result? := by
    rw [Verdict.publish]
    split
    · rw [List.filterMap_append]
      exact List.append_nil _
    · rfl
  have hotkeys : v.publish.2.filterMap Event.hotkey? = v.events.filterMap Event.hotkey? := by
    rw [Verdict.publish]
    split
    · rw [List.filterMap_append]
      exact List.append_nil _
    · rfl
  have fires : v.publish.2.any Event.isTrigger = v.events.any Event.isTrigger := by
    rw [Verdict.publish]
    split
    · simp [Event.isTrigger]
    · rfl
  rw [count, results, hotkeys, fires]
  cases raises with
  | silent events same => exact .inl ⟨by rw [events]; rfl, same, by rw [events]; rfl, by rw [events]; rfl⟩
  | trigger events same =>
    refine .inr ⟨by rw [events]; rfl, same, ?_, ?_⟩
    · rw [events, triggerEvents_result]
    · rw [events, triggerEvents_hotkey]

/-- A frame enters `Cooldown` exactly when it fires. -/
theorem Detector.fires_iff_enters_cooldown :
    d.fires rate frame = true ↔ d.gestureState ≠ .cooldown ∧ (d.next rate frame).gestureState = .cooldown := by
  have moves := Detector.next_moves rate d frame
  have before : d.timers.state = d.gestureState := rfl
  have after : (d.next rate frame).timers.state = (d.next rate frame).gestureState := rfl
  rw [← before, ← after]
  generalize (d.next rate frame).timers = u at moves
  generalize d.fires rate frame = fired at moves
  cases moves with
  | stay state => simp
  | raise state => simp
  | settle state => simp
  | giveUp state => simp
  | leave state => simp
  | rearm state => simp
  | keep state => simp [state]
  | trigger state => simp [state]
  | recover state => simp

end Frames

/-- Everything the detector raises over a list of frames. -/
def Detector.raisedOver (rate : TickRate) (d : Detector) : List Frame → List Event
  | [] => []
  | frame :: rest => d.raised rate frame ++ (d.next rate frame).raisedOver rate rest

/-- The states in front of the frames and behind the last one. -/
def Detector.statesOver (rate : TickRate) (d : Detector) (frames : List Frame) : List GestureState :=
  (frames.scanl (Detector.next rate) d).map (·.gestureState)

section Runs

variable (rate : TickRate)

/-- The value of the counter after so many triggers. -/
def hotkeySentCountAt (triggers : ℕ) : ℤ := (triggers : ℤ).bmod (2 ^ 32)

theorem hotkeySentCountAt_of_lt {triggers : ℕ} (bound : triggers < 2 ^ 31) : hotkeySentCountAt triggers = triggers := by
  unfold hotkeySentCountAt
  exact Int.bmod_eq_of_le (by omega) (by omega)

private theorem hotkeySentCountAt_succ (triggers : ℕ) :
    (hotkeySentCountAt triggers + 1).bmod (2 ^ 32) = hotkeySentCountAt (triggers + 1) := by
  unfold hotkeySentCountAt
  rw [Nat.cast_succ]
  exact Int.bmod_add_bmod

private theorem raisedOver_counts (frames : List Frame) {d : Detector} {triggers : ℕ}
    (counted : d.hotkeySentCount = hotkeySentCountAt triggers) :
    ((d.raisedOver rate frames).filterMap Event.result?).map (·.triggerCount) =
      (List.range' (triggers + 1) ((d.raisedOver rate frames).filterMap Event.result?).length).map
        hotkeySentCountAt := by
  induction frames generalizing d triggers with
  | nil => rfl
  | cons frame rest ih =>
    rw [Detector.raisedOver, List.filterMap_append]
    rcases raised_trigger rate d frame with ⟨-, count, results, -⟩ | ⟨-, count, results, -⟩
    · rw [results, List.nil_append, ih (count.trans counted)]
    · rw [counted, hotkeySentCountAt_succ] at count results
      simp only [results, List.singleton_append, List.map_cons, List.length_cons, List.range'_succ,
        Frame.result_triggerCount, ih count]

private theorem raisedOver_hotkeys (frames : List Frame) (d : Detector) :
    (d.raisedOver rate frames).filterMap Event.hotkey? =
      (((d.raisedOver rate frames).filterMap Event.result?).filter (·.hotkeySent)).map (·.hotkey) := by
  induction frames generalizing d with
  | nil => rfl
  | cons frame rest ih =>
    rw [Detector.raisedOver, List.filterMap_append, List.filterMap_append, List.filter_append, List.map_append, ih]
    rcases raised_trigger rate d frame with ⟨-, -, results, sent⟩ | ⟨-, -, results, sent⟩
    · rw [results, sent]
      rfl
    · rw [results, sent]

private theorem exists_statesOver (frames : List Frame) (d : Detector) :
    ∃ tail, d.statesOver rate frames = d.gestureState :: tail := by
  cases frames with
  | nil => exact ⟨[], rfl⟩
  | cons frame rest =>
    exact ⟨(d.next rate frame).statesOver rate rest, by rw [Detector.statesOver, List.scanl_cons]; rfl⟩

private theorem raisedOver_published (frames : List Frame) (d : Detector)
    (inSync : d.lastPublishedGestureState = d.gestureState) :
    d.gestureState :: (d.raisedOver rate frames).filterMap Event.published? =
      (d.statesOver rate frames).destutter (· ≠ ·) := by
  induction frames generalizing d with
  | nil => rfl
  | cons frame rest ih =>
    have later := ih (d.next rate frame) (d.next_lastPublished rate frame)
    rw [Detector.raisedOver, List.filterMap_append, raised_published rate frame inSync]
    rw [Detector.statesOver, List.scanl_cons, List.map_cons, List.destutter_cons']
    obtain ⟨tail, states⟩ := exists_statesOver rate rest (d.next rate frame)
    change _ = ((d.next rate frame).statesOver rate rest).destutter' (· ≠ ·) d.gestureState
    rw [states, List.destutter_cons'] at later
    rw [states, List.destutter'_cons]
    split_ifs with differs
    · rw [← later]
      rfl
    · rw [not_not.mp differs, ← later]
      rfl

private theorem count_published (frames : List Frame) (d : Detector)
    (inSync : d.lastPublishedGestureState = d.gestureState) :
    ((d.raisedOver rate frames).filterMap Event.published?).count .cooldown =
      ((d.raisedOver rate frames).filterMap Event.result?).length := by
  induction frames generalizing d with
  | nil => rfl
  | cons frame rest ih =>
    have later := ih (d.next rate frame) (d.next_lastPublished rate frame)
    have enters := d.fires_iff_enters_cooldown rate frame
    rw [Detector.raisedOver, List.filterMap_append, List.filterMap_append, List.count_append, List.length_append, later,
      raised_published rate frame inSync]
    rcases raised_trigger rate d frame with ⟨fires, -, results, -⟩ | ⟨fires, -, results, -⟩
    · rw [fires] at enters
      rw [results]
      split_ifs with differs
      · have other : (d.next rate frame).gestureState ≠ .cooldown := by
          intro cooldown
          exact absurd (enters.mpr ⟨fun same => differs (same.trans cooldown.symm), cooldown⟩) Bool.false_ne_true
        simp [other]
      · rfl
    · obtain ⟨outside, inside⟩ := enters.mp fires
      rw [results, inside, if_pos outside]
      rfl

private theorem statesOver_follows (frames : List Frame) (d : Detector) :
    (d.statesOver rate frames).IsChain GestureState.Follows := by
  induction frames generalizing d with
  | nil => exact List.isChain_singleton _
  | cons frame rest ih =>
    have later := ih (d.next rate frame)
    have step : d.gestureState.Follows (d.next rate frame).gestureState := (Detector.next_moves rate d frame).follows
    obtain ⟨tail, states⟩ := exists_statesOver rate rest (d.next rate frame)
    rw [Detector.statesOver, List.scanl_cons, List.map_cons]
    change (d.gestureState :: (d.next rate frame).statesOver rate rest).IsChain GestureState.Follows
    rw [states] at later ⊢
    exact List.isChain_cons_cons.mpr ⟨step, later⟩

/-- Over every run the triggers are numbered from one on, as far as a counter of 32 bits can, the reported hotkeys
are those of the triggers that were sent, the published states are the states of the run without repetitions, and
`Cooldown` is published as often as there is a trigger. -/
theorem events_complete (frames : List Frame) :
    (((Detector.raisedOver rate {} frames).filterMap Event.result?).map (·.triggerCount) =
        (List.range' 1 ((Detector.raisedOver rate {} frames).filterMap Event.result?).length).map hotkeySentCountAt) ∧
      (((Detector.raisedOver rate {} frames).filterMap Event.result?).length < 2 ^ 31 →
        ((Detector.raisedOver rate {} frames).filterMap Event.result?).map (·.triggerCount) =
          (List.range' 1 ((Detector.raisedOver rate {} frames).filterMap Event.result?).length).map (↑)) ∧
      (Detector.raisedOver rate {} frames).filterMap Event.hotkey? =
        (((Detector.raisedOver rate {} frames).filterMap Event.result?).filter (·.hotkeySent)).map (·.hotkey) ∧
      GestureState.idle :: (Detector.raisedOver rate {} frames).filterMap Event.published? =
        (Detector.statesOver rate {} frames).destutter (· ≠ ·) ∧
      (Detector.statesOver rate {} frames).IsChain GestureState.Follows ∧
      ((Detector.raisedOver rate {} frames).filterMap Event.published?).count .cooldown =
        ((Detector.raisedOver rate {} frames).filterMap Event.result?).length := by
  have counts := @raisedOver_counts rate frames {} 0 rfl
  refine ⟨counts, fun few => ?_, raisedOver_hotkeys rate frames {}, raisedOver_published rate frames {} rfl,
    statesOver_follows rate frames {}, count_published rate frames {} rfl⟩
  rw [counts]
  refine List.map_congr_left fun triggers member => hotkeySentCountAt_of_lt ?_
  have bound := List.mem_range'_1.mp member
  omega

end Runs

end GestureSuite.Gesture
