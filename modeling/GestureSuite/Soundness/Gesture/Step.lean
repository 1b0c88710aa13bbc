import GestureSuite.Model.Gesture.Update

/-! # What one frame can do

Every branch of the detector is described once, as a relation between the fields that time a gesture
before and after a frame. The guards a branch has passed are part of its constructor, so later
arguments about runs split on `Moves` and never open the detector's definition again.
-/

namespace GestureSuite.Gesture

/-- The fields that time a gesture. -/
structure Timers where
  state : GestureState
  movingStart : ℤ
  holdStart : ℤ
  cooldownUntil : ℤ

def Detector.timers (d : Detector) : Timers :=
  ⟨d.gestureState, d.movingStartTicks, d.holdStartTicks, d.cooldownUntilTicks⟩

/-- The queue a frame is judged on: it already holds the frame. -/
def Detector.queueAt (rate : TickRate) (d : Detector) (frame : Frame) : List MotionFrameFeature :=
  pushFeatureFrame rate d.recentFeatures frame.feature

/-- The three tests a frame has to pass for the machine to keep holding. -/
structure KeepsHolding (rate : TickRate) (queue : List MotionFrameFeature) (frame : Frame) : Prop where
  inStopPose : isInStopPose frame.pose.pitch (canonicalizeRoll frame.pose.roll) = true
  steady : jitterAcceptable (analyzeRecentJitter rate queue frame.ticks) = true
  calm : frame.gyroMagnitude < holdBreakGyroThreshold

/-- The evidence with which a movement is accepted as a raise that has stopped. -/
structure Settles (rate : TickRate) (queue : List MotionFrameFeature) (movingStart : ℤ) (frame : Frame)
    (stable : StableWindowSummary) (summary : TrajectorySummary) : Prop where
  window : tryFindStableWindowSummary rate queue movingStart frame.ticks = .ok stable
  steady : jitterAcceptable (analyzeRecentJitter rate queue frame.ticks) = true
  trajectory : tryBuildTrajectorySummary rate queue movingStart stable = .ok summary

/-- The branches of the state machine; the last index says whether the frame fires. -/
inductive Moves (rate : TickRate) (queue : List MotionFrameFeature) (frame : Frame) :
    Timers → Timers → Bool → Prop
  | stay {t} (state : t.state ≠ .holding) : Moves rate queue frame t t false
  | raise {t} (state : t.state = .idle) (gyro : moveStartGyroThreshold ≤ frame.gyroMagnitude)
      (pose : isInWritingStartPose rate queue frame.ticks = .ok ()) :
      Moves rate queue frame t { t with state := .moving, movingStart := frame.ticks } false
  | settle {t stable summary} (state : t.state = .moving)
      (settles : Settles rate queue t.movingStart frame stable summary) :
      Moves rate queue frame t { t with state := .holding, holdStart := frame.ticks } false
  | giveUp {t} (state : t.state = .moving) : Moves rate queue frame t { t with state := .idle } false
  | leave {t} (state : t.state = .holding) : Moves rate queue frame t { t with state := .idle } false
  | rearm {t} (state : t.state = .holding) :
      Moves rate queue frame t { t with state := .moving, movingStart := frame.ticks } false
  | keep {t} (state : t.state = .holding) (keeps : KeepsHolding rate queue frame) :
      Moves rate queue frame t t false
  | trigger {t} (state : t.state = .holding) (keeps : KeepsHolding rate queue frame)
      (held : holdSeconds ≤ rate.elapsedSeconds t.holdStart frame.ticks)
      (cooled : t.cooldownUntil ≤ frame.ticks) :
      Moves rate queue frame t
        { t with state := .cooldown, cooldownUntil := frame.ticks + rate.ticks cooldownSeconds } true
  | recover {t} (state : t.state = .cooldown) (cooled : t.cooldownUntil ≤ frame.ticks) :
      Moves rate queue frame t { t with state := .idle } false

private theorem publish_timers (v : Verdict) : v.publish.1.timers = v.detector.timers := by
  rw [Verdict.publish]
  split <;> rfl

private theorem publish_fires (v : Verdict) :
    v.publish.2.any Event.isTrigger = v.events.any Event.isTrigger := by
  rw [Verdict.publish]
  split
  · simp [Event.isTrigger]
  · rfl

private theorem triggerEvents_any (frame : Frame) (count : ℤ) :
    (triggerEvents frame count).any Event.isTrigger = true := rfl

section Cases

variable (rate : TickRate) (d : Detector) (frame : Frame)

private theorem idleCase_moves (state : d.gestureState = .idle) :
    Moves rate d.recentFeatures frame d.timers (idleCase rate d frame).detector.timers
      ((idleCase rate d frame).events.any Event.isTrigger) := by
  have notHolding : d.timers.state ≠ .holding := by simp [Detector.timers, state]
  rw [idleCase]
  split_ifs with gyro
  · cases pose : isInWritingStartPose rate d.recentFeatures frame.ticks with
    | ok _ => exact .raise state gyro pose
    | error _ => exact .stay notHolding
  · exact .stay notHolding

private theorem movingCase_moves (state : d.gestureState = .moving) :
    Moves rate d.recentFeatures frame d.timers
      (movingCase rate d frame (analyzeRecentJitter rate d.recentFeatures frame.ticks)).detector.timers
      ((movingCase rate d frame (analyzeRecentJitter rate d.recentFeatures frame.ticks)).events.any
        Event.isTrigger) := by
  have notHolding : d.timers.state ≠ .holding := by simp [Detector.timers, state]
  rw [movingCase]
  dsimp only
  split
  · next stable _ window =>
    split_ifs with steady
    · split
      · next summary trajectory => exact .settle state ⟨window, steady, trajectory⟩
      · exact .giveUp state
    · exact .giveUp state
  · split_ifs
    · exact .giveUp state
    · split <;> exact .stay notHolding

private theorem holdingCase_moves (state : d.gestureState = .holding) :
    Moves rate d.recentFeatures frame d.timers
      (holdingCase rate d frame (analyzeRecentJitter rate d.recentFeatures frame.ticks)
        (isInStopPose frame.pose.pitch (canonicalizeRoll frame.pose.roll))).detector.timers
      ((holdingCase rate d frame (analyzeRecentJitter rate d.recentFeatures frame.ticks)
        (isInStopPose frame.pose.pitch (canonicalizeRoll frame.pose.roll))).events.any Event.isTrigger) := by
  rw [holdingCase]
  split_ifs with outside gyro jitter high due
  · exact .rearm state
  · exact .leave state
  · exact .rearm state
  · exact .rearm state
  · have keeps : KeepsHolding rate d.recentFeatures frame :=
      ⟨by simpa using outside, by simpa using jitter, not_le.mp high⟩
    rw [triggerEvents_any]
    exact .trigger state keeps due.1 due.2
  · exact .keep state ⟨by simpa using outside, by simpa using jitter, not_le.mp high⟩

private theorem cooldownCase_moves (state : d.gestureState = .cooldown) :
    Moves rate d.recentFeatures frame d.timers (cooldownCase d frame).detector.timers
      ((cooldownCase d frame).events.any Event.isTrigger) := by
  rw [cooldownCase]
  split_ifs with elapsed
  · exact .recover state elapsed.1
  · exact .stay (by simp [Detector.timers, state])

/-- Every frame takes one of the branches, judged on the queue that already holds it. -/
theorem Detector.next_moves :
    Moves rate (d.queueAt rate frame) frame d.timers (d.next rate frame).timers (d.fires rate frame) := by
  rw [Detector.next, Detector.fires, updateGestureAndMaybeSendHotkey]
  rw [publish_timers, publish_fires]
  set queued : Detector := { d with recentFeatures := pushFeatureFrame rate d.recentFeatures frame.feature }
  change Moves rate queued.recentFeatures frame queued.timers _ _
  rw [switchState]
  cases state : queued.gestureState with
  | idle => exact idleCase_moves rate queued frame state
  | moving => exact movingCase_moves rate queued frame state
  | holding => exact holdingCase_moves rate queued frame state
  | cooldown => exact cooldownCase_moves rate queued frame state

private theorem idleCase_recentFeatures : (idleCase rate d frame).detector.recentFeatures = d.recentFeatures := by
  rw [idleCase]
  split_ifs
  · split <;> rfl
  · rfl

private theorem movingCase_recentFeatures (jitter : ℕ × ℚ) :
    (movingCase rate d frame jitter).detector.recentFeatures = d.recentFeatures := by
  rw [movingCase]
  dsimp only
  split
  · split_ifs
    · split <;> rfl
    · rfl
  · split_ifs
    · rfl
    · split <;> rfl

private theorem holdingCase_recentFeatures (jitter : ℕ × ℚ) (inStopPose : Bool) :
    (holdingCase rate d frame jitter inStopPose).detector.recentFeatures = d.recentFeatures := by
  rw [holdingCase]
  split_ifs <;> rfl

private theorem cooldownCase_recentFeatures :
    (cooldownCase d frame).detector.recentFeatures = d.recentFeatures := by
  rw [cooldownCase]
  split_ifs <;> rfl

private theorem publish_recentFeatures (v : Verdict) :
    v.publish.1.recentFeatures = v.detector.recentFeatures := by
  rw [Verdict.publish]
  split <;> rfl

/-- No branch touches the queue. -/
theorem switchState_recentFeatures : (switchState rate d frame).publish.1.recentFeatures = d.recentFeatures := by
  rw [publish_recentFeatures, switchState]
  split
  · exact idleCase_recentFeatures rate d frame
  · exact movingCase_recentFeatures rate d frame _
  · exact holdingCase_recentFeatures rate d frame _ _
  · exact cooldownCase_recentFeatures d frame

/-- The queue after a frame is the one the frame has been pushed onto. -/
theorem Detector.next_recentFeatures : (d.next rate frame).recentFeatures = d.queueAt rate frame := by
  rw [Detector.next, updateGestureAndMaybeSendHotkey, switchState_recentFeatures]
  rfl

/-- The `switch` raises nothing, or the events of a trigger. -/
private theorem switchState_events :
    (switchState rate d frame).events = [] ∨
      ∃ count, (switchState rate d frame).events = triggerEvents frame count := by
  rw [switchState]
  split
  · left
    rw [idleCase]
    split_ifs
    · split <;> rfl
    · rfl
  · left
    rw [movingCase]
    dsimp only
    split
    · split_ifs
      · split <;> rfl
      · rfl
    · split_ifs
      · rfl
      · split <;> rfl
  · rw [holdingCase]
    split_ifs <;> first | exact .inl rfl | exact .inr ⟨_, rfl⟩
  · left
    rw [cooldownCase]
    split_ifs <;> rfl

variable {rate d frame} in
/-- Every trigger carries the one name there is. -/
theorem gestureName_of_raised {result : GestureTriggerResult}
    (raised : Event.gestureTriggered result ∈ (updateGestureAndMaybeSendHotkey rate d frame).2) :
    result.gestureName = "MOUTH_HOLD" := by
  rw [updateGestureAndMaybeSendHotkey] at raised
  generalize { d with recentFeatures := pushFeatureFrame rate d.recentFeatures frame.feature } = queued at raised
  have among : Event.gestureTriggered result ∈ (switchState rate queued frame).events := by
    rw [Verdict.publish] at raised
    split_ifs at raised
    · rcases List.mem_append.mp raised with event | state
      · exact event
      · cases List.mem_singleton.mp state
    · exact raised
  rcases switchState_events rate queued frame with silent | ⟨count, events⟩
  · rw [silent] at among
    exact absurd among List.not_mem_nil
  · rw [events, triggerEvents] at among
    rcases List.mem_cons.mp among with same | later
    · cases same
      rfl
    · split_ifs at later <;> simp at later

end Cases

end GestureSuite.Gesture
