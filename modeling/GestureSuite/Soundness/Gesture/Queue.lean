import GestureSuite.Soundness.Gesture.Step
import GestureSuite.ToMathlib.ListWindow

/-! # The pruned queue against the whole run

On ticks that never step back, a run of pushes keeps exactly the frames that are not older than the
retention time, in their order. Every test window is shorter than that, so a window of the queue is the
same window of the whole run, and the newest entry is always the current frame. The detector's queue
is such a run over the features of its frames.
-/

namespace GestureSuite.Gesture

open Machine

variable (rate : TickRate) {k : ℕ}

theorem TickRate.ticks_mono {short long : ℚ} (order : short ≤ long) :
    rate.ticks short ≤ rate.ticks long := by
  apply Int.floor_le_floor
  exact mul_le_mul_of_nonneg_right order (Nat.cast_nonneg _)

theorem TickRate.ticks_nonneg {seconds : ℚ} (nonneg : 0 ≤ seconds) :
    0 ≤ rate.ticks seconds :=
  Int.floor_nonneg.mpr (mul_nonneg nonneg (Nat.cast_nonneg _))

/-- Pushing onto an ordered queue keeps the entries inside the retention time. -/
theorem pushFeatureFrame_eq_filter (queue : List MotionFrameFeature) (new : MotionFrameFeature)
    (sorted : (queue ++ [new]).Pairwise fun a b => a.ticks ≤ b.ticks) :
    pushFeatureFrame rate queue new =
      (queue ++ [new]).filter fun old => new.ticks - rate.ticks featureBufferRetentionSeconds ≤ old.ticks := by
  rw [pushFeatureFrame]
  rw [List.dropWhile_eq_filter_not]
  · apply List.filter_congr
    intro old _
    simp only [gt_iff_lt, ← decide_not, not_lt, decide_eq_decide]
    omega
  · apply sorted.imp
    intro a b order expired
    simp only [gt_iff_lt, decide_eq_true_eq] at expired ⊢
    omega

/-- The queue after the first `k` of the frames have been pushed. -/
def pushedAt (rate : TickRate) (frames : List MotionFrameFeature) (k : ℕ) : List MotionFrameFeature :=
  trajectory (pushFeatureFrame rate) [] frames k

section Pushes

variable {features : List MotionFrameFeature} {k : ℕ} {feature : MotionFrameFeature}

theorem pushedAt_succ (present : features[k]? = some feature) :
    pushedAt rate features (k + 1) = pushFeatureFrame rate (pushedAt rate features k) feature :=
  trajectory_succ _ _ _ present

/-- The queue holds the frames pushed so far that are inside the retention time. -/
theorem pushedAt_eq_filter (sorted : features.Pairwise fun a b => a.ticks ≤ b.ticks)
    (present : features[k]? = some feature) :
    pushedAt rate features (k + 1) = (features.take (k + 1)).filter fun old =>
      feature.ticks - rate.ticks featureBufferRetentionSeconds ≤ old.ticks := by
  induction k generalizing feature with
  | zero =>
    have taken : features.take (0 + 1) = [] ++ [feature] := by
      rw [List.take_add_one, present]
      rfl
    rw [pushedAt_succ rate present, taken]
    exact pushFeatureFrame_eq_filter rate [] feature (List.pairwise_singleton _ _)
  | succ k ih =>
    obtain ⟨bound, _⟩ := List.getElem?_eq_some_iff.mp present
    have before : features[k]? = some features[k] := List.getElem?_eq_getElem (by omega)
    have order : features[k].ticks ≤ feature.ticks :=
      sorted.key_le_of_getElem? MotionFrameFeature.ticks (by omega) before present
    have taken : features.take (k + 1 + 1) = features.take (k + 1) ++ [feature] := by
      rw [List.take_add_one, present]
      rfl
    rw [pushedAt_succ rate present, ih before, taken, pushFeatureFrame_eq_filter]
    · -- the older cut-off is implied by the newer one
      simp only [List.filter_append, List.filter_filter]
      congr 1
      apply List.filter_congr
      intro old _
      rw [← Bool.decide_and, decide_eq_decide]
      omega
    · apply List.Pairwise.sublist (List.filter_sublist.append_right _)
      rw [← taken]
      exact sorted.sublist (List.take_sublist _ _)

/-- The newest entry of the queue is the frame just pushed. -/
theorem pushedAt_getLast? (sorted : features.Pairwise fun a b => a.ticks ≤ b.ticks)
    (present : features[k]? = some feature) : ∃ older, pushedAt rate features (k + 1) = older ++ [feature] := by
  have retention := rate.ticks_nonneg (show 0 ≤ featureBufferRetentionSeconds by
    norm_num [featureBufferRetentionSeconds])
  rw [pushedAt_eq_filter rate sorted present, List.take_add_one, present, Option.toList_some, List.filter_append,
    List.filter_cons_of_pos (by simpa using retention), List.filter_nil]
  exact ⟨_, rfl⟩

end Pushes

section Windows

variable {rate}

/-- Two queues that look the same to every test but the trajectory. -/
structure SameWindows (rate : TickRate) (queue other : List MotionFrameFeature) (now : ℤ) : Prop where
  pose : isInWritingStartPose rate queue now = isInWritingStartPose rate other now
  stable : ∀ start, tryFindStableWindowSummary rate queue start now = tryFindStableWindowSummary rate other start now
  jitter : analyzeRecentJitter rate queue now = analyzeRecentJitter rate other now

private theorem analyzeRecentJitter_filter (history : List MotionFrameFeature) {now : ℤ}
    {p : MotionFrameFeature → Bool}
    (implies : ∀ old, now - rate.ticks jitterWindowSeconds ≤ old.ticks → p old = true) :
    analyzeRecentJitter rate (history.filter p) now = analyzeRecentJitter rate history now := by
  have skipped : (fun scan old => if p old = true then
        JitterScan.add (now - rate.ticks jitterWindowSeconds) scan old else scan) =
      JitterScan.add (now - rate.ticks jitterWindowSeconds) := by
    funext scan old
    split_ifs with kept
    · rfl
    · rw [JitterScan.add, if_pos]
      exact not_le.mp fun recent => kept (implies old recent)
  rw [analyzeRecentJitter, analyzeRecentJitter]
  rw [List.foldl_filter, skipped]

/-- The pruned part of a history looks like all of it. -/
theorem sameWindows_pruned (history : List MotionFrameFeature) (now : ℤ) :
    SameWindows rate (history.filter fun old => now - rate.ticks featureBufferRetentionSeconds ≤ old.ticks)
      history now := by
  have shorter (seconds : ℚ) (within : seconds ≤ featureBufferRetentionSeconds) (old : MotionFrameFeature)
      (recent : now - rate.ticks seconds ≤ old.ticks) :
      decide (now - rate.ticks featureBufferRetentionSeconds ≤ old.ticks) = true := by
    have order := rate.ticks_mono within
    rw [decide_eq_true_eq]
    omega
  constructor
  · rw [isInWritingStartPose, isInWritingStartPose, preWindow, preWindow]
    rw [List.filter_filter_of_imp]
    intro old kept
    rw [Bool.and_eq_true, decide_eq_true_eq] at kept
    exact shorter _ (by norm_num [writingPrecheckSeconds, featureBufferRetentionSeconds]) old kept.1
  · intro start
    rw [tryFindStableWindowSummary, tryFindStableWindowSummary, stableWindow, stableWindow]
    rw [List.filter_filter_of_imp]
    intro old kept
    rw [Bool.and_eq_true, Bool.and_eq_true, decide_eq_true_eq] at kept
    exact shorter _ (by norm_num [stableWindowSeconds, featureBufferRetentionSeconds]) old kept.1.1
  · apply analyzeRecentJitter_filter
    exact shorter _ (by norm_num [jitterWindowSeconds, featureBufferRetentionSeconds])

end Windows

/-- Along every run of pushes whose ticks never step back, the queue is the part of the whole history inside
the retention time: it is ordered, it ends with the frame just pushed, and every test window reads from it
what it would read from the history. -/
theorem pushedAt_represents {features : List MotionFrameFeature} {feature : MotionFrameFeature}
    (sorted : features.Pairwise fun a b => a.ticks ≤ b.ticks) (present : features[k]? = some feature) :
    pushedAt rate features (k + 1) = (features.take (k + 1)).filter (fun old =>
      feature.ticks - ⌊(4 : ℚ) * rate.frequency⌋ ≤ old.ticks) ∧
    (pushedAt rate features (k + 1)).Pairwise (fun a b => a.ticks ≤ b.ticks) ∧
    pushedAt rate features (k + 1) ≠ [] ∧
    (pushedAt rate features (k + 1)).getLast? = some feature ∧
    SameWindows rate (pushedAt rate features (k + 1)) (features.take (k + 1)) feature.ticks := by
  have kept := pushedAt_eq_filter rate sorted present
  obtain ⟨older, newest⟩ := pushedAt_getLast? rate sorted present
  refine ⟨kept, ?_, ?_, ?_, ?_⟩
  · rw [kept]
    exact (sorted.sublist (List.take_sublist _ _)).sublist List.filter_sublist
  · rw [newest]
    exact List.append_ne_nil_of_right_ne_nil older (List.cons_ne_nil feature [])
  · rw [newest]
    exact List.getLast?_concat
  · rw [kept]
    exact sameWindows_pruned (features.take (k + 1)) feature.ticks

/-- Three pushes of which the last makes the first too old. -/
def samplePushes : List MotionFrameFeature := [⟨0, 0, 0, 10, 1⟩, ⟨3000, 0, 0, 20, 1⟩, ⟨4001, 0, 0, 30, 1⟩]

theorem pushedAt_represents_samplePushes :
    pushedAt ⟨1000, by decide⟩ samplePushes 3 = [⟨3000, 0, 0, 20, 1⟩, ⟨4001, 0, 0, 30, 1⟩] ∧
      SameWindows ⟨1000, by decide⟩ (pushedAt ⟨1000, by decide⟩ samplePushes 3) samplePushes 4001 := by
  have sorted : samplePushes.Pairwise fun a b => a.ticks ≤ b.ticks := by decide
  obtain ⟨kept, -, -, -, same⟩ := pushedAt_represents ⟨1000, by decide⟩ (k := 2) sorted rfl
  refine ⟨?_, same⟩
  rw [kept]
  norm_num [samplePushes]

/-- The clock readings of a run never step back. -/
def Chronological (frames : List Frame) : Prop := frames.Pairwise fun a b => a.ticks ≤ b.ticks

instance (frames : List Frame) : Decidable (Chronological frames) :=
  inferInstanceAs (Decidable (List.Pairwise _ _))

variable {frames : List Frame} {frame : Frame}

theorem detectorAt_succ (present : frames[k]? = some frame) :
    detectorAt rate frames (k + 1) = (detectorAt rate frames k).next rate frame :=
  trajectory_succ _ _ _ present

/-- The features of the first `k` frames. -/
def history (frames : List Frame) (k : ℕ) : List MotionFrameFeature := (frames.take k).map Frame.feature

theorem history_succ (present : frames[k]? = some frame) :
    history frames (k + 1) = history frames k ++ [frame.feature] := by
  simp only [history, List.take_add_one, present, Option.toList_some, List.map_append, List.map_cons,
    List.map_nil]

theorem history_sorted (ordered : Chronological frames) (k : ℕ) :
    (history frames k).Pairwise fun a b => a.ticks ≤ b.ticks :=
  List.pairwise_map.mpr (ordered.sublist (List.take_sublist k frames))

private theorem features_getElem? (present : frames[k]? = some frame) :
    (frames.map Frame.feature)[k]? = some frame.feature := by
  rw [List.getElem?_map, present, Option.map_some]

private theorem features_sorted (ordered : Chronological frames) :
    (frames.map Frame.feature).Pairwise fun a b => a.ticks ≤ b.ticks :=
  List.pairwise_map.mpr ordered

private theorem recentFeatures_eq_pushedAt (k : ℕ) (bound : k ≤ frames.length) :
    (detectorAt rate frames k).recentFeatures = pushedAt rate (frames.map Frame.feature) k := by
  induction k with
  | zero => rfl
  | succ k ih =>
    have present : frames[k]? = some frames[k] := List.getElem?_eq_getElem (by omega)
    rw [detectorAt_succ rate present, Detector.next_recentFeatures, Detector.queueAt, ih (by omega),
      pushedAt_succ rate (features_getElem? present)]

/-- The queue a frame is judged on is the run of pushes up to the frame. -/
private theorem queueAt_eq_pushedAt (present : frames[k]? = some frame) :
    (detectorAt rate frames k).queueAt rate frame = pushedAt rate (frames.map Frame.feature) (k + 1) := by
  obtain ⟨bound, _⟩ := List.getElem?_eq_some_iff.mp present
  rw [Detector.queueAt, recentFeatures_eq_pushedAt rate k bound.le, pushedAt_succ rate (features_getElem? present)]

/-- The queue a frame is judged on is the part of the run inside the retention time. -/
theorem queueAt_eq_filter (ordered : Chronological frames) (present : frames[k]? = some frame) :
    (detectorAt rate frames k).queueAt rate frame = (history frames (k + 1)).filter fun old =>
      frame.ticks - rate.ticks featureBufferRetentionSeconds ≤ old.ticks := by
  rw [queueAt_eq_pushedAt rate present]
  rw [pushedAt_eq_filter rate (features_sorted ordered) (features_getElem? present), ← List.map_take]
  rfl

/-- A window no longer than the retention time sees the same frames in the queue and in the run. -/
theorem preWindow_queueAt (ordered : Chronological frames) (present : frames[k]? = some frame) :
    preWindow rate ((detectorAt rate frames k).queueAt rate frame) frame.ticks =
      preWindow rate (frames.map Frame.feature) frame.ticks := by
  have shorter := rate.ticks_mono (show writingPrecheckSeconds ≤ featureBufferRetentionSeconds by
    norm_num [writingPrecheckSeconds, featureBufferRetentionSeconds])
  have later : ((frames.drop (k + 1)).map Frame.feature).filter (fun old =>
      frame.ticks - rate.ticks writingPrecheckSeconds ≤ old.ticks && old.ticks < frame.ticks) = [] := by
    apply List.filter_eq_nil_iff.mpr
    intro old member
    obtain ⟨source, dropped, rfl⟩ := List.mem_map.mp member
    obtain ⟨i, atI⟩ := List.mem_iff_getElem?.mp dropped
    rw [List.getElem?_drop] at atI
    have order : frame.ticks ≤ source.ticks :=
      ordered.key_le_of_getElem? Frame.ticks (by omega) present atI
    rw [← Bool.decide_and, decide_eq_true_eq, Frame.feature_ticks]
    omega
  simp only [preWindow]
  rw [queueAt_eq_filter rate ordered present, List.filter_filter]
  conv_rhs => rw [← List.take_append_drop (k + 1) frames, List.map_append, List.filter_append, later,
    List.append_nil]
  apply List.filter_congr
  intro old _
  rw [← Bool.decide_and, ← Bool.decide_and, decide_eq_decide]
  omega

/-- The newest entry of the queue is the current frame. -/
theorem queueAt_getLast? (ordered : Chronological frames) (present : frames[k]? = some frame) :
    ∃ older, (detectorAt rate frames k).queueAt rate frame = older ++ [frame.feature] := by
  rw [queueAt_eq_pushedAt rate present]
  exact pushedAt_getLast? rate (features_sorted ordered) (features_getElem? present)

end GestureSuite.Gesture
