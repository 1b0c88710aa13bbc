import GestureSuite.Soundness.Gesture.Trigger

/-! # The cut of the re-centred roll

The queue stores rolls re-centred on the stop pose at -153 degrees, so the circle is cut open at 27
degrees: a roll of 27 keeps its value and the next larger one becomes nearly -333. The writing pose
lies across that cut. The results below say exactly which poses the window tests misjudge for it:
the average over the writing window, the span of the stable window and the sign flips of the jitter
scan.
-/

namespace GestureSuite.Gesture

variable {rate : TickRate}

/-- The pose angles of a frame, as `Atan2` returns them in degrees. -/
def Frame.RollInRange (frame : Frame) : Prop := -180 ≤ frame.pose.roll ∧ frame.pose.roll ≤ 180

instance (frame : Frame) : Decidable frame.RollInRange := inferInstanceAs (Decidable (_ ∧ _))

/-- Up to the cut a roll is its own canonical form. -/
theorem canonicalizeRoll_of_le {roll : ℚ} (low : -180 ≤ roll) (high : roll ≤ 27) : canonicalizeRoll roll = roll := by
  apply normalizeAngleToReference_of_near
  · norm_num [stopPoseRollCenter, stopPoseRollMin, stopPoseRollMax]
    linarith
  · norm_num [stopPoseRollCenter, stopPoseRollMin, stopPoseRollMax]
    linarith

/-- Beyond the cut the canonical form is one turn lower. -/
theorem canonicalizeRoll_of_gt {roll : ℚ} (low : 27 < roll) (high : roll ≤ 180) :
    canonicalizeRoll roll = roll - 360 := by
  obtain ⟨turns, shifted⟩ := normalizeAngleToReference_eq_turns roll stopPoseRollCenter
  obtain ⟨below, above⟩ := normalizeAngleToReference_bounds roll stopPoseRollCenter
  rw [shifted] at below above
  norm_num [stopPoseRollCenter, stopPoseRollMin, stopPoseRollMax] at below above
  have low' : (-2 : ℚ) < turns := by linarith
  have high' : (turns : ℚ) < 0 := by linarith
  have only : turns = -1 := by
    have low' : -2 < turns := by exact_mod_cast low'
    have high' : turns < 0 := by exact_mod_cast high'
    omega
  rw [canonicalizeRoll, shifted, only]
  push_cast
  ring

/-- The frames of the precheck window: not older than 0.16 s and before the current one. -/
def writingWindow (rate : TickRate) (past : List Frame) (now : ℤ) : List Frame :=
  past.filter fun frame => now - ⌊(0.16 : ℚ) * rate.frequency⌋ ≤ frame.ticks && frame.ticks < now

private theorem preWindow_map_feature (past : List Frame) (now : ℤ) :
    preWindow rate (past.map Frame.feature) now = (writingWindow rate past now).map Frame.feature := by
  rw [preWindow, writingWindow, List.filter_map]
  rfl

/-- Canonical rolls lose one turn for each frame beyond the cut. -/
private theorem sum_roll_feature {window : List Frame}
    (inside : ∀ frame ∈ window, -40 ≤ frame.pose.roll ∧ frame.pose.roll ≤ 40) :
    ((window.map Frame.feature).map (·.roll)).sum =
      (window.map (·.pose.roll)).sum - 360 * (window.countP fun frame => 27 < frame.pose.roll : ℕ) := by
  induction window with
  | nil => simp
  | cons frame rest ih =>
    obtain ⟨low, high⟩ := inside frame List.mem_cons_self
    have tail := ih fun later member => inside later (List.mem_cons_of_mem frame member)
    rw [List.map_cons, List.map_cons, List.sum_cons, tail, List.map_cons, List.sum_cons, List.countP_cons]
    by_cases beyond : 27 < frame.pose.roll
    · have canonical : frame.feature.roll = frame.pose.roll - 360 := canonicalizeRoll_of_gt beyond (by linarith)
      simp only [canonical, beyond, decide_true, if_true]
      push_cast
      ring
    · have canonical : frame.feature.roll = frame.pose.roll :=
        canonicalizeRoll_of_le (by linarith) (not_lt.mp beyond)
      simp only [canonical, beyond, decide_false]
      push_cast
      ring

private theorem sum_between {window : List Frame} {value : Frame → ℚ} {low high : ℚ}
    (inside : ∀ frame ∈ window, low ≤ value frame ∧ value frame ≤ high) :
    low * window.length ≤ (window.map value).sum ∧ (window.map value).sum ≤ high * window.length := by
  induction window with
  | nil => simp
  | cons frame rest ih =>
    obtain ⟨below, above⟩ := inside frame List.mem_cons_self
    obtain ⟨tailBelow, tailAbove⟩ := ih fun later member => inside later (List.mem_cons_of_mem frame member)
    rw [List.map_cons, List.sum_cons, List.length_cons]
    push_cast
    constructor <;> linarith

/-- Steady writing inside the configured window is recognised exactly when the frames beyond the cut
do not pull the average roll below the window. -/
theorem isInWritingStartPose_iff (rate : TickRate) (past : List Frame) (now : ℤ)
    (enough : 3 ≤ (writingWindow rate past now).length)
    (pitch : ∀ frame ∈ writingWindow rate past now, -20 ≤ frame.pose.pitch ∧ frame.pose.pitch ≤ 20)
    (roll : ∀ frame ∈ writingWindow rate past now, -40 ≤ frame.pose.roll ∧ frame.pose.roll ≤ 40) :
    isInWritingStartPose rate (past.map Frame.feature) now = .ok () ↔
      (360 : ℚ) * ((writingWindow rate past now).countP fun frame => 27 < frame.pose.roll : ℕ) ≤
        ((writingWindow rate past now).map fun frame => frame.pose.roll + 40).sum := by
  rw [isInWritingStartPose]
  dsimp only
  rw [preWindow_map_feature, List.length_map, if_neg (show ¬ _ < writingPrecheckMinFrames from not_lt.mpr enough)]
  generalize writingWindow rate past now = window at enough pitch roll ⊢
  have size : (0 : ℚ) < window.length := by exact_mod_cast (by omega : 0 < window.length)
  have pitches : (window.map Frame.feature).map (·.pitch) = window.map (·.pose.pitch) := by
    rw [List.map_map]
    rfl
  have pitchBounds := sum_between pitch
  have rollBounds := sum_between roll
  have shifted : (window.map fun frame => frame.pose.roll + 40).sum =
      (window.map (·.pose.roll)).sum + 40 * window.length := by
    rw [List.sum_map_add, List.map_const', List.sum_replicate, nsmul_eq_mul]
    ring
  have count : (0 : ℚ) ≤ (window.countP fun frame => 27 < frame.pose.roll : ℕ) := Nat.cast_nonneg _
  simp only [average, List.length_map, pitches, sum_roll_feature roll, writingPosePitchMin, writingPosePitchMax,
    writingPoseRollMin, writingPoseRollMax, div_lt_iff₀ size, lt_div_iff₀ size]
  rw [shifted]
  split_ifs with outside
  · simp only [false_iff, not_le]
    rcases outside with low | high | low | high
    · linarith
    · linarith
    · linarith
    · linarith
  · simp only [true_iff]
    simp only [not_or, not_lt] at outside
    linarith [outside.2.2.1]

/-- A still frame with the given roll. -/
def rolledFrame (ticks : ℤ) (roll : ℚ) : Frame :=
  { ticks, pose := ⟨roll, 0, 0⟩, gyroMagnitude := 0, linearAccelMagnitude := 100 }

theorem isInWritingStartPose_iff_level :
    isInWritingStartPose sampleRate
      ([rolledFrame 1000 0, rolledFrame 1020 20, rolledFrame 1040 (-35)].map Frame.feature)
      1060 = .ok () := by
  refine (isInWritingStartPose_iff sampleRate _ 1060 ?_ ?_ ?_).mpr ?_
  · decide +kernel
  · decide +kernel
  · decide +kernel
  · decide +kernel

/-- Writing steadily at a roll of 30 degrees is not recognised as writing. -/
theorem steady_writing_rejected :
    ¬ ∀ (rate : TickRate) (past : List Frame) (now : ℤ), 3 ≤ (writingWindow rate past now).length →
      (∀ frame ∈ writingWindow rate past now, frame.RollInRange ∧
        (-20 ≤ frame.pose.pitch ∧ frame.pose.pitch ≤ 20) ∧ -40 ≤ frame.pose.roll ∧ frame.pose.roll ≤ 40) →
      isInWritingStartPose rate (past.map Frame.feature) now = .ok () := by
  intro recognised
  have accepted := recognised sampleRate [rolledFrame 1000 30, rolledFrame 1020 30, rolledFrame 1040 30] 1060
    (by decide +kernel) (by decide +kernel)
  revert accepted
  decide +kernel

/-- All rolls lie on one arc of 20 degrees. -/
def OnSmallArc (frames : List Frame) : Prop :=
  ∃ start : ℚ, ∀ frame ∈ frames, ∃ turns : ℤ,
    start ≤ frame.pose.roll + 360 * turns ∧ frame.pose.roll + 360 * turns ≤ start + 20

/-- Some frame lies on the arc of 20 degrees in front of the cut and another on the one behind it. -/
def CrossesCut (frames : List Frame) : Prop :=
  (∃ frame ∈ frames, 7 ≤ frame.pose.roll ∧ frame.pose.roll ≤ 27) ∧
    ∃ frame ∈ frames, 27 < frame.pose.roll ∧ frame.pose.roll ≤ 47

/-- Two rolls in range that lie on one small arc are at most one turn apart. -/
private theorem turns_gap {first second start : ℚ} {m n : ℤ} (inFirst : -180 ≤ first ∧ first ≤ 180)
    (inSecond : -180 ≤ second ∧ second ≤ 180) (onFirst : start ≤ first + 360 * m ∧ first + 360 * m ≤ start + 20)
    (onSecond : start ≤ second + 360 * n ∧ second + 360 * n ≤ start + 20) :
    (m : ℚ) = n - 1 ∨ (m : ℚ) = n ∨ (m : ℚ) = n + 1 := by
  have below : (-2 : ℚ) < (m - n : ℤ) := by push_cast; linarith
  have above : ((m - n : ℤ) : ℚ) < 2 := by push_cast; linarith
  have low : -2 < m - n := by exact_mod_cast below
  have high : m - n < 2 := by exact_mod_cast above
  obtain less | same | more : m = n - 1 ∨ m = n ∨ m = n + 1 := by omega
  · exact .inl (by exact_mod_cast less)
  · exact .inr (.inl (by exact_mod_cast same))
  · exact .inr (.inr (by exact_mod_cast more))

/-- On a small arc two canonical rolls are close, or the two frames lie on the two sides of the cut. -/
private theorem canonical_close_or_crosses {frames : List Frame} (inRange : ∀ frame ∈ frames, frame.RollInRange)
    (arc : OnSmallArc frames) {a b : Frame} (memberA : a ∈ frames) (memberB : b ∈ frames) :
    a.feature.roll ≤ b.feature.roll + 20 ∨ CrossesCut frames := by
  obtain ⟨start, onArc⟩ := arc
  obtain ⟨turnsA, lowA, highA⟩ := onArc a memberA
  obtain ⟨turnsB, lowB, highB⟩ := onArc b memberB
  obtain ⟨rangeA, rangeA'⟩ := inRange a memberA
  obtain ⟨rangeB, rangeB'⟩ := inRange b memberB
  have gap := turns_gap ⟨rangeA, rangeA'⟩ ⟨rangeB, rangeB'⟩ ⟨lowA, highA⟩ ⟨lowB, highB⟩
  change canonicalizeRoll a.pose.roll ≤ canonicalizeRoll b.pose.roll + 20 ∨ _
  rcases le_or_gt a.pose.roll 27 with beforeA | beyondA <;> rcases le_or_gt b.pose.roll 27 with beforeB | beyondB
  · rw [canonicalizeRoll_of_le rangeA beforeA, canonicalizeRoll_of_le rangeB beforeB]
    left
    rcases gap with gap | gap | gap <;> rw [gap] at lowA highA <;> linarith
  · rw [canonicalizeRoll_of_le rangeA beforeA, canonicalizeRoll_of_gt beyondB rangeB']
    rcases gap with gap | gap | gap <;> rw [gap] at lowA highA
    · linarith
    · right
      exact ⟨⟨a, memberA, by linarith, beforeA⟩, b, memberB, beyondB, by linarith⟩
    · left
      linarith
  · rw [canonicalizeRoll_of_gt beyondA rangeA', canonicalizeRoll_of_le rangeB beforeB]
    left
    linarith
  · rw [canonicalizeRoll_of_gt beyondA rangeA', canonicalizeRoll_of_gt beyondB rangeB']
    left
    rcases gap with gap | gap | gap <;> rw [gap] at lowA highA <;> linarith

section Window

variable (value : MotionFrameFeature → ℚ) {window : List MotionFrameFeature}

private theorem le_maxOf {frame : MotionFrameFeature} (member : frame ∈ window) : value frame ≤ maxOf value window := by
  have inside : value frame ∈ window.map value := List.mem_map_of_mem member
  rw [maxOf]
  cases largest : (window.map value).max? with
  | none => simp [List.max?_eq_none_iff.mp largest] at inside
  | some top => exact (List.max?_eq_some_iff.mp largest).2 _ inside

private theorem minOf_le {frame : MotionFrameFeature} (member : frame ∈ window) : minOf value window ≤ value frame := by
  have inside : value frame ∈ window.map value := List.mem_map_of_mem member
  rw [minOf]
  cases smallest : (window.map value).min? with
  | none => simp [List.min?_eq_none_iff.mp smallest] at inside
  | some bottom => exact (List.min?_eq_some_iff.mp smallest).2 _ inside

private theorem exists_maxOf_minOf (nonempty : window ≠ []) :
    (∃ frame ∈ window, maxOf value window = value frame) ∧ ∃ frame ∈ window, minOf value window = value frame := by
  constructor
  · rw [maxOf]
    cases largest : (window.map value).max? with
    | none => simp [List.max?_eq_none_iff, nonempty] at largest
    | some top =>
      obtain ⟨frame, member, same⟩ := List.mem_map.mp (List.max?_eq_some_iff.mp largest).1
      exact ⟨frame, member, same.symm⟩
  · rw [minOf]
    cases smallest : (window.map value).min? with
    | none => simp [List.min?_eq_none_iff, nonempty] at smallest
    | some bottom =>
      obtain ⟨frame, member, same⟩ := List.mem_map.mp (List.min?_eq_some_iff.mp smallest).1
      exact ⟨frame, member, same.symm⟩

end Window

/-- A scan in which all signs outside the dead zone are the same counts no flip. -/
private theorem scan_rollFlipCount {frames : List MotionFrameFeature} (sign minTicks : ℤ)
    (oneSided : ∀ frame ∈ frames, rollSign frame.roll = 0 ∨ rollSign frame.roll = sign) (scan : JitterScan)
    (before : scan.prevSign = 0 ∨ scan.prevSign = sign) :
    (frames.foldl (JitterScan.add minTicks) scan).rollFlipCount = scan.rollFlipCount := by
  induction frames generalizing scan with
  | nil => rfl
  | cons frame rest ih =>
    have step : (scan.add minTicks frame).rollFlipCount = scan.rollFlipCount ∧
        ((scan.add minTicks frame).prevSign = 0 ∨ (scan.add minTicks frame).prevSign = sign) := by
      have here := oneSided frame List.mem_cons_self
      rw [JitterScan.add]
      dsimp only
      split_ifs with old dead flip
      · exact ⟨rfl, before⟩
      · exact ⟨rfl, before⟩
      · have same := here.resolve_left dead
        exact absurd (same ▸ before.resolve_left flip.1) flip.2
      · exact ⟨rfl, here⟩
    rw [List.foldl_cons, ih (fun later member => oneSided later (List.mem_cons_of_mem frame member)) _ step.2]
    exact step.1

private theorem rollSign_of_gt {roll : ℚ} (above : -12 < roll) : rollSign roll = 0 ∨ rollSign roll = 1 := by
  rw [rollSign]
  split_ifs with dead
  · exact .inl rfl
  · have positive : 0 < roll := by
      rcases le_abs.mp (not_lt.mp dead) with up | down <;> linarith
    rw [sign_pos positive]
    exact .inr rfl

private theorem rollSign_of_lt {roll : ℚ} (below : roll < 12) : rollSign roll = 0 ∨ rollSign roll = -1 := by
  rw [rollSign]
  split_ifs with dead
  · exact .inl rfl
  · have negative : roll < 0 := by
      rcases le_abs.mp (not_lt.mp dead) with up | down <;> linarith
    rw [sign_neg negative]
    exact .inr rfl

/-- Rolls within 20 degrees of each other never leave the dead zone on both sides. -/
private theorem rollFlipCount_of_close {frames : List MotionFrameFeature} (now : ℤ)
    (close : ∀ a ∈ frames, ∀ b ∈ frames, a.roll ≤ b.roll + 20) :
    (analyzeRecentJitter rate frames now).1 = 0 := by
  change (frames.foldl (JitterScan.add (now - rate.ticks jitterWindowSeconds)) {}).rollFlipCount = 0
  by_cases upper : ∃ a ∈ frames, 12 ≤ a.roll
  · obtain ⟨a, memberA, high⟩ := upper
    apply scan_rollFlipCount 1
    · intro b memberB
      apply rollSign_of_gt
      linarith [close a memberA b memberB]
    · exact .inl rfl
  · apply scan_rollFlipCount (-1)
    · intro b memberB
      apply rollSign_of_lt
      by_contra high
      exact upper ⟨b, memberB, not_lt.mp high⟩
    · exact .inl rfl

/-- A roll motion of at most 20 degrees is seen as such, without flips and with a span of at most 20
degrees, exactly when it does not cross the cut. -/
theorem small_roll_motion_iff (rate : TickRate) (frames : List Frame) (now : ℤ)
    (inRange : ∀ frame ∈ frames, frame.RollInRange) (arc : OnSmallArc frames) :
    ((analyzeRecentJitter rate (frames.map Frame.feature) now).1 = 0 ∧
      (summarizeStableWindow (frames.map Frame.feature)).rollSpan ≤ 20) ↔ ¬ CrossesCut frames := by
  change (_ ∧ maxOf (·.roll) (frames.map Frame.feature) - minOf (·.roll) (frames.map Frame.feature) ≤ 20) ↔ _
  constructor
  · rintro ⟨_, span⟩ ⟨⟨a, memberA, lowA, highA⟩, b, memberB, lowB, highB⟩
    have canonicalA : a.feature.roll = a.pose.roll := canonicalizeRoll_of_le (by linarith) highA
    have canonicalB : b.feature.roll = b.pose.roll - 360 := canonicalizeRoll_of_gt lowB (by linarith)
    have top := le_maxOf (·.roll) (List.mem_map_of_mem (f := Frame.feature) memberA)
    have bottom := minOf_le (·.roll) (List.mem_map_of_mem (f := Frame.feature) memberB)
    linarith
  · intro clear
    have close : ∀ a ∈ frames.map Frame.feature, ∀ b ∈ frames.map Frame.feature, a.roll ≤ b.roll + 20 := by
      intro _ mappedA _ mappedB
      obtain ⟨a, memberA, rfl⟩ := List.mem_map.mp mappedA
      obtain ⟨b, memberB, rfl⟩ := List.mem_map.mp mappedB
      exact (canonical_close_or_crosses inRange arc memberA memberB).resolve_right clear
    refine ⟨rollFlipCount_of_close now close, ?_⟩
    by_cases empty : frames.map Frame.feature = []
    · rw [empty]
      decide +kernel
    · obtain ⟨⟨a, memberA, top⟩, b, memberB, bottom⟩ := exists_maxOf_minOf (·.roll) empty
      rw [top, bottom]
      linarith [close a memberA b memberB]

/-- Three frames within 10 degrees across the half turn. -/
theorem small_roll_motion_iff_halfTurn :
    (summarizeStableWindow ([rolledFrame 1000 175, rolledFrame 1020 (-175), rolledFrame 1040 180].map
      Frame.feature)).rollSpan ≤ 20 := by
  refine ((small_roll_motion_iff sampleRate [rolledFrame 1000 175, rolledFrame 1020 (-175), rolledFrame 1040 180] 1060
    (by decide) ⟨175, ?_⟩).mpr ?_).2
  · intro frame member
    simp only [List.mem_cons, List.not_mem_nil, or_false] at member
    rcases member with rfl | rfl | rfl
    · exact ⟨0, by norm_num [rolledFrame]⟩
    · exact ⟨1, by norm_num [rolledFrame]⟩
    · exact ⟨0, by norm_num [rolledFrame]⟩
  · rintro ⟨⟨frame, member, low, high⟩, _⟩
    simp only [List.mem_cons, List.not_mem_nil, or_false] at member
    rcases member with rfl | rfl | rfl
    · norm_num [rolledFrame] at high
    · norm_num [rolledFrame] at low
    · norm_num [rolledFrame] at high

/-- A motion of two degrees across the cut is counted as a flip with a span of 358 degrees. -/
theorem small_roll_motion_misjudged :
    ¬ ∀ (rate : TickRate) (frames : List Frame) (now : ℤ), (∀ frame ∈ frames, frame.RollInRange) → OnSmallArc frames →
      (analyzeRecentJitter rate (frames.map Frame.feature) now).1 = 0 ∧
        (summarizeStableWindow (frames.map Frame.feature)).rollSpan ≤ 20 := by
  intro seen
  have calm := seen sampleRate [rolledFrame 1000 26, rolledFrame 1020 28] 1020 (by decide)
    ⟨26, fun frame member => ⟨0, by revert frame member; decide +kernel⟩⟩
  revert calm
  decide +kernel

end GestureSuite.Gesture
