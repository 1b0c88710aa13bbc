import GestureSuite.Machine.Run
import GestureSuite.Model.Gesture.Features

/-! # Angles re-centred on a reference

The two loops of `NormalizeAngleToReference` are cut off after a computed number of rounds. They
always leave at their own exit test before that, so the cut is invisible, and the result lies within
half a turn of the reference. Re-centring an angle that is already there changes nothing. The stop
pose is an arc of rolls, so it does not matter which representative of a roll is tested.
-/

namespace GestureSuite.Gesture

open Machine

private theorem deltaRounds_bound (delta : ℚ) : |delta| ≤ 360 * deltaRounds delta := by
  have ceil : |delta| / 360 ≤ (⌈|delta| / 360⌉ : ℤ) := Int.le_ceil _
  have cast : ((⌈|delta| / 360⌉ : ℤ) : ℚ) ≤ ((deltaRounds delta : ℕ) : ℚ) := by
    exact_mod_cast Int.self_le_toNat ⌈|delta| / 360⌉
  linarith

theorem lowerDelta_le_of_bound (rounds : ℕ) (delta : ℚ) (bound : delta ≤ 180 + 360 * rounds) :
    lowerDelta rounds delta ≤ 180 := by
  induction rounds generalizing delta with
  | zero => simpa [lowerDelta] using bound
  | succ rounds ih =>
    rw [lowerDelta]
    split_ifs with above
    · apply ih
      push_cast at bound
      linarith
    · exact not_lt.mp above

theorem le_raiseDelta_of_bound (rounds : ℕ) (delta : ℚ) (bound : -180 - 360 * rounds ≤ delta) :
    -180 ≤ raiseDelta rounds delta := by
  induction rounds generalizing delta with
  | zero => simpa [raiseDelta] using bound
  | succ rounds ih =>
    rw [raiseDelta]
    split_ifs with below
    · apply ih
      push_cast at bound
      linarith
    · exact not_lt.mp below

/-- The first loop is never cut off: it leaves at its own exit test. -/
theorem lowerDelta_exits (delta : ℚ) : lowerDelta (deltaRounds delta) delta ≤ 180 := by
  apply lowerDelta_le_of_bound
  linarith [deltaRounds_bound delta, le_abs_self delta]

/-- The second loop is never cut off either. -/
theorem raiseDelta_exits (delta : ℚ) : -180 ≤ raiseDelta (deltaRounds delta) delta := by
  apply le_raiseDelta_of_bound
  linarith [deltaRounds_bound delta, neg_abs_le delta]

private theorem raiseDelta_le (rounds : ℕ) (delta : ℚ) (bound : delta ≤ 180) :
    raiseDelta rounds delta ≤ 180 := by
  induction rounds generalizing delta with
  | zero => exact bound
  | succ rounds ih =>
    rw [raiseDelta]
    split_ifs with below
    · exact ih _ (by linarith)
    · exact bound

theorem lowerDelta_of_le (rounds : ℕ) {delta : ℚ} (bound : delta ≤ 180) : lowerDelta rounds delta = delta := by
  cases rounds with
  | zero => rfl
  | succ rounds => rw [lowerDelta, if_neg (not_lt.mpr bound)]

theorem raiseDelta_of_le (rounds : ℕ) {delta : ℚ} (bound : -180 ≤ delta) : raiseDelta rounds delta = delta := by
  cases rounds with
  | zero => rfl
  | succ rounds => rw [raiseDelta, if_neg (not_lt.mpr bound)]

/-- The result lies within half a turn of the reference. -/
theorem normalizeAngleToReference_bounds (angle reference : ℚ) :
    -180 ≤ normalizeAngleToReference angle reference - reference ∧
      normalizeAngleToReference angle reference - reference ≤ 180 := by
  rw [normalizeAngleToReference]
  simp only [add_sub_cancel_left]
  exact ⟨raiseDelta_exits _, raiseDelta_le _ _ (lowerDelta_exits _)⟩

/-- An angle within half a turn of the reference is left as it is. -/
theorem normalizeAngleToReference_of_near {angle reference : ℚ} (low : -180 ≤ angle - reference)
    (high : angle - reference ≤ 180) : normalizeAngleToReference angle reference = angle := by
  unfold normalizeAngleToReference
  dsimp only
  rw [lowerDelta_of_le _ high, raiseDelta_of_le _ low]
  ring

theorem lowerDelta_eq_turns (rounds : ℕ) (delta : ℚ) : ∃ turns : ℤ, lowerDelta rounds delta = delta + 360 * turns := by
  induction rounds generalizing delta with
  | zero => exact ⟨0, by simp [lowerDelta]⟩
  | succ rounds ih =>
    rw [lowerDelta]
    split_ifs
    · obtain ⟨turns, shifted⟩ := ih (delta - 360)
      exact ⟨turns - 1, by rw [shifted]; push_cast; ring⟩
    · exact ⟨0, by simp⟩

theorem raiseDelta_eq_turns (rounds : ℕ) (delta : ℚ) : ∃ turns : ℤ, raiseDelta rounds delta = delta + 360 * turns := by
  induction rounds generalizing delta with
  | zero => exact ⟨0, by simp [raiseDelta]⟩
  | succ rounds ih =>
    rw [raiseDelta]
    split_ifs
    · obtain ⟨turns, shifted⟩ := ih (delta + 360)
      exact ⟨turns + 1, by rw [shifted]; push_cast; ring⟩
    · exact ⟨0, by simp⟩

/-- Re-centring changes an angle by whole turns only. -/
theorem normalizeAngleToReference_eq_turns (angle reference : ℚ) :
    ∃ turns : ℤ, normalizeAngleToReference angle reference = angle + 360 * turns := by
  unfold normalizeAngleToReference
  dsimp only
  obtain ⟨down, lowered⟩ := lowerDelta_eq_turns (deltaRounds (angle - reference)) (angle - reference)
  rw [lowered]
  obtain ⟨up, raised⟩ := raiseDelta_eq_turns (deltaRounds (angle - reference + 360 * down))
    (angle - reference + 360 * down)
  rw [raised]
  exact ⟨down + up, by push_cast; ring⟩

@[simp] theorem canonicalizeRoll_idem (roll : ℚ) :
    canonicalizeRoll (canonicalizeRoll roll) = canonicalizeRoll roll := by
  obtain ⟨low, high⟩ := normalizeAngleToReference_bounds roll stopPoseRollCenter
  exact normalizeAngleToReference_of_near low high

/-- The stop-pose test does not distinguish a roll from its canonical form. -/
@[simp] theorem isInStopPose_canonicalizeRoll (pitch roll : ℚ) :
    isInStopPose pitch (canonicalizeRoll roll) = isInStopPose pitch roll := by
  simp only [isInStopPose, canonicalizeRoll_idem]

/-- `NormalizeAngleToReference(angle, reference)` returns `result`, with its two loops as they stand. -/
def NormalizesTo (angle reference result : ℚ) : Prop :=
  ∃ lowered raised, Exits (fun delta : ℚ => 180 < delta) (fun delta => delta - 360) (angle - reference) lowered ∧
    Exits (fun delta : ℚ => delta < -180) (fun delta => delta + 360) lowered raised ∧ result = reference + raised

private theorem exits_lowerDelta (rounds : ℕ) (delta : ℚ) (bound : lowerDelta rounds delta ≤ 180) :
    Exits (fun delta : ℚ => 180 < delta) (fun delta => delta - 360) delta (lowerDelta rounds delta) := by
  induction rounds generalizing delta with
  | zero => exact .done (not_lt.mpr bound)
  | succ rounds ih =>
    rw [lowerDelta] at bound ⊢
    split_ifs at bound ⊢ with above
    · exact .round above (ih _ bound)
    · exact .done above

private theorem exits_raiseDelta (rounds : ℕ) (delta : ℚ) (bound : -180 ≤ raiseDelta rounds delta) :
    Exits (fun delta : ℚ => delta < -180) (fun delta => delta + 360) delta (raiseDelta rounds delta) := by
  induction rounds generalizing delta with
  | zero => exact .done (not_lt.mpr bound)
  | succ rounds ih =>
    rw [raiseDelta] at bound ⊢
    split_ifs at bound ⊢ with below
    · exact .round below (ih _ bound)
    · exact .done below

/-- The source's loops end, and they end in the model's result. -/
theorem normalizesTo_iff (angle reference result : ℚ) :
    NormalizesTo angle reference result ↔ result = normalizeAngleToReference angle reference := by
  have lowers := exits_lowerDelta _ _ (lowerDelta_exits (angle - reference))
  have raises :=
    exits_raiseDelta _ _ (raiseDelta_exits (lowerDelta (deltaRounds (angle - reference)) (angle - reference)))
  constructor
  · rintro ⟨lowered, raised, first, second, rfl⟩
    obtain rfl := first.unique lowers
    rw [second.unique raises]
    rfl
  · rintro rfl
    exact ⟨_, _, lowers, raises, rfl⟩

/-- Angles a whole number of turns apart are re-centred to one angle, unless they lie opposite the reference. -/
theorem normalizeAngleToReference_add_turns {angle reference : ℚ}
    (notAntipodal : ∀ turns : ℤ, angle ≠ reference + 180 + 360 * turns) (turns : ℤ) :
    normalizeAngleToReference (angle + 360 * turns) reference = normalizeAngleToReference angle reference := by
  obtain ⟨low, high⟩ := normalizeAngleToReference_bounds angle reference
  obtain ⟨low', high'⟩ := normalizeAngleToReference_bounds (angle + 360 * turns) reference
  obtain ⟨m, shifted⟩ := normalizeAngleToReference_eq_turns angle reference
  obtain ⟨n, shifted'⟩ := normalizeAngleToReference_eq_turns (angle + 360 * turns) reference
  rw [shifted] at low high
  rw [shifted'] at low' high'
  rw [shifted, shifted']
  have lower : m - 1 ≤ turns + n := by
    have scaled : (m : ℚ) - 1 ≤ turns + n := by linarith
    exact_mod_cast scaled
  have upper : turns + n ≤ m + 1 := by
    have scaled : (turns : ℚ) + n ≤ m + 1 := by linarith
    exact_mod_cast scaled
  -- one turn apart, the two results would sit on the two ends of the interval
  rcases (show turns + n = m - 1 ∨ turns + n = m ∨ turns + n = m + 1 by omega) with before | same | after
  · have cast : (turns : ℚ) + n = m - 1 := by exact_mod_cast before
    exact absurd (show angle = reference + 180 + 360 * (-m : ℤ) by push_cast; linarith) (notAntipodal _)
  · have cast : (turns : ℚ) + n = m := by exact_mod_cast same
    linarith
  · have cast : (turns : ℚ) + n = m + 1 := by exact_mod_cast after
    exact absurd (show angle = reference + 180 + 360 * (-m - 1 : ℤ) by push_cast; linarith) (notAntipodal _)

/-- The stop pose is an interval of pitches and an arc of rolls. -/
theorem isInStopPose_iff (pitch roll : ℚ) :
    isInStopPose pitch roll = true ↔
      14 ≤ pitch ∧ pitch ≤ 42 ∧ ∃ turns : ℤ, -186 ≤ roll + 360 * turns ∧ roll + 360 * turns ≤ -120 := by
  obtain ⟨low, high⟩ := normalizeAngleToReference_bounds roll stopPoseRollCenter
  obtain ⟨m, shifted⟩ := normalizeAngleToReference_eq_turns roll stopPoseRollCenter
  rw [shifted] at low high
  simp only [stopPoseRollCenter, stopPoseRollMin, stopPoseRollMax] at low high
  simp only [isInStopPose, canonicalizeRoll, shifted, Bool.and_eq_true, decide_eq_true_eq]
  simp only [stopPosePitchMin, stopPosePitchMax, stopPoseRollMin, stopPoseRollMax]
  constructor
  · rintro ⟨⟨⟨above, below⟩, left⟩, right⟩
    exact ⟨above, below, m, left, right⟩
  · rintro ⟨above, below, turns, left, right⟩
    have lower : (m : ℚ) < turns + 1 := by linarith
    have upper : (turns : ℚ) < m + 1 := by linarith
    have lower' : m < turns + 1 := by exact_mod_cast lower
    have upper' : turns < m + 1 := by exact_mod_cast upper
    obtain rfl : m = turns := by omega
    exact ⟨⟨⟨above, below⟩, left⟩, right⟩

/-- A roll in the stop pose is at least 120 degrees away from level, in either direction. -/
theorem rollAbs_of_isInStopPose {pitch roll : ℚ} (inStopPose : isInStopPose pitch roll = true) : 120 ≤ |roll| := by
  obtain ⟨-, -, turns, low, high⟩ := (isInStopPose_iff pitch roll).mp inStopPose
  by_contra near
  obtain ⟨left, right⟩ := abs_lt.mp (not_le.mp near)
  -- with a roll that small, the window lies strictly between two neighbouring turns
  have above : (-1 : ℚ) < turns := by linarith
  have below : (turns : ℚ) < 0 := by linarith
  have above' : -1 < turns := by exact_mod_cast above
  have below' : turns < 0 := by exact_mod_cast below
  omega

private theorem average_bounds {value : MotionFrameFeature → ℚ} {low high : ℚ} {window : List MotionFrameFeature}
    (nonempty : window ≠ []) (all : ∀ frame ∈ window, low ≤ value frame ∧ value frame ≤ high) :
    low ≤ average value window ∧ average value window ≤ high := by
  have size : (0 : ℚ) < window.length := by exact_mod_cast List.length_pos_iff.mpr nonempty
  rw [average, le_div_iff₀ size, div_le_iff₀ size]
  clear nonempty size
  induction window with
  | nil => simp
  | cons frame window ih =>
    obtain ⟨least, most⟩ := all frame List.mem_cons_self
    obtain ⟨lower, upper⟩ := ih fun other member => all other (List.mem_cons_of_mem frame member)
    rw [List.map_cons, List.sum_cons, List.length_cons]
    push_cast
    exact ⟨by linarith, by linarith⟩

/-- An average of canonical rolls is canonical. -/
theorem canonicalizeRoll_average {window : List MotionFrameFeature} (nonempty : window ≠ [])
    (canonical : ∀ frame ∈ window, ∃ roll, frame.roll = canonicalizeRoll roll) :
    canonicalizeRoll (average (·.roll) window) = average (·.roll) window := by
  have near : ∀ frame ∈ window, stopPoseRollCenter - 180 ≤ frame.roll ∧ frame.roll ≤ stopPoseRollCenter + 180 := by
    intro frame member
    obtain ⟨roll, same⟩ := canonical frame member
    obtain ⟨low, high⟩ := normalizeAngleToReference_bounds roll stopPoseRollCenter
    rw [same, canonicalizeRoll]
    exact ⟨by linarith, by linarith⟩
  obtain ⟨low, high⟩ := average_bounds nonempty near
  exact normalizeAngleToReference_of_near (by linarith) (by linarith)

/-- Re-centring is exact modulo a whole turn: the loops end, the result is the angle up to whole turns and
within half a turn of the reference, doing it twice changes nothing, and it forgets whole turns away from
the point opposite the reference. The stop pose is an arc of rolls, so a canonical roll and an average of
canonical rolls can be tested as they are. -/
theorem normalizeAngleToReference_correct (angle reference : ℚ) :
    (∀ result, NormalizesTo angle reference result ↔ result = normalizeAngleToReference angle reference) ∧
    (∃ turns : ℤ, normalizeAngleToReference angle reference = angle + 360 * turns) ∧
    |normalizeAngleToReference angle reference - reference| ≤ 180 ∧
    normalizeAngleToReference (normalizeAngleToReference angle reference) reference =
      normalizeAngleToReference angle reference ∧
    ((∀ turns : ℤ, angle ≠ reference + 180 + 360 * turns) →
      ∀ turns : ℤ, normalizeAngleToReference (angle + 360 * turns) reference =
        normalizeAngleToReference angle reference) ∧
    (∀ pitch roll, isInStopPose pitch roll = true ↔
      14 ≤ pitch ∧ pitch ≤ 42 ∧ ∃ k : ℤ, -186 ≤ roll + 360 * k ∧ roll + 360 * k ≤ -120) ∧
    (∀ pitch roll, isInStopPose pitch (canonicalizeRoll roll) = isInStopPose pitch roll) ∧
    ∀ window : List MotionFrameFeature, window ≠ [] →
      (∀ frame ∈ window, ∃ roll, frame.roll = canonicalizeRoll roll) →
      canonicalizeRoll (average (·.roll) window) = average (·.roll) window := by
  obtain ⟨low, high⟩ := normalizeAngleToReference_bounds angle reference
  refine ⟨normalizesTo_iff angle reference, normalizeAngleToReference_eq_turns angle reference, ?_, ?_, ?_, ?_, ?_, ?_⟩
  · exact abs_le.mpr ⟨low, high⟩
  · exact normalizeAngleToReference_of_near low high
  · exact normalizeAngleToReference_add_turns
  · exact isInStopPose_iff
  · exact isInStopPose_canonicalizeRoll
  · intro window
    exact canonicalizeRoll_average

end GestureSuite.Gesture
