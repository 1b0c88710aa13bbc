import GestureSuite.Soundness.Gesture.Trigger
import GestureSuite.ToMathlib.ListWindow
import Mathlib.Data.List.GetD

/-! # Which tests of the stable window can reject

A percentile is the value at one position of the sorted window, so it is bounded exactly when more
frames than that position are. The tests on percentiles and the tests on counts therefore speak about
the same numbers: the ratio test implies the median test, and the P90 test bounds the spikes by the
frames above the position it reads.
-/

namespace GestureSuite.Gesture

/-- A percentile is at most a bound exactly when more values than its position are. -/
theorem percentileSorted_le_iff {values : List ℚ} (sorted : values.Pairwise (· ≤ ·)) (nonempty : values ≠ [])
    {percentile : ℚ} (low : 0 ≤ percentile) (high : percentile ≤ 1) (bound : ℚ) :
    percentileSorted values percentile ≤ bound ↔
      ⌊((values.length : ℚ) - 1) * percentile⌋ < values.countP (· ≤ bound) := by
  have size := List.length_pos_iff.mpr nonempty
  have cast : (((values.length - 1 : ℕ) : ℕ) : ℚ) = (values.length : ℚ) - 1 := by
    rw [Nat.cast_sub size, Nat.cast_one]
  have least : (0 : ℚ) ≤ (values.length : ℚ) - 1 := by
    rw [← cast]
    exact Nat.cast_nonneg _
  have start : 0 ≤ ⌊((values.length : ℚ) - 1) * percentile⌋ := Int.floor_nonneg.mpr (mul_nonneg least low)
  have stop : ⌊((values.length : ℚ) - 1) * percentile⌋ ≤ ((values.length - 1 : ℕ) : ℤ) := by
    apply Int.floor_le_iff.mpr
    have scaled := mul_le_mul_of_nonneg_left high least
    push_cast [cast]
    linarith
  rw [percentileSorted, if_neg size.ne']
  dsimp only
  rw [cast, min_eq_left stop, max_eq_right start, List.getD_eq_getElem _ _ (by omega)]
  rw [sorted.getElem_le_iff]
  omega

section Window

variable {window : List MotionFrameFeature} (nonempty : window ≠ [])
include nonempty

private theorem gyroPercentile_le_iff {percentile : ℚ} (low : 0 ≤ percentile) (high : percentile ≤ 1) (bound : ℚ) :
    percentileSorted ((window.map (·.gyroMagnitude)).insertionSort (· ≤ ·)) percentile ≤ bound ↔
      ⌊((window.length : ℚ) - 1) * percentile⌋ < window.countP (fun frame => frame.gyroMagnitude ≤ bound) := by
  have values : (window.map (·.gyroMagnitude)).insertionSort (· ≤ ·) ≠ [] := by
    rw [← List.length_pos_iff, List.length_insertionSort, List.length_map]
    exact List.length_pos_iff.mpr nonempty
  have count : ((window.map (·.gyroMagnitude)).insertionSort (· ≤ ·)).countP (· ≤ bound) =
      window.countP fun frame => frame.gyroMagnitude ≤ bound := by
    rw [(List.perm_insertionSort _ _).countP_eq, List.countP_map]
    rfl
  rw [percentileSorted_le_iff (List.pairwise_insertionSort _ _) values low high, count, List.length_insertionSort,
    List.length_map]

/-- The ratio test implies the median test. -/
theorem gyroP50_le_of_belowRatio (ratio : 0.58 ≤ (summarizeStableWindow window).belowRatio) :
    (summarizeStableWindow window).gyroP50 ≤ 900 := by
  have size : (0 : ℚ) < window.length := by exact_mod_cast List.length_pos_iff.mpr nonempty
  change 0.58 ≤ ((window.countP fun frame => frame.gyroMagnitude ≤ 900 : ℕ) : ℚ) / window.length at ratio
  rw [le_div_iff₀ size] at ratio
  apply (gyroPercentile_le_iff nonempty (by norm_num) (by norm_num) 900).mpr
  apply Int.floor_lt.mpr
  push_cast
  linarith

/-- The P90 test leaves room for spikes only above the position it reads. -/
theorem highGyroSpikeCount_le_of_gyroP90 (low : (summarizeStableWindow window).gyroP90 ≤ 1600) :
    ((summarizeStableWindow window).highGyroSpikeCount : ℤ) ≤
      window.length - 1 - ⌊(0.9 : ℚ) * (window.length - 1)⌋ := by
  have calm := (gyroPercentile_le_iff nonempty (by norm_num) (by norm_num) 1600).mp low
  have disjoint : (window.countP fun frame => stableHighGyroSpikeThreshold ≤ frame.gyroMagnitude) ≤
      window.countP fun frame => ¬ decide (frame.gyroMagnitude ≤ 1600) = true := by
    apply List.countP_mono_left
    intro frame _ spike
    have high := of_decide_eq_true spike
    norm_num [stableHighGyroSpikeThreshold] at high ⊢
    linarith
  have split := List.length_eq_countP_add_countP (fun frame : MotionFrameFeature => decide (frame.gyroMagnitude ≤ 1600))
    (l := window)
  change ((window.countP fun frame => stableHighGyroSpikeThreshold ≤ frame.gyroMagnitude : ℕ) : ℤ) ≤ _
  rw [mul_comm]
  omega

/-- One spike for every ten frames after the first passes the P90 test at most. -/
theorem highGyroSpikeCount_le_of_length {tenths : ℕ} (short : window.length ≤ 10 * tenths + 1)
    (low : (summarizeStableWindow window).gyroP90 ≤ 1600) :
    (summarizeStableWindow window).highGyroSpikeCount ≤ tenths := by
  have spikes := highGyroSpikeCount_le_of_gyroP90 nonempty low
  have cast : (window.length : ℚ) ≤ 10 * tenths + 1 := by exact_mod_cast short
  have position : (window.length : ℤ) - 1 - tenths ≤ ⌊(0.9 : ℚ) * (window.length - 1)⌋ := by
    apply Int.le_floor.mpr
    push_cast
    linarith
  omega

end Window

/-- The median test never rejects what the ratio test lets through, and the spike test rejects nothing the
P90 test lets through in a window of at most 61 frames; in one of at most 21 frames every accepted window
earns the spike point of the trajectory score. -/
theorem stableWindow_live_tests :
    (∀ window : List MotionFrameFeature, 5 ≤ window.length →
      (0.58 ≤ (summarizeStableWindow window).belowRatio → (summarizeStableWindow window).gyroP50 ≤ 900) ∧
      ((summarizeStableWindow window).gyroP90 ≤ 1600 →
        ((summarizeStableWindow window).highGyroSpikeCount : ℤ) ≤
          window.length - 1 - ⌊(0.9 : ℚ) * (window.length - 1)⌋)) ∧
    ∀ (rate : TickRate) (queue window : List MotionFrameFeature) (start now : ℤ),
      stableWindow rate queue start now = window → 5 ≤ window.length →
      ((∃ summary, tryFindStableWindowSummary rate queue start now = .ok summary) ↔
        0.58 ≤ (summarizeStableWindow window).belowRatio ∧ (summarizeStableWindow window).gyroP90 ≤ 1600 ∧
          (summarizeStableWindow window).rollSpan ≤ 24 ∧
          (61 < window.length → (summarizeStableWindow window).highGyroSpikeCount ≤ 6)) ∧
      (window.length ≤ 21 → ∀ summary, tryFindStableWindowSummary rate queue start now = .ok summary →
        ∀ trajectory, trajectoryScore summary trajectory =
          trajectoryScore { summary with highGyroSpikeCount := 3 } trajectory + 1) := by
  have nonempty {window : List MotionFrameFeature} (enough : 5 ≤ window.length) : window ≠ [] :=
    List.length_pos_iff.mp (by omega)
  refine ⟨fun window enough => ⟨gyroP50_le_of_belowRatio (nonempty enough),
    highGyroSpikeCount_le_of_gyroP90 (nonempty enough)⟩, ?_⟩
  rintro rate queue window start now rfl enough
  refine ⟨⟨?_, ?_⟩, ?_⟩
  · rintro ⟨summary, found⟩
    obtain ⟨-, rfl, stable⟩ := tryFindStableWindowSummary_ok_iff.mp found
    exact ⟨stable.belowRatio, stable.gyroP90, stable.rollSpan, fun _ => stable.highGyroSpikeCount⟩
  · rintro ⟨ratio, low, span, spikes⟩
    refine ⟨_, tryFindStableWindowSummary_ok_iff.mpr ⟨enough, rfl, ratio, ?_, low, span, ?_⟩⟩
    · exact gyroP50_le_of_belowRatio (nonempty enough) ratio
    · rcases lt_or_ge 61 (stableWindow rate queue start now).length with long | short
      · exact spikes long
      · exact highGyroSpikeCount_le_of_length (nonempty enough) short low
  · intro short summary found trajectory
    obtain ⟨-, rfl, stable⟩ := tryFindStableWindowSummary_ok_iff.mp found
    have few := highGyroSpikeCount_le_of_length (nonempty enough) (show _ ≤ 10 * 2 + 1 from short) stable.gyroP90
    simp [trajectoryScore, few]

end GestureSuite.Gesture
