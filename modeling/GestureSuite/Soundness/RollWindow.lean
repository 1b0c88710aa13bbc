import GestureSuite.Model.Fitter.Fit
import GestureSuite.Soundness.Fitter.TwoPass
import GestureSuite.Soundness.Gesture.Angles

/-! # The fitted roll window against the detector's

The detector's stop pose is at a roll of at least 120 degrees in absolute value. The script fits an upper
bound on the absolute roll and caps it at 89 degrees, so as soon as one marker contributes a feature the
fitted bound rejects the very rows it was fitted on. Without a feature the bound is a default and no streak is
looked for. In neither case are the bound and the hold time both fitted to the data.
-/

namespace GestureSuite.Fitter

open Gesture

variable {sqrt : ℚ → ℚ} {records : List Record} {markerName : List Char}

/-- The marker has enough rows in its steady and in its move window. -/
def Record.Matches (record : Record) (marker : MarkerRow) (markerName : List Char) : Prop :=
  marker.note = markerName ∧ 6 ≤ (steadyWindow record.imuRows marker.t).length ∧
    6 ≤ (moveWindow record.imuRows marker.t).length

private theorem extractFeaturesForMarker_isSome (sqrt : ℚ → ℚ) (record : Record) (marker : MarkerRow) :
    (extractFeaturesForMarker sqrt record.name record.imuRows marker markerName).isSome = true ↔
      record.Matches marker markerName := by
  rw [extractFeaturesForMarker, Record.Matches]
  dsimp only
  split
  · next other => simp [other]
  · next same =>
    split
    · next few =>
      simp only [Option.isSome_none, Bool.false_eq_true, false_iff]
      rintro ⟨_, steady, move⟩
      omega
    · next enough =>
      simp only [Option.isSome_some, true_iff]
      exact ⟨not_not.mp same, by omega, by omega⟩

theorem gatherFeatures_eq_nil_iff (sqrt : ℚ → ℚ) :
    gatherFeatures sqrt records markerName = [] ↔
      ¬ ∃ record ∈ records, ∃ marker ∈ record.markerRows, record.Matches marker markerName := by
  constructor
  · rintro empty ⟨record, inRecords, marker, inMarkers, enough⟩
    obtain ⟨feature, extracted⟩ := Option.isSome_iff_exists.mp
      ((extractFeaturesForMarker_isSome sqrt record marker).mpr enough)
    have rows : record.imuRows ≠ [] := by
      rintro none
      obtain ⟨_, steady, _⟩ := enough
      simp [none, steadyWindow, selectWindow] at steady
    have used : record.isUsed = true := by
      simp [Record.isUsed, rows, List.ne_nil_of_mem inMarkers]
    have member := mem_gatherFeatures.mpr ⟨record, inRecords, used, marker, inMarkers, extracted⟩
    rw [empty] at member
    cases member
  · intro none
    by_contra nonempty
    obtain ⟨feature, member⟩ := List.exists_mem_of_ne_nil _ nonempty
    obtain ⟨record, inRecords, _, marker, inMarkers, extracted⟩ := mem_gatherFeatures.mp member
    refine none ⟨record, inRecords, marker, inMarkers, ?_⟩
    exact (extractFeaturesForMarker_isSome sqrt record marker).mp (by rw [extracted]; rfl)

/-- Every row the steady windows of the marker's name select is in the detector's stop pose. -/
def SteadyInStopPose (records : List Record) (markerName : List Char) : Prop :=
  ∀ record ∈ records, ∀ marker ∈ record.markerRows, marker.note = markerName →
    ∀ row ∈ steadyWindow record.imuRows marker.t, isInStopPose row.pitch row.roll = true

/-- The whole second in front of the markers of the name is spent in the stop pose. -/
def SecondInStopPose (records : List Record) (markerName : List Char) : Prop :=
  ∀ record ∈ records, ∀ marker ∈ record.markerRows, marker.note = markerName →
    ∀ row ∈ selectWindow record.imuRows (marker.t - milliseconds 1000) marker.t,
      isInStopPose row.pitch row.roll = true

private theorem le_steadyRollAbsP90 (poses : SteadyInStopPose records markerName) {feature : MarkerFeature}
    (member : feature ∈ gatherFeatures sqrt records markerName) : 120 ≤ feature.steadyRollAbsP90 := by
  obtain ⟨record, inRecords, _, marker, inMarkers, extracted⟩ := mem_gatherFeatures.mp member
  obtain ⟨named, steady, -, rfl⟩ := extractFeaturesForMarker_eq_some extracted
  apply le_quantile
  · intro empty
    rw [List.map_eq_nil_iff.mp empty] at steady
    simp at steady
  · intro value inRolls
    obtain ⟨row, inWindow, rfl⟩ := List.mem_map.mp inRolls
    exact rollAbs_of_isInStopPose (poses record inRecords marker inMarkers named row inWindow)

private theorem poseRollAbsMax_le {features : List MarkerFeature} (nonempty : features ≠ []) :
    (recommendThresholds features).poseRollAbsMax ≤ 89 := by
  rw [recommendThresholds]
  rw [if_neg (by simpa using nonempty)]
  exact min_le_left _ _

/-- The recommended roll window accepts the rolls it was fitted on. -/
def RollWindowAccepts (sqrt : ℚ → ℚ) (records : List Record) (markerName : List Char) : Prop :=
  quantile ((gatherFeatures sqrt records markerName).map (·.steadyRollAbsP90)) 0.95 ≤
    (recommendThresholds (gatherFeatures sqrt records markerName)).poseRollAbsMax

/-- The second pass has a streak to fit `HoldSeconds` to. -/
def HoldSecondsFitted (sqrt : ℚ → ℚ) (records : List Record) (markerName : List Char) : Prop :=
  ∃ feature ∈ enrichStableStreaks sqrt records markerName (gatherFeatures sqrt records markerName)
    (recommendThresholds (gatherFeatures sqrt records markerName)), 0 < feature.stableStreakSeconds

/-- The window accepts its rolls if and only if no marker had enough rows to be fitted on at all. -/
private theorem rollWindowAccepts_iff (poses : SteadyInStopPose records markerName) :
    RollWindowAccepts sqrt records markerName ↔ gatherFeatures sqrt records markerName = [] := by
  rw [RollWindowAccepts]
  constructor
  · intro accepted
    by_contra nonempty
    have capped := poseRollAbsMax_le nonempty
    have high : 120 ≤ quantile ((gatherFeatures sqrt records markerName).map (·.steadyRollAbsP90)) 0.95 := by
      apply le_quantile (by simpa using nonempty)
      intro value inRolls
      obtain ⟨feature, member, rfl⟩ := List.mem_map.mp inRolls
      exact le_steadyRollAbsP90 poses member
    linarith
  · intro empty
    rw [empty]
    decide

private theorem streakStart_of_rejected {limits : PoseLimits} {start : ℤ} {rows : List ImuRow}
    (rejected : ∀ row, rows.head? = some row → limits.admits sqrt row = false) :
    streakStart sqrt limits none start rows = start := by
  cases rows with
  | nil => rfl
  | cons row rest =>
    rw [streakStart, rejected row rfl]
    rfl

/-- A streak whose last row is rejected has no length. -/
private theorem stableStreakSeconds_eq_zero {rows : List ImuRow} {t : ℤ} {limits : PoseLimits}
    (rejected : ∀ row ∈ selectWindow rows (t - milliseconds 1000) t, limits.admits sqrt row = false) :
    stableStreakSeconds sqrt rows t limits = 0 := by
  unfold stableStreakSeconds
  dsimp only
  split
  · rfl
  · next last found =>
    rw [streakStart_of_rejected]
    · simp [totalSeconds]
    · intro row head
      apply rejected
      rw [List.head?_reverse] at head
      exact (List.mem_insertionSort _).mp (List.mem_of_getLast? head)

private theorem fitHoldSeconds_default {features : List MarkerFeature}
    (unfitted : ∀ f ∈ features, f.stableStreakSeconds ≤ 0) : fitHoldSeconds features = 0.30 := by
  have none : (features.map (·.stableStreakSeconds)).filter (0 < ·) = [] := by
    rw [List.filter_eq_nil_iff]
    intro value member
    obtain ⟨f, inFeatures, rfl⟩ := List.mem_map.mp member
    simpa using unfitted f inFeatures
  rw [fitHoldSeconds]
  rw [none]
  rfl

private theorem recommendThresholds_holdSeconds (features : List MarkerFeature) :
    (recommendThresholds features).holdSeconds = fitHoldSeconds features := by
  cases features <;> rfl

private theorem gatherFeatures_zero : ∀ f ∈ gatherFeatures sqrt records markerName, f.stableStreakSeconds = 0 := by
  intro feature member
  obtain ⟨record, _, _, marker, _, extracted⟩ := mem_gatherFeatures.mp member
  obtain ⟨-, -, -, rfl⟩ := extractFeaturesForMarker_eq_some extracted
  rfl

/-- Without a feature there is nothing to find a streak for. -/
private theorem not_holdSecondsFitted_of_nil (empty : gatherFeatures sqrt records markerName = []) :
    ¬ HoldSecondsFitted sqrt records markerName := by
  rintro ⟨feature, member, -⟩
  rw [enrichStableStreaks_eq_assign, empty] at member
  cases member

/-- Without a streak the recommended hold time is the default. -/
private theorem fit_holdSeconds_default (unfitted : ¬ HoldSecondsFitted sqrt records markerName) :
    (fit sqrt records markerName).holdSeconds = 0.30 := by
  rw [fit, recommendThresholds_holdSeconds]
  apply fitHoldSeconds_default
  intro feature member
  exact not_lt.mp fun positive => unfitted ⟨feature, member, positive⟩

/-- When the whole second in front of every marker is spent in the stop pose, the second pass finds no streak. -/
private theorem not_holdSecondsFitted (poses : SecondInStopPose records markerName) :
    ¬ HoldSecondsFitted sqrt records markerName := by
  rintro ⟨feature, member, positive⟩
  rw [enrichStableStreaks_eq_assign] at member
  refine positive.ne' (assign_induction (motive := (· = 0)) ?_ ?_ feature member)
  · exact gatherFeatures_zero
  · intro key streak found
    obtain ⟨c, inCases, rfl⟩ := of_measuredStreak_eq_some found
    obtain ⟨inRecords, inMarkers, named⟩ := of_mem_markerCases inCases
    have limit : (recommendThresholds (gatherFeatures sqrt records markerName)).poseRollAbsMax ≤ 89 := by
      by_cases empty : gatherFeatures sqrt records markerName = []
      · rw [empty]
        decide
      · exact poseRollAbsMax_le empty
    apply stableStreakSeconds_eq_zero
    intro row inWindow
    have roll := rollAbs_of_isInStopPose (poses c.1 inRecords c.2 inMarkers named row inWindow)
    have outside : ¬ row.rollAbs ≤ (recommendThresholds (gatherFeatures sqrt records markerName)).poseRollAbsMax := by
      rw [ImuRow.rollAbs]
      linarith
    simp [PoseLimits.admits, Thresholds.limits, outside]

/-- On sessions recorded in the stop pose, the recommended roll window never accepts the rolls it was fitted on with
a hold time that is fitted too. Where a marker has enough rows, the window rejects its rolls; where none has, and
where the whole second in front of the markers is in the stop pose, the hold time is the default. -/
theorem rollWindow_never_fits (sqrt : ℚ → ℚ) (records : List Record) (markerName : List Char)
    (poses : SteadyInStopPose records markerName) :
    ¬ (RollWindowAccepts sqrt records markerName ∧ HoldSecondsFitted sqrt records markerName) ∧
      (RollWindowAccepts sqrt records markerName ↔
        ¬ ∃ record ∈ records, ∃ marker ∈ record.markerRows, record.Matches marker markerName) ∧
      (¬ HoldSecondsFitted sqrt records markerName → (fit sqrt records markerName).holdSeconds = 0.30) ∧
      (SecondInStopPose records markerName → ¬ HoldSecondsFitted sqrt records markerName) := by
  refine ⟨?_, ?_, fit_holdSeconds_default, not_holdSecondsFitted⟩
  · rintro ⟨accepted, fitted⟩
    exact not_holdSecondsFitted_of_nil ((rollWindowAccepts_iff poses).mp accepted) fitted
  · rw [rollWindowAccepts_iff poses, gatherFeatures_eq_nil_iff]

/-- A row of a hand at rest in the middle of the stop pose, so many milliseconds into the session. -/
def restingRow (ms : ℤ) : ImuRow :=
  { t := milliseconds ms, roll := -150, pitch := 30, yaw := 0, gx := 30, gy := 40, gz := 0 }

/-- A session with rows every fifty milliseconds and a marker after so many of them. -/
def sampleRecord (rows : ℕ) : Record where
  name := "session.csv".toList
  imuRows := (List.range rows).map fun i => restingRow (50 * i)
  markerRows := [⟨milliseconds (50 * rows), mouthHold⟩]

private theorem sampleRecord_rows (rows : ℕ) {row : ImuRow} (member : row ∈ (sampleRecord rows).imuRows) :
    isInStopPose row.pitch row.roll = true := by
  obtain ⟨i, _, rfl⟩ := List.mem_map.mp member
  change isInStopPose 30 (-150) = true
  decide +kernel

private theorem sampleRecord_steadyInStopPose (rows : ℕ) : SteadyInStopPose [sampleRecord rows] mouthHold := by
  intro record inRecords marker _ _ row inWindow
  obtain rfl := List.mem_singleton.mp inRecords
  exact sampleRecord_rows rows (List.mem_of_mem_filter inWindow)

private theorem sampleRecord_secondInStopPose (rows : ℕ) : SecondInStopPose [sampleRecord rows] mouthHold := by
  intro record inRecords marker _ _ row inWindow
  obtain rfl := List.mem_singleton.mp inRecords
  exact sampleRecord_rows rows (List.mem_of_mem_filter inWindow)

/-- A session of thirty rows, all in the stop pose: a feature is found, and its hold time is the default. -/
theorem rollWindow_never_fits_sampleRecord :
    ¬ RollWindowAccepts integerSqrt [sampleRecord 30] mouthHold ∧
      (fit integerSqrt [sampleRecord 30] mouthHold).holdSeconds = 0.30 := by
  obtain ⟨-, accepts, unfitted, second⟩ :=
    rollWindow_never_fits integerSqrt [sampleRecord 30] mouthHold (sampleRecord_steadyInStopPose 30)
  refine ⟨fun accepted => accepts.mp accepted ?_, unfitted (second (sampleRecord_secondInStopPose 30))⟩
  refine ⟨sampleRecord 30, List.mem_singleton_self _, ⟨milliseconds 1500, mouthHold⟩, List.mem_singleton_self _, ?_⟩
  exact ⟨rfl, by decide +kernel, by decide +kernel⟩

/-- The bound is 89 where the rolls are at 150, and no streak is found. -/
theorem rollWindow_rejects_sampleRecord :
    SteadyInStopPose [sampleRecord 30] mouthHold ∧
      quantile ((gatherFeatures integerSqrt [sampleRecord 30] mouthHold).map (·.steadyRollAbsP90)) 0.95 = 150 ∧
      (recommendThresholds (gatherFeatures integerSqrt [sampleRecord 30] mouthHold)).poseRollAbsMax = 89 ∧
      ¬ RollWindowAccepts integerSqrt [sampleRecord 30] mouthHold ∧
      ¬ HoldSecondsFitted integerSqrt [sampleRecord 30] mouthHold ∧
      (fit integerSqrt [sampleRecord 30] mouthHold).holdSeconds = 0.30 := by
  refine ⟨sampleRecord_steadyInStopPose 30, by decide +kernel, by decide +kernel, ?_,
    not_holdSecondsFitted (sampleRecord_secondInStopPose 30), by decide +kernel⟩
  rw [RollWindowAccepts]
  decide +kernel

end GestureSuite.Fitter
