import GestureSuite.Soundness.Fitter.Quantile

/-! # The recommended thresholds fit together

The thresholds of the gyroscope are ordered and the two times stay in their ranges whatever was recorded.
The two ends of the pitch window are clamped one by one: the lower end is at least eight degrees, and
nothing keeps the upper end above it when the hand was held almost level.
-/

namespace GestureSuite.Fitter

variable {sqrt : ℚ → ℚ} {records : List Record} {markerName : List Char}

/-- Features come from the markers with enough rows, and only from them. -/
theorem mem_gatherFeatures {feature : MarkerFeature} :
    feature ∈ gatherFeatures sqrt records markerName ↔
      ∃ record ∈ records, record.isUsed = true ∧ ∃ marker ∈ record.markerRows,
        extractFeaturesForMarker sqrt record.name record.imuRows marker markerName = some feature := by
  simp [gatherFeatures, and_assoc]

/-- What a feature is made of, when there is one. -/
theorem extractFeaturesForMarker_eq_some {fileName : List Char} {rows : List ImuRow} {marker : MarkerRow}
    {feature : MarkerFeature}
    (extracted : extractFeaturesForMarker sqrt fileName rows marker markerName = some feature) :
    marker.note = markerName ∧ 6 ≤ (steadyWindow rows marker.t).length ∧ 6 ≤ (moveWindow rows marker.t).length ∧
      feature =
        { file := fileName
          markerTime := marker.t
          note := marker.note
          steadyPitchAbsP10 := quantile ((steadyWindow rows marker.t).map (·.pitchAbs)) 0.10
          steadyPitchAbsP90 := quantile ((steadyWindow rows marker.t).map (·.pitchAbs)) 0.90
          steadyRollAbsP90 := quantile ((steadyWindow rows marker.t).map (·.rollAbs)) 0.90
          steadyGyroP90 := quantile ((steadyWindow rows marker.t).map (·.gyroMag sqrt)) 0.90
          moveGyroPeak := if (moveWindow rows marker.t).isEmpty then 0
            else listMax ((moveWindow rows marker.t).map (·.gyroMag sqrt))
          preGyroPeak := if (preWindow rows marker.t).isEmpty then 0
            else listMax ((preWindow rows marker.t).map (·.gyroMag sqrt))
          stableStreakSeconds := 0 } := by
  rw [extractFeaturesForMarker] at extracted
  dsimp only at extracted
  split at extracted
  · cases extracted
  next same =>
  split at extracted
  · cases extracted
  next enough =>
  exact ⟨not_not.mp same, by omega, by omega, (Option.some.inj extracted).symm⟩

/-- A feature of rows with angles in their range; the second pass may have set its streak. -/
def Extracted (sqrt : ℚ → ℚ) (feature : MarkerFeature) : Prop :=
  ∃ fileName rows marker markerName original, (∀ row ∈ rows, |row.pitch| ≤ 90 ∧ |row.roll| ≤ 180) ∧
    extractFeaturesForMarker sqrt fileName rows marker markerName = some original ∧
    feature = { original with stableStreakSeconds := feature.stableStreakSeconds }

private theorem Extracted.pitch {feature : MarkerFeature} (extracted : Extracted sqrt feature) :
    feature.steadyPitchAbsP10 ≤ 90 ∧ feature.steadyPitchAbsP10 ≤ feature.steadyPitchAbsP90 := by
  obtain ⟨fileName, rows, marker, markerName, original, angles, made, rest⟩ := extracted
  obtain ⟨-, steady, -, rfl⟩ := extractFeaturesForMarker_eq_some made
  rw [rest]
  constructor
  · apply quantile_le
    · intro empty
      rw [List.map_eq_nil_iff.mp empty] at steady
      simp at steady
    · intro value member
      obtain ⟨row, inWindow, rfl⟩ := List.mem_map.mp member
      exact (angles row (List.mem_of_mem_filter inWindow)).1
  · exact quantile_le_of_level_le _ (by norm_num)

/-- The bounds and the order that the detector's constants need. -/
structure Coherent (t : Thresholds) : Prop where
  still : 120 ≤ t.stillGyroThreshold
  moving : t.stillGyroThreshold < t.moveStartGyroThreshold
  breaking : t.moveStartGyroThreshold < t.holdBreakGyroThreshold
  pitch : t.posePitchAbsMin ≤ t.posePitchAbsMax
  hold : 0.20 ≤ t.holdSeconds ∧ t.holdSeconds ≤ 0.55
  cooldown : 1.2 ≤ t.cooldownSeconds ∧ t.cooldownSeconds ≤ 2.0

/-- Scaled up by a half and rounded, a threshold of the gyroscope grows. -/
private theorem lt_round_scaled {x factor : ℚ} (large : 120 ≤ x) (scale : 1.5 ≤ factor) : x < round (x * factor) 1 := by
  have lower := (round_bounds (x * factor) 1).1
  have grown : x * 1.5 ≤ x * factor := mul_le_mul_of_nonneg_left scale (by linarith)
  norm_num at lower grown
  linarith

private theorem fitHoldSeconds_bounds (features : List MarkerFeature) :
    0.20 ≤ fitHoldSeconds features ∧ fitHoldSeconds features ≤ 0.55 := by
  rw [fitHoldSeconds]
  split
  · norm_num
  · exact ⟨le_max_left _ _, max_le (by norm_num) (min_le_left _ _)⟩

private theorem cooldown_bounds (hold : ℚ) :
    1.2 ≤ max 0.60 (min 2 (round (max 1.2 (hold * 3.5)) 2)) ∧
      max 0.60 (min 2 (round (max 1.2 (hold * 3.5)) 2)) ≤ (2.0 : ℚ) := by
  have reached : (1.2 : ℚ) ≤ round (max 1.2 (hold * 3.5)) 2 := by
    have least : (1.2 : ℚ) ≤ max 1.2 (hold * 3.5) := le_max_left _ _
    have rounded := (le_round_iff (show (120 : ℤ) % 2 = 0 by decide) (max 1.2 (hold * 3.5)) 2).mpr
      (le_trans (by norm_num) least)
    norm_num at rounded ⊢
    exact rounded
  constructor
  · exact le_max_of_le_right (le_min (by norm_num) reached)
  · exact max_le (by norm_num) ((min_le_left _ _).trans (by norm_num))

/-- The pitch window has something in it once its upper end reaches eight degrees. -/
private theorem pitchWindow_iff {low high : ℚ} (range : low ≤ 90) (order : low ≤ high) :
    max 8 (round (low - 2) 1) ≤ min 89 (round (high + 4) 1) ↔ 3.95 ≤ high := by
  have lower : round (low - 2) 1 ≤ 89 := by
    have upper := (round_bounds (low - 2) 1).2
    norm_num at upper
    linarith
  have ends : round (low - 2) 1 ≤ round (high + 4) 1 := round_le_round (by linarith) 1
  have eight := le_round_iff (show (80 : ℤ) % 2 = 0 by decide) (high + 4) 1
  norm_num at eight
  rw [max_le_iff, le_min_iff, le_min_iff]
  constructor
  · rintro ⟨⟨-, reached⟩, -⟩
    have enough := eight.mp reached
    norm_num at enough ⊢
    linarith
  · intro enough
    norm_num at enough
    refine ⟨⟨by norm_num, eight.mpr (by linarith)⟩, lower, ends⟩

/-- Of features extracted from rows with angles in their range, whatever their streaks, the recommended
thresholds fit together exactly when the upper pitch quantile is at least 3.95 degrees. -/
theorem recommendThresholds_coherent_iff {features : List MarkerFeature} (nonempty : features ≠ [])
    (extracted : ∀ feature ∈ features, Extracted sqrt feature) :
    Coherent (recommendThresholds features) ↔ 3.95 ≤ quantile (features.map (·.steadyPitchAbsP90)) 0.95 := by
  have range : quantile (features.map (·.steadyPitchAbsP10)) 0.10 ≤ 90 := by
    apply quantile_le (by simpa using nonempty)
    intro value member
    obtain ⟨feature, inFeatures, rfl⟩ := List.mem_map.mp member
    exact (extracted feature inFeatures).pitch.1
  have order : quantile (features.map (·.steadyPitchAbsP10)) 0.10 ≤
      quantile (features.map (·.steadyPitchAbsP90)) 0.95 := by
    have related : List.Forall₂ (· ≤ ·) (features.map (·.steadyPitchAbsP10)) (features.map (·.steadyPitchAbsP90)) := by
      rw [List.forall₂_map_left_iff, List.forall₂_map_right_iff, List.forall₂_same]
      exact fun feature inFeatures => (extracted feature inFeatures).pitch.2
    exact (quantile_le_of_forall₂_le related 0.10).trans (quantile_le_of_level_le _ (by norm_num))
  rw [← pitchWindow_iff range order, recommendThresholds]
  rw [if_neg (by simpa using nonempty)]
  constructor
  · exact fun coherent => coherent.pitch
  · intro window
    have still : 120 ≤ max 120 (round (quantile (features.map (·.steadyGyroP90)) 0.90 * 1.10) 1) := le_max_left _ _
    have moving : max 120 (round (quantile (features.map (·.steadyGyroP90)) 0.90 * 1.10) 1) <
        max (round (quantile (features.map (·.moveGyroPeak)) 0.25) 1)
          (round (max 120 (round (quantile (features.map (·.steadyGyroP90)) 0.90 * 1.10) 1) * 1.7) 1) :=
      lt_max_of_lt_right (lt_round_scaled still (by norm_num))
    exact
      { still
        moving
        breaking := lt_max_of_lt_right (lt_round_scaled (still.trans moving.le) le_rfl)
        pitch := window
        hold := fitHoldSeconds_bounds features
        cooldown := cooldown_bounds _ }

/-- The integer square root, which is the square root on squares. -/
def integerSqrt (x : ℚ) : ℚ := Nat.sqrt ⌊x⌋.toNat

def mouthHold : List Char := "MOUTH_HOLD".toList

/-- A hand held still at a pitch, with rows every fifty milliseconds and a marker after thirty of them. -/
def heldRecord (pitch : ℚ) : Record where
  name := "held.csv".toList
  imuRows := (List.range 30).map fun i =>
    { t := milliseconds (50 * i), roll := 0, pitch, yaw := 0, gx := 30, gy := 40, gz := 0 }
  markerRows := [⟨milliseconds 1500, mouthHold⟩]

private theorem heldRecord_extracted {pitch : ℚ} (range : |pitch| ≤ 90) :
    ∀ feature ∈ gatherFeatures integerSqrt [heldRecord pitch] mouthHold, Extracted integerSqrt feature := by
  intro feature member
  obtain ⟨record, inRecords, -, marker, -, made⟩ := mem_gatherFeatures.mp member
  refine ⟨_, _, _, _, feature, ?_, made, rfl⟩
  intro row inRows
  rw [List.mem_singleton.mp inRecords] at inRows
  obtain ⟨i, -, rfl⟩ := List.mem_map.mp inRows
  exact ⟨range, by norm_num⟩

/-- A pitch of thirty degrees meets the condition. -/
theorem recommendThresholds_coherent_held :
    Coherent (recommendThresholds (gatherFeatures integerSqrt [heldRecord 30] mouthHold)) :=
  (recommendThresholds_coherent_iff (by decide) (heldRecord_extracted (by decide))).mpr
    (by decide +kernel)

/-- A hand held level gives a pitch window from eight to four degrees. -/
theorem recommendThresholds_level_incoherent :
    (recommendThresholds (gatherFeatures integerSqrt [heldRecord 0] mouthHold)).posePitchAbsMin = 8 ∧
    (recommendThresholds (gatherFeatures integerSqrt [heldRecord 0] mouthHold)).posePitchAbsMax = 4 ∧
    ¬ (∀ (sqrt : ℚ → ℚ) (features : List MarkerFeature), features ≠ [] →
      (∀ feature ∈ features, Extracted sqrt feature) → Coherent (recommendThresholds features)) := by
  have lower : (recommendThresholds (gatherFeatures integerSqrt [heldRecord 0] mouthHold)).posePitchAbsMin = 8 := by
    decide +kernel
  have upper : (recommendThresholds (gatherFeatures integerSqrt [heldRecord 0] mouthHold)).posePitchAbsMax = 4 := by
    decide +kernel
  refine ⟨lower, upper, ?_⟩
  intro always
  have window := (always integerSqrt (gatherFeatures integerSqrt [heldRecord 0] mouthHold) (by decide)
    (heldRecord_extracted (by decide))).pitch
  rw [lower, upper] at window
  norm_num at window

end GestureSuite.Fitter
