import Mathlib.Data.List.Sort
import Mathlib.Data.Rat.Floor
import Mathlib.Tactic

/-! # The calibration script

`fit_mouth_calibration.py` collects features around every marker of the recorded sessions and derives
thresholds from their quantiles. Numbers are exact, times are microseconds as in the script's time stamps,
and the square root is a parameter.
-/

namespace GestureSuite.Fitter

structure ImuRow (R : Type := ℚ) where
  t : ℤ
  roll : R
  pitch : R
  yaw : R
  gx : R
  gy : R
  gz : R
deriving DecidableEq, Repr

def ImuRow.pitchAbs (r : ImuRow) : ℚ := |r.pitch|

def ImuRow.rollAbs (r : ImuRow) : ℚ := |r.roll|

def ImuRow.gyroMag (sqrt : ℚ → ℚ) (r : ImuRow) : ℚ := sqrt (r.gx * r.gx + r.gy * r.gy + r.gz * r.gz)

structure MarkerRow where
  t : ℤ
  note : List Char
deriving DecidableEq, Repr

/-- What `read_record` returns for one file. -/
structure Record where
  name : List Char
  imuRows : List ImuRow
  markerRows : List MarkerRow
deriving DecidableEq, Repr

structure MarkerFeature where
  file : List Char
  markerTime : ℤ
  note : List Char
  steadyPitchAbsP10 : ℚ
  steadyPitchAbsP90 : ℚ
  steadyRollAbsP90 : ℚ
  steadyGyroP90 : ℚ
  moveGyroPeak : ℚ
  preGyroPeak : ℚ
  stableStreakSeconds : ℚ
deriving DecidableEq, Repr

def listMin (values : List ℚ) : ℚ := values.foldr min (values.headD 0)

def listMax (values : List ℚ) : ℚ := values.foldr max (values.headD 0)

def quantile (values : List ℚ) (q : ℚ) : ℚ :=
  if values.isEmpty then 0
  else if q ≤ 0 then listMin values
  else if 1 ≤ q then listMax values
  else
    let ordered := values.insertionSort (· ≤ ·)
    let idx : ℚ := ((ordered.length : ℚ) - 1) * q
    let lo := ⌊idx⌋.toNat
    let hi := ⌈idx⌉.toNat
    if lo = hi then ordered.getD lo 0
    else
      let frac := idx - lo
      ordered.getD lo 0 * (1 - frac) + ordered.getD hi 0 * frac

/-- `round(x, digits)`: to the nearest, ties to the even neighbour. -/
def round (x : ℚ) (digits : ℕ) : ℚ :=
  let scaled := x * 10 ^ digits
  let below := ⌊scaled⌋
  let frac := scaled - below
  let nearest := if frac < 1 / 2 ∨ frac = 1 / 2 ∧ below % 2 = 0 then below else below + 1
  nearest / 10 ^ digits

/-- A `timedelta` of so many milliseconds. -/
def milliseconds (n : ℤ) : ℤ := n * 1000

def totalSeconds (delta : ℤ) : ℚ := delta / 1000000

def selectWindow (rows : List ImuRow) (start stop : ℤ) : List ImuRow :=
  rows.filter fun r => start ≤ r.t && r.t ≤ stop

structure PoseLimits where
  stillGyro : ℚ
  pitchMin : ℚ
  pitchMax : ℚ
  rollMax : ℚ

def PoseLimits.admits (sqrt : ℚ → ℚ) (limits : PoseLimits) (r : ImuRow) : Bool :=
  limits.pitchMin ≤ r.pitchAbs && r.pitchAbs ≤ limits.pitchMax && r.rollAbs ≤ limits.rollMax &&
    r.gyroMag sqrt ≤ limits.stillGyro

/-- The loop over the rows from the last one backwards; `later` is the row handled before. -/
def streakStart (sqrt : ℚ → ℚ) (limits : PoseLimits) : Option ImuRow → ℤ → List ImuRow → ℤ
  | _, start, [] => start
  | later, start, r :: earlier =>
    if !limits.admits sqrt r then start
    else if later.any fun next => 0.09 < totalSeconds (next.t - r.t) then start
    else streakStart sqrt limits (some r) r.t earlier

def stableStreakSeconds (sqrt : ℚ → ℚ) (rows : List ImuRow) (markerTime : ℤ) (limits : PoseLimits) : ℚ :=
  let subset := (selectWindow rows (markerTime - milliseconds 1000) markerTime).insertionSort (·.t ≤ ·.t)
  match subset.getLast? with
  | none => 0
  | some last => max 0 (totalSeconds (last.t - streakStart sqrt limits none last.t subset.reverse))

def steadyWindow (rows : List ImuRow) (t : ℤ) : List ImuRow :=
  selectWindow rows (t - milliseconds 450) (t - milliseconds 50)

def moveWindow (rows : List ImuRow) (t : ℤ) : List ImuRow :=
  selectWindow rows (t - milliseconds 1200) (t - milliseconds 450)

def preWindow (rows : List ImuRow) (t : ℤ) : List ImuRow := selectWindow rows (t - milliseconds 1200) t

def extractFeaturesForMarker (sqrt : ℚ → ℚ) (fileName : List Char) (rows : List ImuRow) (marker : MarkerRow)
    (markerName : List Char) : Option MarkerFeature :=
  if marker.note ≠ markerName then none
  else
    let steady := steadyWindow rows marker.t
    let move := moveWindow rows marker.t
    let pre := preWindow rows marker.t
    if steady.length < 6 ∨ move.length < 6 then none
    else some
      { file := fileName
        markerTime := marker.t
        note := marker.note
        steadyPitchAbsP10 := quantile (steady.map (·.pitchAbs)) 0.10
        steadyPitchAbsP90 := quantile (steady.map (·.pitchAbs)) 0.90
        steadyRollAbsP90 := quantile (steady.map (·.rollAbs)) 0.90
        steadyGyroP90 := quantile (steady.map (·.gyroMag sqrt)) 0.90
        moveGyroPeak := if move.isEmpty then 0 else listMax (move.map (·.gyroMag sqrt))
        preGyroPeak := if pre.isEmpty then 0 else listMax (pre.map (·.gyroMag sqrt))
        stableStreakSeconds := 0 }

/-- The records that take part: those with rows and markers. -/
def Record.isUsed (record : Record) : Bool := !record.imuRows.isEmpty && !record.markerRows.isEmpty

def gatherFeatures (sqrt : ℚ → ℚ) (records : List Record) (markerName : List Char) : List MarkerFeature :=
  (records.filter (·.isUsed)).flatMap fun record =>
    record.markerRows.filterMap fun marker =>
      extractFeaturesForMarker sqrt record.name record.imuRows marker markerName

structure Thresholds where
  moveStartGyroThreshold : ℚ
  stillGyroThreshold : ℚ
  holdBreakGyroThreshold : ℚ
  posePitchAbsMin : ℚ
  posePitchAbsMax : ℚ
  poseRollAbsMax : ℚ
  holdSeconds : ℚ
  cooldownSeconds : ℚ
deriving DecidableEq, Repr

def defaultThresholds : Thresholds where
  moveStartGyroThreshold := 900
  stillGyroThreshold := 450
  holdBreakGyroThreshold := 1400
  posePitchAbsMin := 24
  posePitchAbsMax := 88
  poseRollAbsMax := 86
  holdSeconds := 0.30
  cooldownSeconds := 1.20

/-- The streaks that were found; without any, `HoldSeconds` keeps its default. -/
def fitHoldSeconds (features : List MarkerFeature) : ℚ :=
  let stableStreaks := (features.map (·.stableStreakSeconds)).filter (0 < ·)
  if stableStreaks.isEmpty then 0.30 else max 0.20 (min 0.55 (round (quantile stableStreaks 0.50) 2))

def recommendThresholds (features : List MarkerFeature) : Thresholds :=
  if features.isEmpty then defaultThresholds
  else
    let stillGyroThreshold := max 120 (round (quantile (features.map (·.steadyGyroP90)) 0.90 * 1.10) 1)
    let moveStartCandidate := round (quantile (features.map (·.moveGyroPeak)) 0.25) 1
    let moveStartGyroThreshold := max moveStartCandidate (round (stillGyroThreshold * 1.7) 1)
    let holdBreakCandidate := round (quantile (features.map (·.preGyroPeak)) 0.95) 1
    let holdSeconds := fitHoldSeconds features
    { moveStartGyroThreshold
      stillGyroThreshold
      holdBreakGyroThreshold := max holdBreakCandidate (round (moveStartGyroThreshold * 1.5) 1)
      posePitchAbsMin := max 8 (round (quantile (features.map (·.steadyPitchAbsP10)) 0.10 - 2) 1)
      posePitchAbsMax := min 89 (round (quantile (features.map (·.steadyPitchAbsP90)) 0.95 + 4) 1)
      poseRollAbsMax := min 89 (round (quantile (features.map (·.steadyRollAbsP90)) 0.95 + 4) 1)
      holdSeconds
      cooldownSeconds := max 0.60 (min 2 (round (max 1.2 (holdSeconds * 3.5)) 2)) }

def Thresholds.limits (thresholds : Thresholds) : PoseLimits where
  stillGyro := thresholds.stillGyroThreshold
  pitchMin := thresholds.posePitchAbsMin
  pitchMax := thresholds.posePitchAbsMax
  rollMax := thresholds.poseRollAbsMax

/-- The dictionary keeps the last feature of a file and a marker time; only that one is changed. -/
def setStreak (file : List Char) (t : ℤ) (streak : ℚ) : List MarkerFeature → List MarkerFeature
  | [] => []
  | f :: rest =>
    if (f.file = file ∧ f.markerTime = t) ∧ rest.all fun g => !(g.file = file && g.markerTime = t) then
      { f with stableStreakSeconds := streak } :: rest
    else f :: setStreak file t streak rest

def enrichStableStreaks (sqrt : ℚ → ℚ) (records : List Record) (markerName : List Char)
    (features : List MarkerFeature) (thresholds : Thresholds) : List MarkerFeature :=
  (records.filter (·.isUsed)).foldl
    (fun enriched record =>
      (record.markerRows.filter (·.note = markerName)).foldl
        (fun enriched marker =>
          setStreak record.name marker.t (stableStreakSeconds sqrt record.imuRows marker.t thresholds.limits) enriched)
        enriched)
    features

/-- Both passes. -/
def fit (sqrt : ℚ → ℚ) (records : List Record) (markerName : List Char) : Thresholds :=
  let features := gatherFeatures sqrt records markerName
  let firstPass := recommendThresholds features
  recommendThresholds (enrichStableStreaks sqrt records markerName features firstPass)

end GestureSuite.Fitter
