import GestureSuite.Soundness.Fitter.TwoPass

/-! # What the fit does not depend on

The script reads the files in the order of their paths and works with absolute times. Neither enters the
thresholds: records may come in any order, and each may be moved in time by an amount of its own. The one thing
that has to hold is that no two markers share the file name and the time by which the second pass finds its
features.
-/

namespace GestureSuite.Fitter

variable (sqrt : ℚ → ℚ)

def ImuRow.shift (d : ℤ) (r : ImuRow) : ImuRow := { r with t := r.t + d }

def MarkerRow.shift (d : ℤ) (m : MarkerRow) : MarkerRow := { m with t := m.t + d }

/-- The same recording made at another time. -/
def Record.shift (d : ℤ) (record : Record) : Record :=
  { record with
    imuRows := record.imuRows.map (ImuRow.shift d)
    markerRows := record.markerRows.map (MarkerRow.shift d) }

private theorem selectWindow_shift (d : ℤ) (rows : List ImuRow) (start stop : ℤ) :
    selectWindow (rows.map (ImuRow.shift d)) (start + d) (stop + d) =
      (selectWindow rows start stop).map (ImuRow.shift d) := by
  rw [selectWindow, selectWindow, List.filter_map]
  congr 1
  refine List.filter_congr fun r _ => ?_
  simp [ImuRow.shift]

private theorem streakStart_shift (d : ℤ) (limits : PoseLimits) (later : Option ImuRow) (start : ℤ)
    (rows : List ImuRow) :
    streakStart sqrt limits (later.map (ImuRow.shift d)) (start + d) (rows.map (ImuRow.shift d)) =
      streakStart sqrt limits later start rows + d := by
  induction rows generalizing later start with
  | nil => rfl
  | cons r earlier ih =>
    have admits : limits.admits sqrt (r.shift d) = limits.admits sqrt r := rfl
    have gap : ((later.map (ImuRow.shift d)).any fun next => 0.09 < totalSeconds (next.t - (r.shift d).t)) =
        later.any fun next => 0.09 < totalSeconds (next.t - r.t) := by
      cases later with
      | none => rfl
      | some next => simp [ImuRow.shift]
    rw [List.map_cons, streakStart, streakStart, admits, gap]
    split
    · rfl
    · split
      · rfl
      · exact ih (some r) r.t

/-- The streak in front of a marker is the same at any time. -/
theorem stableStreakSeconds_shift (d : ℤ) (rows : List ImuRow) (t : ℤ) (limits : PoseLimits) :
    stableStreakSeconds sqrt (rows.map (ImuRow.shift d)) (t + d) limits = stableStreakSeconds sqrt rows t limits := by
  have window : selectWindow (rows.map (ImuRow.shift d)) (t + d - milliseconds 1000) (t + d) =
      (selectWindow rows (t - milliseconds 1000) t).map (ImuRow.shift d) := by
    rw [← selectWindow_shift]
    congr 1
    omega
  have sorted (l : List ImuRow) : (l.map (ImuRow.shift d)).insertionSort (·.t ≤ ·.t) =
      (l.insertionSort (·.t ≤ ·.t)).map (ImuRow.shift d) := by
    symm
    apply List.map_insertionSort
    intro a _ b _
    simp [ImuRow.shift]
  rw [stableStreakSeconds, stableStreakSeconds, window, sorted, List.getLast?_map, ← List.map_reverse]
  cases ((selectWindow rows (t - milliseconds 1000) t).insertionSort (·.t ≤ ·.t)).getLast? with
  | none => rfl
  | some last =>
    have start := streakStart_shift sqrt d limits none last.t
      ((selectWindow rows (t - milliseconds 1000) t).insertionSort (·.t ≤ ·.t)).reverse
    change max 0 (totalSeconds (last.t + d - streakStart sqrt limits none (last.t + d) _)) = _
    rw [Option.map_none] at start
    rw [start, add_sub_add_right_eq_sub]

/-- What the thresholds are computed from: a feature without its name and time. -/
def MarkerFeature.values (f : MarkerFeature) : MarkerFeature := { f with file := [], markerTime := 0, note := [] }

private theorem window_shift (d : ℤ) (rows : List ImuRow) (t before after : ℤ) :
    selectWindow (rows.map (ImuRow.shift d)) (t + d - before) (t + d - after) =
      (selectWindow rows (t - before) (t - after)).map (ImuRow.shift d) := by
  rw [← selectWindow_shift]
  congr 1 <;> omega

private theorem extractFeaturesForMarker_shift (d : ℤ) (fileName : List Char) (rows : List ImuRow) (marker : MarkerRow)
    (markerName : List Char) :
    extractFeaturesForMarker sqrt fileName (rows.map (ImuRow.shift d)) (marker.shift d) markerName =
      (extractFeaturesForMarker sqrt fileName rows marker markerName).map
        fun f => { f with markerTime := f.markerTime + d } := by
  have steady : steadyWindow (rows.map (ImuRow.shift d)) (marker.shift d).t =
      (steadyWindow rows marker.t).map (ImuRow.shift d) := window_shift d rows marker.t _ _
  have move : moveWindow (rows.map (ImuRow.shift d)) (marker.shift d).t =
      (moveWindow rows marker.t).map (ImuRow.shift d) := window_shift d rows marker.t _ _
  have pre : preWindow (rows.map (ImuRow.shift d)) (marker.shift d).t =
      (preWindow rows marker.t).map (ImuRow.shift d) := by
    have window := window_shift d rows marker.t (milliseconds 1200) 0
    rw [sub_zero, sub_zero] at window
    exact window
  rw [extractFeaturesForMarker, extractFeaturesForMarker, steady, move, pre]
  simp only [List.length_map, List.isEmpty_map, List.map_map]
  change (if marker.note ≠ markerName then none else _) = _
  split
  · rfl
  · split
    · rfl
    · rfl

/-- The feature of a marker after the first pass. -/
def plainFeature (markerName : List Char) (c : Record × MarkerRow) : Option MarkerFeature :=
  extractFeaturesForMarker sqrt c.1.name c.1.imuRows c.2 markerName

/-- The feature of a marker with its streak. -/
def fullFeature (limits : PoseLimits) (markerName : List Char) (c : Record × MarkerRow) : Option MarkerFeature :=
  (plainFeature sqrt markerName c).map fun f =>
    { f with stableStreakSeconds := stableStreakSeconds sqrt c.1.imuRows c.2.t limits }

private theorem gatherFeatures_eq (records : List Record) (markerName : List Char) :
    gatherFeatures sqrt records markerName =
      (markerCases records markerName).filterMap (plainFeature sqrt markerName) := by
  rw [gatherFeatures, markerCases, List.filterMap_flatMap]
  refine List.flatMap_congr fun record _ => ?_
  rw [List.filterMap_map, List.filterMap_filter]
  refine List.filterMap_congr fun marker _ => ?_
  by_cases named : marker.note = markerName
  · simp [named, plainFeature]
  · simp [named, extractFeaturesForMarker]

private theorem key_of_plainFeature {markerName : List Char} {c : Record × MarkerRow} {f : MarkerFeature}
    (found : plainFeature sqrt markerName c = some f) : f.key = caseKey c := by
  obtain ⟨-, -, -, rfl⟩ := extractFeaturesForMarker_eq_some found
  rfl

/-- Among markers of different keys, a marker of one key is the last of it. -/
private theorem measuredStreak_of_distinct {cases : List (Record × MarkerRow)} (distinct : (cases.map caseKey).Nodup)
    {c : Record × MarkerRow} (member : c ∈ cases) (limits : PoseLimits) :
    measuredStreak sqrt limits cases (caseKey c) = some (caseStreak sqrt limits c) := by
  obtain ⟨d, among, same, streak⟩ := measuredStreak_isSome sqrt limits member
  obtain rfl := List.inj_on_of_nodup_map distinct among member same
  exact streak

/-- An assignment to the features of markers of different keys reaches each of them. -/
private theorem assign_of_distinct {lookup : List Char × ℤ → Option ℚ} {limits : PoseLimits} {markerName : List Char}
    {cases : List (Record × MarkerRow)} (distinct : (cases.map caseKey).Nodup)
    (each : ∀ c ∈ cases, lookup (caseKey c) = some (caseStreak sqrt limits c)) :
    assign lookup (cases.filterMap (plainFeature sqrt markerName)) =
      cases.filterMap (fullFeature sqrt limits markerName) := by
  induction cases with
  | nil => rfl
  | cons c rest ih =>
    obtain ⟨here, later⟩ := List.forall_mem_cons.mp each
    rw [List.map_cons, List.nodup_cons] at distinct
    have tail := ih distinct.2 later
    cases plain : plainFeature sqrt markerName c with
    | none =>
      have full : fullFeature sqrt limits markerName c = none := by rw [fullFeature, plain]; rfl
      rw [List.filterMap_cons_none plain, List.filterMap_cons_none full, tail]
    | some f =>
      have key := key_of_plainFeature sqrt plain
      have full : fullFeature sqrt limits markerName c =
          some { f with stableStreakSeconds := caseStreak sqrt limits c } := by
        rw [fullFeature, plain]
        rfl
      have last : f.key ∉ (rest.filterMap (plainFeature sqrt markerName)).map MarkerFeature.key := by
        rw [key]
        intro again
        obtain ⟨g, inFeatures, same⟩ := List.mem_map.mp again
        obtain ⟨d, among, found⟩ := List.mem_filterMap.mp inFeatures
        exact distinct.1 (List.mem_map.mpr ⟨d, among, (key_of_plainFeature sqrt found).symm.trans same⟩)
      rw [List.filterMap_cons_some plain, List.filterMap_cons_some full, assign, if_neg last, tail, key, here]
      rfl

/-- The second pass gives every feature the streak of its own marker. -/
theorem enrichStableStreaks_of_distinct {records : List Record} {markerName : List Char}
    (distinct : ((markerCases records markerName).map caseKey).Nodup) (thresholds : Thresholds) :
    enrichStableStreaks sqrt records markerName (gatherFeatures sqrt records markerName) thresholds =
      (markerCases records markerName).filterMap (fullFeature sqrt thresholds.limits markerName) := by
  rw [enrichStableStreaks_eq_assign, gatherFeatures_eq]
  exact assign_of_distinct sqrt distinct fun c member =>
    measuredStreak_of_distinct sqrt distinct member thresholds.limits

/-- The thresholds depend on the values of the features alone, in any order. -/
theorem recommendThresholds_congr {features others : List MarkerFeature}
    (alike : (features.map MarkerFeature.values).Perm (others.map MarkerFeature.values)) :
    recommendThresholds features = recommendThresholds others := by
  have values (g : MarkerFeature → ℚ) (blind : ∀ f : MarkerFeature, g f.values = g f) :
      (features.map g).Perm (others.map g) := by
    have mapped := alike.map g
    rw [List.map_map, List.map_map] at mapped
    simpa only [Function.comp_def, blind] using mapped
  have same (g : MarkerFeature → ℚ) (blind : ∀ f : MarkerFeature, g f.values = g f) (q : ℚ) :
      quantile (features.map g) q = quantile (others.map g) q := quantile_perm (values g blind) q
  have empty : features.isEmpty = others.isEmpty := by
    have length := alike.length_eq
    rw [List.length_map, List.length_map] at length
    rw [Bool.eq_iff_iff, List.isEmpty_iff_length_eq_zero, List.isEmpty_iff_length_eq_zero, length]
  have hold : fitHoldSeconds features = fitHoldSeconds others := by
    have streaks := (values (·.stableStreakSeconds) fun _ => rfl).filter (0 < ·)
    have none : ((features.map (·.stableStreakSeconds)).filter (0 < ·)).isEmpty =
        ((others.map (·.stableStreakSeconds)).filter (0 < ·)).isEmpty := by
      rw [Bool.eq_iff_iff, List.isEmpty_iff_length_eq_zero, List.isEmpty_iff_length_eq_zero, streaks.length_eq]
    rw [fitHoldSeconds, fitHoldSeconds, none, quantile_perm streaks]
  rw [recommendThresholds, recommendThresholds, empty, hold, same (·.steadyGyroP90) fun _ => rfl,
    same (·.moveGyroPeak) fun _ => rfl, same (·.preGyroPeak) fun _ => rfl, same (·.steadyPitchAbsP10) fun _ => rfl,
    same (·.steadyPitchAbsP90) fun _ => rfl, same (·.steadyRollAbsP90) fun _ => rfl]

private theorem markerCases_cons (record : Record) (records : List Record) (markerName : List Char) :
    markerCases (record :: records) markerName = markerCases [record] markerName ++ markerCases records markerName := by
  rw [markerCases, markerCases, markerCases, ← List.flatMap_append, ← List.filter_append]
  rfl

private theorem markerCases_perm {records others : List Record} (shuffled : records.Perm others)
    (markerName : List Char) : (markerCases records markerName).Perm (markerCases others markerName) :=
  (shuffled.filter _).flatMap_right _

/-- What a record contributes stays the same when it is moved in time. -/
private theorem markerCases_shift (d : ℤ) (record : Record) (markerName : List Char) :
    markerCases [record.shift d] markerName =
      (markerCases [record] markerName).map fun c => (c.1.shift d, c.2.shift d) := by
  have used : (record.shift d).isUsed = record.isUsed := by
    simp [Record.isUsed, Record.shift]
  cases taken : record.isUsed with
  | false =>
    rw [taken] at used
    simp [markerCases, used, taken]
  | true =>
    rw [taken] at used
    have markers : (record.shift d).markerRows.filter (·.note = markerName) =
        (record.markerRows.filter (·.note = markerName)).map (MarkerRow.shift d) := by
      rw [Record.shift, List.filter_map]
      rfl
    simp [markerCases, used, taken, markers]

/-- A feature that is the same for a record and its marker at any time gives the same values for records that were
moved, each by its own amount. -/
private theorem values_of_shifted {records moved : List Record} {feature : Record × MarkerRow → Option MarkerFeature}
    (still : ∀ d c, (feature (c.1.shift d, c.2.shift d)).map MarkerFeature.values =
      (feature c).map MarkerFeature.values)
    (shifted : List.Forall₂ (fun record other => ∃ d, other = record.shift d) records moved) (markerName : List Char) :
    ((markerCases moved markerName).filterMap feature).map MarkerFeature.values =
      ((markerCases records markerName).filterMap feature).map MarkerFeature.values := by
  induction shifted with
  | nil => rfl
  | @cons record other records moved same _ ih =>
    obtain ⟨d, rfl⟩ := same
    rw [markerCases_cons, markerCases_cons record, List.filterMap_append, List.filterMap_append, List.map_append,
      List.map_append, ih, markerCases_shift, List.filterMap_map]
    congr 1
    rw [List.map_filterMap, List.map_filterMap]
    exact List.filterMap_congr fun c _ => still d c

private theorem plainFeature_still (markerName : List Char) (d : ℤ) (c : Record × MarkerRow) :
    (plainFeature sqrt markerName (c.1.shift d, c.2.shift d)).map MarkerFeature.values =
      (plainFeature sqrt markerName c).map MarkerFeature.values := by
  have shifted := extractFeaturesForMarker_shift sqrt d c.1.name c.1.imuRows c.2 markerName
  change (extractFeaturesForMarker sqrt c.1.name (c.1.imuRows.map (ImuRow.shift d)) (c.2.shift d) markerName).map _ = _
  rw [shifted, Option.map_map]
  rfl

private theorem fullFeature_still (limits : PoseLimits) (markerName : List Char) (d : ℤ) (c : Record × MarkerRow) :
    (fullFeature sqrt limits markerName (c.1.shift d, c.2.shift d)).map MarkerFeature.values =
      (fullFeature sqrt limits markerName c).map MarkerFeature.values := by
  have streak : stableStreakSeconds sqrt (c.1.shift d).imuRows (c.2.shift d).t limits =
      stableStreakSeconds sqrt c.1.imuRows c.2.t limits := stableStreakSeconds_shift sqrt d c.1.imuRows c.2.t limits
  have plain := congrArg (Option.map fun f : MarkerFeature =>
    { f with stableStreakSeconds := stableStreakSeconds sqrt c.1.imuRows c.2.t limits })
    (plainFeature_still sqrt markerName d c)
  rw [Option.map_map, Option.map_map] at plain
  rw [fullFeature, fullFeature, streak, Option.map_map, Option.map_map]
  exact plain

/-- Neither the order in which the records are read nor the times at which they were made enter the thresholds,
as long as the markers of both runs differ in file name or time. -/
theorem fit_invariant {records moved records' : List Record} (markerName : List Char)
    (shifted : List.Forall₂ (fun record other => ∃ d, other = record.shift d) records moved)
    (shuffled : moved.Perm records') (distinct : ((markerCases records markerName).map caseKey).Nodup)
    (distinct' : ((markerCases records' markerName).map caseKey).Nodup) :
    fit sqrt records' markerName = fit sqrt records markerName := by
  have alike {feature : Record × MarkerRow → Option MarkerFeature}
      (still : ∀ d c, (feature (c.1.shift d, c.2.shift d)).map MarkerFeature.values =
        (feature c).map MarkerFeature.values) :
      (((markerCases records' markerName).filterMap feature).map MarkerFeature.values).Perm
        (((markerCases records markerName).filterMap feature).map MarkerFeature.values) := by
    rw [← values_of_shifted still shifted markerName]
    exact (((markerCases_perm shuffled markerName).filterMap feature).map _).symm
  have firstPass : recommendThresholds (gatherFeatures sqrt records' markerName) =
      recommendThresholds (gatherFeatures sqrt records markerName) := by
    rw [gatherFeatures_eq, gatherFeatures_eq]
    exact recommendThresholds_congr (alike (plainFeature_still sqrt markerName))
  rw [fit, fit, firstPass, enrichStableStreaks_of_distinct sqrt distinct,
    enrichStableStreaks_of_distinct sqrt distinct']
  exact recommendThresholds_congr (alike (fullFeature_still sqrt _ markerName))

private theorem Record.shift_zero (record : Record) : record.shift 0 = record := by
  have rows : (ImuRow.shift 0 : ImuRow → ImuRow) = id := funext fun r => by simp [ImuRow.shift]
  have markers : (MarkerRow.shift 0) = id := funext fun m => by simp [MarkerRow.shift]
  rw [Record.shift, rows, markers, List.map_id, List.map_id]

/-- A hand held forty degrees up, recorded a day after the first one. -/
def laterRecord : Record := ⟨"later.csv".toList, (heldRecord 40).imuRows, (heldRecord 40).markerRows⟩

/-- The later record may be read first, and it may as well have been made on the first day. -/
theorem fit_invariant_swapped :
    fit integerSqrt [laterRecord.shift 86400000000, heldRecord 30] mouthHold =
      fit integerSqrt [heldRecord 30, laterRecord] mouthHold := by
  have moved : List.Forall₂ (fun record other => ∃ d, other = Record.shift d record) [heldRecord 30, laterRecord]
      [heldRecord 30, laterRecord.shift 86400000000] :=
    .cons ⟨0, (Record.shift_zero _).symm⟩ (.cons ⟨86400000000, rfl⟩ .nil)
  have distinct : ((markerCases [heldRecord 30, laterRecord] mouthHold).map caseKey).Nodup := by decide +kernel
  have distinct' : ((markerCases [laterRecord.shift 86400000000, heldRecord 30] mouthHold).map caseKey).Nodup := by
    decide +kernel
  exact fit_invariant integerSqrt mouthHold moved (.swap _ _ _) distinct distinct'

end GestureSuite.Fitter
