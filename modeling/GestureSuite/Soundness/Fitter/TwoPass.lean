import GestureSuite.Soundness.Fitter.Thresholds

/-! # The second pass of the fit changes nothing it depends on

The second pass writes streaks into the features through a dictionary, and the thresholds are computed once
more. The pass is one assignment by key to the last feature of every key: it gives the streak of the last marker
with that key. So it may be repeated, and the limits the streaks are measured with do not depend on streaks.
-/

namespace GestureSuite.Fitter

/-- What a feature is found by in the dictionary. -/
def MarkerFeature.key (f : MarkerFeature) : List Char × ℤ := (f.file, f.markerTime)

/-- Give the last feature of every key the streak the lookup has for it. -/
def assign (lookup : List Char × ℤ → Option ℚ) : List MarkerFeature → List MarkerFeature
  | [] => []
  | f :: rest =>
    (if f.key ∈ rest.map MarkerFeature.key then f
      else { f with stableStreakSeconds := (lookup f.key).getD f.stableStreakSeconds }) :: assign lookup rest

private theorem assign_none (features : List MarkerFeature) : assign (fun _ => none) features = features := by
  induction features with
  | nil => rfl
  | cons f rest ih =>
    rw [assign, ih]
    split_ifs <;> rfl

/-- What no streak enters is left as it is. -/
private theorem map_assign {β : Type} {g : MarkerFeature → β}
    (blind : ∀ f s, g { f with stableStreakSeconds := s } = g f)
    (lookup : List Char × ℤ → Option ℚ) (features : List MarkerFeature) :
    (assign lookup features).map g = features.map g := by
  induction features with
  | nil => rfl
  | cons f rest ih =>
    rw [assign, List.map_cons, List.map_cons, ih]
    split_ifs
    · rfl
    · rw [blind]

/-- What holds with every streak, the old ones and those of the lookup, holds after an assignment. -/
theorem assign_induction {motive : ℚ → Prop} {lookup : List Char × ℤ → Option ℚ} {features : List MarkerFeature}
    (before : ∀ f ∈ features, motive f.stableStreakSeconds)
    (found : ∀ key streak, lookup key = some streak → motive streak) :
    ∀ f ∈ assign lookup features, motive f.stableStreakSeconds := by
  induction features with
  | nil => exact before
  | cons f rest ih =>
    obtain ⟨here, later⟩ := List.forall_mem_cons.mp before
    rw [assign]
    refine List.forall_mem_cons.mpr ⟨?_, ih later⟩
    split_ifs
    · exact here
    · cases written : lookup f.key with
      | none => exact here
      | some streak => exact found f.key streak written

/-- Two assignments are one, in which the later lookup comes first. -/
private theorem assign_assign (first second : List Char × ℤ → Option ℚ) (features : List MarkerFeature) :
    assign second (assign first features) = assign (fun key => (second key).or (first key)) features := by
  induction features with
  | nil => rfl
  | cons f rest ih =>
    have keys : (assign first rest).map MarkerFeature.key = rest.map MarkerFeature.key :=
      map_assign (fun _ _ => rfl) first rest
    rw [assign, assign, assign, ih, keys]
    by_cases again : f.key ∈ rest.map MarkerFeature.key
    · simp only [if_pos again]
    · have same :
          MarkerFeature.key { f with stableStreakSeconds := (first f.key).getD f.stableStreakSeconds } = f.key :=
        rfl
      simp only [if_neg again, same]
      cases second f.key <;> rfl

private theorem assign_idempotent (lookup : List Char × ℤ → Option ℚ) (features : List MarkerFeature) :
    assign lookup (assign lookup features) = assign lookup features := by
  rw [assign_assign]
  simp only [Option.or_self]

/-- The lookup of a single write. -/
private def single (written : List Char × ℤ) (streak : ℚ) (key : List Char × ℤ) : Option ℚ :=
  if key = written then some streak else none

private theorem assign_single_of_absent {written : List Char × ℤ} {features : List MarkerFeature}
    (absent : written ∉ features.map MarkerFeature.key) (streak : ℚ) :
    assign (single written streak) features = features := by
  induction features with
  | nil => rfl
  | cons f rest ih =>
    rw [List.map_cons, List.mem_cons, not_or] at absent
    have other : single written streak f.key = none := if_neg fun same => absent.1 same.symm
    rw [assign, ih absent.2, other]
    split_ifs <;> rfl

private theorem setStreak_eq_assign (file : List Char) (t : ℤ) (streak : ℚ) (features : List MarkerFeature) :
    setStreak file t streak features = assign (single (file, t) streak) features := by
  induction features with
  | nil => rfl
  | cons f rest ih =>
    have last : rest.all (fun g => !(g.file = file && g.markerTime = t)) = true ↔
        (file, t) ∉ rest.map MarkerFeature.key := by
      simp [MarkerFeature.key, imp_iff_not_or]
    have named : (f.file = file ∧ f.markerTime = t) ↔ f.key = (file, t) := by simp [MarkerFeature.key]
    rw [setStreak, assign]
    by_cases mine : f.key = (file, t)
    · by_cases later : (file, t) ∈ rest.map MarkerFeature.key
      · rw [if_neg fun both => last.mp both.2 later, mine, if_pos later, ih]
      · have found : single (file, t) streak (file, t) = some streak := if_pos rfl
        rw [if_pos ⟨named.mpr mine, last.mpr later⟩, mine, if_neg later, assign_single_of_absent later, found]
        rfl
    · have other : single (file, t) streak f.key = none := if_neg mine
      rw [if_neg fun both => mine (named.mp both.1), ih, other]
      split_ifs <;> rfl

/-- The markers that both passes look at, with their records. -/
def markerCases (records : List Record) (markerName : List Char) : List (Record × MarkerRow) :=
  (records.filter (·.isUsed)).flatMap fun record =>
    (record.markerRows.filter (·.note = markerName)).map fun marker => (record, marker)

/-- What the second pass finds a feature by. -/
def caseKey (c : Record × MarkerRow) : List Char × ℤ := (c.1.name, c.2.t)

/-- The streak in front of a marker. -/
def caseStreak (sqrt : ℚ → ℚ) (limits : PoseLimits) (c : Record × MarkerRow) : ℚ :=
  stableStreakSeconds sqrt c.1.imuRows c.2.t limits

/-- What the last marker of a key writes. -/
def measuredStreak (sqrt : ℚ → ℚ) (limits : PoseLimits) (cases : List (Record × MarkerRow)) (key : List Char × ℤ) :
    Option ℚ := (cases.reverse.find? (caseKey · = key)).map (caseStreak sqrt limits)

private theorem measuredStreak_cons (sqrt : ℚ → ℚ) (limits : PoseLimits) (c : Record × MarkerRow)
    (cases : List (Record × MarkerRow)) (key : List Char × ℤ) :
    measuredStreak sqrt limits (c :: cases) key =
      (measuredStreak sqrt limits cases key).or (single (caseKey c) (caseStreak sqrt limits c) key) := by
  rw [measuredStreak, measuredStreak, List.reverse_cons, List.find?_append, Option.map_or, single]
  by_cases same : caseKey c = key
  · simp [same]
  · simp [same, Ne.symm same]

theorem measuredStreak_isSome {c : Record × MarkerRow} {cases : List (Record × MarkerRow)} (sqrt : ℚ → ℚ)
    (limits : PoseLimits) (member : c ∈ cases) :
    ∃ d ∈ cases, caseKey d = caseKey c ∧
      measuredStreak sqrt limits cases (caseKey c) = some (caseStreak sqrt limits d) := by
  have found : (cases.reverse.find? (caseKey · = caseKey c)).isSome = true := by
    rw [List.find?_isSome]
    exact ⟨c, List.mem_reverse.mpr member, decide_eq_true rfl⟩
  obtain ⟨d, last⟩ := Option.isSome_iff_exists.mp found
  have same : caseKey d = caseKey c := by simpa using List.find?_some last
  refine ⟨d, List.mem_reverse.mp (List.mem_of_find?_eq_some last), same, ?_⟩
  rw [measuredStreak, last, Option.map_some]

theorem of_measuredStreak_eq_some {sqrt : ℚ → ℚ} {limits : PoseLimits} {cases : List (Record × MarkerRow)}
    {key : List Char × ℤ} {streak : ℚ} (found : measuredStreak sqrt limits cases key = some streak) :
    ∃ c ∈ cases, caseStreak sqrt limits c = streak := by
  obtain ⟨c, last, same⟩ := Option.map_eq_some_iff.mp found
  exact ⟨c, List.mem_reverse.mp (List.mem_of_find?_eq_some last), same⟩

private theorem foldl_setStreak_eq_assign (sqrt : ℚ → ℚ) (limits : PoseLimits) (cases : List (Record × MarkerRow))
    (features : List MarkerFeature) :
    cases.foldl (fun enriched c => setStreak c.1.name c.2.t (caseStreak sqrt limits c) enriched) features =
      assign (measuredStreak sqrt limits cases) features := by
  induction cases generalizing features with
  | nil => exact (assign_none features).symm
  | cons c rest ih =>
    rw [List.foldl_cons, ih, setStreak_eq_assign, assign_assign]
    congr 1
    funext key
    exact (measuredStreak_cons sqrt limits c rest key).symm

/-- The second pass gives the last feature of every key the streak of the last marker with that key. -/
theorem enrichStableStreaks_eq_assign (sqrt : ℚ → ℚ) (records : List Record) (markerName : List Char)
    (features : List MarkerFeature) (thresholds : Thresholds) :
    enrichStableStreaks sqrt records markerName features thresholds =
      assign (measuredStreak sqrt thresholds.limits (markerCases records markerName)) features := by
  rw [← foldl_setStreak_eq_assign, enrichStableStreaks, markerCases, List.foldl_flatMap]
  simp only [List.foldl_map, caseStreak]

/-- Every feature belongs to a marker that the second pass looks at. -/
theorem exists_markerCase {sqrt : ℚ → ℚ} {records : List Record} {markerName : List Char} {feature : MarkerFeature}
    (member : feature ∈ gatherFeatures sqrt records markerName) :
    ∃ c ∈ markerCases records markerName, caseKey c = feature.key := by
  obtain ⟨record, inRecords, used, marker, inMarkers, extracted⟩ := mem_gatherFeatures.mp member
  obtain ⟨named, -, -, rfl⟩ := extractFeaturesForMarker_eq_some extracted
  refine ⟨(record, marker), List.mem_flatMap.mpr ⟨record, List.mem_filter.mpr ⟨inRecords, used⟩, ?_⟩, rfl⟩
  exact List.mem_map.mpr ⟨marker, List.mem_filter.mpr ⟨inMarkers, decide_eq_true named⟩, rfl⟩

theorem of_mem_markerCases {records : List Record} {markerName : List Char} {c : Record × MarkerRow}
    (member : c ∈ markerCases records markerName) : c.1 ∈ records ∧ c.2 ∈ c.1.markerRows ∧ c.2.note = markerName := by
  obtain ⟨record, inRecords, inCases⟩ := List.mem_flatMap.mp member
  obtain ⟨marker, inMarkers, rfl⟩ := List.mem_map.mp inCases
  obtain ⟨inRows, named⟩ := List.mem_filter.mp inMarkers
  exact ⟨List.mem_of_mem_filter inRecords, inRows, of_decide_eq_true named⟩

/-- The second pass reads the limits only. -/
private theorem enrichStableStreaks_congr (sqrt : ℚ → ℚ) (records : List Record) (markerName : List Char)
    (features : List MarkerFeature) {thresholds others : Thresholds} (same : thresholds.limits = others.limits) :
    enrichStableStreaks sqrt records markerName features thresholds =
      enrichStableStreaks sqrt records markerName features others := by
  unfold enrichStableStreaks
  rw [same]

/-- Streaks enter the two times only. -/
private theorem recommendThresholds_assign (lookup : List Char × ℤ → Option ℚ) (features : List MarkerFeature) :
    recommendThresholds (assign lookup features) =
      { recommendThresholds features with
        holdSeconds := (recommendThresholds (assign lookup features)).holdSeconds
        cooldownSeconds := (recommendThresholds (assign lookup features)).cooldownSeconds } := by
  have blind {β : Type} (g : MarkerFeature → β) (unread : ∀ f s, g { f with stableStreakSeconds := s } = g f) :=
    map_assign unread lookup features
  have empty : (assign lookup features).isEmpty = features.isEmpty := by
    cases features <;> rfl
  unfold recommendThresholds
  rw [empty]
  split
  · rfl
  · rw [blind (·.steadyGyroP90) fun _ _ => rfl, blind (·.moveGyroPeak) fun _ _ => rfl,
      blind (·.preGyroPeak) fun _ _ => rfl, blind (·.steadyPitchAbsP10) fun _ _ => rfl,
      blind (·.steadyPitchAbsP90) fun _ _ => rfl, blind (·.steadyRollAbsP90) fun _ _ => rfl]

/-- The thresholds that are reported differ from those of the first pass in the two times only, so the streaks
were measured with the limits that are reported: the last feature of every key carries the streak that the last
marker with that key has under them. One more pass with the reported thresholds changes neither a feature nor a
threshold. -/
theorem fit_fixedPoint (sqrt : ℚ → ℚ) (records : List Record) (markerName : List Char) :
    let gathered := gatherFeatures sqrt records markerName
    let firstPass := recommendThresholds gathered
    let features := enrichStableStreaks sqrt records markerName gathered firstPass
    let final := fit sqrt records markerName
    let measured := measuredStreak sqrt final.limits (markerCases records markerName)
    final = { firstPass with holdSeconds := final.holdSeconds, cooldownSeconds := final.cooldownSeconds } ∧
      features = enrichStableStreaks sqrt records markerName gathered final ∧
      enrichStableStreaks sqrt records markerName features final = features ∧
      recommendThresholds (enrichStableStreaks sqrt records markerName features final) = final ∧
      features = assign measured gathered ∧
      ∀ feature ∈ gathered, ∃ record ∈ records, ∃ marker ∈ record.markerRows, marker.note = markerName ∧
        (record.name, marker.t) = feature.key ∧
        measured feature.key = some (stableStreakSeconds sqrt record.imuRows marker.t final.limits) := by
  intro gathered firstPass features final measured
  have kept : final = { firstPass with
      holdSeconds := final.holdSeconds, cooldownSeconds := final.cooldownSeconds } := by
    change recommendThresholds (enrichStableStreaks sqrt records markerName gathered firstPass) = _
    rw [enrichStableStreaks_eq_assign, recommendThresholds_assign, ← enrichStableStreaks_eq_assign]
    rfl
  have limits : firstPass.limits = final.limits := by
    rw [kept]
    rfl
  have written : features = assign measured gathered := by
    change enrichStableStreaks sqrt records markerName gathered firstPass = _
    rw [enrichStableStreaks_eq_assign, limits]
  have again : enrichStableStreaks sqrt records markerName features final = features := by
    rw [enrichStableStreaks_eq_assign, written, assign_idempotent]
  refine ⟨kept, enrichStableStreaks_congr sqrt records markerName gathered limits, again, ?_, written, ?_⟩
  · rw [again]
    rfl
  · intro feature member
    obtain ⟨c, inCases, key⟩ := exists_markerCase member
    obtain ⟨d, among, same, streak⟩ := measuredStreak_isSome sqrt final.limits inCases
    obtain ⟨inRecords, inMarkers, named⟩ := of_mem_markerCases among
    exact ⟨d.1, inRecords, d.2, inMarkers, named, same.trans key, key ▸ streak⟩

end GestureSuite.Fitter
