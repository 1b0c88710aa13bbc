import GestureSuite.Model.Fitter.Fit

/-! # The stable streak is the longest still suffix

The loop over the rows in front of a marker goes backwards and stops at the first row that is out of the
pose, moves too fast, or lies too far in front of the next one. What it has passed by then is the longest
suffix without such a row, and the streak is the time it spans.
-/

namespace GestureSuite.Fitter

variable (sqrt : ℚ → ℚ) (limits : PoseLimits)

/-- The later of two neighbouring rows comes at most 0.09 seconds after the other. -/
def Close (later earlier : ImuRow) : Prop := totalSeconds (later.t - earlier.t) ≤ 0.09

/-- Every row is in the pose and still, and neighbours are close. -/
def StillRows (rows : List ImuRow) : Prop :=
  (∀ r ∈ rows, limits.admits sqrt r = true) ∧ rows.IsChain fun earlier later => Close later earlier

/-- The longest suffix of still rows. -/
def IsStillSuffix (rows streak : List ImuRow) : Prop :=
  streak <:+ rows ∧ StillRows sqrt limits streak ∧
    ∀ other, other <:+ rows → StillRows sqrt limits other → other <:+ streak

/-- The time from the first to the last row. -/
def spanSeconds (rows : List ImuRow) : ℚ :=
  match rows.head?, rows.getLast? with
  | some first, some last => totalSeconds (last.t - first.t)
  | _, _ => 0

/-- The rows in front of a marker, in the order of their times; rows of one time keep their order. -/
def streakWindow (rows : List ImuRow) (markerTime : ℤ) : List ImuRow :=
  (selectWindow rows (markerTime - milliseconds 1000) markerTime).insertionSort (·.t ≤ ·.t)

/-- The rows the loop passes, the last one first. -/
private def passed : Option ImuRow → List ImuRow → List ImuRow
  | _, [] => []
  | later, r :: earlier =>
    if !limits.admits sqrt r then []
    else if later.any fun next => 0.09 < totalSeconds (next.t - r.t) then []
    else r :: passed (some r) earlier

private theorem streakStart_eq (later : Option ImuRow) (start : ℤ) (rows : List ImuRow) :
    streakStart sqrt limits later start rows = ((passed sqrt limits later rows).getLast?.map (·.t)).getD start := by
  induction rows generalizing later start with
  | nil => rfl
  | cons r earlier ih =>
    rw [streakStart, passed]
    split_ifs
    · rfl
    · rfl
    · rw [ih, List.getLast?_cons]
      cases (passed sqrt limits (some r) earlier).getLast? <;> rfl

/-- The gap test of the loop. -/
private theorem any_gap_iff (later : Option ImuRow) (r : ImuRow) (rows : List ImuRow) :
    (later.toList ++ r :: rows).IsChain Close ↔
      later.any (fun next => 0.09 < totalSeconds (next.t - r.t)) = false ∧ (r :: rows).IsChain Close := by
  cases later with
  | none => simp
  | some next => simp [Close, List.isChain_cons_cons]

private theorem passed_spec (later : Option ImuRow) (rows : List ImuRow) :
    passed sqrt limits later rows <+: rows ∧ (∀ r ∈ passed sqrt limits later rows, limits.admits sqrt r = true) ∧
      (later.toList ++ passed sqrt limits later rows).IsChain Close := by
  have alone : (later.toList ++ []).IsChain Close := by cases later <;> simp
  induction rows generalizing later with
  | nil => exact ⟨List.nil_prefix, by simp [passed], alone⟩
  | cons r earlier ih =>
    rw [passed]
    split_ifs with rejected far
    · exact ⟨List.nil_prefix, by simp, alone⟩
    · exact ⟨List.nil_prefix, by simp, alone⟩
    · obtain ⟨front, admitted, close⟩ := ih (some r) (by simp)
      refine ⟨List.cons_prefix_cons.mpr ⟨rfl, front⟩, ?_, ?_⟩
      · exact List.forall_mem_cons.mpr ⟨by simpa using rejected, admitted⟩
      · exact (any_gap_iff later r _).mpr ⟨Bool.eq_false_iff.mpr far, close⟩

/-- The loop stops no earlier than it has to. -/
private theorem prefix_passed (later : Option ImuRow) {rows front : List ImuRow} (cut : front <+: rows)
    (admitted : ∀ r ∈ front, limits.admits sqrt r = true) (close : (later.toList ++ front).IsChain Close) :
    front <+: passed sqrt limits later rows := by
  induction rows generalizing later front with
  | nil =>
    rw [List.prefix_nil.mp cut]
    exact List.nil_prefix
  | cons r earlier ih =>
    cases front with
    | nil => exact List.nil_prefix
    | cons first more =>
      obtain ⟨rfl, tail⟩ := List.cons_prefix_cons.mp cut
      obtain ⟨here, there⟩ := List.forall_mem_cons.mp admitted
      obtain ⟨near, chain⟩ := (any_gap_iff later first more).mp close
      rw [passed, here, near]
      exact List.cons_prefix_cons.mpr ⟨rfl, ih (some first) tail there chain⟩

private theorem stillRows_reverse (rows : List ImuRow) :
    StillRows sqrt limits rows.reverse ↔ (∀ r ∈ rows, limits.admits sqrt r = true) ∧ rows.IsChain Close := by
  simp only [StillRows, List.mem_reverse, List.isChain_reverse]

/-- The rows the loop passes are the longest still suffix. -/
private theorem passed_isStillSuffix (rows : List ImuRow) :
    IsStillSuffix sqrt limits rows (passed sqrt limits none rows.reverse).reverse := by
  obtain ⟨front, admitted, close⟩ := passed_spec sqrt limits none rows.reverse
  refine ⟨?_, (stillRows_reverse sqrt limits _).mpr ⟨admitted, close⟩, ?_⟩
  · rw [← List.reverse_prefix, List.reverse_reverse]
    exact front
  · intro other suffix still
    rw [← List.reverse_reverse other, stillRows_reverse] at still
    rw [← List.reverse_prefix, List.reverse_reverse]
    exact prefix_passed sqrt limits none (List.reverse_prefix.mpr suffix) still.1 still.2

private theorem totalSeconds_le {a b : ℤ} (order : a ≤ b) : totalSeconds a ≤ totalSeconds b := by
  unfold totalSeconds
  exact div_le_div_of_nonneg_right (by exact_mod_cast order) (by norm_num)

private theorem spanSeconds_cons (first : ImuRow) (rest : List ImuRow) :
    ∃ last ∈ (first :: rest).getLast?, spanSeconds (first :: rest) = totalSeconds (last.t - first.t) := by
  refine ⟨rest.getLast?.getD first, by rw [List.getLast?_cons]; rfl, ?_⟩
  rw [spanSeconds, List.getLast?_cons]
  rfl

private theorem spanSeconds_nonneg {rows : List ImuRow} (sorted : rows.Pairwise (·.t ≤ ·.t)) :
    0 ≤ spanSeconds rows := by
  cases rows with
  | nil => exact le_refl _
  | cons first rest =>
    obtain ⟨last, isLast, span⟩ := spanSeconds_cons first rest
    have order : first.t ≤ last.t := by
      rcases List.mem_cons.mp (List.mem_of_getLast? isLast) with rfl | later
      · exact le_refl _
      · exact (List.pairwise_cons.mp sorted).1 last later
    have zero : totalSeconds 0 = 0 := by simp [totalSeconds]
    rw [span, ← zero]
    exact totalSeconds_le (by omega)

/-- A longer suffix of rows in order starts no later and ends with the same row. -/
private theorem spanSeconds_le_of_suffix {streak rows : List ImuRow} (sorted : rows.Pairwise (·.t ≤ ·.t))
    (suffix : streak <:+ rows) : spanSeconds streak ≤ spanSeconds rows := by
  cases streak with
  | nil => exact spanSeconds_nonneg sorted
  | cons first rest =>
    obtain ⟨before, rfl⟩ := suffix
    obtain ⟨last, isLast, span⟩ := spanSeconds_cons first rest
    cases before with
    | nil => exact le_refl _
    | cons start more =>
      obtain ⟨end_, isEnd, whole⟩ := spanSeconds_cons start (more ++ first :: rest)
      have same : last = end_ := by
        rw [← List.cons_append, List.getLast?_append_of_ne_nil _ (List.cons_ne_nil _ _)] at isEnd
        exact Option.mem_unique isLast isEnd
      have order : start.t ≤ first.t := (List.pairwise_cons.mp sorted).1 first (by simp)
      rw [span, List.cons_append, whole, ← same]
      exact totalSeconds_le (by omega)

private theorem streakWindow_sorted (rows : List ImuRow) (markerTime : ℤ) :
    (streakWindow rows markerTime).Pairwise (·.t ≤ ·.t) := by
  have : Std.Total fun a b : ImuRow => a.t ≤ b.t := ⟨fun a b => le_total a.t b.t⟩
  have : IsTrans ImuRow fun a b => a.t ≤ b.t := ⟨fun _ _ _ => le_trans⟩
  exact List.pairwise_insertionSort _ _

private theorem spanSeconds_streakWindow_le (rows : List ImuRow) (markerTime : ℤ) :
    spanSeconds (streakWindow rows markerTime) ≤ 1 := by
  have inside : ∀ r ∈ streakWindow rows markerTime, markerTime - milliseconds 1000 ≤ r.t ∧ r.t ≤ markerTime := by
    intro r member
    have selected := List.of_mem_filter ((List.mem_insertionSort _).mp member)
    simpa using selected
  cases window : streakWindow rows markerTime with
  | nil => exact zero_le_one
  | cons first rest =>
    obtain ⟨last, isLast, span⟩ := spanSeconds_cons first rest
    rw [window] at inside
    have low := (inside first List.mem_cons_self).1
    have high := (inside last (List.mem_of_getLast? isLast)).2
    have one : totalSeconds (milliseconds 1000) = 1 := by norm_num [totalSeconds, milliseconds]
    rw [span, ← one]
    exact totalSeconds_le (by omega)

/-- The code's result is the span of the rows the loop passes. -/
private theorem stableStreakSeconds_eq (rows : List ImuRow) (markerTime : ℤ) :
    stableStreakSeconds sqrt rows markerTime limits =
      spanSeconds (passed sqrt limits none (streakWindow rows markerTime).reverse).reverse := by
  have suffix := (passed_isStillSuffix sqrt limits (streakWindow rows markerTime)).1
  have nonneg := spanSeconds_nonneg ((streakWindow_sorted rows markerTime).sublist suffix.sublist)
  cases found : (streakWindow rows markerTime).getLast? with
  | none =>
    have value : stableStreakSeconds sqrt rows markerTime limits = 0 := by
      rw [streakWindow] at found
      simp only [stableStreakSeconds, found]
    rw [value, List.getLast?_eq_none_iff.mp found]
    rfl
  | some last =>
    have value : stableStreakSeconds sqrt rows markerTime limits = max 0 (totalSeconds (last.t -
        streakStart sqrt limits none last.t (streakWindow rows markerTime).reverse)) := by
      rw [streakWindow] at found ⊢
      simp only [stableStreakSeconds, found]
    rw [value, streakStart_eq]
    cases run : passed sqrt limits none (streakWindow rows markerTime).reverse with
    | nil => simp [totalSeconds, spanSeconds]
    | cons latest earlier =>
      have front := (passed_spec sqrt limits none (streakWindow rows markerTime).reverse).1
      have same : latest = last := by
        rw [run] at front
        obtain ⟨more, whole⟩ := front
        have head := congrArg List.head? whole
        rw [List.head?_reverse, found] at head
        exact Option.some.inj head
      have span : spanSeconds (latest :: earlier).reverse =
          totalSeconds (last.t - (earlier.getLast?.getD latest).t) := by
        rw [spanSeconds, List.head?_reverse, List.getLast?_reverse, List.getLast?_cons, same]
        rfl
      rw [run, span] at nonneg
      rw [span, List.getLast?_cons]
      exact max_eq_right nonneg

/-- The second limits admit whatever the first ones do. -/
def PoseLimits.Looser (limits looser : PoseLimits) : Prop :=
  limits.stillGyro ≤ looser.stillGyro ∧ looser.pitchMin ≤ limits.pitchMin ∧ limits.pitchMax ≤ looser.pitchMax ∧
    limits.rollMax ≤ looser.rollMax

private theorem PoseLimits.Looser.stillRows {limits looser : PoseLimits} (order : limits.Looser looser)
    {rows : List ImuRow} (still : StillRows sqrt limits rows) : StillRows sqrt looser rows := by
  obtain ⟨gyro, pitchMin, pitchMax, roll⟩ := order
  refine ⟨fun r member => ?_, still.2⟩
  have admitted := still.1 r member
  simp only [PoseLimits.admits, Bool.and_eq_true, decide_eq_true_eq] at admitted ⊢
  obtain ⟨⟨⟨low, high⟩, rolled⟩, slow⟩ := admitted
  exact ⟨⟨⟨pitchMin.trans low, high.trans pitchMax⟩, rolled.trans roll⟩, slow.trans gyro⟩

/-- The stable streak spans the longest still suffix of the rows in front of the marker, lasts at most a
second, and does not get shorter with looser limits. -/
theorem stableStreakSeconds_maximal (rows : List ImuRow) (markerTime : ℤ) :
    (∃ streak, IsStillSuffix sqrt limits (streakWindow rows markerTime) streak ∧
      stableStreakSeconds sqrt rows markerTime limits = spanSeconds streak) ∧
    0 ≤ stableStreakSeconds sqrt rows markerTime limits ∧ stableStreakSeconds sqrt rows markerTime limits ≤ 1 ∧
    ∀ looser, limits.Looser looser →
      stableStreakSeconds sqrt rows markerTime limits ≤ stableStreakSeconds sqrt rows markerTime looser := by
  have sorted := streakWindow_sorted rows markerTime
  have maximal (some : PoseLimits) := passed_isStillSuffix sqrt some (streakWindow rows markerTime)
  have ordered (some : PoseLimits) := sorted.sublist (maximal some).1.sublist
  rw [stableStreakSeconds_eq]
  refine ⟨⟨_, maximal limits, rfl⟩, spanSeconds_nonneg (ordered limits), ?_, ?_⟩
  · exact (spanSeconds_le_of_suffix sorted (maximal limits).1).trans (spanSeconds_streakWindow_le rows markerTime)
  · intro looser order
    rw [stableStreakSeconds_eq]
    apply spanSeconds_le_of_suffix (ordered looser)
    exact (maximal looser).2.2 _ (maximal limits).1 (order.stillRows sqrt (maximal limits).2.1)

end GestureSuite.Fitter
