import GestureSuite.Model.Fitter.Fit
import GestureSuite.ToMathlib.Interpolation
import GestureSuite.ToMathlib.ListForall

/-! # The script's quantile and its rounding

`quantile` is the polygon through the sorted values, its two outer branches included, so it lies between
the values and increases with the level and with the values. `round` goes to the nearest multiple.
-/

namespace GestureSuite.Fitter

private theorem foldr_min_spec (b : ℚ) (values : List ℚ) :
    values.foldr min b ∈ b :: values ∧ ∀ v ∈ b :: values, values.foldr min b ≤ v := by
  induction values with
  | nil => simp
  | cons v rest ih =>
    obtain ⟨member, least⟩ := ih
    rw [List.foldr_cons]
    constructor
    · rcases min_choice v (rest.foldr min b) with first | later
      · rw [first]
        simp
      · rw [later]
        rcases List.mem_cons.mp member with start | inside
        · rw [start]
          simp
        · exact List.mem_cons_of_mem b (List.mem_cons_of_mem v inside)
    · intro w inside
      rcases List.mem_cons.mp inside with rfl | inside
      · exact (min_le_right _ _).trans (least w List.mem_cons_self)
      rcases List.mem_cons.mp inside with rfl | later
      · exact min_le_left _ _
      · exact (min_le_right _ _).trans (least w (List.mem_cons_of_mem b later))

private theorem foldr_max_eq (b : ℚ) (values : List ℚ) :
    values.foldr max b = -(values.map fun v => -v).foldr min (-b) := by
  induction values with
  | nil => simp
  | cons v rest ih =>
    rw [List.foldr_cons, ih, List.map_cons, List.foldr_cons, ← neg_neg v, max_neg_neg, neg_neg v]

theorem listMin_spec {values : List ℚ} (nonempty : values ≠ []) :
    listMin values ∈ values ∧ ∀ v ∈ values, listMin values ≤ v := by
  obtain ⟨first, rest, rfl⟩ := List.exists_cons_of_ne_nil nonempty
  obtain ⟨member, least⟩ := foldr_min_spec first (first :: rest)
  refine ⟨?_, fun v inside => least v (List.mem_cons_of_mem first inside)⟩
  rcases List.mem_cons.mp member with start | inside
  · change (first :: rest).foldr min first ∈ _
    rw [start]
    exact List.mem_cons_self
  · exact inside

theorem listMax_spec {values : List ℚ} (nonempty : values ≠ []) :
    listMax values ∈ values ∧ ∀ v ∈ values, v ≤ listMax values := by
  obtain ⟨first, rest, rfl⟩ := List.exists_cons_of_ne_nil nonempty
  have negated : listMax (first :: rest) = -listMin ((first :: rest).map fun v => -v) := foldr_max_eq _ _
  obtain ⟨member, least⟩ := listMin_spec (show (first :: rest).map (fun v => -v) ≠ [] by simp)
  rw [negated]
  constructor
  · obtain ⟨v, inside, same⟩ := List.mem_map.mp member
    rw [← same, neg_neg]
    exact inside
  · intro v inside
    exact le_neg.mp (least (-v) (List.mem_map_of_mem inside))

private theorem getD_mem {values : List ℚ} {i : ℕ} (bound : i < values.length) :
    (values.insertionSort (· ≤ ·)).getD i 0 ∈ values := by
  rw [List.getD_eq_getElem _ _ (by rwa [List.length_insertionSort])]
  exact (List.mem_insertionSort _).mp (List.getElem_mem _)

private theorem exists_getD {values : List ℚ} {v : ℚ} (member : v ∈ values) :
    ∃ i < values.length, (values.insertionSort (· ≤ ·)).getD i 0 = v := by
  obtain ⟨i, within, value⟩ := List.getElem_of_mem ((List.mem_insertionSort (· ≤ ·)).mpr member)
  refine ⟨i, by rwa [List.length_insertionSort] at within, ?_⟩
  rw [List.getD_eq_getElem _ _ within, value]

private theorem getD_le_getD {values : List ℚ} {i j : ℕ} (order : i ≤ j) (bound : j < values.length) :
    (values.insertionSort (· ≤ ·)).getD i 0 ≤ (values.insertionSort (· ≤ ·)).getD j 0 :=
  (List.pairwise_insertionSort _ _).getD_le order (by rwa [List.length_insertionSort])

/-- The position of the quantile between the sorted values. -/
private def position (values : List ℚ) (q : ℚ) : ℚ := ((values.length : ℚ) - 1) * max 0 (min 1 q)

section Position

variable {values : List ℚ} (nonempty : values ≠ []) (q : ℚ)

include nonempty

private theorem one_le_length : (1 : ℚ) ≤ values.length := by
  exact_mod_cast List.length_pos_iff.mpr nonempty

private theorem position_nonneg : 0 ≤ position values q :=
  mul_nonneg (sub_nonneg.mpr (one_le_length nonempty)) (le_max_left _ _)

private theorem position_inside : position values q ≤ (values.insertionSort (· ≤ ·)).length - 1 := by
  have level : max 0 (min 1 q) ≤ 1 := max_le zero_le_one (min_le_left _ _)
  have scaled := mul_le_mul_of_nonneg_left level (sub_nonneg.mpr (one_le_length nonempty))
  rw [List.length_insertionSort, position]
  linarith

private theorem position_mono {p q : ℚ} (order : p ≤ q) : position values p ≤ position values q :=
  mul_le_mul_of_nonneg_left (max_le_max le_rfl (min_le_min le_rfl order)) (sub_nonneg.mpr (one_le_length nonempty))

private theorem listMin_eq : listMin values = (values.insertionSort (· ≤ ·)).getD 0 0 := by
  obtain ⟨member, least⟩ := listMin_spec nonempty
  obtain ⟨i, within, value⟩ := exists_getD member
  apply le_antisymm
  · exact least _ (getD_mem (List.length_pos_iff.mpr nonempty))
  · rw [← value]
    exact getD_le_getD (Nat.zero_le i) within

private theorem listMax_eq : listMax values = (values.insertionSort (· ≤ ·)).getD (values.length - 1) 0 := by
  have size := List.length_pos_iff.mpr nonempty
  obtain ⟨member, greatest⟩ := listMax_spec nonempty
  obtain ⟨i, within, value⟩ := exists_getD member
  apply le_antisymm
  · rw [← value]
    exact getD_le_getD (by omega) (by omega)
  · exact greatest _ (getD_mem (by omega))

/-- All branches of `quantile` are one polygon. -/
private theorem quantile_eq_interpolate :
    quantile values q = (values.insertionSort (· ≤ ·)).interpolate (position values q) := by
  rw [quantile]
  rw [if_neg (by simpa using nonempty)]
  split_ifs with low high
  · have start : position values q = 0 := by
      rw [position, max_eq_left (min_le_of_right_le low), mul_zero]
    rw [listMin_eq nonempty, start]
    simp [List.interpolate]
  · have stop : position values q = ((values.length - 1 : ℕ) : ℚ) := by
      rw [position, min_eq_left high, max_eq_right zero_le_one, mul_one,
        Nat.cast_sub (List.length_pos_iff.mpr nonempty), Nat.cast_one]
    rw [listMax_eq nonempty, stop]
    simp [List.interpolate]
  · have inner : ((values.insertionSort (· ≤ ·)).length - 1 : ℚ) * q = position values q := by
      rw [position, min_eq_right (not_le.mp high).le, max_eq_right (not_le.mp low).le, List.length_insertionSort]
    have floor : ((⌊position values q⌋.toNat : ℕ) : ℚ) = (⌊position values q⌋ : ℚ) := by
      exact_mod_cast Int.toNat_of_nonneg (Int.floor_nonneg.mpr (position_nonneg nonempty q))
    dsimp only
    rw [inner, List.interpolate, Int.fract, ← floor]
    split_ifs with corner
    · rw [← corner]
      ring
    · rfl

end Position

/-- A quantile is no smaller than a lower bound of the values. -/
theorem le_quantile {a q : ℚ} {values : List ℚ} (nonempty : values ≠ []) (all : ∀ v ∈ values, a ≤ v) :
    a ≤ quantile values q := by
  rw [quantile_eq_interpolate nonempty]
  apply List.le_interpolate (position_nonneg nonempty q) (position_inside nonempty q)
  exact fun v member => all v ((List.mem_insertionSort _).mp member)

theorem quantile_le {a q : ℚ} {values : List ℚ} (nonempty : values ≠ []) (all : ∀ v ∈ values, v ≤ a) :
    quantile values q ≤ a := by
  rw [quantile_eq_interpolate nonempty]
  apply List.interpolate_le (position_nonneg nonempty q) (position_inside nonempty q)
  exact fun v member => all v ((List.mem_insertionSort _).mp member)

theorem quantile_le_of_level_le (values : List ℚ) {p q : ℚ} (order : p ≤ q) :
    quantile values p ≤ quantile values q := by
  by_cases nonempty : values = []
  · rw [nonempty]
    exact le_refl 0
  · rw [quantile_eq_interpolate nonempty, quantile_eq_interpolate nonempty]
    exact (List.pairwise_insertionSort _ _).interpolate_mono (position_nonneg nonempty p) (position_mono nonempty order)
      (position_inside nonempty q)

theorem quantile_le_of_forall₂_le {values others : List ℚ} (related : List.Forall₂ (· ≤ ·) values others) (q : ℚ) :
    quantile values q ≤ quantile others q := by
  cases related with
  | nil => exact le_refl _
  | @cons v w values others first rest =>
    have same : position (v :: values) q = position (w :: others) q := by
      rw [position, position, List.length_cons, List.length_cons, rest.length_eq]
    rw [quantile_eq_interpolate (List.cons_ne_nil v values), quantile_eq_interpolate (List.cons_ne_nil w others),
      ← same]
    exact (List.Forall₂.cons first rest).insertionSort_le.interpolate_le (position_nonneg (List.cons_ne_nil _ _) q)
      (position_inside (List.cons_ne_nil _ _) q)

/-- A quantile does not depend on the order of the values. -/
theorem quantile_perm {values others : List ℚ} (shuffled : values.Perm others) (q : ℚ) :
    quantile values q = quantile others q := by
  rcases eq_or_ne values [] with rfl | nonempty
  · rw [List.nil_perm.mp shuffled]
  · have nonempty' : others ≠ [] := by
      rintro rfl
      exact nonempty (List.perm_nil.mp shuffled)
    have sorted : values.insertionSort (· ≤ ·) = others.insertionSort (· ≤ ·) := by
      apply List.Perm.eq_of_pairwise' (List.pairwise_insertionSort (· ≤ ·) values)
        (List.pairwise_insertionSort (· ≤ ·) others)
      exact (List.perm_insertionSort _ values).trans (shuffled.trans (List.perm_insertionSort _ others).symm)
    rw [quantile_eq_interpolate nonempty, quantile_eq_interpolate nonempty', sorted, position, position,
      shuffled.length_eq]

/-- A quantile lies between two of the values that bound all of them, does not depend on their order,
and increases with the level, over all levels, and with each value. -/
theorem quantile_laws {values : List ℚ} (nonempty : values ≠ []) (q : ℚ) :
    (∃ low ∈ values, ∃ high ∈ values, (∀ v ∈ values, low ≤ v ∧ v ≤ high) ∧
      low ≤ quantile values q ∧ quantile values q ≤ high) ∧
    (∀ others, values.Perm others → quantile others q = quantile values q) ∧
    (∀ p ≤ q, quantile values p ≤ quantile values q) ∧
    ∀ i w, (∀ v, values[i]? = some v → v ≤ w) → quantile values q ≤ quantile (values.set i w) q := by
  refine ⟨?_, ?_, ?_, ?_⟩
  · obtain ⟨lowMember, least⟩ := listMin_spec nonempty
    obtain ⟨highMember, greatest⟩ := listMax_spec nonempty
    exact ⟨listMin values, lowMember, listMax values, highMember, fun v member => ⟨least v member, greatest v member⟩,
      le_quantile nonempty least, quantile_le nonempty greatest⟩
  · intro others shuffled
    exact (quantile_perm shuffled q).symm
  · intro p order
    exact quantile_le_of_level_le values order
  · intro i w raised
    exact quantile_le_of_forall₂_le (List.forall₂_set values i w raised) q

theorem quantile_laws_three :
    quantile [1, 3, 5] (1 / 4) = quantile [5, 1, 3] (1 / 4) ∧
      quantile [5, 1, 3] 0 ≤ quantile [5, 1, 3] (1 / 4) ∧
      quantile [5, 1, 3] (1 / 4) ≤ quantile [5, 4, 3] (1 / 4) := by
  obtain ⟨-, shuffled, level, raised⟩ := quantile_laws (show [(5 : ℚ), 1, 3] ≠ [] by simp) (1 / 4)
  refine ⟨shuffled [1, 3, 5] (by decide), level 0 (by norm_num), raised 1 4 ?_⟩
  rintro v ⟨⟩
  norm_num

/-- The integer `round` divides by the power of ten. -/
private def nearest (y : ℚ) : ℤ :=
  if y - ⌊y⌋ < 1 / 2 ∨ y - ⌊y⌋ = 1 / 2 ∧ ⌊y⌋ % 2 = 0 then ⌊y⌋ else ⌊y⌋ + 1

private theorem round_eq (x : ℚ) (digits : ℕ) : round x digits = nearest (x * 10 ^ digits) / 10 ^ digits := rfl

private theorem nearest_bounds (y : ℚ) : y - 1 / 2 ≤ nearest y ∧ (nearest y : ℚ) ≤ y + 1 / 2 := by
  have below := Int.floor_le y
  have above := Int.lt_floor_add_one y
  unfold nearest
  split_ifs with down
  · rcases down with small | ⟨half, -⟩
    · exact ⟨by linarith, by linarith⟩
    · exact ⟨by linarith, by linarith⟩
  · have large : 1 / 2 ≤ y - ⌊y⌋ := not_lt.mp fun small => down (.inl small)
    push_cast
    exact ⟨by linarith, by linarith⟩

private theorem nearest_mono {x y : ℚ} (order : x ≤ y) : nearest x ≤ nearest y := by
  by_contra crossed
  have gap : (nearest y : ℚ) + 1 ≤ nearest x := by exact_mod_cast not_le.mp crossed
  have upper := (nearest_bounds x).2
  have lower := (nearest_bounds y).1
  obtain rfl : x = y := le_antisymm order (by linarith)
  exact crossed le_rfl

/-- A tie goes to the even neighbour. -/
private theorem le_nearest_iff {m : ℤ} (even : m % 2 = 0) (y : ℚ) : m ≤ nearest y ↔ (m : ℚ) - 1 / 2 ≤ y := by
  constructor
  · intro reached
    have upper := (nearest_bounds y).2
    have cast : (m : ℚ) ≤ nearest y := by exact_mod_cast reached
    linarith
  · intro close
    unfold nearest
    split_ifs with down
    · rcases down with small | ⟨half, floorEven⟩
      · have strict : (m : ℚ) < ⌊y⌋ + 1 := by linarith
        exact Int.lt_add_one_iff.mp (by exact_mod_cast strict)
      · have near : (m : ℚ) ≤ ⌊y⌋ + 1 := by linarith
        have cast : m ≤ ⌊y⌋ + 1 := by exact_mod_cast near
        omega
    · have above := Int.lt_floor_add_one y
      have strict : (m : ℚ) < ⌊y⌋ + 1 + 1 := by linarith
      exact Int.lt_add_one_iff.mp (by exact_mod_cast strict)

/-- The error of `round` is at most half a unit. -/
theorem round_bounds (x : ℚ) (digits : ℕ) :
    x - 1 / 2 / 10 ^ digits ≤ round x digits ∧ round x digits ≤ x + 1 / 2 / 10 ^ digits := by
  have power : (0 : ℚ) < 10 ^ digits := by positivity
  obtain ⟨lower, upper⟩ := nearest_bounds (x * 10 ^ digits)
  rw [round_eq]
  constructor
  · rw [le_div_iff₀ power, sub_mul, div_mul_cancel₀ _ power.ne']
    exact lower
  · rw [div_le_iff₀ power, add_mul, div_mul_cancel₀ _ power.ne']
    exact upper

theorem round_le_round {x y : ℚ} (order : x ≤ y) (digits : ℕ) : round x digits ≤ round y digits := by
  have power : (0 : ℚ) < 10 ^ digits := by positivity
  rw [round_eq, round_eq]
  apply div_le_div_of_nonneg_right _ power.le
  exact_mod_cast nearest_mono (mul_le_mul_of_nonneg_right order power.le)

/-- An even multiple of the unit is reached from half a unit below it on. -/
theorem le_round_iff {m : ℤ} (even : m % 2 = 0) (x : ℚ) (digits : ℕ) :
    (m : ℚ) / 10 ^ digits ≤ round x digits ↔ ((m : ℚ) - 1 / 2) / 10 ^ digits ≤ x := by
  have power : (0 : ℚ) < 10 ^ digits := by positivity
  rw [round_eq, div_le_div_iff_of_pos_right power, div_le_iff₀ power, ← le_nearest_iff even]
  exact Int.cast_le

end GestureSuite.Fitter
