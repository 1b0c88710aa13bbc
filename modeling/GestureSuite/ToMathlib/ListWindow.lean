import Mathlib.Data.List.DropRight
import Mathlib.Data.List.TakeWhile
import Mathlib.Tactic

/-! # Windows of lists ordered by a key

Mathlib relates `dropWhile` to neither ordering nor filtering. On a list whose kept elements form a
suffix, dropping from the front is filtering; cutting an ordered list at a position separates its
keys; a run at the end of a list is as long as the last elements that all belong to it; an order
statistic is bounded by counting. These additions belong beside the `takeWhile` and pairwise lemmas upstream.
-/

namespace List

variable {α κ : Type*}

/-- A first filter that keeps whatever the second one keeps changes nothing. -/
theorem filter_filter_of_imp {p q : α → Bool} (l : List α) (implies : ∀ a, q a = true → p a = true) :
    (l.filter p).filter q = l.filter q := by
  rw [filter_filter]
  apply filter_congr
  intro a _
  cases kept : q a with
  | false => rfl
  | true => simp [implies a kept]

/-- When the discarded elements form a prefix, dropping them from the front filters the list. -/
theorem dropWhile_eq_filter_not (p : α → Bool) {l : List α}
    (prefixed : l.Pairwise fun a b => p b = true → p a = true) :
    l.dropWhile p = l.filter (fun a => !p a) := by
  induction l with
  | nil => rfl
  | cons a rest ih =>
    obtain ⟨head, tail⟩ := pairwise_cons.mp prefixed
    cases dropped : p a with
    | true => rw [dropWhile_cons_of_pos dropped, ih tail, filter_cons_of_neg (by simp [dropped])]
    | false =>
      have kept : ∀ b ∈ a :: rest, (!p b) = true := by
        intro b member
        rcases mem_cons.mp member with rfl | later
        · simp [dropped]
        · cases discarded : p b with
          | true => exact absurd (head b later discarded) (by simp [dropped])
          | false => rfl
      rw [dropWhile_cons_of_neg (by simp [dropped]), filter_eq_self.mpr kept]

/-- The run at the end of a list has `n` elements once the last `n` all belong to it. -/
theorem le_length_rtakeWhile_iff (p : α → Bool) (n : ℕ) (l : List α) :
    n ≤ (l.rtakeWhile p).length ↔ n ≤ l.length ∧ ∀ a ∈ l.rtake n, p a = true := by
  induction l using reverseRecOn generalizing n with
  | nil => simp
  | append_singleton l a ih =>
    cases n with
    | zero => simp
    | succ n =>
      cases kept : p a with
      | true =>
        rw [rtakeWhile_concat_pos p l a kept, rtake_concat_succ]
        simp only [length_append, length_singleton, Nat.add_le_add_iff_right, ih n, mem_append, mem_singleton]
        constructor
        · rintro ⟨long, all⟩
          refine ⟨long, ?_⟩
          rintro b (earlier | rfl)
          · exact all b earlier
          · exact kept
        · rintro ⟨long, all⟩
          exact ⟨long, fun b earlier => all b (.inl earlier)⟩
      | false =>
        rw [rtakeWhile_concat_neg p l a (by simp [kept]), rtake_concat_succ]
        constructor
        · intro impossible
          exact absurd impossible (by simp)
        · rintro ⟨-, all⟩
          exact absurd (all a (by simp)) (by simp [kept])

/-- Along a list ordered by a key, a later element has no smaller key. -/
theorem Pairwise.key_le_of_getElem? [Preorder κ] (key : α → κ) {l : List α}
    (sorted : l.Pairwise fun a b => key a ≤ key b) {i j : ℕ} {a b : α} (order : i ≤ j)
    (atI : l[i]? = some a) (atJ : l[j]? = some b) : key a ≤ key b := by
  obtain ⟨boundI, rfl⟩ := getElem?_eq_some_iff.mp atI
  obtain ⟨boundJ, rfl⟩ := getElem?_eq_some_iff.mp atJ
  rcases order.eq_or_lt with rfl | before
  · exact le_refl _
  · exact pairwise_iff_getElem.mp sorted i j boundI boundJ before

/-- Along a list strictly ordered by a key, the elements from a position on are those whose key is
not below the one at the position. -/
theorem Pairwise.filter_key_le_eq_drop [LinearOrder κ] (key : α → κ) {l : List α}
    (strict : l.Pairwise fun a b => key a < key b) {i : ℕ} {a : α} (atI : l[i]? = some a) :
    l.filter (fun b => key a ≤ key b) = l.drop i := by
  obtain ⟨bound, rfl⟩ := getElem?_eq_some_iff.mp atI
  have before : (l.take i).filter (fun b => key l[i] ≤ key b) = [] := by
    apply filter_eq_nil_iff.mpr
    intro b member
    obtain ⟨j, within, rfl⟩ := mem_take_iff_getElem.mp member
    rw [decide_eq_true_eq, not_le]
    exact pairwise_iff_getElem.mp strict j i (by omega) bound (by omega)
  have after : (l.drop i).filter (fun b => key l[i] ≤ key b) = l.drop i := by
    apply filter_eq_self.mpr
    intro b member
    obtain ⟨j, within, rfl⟩ := mem_drop_iff_getElem.mp member
    rw [decide_eq_true_eq]
    exact (strict.imp le_of_lt).key_le_of_getElem? key (Nat.le_add_right i j)
      (getElem?_eq_getElem bound) (getElem?_eq_getElem _)
  calc l.filter (fun b => key l[i] ≤ key b)
    _ = (l.take i ++ l.drop i).filter (fun b => key l[i] ≤ key b) := by rw [take_append_drop]
    _ = l.drop i := by rw [filter_append, before, after, nil_append]

/-- An order statistic is at most a bound exactly when more elements than its position are. -/
theorem Pairwise.getElem_le_iff [LinearOrder α] {l : List α} (sorted : l.Pairwise (· ≤ ·)) {i : ℕ}
    (inside : i < l.length) (b : α) : l[i] ≤ b ↔ i < l.countP (· ≤ b) := by
  induction l generalizing i with
  | nil => simp at inside
  | cons a l ih =>
    obtain ⟨least, sorted⟩ := pairwise_cons.mp sorted
    by_cases below : a ≤ b
    · rw [countP_cons_of_pos (by simpa using below)]
      cases i with
      | zero => exact iff_of_true below (Nat.zero_lt_succ _)
      | succ i => rw [getElem_cons_succ, ih sorted (Nat.lt_of_succ_lt_succ inside), Nat.succ_lt_succ_iff]
    · have above : ∀ c ∈ a :: l, ¬ c ≤ b := by
        intro c member
        rcases mem_cons.mp member with rfl | later
        · exact below
        · exact fun small => below ((least c later).trans small)
      have none : (a :: l).countP (· ≤ b) = 0 := countP_eq_zero.mpr fun c member => by simpa using above c member
      rw [none]
      exact iff_of_false (above _ (getElem_mem inside)) (Nat.not_lt_zero i)

end List
