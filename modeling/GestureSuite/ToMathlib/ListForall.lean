import Mathlib.Data.List.Forall2
import Mathlib.Data.List.Sort
import Mathlib.Tactic

/-! # Lists related element by element

Additions to the `Forall₂` lemmas of Mathlib: dropping from the front, counting, replacing one element,
and sorting. The last says that order statistics are monotone: lowering elements of a list lowers every
position of the sorted list. The intended home is beside `List.rel_filter` and the insertion sort lemmas.
-/

namespace List

variable {α β : Type*}

/-- Dropping by tests that related elements pass alike keeps the lists related. -/
theorem Forall₂.dropWhile {R : α → β → Prop} {l : List α} {m : List β} (related : Forall₂ R l m)
    (p : α → Bool) (q : β → Bool) (alike : ∀ a b, R a b → p a = q b) :
    Forall₂ R (l.dropWhile p) (m.dropWhile q) := by
  induction related with
  | nil => exact .nil
  | @cons a b l m head tail ih =>
    rw [dropWhile_cons, dropWhile_cons, alike a b head]
    split_ifs
    · exact ih
    · exact .cons head tail

/-- A test that passes from one list to the other is passed at least as often there. -/
theorem Forall₂.countP_le {R : α → β → Prop} {l : List α} {m : List β} (related : Forall₂ R l m)
    (p : α → Bool) (q : β → Bool) (passes : ∀ a b, R a b → p a = true → q b = true) :
    l.countP p ≤ m.countP q := by
  induction related with
  | nil => exact le_rfl
  | @cons a b l m head tail ih =>
    have step := passes a b head
    rw [countP_cons, countP_cons]
    split_ifs with passA passB
    · omega
    · exact absurd (step passA) passB
    · omega
    · omega

/-- Values that agree on related elements agree along the lists. -/
theorem Forall₂.map_eq {γ : Type*} {R : α → β → Prop} {l : List α} {m : List β} (related : Forall₂ R l m)
    (f : α → γ) (g : β → γ) (agree : ∀ a b, R a b → f a = g b) : l.map f = m.map g := by
  rw [← forall₂_eq_eq_eq, forall₂_map_left_iff, forall₂_map_right_iff]
  exact related.imp agree

/-- A list is related to the list in which one element has been replaced by a related one. -/
theorem forall₂_set {R : α → α → Prop} [Std.Refl R] (l : List α) (i : ℕ) (b : α)
    (replaced : ∀ a, l[i]? = some a → R a b) : Forall₂ R l (l.set i b) := by
  induction l generalizing i with
  | nil => exact .nil
  | cons a l ih =>
    cases i with
    | zero => exact .cons (replaced a rfl) (forall₂_refl l)
    | succ i => exact .cons (refl_of R a) (ih i fun c present => replaced c present)

section Sorting

variable [LinearOrder α]

private theorem orderedInsert_of_forall_le {a : α} {l : List α} (least : ∀ b ∈ l, a ≤ b) :
    l.orderedInsert (· ≤ ·) a = a :: l := by
  cases l with
  | nil => rfl
  | cons b rest => exact orderedInsert_cons_of_le _ rest (least b mem_cons_self)

/-- Inserting the smaller element into the smaller of two ordered lists keeps the order by position. -/
theorem Forall₂.orderedInsert_le {l m : List α} (related : Forall₂ (· ≤ ·) l m)
    (sortedL : l.Pairwise (· ≤ ·)) (sortedM : m.Pairwise (· ≤ ·)) {a b : α} (order : a ≤ b) :
    Forall₂ (· ≤ ·) (l.orderedInsert (· ≤ ·) a) (m.orderedInsert (· ≤ ·) b) := by
  induction related generalizing a b with
  | nil => exact .cons order .nil
  | @cons x y l m head tail ih =>
    obtain ⟨leastX, sortedL⟩ := pairwise_cons.mp sortedL
    obtain ⟨leastY, sortedM⟩ := pairwise_cons.mp sortedM
    rw [orderedInsert_cons, orderedInsert_cons]
    split_ifs with beforeX beforeY beforeY
    · exact .cons order (.cons head tail)
    · -- `a` goes in front of `x`, so `x` moves one place up, against `b` inserted behind `y`
      refine .cons (beforeX.trans head) ?_
      rw [← orderedInsert_of_forall_le leastX]
      exact ih sortedL sortedM (head.trans (not_le.mp beforeY).le)
    · refine .cons ((not_le.mp beforeX).le.trans order) ?_
      rw [← orderedInsert_of_forall_le leastY]
      exact ih sortedL sortedM (order.trans beforeY)
    · exact .cons head (ih sortedL sortedM order)

/-- Sorting is monotone by position. -/
theorem Forall₂.insertionSort_le {l m : List α} (related : Forall₂ (· ≤ ·) l m) :
    Forall₂ (· ≤ ·) (l.insertionSort (· ≤ ·)) (m.insertionSort (· ≤ ·)) := by
  induction related with
  | nil => exact .nil
  | @cons a b l m head tail ih =>
    rw [insertionSort_cons, insertionSort_cons]
    exact ih.orderedInsert_le (pairwise_insertionSort _ l) (pairwise_insertionSort _ m) head

end Sorting

end List
