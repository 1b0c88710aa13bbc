import Mathlib.Tactic

/-! # Lists joined by a separator

Which elements `List.intercalate` has, and how many; how many pieces `List.splitOn` makes. Intended
upstream home: next to `List.splitOn_intercalate`.
-/

namespace List

variable {α : Type*} {sep : α}

theorem mem_of_mem_intercalate_singleton {fields : List (List α)} {x : α} (member : x ∈ [sep].intercalate fields) :
    x = sep ∨ ∃ field ∈ fields, x ∈ field := by
  induction fields with
  | nil => simp at member
  | cons first rest ih =>
    cases rest with
    | nil => exact .inr ⟨first, mem_cons_self, by simpa using member⟩
    | cons second rest =>
      rw [intercalate_cons_cons] at member
      rcases mem_append.mp member with front | tail
      · rcases mem_append.mp front with inFirst | inSeparator
        · exact .inr ⟨first, mem_cons_self, inFirst⟩
        · exact .inl (mem_singleton.mp inSeparator)
      · rcases ih tail with separator | ⟨field, later, inside⟩
        · exact .inl separator
        · exact .inr ⟨field, mem_cons_of_mem first later, inside⟩

theorem length_intercalate_singleton_le {fields : List (List α)} {k : ℕ} (bound : ∀ field ∈ fields, field.length < k) :
    ([sep].intercalate fields).length ≤ fields.length * k := by
  induction fields with
  | nil => simp
  | cons first rest ih =>
    have front := bound first mem_cons_self
    have tail := ih fun field later => bound field (mem_cons_of_mem first later)
    cases rest with
    | nil => simpa using front.le
    | cons second rest =>
      rw [intercalate_cons_cons]
      simp only [length_append, length_cons, length_nil] at tail ⊢
      rw [Nat.add_mul]
      omega

theorem intercalate_concat {fields : List (List α)} (nonempty : fields ≠ []) (field : List α) :
    [sep].intercalate (fields ++ [field]) = [sep].intercalate fields ++ sep :: field := by
  induction fields with
  | nil => exact absurd rfl nonempty
  | cons first rest ih =>
    cases rest with
    | nil => simp
    | cons second rest =>
      have tail := ih (cons_ne_nil second rest)
      change [sep].intercalate (first :: second :: (rest ++ [field])) = _
      rw [intercalate_cons_cons, intercalate_cons_cons, append_assoc, append_assoc, append_assoc]
      exact congrArg (fun l => first ++ ([sep] ++ l)) tail

/-- A list falls into one piece more than it has separators. -/
theorem length_splitOn [BEq α] [LawfulBEq α] (sep : α) (l : List α) : (l.splitOn sep).length = l.count sep + 1 := by
  induction l with
  | nil => rfl
  | cons a rest ih =>
    rw [splitOn_cons_eq_if_modifyHead, count_cons]
    split
    · rw [length_cons, ih]
    · rw [length_modifyHead, ih, Nat.add_zero]

end List
