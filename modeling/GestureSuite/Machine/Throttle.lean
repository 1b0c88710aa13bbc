import Mathlib.Data.List.Chain

/-! # Throttling a stream

A throttle remembers the last input it has let through and lets the next one through when it is due against it.
What passes is a chain of due inputs, and every input that is held back was too early against one that has passed
before it. Nothing here mentions a concrete throttle.
-/

namespace GestureSuite.Machine

variable {τ : Type*}

/-- What a throttle lets through, given the last input that has passed. -/
def throttled (due : τ → τ → Bool) (last : τ) : List τ → List τ
  | [] => []
  | input :: rest => if due last input then input :: throttled due input rest else throttled due last rest

/-- Each input that passes is due against the one before it. -/
theorem throttled_isChain (due : τ → τ → Bool) (last : τ) (inputs : List τ) :
    (last :: throttled due last inputs).IsChain fun a b => due a b = true := by
  induction inputs generalizing last with
  | nil => exact List.isChain_singleton _
  | cons input rest ih =>
    rw [throttled]
    split_ifs with passes
    · exact List.isChain_cons_cons.mpr ⟨passes, ih input⟩
    · exact ih last

/-- One more input is held against the last one that has passed. -/
theorem throttled_concat (due : τ → τ → Bool) (last : τ) (inputs : List τ) (input : τ) :
    throttled due last (inputs ++ [input]) =
      throttled due last inputs ++
        if due ((throttled due last inputs).getLastD last) input then [input] else [] := by
  induction inputs generalizing last with
  | nil => simp [throttled]
  | cons first rest ih =>
    rw [List.cons_append, throttled, throttled]
    by_cases passes : due last first = true
    · rw [if_pos passes, if_pos passes, ih first, List.getLastD_cons, List.cons_append]
    · rw [if_neg passes, if_neg passes, ih last]

theorem throttled_sublist (due : τ → τ → Bool) (last : τ) (inputs : List τ) :
    (throttled due last inputs).Sublist inputs := by
  induction inputs generalizing last with
  | nil => exact List.nil_sublist _
  | cons input rest ih =>
    rw [throttled]
    split_ifs
    · exact (ih input).cons_cons input
    · exact (ih last).cons input

/-- An ordered stream is covered: an input has passed, or it comes too early behind one that has. -/
theorem throttled_covers {due : τ → τ → Bool} {before : τ → τ → Prop} {last : τ} {inputs : List τ}
    (ordered : (last :: inputs).Pairwise before) {input : τ} (member : input ∈ inputs) :
    input ∈ throttled due last inputs ∨
      ∃ passed ∈ last :: throttled due last inputs, before passed input ∧ due passed input = false := by
  induction inputs generalizing last with
  | nil => cases member
  | cons first rest ih =>
    obtain ⟨behind, sorted⟩ := List.pairwise_cons.mp ordered
    rw [throttled]
    split_ifs with passes
    · rcases List.mem_cons.mp member with rfl | later
      · exact .inl List.mem_cons_self
      · rcases ih sorted later with through | ⟨passed, among, early⟩
        · exact .inl (List.mem_cons_of_mem _ through)
        · exact .inr ⟨passed, List.mem_cons_of_mem _ among, early⟩
    · rcases List.mem_cons.mp member with rfl | later
      · exact .inr ⟨last, List.mem_cons_self, behind _ List.mem_cons_self, Bool.eq_false_iff.mpr passes⟩
      · refine ih (List.pairwise_cons.mpr ⟨?_, (List.pairwise_cons.mp sorted).2⟩) later
        exact fun other among => behind other (List.mem_cons_of_mem _ among)

end GestureSuite.Machine
