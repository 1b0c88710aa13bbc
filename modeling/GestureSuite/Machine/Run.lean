import Mathlib.Data.Nat.Find
import Mathlib.Data.List.Basic
import Mathlib.Tactic

/-! # Runs of deterministic machines

Two kinds of machine occur in the development. A `System` may refuse an action; its reachable
states are those of finite runs, optionally restricted to runs every step of which meets a side
condition. A total machine consumes a finite input list; its `trajectory` is the state in front of
each input. Both come with the induction that lifts a one-step fact to a whole run. A loop of the
code is the relation between the states it is entered and left in. Nothing here mentions a concrete
machine.
-/

namespace GestureSuite.Machine

variable {σ α ι : Type*}

/-- A deterministic machine in which an action either moves the state or is refused. -/
structure System (σ α : Type*) where
  init : σ
  step : σ → α → Option σ

namespace System

variable (m : System σ α)

/-- States at the end of a finite run whose every step meets `allowed`. -/
inductive ReachableUnder (allowed : σ → α → Prop) : σ → Prop
  | init : ReachableUnder allowed m.init
  | step {s t : σ} {a : α} : ReachableUnder allowed s → allowed s a → m.step s a = some t →
      ReachableUnder allowed t

/-- States at the end of an arbitrary finite run. -/
def Reachable : σ → Prop := m.ReachableUnder fun _ _ => True

variable {m}

/-- An initial fact that every allowed step preserves holds along every allowed run. The step
may use that its source is reachable. -/
theorem ReachableUnder.invariant {allowed : σ → α → Prop} {inv : σ → Prop} (base : inv m.init)
    (preserved : ∀ s a t, m.ReachableUnder allowed s → inv s → allowed s a → m.step s a = some t → inv t)
    {s : σ} (reached : m.ReachableUnder allowed s) : inv s := by
  induction reached with
  | init => exact base
  | step before permitted moved ih => exact preserved _ _ _ before ih permitted moved

/-- Dropping the side condition only adds runs. -/
theorem ReachableUnder.reachable {allowed : σ → α → Prop} {s : σ}
    (reached : m.ReachableUnder allowed s) : m.Reachable s := by
  induction reached with
  | init => exact .init
  | step _ _ moved ih => exact .step ih trivial moved

/-- Execute an action list, stopping at the first refusal. -/
def run (m : System σ α) : σ → List α → Option σ
  | s, [] => some s
  | s, a :: rest => (m.step s a).bind fun t => run m t rest

/-- An execution starts with a step. -/
theorem run_cons {s t u : σ} {a : α} {rest : List α} (moved : m.step s a = some t) (later : m.run t rest = some u) :
    m.run s (a :: rest) = some u := by
  rw [run, moved]
  exact later

/-- A successful execution of actions that are allowed everywhere stays within the allowed runs. -/
theorem ReachableUnder.run {allowed : σ → α → Prop} {s t : σ} {actions : List α}
    (reached : m.ReachableUnder allowed s) (permitted : ∀ a ∈ actions, ∀ s, allowed s a)
    (success : m.run s actions = some t) : m.ReachableUnder allowed t := by
  induction actions generalizing s with
  | nil =>
    obtain rfl := Option.some.inj success
    exact reached
  | cons a rest ih =>
    obtain ⟨middle, moved, tail⟩ := Option.bind_eq_some_iff.mp success
    have next := reached.step (permitted a List.mem_cons_self s) moved
    exact ih next (fun b later => permitted b (List.mem_cons_of_mem a later)) tail

/-- A successful execution from a reachable state ends in a reachable state. -/
theorem Reachable.run {s t : σ} {actions : List α} (reached : m.Reachable s)
    (success : m.run s actions = some t) : m.Reachable t :=
  ReachableUnder.run reached (fun _ _ _ => trivial) success

end System

/-- The state in front of input `k`; past the end it holds the final state. -/
def trajectory (step : σ → ι → σ) (init : σ) (inputs : List ι) (k : ℕ) : σ :=
  (inputs.take k).foldl step init

section Trajectory

variable (step : σ → ι → σ) (init : σ) (inputs : List ι)

@[simp] theorem trajectory_zero : trajectory step init inputs 0 = init := rfl

theorem trajectory_succ {k : ℕ} {input : ι} (present : inputs[k]? = some input) :
    trajectory step init inputs (k + 1) = step (trajectory step init inputs k) input := by
  have take : inputs.take (k + 1) = inputs.take k ++ [input] := by
    rw [List.take_add_one, present]
    rfl
  simp only [trajectory, take, List.foldl_append, List.foldl_cons, List.foldl_nil]

/-- What one input preserves holds in front of every input of the run. -/
theorem trajectory_invariant (inv : ℕ → σ → Prop) (base : inv 0 init)
    (preserved : ∀ k input, inputs[k]? = some input → inv k (trajectory step init inputs k) →
      inv (k + 1) (step (trajectory step init inputs k) input))
    (k : ℕ) (bound : k ≤ inputs.length) : inv k (trajectory step init inputs k) := by
  induction k with
  | zero => exact base
  | succ k ih =>
    have present : inputs[k]? = some inputs[k] := List.getElem?_eq_getElem (by omega)
    rw [trajectory_succ step init inputs present]
    exact preserved k _ present (ih (by omega))

end Trajectory

/-- A `while` loop with this test and this body, entered in the first state, is left in the second. -/
inductive Exits (test : σ → Prop) (body : σ → σ) : σ → σ → Prop
  | done {s : σ} : ¬ test s → Exits test body s s
  | round {s t : σ} : test s → Exits test body (body s) t → Exits test body s t

/-- A loop is left in one state at most. -/
theorem Exits.unique {test : σ → Prop} {body : σ → σ} {s t u : σ} (left : Exits test body s t)
    (left' : Exits test body s u) : t = u := by
  induction left with
  | done stops =>
    cases left' with
    | done => rfl
    | round continues => exact absurd continues stops
  | round continues _ ih =>
    cases left' with
    | done stops => exact absurd continues stops
    | round _ rest => exact ih rest

/-- Among the positions up to `n`, the last one with a property that holds at zero. -/
theorem exists_last (p : ℕ → Prop) (zero : p 0) (n : ℕ) :
    ∃ i ≤ n, p i ∧ ∀ m, i < m → m ≤ n → ¬ p m := by
  classical
  refine ⟨Nat.findGreatest p n, Nat.findGreatest_le n, ?_, ?_⟩
  · exact Nat.findGreatest_spec (Nat.zero_le n) zero
  · intro m after within
    exact Nat.findGreatest_is_greatest after within

/-- Between two positions, the first one with a property that holds at the later. -/
theorem exists_first (p : ℕ → Prop) {k n : ℕ} (order : k < n) (holds : p n) :
    ∃ r, k < r ∧ r ≤ n ∧ p r ∧ ∀ j, k < j → j < r → ¬ p j := by
  classical
  have found : ∃ r, k < r ∧ p r := ⟨n, order, holds⟩
  obtain ⟨after, atFirst⟩ := Nat.find_spec found
  refine ⟨Nat.find found, after, Nat.find_min' found ⟨order, holds⟩, atFirst, ?_⟩
  intro j afterK before early
  exact Nat.find_min found before ⟨afterK, early⟩

end GestureSuite.Machine
