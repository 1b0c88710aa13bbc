import GestureSuite.Soundness.Gesture.Queue

/-! # The phases behind a hold

The state machine can only enter `Holding` from `Moving`, and `Moving` only from `Idle` or from a
broken hold. Reading a run backwards from a frame processed in `Holding` therefore meets a last
entry into `Holding` and, before it, a last frame processed in `Idle`. The argument looks at the
sequence of states alone, so it serves every kind of run that embeds the detector.
-/

namespace GestureSuite.Gesture

open Machine

/-- The state changes that occur in the machine. -/
def GestureState.Follows : GestureState → GestureState → Prop
  | .idle, next => next = .idle ∨ next = .moving
  | .moving, next => next ≠ .cooldown
  | .holding, _ => True
  | .cooldown, next => next = .cooldown ∨ next = .idle

theorem Moves.follows {rate : TickRate} {queue : List MotionFrameFeature} {frame : Frame} {t u : Timers}
    {fired : Bool} (moves : Moves rate queue frame t u fired) : t.state.Follows u.state := by
  cases moves with
  | stay state => cases h : t.state <;> simp_all [GestureState.Follows]
  | raise state => simp [GestureState.Follows, state]
  | settle state => simp [GestureState.Follows, state]
  | giveUp state => simp [GestureState.Follows, state]
  | leave state => simp [GestureState.Follows, state]
  | rearm state => simp [GestureState.Follows, state]
  | keep state => simp [GestureState.Follows, state]
  | trigger state => simp [GestureState.Follows, state]
  | recover state => simp [GestureState.Follows, state]

theorem GestureState.follows_self (s : GestureState) : s.Follows s := by
  cases s <;> simp [GestureState.Follows]

section Sequence

variable {s : ℕ → GestureState} {n : ℕ}

/-- Cooldown can only be left through `Idle`. -/
private theorem cooldown_persists (follows : ∀ k < n, (s k).Follows (s (k + 1))) {k : ℕ}
    (cooling : s k = .cooldown) (active : ∀ m, k < m → m ≤ n → s m ≠ .idle) (m : ℕ) (after : k ≤ m)
    (within : m ≤ n) : s m = .cooldown := by
  induction m, after using Nat.le_induction with
  | base => exact cooling
  | succ m after ih =>
    have arrow := follows m (by omega)
    rw [ih (by omega)] at arrow
    exact arrow.resolve_right (active (m + 1) (by omega) within)

/-- A hold is preceded by a last frame in `Idle` and a last entry from `Moving`. -/
theorem exists_phases (start : s 0 = .idle) (follows : ∀ k < n, (s k).Follows (s (k + 1)))
    (holding : s n = .holding) :
    ∃ i j, i < j ∧ j < n ∧ s i = .idle ∧ s (i + 1) = .moving ∧
      (∀ k, i < k → k ≤ n → s k = .moving ∨ s k = .holding) ∧ s j = .moving ∧
      ∀ k, j < k → k ≤ n → s k = .holding := by
  obtain ⟨i, iLe, idle, afterIdle⟩ := exists_last (fun m => s m = .idle) start n
  obtain ⟨j, jLe, notHolding, afterEntry⟩ :=
    exists_last (fun m => s m ≠ .holding) (by simp [start]) n
  have iLt : i < n := iLe.lt_of_ne (by rintro rfl; simp [idle] at holding)
  have jLt : j < n := jLe.lt_of_ne (by rintro rfl; exact notHolding holding)
  have held : ∀ k, j < k → k ≤ n → s k = .holding := fun k after within =>
    not_not.mp (afterEntry k after within)
  have iLeJ : i ≤ j := by
    by_contra later
    have := held i (by omega) iLe
    simp [idle] at this
  -- nothing but `Moving` and `Holding` fits between the last idle frame and the hold
  have active : ∀ k, i < k → k ≤ n → s k = .moving ∨ s k = .holding := by
    intro k after within
    have notIdle := afterIdle k after within
    cases state : s k with
    | idle => exact absurd state notIdle
    | moving => exact .inl rfl
    | holding => exact .inr rfl
    | cooldown =>
      have stuck := cooldown_persists follows state (fun m later bound => afterIdle m (by omega) bound) n
        within le_rfl
      simp [holding] at stuck
  have entry : s (j + 1) = .holding := held (j + 1) (by omega) (by omega)
  have jNe : i ≠ j := by
    rintro rfl
    have arrow := follows i iLt
    simp [idle, entry, GestureState.Follows] at arrow
  have raised : s (i + 1) = .moving := by
    have arrow := follows i iLt
    rw [idle] at arrow
    exact arrow.resolve_left (afterIdle (i + 1) (by omega) (by omega))
  exact ⟨i, j, by omega, jLt, idle, raised, active,
    (active j (by omega) jLe).resolve_right notHolding, held⟩

end Sequence

variable (rate : TickRate) {frames : List Frame} {k : ℕ} {frame : Frame}

/-- The fields that time a gesture, in front of frame `k`. -/
abbrev timersAt (frames : List Frame) (k : ℕ) : Timers :=
  (detectorAt rate frames k).timers

/-- The queue frame `k` is judged on. -/
abbrev queueOf (frames : List Frame) (k : ℕ) (frame : Frame) : List MotionFrameFeature :=
  (detectorAt rate frames k).queueAt rate frame

theorem timersAt_moves (present : frames[k]? = some frame) :
    Moves rate (queueOf rate frames k frame) frame (timersAt rate frames k) (timersAt rate frames (k + 1))
      ((detectorAt rate frames k).fires rate frame) := by
  simp only [timersAt]
  rw [detectorAt_succ rate present]
  exact Detector.next_moves rate (detectorAt rate frames k) frame

theorem timersAt_follows (bound : k < frames.length) :
    (timersAt rate frames k).state.Follows (timersAt rate frames (k + 1)).state :=
  (timersAt_moves rate (List.getElem?_eq_getElem bound)).follows

/-- A frame that fires is processed in `Holding` and passes every test of that state. -/
theorem Moves.of_fires {rate : TickRate} {queue : List MotionFrameFeature} {t u : Timers}
    (moves : Moves rate queue frame t u true) :
    t.state = .holding ∧ KeepsHolding rate queue frame ∧
      holdSeconds ≤ rate.elapsedSeconds t.holdStart frame.ticks ∧ t.cooldownUntil ≤ frame.ticks ∧
      u = { t with state := .cooldown, cooldownUntil := frame.ticks + rate.ticks cooldownSeconds } := by
  cases moves with
  | trigger state keeps held cooled => exact ⟨state, keeps, held, cooled, rfl⟩

/-- While a gesture is in progress its start is the tick of an earlier frame. -/
theorem movingStart_earlier (bound : k ≤ frames.length)
    (active : (timersAt rate frames k).state = .moving ∨ (timersAt rate frames k).state = .holding) :
    ∃ m < k, ∃ start, frames[m]? = some start ∧ (timersAt rate frames k).movingStart = start.ticks := by
  induction k with
  | zero => simp [timersAt, detectorAt, Detector.timers] at active
  | succ k ih =>
    have present : frames[k]? = some frames[k] := List.getElem?_eq_getElem (by omega)
    have moves := timersAt_moves rate present
    generalize timersAt rate frames (k + 1) = u at moves active ⊢
    generalize Detector.fires rate _ _ = fired at moves
    have older : (timersAt rate frames k).state = .moving ∨ (timersAt rate frames k).state = .holding →
        ∃ m < k + 1, ∃ start, frames[m]? = some start ∧ (timersAt rate frames k).movingStart = start.ticks := by
      intro before
      obtain ⟨m, earlier, start, atM, same⟩ := ih (by omega) before
      exact ⟨m, by omega, start, atM, same⟩
    cases moves with
    | stay => exact older active
    | raise | rearm => exact ⟨k, by omega, _, present, rfl⟩
    | settle state => exact older (.inl state)
    | keep state => exact older (.inr state)
    | giveUp | leave | trigger | recover => simp at active

end GestureSuite.Gesture
