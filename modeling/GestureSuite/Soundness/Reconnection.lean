import GestureSuite.Model.Session
import GestureSuite.Soundness.Connection.Ownership
import GestureSuite.Soundness.Gesture.Trigger

/-! # Triggers across a reconnect

Connecting resets no gesture field, so a hold that was being counted when the link dropped goes on
counting while the client is disconnected, and the first frame of the next connection can fire. If every
connect finds the detector idle or cooling down, the phases behind a trigger all lie behind the connect.
-/

namespace GestureSuite

open Connection Gesture

variable (rate : TickRate) {events : List SessionEvent} {k : ℕ}

/-- The fields that time a gesture, in front of event `k`. -/
abbrev sessionTimers (events : List SessionEvent) (k : ℕ) : Timers := (sessionAt rate events k).detector.timers

private theorem sessionTimers_frame {frame : Frame} (present : events[k]? = some (.frame frame)) :
    ∃ queue, Moves rate queue frame (sessionTimers rate events k) (sessionTimers rate events (k + 1))
      ((sessionAt rate events k).detector.fires rate frame) := by
  simp only [sessionTimers]
  rw [sessionAt_succ rate present]
  exact ⟨_, Detector.next_moves rate (sessionAt rate events k).detector frame⟩

/-- An event is a frame the detector processes, or it leaves the gesture fields alone. -/
private theorem sessionTimers_step (bound : k < events.length) :
    sessionTimers rate events (k + 1) = sessionTimers rate events k ∨
      ∃ frame queue fired, events[k]? = some (.frame frame) ∧
        Moves rate queue frame (sessionTimers rate events k) (sessionTimers rate events (k + 1)) fired := by
  have present := List.getElem?_eq_getElem bound
  cases event : events[k] with
  | frame frame =>
    rw [event] at present
    obtain ⟨queue, moves⟩ := sessionTimers_frame rate present
    exact .inr ⟨frame, queue, _, present, moves⟩
  | connection a =>
    rw [event] at present
    refine .inl ?_
    rw [sessionTimers]
    rw [sessionAt_succ rate present]
    rfl

private theorem sessionTimers_follows (bound : k < events.length) :
    (sessionTimers rate events k).state.Follows (sessionTimers rate events (k + 1)).state := by
  rcases sessionTimers_step rate bound with same | ⟨_, _, _, _, moves⟩
  · rw [same]
    exact GestureState.follows_self _
  · exact moves.follows

private theorem movingStart_of_raise (bound : k < events.length) (idle : (sessionTimers rate events k).state = .idle)
    (moving : (sessionTimers rate events (k + 1)).state = .moving) :
    ∃ frame, events[k]? = some (.frame frame) ∧ (sessionTimers rate events (k + 1)).movingStart = frame.ticks := by
  rcases sessionTimers_step rate bound with same | ⟨frame, _, _, present, moves⟩
  · simp [same, idle] at moving
  · refine ⟨frame, present, ?_⟩
    generalize sessionTimers rate events (k + 1) = u at moves moving ⊢
    cases moves with
    | raise => rfl
    | stay => simp [idle] at moving
    | settle state | giveUp state | leave state | rearm state | keep state | trigger state | recover state =>
      simp [idle] at state

private theorem holdStart_of_settle (bound : k < events.length)
    (moving : (sessionTimers rate events k).state = .moving)
    (holding : (sessionTimers rate events (k + 1)).state = .holding) :
    ∃ frame, events[k]? = some (.frame frame) ∧ (sessionTimers rate events (k + 1)).holdStart = frame.ticks := by
  rcases sessionTimers_step rate bound with same | ⟨frame, _, _, present, moves⟩
  · simp [same, moving] at holding
  · refine ⟨frame, present, ?_⟩
    generalize sessionTimers rate events (k + 1) = u at moves holding ⊢
    cases moves with
    | settle => rfl
    | stay => simp [moving] at holding
    | raise state | leave state | rearm state | keep state | trigger state | recover state => simp [moving] at state
    | giveUp => simp at holding

/-- The start of the movement stays what it was unless a frame writes its own tick. -/
private theorem movingStart_step (bound : k < events.length) :
    (sessionTimers rate events (k + 1)).movingStart = (sessionTimers rate events k).movingStart ∨
      ∃ frame, events[k]? = some (.frame frame) ∧
        (sessionTimers rate events (k + 1)).movingStart = frame.ticks := by
  rcases sessionTimers_step rate bound with same | ⟨frame, _, _, present, moves⟩
  · rw [same]
    exact .inl rfl
  · generalize sessionTimers rate events (k + 1) = u at moves ⊢
    cases moves with
    | raise | rearm => exact .inr ⟨frame, present, rfl⟩
    | stay | settle | keep | giveUp | leave | trigger | recover => exact .inl rfl

private theorem timers_of_holding (bound : k < events.length)
    (before : (sessionTimers rate events k).state = .holding)
    (after : (sessionTimers rate events (k + 1)).state = .holding) :
    sessionTimers rate events (k + 1) = sessionTimers rate events k := by
  rcases sessionTimers_step rate bound with same | ⟨frame, _, _, present, moves⟩
  · exact same
  · generalize sessionTimers rate events (k + 1) = u at moves after ⊢
    cases moves with
    | keep => rfl
    | stay state => exact absurd before state
    | settle state | raise state => simp [before] at state
    | giveUp | leave | rearm | trigger | recover => simp at after

/-- Behind the raise, the movement is timed by a frame no earlier than the raise. -/
private theorem movingStart_since {i n : ℕ} (bound : n ≤ events.length) (within : i < n)
    (idle : (sessionTimers rate events i).state = .idle)
    (raised : (sessionTimers rate events (i + 1)).state = .moving) :
    ∃ m armed, i ≤ m ∧ m < n ∧ events[m]? = some (.frame armed) ∧
      (sessionTimers rate events n).movingStart = armed.ticks := by
  induction n, within using Nat.le_induction with
  | base =>
    obtain ⟨frame, present, start⟩ := movingStart_of_raise rate (by omega) idle raised
    exact ⟨i, frame, le_rfl, i.lt_succ_self, present, start⟩
  | succ n within ih =>
    obtain ⟨m, armed, after, before, present, start⟩ := ih (by omega)
    rcases movingStart_step rate (show n < events.length by omega) with same | ⟨frame, here, start'⟩
    · exact ⟨m, armed, after, by omega, present, same.trans start⟩
    · exact ⟨n, frame, by omega, n.lt_succ_self, here, start'⟩

/-- An unbroken hold keeps the timers it was entered with. -/
private theorem timers_since_entry {j n : ℕ} (bound : n ≤ events.length) (within : j < n)
    (held : ∀ k, j < k → k ≤ n → (sessionTimers rate events k).state = .holding) :
    sessionTimers rate events n = sessionTimers rate events (j + 1) := by
  induction n, within using Nat.le_induction with
  | base => rfl
  | succ n within ih =>
    have earlier := ih (by omega) fun k after before => held k after (by omega)
    rw [timers_of_holding rate (by omega) (held n within (by omega)) (held (n + 1) (by omega) le_rfl), earlier]

/-- The phases a trigger at event `n` rests on lie behind every earlier connect: the raise at `i`, the
entry into the hold at `j`, and the frame at `m` whose tick times the movement. -/
structure EvidenceBehindConnect (rate : TickRate) (events : List SessionEvent) (n i m j : ℕ)
    (first armed settled : Frame) : Prop where
  order : i ≤ m ∧ m < j ∧ j < n
  atI : events[i]? = some (.frame first)
  atM : events[m]? = some (.frame armed)
  atJ : events[j]? = some (.frame settled)
  idle : (sessionAt rate events i).detector.gestureState = .idle
  raised : (sessionAt rate events (i + 1)).detector.gestureState = .moving
  active : ∀ k, i < k → k ≤ n → (sessionAt rate events k).detector.gestureState = .moving ∨
    (sessionAt rate events k).detector.gestureState = .holding
  entered : (sessionAt rate events j).detector.gestureState = .moving
  held : ∀ k, j < k → k ≤ n → (sessionAt rate events k).detector.gestureState = .holding
  movingStart : (sessionAt rate events n).detector.movingStartTicks = armed.ticks
  holdStart : (sessionAt rate events n).detector.holdStartTicks = settled.ticks
  behind : ∀ c event, c < n → events[c]? = some event → (sessionAt rate events c).ConnectCompletes rate event →
    c < i

/-- Every `ConnectAsync` that completes before event `n` finds the detector idle or cooling down. -/
def ConnectsAtRest (rate : TickRate) (events : List SessionEvent) (n : ℕ) : Prop :=
  ∀ c event, c < n → events[c]? = some event → (sessionAt rate events c).ConnectCompletes rate event →
    (sessionAt rate events c).detector.gestureState = .idle ∨
      (sessionAt rate events c).detector.gestureState = .cooldown

/-- In every session whose connects all complete at rest, the evidence of a trigger lies behind the most
recent connect. -/
theorem evidence_behind_connect (rate : TickRate) (events : List SessionEvent) (n : ℕ) (last : Frame)
    (present : events[n]? = some (.frame last)) (atRest : ConnectsAtRest rate events n)
    (fires : (sessionAt rate events n).detector.fires rate last = true) :
    ∃ i m j first armed settled, EvidenceBehindConnect rate events n i m j first armed settled := by
  obtain ⟨bound, _⟩ := List.getElem?_eq_some_iff.mp present
  obtain ⟨queue, moves⟩ := sessionTimers_frame rate present
  rw [fires] at moves
  obtain ⟨holding, _⟩ := moves.of_fires
  obtain ⟨i, j, iLt, jLt, idle, raised, active, entered, held⟩ :=
    exists_phases (s := fun k => (sessionTimers rate events k).state) rfl
      (fun k before => sessionTimers_follows rate (by omega)) holding
  obtain ⟨first, atI, _⟩ := movingStart_of_raise rate (by omega) idle raised
  have entry := held (j + 1) (by omega) (by omega)
  obtain ⟨settled, atJ, holdStart⟩ := holdStart_of_settle rate (by omega) entered entry
  obtain ⟨m, armed, after, before, atM, movingStart⟩ := movingStart_since rate (by omega) iLt idle raised
  have unchanged := timers_since_entry rate bound.le jLt held
  have entryStart : (sessionTimers rate events (j + 1)).movingStart = (sessionTimers rate events j).movingStart := by
    rcases sessionTimers_step rate (show j < events.length by omega) with same | ⟨_, _, _, _, moves⟩
    · rw [same]
    · generalize sessionTimers rate events (j + 1) = u at moves entry ⊢
      cases moves with
      | settle | stay | giveUp | leave | keep | trigger | recover => rfl
      | raise | rearm => simp at entry
  refine ⟨i, m, j, first, armed, settled, ⟨after, before, jLt⟩, atI, atM, atJ, idle, raised, active, entered, held,
    ?_, ?_, ?_⟩
  · change (sessionTimers rate events n).movingStart = armed.ticks
    rw [unchanged, entryStart, movingStart]
  · change (sessionTimers rate events n).holdStart = settled.ticks
    rw [unchanged, holdStart]
  · -- a connect after the raise would have found the detector moving or holding
    intro c event before atC completes
    by_contra notBehind
    have rest := atRest c event before atC completes
    rcases Nat.eq_or_lt_of_le (not_lt.mp notBehind) with rfl | later
    · obtain rfl := Option.some.inj (atI.symm.trans atC)
      obtain ⟨call, differs, same⟩ := completes
      exact differs same
    · rcases active c later before.le with state | state <;>
        rcases rest with atRest | atRest <;> cases state.symm.trans atRest

/-- The link is dropped and made again. -/
def sampleReconnect : List SessionEvent :=
  [.connection (.invoke 1 .disconnect), .connection (.acquire 1), .connection (.resume 1 .completed),
    .connection (.resume 1 .completed)] ++
    (sampleConnect 2).map .connection

/-- A connection is lost before the first frame, and the next one lasts through a whole gesture. -/
def connectedGesture : List SessionEvent :=
  (sampleConnect 0).map .connection ++ sampleReconnect ++ (sampleGesture 1000).map .frame

theorem evidence_behind_connect_connectedGesture :
    ∃ i m j first armed settled, EvidenceBehindConnect sampleRate connectedGesture 33 i m j first armed settled := by
  refine evidence_behind_connect sampleRate connectedGesture 33 (raisedFrame 1450 500) rfl ?_ (by decide +kernel)
  have idle : ∀ c < 22, (sessionAt sampleRate connectedGesture c).detector.gestureState = .idle := by decide
  intro c event before atC completes
  by_cases early : c < 22
  · exact .inl (idle c early)
  · -- the rest of the session are frames, which complete no connect
    obtain ⟨call, differs, same⟩ := completes
    interval_cases c <;> first | omega | (obtain rfl := Option.some.inj atC; exact absurd same differs)

/-- The link drops while the hold is being counted, the client reconnects, and the next frame arrives a
minute after the last one. -/
def interruptedGesture : List SessionEvent :=
  (sampleConnect 0).map .connection ++ ((sampleGesture 1000).take 11).map .frame ++ sampleReconnect ++
    [.frame (raisedFrame 61270 500)]

theorem evidence_crosses_connect :
    Chronological (imuFrames interruptedGesture) ∧
    interruptedGesture[33]? = some (.frame (raisedFrame 61270 500)) ∧
    (sessionAt sampleRate interruptedGesture 33).detector.fires sampleRate (raisedFrame 61270 500) = true ∧
    ¬ ∃ i m j first armed settled,
      EvidenceBehindConnect sampleRate interruptedGesture 33 i m j first armed settled := by
  refine ⟨by decide, rfl, by decide +kernel, ?_⟩
  rintro ⟨i, m, j, first, armed, settled, evidence⟩
  have completes : (sessionAt sampleRate interruptedGesture 32).ConnectCompletes sampleRate
      (.connection (.resume 2 .completed)) := ⟨2, by decide, rfl⟩
  have behind := evidence.behind 32 _ (by decide) rfl completes
  have order := evidence.order
  omega

end GestureSuite
