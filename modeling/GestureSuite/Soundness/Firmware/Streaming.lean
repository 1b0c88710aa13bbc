import GestureSuite.Soundness.Firmware.Indicator
import GestureSuite.ToMathlib.ListWindow
import GestureSuite.ToMathlib.ModularClock

/-! # The streaming loop in true time

The loop keeps two deadlines as readings of a 32-bit millisecond clock and a counter of failed reads.
A tick has four outcomes, stated once by `Controller.Ticks`. Runs are given with the true time of every
clock reading, which never steps back and has no bound; the controller sees it modulo the period of the
clock. The distances between publishes, the meaning of the counter and what the published status says
about it follow by induction on the run.
-/

namespace GestureSuite.Firmware

open Machine

inductive TickOutcome where
  /-- No client, no sensor, or too early. -/
  | skipped
  /-- The read failed; the flag says whether the status was published for it. -/
  | failed (announced : Bool)
  /-- A sample was published. -/
  | streamed
deriving DecidableEq, Repr

/-- The exit at which `tick` returns. -/
def Controller.outcome (c : Controller) (now : UInt32) (readRegs : Option (Vector UInt8 14)) (sampleMs : UInt32) :
    TickOutcome :=
  if !c.clientConnected || !c.imuReady then .skipped
  else if now - c.lastImuPublishMs < kImuPublishIntervalMs then .skipped
  else
    match readSample c.imuReady readRegs sampleMs with
    | none => .failed (1000 ≤ now - c.lastImuReadFailLogMs)
    | some _ => .streamed

/-- The last status text that was published is the one for this count of failed reads. -/
def Controller.ShowsFailCount (c : Controller) (count : UInt32) : Prop :=
  ∃ status mode imuReady reason, c.statusCharacteristic = some status ∧
    status.value = buildStatusText mode imuReady count ++ ",RST:".toList ++ reason

/-- The effect of a tick on the deadlines, the counter and the published status. -/
inductive Controller.Ticks (c d : Controller) (now : UInt32) : TickOutcome → Prop
  | skipped (publish : d.lastImuPublishMs = c.lastImuPublishMs) (count : d.imuReadFailCount = c.imuReadFailCount)
      (log : d.lastImuReadFailLogMs = c.lastImuReadFailLogMs)
      (status : d.statusCharacteristic = c.statusCharacteristic) : Ticks c d now .skipped
  | failed (publish : d.lastImuPublishMs = c.lastImuPublishMs) (count : d.imuReadFailCount = c.imuReadFailCount + 1)
      (log : d.lastImuReadFailLogMs = c.lastImuReadFailLogMs)
      (status : d.statusCharacteristic = c.statusCharacteristic) : Ticks c d now (.failed false)
  | announced (due : 1000 ≤ now - c.lastImuReadFailLogMs) (publish : d.lastImuPublishMs = c.lastImuPublishMs)
      (count : d.imuReadFailCount = c.imuReadFailCount + 1) (log : d.lastImuReadFailLogMs = now)
      (shown : c.statusCharacteristic.isSome = true → d.ShowsFailCount (c.imuReadFailCount + 1)) :
      Ticks c d now (.failed true)
  | streamed (due : kImuPublishIntervalMs ≤ now - c.lastImuPublishMs) (publish : d.lastImuPublishMs = now)
      (count : d.imuReadFailCount = 0) (log : d.lastImuReadFailLogMs = c.lastImuReadFailLogMs)
      (shown : c.imuReadFailCount ≠ 0 → c.statusCharacteristic.isSome = true → d.ShowsFailCount 0)
      (unchanged : c.imuReadFailCount = 0 → d.statusCharacteristic = c.statusCharacteristic) :
      Ticks c d now .streamed

private theorem publishStatus_showsFailCount {c : Controller} (made : c.statusCharacteristic.isSome = true) :
    c.publishStatus.ShowsFailCount c.imuReadFailCount := by
  obtain ⟨status, present⟩ := Option.isSome_iff_exists.mp made
  exact ⟨_, c.bleIndicatorMode, c.imuReady, c.bootResetReason, by rw [Controller.publishStatus, present]; rfl, rfl⟩

/-- The LED update touches none of the fields the loop decides on. -/
private theorem updateBleIndicator_frame (c : Controller) (now : UInt32) :
    ∃ blinkOutputOn lastBlinkToggleMs ledOutput,
      c.updateBleIndicator now = { c with blinkOutputOn, lastBlinkToggleMs, ledOutput } := by
  rw [Controller.updateBleIndicator]
  split
  · exact ⟨_, _, _, rfl⟩
  · split
    · exact ⟨_, _, _, rfl⟩
    · exact ⟨c.blinkOutputOn, c.lastBlinkToggleMs, c.ledOutput, rfl⟩
  · exact ⟨_, _, _, rfl⟩

/-- Every tick has the effect of its outcome. -/
theorem Controller.tick_ticks (c : Controller) (millis now : UInt32) (readRegs : Option (Vector UInt8 14))
    (sampleMs : UInt32) :
    c.Ticks (c.tick millis now readRegs sampleMs) now (c.outcome now readRegs sampleMs) := by
  obtain ⟨blink, toggle, led, updated⟩ := updateBleIndicator_frame c millis
  rw [tick, updated, outcome]
  dsimp only
  by_cases absent : (!c.clientConnected || !c.imuReady) = true
  · rw [if_pos absent, if_pos absent]
    exact .skipped rfl rfl rfl rfl
  rw [if_neg absent, if_neg absent]
  by_cases early : now - c.lastImuPublishMs < kImuPublishIntervalMs
  · rw [if_pos early, if_pos early]
    exact .skipped rfl rfl rfl rfl
  rw [if_neg early, if_neg early]
  cases readSample c.imuReady readRegs sampleMs with
  | none =>
    by_cases due : 1000 ≤ now - c.lastImuReadFailLogMs
    · simp only [if_pos due, decide_eq_true due]
      exact .announced due rfl rfl rfl fun made => publishStatus_showsFailCount made
    · simp only [if_neg due, decide_eq_false due]
      exact .failed rfl rfl rfl rfl
  | some sample =>
    have due : kImuPublishIntervalMs ≤ now - c.lastImuPublishMs := UInt32.not_lt.mp early
    by_cases failing : c.imuReadFailCount = 0
    · simp only [ne_eq, failing, not_true_eq_false, if_false]
      exact .streamed due rfl rfl rfl (fun nonzero => absurd failing nonzero) fun _ => rfl
    · simp only [ne_eq, failing, not_false_eq_true, if_true]
      exact .streamed due rfl rfl rfl (fun _ made => publishStatus_showsFailCount made) fun zero => absurd zero failing

/-- The outcome of a board event; only a `tick` behind `begin` can have one. -/
def Board.outcome (b : Board) : BoardEvent → TickOutcome
  | .tick _ now readRegs sampleMs => if b.begun then b.controller.outcome now readRegs sampleMs else .skipped
  | _ => .skipped

/-- A board event with the true times, in milliseconds since power on, of its clock readings. -/
inductive TimedEvent where
  | statement (millisAt : ℕ) (resetReason : ResetReason) (imuFound : Bool)
  | connect (millisAt : ℕ)
  | disconnect (millisAt : ℕ)
  | tick (millisAt nowAt : ℕ) (readRegs : Option (Vector UInt8 14)) (sampleAt : ℕ)
deriving DecidableEq, Repr

/-- What the board sees of it: `millis()` is the true time modulo 2^32. -/
def TimedEvent.seen : TimedEvent → BoardEvent
  | .statement millisAt resetReason imuFound => .statement { resetReason, imuFound, millis := UInt32.ofNat millisAt }
  | .connect millisAt => .connect (UInt32.ofNat millisAt)
  | .disconnect millisAt => .disconnect (UInt32.ofNat millisAt)
  | .tick millisAt nowAt readRegs sampleAt =>
    .tick (UInt32.ofNat millisAt) (UInt32.ofNat nowAt) readRegs (UInt32.ofNat sampleAt)

/-- The true time of the reading the event is dated by: the one in `now` for a tick. -/
def TimedEvent.time : TimedEvent → ℕ
  | .statement millisAt _ _ => millisAt
  | .connect millisAt => millisAt
  | .disconnect millisAt => millisAt
  | .tick _ nowAt _ _ => nowAt

/-- True time never steps back. -/
def Timely (timed : List TimedEvent) : Prop := timed.Pairwise fun a b => a.time ≤ b.time

instance (timed : List TimedEvent) : Decidable (Timely timed) := inferInstanceAs (Decidable (List.Pairwise _ _))

/-- The board in front of event `k` of a timed run. -/
def timedAt (timed : List TimedEvent) (k : ℕ) : Board := boardAt (timed.map TimedEvent.seen) k

/-- The outcome of event `k`. -/
def outcomeAt (timed : List TimedEvent) (k : ℕ) : TickOutcome :=
  match timed[k]? with
  | some event => (timedAt timed k).outcome event.seen
  | none => .skipped

/-- Event `k` has this outcome, and this is its time. -/
def EndsAt (timed : List TimedEvent) (k : ℕ) (outcome : TickOutcome) (time : ℕ) : Prop :=
  outcomeAt timed k = outcome ∧ ∃ event, timed[k]? = some event ∧ event.time = time

def TickOutcome.isFailed : TickOutcome → Bool
  | .failed _ => true
  | _ => false

/-- The number of reads that have failed before event `k`, with no successful read behind them. -/
def failedReads (timed : List TimedEvent) (k : ℕ) : ℕ :=
  (List.range k).countP fun i => (outcomeAt timed i).isFailed && decide (∀ j < k, i < j → outcomeAt timed j ≠ .streamed)

theorem failedReads_succ (timed : List TimedEvent) (k : ℕ) :
    failedReads timed (k + 1) =
      if outcomeAt timed k = .streamed then 0
      else failedReads timed k + if (outcomeAt timed k).isFailed then 1 else 0 := by
  have extend (i : ℕ) (before : i < k) : (∀ j < k + 1, i < j → outcomeAt timed j ≠ .streamed) ↔
      (∀ j < k, i < j → outcomeAt timed j ≠ .streamed) ∧ outcomeAt timed k ≠ .streamed := by
    constructor
    · intro none
      exact ⟨fun j inside after => none j (by omega) after, none k (by omega) before⟩
    · rintro ⟨none, here⟩ j inside after
      rcases Nat.lt_succ_iff_lt_or_eq.mp inside with earlier | rfl
      · exact none j earlier after
      · exact here
  have last : decide (∀ j < k + 1, k < j → outcomeAt timed j ≠ .streamed) = true := by
    rw [decide_eq_true_eq]
    intro j inside after
    omega
  rw [failedReads, List.range_succ, List.countP_append, List.countP_singleton, last, Bool.and_true]
  by_cases streamed : outcomeAt timed k = .streamed
  · rw [if_pos streamed, streamed]
    change List.countP _ _ + 0 = 0
    rw [Nat.add_zero, List.countP_eq_zero]
    intro i member
    rw [Bool.and_eq_true, decide_eq_true_eq, extend i (List.mem_range.mp member)]
    exact fun pending => pending.2.2 streamed
  · rw [if_neg streamed, failedReads]
    congr 1
    apply List.countP_congr
    intro i member
    rw [Bool.and_eq_true, Bool.and_eq_true, decide_eq_true_eq, decide_eq_true_eq, extend i (List.mem_range.mp member)]
    exact and_congr_right fun _ => and_iff_left streamed

/-- What an event does to the deadlines, the counter and the published status. -/
inductive Board.Streams (b b' : Board) (time : ℕ) : TickOutcome → Prop
  | ticked {outcome : TickOutcome} (begun : b.begun = true)
      (ticks : b.controller.Ticks b'.controller (UInt32.ofNat time) outcome) : Streams b b' time outcome
  | other (count : b'.controller.imuReadFailCount = b.controller.imuReadFailCount)
      (log : b'.controller.lastImuReadFailLogMs = b.controller.lastImuReadFailLogMs)
      (publish : b'.controller.lastImuPublishMs = b.controller.lastImuPublishMs ∨
        b'.controller.lastImuPublishMs = UInt32.ofNat time)
      (shown : b'.begun = true → b'.controller.ShowsFailCount b'.controller.imuReadFailCount ∨
        b.begun = true ∧ b'.controller.statusCharacteristic = b.controller.statusCharacteristic) :
      Streams b b' time .skipped

/-- No statement of `begin` touches the counter or the date of the last failure. -/
private theorem execute_counters (c : Controller) (surroundings : Surroundings) (statement : Statement) :
    (c.execute surroundings statement).imuReadFailCount = c.imuReadFailCount ∧
      (c.execute surroundings statement).lastImuReadFailLogMs = c.lastImuReadFailLogMs ∧
      ((c.execute surroundings statement).lastImuPublishMs = c.lastImuPublishMs ∨
        (c.execute surroundings statement).lastImuPublishMs = surroundings.millis) := by
  cases statement with
  | stampImuPublish => exact ⟨rfl, rfl, .inr rfl⟩
  | _ => exact ⟨rfl, rfl, .inl rfl⟩

private theorem handleConnect_counters (c : Controller) (millis : UInt32) :
    (c.handleConnect millis).imuReadFailCount = c.imuReadFailCount ∧
      (c.handleConnect millis).lastImuReadFailLogMs = c.lastImuReadFailLogMs ∧
      (c.handleConnect millis).lastImuPublishMs = c.lastImuPublishMs := by
  rw [Controller.handleConnect]
  split_ifs <;> exact ⟨rfl, rfl, rfl⟩

private theorem handleDisconnect_counters (c : Controller) (millis : UInt32) :
    (c.handleDisconnect millis).imuReadFailCount = c.imuReadFailCount ∧
      (c.handleDisconnect millis).lastImuReadFailLogMs = c.lastImuReadFailLogMs ∧
      (c.handleDisconnect millis).lastImuPublishMs = c.lastImuPublishMs := by
  rw [Controller.handleDisconnect]
  split_ifs <;> exact ⟨rfl, rfl, rfl⟩

private theorem handleConnect_shows {c : Controller} (callbacks : c.hasCallbacks = true)
    (made : c.statusCharacteristic.isSome = true) (millis : UInt32) :
    (c.handleConnect millis).ShowsFailCount (c.handleConnect millis).imuReadFailCount := by
  rw [Controller.handleConnect, if_pos callbacks]
  exact publishStatus_showsFailCount made

private theorem handleDisconnect_shows {c : Controller} (callbacks : c.hasCallbacks = true)
    (made : c.statusCharacteristic.isSome = true) (millis : UInt32) :
    (c.handleDisconnect millis).ShowsFailCount (c.handleDisconnect millis).imuReadFailCount := by
  rw [Controller.handleDisconnect, if_pos callbacks]
  exact publishStatus_showsFailCount made

variable {timed : List TimedEvent} {k : ℕ}

private theorem timedAt_wired (bound : k ≤ timed.length) : (timedAt timed k).Wired :=
  boardAt_wired (by simpa using bound)

theorem timedAt_streams {event : TimedEvent} (present : timed[k]? = some event) :
    (timedAt timed k).Streams (timedAt timed (k + 1)) event.time (outcomeAt timed k) := by
  have wired := timedAt_wired (List.getElem?_eq_some_iff.mp present).1.le
  have served (begun : (timedAt timed k).begun = true) := wired.made (by rw [List.isEmpty_iff.mp begun]; simp)
  have seen : (timed.map TimedEvent.seen)[k]? = some event.seen := by
    rw [List.getElem?_map, present]
    rfl
  have moved : (timedAt timed k).Moves event.seen (timedAt timed (k + 1)) := boardAt_moves seen
  have stepped : timedAt timed (k + 1) = (timedAt timed k).next event.seen := trajectory_succ _ _ _ seen
  have outcome : outcomeAt timed k = (timedAt timed k).outcome event.seen := by
    rw [outcomeAt, present]
  rw [outcome]
  generalize timedAt timed (k + 1) = next at moved stepped ⊢
  generalize timedAt timed k = b at moved stepped wired served ⊢
  cases event with
  | statement millisAt resetReason imuFound =>
    cases moved with
    | @execute _ statement rest first =>
      obtain ⟨count, log, publish⟩ :=
        execute_counters b.controller ⟨resetReason, imuFound, UInt32.ofNat millisAt⟩ statement
      refine .other count log publish fun finished => .inl ?_
      have suffix := wired.suffix
      obtain rfl := List.isEmpty_iff.mp finished
      rw [first] at suffix
      obtain rfl := eq_publishStatus_of_last suffix
      exact publishStatus_showsFailCount (wired.made (by rw [first]; decide)).2
    | skip => exact .other rfl rfl (.inl rfl) fun begun => .inr ⟨begun, rfl⟩
  | connect millisAt =>
    cases moved with
    | connect due =>
      obtain ⟨count, log, publish⟩ := handleConnect_counters b.controller (UInt32.ofNat millisAt)
      refine .other count log (.inl publish) fun begun => .inl ?_
      exact handleConnect_shows (served begun).1 (served begun).2 _
    | skip => exact .other rfl rfl (.inl rfl) fun begun => .inr ⟨begun, rfl⟩
  | disconnect millisAt =>
    cases moved with
    | disconnect due =>
      obtain ⟨count, log, publish⟩ := handleDisconnect_counters b.controller (UInt32.ofNat millisAt)
      refine .other count log (.inl publish) fun begun => .inl ?_
      exact handleDisconnect_shows (served begun).1 (served begun).2 _
    | skip => exact .other rfl rfl (.inl rfl) fun begun => .inr ⟨begun, rfl⟩
  | tick millisAt nowAt readRegs sampleAt =>
    rw [stepped, TimedEvent.seen, Board.next, Board.outcome]
    split_ifs with begun
    · exact .ticked begun (Controller.tick_ticks ..)
    · exact .other rfl rfl (.inl rfl) fun returned => absurd returned begun

/-- A reading that dates back to a time not before any earlier marked event and not after any later one. -/
def Dates (timed : List TimedEvent) (marked : ℕ → Prop) (k : ℕ) (reading : UInt32) : Prop :=
  ∃ date, reading = UInt32.ofNat date ∧
    (∀ i event, i < k → timed[i]? = some event → marked i → event.time ≤ date) ∧
    ∀ j event, k ≤ j → timed[j]? = some event → date ≤ event.time

section Dates

variable {marked : ℕ → Prop} {reading : UInt32} {event : TimedEvent}

private theorem Dates.keep (dates : Dates timed marked k reading) (unmarked : ¬ marked k) :
    Dates timed marked (k + 1) reading := by
  obtain ⟨date, same, before, after⟩ := dates
  refine ⟨date, same, ?_, fun j other later => after j other (by omega)⟩
  intro i other earlier atI isMarked
  rcases Nat.lt_succ_iff_lt_or_eq.mp earlier with older | rfl
  · exact before i other older atI isMarked
  · exact absurd isMarked unmarked

private theorem dates_stamp (timely : Timely timed) (present : timed[k]? = some event) :
    Dates timed marked (k + 1) (UInt32.ofNat event.time) := by
  refine ⟨event.time, rfl, ?_, ?_⟩
  · intro i other earlier atI _
    exact timely.key_le_of_getElem? TimedEvent.time (by omega) atI present
  · intro j other later atJ
    exact timely.key_le_of_getElem? TimedEvent.time (by omega) present atJ

/-- A distance that the clock shows since the date lies behind every earlier marked event. -/
private theorem Dates.apart (dates : Dates timed marked k reading) (present : timed[k]? = some event)
    {distance : UInt32} (shown : distance ≤ UInt32.ofNat event.time - reading) {i : ℕ} {earlier : TimedEvent}
    (before : i < k) (atI : timed[i]? = some earlier) (isMarked : marked i) :
    earlier.time + distance.toNat ≤ event.time := by
  obtain ⟨date, rfl, notLater, notEarlier⟩ := dates
  have order := notEarlier k event le_rfl present
  have since := notLater i earlier before atI isMarked
  have apart := UInt32.toNat_le_sub_of_le order shown
  omega

end Dates

/-- A reading that every event either leaves alone, being unmarked, or sets to its own time. -/
private theorem dates_of_steps (timely : Timely timed) (marked : ℕ → Prop) (reading : ℕ → UInt32)
    (initial : reading 0 = UInt32.ofNat 0)
    (step : ∀ k event, timed[k]? = some event →
      reading (k + 1) = reading k ∧ ¬ marked k ∨ reading (k + 1) = UInt32.ofNat event.time)
    (k : ℕ) (bound : k ≤ timed.length) : Dates timed marked k (reading k) := by
  induction k with
  | zero => exact ⟨0, initial, fun i _ before => absurd before (Nat.not_lt_zero i), fun _ _ _ _ => Nat.zero_le _⟩
  | succ k ih =>
    have present : timed[k]? = some timed[k] := List.getElem?_eq_getElem (by omega)
    rcases step k _ present with ⟨kept, unmarked⟩ | stamped
    · rw [kept]
      exact (ih (by omega)).keep unmarked
    · rw [stamped]
      exact dates_stamp timely present

private theorem lastImuPublishMs_dates (timely : Timely timed) (k : ℕ) (bound : k ≤ timed.length) :
    Dates timed (outcomeAt timed · = .streamed) k (timedAt timed k).controller.lastImuPublishMs := by
  refine dates_of_steps timely _ (fun k => (timedAt timed k).controller.lastImuPublishMs) rfl ?_ k bound
  intro k event present
  have streams := timedAt_streams present
  generalize outcomeAt timed k = outcome at streams ⊢
  cases streams with
  | other _ _ publish => exact publish.imp_left fun kept => ⟨kept, by simp⟩
  | ticked _ ticks =>
    cases ticks with
    | skipped publish | failed publish | announced _ publish => exact .inl ⟨publish, by simp⟩
    | streamed _ publish => exact .inr publish

private theorem lastImuReadFailLogMs_dates (timely : Timely timed) (k : ℕ) (bound : k ≤ timed.length) :
    Dates timed (outcomeAt timed · = .failed true) k (timedAt timed k).controller.lastImuReadFailLogMs := by
  refine dates_of_steps timely _ (fun k => (timedAt timed k).controller.lastImuReadFailLogMs) rfl ?_ k bound
  intro k event present
  have streams := timedAt_streams present
  generalize outcomeAt timed k = outcome at streams ⊢
  cases streams with
  | other _ log => exact .inl ⟨log, by simp⟩
  | ticked _ ticks =>
    cases ticks with
    | skipped _ _ log | failed _ _ log | streamed _ _ _ log => exact .inl ⟨log, by simp⟩
    | announced _ _ _ log => exact .inr log

/-- The counter is the number of pending failures, in 32 bits. -/
private theorem imuReadFailCount_eq (k : ℕ) (bound : k ≤ timed.length) :
    (timedAt timed k).controller.imuReadFailCount = UInt32.ofNat (failedReads timed k) := by
  induction k with
  | zero => rfl
  | succ k ih =>
    have present : timed[k]? = some timed[k] := List.getElem?_eq_getElem (by omega)
    have before := ih (by omega)
    have streams := timedAt_streams present
    rw [failedReads_succ]
    generalize outcomeAt timed k = result at streams
    cases streams with
    | other count =>
      rw [count, before]
      rfl
    | ticked _ ticks =>
      cases ticks with
      | skipped _ count =>
        rw [count, before]
        rfl
      | failed _ count | announced _ _ count =>
        rw [count, before]
        exact (UInt32.ofNat_add _ _).symm
      | streamed _ _ count => exact count

private theorem Controller.ShowsFailCount.congr {c d : Controller} {count : UInt32} (shows : c.ShowsFailCount count)
    (same : d.statusCharacteristic = c.statusCharacteristic) : d.ShowsFailCount count := by
  obtain ⟨status, mode, imuReady, reason, present, text⟩ := shows
  exact ⟨status, mode, imuReady, reason, same.trans present, text⟩

/-- A counter that has not wrapped is zero only when no failure is pending. -/
private theorem failedReads_eq_zero (bound : k ≤ timed.length) (short : failedReads timed k < 2 ^ 32)
    (zero : (timedAt timed k).controller.imuReadFailCount = 0) : failedReads timed k = 0 := by
  have value := congrArg UInt32.toNat ((imuReadFailCount_eq k bound).symm.trans zero)
  rw [UInt32.toNat_ofNat', Nat.mod_eq_of_lt short] at value
  exact value

/-- As long as the counter has not wrapped, a counter at zero is what the status shows. -/
private theorem showsFailCount_zero (k : ℕ) (bound : k ≤ timed.length) (short : ∀ j ≤ k, failedReads timed j < 2 ^ 32)
    (begun : (timedAt timed k).begun = true) (zero : (timedAt timed k).controller.imuReadFailCount = 0) :
    (timedAt timed k).controller.ShowsFailCount 0 := by
  induction k with
  | zero => cases begun
  | succ k ih =>
    have present : timed[k]? = some timed[k] := List.getElem?_eq_getElem (by omega)
    have before := ih (by omega) fun j within => short j (by omega)
    have wired : (timedAt timed k).Wired := timedAt_wired (by omega)
    have made (begun : (timedAt timed k).begun = true) :=
      (wired.made (by rw [List.isEmpty_iff.mp begun]; simp)).2
    have pending := failedReads_eq_zero bound (short (k + 1) le_rfl) zero
    have streams := timedAt_streams present
    rw [failedReads_succ] at pending
    generalize outcomeAt timed k = outcome at streams pending
    cases streams with
    | other count _ _ shown =>
      rcases shown begun with fresh | ⟨already, same⟩
      · rw [zero] at fresh
        exact fresh
      · exact (before already (count.symm.trans zero)).congr same
    | ticked already ticks =>
      cases ticks with
      | skipped _ count _ status => exact (before already (count.symm.trans zero)).congr status
      | failed => simp [TickOutcome.isFailed] at pending
      | announced => simp [TickOutcome.isFailed] at pending
      | streamed _ _ _ _ shown unchanged =>
        by_cases clear : (timedAt timed k).controller.imuReadFailCount = 0
        · exact (before already clear).congr (unchanged clear)
        · exact shown clear (made already)

/-- The streaming loop over every run: publishes are 20 ms apart and announced failures 1000 ms apart in
true time; the counter is the number of reads that failed since the last success; and until 2^32 reads
have failed in a row, a counter at zero is what the status shows. -/
theorem streaming_loop (timed : List TimedEvent) (timely : Timely timed) :
    (∀ i j s t, i < j → EndsAt timed i .streamed s → EndsAt timed j .streamed t → s + 20 ≤ t) ∧
    (∀ k ≤ timed.length, failedReads timed k < 2 ^ 32 →
      (timedAt timed k).controller.imuReadFailCount.toNat = failedReads timed k) ∧
    (∀ k ≤ timed.length, (∀ j ≤ k, failedReads timed j < 2 ^ 32) → (timedAt timed k).begun = true →
      (timedAt timed k).controller.imuReadFailCount = 0 → (timedAt timed k).controller.ShowsFailCount 0) ∧
    (∀ i j s t, i < j → EndsAt timed i (.failed true) s → EndsAt timed j (.failed true) t → s + 1000 ≤ t) := by
  refine ⟨?_, ?_, ?_, ?_⟩
  · rintro i j s t before ⟨first, earlier, atI, rfl⟩ ⟨second, event, atJ, rfl⟩
    have dates := lastImuPublishMs_dates timely j (List.getElem?_eq_some_iff.mp atJ).1.le
    have streams := timedAt_streams atJ
    rw [second] at streams
    cases streams with
    | ticked _ ticks =>
      cases ticks with
      | streamed due => exact dates.apart atJ due before atI first
  · intro k bound short
    rw [imuReadFailCount_eq k bound, UInt32.toNat_ofNat', Nat.mod_eq_of_lt short]
  · exact fun k bound short begun zero => showsFailCount_zero k bound short begun zero
  · rintro i j s t before ⟨first, earlier, atI, rfl⟩ ⟨second, event, atJ, rfl⟩
    have dates := lastImuReadFailLogMs_dates timely j (List.getElem?_eq_some_iff.mp atJ).1.le
    have streams := timedAt_streams atJ
    rw [second] at streams
    cases streams with
    | ticked _ ticks =>
      cases ticks with
      | announced due => exact dates.apart atJ due before atI first

private theorem bleModeToText_cancel {mode mode' : BleIndicatorMode} {tail tail' : List Char}
    (same : bleModeToText mode ++ (',' :: tail) = bleModeToText mode' ++ (',' :: tail')) : tail = tail' := by
  cases mode <;> cases mode' <;> cases same <;> rfl

private theorem readyText_cancel {imuReady imuReady' : Bool} {tail tail' : List Char}
    (same : (if imuReady then "READY" else "NOT_READY").toList ++ tail =
      (if imuReady' then "READY" else "NOT_READY").toList ++ tail') : tail = tail' := by
  cases imuReady <;> cases imuReady' <;> cases same <;> rfl

private theorem buildStatusText_append (mode : BleIndicatorMode) (imuReady : Bool) (count : UInt32) (tail : List Char) :
    buildStatusText mode imuReady count ++ tail =
      "BLE:".toList ++ (bleModeToText mode ++ (",IMU:".toList ++ ((if imuReady then "READY" else "NOT_READY").toList ++
        (",IMU_FAIL:".toList ++ (Nat.toDigits 10 count.toNat ++ tail))))) := by
  delta buildStatusText
  iterate 5 rw [List.append_assoc]

/-- A status text shows one count only. -/
theorem Controller.ShowsFailCount.unique {c : Controller} {count count' : UInt32} (first : c.ShowsFailCount count)
    (second : c.ShowsFailCount count') : count = count' := by
  obtain ⟨status, mode, imuReady, reason, present, text⟩ := first
  obtain ⟨status', mode', imuReady', reason', present', text'⟩ := second
  obtain rfl := Option.some.inj (present.symm.trans present')
  rw [List.append_assoc, buildStatusText_append] at text text'
  have same := text.symm.trans text'
  have behindMode := bleModeToText_cancel (List.append_cancel_left same)
  have behindReady := readyText_cancel (List.append_cancel_left
    (show "IMU:".toList ++ _ = "IMU:".toList ++ _ from behindMode))
  have digits := List.append_cancel_left behindReady
  have shown := congrArg (List.takeWhile Char.isDigit) digits
  rw [show ",RST:".toList ++ reason = ',' :: ("RST:".toList ++ reason) from rfl,
    show ",RST:".toList ++ reason' = ',' :: ("RST:".toList ++ reason') from rfl] at shown
  rw [(Text.takeWhile_toDigits_append count.toNat (by decide) _).1,
    (Text.takeWhile_toDigits_append count'.toNat (by decide) _).1] at shown
  have value := congrArg (Nat.ofDigitChars 10 · 0) shown
  simp only [Nat.ofDigitChars_ten_toDigits] at value
  exact UInt32.toNat_inj.mp value

/-- `begin` and a connect, all at 500 ms. -/
def timedStart : List TimedEvent := List.replicate 10 (.statement 500 .powerOn true) ++ [.connect 500]

/-- A read that succeeds. -/
def sampleRegs : Option (Vector UInt8 14) := some (Vector.replicate 14 0)

/-- Two samples 20 ms apart. -/
def steadyStream : List TimedEvent := timedStart ++ [.tick 520 520 sampleRegs 520, .tick 540 540 sampleRegs 540]

theorem streaming_loop_steadyStream :
    520 + 20 ≤ 540 ∧ (timedAt steadyStream 13).controller.ShowsFailCount 0 := by
  have loop := streaming_loop steadyStream (by decide)
  refine ⟨loop.1 11 12 520 540 (by decide) ⟨rfl, _, rfl, rfl⟩ ⟨rfl, _, rfl, rfl⟩, loop.2.2.1 13 le_rfl ?_ rfl rfl⟩
  intro j within
  interval_cases j <;> decide

/-- Two failing reads per millisecond, from 2000 ms on. -/
def failingTick (i : ℕ) : TimedEvent := .tick (2000 + i / 2) (2000 + i / 2) none (2000 + i / 2)

def failingRun (n : ℕ) : List TimedEvent := timedStart ++ (List.range n).map failingTick

/-- After `k` failing reads: the last one that was announced is the last one at a full second. -/
structure Failing (k : ℕ) (c : Controller) : Prop where
  connected : c.clientConnected = true
  ready : c.imuReady = true
  made : c.statusCharacteristic.isSome = true
  publish : c.lastImuPublishMs = UInt32.ofNat 500
  count : c.imuReadFailCount = UInt32.ofNat k
  log : c.lastImuReadFailLogMs = UInt32.ofNat (2000 + 1000 * ((k - 1) / 2000))
  shows : c.ShowsFailCount (UInt32.ofNat (2000 * ((k - 1) / 2000) + 1))

private theorem tick_ready (c : Controller) (millis now : UInt32) (readRegs : Option (Vector UInt8 14))
    (sampleMs : UInt32) : (c.tick millis now readRegs sampleMs).imuReady = c.imuReady := by
  obtain ⟨blink, toggle, led, updated⟩ := updateBleIndicator_frame c millis
  rw [Controller.tick, updated]
  dsimp only
  split_ifs
  · rfl
  · rfl
  · cases readSample c.imuReady readRegs sampleMs <;> rfl
  · cases readSample c.imuReady readRegs sampleMs <;> rfl
  · cases readSample c.imuReady readRegs sampleMs <;> rfl
  · cases readSample c.imuReady readRegs sampleMs <;> rfl

/-- While no sample has been published, every reading up to 2^31 ms later is due. -/
private theorem failing_outcome {c : Controller} {k : ℕ} (failing : Failing k c) (bound : k < 2 ^ 32) :
    c.outcome (UInt32.ofNat (2000 + k / 2)) none (UInt32.ofNat (2000 + k / 2)) =
      .failed (1000 ≤ UInt32.ofNat (2000 + k / 2) - c.lastImuReadFailLogMs) := by
  have waited : ¬ UInt32.ofNat (2000 + k / 2) - c.lastImuPublishMs < kImuPublishIntervalMs := by
    rw [failing.publish, UInt32.lt_iff_toNat_lt, UInt32.toNat_ofNat_sub_ofNat (by omega)]
    change ¬ _ < 20
    omega
  rw [Controller.outcome, failing.connected, failing.ready, if_neg (by decide), if_neg waited]
  rfl

private theorem failing_due {c : Controller} {k : ℕ} (failing : Failing k c) (positive : 0 < k) (bound : k < 2 ^ 32) :
    1000 ≤ UInt32.ofNat (2000 + k / 2) - c.lastImuReadFailLogMs ↔ 2000 ∣ k := by
  rw [failing.log, UInt32.le_iff_toNat_le, UInt32.toNat_ofNat_sub_ofNat (by omega)]
  change 1000 ≤ _ ↔ _
  omega

private theorem failing_step {c : Controller} {k : ℕ} (failing : Failing k c) (positive : 0 < k) (bound : k < 2 ^ 32)
    (millis : UInt32) :
    Failing (k + 1) (c.tick millis (UInt32.ofNat (2000 + k / 2)) none (UInt32.ofNat (2000 + k / 2))) := by
  have ticks := c.tick_ticks millis (UInt32.ofNat (2000 + k / 2)) none (UInt32.ofNat (2000 + k / 2))
  have keeps := c.tick_keeps millis (UInt32.ofNat (2000 + k / 2)) none (UInt32.ofNat (2000 + k / 2))
  have ready := tick_ready c millis (UInt32.ofNat (2000 + k / 2)) none (UInt32.ofNat (2000 + k / 2))
  have due := failing_due failing positive bound
  have next : UInt32.ofNat k + 1 = UInt32.ofNat (k + 1) := (UInt32.ofNat_add k 1).symm
  rw [failing_outcome failing bound] at ticks
  generalize c.tick millis _ none _ = d at ticks keeps ready ⊢
  by_cases second : 2000 ∣ k
  · have phase : (k + 1 - 1) / 2000 = k / 2000 := rfl
    have same : 1000 * (k / 2000) = k / 2 ∧ 2000 * (k / 2000) = k := by omega
    rw [decide_eq_true (due.mpr second)] at ticks
    cases ticks with
    | announced _ publish count log shown =>
      refine ⟨keeps.connected.trans failing.connected, ready.trans failing.ready, keeps.present.trans failing.made,
        publish.trans failing.publish, ?_, ?_, ?_⟩
      · rw [count, failing.count, next]
      · rw [log, phase, same.1]
      · have text := shown failing.made
        rw [failing.count, next] at text
        rw [phase, same.2]
        exact text
  · have phase : (k + 1 - 1) / 2000 = (k - 1) / 2000 := by omega
    rw [decide_eq_false (fun shown => second (due.mp shown))] at ticks
    cases ticks with
    | failed publish count log status =>
      refine ⟨keeps.connected.trans failing.connected, ready.trans failing.ready, keeps.present.trans failing.made,
        publish.trans failing.publish, ?_, ?_, ?_⟩
      · rw [count, failing.count, next]
      · rw [log, failing.log, phase]
      · rw [phase]
        exact failing.shows.congr status

private theorem failingRun_getElem? {n k : ℕ} (bound : k < n) : (failingRun n)[11 + k]? = some (failingTick k) := by
  rw [failingRun, List.getElem?_append_right (Nat.le_add_right 11 k), List.getElem?_map]
  change ((List.range n)[11 + k - 11]?).map failingTick = _
  rw [Nat.add_sub_cancel_left, List.getElem?_range bound]
  rfl

private theorem failingRun_length (n : ℕ) : (failingRun n).length = 11 + n := by
  rw [failingRun, List.length_append, List.length_map, List.length_range]
  rfl

private theorem failingRun_timely (n : ℕ) : Timely (failingRun n) := by
  apply List.pairwise_append.mpr
  refine ⟨by decide, ?_, ?_⟩
  · apply List.pairwise_map.mpr
    refine List.pairwise_lt_range.imp fun {i j} order => ?_
    change 2000 + i / 2 ≤ 2000 + j / 2
    omega
  · intro first early second late
    obtain ⟨i, _, rfl⟩ := List.mem_map.mp late
    have started : first.time = 500 := by revert first; decide
    change first.time ≤ 2000 + i / 2
    omega

private theorem timedAt_failingRun_start (n : ℕ) : timedAt (failingRun n) 11 = timedAt timedStart 11 := by
  rw [timedAt, timedAt, boardAt, boardAt, trajectory, trajectory, failingRun, List.map_append,
    List.take_append_of_le_length (by decide)]

private theorem failing_run (n : ℕ) (bound : n ≤ 2 ^ 32) (k : ℕ) (positive : 0 < k) (within : k ≤ n) :
    (timedAt (failingRun n) (11 + k)).begun = true ∧ Failing k (timedAt (failingRun n) (11 + k)).controller := by
  have step (k : ℕ) (inside : k < n) : timedAt (failingRun n) (11 + k + 1) =
      (timedAt (failingRun n) (11 + k)).next (failingTick k).seen :=
    trajectory_succ _ _ _ (by rw [List.getElem?_map, failingRun_getElem? inside]; rfl)
  induction k, positive using Nat.le_induction with
  | base =>
    have first := step 0 (by omega)
    rw [Nat.add_zero, timedAt_failingRun_start] at first
    change (timedAt (failingRun n) (11 + 1)).begun = true ∧ Failing 1 (timedAt (failingRun n) (11 + 1)).controller
    rw [first]
    exact ⟨rfl, rfl, rfl, rfl, rfl, rfl, rfl, _, .connected, true, "POWERON".toList, rfl, rfl⟩
  | succ k positive ih =>
    obtain ⟨begun, failing⟩ := ih (by omega)
    rw [← Nat.add_assoc, step k (by omega), failingTick, TimedEvent.seen, Board.next, if_pos begun]
    exact ⟨begun, failing_step failing positive (by omega) _⟩

/-- After 2^32 failed reads in a row the counter is back at zero while the status shows 4294966001. -/
theorem wrapped_counter_keeps_failure :
    ¬ ∀ timed, Timely timed → ∀ k ≤ timed.length, (timedAt timed k).begun = true →
      (timedAt timed k).controller.imuReadFailCount = 0 → (timedAt timed k).controller.ShowsFailCount 0 := by
  intro shows
  obtain ⟨begun, failing⟩ := failing_run (2 ^ 32) le_rfl (2 ^ 32) (by decide) le_rfl
  have wrapped : UInt32.ofNat (2 ^ 32) = 0 := by decide
  have zero := shows (failingRun (2 ^ 32)) (failingRun_timely _) (11 + 2 ^ 32) (failingRun_length _).ge begun
    (failing.count.trans wrapped)
  have same := zero.unique failing.shows
  revert same
  decide

end GestureSuite.Firmware
