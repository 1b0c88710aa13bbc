import GestureSuite.Model.Firmware.Controller

/-! # When indicator and status follow the link

`begin` starts advertising before it sets the initial mode. A client that connects in between is
overwritten: the mode and the published status say `PAIRING` until the next change of the link. The
result says exactly which interleavings are affected.
-/

namespace GestureSuite.Firmware

/-- The text in the status characteristic names the connected state exactly when the mode is that one. -/
def Controller.StatusShowsMode (c : Controller) : Prop :=
  ∃ status, c.statusCharacteristic = some status ∧
    ("BLE:CONNECTED".toList <+: status.value ↔ c.bleIndicatorMode = .connected)

private theorem prefix_bleModeToText (mode : BleIndicatorMode) (tail : List Char) :
    "BLE:CONNECTED".toList <+: "BLE:".toList ++ (bleModeToText mode ++ tail) ↔ mode = .connected := by
  have behindTag : "BLE:CONNECTED".toList <+: "BLE:".toList ++ (bleModeToText mode ++ tail) ↔
      bleModeToText .connected <+: bleModeToText mode ++ tail := List.prefix_append_right_inj "BLE:".toList
  apply behindTag.trans
  cases mode with
  | connected => exact ⟨fun _ => rfl, fun _ => List.prefix_append ..⟩
  | pairing =>
    refine ⟨?_, by simp⟩
    rintro ⟨t, same⟩
    cases same
  | disconnected =>
    refine ⟨?_, by simp⟩
    rintro ⟨t, same⟩
    cases same

private theorem prefix_buildStatusText (mode : BleIndicatorMode) (imuReady : Bool) (fails : UInt32) (rest : List Char) :
    "BLE:CONNECTED".toList <+: buildStatusText mode imuReady fails ++ rest ↔ mode = .connected := by
  delta buildStatusText
  simp only [List.append_assoc]
  exact prefix_bleModeToText mode _

private theorem publishStatus_shows {c : Controller} (made : c.statusCharacteristic.isSome = true) :
    c.publishStatus.StatusShowsMode := by
  obtain ⟨status, present⟩ := Option.isSome_iff_exists.mp made
  refine ⟨_, by rw [Controller.publishStatus, present]; rfl, ?_⟩
  simp only [Controller.write, List.append_assoc]
  exact prefix_buildStatusText ..

/-- A piece of code that leaves the link, the mode and what the status says about them alone. -/
structure Controller.Keeps (c d : Controller) : Prop where
  mode : d.bleIndicatorMode = c.bleIndicatorMode
  connected : d.clientConnected = c.clientConnected
  callbacks : d.hasCallbacks = c.hasCallbacks
  advertising : d.advertising = c.advertising
  present : d.statusCharacteristic.isSome = c.statusCharacteristic.isSome
  shown : c.StatusShowsMode → d.StatusShowsMode

theorem Controller.Keeps.trans {c d e : Controller} (first : c.Keeps d) (second : d.Keeps e) : c.Keeps e :=
  ⟨second.1.trans first.1, second.2.trans first.2, second.3.trans first.3, second.4.trans first.4,
    second.5.trans first.5, fun before => second.6 (first.6 before)⟩

theorem Controller.publishStatus_keeps (c : Controller) : c.Keeps c.publishStatus where
  mode := rfl
  connected := rfl
  callbacks := rfl
  advertising := rfl
  present := by simp [publishStatus]
  shown := by
    rintro ⟨status, present, _⟩
    exact publishStatus_shows (by rw [present]; rfl)

/-- Code that assigns neither the link fields nor the mode nor the status characteristic. -/
theorem Controller.keeps_of_eq {c d : Controller} (mode : d.bleIndicatorMode = c.bleIndicatorMode)
    (connected : d.clientConnected = c.clientConnected) (callbacks : d.hasCallbacks = c.hasCallbacks)
    (advertising : d.advertising = c.advertising) (status : d.statusCharacteristic = c.statusCharacteristic) :
    c.Keeps d := by
  refine ⟨mode, connected, callbacks, advertising, by rw [status], ?_⟩
  rintro ⟨value, present, saying⟩
  exact ⟨value, status.trans present, by rw [mode]; exact saying⟩

theorem Controller.updateBleIndicator_keeps (c : Controller) (now : UInt32) : c.Keeps (c.updateBleIndicator now) := by
  rw [updateBleIndicator]
  split
  · exact keeps_of_eq rfl rfl rfl rfl rfl
  · split_ifs <;> exact keeps_of_eq rfl rfl rfl rfl rfl
  · exact keeps_of_eq rfl rfl rfl rfl rfl

theorem Controller.tick_keeps (c : Controller) (millis now : UInt32) (readRegs : Option (Vector UInt8 14))
    (sampleMs : UInt32) : c.Keeps (c.tick millis now readRegs sampleMs) := by
  apply (c.updateBleIndicator_keeps millis).trans
  rw [tick]
  generalize c.updateBleIndicator millis = d
  dsimp only
  split
  · exact keeps_of_eq rfl rfl rfl rfl rfl
  · split
    · exact keeps_of_eq rfl rfl rfl rfl rfl
    · split
      · split
        · refine Keeps.trans ?_ (publishStatus_keeps _)
          exact keeps_of_eq rfl rfl rfl rfl rfl
        · exact keeps_of_eq rfl rfl rfl rfl rfl
      · next sample _ =>
        have sent (e : Controller) : e.Keeps (e.publishImuSample sample) := keeps_of_eq rfl rfl rfl rfl rfl
        refine Keeps.trans ?_ (sent _)
        split
        · refine Keeps.trans ?_ (publishStatus_keeps _)
          exact keeps_of_eq rfl rfl rfl rfl rfl
        · exact keeps_of_eq rfl rfl rfl rfl rfl

/-- The mode says that a client is connected exactly when one is. -/
def Controller.ModeFollowsLink (c : Controller) : Prop :=
  c.bleIndicatorMode = .connected ↔ c.clientConnected = true

theorem Controller.Keeps.modeFollowsLink {c d : Controller} (keeps : c.Keeps d) (follows : c.ModeFollowsLink) :
    d.ModeFollowsLink := by
  rw [Controller.ModeFollowsLink]
  rw [keeps.mode, keeps.connected]
  exact follows

/-- What a callback leaves behind once the controller is registered and the characteristic exists. -/
structure Controller.Announced (c d : Controller) : Prop where
  follows : d.ModeFollowsLink
  shown : d.StatusShowsMode
  callbacks : d.hasCallbacks = true

theorem Controller.handleConnect_announced {c : Controller} (callbacks : c.hasCallbacks = true)
    (made : c.statusCharacteristic.isSome = true) (millis : UInt32) : c.Announced (c.handleConnect millis) := by
  rw [handleConnect, if_pos callbacks]
  exact ⟨⟨fun _ => rfl, fun _ => rfl⟩, publishStatus_shows made, callbacks⟩

theorem Controller.handleDisconnect_announced {c : Controller} (callbacks : c.hasCallbacks = true)
    (made : c.statusCharacteristic.isSome = true) (millis : UInt32) : c.Announced (c.handleDisconnect millis) := by
  rw [handleDisconnect, if_pos callbacks]
  refine ⟨⟨?_, ?_⟩, publishStatus_shows made, callbacks⟩
  · rintro ⟨⟩
  · rintro ⟨⟩

/-- Every statement but the one that enters pairing keeps the mode; none touches the link. -/
theorem Controller.execute_link (c : Controller) (surroundings : Surroundings) (statement : Statement) :
    (c.execute surroundings statement).clientConnected = c.clientConnected ∧
      (statement ≠ .enterPairing → (c.execute surroundings statement).bleIndicatorMode = c.bleIndicatorMode) ∧
      (statement = .enterPairing → (c.execute surroundings statement).bleIndicatorMode = .pairing) := by
  cases statement <;> simp [execute, writeIndicatorLevel, setBleIndicatorMode, publishStatus]

/-- The possible steps of the board. -/
inductive Board.Moves (b : Board) : BoardEvent → Board → Prop
  | execute {surroundings : Surroundings} {statement : Statement} {rest : List Statement}
      (first : b.pending = statement :: rest) :
      Moves b (.statement surroundings)
        { controller := b.controller.execute surroundings statement, pending := rest }
  | connect {millis : UInt32} (due : b.delivers (.connect millis) = true) :
      Moves b (.connect millis) { b with controller := b.controller.handleConnect millis }
  | disconnect {millis : UInt32} (due : b.delivers (.disconnect millis) = true) :
      Moves b (.disconnect millis) { b with controller := b.controller.handleDisconnect millis }
  | tick {millis now sampleMs : UInt32} {readRegs : Option (Vector UInt8 14)} (begun : b.begun = true) :
      Moves b (.tick millis now readRegs sampleMs)
        { b with controller := b.controller.tick millis now readRegs sampleMs }
  | skip {event : BoardEvent} (idle : b.delivers event = false) : Moves b event b

theorem Board.next_moves (b : Board) (event : BoardEvent) : b.Moves event (b.next event) := by
  cases event with
  | statement surroundings =>
    rw [next]
    cases pending : b.pending with
    | nil => exact .skip rfl
    | cons statement rest => exact .execute pending
  | connect millis =>
    unfold next
    dsimp only
    split_ifs with due
    · exact .connect due
    · exact .skip (Bool.eq_false_iff.mpr due)
  | disconnect millis =>
    unfold next
    dsimp only
    split_ifs with due
    · exact .disconnect due
    · exact .skip (Bool.eq_false_iff.mpr due)
  | tick millis now readRegs sampleMs =>
    unfold next
    dsimp only
    split_ifs with begun
    · exact .tick begun
    · exact .skip rfl

variable {events : List BoardEvent} {k : ℕ}

theorem boardAt_moves {event : BoardEvent} (present : events[k]? = some event) :
    (boardAt events k).Moves event (boardAt events (k + 1)) := by
  rw [boardAt, boardAt, Machine.trajectory_succ _ _ _ present]
  exact Board.next_moves ..

/-- The rest of `begin` is an end piece of it; before the service exists nothing is linked, and afterwards
callbacks reach the controller; a finished `begin` has published the mode. -/
structure Board.Wired (b : Board) : Prop where
  suffix : b.pending <:+ beginStatements
  unlinked : .createService ∈ b.pending → b.controller.advertising = false ∧ b.controller.clientConnected = false
  made : .createService ∉ b.pending →
    b.controller.hasCallbacks = true ∧ b.controller.statusCharacteristic.isSome = true
  published : b.begun = true → b.controller.StatusShowsMode

/-- Where the service is still to be created, none of the statements up to it links anything. -/
private theorem execute_unlinked {c : Controller} {surroundings : Surroundings} {statement : Statement}
    {rest : List Statement} (suffix : statement :: rest <:+ beginStatements) (later : .createService ∈ rest) :
    (c.execute surroundings statement).advertising = c.advertising := by
  simp only [beginStatements, List.suffix_cons_iff, List.cons.injEq, List.suffix_nil] at suffix
  rcases suffix with ⟨rfl, rfl⟩ | ⟨rfl, rfl⟩ | ⟨rfl, rfl⟩ | ⟨rfl, rfl⟩ | ⟨rfl, rfl⟩ | ⟨rfl, rfl⟩ | ⟨rfl, rfl⟩ |
    ⟨rfl, rfl⟩ | ⟨rfl, rfl⟩ | ⟨rfl, rfl⟩ | ⟨⟨⟩⟩ <;> first | rfl | simp at later

theorem eq_publishStatus_of_last {statement : Statement} (suffix : [statement] <:+ beginStatements) :
    statement = .publishStatus := by
  revert suffix
  cases statement <;> decide

/-- A statement keeps the service, and the one that creates it makes it. -/
private theorem execute_made (c : Controller) (surroundings : Surroundings) (statement : Statement)
    (made : statement = .createService ∨ c.hasCallbacks = true ∧ c.statusCharacteristic.isSome = true) :
    (c.execute surroundings statement).hasCallbacks = true ∧
      (c.execute surroundings statement).statusCharacteristic.isSome = true := by
  cases statement <;>
    simp_all [Controller.execute, Controller.writeIndicatorLevel, Controller.setBleIndicatorMode,
      Controller.publishStatus]

private theorem Board.Wired.announce {b : Board} (wired : b.Wired) {c : Controller}
    (announced : b.controller.hasCallbacks = true → b.controller.statusCharacteristic.isSome = true →
      b.controller.Announced c)
    (linkable : b.controller.advertising = true ∨ b.controller.clientConnected = true) :
    b.controller.Announced c ∧ Board.Wired { b with controller := c } := by
  have served : .createService ∉ b.pending := by
    intro later
    rcases linkable with on | on <;> simp [wired.unlinked later] at on
  obtain ⟨callbacks, made⟩ := wired.made served
  have result := announced callbacks made
  obtain ⟨status, present, _⟩ := result.shown
  exact ⟨result, wired.suffix, fun later => absurd later served,
    fun _ => ⟨result.callbacks, by rw [present]; rfl⟩, fun _ => result.shown⟩

private theorem Board.delivers_connect {b : Board} {millis : UInt32} (due : b.delivers (.connect millis) = true) :
    b.controller.advertising = true := by
  simp only [delivers, Bool.and_eq_true] at due
  exact due.1

private theorem Board.Wired.moves {b next : Board} (wired : b.Wired) {event : BoardEvent} (moved : b.Moves event next) :
    next.Wired := by
  cases moved with
  | @execute surroundings statement rest first =>
    have suffix := wired.suffix
    rw [first] at suffix
    refine ⟨(List.suffix_cons statement rest).trans suffix, ?_, ?_, ?_⟩
    · intro later
      have before := wired.unlinked (by rw [first]; exact List.mem_cons_of_mem _ later)
      exact ⟨(execute_unlinked suffix later).trans before.1,
        (b.controller.execute_link surroundings statement).1.trans before.2⟩
    · intro gone
      apply execute_made _ _ _
      by_cases creates : statement = .createService
      · exact .inl creates
      · refine .inr (wired.made ?_)
        rw [first]
        simpa [Ne.symm creates] using gone
    · intro finished
      obtain rfl := List.isEmpty_iff.mp finished
      obtain rfl := eq_publishStatus_of_last suffix
      exact publishStatus_shows (wired.made (by rw [first]; decide)).2
  | connect due =>
    exact (wired.announce (fun callbacks made => Controller.handleConnect_announced callbacks made _)
      (.inl (Board.delivers_connect due))).2
  | disconnect due =>
    exact (wired.announce (fun callbacks made => Controller.handleDisconnect_announced callbacks made _) (.inr due)).2
  | @tick millis now sampleMs readRegs begun =>
    have keeps := b.controller.tick_keeps millis now readRegs sampleMs
    refine ⟨wired.suffix, ?_, ?_, fun _ => keeps.shown (wired.published begun)⟩
    · intro later
      rw [keeps.advertising, keeps.connected]
      exact wired.unlinked later
    · intro gone
      rw [keeps.callbacks, keeps.present]
      exact wired.made gone
  | skip => exact wired

theorem boardAt_wired (bound : k ≤ events.length) : (boardAt events k).Wired := by
  refine Machine.trajectory_invariant Board.next {} events (fun _ b => b.Wired) ?_ ?_ k bound
  · exact ⟨List.suffix_rfl, fun _ => ⟨rfl, rfl⟩, fun gone => absurd (by decide) gone, fun begun => by cases begun⟩
  · intro _ event _ wired
    exact wired.moves (Board.next_moves _ event)

/-- Indicator mode and status text both say that a client is connected exactly when one is. -/
def Board.ShowsLink (b : Board) : Prop :=
  (b.controller.bleIndicatorMode = .connected ↔ b.controller.clientConnected = true) ∧
    ∃ status, b.controller.statusCharacteristic = some status ∧
      ("BLE:CONNECTED".toList <+: status.value ↔ b.controller.clientConnected = true)

/-- Event `k` runs `setBleIndicatorMode(Pairing)` of `begin`. -/
def EntersPairingAt (events : List BoardEvent) (k : ℕ) : Prop :=
  (∃ surroundings, events[k]? = some (.statement surroundings)) ∧
    (boardAt events k).pending.head? = some .enterPairing

/-- Event `m` is a callback that runs before `begin` returns. -/
def CallbackInBegin (events : List BoardEvent) (m : ℕ) : Prop :=
  (∃ event, events[m]? = some event ∧ (boardAt events m).delivers event = true) ∧ (boardAt events m).begun = false

/-- No client is connected when `begin` enters pairing, or a callback follows before `begin` returns. -/
def PairingNotLate (events : List BoardEvent) : Prop :=
  ∀ k, EntersPairingAt events k →
    (boardAt events k).controller.clientConnected = false ∨ ∃ m, k < m ∧ CallbackInBegin events m

private theorem pending_suffix {a : ℕ} (k : ℕ) (after : a ≤ k) (bound : k ≤ events.length) :
    (boardAt events k).pending <:+ (boardAt events a).pending := by
  induction k, after using Nat.le_induction with
  | base => exact List.suffix_rfl
  | succ k after ih =>
    refine List.IsSuffix.trans ?_ (ih (by omega))
    have present : events[k]? = some events[k] := List.getElem?_eq_getElem (by omega)
    have moved := boardAt_moves present
    generalize boardAt events (k + 1) = next at moved ⊢
    generalize events[k] = event at moved
    cases moved with
    | execute first =>
      rw [first]
      exact List.suffix_cons ..
    | connect | disconnect | tick | skip => exact List.suffix_rfl

/-- A delivered callback brings mode and link together. -/
private theorem modeFollowsLink_of_delivers {b next : Board} {event : BoardEvent} (wired : b.Wired)
    (due : b.delivers event = true) (moved : b.Moves event next) : next.controller.ModeFollowsLink := by
  cases moved with
  | connect due =>
    exact (wired.announce (fun callbacks made => Controller.handleConnect_announced callbacks made _)
      (.inl (Board.delivers_connect due))).1.follows
  | disconnect due =>
    exact (wired.announce (fun callbacks made => Controller.handleDisconnect_announced callbacks made _)
      (.inr due)).1.follows
  | execute | tick => cases due
  | skip idle => cases idle.symm.trans due

/-- Behind the entry into pairing nothing separates the mode from the link. -/
private theorem modeFollowsLink_step {b next : Board} {event : BoardEvent} (wired : b.Wired)
    (entered : .enterPairing ∉ b.pending) (follows : b.controller.ModeFollowsLink) (moved : b.Moves event next) :
    next.controller.ModeFollowsLink := by
  cases moved with
  | @execute surroundings statement rest first =>
    have other : statement ≠ .enterPairing := by
      rintro rfl
      exact entered (by rw [first]; exact List.mem_cons_self)
    obtain ⟨link, mode, _⟩ := b.controller.execute_link surroundings statement
    rw [Controller.ModeFollowsLink]
    rw [link, mode other]
    exact follows
  | connect due => exact modeFollowsLink_of_delivers wired due (.connect due)
  | disconnect due => exact modeFollowsLink_of_delivers wired due (.disconnect due)
  | tick => exact (Controller.tick_keeps ..).modeFollowsLink follows
  | skip => exact follows

private theorem modeFollowsLink_since {a : ℕ} (entered : .enterPairing ∉ (boardAt events a).pending)
    (follows : (boardAt events a).controller.ModeFollowsLink) (k : ℕ) (after : a ≤ k) (bound : k ≤ events.length) :
    (boardAt events k).controller.ModeFollowsLink := by
  induction k, after using Nat.le_induction with
  | base => exact follows
  | succ k after ih =>
    have gone : .enterPairing ∉ (boardAt events k).pending := fun later =>
      entered ((pending_suffix k after (by omega)).subset later)
    have present : events[k]? = some events[k] := List.getElem?_eq_getElem (by omega)
    exact modeFollowsLink_step (boardAt_wired (by omega)) gone (ih (by omega)) (boardAt_moves present)

/-- The statement that enters pairing is the last event with it still to run. -/
private theorem exists_entersPairing {n : ℕ} (bound : n ≤ events.length) (begun : (boardAt events n).begun = true) :
    ∃ k < n, EntersPairingAt events k ∧ .enterPairing ∉ (boardAt events (k + 1)).pending := by
  obtain ⟨k, kLe, before, after⟩ :=
    Machine.exists_last (fun m => Statement.enterPairing ∈ (boardAt events m).pending)
      (show Statement.enterPairing ∈ beginStatements by decide) n
  have kLt : k < n := by
    apply kLe.lt_of_ne
    rintro rfl
    rw [List.isEmpty_iff.mp begun] at before
    cases before
  have gone := after (k + 1) (by omega) (by omega)
  refine ⟨k, kLt, ?_, gone⟩
  have present : events[k]? = some events[k] := List.getElem?_eq_getElem (by omega)
  have moved := boardAt_moves present
  generalize boardAt events (k + 1) = next at moved gone
  generalize events[k] = event at moved present
  cases moved with
  | @execute surroundings statement rest first =>
    refine ⟨⟨surroundings, present⟩, ?_⟩
    rw [first] at before ⊢
    rcases List.mem_cons.mp before with same | later
    · rw [← same]
      rfl
    · exact absurd later gone
  | connect | disconnect | tick | skip => exact absurd before gone

/-- Right behind the entry into pairing the mode is `Pairing` and the link is what it was. -/
private theorem pairing_of_enters {k : ℕ} (enters : EntersPairingAt events k) :
    (boardAt events (k + 1)).controller.bleIndicatorMode = .pairing ∧
      (boardAt events (k + 1)).controller.clientConnected = (boardAt events k).controller.clientConnected := by
  obtain ⟨⟨surroundings, present⟩, head⟩ := enters
  obtain ⟨rest, first⟩ := List.head?_eq_some_iff.mp head
  have after : boardAt events (k + 1) = ⟨(boardAt events k).controller.execute surroundings .enterPairing, rest⟩ := by
    have step := Machine.trajectory_succ Board.next {} events present
    change boardAt events (k + 1) = (boardAt events k).next _ at step
    rw [step, Board.next, first]
  obtain ⟨link, _, mode⟩ := (boardAt events k).controller.execute_link surroundings .enterPairing
  rw [after]
  exact ⟨mode rfl, link⟩

/-- A late entry into pairing leaves a linked board in pairing mode until the next callback. -/
private theorem stuck_step {b next : Board} {event : BoardEvent} (running : b.begun = false)
    (quiet : b.delivers event = false)
    (stuck : b.controller.bleIndicatorMode = .pairing ∧ b.controller.clientConnected = true)
    (moved : b.Moves event next) :
    next.controller.bleIndicatorMode = .pairing ∧ next.controller.clientConnected = true := by
  cases moved with
  | @execute surroundings statement rest first =>
    obtain ⟨link, kept, entered⟩ := b.controller.execute_link surroundings statement
    refine ⟨?_, link.trans stuck.2⟩
    by_cases pairing : statement = .enterPairing
    · exact entered pairing
    · exact (kept pairing).trans stuck.1
  | connect due => cases quiet.symm.trans due
  | disconnect due => cases quiet.symm.trans due
  | tick begun => cases running.symm.trans begun
  | skip => exact stuck

/-- A late entry stays stuck as long as `begin` runs and no callback comes. -/
private theorem stuck_run {k r : ℕ} (enters : EntersPairingAt events k)
    (linked : (boardAt events k).controller.clientConnected = true)
    (noCallback : ¬ ∃ m, k < m ∧ CallbackInBegin events m) (bound : r ≤ events.length)
    (running : ∀ j, k < j → j < r → (boardAt events j).begun = false) (j : ℕ) (after : k + 1 ≤ j) (within : j ≤ r) :
    (boardAt events j).controller.bleIndicatorMode = .pairing ∧
      (boardAt events j).controller.clientConnected = true := by
  induction j, after using Nat.le_induction with
  | base =>
    obtain ⟨mode, link⟩ := pairing_of_enters enters
    exact ⟨mode, link.trans linked⟩
  | succ j after ih =>
    have stillRunning := running j (by omega) (by omega)
    have present : events[j]? = some events[j] := List.getElem?_eq_getElem (by omega)
    have quiet : (boardAt events j).delivers events[j] = false := by
      by_contra due
      exact noCallback ⟨j, by omega, ⟨_, present, by simpa using due⟩, stillRunning⟩
    exact stuck_step stillRunning quiet (ih (by omega)) (boardAt_moves present)

private theorem notLate_of_showsLink (returned : (boardAt events events.length).begun = true)
    (showsLink : ∀ k ≤ events.length, (boardAt events k).begun = true → (boardAt events k).ShowsLink) :
    PairingNotLate events := by
  intro k enters
  by_contra late
  obtain ⟨linked, noCallback⟩ := not_or.mp late
  have kLt : k < events.length := by
    obtain ⟨⟨_, present⟩, _⟩ := enters
    exact (List.getElem?_eq_some_iff.mp present).1
  -- at the first moment after the entry at which `begin` has returned, the late entry still shows
  obtain ⟨r, after, bound, begun, running⟩ :=
    Machine.exists_first (fun r => (boardAt events r).begun = true) kLt returned
  obtain ⟨mode, link⟩ := stuck_run enters (by simpa using linked) noCallback bound
    (fun j afterK before => by simpa using running j afterK before) r after le_rfl
  have shown := (showsLink r bound begun).1.mpr link
  rw [mode] at shown
  cases shown

private theorem showsLink_of_notLate (notLate : PairingNotLate events) {n : ℕ} (bound : n ≤ events.length)
    (begun : (boardAt events n).begun = true) : (boardAt events n).ShowsLink := by
  have wired := boardAt_wired bound
  have follows : (boardAt events n).controller.ModeFollowsLink := by
    obtain ⟨k, kLt, enters, entered⟩ := exists_entersPairing bound begun
    rcases notLate k enters with unlinked | ⟨m, after, ⟨event, present, due⟩, running⟩
    · refine modeFollowsLink_since entered ?_ n (by omega) bound
      obtain ⟨mode, link⟩ := pairing_of_enters enters
      rw [Controller.ModeFollowsLink]
      rw [mode, link, unlinked]
      decide
    · have before : m < n := by
        by_contra later
        have done := pending_suffix m (not_lt.mp later) (List.getElem?_eq_some_iff.mp present).1.le
        rw [List.isEmpty_iff.mp begun, List.suffix_nil] at done
        simp [Board.begun, done] at running
      have gone : .enterPairing ∉ (boardAt events (m + 1)).pending := fun later =>
        entered ((pending_suffix (m + 1) (by omega) (by omega)).subset later)
      have met := modeFollowsLink_of_delivers (boardAt_wired (by omega)) due (boardAt_moves present)
      exact modeFollowsLink_since gone met n (by omega) bound
  obtain ⟨status, present, saying⟩ := wired.published begun
  exact ⟨follows, status, present, saying.trans follows⟩

/-- `begin` having returned, indicator and status follow the link in every state behind it if and only if
no client is connected when `begin` enters pairing, or a callback still comes before it returns. -/
theorem showsLink_iff_pairingNotLate (events : List BoardEvent)
    (returned : (boardAt events events.length).begun = true) :
    (∀ k ≤ events.length, (boardAt events k).begun = true → (boardAt events k).ShowsLink) ↔
      PairingNotLate events :=
  ⟨notLate_of_showsLink returned, fun notLate _ bound begun => showsLink_of_notLate notLate bound begun⟩

/-- A start without any client, and a connect afterwards. -/
def undisturbedStart : List BoardEvent := List.replicate 10 (.statement {}) ++ [.connect 500]

theorem showsLink_undisturbedStart : (boardAt undisturbedStart 11).controller.clientConnected = true ∧
    (boardAt undisturbedStart 11).ShowsLink := by
  refine ⟨rfl, (showsLink_iff_pairingNotLate undisturbedStart rfl).mpr ?_ 11 le_rfl rfl⟩
  rintro k ⟨⟨_, present⟩, _⟩
  have early : k < 11 := (List.getElem?_eq_some_iff.mp present).1
  interval_cases k <;> exact .inl rfl

/-- A client connects right after advertising has started. -/
def earlyConnect : List BoardEvent :=
  List.replicate 5 (.statement {}) ++ [.connect 300] ++ List.replicate 5 (.statement {})

theorem earlyConnect_not_showsLink :
    (boardAt earlyConnect 11).begun = true ∧ (boardAt earlyConnect 11).controller.clientConnected = true ∧
      (boardAt earlyConnect 11).controller.bleIndicatorMode = .pairing ∧ ¬ (boardAt earlyConnect 11).ShowsLink := by
  refine ⟨rfl, rfl, rfl, ?_⟩
  rintro ⟨follows, _⟩
  have shown : BleIndicatorMode.pairing = .connected := follows.mpr rfl
  cases shown

end GestureSuite.Firmware
