import GestureSuite.Model.Connection.Setup

/-! # A scan ends, and ends truly

The completion source is set once. In every order in which advertisements, the timer, the caller's token and the
method's own statements come, the scan ends with the first advertisement that matches, if one was heard before the
task was cancelled, and reports a timeout or a cancellation only for one. The timer alone is enough to end it, and the
watcher is left without a handler; one that is still running has at most its log line in front of it.
-/

namespace GestureSuite.Connection

open Machine.System

namespace Scan

/-- The method is left. -/
def Ended (s : Scan) : Prop := ∃ result, s.point = .ended result

/-- The advertisement is logged and nothing else, or its handler is in front of the line. -/
def Announces (s : Scan) (advertisement : Advertisement) : Prop :=
  s.announcing = none ∧ s.log = [scanningLine, foundLine advertisement] ∨
    s.announcing = some advertisement ∧ s.log = [scanningLine]

/-- What the task says about the advertisements heard and the lines logged. -/
structure Told (s : Scan) : Prop where
  unheard : s.task = none → ∀ advertisement ∈ s.heard, advertisement.matched = false
  found : ∀ address, s.task = some (.result address) →
    ∃ advertisement, s.heard.find? Advertisement.matched = some advertisement ∧
      advertisement.bluetoothAddress = address ∧ s.Announces advertisement
  quiet : (∀ address, s.task ≠ some (.result address)) →
    s.announcing = none ∧ s.log = if s.point = .start then [] else [scanningLine]
  started : s.point = .start → s.task = none ∧ s.heard = []

/-- Why the task was cancelled and the method left. -/
structure Justified (s : Scan) : Prop where
  unarmed : s.point = .start ∨ s.point = .watching → s.timeoutRequested = false
  requested : s.timeoutRequested = true → s.elapsed = true ∨ s.cancellationRequested = true
  canceled : s.task = some .canceled → s.timeoutRequested = true
  returned : ∀ address, s.point = .ended (.ok address) → s.task = some (.result address)
  failed : ∀ fault, s.point = .ended (.error fault) → s.task = some .canceled ∧
    (fault = .timeout ∧ s.elapsed = true ∨ fault = .cancelled ∧ s.cancellationRequested = true)

/-- A step of the scan, guards included. -/
inductive Moves (s : Scan) : Scan → Prop
  | watch (start : s.point = .start) :
      Moves s { s with point := .watching, listening := true, log := s.log ++ [scanningLine] }
  | arm (watching : s.point = .watching) :
      Moves s { s with point := .armed, timeoutRequested := s.cancellationRequested }
  | register (armed : s.point = .armed) : Moves s { s with point := .waiting }
  | registerLate (armed : s.point = .armed) (asked : s.timeoutRequested = true) :
      Moves s { s.trySetCanceled with point := .waiting }
  | succeed {address : UInt64} (waiting : s.point = .waiting) (completed : s.task = some (.result address)) :
      Moves s (s.finish (.ok address))
  | fail (waiting : s.point = .waiting) (canceled : s.task = some .canceled) :
      Moves s (s.finish (.error (if s.cancellationRequested then .cancelled else .timeout)))
  | hear (late : s.point ≠ .start) (advertisement : Advertisement) : Moves s (s.handle advertisement)
  | announce {advertisement : Advertisement} (due : s.announcing = some advertisement) :
      Moves s { s with announcing := none, log := s.log ++ [foundLine advertisement] }
  | cancel : Moves s { s with cancellationRequested := true }
  | propagate (linked : s.point = .armed ∨ s.point = .waiting) (asked : s.cancellationRequested = true) :
      Moves s { s with timeoutRequested := true }
  | elapse (linked : s.point = .armed ∨ s.point = .waiting) :
      Moves s { s with timeoutRequested := true, elapsed := true }
  | callback (waiting : s.point = .waiting) (asked : s.timeoutRequested = true) : Moves s s.trySetCanceled

private theorem point_of_linked {s : Scan} (linked : s.linked = true) : s.point = .armed ∨ s.point = .waiting := by
  rcases Bool.or_eq_true_iff.mp linked with armed | waiting
  · exact .inl (of_decide_eq_true armed)
  · exact .inr (of_decide_eq_true waiting)

private theorem nextStatement_moves {s t : Scan} (moved : s.nextStatement = some t) : s.Moves t := by
  rw [nextStatement] at moved
  split at moved
  · next start =>
    obtain rfl := Option.some.inj moved
    exact .watch start
  · next watching =>
    obtain rfl := Option.some.inj moved
    exact .arm watching
  · next armed =>
    split at moved
    · next asked =>
      obtain rfl := Option.some.inj moved
      exact .registerLate armed asked
    · obtain rfl := Option.some.inj moved
      exact .register armed
  · next waiting =>
    split at moved
    · next address completed =>
      obtain rfl := Option.some.inj moved
      exact .succeed waiting completed
    · next canceled =>
      obtain rfl := Option.some.inj moved
      exact .fail waiting canceled
    · cases moved
  · cases moved

private theorem step_moves {s t : Scan} {action : ScanAction} (moved : s.step action = some t) : s.Moves t := by
  cases action with
  | next => exact nextStatement_moves moved
  | received advertisement =>
    obtain ⟨late, same⟩ := Option.ite_none_left_eq_some.mp moved
    obtain rfl := Option.some.inj same
    exact .hear late advertisement
  | announce =>
    obtain ⟨advertisement, due, rfl⟩ := Option.map_eq_some_iff.mp moved
    exact .announce due
  | cancel =>
    obtain rfl := Option.some.inj moved
    exact .cancel
  | propagate =>
    obtain ⟨able, same⟩ := Option.ite_none_right_eq_some.mp moved
    obtain ⟨linked, asked⟩ := Bool.and_eq_true_iff.mp able
    obtain rfl := Option.some.inj same
    exact .propagate (point_of_linked linked) asked
  | elapse =>
    obtain ⟨linked, same⟩ := Option.ite_none_right_eq_some.mp moved
    obtain rfl := Option.some.inj same
    exact .elapse (point_of_linked linked)
  | callback =>
    obtain ⟨able, same⟩ := Option.ite_none_right_eq_some.mp moved
    obtain ⟨waiting, asked⟩ := Bool.and_eq_true_iff.mp able
    obtain rfl := Option.some.inj same
    exact .callback (of_decide_eq_true waiting) asked

private theorem handle_told {s : Scan} (told : s.Told) (late : s.point ≠ .start) (advertisement : Advertisement) :
    (s.handle advertisement).Told := by
  rw [handle]
  split
  · next first =>
    obtain ⟨matched, isNone⟩ := Bool.and_eq_true_iff.mp first
    have pending : s.task = none := Option.isNone_iff_eq_none.mp isNone
    have before : s.heard.find? Advertisement.matched = none :=
      List.find?_eq_none.mpr fun other member => Bool.eq_false_iff.mp (told.unheard pending other member)
    have log : s.log = [scanningLine] := by
      rw [(told.quiet (by rw [pending]; exact fun _ => nofun)).2, if_neg late]
    refine ⟨nofun, ?_, fun other => absurd rfl (other _), fun start => absurd start late⟩
    intro address completed
    refine ⟨advertisement, ?_, ?_, .inr ⟨rfl, log⟩⟩
    · rw [List.find?_append, before, Option.none_or, List.find?_cons_of_pos matched]
    · exact TaskCompletion.result.inj (Option.some.inj completed)
  · next rest =>
    refine ⟨?_, ?_, told.quiet, fun start => absurd start late⟩
    · intro pending other member
      rcases List.mem_append.mp member with earlier | now
      · exact told.unheard pending other earlier
      · rw [List.mem_singleton.mp now]
        have isNone : s.task.isNone = true := Option.isNone_iff_eq_none.mpr pending
        simpa [isNone] using rest
    · intro address completed
      obtain ⟨first, found, rest⟩ := told.found address completed
      refine ⟨first, ?_, rest⟩
      rw [List.find?_append, found, Option.some_or]

private theorem trySetCanceled_of_some {s : Scan} {completion : TaskCompletion} (complete : s.task = some completion) :
    s.trySetCanceled = s := by
  rw [trySetCanceled, complete]
  change { s with task := some completion } = s
  rw [← complete]

private theorem trySetCanceled_told {s : Scan} (told : s.Told) (late : s.point ≠ .start) : s.trySetCanceled.Told := by
  cases task : s.task with
  | none =>
    have quiet := told.quiet (by rw [task]; exact fun _ => nofun)
    rw [trySetCanceled, task]
    exact ⟨nofun, nofun, fun _ => quiet, fun start => absurd start late⟩
  | some completion =>
    rw [trySetCanceled_of_some task]
    exact told

/-- Behind the first statement nothing in the log depends on the point. -/
private theorem Told.move {s : Scan} (told : s.Told) (late : s.point ≠ .start) {t : Scan} (later : t.point ≠ .start)
    (task : t.task = s.task) (heard : t.heard = s.heard) (announcing : t.announcing = s.announcing)
    (log : t.log = s.log) : t.Told := by
  refine ⟨?_, ?_, ?_, fun start => absurd start later⟩
  · rw [task, heard]
    exact told.unheard
  · simp only [task, heard, Announces, announcing, log]
    exact told.found
  · rw [task, announcing, log, if_neg later]
    intro other
    have quiet := told.quiet other
    rwa [if_neg late] at quiet

private theorem announce_told {s : Scan} (told : s.Told) {advertisement : Advertisement}
    (due : s.announcing = some advertisement) :
    Told { s with announcing := none, log := s.log ++ [foundLine advertisement] } := by
  have completed : ∃ address, s.task = some (.result address) := by
    by_contra other
    have quiet := told.quiet fun address same => other ⟨address, same⟩
    rw [due] at quiet
    exact Option.some_ne_none _ quiet.1
  refine ⟨told.unheard, ?_, fun other => ?_, told.started⟩
  · intro address complete
    obtain ⟨first, found, same, ⟨silent, -⟩ | ⟨pending, log⟩⟩ := told.found address complete
    · rw [due] at silent
      cases silent
    · obtain rfl := Option.some.inj (pending.symm.trans due)
      exact ⟨first, found, same, .inl ⟨rfl, by rw [log]; rfl⟩⟩
  · obtain ⟨address, complete⟩ := completed
    exact absurd complete (other address)

private theorem Moves.told {s t : Scan} (moved : s.Moves t) (told : s.Told) : t.Told := by
  have late {point : ScanPoint} (here : s.point = point) (other : point ≠ .start) : s.point ≠ .start := here ▸ other
  cases moved with
  | watch start =>
    obtain ⟨pending, unheard⟩ := told.started start
    obtain ⟨silent, log⟩ := told.quiet (by rw [pending]; exact fun _ => nofun)
    rw [if_pos start] at log
    refine ⟨fun _ other member => ?_, fun address completed => ?_, fun _ => ⟨silent, by rw [log]; rfl⟩, nofun⟩
    · rw [unheard] at member
      cases member
    · rw [pending] at completed
      cases completed
  | arm watching => exact told.move (late watching nofun) nofun rfl rfl rfl rfl
  | register armed => exact told.move (late armed nofun) nofun rfl rfl rfl rfl
  | registerLate armed asked =>
    exact (trySetCanceled_told told (late armed nofun)).move (late armed nofun) nofun rfl rfl rfl rfl
  | succeed waiting completed => exact told.move (late waiting nofun) nofun rfl rfl rfl rfl
  | fail waiting canceled => exact told.move (late waiting nofun) nofun rfl rfl rfl rfl
  | hear late advertisement => exact handle_told told late advertisement
  | announce due => exact announce_told told due
  | cancel | propagate | elapse => exact ⟨told.unheard, told.found, told.quiet, told.started⟩
  | callback waiting asked => exact trySetCanceled_told told (late waiting nofun)

private theorem handle_fields (s : Scan) (advertisement : Advertisement) :
    (s.handle advertisement).point = s.point ∧
      (s.handle advertisement).timeoutRequested = s.timeoutRequested ∧
      (s.handle advertisement).cancellationRequested = s.cancellationRequested ∧
      (s.handle advertisement).elapsed = s.elapsed ∧ (s.handle advertisement).listening = s.listening := by
  rw [handle]
  split <;> exact ⟨rfl, rfl, rfl, rfl, rfl⟩

/-- The handler completes a task once. -/
private theorem handle_task (s : Scan) (advertisement : Advertisement) :
    (s.handle advertisement).task = s.task ∨
      s.task = none ∧ (s.handle advertisement).task = some (.result advertisement.bluetoothAddress) := by
  rw [handle]
  split
  · next first => exact .inr ⟨Option.isNone_iff_eq_none.mp (Bool.and_eq_true_iff.mp first).2, rfl⟩
  · exact .inl rfl

private theorem handle_justified {s : Scan} (justified : s.Justified) (advertisement : Advertisement) :
    (s.handle advertisement).Justified := by
  obtain ⟨point, timeout, cancellation, elapsed, -⟩ := handle_fields s advertisement
  have canceled : (s.handle advertisement).task = some .canceled → s.task = some .canceled := by
    rcases handle_task s advertisement with same | ⟨-, completed⟩
    · rw [same]
      exact id
    · rw [completed]
      nofun
  have complete (completion : TaskCompletion) (done : s.task = some completion) :
      (s.handle advertisement).task = some completion := by
    rcases handle_task s advertisement with same | ⟨pending, -⟩
    · rw [same, done]
    · rw [done] at pending
      cases pending
  refine ⟨?_, ?_, ?_, ?_, ?_⟩
  · rw [point, timeout]
    exact justified.unarmed
  · rw [timeout, elapsed, cancellation]
    exact justified.requested
  · rw [timeout]
    exact justified.canceled ∘ canceled
  · rw [point]
    exact fun address ended => complete _ (justified.returned address ended)
  · rw [point, elapsed, cancellation]
    exact fun fault ended => (justified.failed fault ended).imp_left (complete _)

private theorem Moves.justified {s t : Scan} (moved : s.Moves t) (justified : s.Justified) : t.Justified := by
  have late (linked : s.point = .armed ∨ s.point = .waiting) : ¬ (s.point = .start ∨ s.point = .watching) := by
    rcases linked with point | point <;> rw [point] <;> nofun
  have running (linked : s.point = .armed ∨ s.point = .waiting) (result : Except Fault UInt64) :
      s.point ≠ .ended result := by
    rcases linked with point | point <;> rw [point] <;> nofun
  cases moved with
  | watch start =>
    exact ⟨fun _ => justified.unarmed (.inl start), justified.requested, justified.canceled, nofun, nofun⟩
  | arm watching =>
    have unasked := justified.unarmed (.inr watching)
    refine ⟨nofun, fun asked => .inr asked, fun canceled => ?_, nofun, nofun⟩
    rw [justified.canceled canceled] at unasked
    cases unasked
  | register armed => exact ⟨nofun, justified.requested, justified.canceled, nofun, nofun⟩
  | registerLate armed asked => exact ⟨nofun, justified.requested, fun _ => asked, nofun, nofun⟩
  | succeed waiting completed =>
    refine ⟨nofun, justified.requested, justified.canceled, ?_, nofun⟩
    rintro _ ⟨⟩
    exact completed
  | fail waiting canceled =>
    have cause := justified.requested (justified.canceled canceled)
    refine ⟨nofun, justified.requested, justified.canceled, nofun, ?_⟩
    rintro _ ⟨⟩
    refine ⟨canceled, ?_⟩
    split
    · next asked => exact .inr ⟨rfl, asked⟩
    · next unasked => exact .inl ⟨rfl, cause.resolve_right unasked⟩
  | hear late advertisement => exact handle_justified justified advertisement
  | announce =>
    exact ⟨justified.unarmed, justified.requested, justified.canceled, justified.returned, justified.failed⟩
  | cancel =>
    refine ⟨justified.unarmed, fun _ => .inr rfl, justified.canceled, justified.returned, fun fault ended => ?_⟩
    obtain ⟨canceled, cause⟩ := justified.failed fault ended
    exact ⟨canceled, cause.imp_right fun why => ⟨why.1, rfl⟩⟩
  | propagate linked asked =>
    exact ⟨fun early => absurd early (late linked), fun _ => .inr asked, fun _ => rfl, justified.returned,
      justified.failed⟩
  | elapse linked =>
    exact ⟨fun early => absurd early (late linked), fun _ => .inl rfl, fun _ => rfl, justified.returned,
      fun _ ended => absurd ended (running linked _)⟩
  | callback waiting asked =>
    exact ⟨justified.unarmed, justified.requested, fun _ => asked,
      fun _ ended => absurd ended (running (.inr waiting) _),
      fun _ ended => absurd ended (running (.inr waiting) _)⟩

/-- The handler is attached from the first statement to the end. -/
def Attached (s : Scan) : Prop := s.listening = true ↔ s.point ≠ .start ∧ ¬ s.Ended

private theorem Moves.attached {s t : Scan} (moved : s.Moves t) (attached : s.Attached) : t.Attached := by
  have kept {u : Scan} (point : u.point = s.point) (listening : u.listening = s.listening) : u.Attached := by
    rw [Attached, Ended, point, listening]
    exact attached
  have listening {point : ScanPoint} (here : s.point = point) (late : point ≠ .start)
      (running : ∀ result, point ≠ .ended result) : s.listening = true := by
    refine attached.mpr ⟨here ▸ late, ?_⟩
    rintro ⟨result, ended⟩
    exact running result (here.symm.trans ended)
  cases moved with
  | watch start => exact ⟨fun _ => ⟨nofun, nofun⟩, fun _ => rfl⟩
  | arm watching => exact ⟨fun _ => ⟨nofun, nofun⟩, fun _ => listening watching nofun nofun⟩
  | register armed => exact ⟨fun _ => ⟨nofun, nofun⟩, fun _ => listening armed nofun nofun⟩
  | registerLate armed asked => exact ⟨fun _ => ⟨nofun, nofun⟩, fun _ => listening armed nofun nofun⟩
  | succeed waiting completed => exact ⟨nofun, fun running => absurd ⟨_, rfl⟩ running.2⟩
  | fail waiting canceled => exact ⟨nofun, fun running => absurd ⟨_, rfl⟩ running.2⟩
  | hear late advertisement =>
    obtain ⟨point, -, -, -, listening⟩ := handle_fields s advertisement
    exact kept point listening
  | announce | cancel | propagate | elapse | callback => exact kept rfl rfl

/-- A task that is complete lets the method go on to its end. -/
private theorem next_of_complete {s : Scan} (waiting : s.point = .waiting) (complete : s.task ≠ none) :
    ∃ t, s.step .next = some t ∧ t.Ended := by
  rw [step, nextStatement, waiting]
  cases task : s.task with
  | none => exact absurd task complete
  | some completion =>
    cases completion with
    | result address => exact ⟨_, rfl, _, rfl⟩
    | canceled => exact ⟨_, rfl, _, rfl⟩

/-- Once the method waits, the timer, its callback and the next statement end it. -/
private theorem run_of_waiting {s : Scan} (waiting : s.point = .waiting) :
    ∃ t, scanTargetAddressAsync.run s [.elapse, .callback, .next] = some t ∧ t.Ended := by
  have elapses : s.step .elapse = some { s with timeoutRequested := true, elapsed := true } := by
    rw [step, linked, waiting]
    rfl
  have calls : step { s with timeoutRequested := true, elapsed := true } .callback =
      some (trySetCanceled { s with timeoutRequested := true, elapsed := true }) := by
    rw [step, waiting]
    rfl
  have complete : (trySetCanceled { s with timeoutRequested := true, elapsed := true }).task ≠ none := by
    rw [trySetCanceled]
    cases s.task <;> nofun
  obtain ⟨t, finishes, ended⟩ := next_of_complete
    (s := trySetCanceled { s with timeoutRequested := true, elapsed := true }) waiting complete
  exact ⟨t, run_cons elapses (run_cons calls (run_cons finishes rfl)), ended⟩

end Scan

/-- The statements of the method and the timer, without advertisements and without the caller. -/
def ScanAction.isOwn : ScanAction → Bool
  | .next | .elapse | .callback => true
  | _ => false

namespace Scan

/-- The method's own statements and the timer lead to the end. -/
def CanEnd (s : Scan) : Prop :=
  ∃ actions : List ScanAction, (∀ action ∈ actions, action.isOwn = true) ∧
    ∃ t, scanTargetAddressAsync.run s actions = some t ∧ t.Ended

private theorem CanEnd.next {s t : Scan} (moved : s.step .next = some t) (later : t.CanEnd) : s.CanEnd := by
  obtain ⟨actions, own, u, run, ended⟩ := later
  exact ⟨.next :: actions, List.forall_mem_cons.mpr ⟨rfl, own⟩, u, run_cons moved run, ended⟩

private theorem canEnd {s : Scan} (running : ¬ s.Ended) : s.CanEnd := by
  have waits {u : Scan} (waiting : u.point = .waiting) : u.CanEnd := ⟨_, by decide, run_of_waiting waiting⟩
  have arms {u : Scan} (armed : u.point = .armed) : u.CanEnd := by
    have moved : ∃ t, u.step .next = some t ∧ t.point = .waiting := by
      rw [step, nextStatement, armed]
      dsimp only
      split
      · exact ⟨_, rfl, rfl⟩
      · exact ⟨_, rfl, rfl⟩
    obtain ⟨t, moved, waiting⟩ := moved
    exact CanEnd.next moved (waits waiting)
  have watches {u : Scan} (watching : u.point = .watching) : u.CanEnd := by
    have moved : u.step .next = some { u with point := .armed, timeoutRequested := u.cancellationRequested } := by
      rw [step, nextStatement, watching]
    exact CanEnd.next moved (arms rfl)
  cases point : s.point with
  | start =>
    have moved : s.step .next =
        some { s with point := .watching, listening := true, log := s.log ++ [scanningLine] } := by
      rw [step, nextStatement, point]
    exact CanEnd.next moved (watches rfl)
  | watching => exact watches point
  | armed => exact arms point
  | waiting => exact waits point
  | ended result => exact absurd ⟨result, point⟩ running

/-- What the board puts on the air matches. -/
private theorem matched_of_board {advertisement : Advertisement} (board :
    advertisement.localName = Firmware.kBleDeviceName ∨ Firmware.kServiceUuid ∈ advertisement.serviceUuids) :
    advertisement.matched = true := by
  rw [Advertisement.matched, Bool.or_eq_true]
  rcases board with name | service
  · exact .inl (decide_eq_true name)
  · exact .inr (List.any_eq_true.mpr ⟨_, service, rfl⟩)

end Scan

/-- What holds of every state of a scan. -/
structure Scan.Sound (s : Scan) : Prop where
  told : s.Told
  justified : s.Justified
  attached : s.Attached

private theorem scan_sound {s : Scan} (reached : scanTargetAddressAsync.Reachable s) : s.Sound := by
  have told : Scan.Told {} := ⟨fun _ _ member => (nomatch member), nofun, fun _ => ⟨rfl, rfl⟩, fun _ => ⟨rfl, rfl⟩⟩
  have justified : Scan.Justified {} := ⟨fun _ => rfl, nofun, nofun, nofun, nofun⟩
  have attached : Scan.Attached {} := ⟨nofun, fun running => absurd rfl running.1⟩
  refine reached.invariant ⟨told, justified, attached⟩ fun s action t _ sound _ moved => ?_
  have step : s.Moves t := Scan.step_moves moved
  exact ⟨step.told sound.told, step.justified sound.justified, step.attached sound.attached⟩

/-- In every interleaving, a scan that returns gives the first advertisement that matches, and this one is logged and
nothing else, at the latest when its handler goes on; a timeout or a cancellation is reported only where there was one;
no handler is left; and as long as it is not over, its own statements and the timer can end it. Before the timer and the
caller, hearing the board is enough. -/
theorem scan_ends_truly {s : Scan} (reached : scanTargetAddressAsync.Reachable s) :
    (∀ address, s.point = .ended (.ok address) → ∃ advertisement,
      s.heard.find? Advertisement.matched = some advertisement ∧ advertisement.bluetoothAddress = address ∧
      s.Announces advertisement) ∧
    (∀ fault, s.point = .ended (.error fault) → s.log = [scanningLine] ∧
      (fault = .timeout ∧ s.elapsed = true ∨ fault = .cancelled ∧ s.cancellationRequested = true)) ∧
    (s.listening = true ↔ s.point ≠ .start ∧ ¬ s.Ended) ∧
    (¬ s.Ended → s.CanEnd) ∧
    (s.elapsed = false → s.cancellationRequested = false →
      (∃ advertisement ∈ s.heard, advertisement.localName = Firmware.kBleDeviceName ∨
        Firmware.kServiceUuid ∈ advertisement.serviceUuids) →
      s.task = (s.heard.find? Advertisement.matched).map fun first => .result first.bluetoothAddress) := by
  obtain ⟨told, justified, attached⟩ := scan_sound reached
  refine ⟨fun address ended => told.found address (justified.returned address ended), fun fault ended => ?_, attached,
    Scan.canEnd, fun early uncancelled heard => ?_⟩
  · obtain ⟨canceled, cause⟩ := justified.failed fault ended
    refine ⟨?_, cause⟩
    rw [(told.quiet (by rw [canceled]; nofun)).2, ended]
    rfl
  · obtain ⟨advertisement, member, board⟩ := heard
    have matched := Scan.matched_of_board board
    cases task : s.task with
    | none =>
      rw [told.unheard task advertisement member] at matched
      cases matched
    | some completion =>
      cases completion with
      | result address =>
        obtain ⟨first, found, same, -⟩ := told.found address task
        rw [found, Option.map_some, same]
      | canceled =>
        rcases justified.requested (justified.canceled task) with elapsed | cancelled
        · rw [early] at elapsed
          cases elapsed
        · rw [uncancelled] at cancelled
          cases cancelled

/-- A packet of the board. -/
def boardPacket : Advertisement := ⟨[], [Firmware.kServiceUuid], 0xA0B1C2D3E4F5⟩

/-- The board is heard although the timer runs off just behind it; the line is logged behind the return. -/
theorem scan_ends_truly_heard : ∃ s : Scan, s.point = .ended (.ok 0xA0B1C2D3E4F5) ∧ s.elapsed = true ∧
    s.log = [scanningLine, "Found target advertisement addr=A0:B1:C2:D3:E4:F5 reason=service".toList] := by
  have run : scanTargetAddressAsync.run {}
      [.next, .next, .next, .received boardPacket, .elapse, .callback, .next, .announce] =
      some { point := .ended (.ok 0xA0B1C2D3E4F5), task := some (.result 0xA0B1C2D3E4F5), timeoutRequested := true,
             elapsed := true, log := [scanningLine, foundLine boardPacket], heard := [boardPacket] } := by decide
  have reached := Reachable.run (m := scanTargetAddressAsync) .init run
  obtain ⟨first, found, -, ⟨-, log⟩ | ⟨pending, -⟩⟩ := (scan_ends_truly reached).1 _ rfl
  · obtain rfl : boardPacket = first := Option.some.inj found
    exact ⟨_, rfl, rfl, log.trans (by decide)⟩
  · cases pending

end GestureSuite.Connection
