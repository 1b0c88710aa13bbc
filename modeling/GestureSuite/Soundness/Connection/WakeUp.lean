import GestureSuite.Model.Connection.Reconnect
import GestureSuite.Soundness.Connection.Ownership

/-! # When the reconnect loop sleeps on a signal nobody holds

`WaitForDisconnectAsync` runs outside the gate. While a `DisconnectCoreAsync` is between its first
and its last piece, the old signal is already gone but the device is still attached and connected, so
the loop creates a signal of its own that the release of the device never completes. Away from that
window the signal the loop sleeps on is the one every link drop and every disconnect completes.
-/

namespace GestureSuite.Connection

/-- The call is suspended inside `DisconnectCoreAsync`. -/
def Pc.inCore : Pc → Bool
  | .disablingStatus _ | .disablingImu _ => true
  | _ => false

/-- The call belongs to a `ConnectAsync` that has not returned. -/
def Pc.connects : Pc → Bool
  | .notStarted | .returned _ _ => false
  | .gateWait op | .disablingStatus op | .disablingImu op => op = .connect
  | _ => true

section Segments

variable (c : Client) (call : ℕ)

private theorem releaseDevice_signalled : c.releaseDevice.signalled = c.signalled := by
  rw [Client.releaseDevice, Client.raiseConnectionState]
  cases c.device <;> rfl

private theorem finishDisconnectCore_signalled (op : Operation) :
    (c.finishDisconnectCore call op).1.signalled = c.signalled := by
  cases op <;> exact releaseDevice_signalled c

private theorem disableImu_signalled (op : Operation) : (c.disableImu call op).1.signalled = c.signalled := by
  rw [Client.disableImu]
  split
  · rfl
  · exact finishDisconnectCore_signalled c call op

/-- No code behind an await completes a signal. -/
private theorem resume_signalled {pc : Pc} {outcome : Outcome} {result : Client × Pc}
    (resumed : resume c call pc outcome = some result) : result.1.signalled = c.signalled := by
  simp only [resume] at resumed
  split at resumed <;> simp only [Option.some.injEq, reduceCtorEq] at resumed <;> subst result
  case h_1 => exact disableImu_signalled c call _
  case h_2 => exact finishDisconnectCore_signalled c call _
  case h_8 => exact (enableStatus_keeps _ call).signalled
  case h_10 => exact (enableImu_keeps c call).signalled
  case h_13 => exact (readStatus_keeps c call).signalled
  case h_16 | h_17 => exact (readImu_keeps c call).signalled
  all_goals rfl

private theorem startDisconnectCore_signalled (op : Operation) :
    (c.startDisconnectCore call op).1.signalled = c.trySetDisconnectSignal.signalled := by
  rw [Client.startDisconnectCore]
  dsimp only
  split
  · rfl
  · exact disableImu_signalled _ call op

private theorem startDisconnectCore_completes {signal : ℕ} (current : c.disconnectSignal = some signal)
    (op : Operation) : signal ∈ (c.startDisconnectCore call op).1.signalled := by
  rw [startDisconnectCore_signalled]
  simp [Client.trySetDisconnectSignal, current]

private theorem finishDisconnectCore_connects (op : Operation) :
    (c.finishDisconnectCore call op).2.connects = (op = .connect : Bool) := by
  cases op <;> rfl

private theorem disableImu_connects (op : Operation) :
    (c.disableImu call op).2.connects = (op = .connect : Bool) := by
  rw [Client.disableImu]
  split
  · rfl
  · exact finishDisconnectCore_connects c call op

private theorem startDisconnectCore_connects (op : Operation) :
    (c.startDisconnectCore call op).2.connects = (op = .connect : Bool) := by
  rw [Client.startDisconnectCore]
  dsimp only
  split
  · rfl
  · exact disableImu_connects _ call op

/-- A disconnecting call stays one. -/
private theorem resume_connects {pc : Pc} {outcome : Outcome} {result : Client × Pc}
    (disconnects : pc.connects = false) (resumed : resume c call pc outcome = some result) :
    result.2.connects = false := by
  cases pc with
  | disablingStatus op =>
    obtain rfl := Option.some.inj resumed
    exact (disableImu_connects c call op).trans disconnects
  | disablingImu op =>
    obtain rfl := Option.some.inj resumed
    exact (finishDisconnectCore_connects c call op).trans disconnects
  | notStarted | gateWait | returned => simp [resume] at resumed
  | _ => simp [Pc.connects] at disconnects

end Segments

/-- The only connecting call is the loop's own, and the signal the loop sleeps on is completed or is
the current one of a live connection that no call is working on. -/
structure Reconnect.Armed (s : Reconnect) : Prop where
  owned : s.world.Owned
  connects : ∀ call, (s.world.calls call).connects = true → s.loop = .connecting call
  live : ∀ signal, s.loop = .waiting signal → signal ∈ s.world.client.signalled ∨
    (∀ call, (s.world.calls call).inside = false) ∧ s.world.client.disconnectSignal = some signal ∧
      s.world.client.isConnected = true

/-- If the loop is at a `ConnectAsync`, that call has returned. -/
def Reconnect.Quiet (s : Reconnect) : Prop :=
  ∀ call, s.loop = .connecting call → (s.world.calls call).connects = false

private theorem Reconnect.quiet_of_returned {s : Reconnect} {call : ℕ} {op : Operation} {result : Except Fault Unit}
    (place : s.loop = .connecting call) (returned : s.world.calls call = .returned op result) : s.Quiet := by
  intro other connecting
  obtain rfl := LoopPc.connecting.inj (place.symm.trans connecting)
  rw [returned]
  rfl

/-- What a step can do, with the guards the invariant needs. -/
inductive Reconnect.Moves (s : Reconnect) : ReconnectAction → Reconnect → Prop
  | world {a : Action} {world : World} (admitted : s.admits a = true) (moved : s.world.Moves a world) :
      Moves s (.world a) { s with world }
  | attempt {call : ℕ} (ready : s.loop = .attempting) (idle : s.world.calls call = .notStarted) :
      Moves s (.attempt call)
        { s with world := s.world.put call (s.world.client, .gateWait .connect), loop := .connecting call }
  | wait {call : ℕ} {op : Operation} (place : s.loop = .connecting call)
      (returned : s.world.calls call = .returned op (.ok ())) : Moves s .connectReturned s.waitForDisconnect
  | rest {a : ReconnectAction} (quiet : s.Quiet) : Moves s a s.continueLoop
  | stop {a : ReconnectAction} (quiet : s.Quiet) : Moves s a { s with loop := .stopped }
  | retry {a : ReconnectAction} (quiet : s.Quiet) : Moves s a { s with loop := .attempting }
  | cancel {a : ReconnectAction} : Moves s a { s with cancelled := true }

theorem Reconnect.step_moves {s next : Reconnect} {a : ReconnectAction} (stepped : s.step a = some next) :
    s.Moves a next := by
  have quiet : (∀ call, s.loop ≠ .connecting call) → s.Quiet := fun elsewhere call place =>
    absurd place (elsewhere call)
  cases a with
  | world a =>
    obtain ⟨admitted, moved⟩ := Option.ite_none_right_eq_some.mp stepped
    obtain ⟨world, taken, rfl⟩ := Option.map_eq_some_iff.mp moved
    exact .world admitted (World.step_moves taken)
  | attempt call =>
    obtain ⟨ready, moved⟩ := Option.ite_none_right_eq_some.mp stepped
    split_ifs at moved
    · obtain rfl := Option.some.inj moved
      exact .stop (quiet (by simp [ready]))
    · obtain ⟨world, taken, rfl⟩ := Option.map_eq_some_iff.mp moved
      cases World.step_moves taken with
      | invoke idle => exact .attempt ready idle
  | connectReturned =>
    simp only [Reconnect.step] at stepped
    split at stepped
    · next call place =>
      split at stepped
      · next op result returned =>
        obtain rfl := Option.some.inj stepped
        exact .wait place returned
      · next op fault returned =>
        have done := Reconnect.quiet_of_returned place returned
        obtain rfl := Option.some.inj stepped
        rw [Reconnect.catchFault]
        split_ifs
        · exact .stop done
        · exact .rest done
      · cases stepped
    · cases stepped
  | disconnectSignalled =>
    simp only [Reconnect.step] at stepped
    split at stepped
    · next signal place =>
      obtain ⟨_, moved⟩ := Option.ite_none_right_eq_some.mp stepped
      obtain rfl := Option.some.inj moved
      exact .rest (quiet (by simp [place]))
    · cases stepped
  | waitCancelled =>
    simp only [Reconnect.step] at stepped
    split at stepped
    · next signal place =>
      obtain ⟨_, moved⟩ := Option.ite_none_right_eq_some.mp stepped
      obtain rfl := Option.some.inj moved
      exact .stop (quiet (by simp [place]))
    · cases stepped
  | delayElapsed =>
    obtain ⟨place, moved⟩ := Option.ite_none_right_eq_some.mp stepped
    obtain rfl := Option.some.inj moved
    exact .retry (quiet (by simp [place]))
  | delayCancelled =>
    obtain ⟨⟨place, _⟩, moved⟩ := Option.ite_none_right_eq_some.mp stepped
    obtain rfl := Option.some.inj moved
    exact .stop (quiet (by simp [place]))
  | cancel =>
    obtain rfl := Option.some.inj stepped
    exact .cancel

section Preservation

variable {s : Reconnect}

private theorem Reconnect.Armed.nobody_connects (armed : s.Armed) (quiet : s.Quiet) (call : ℕ) :
    (s.world.calls call).connects = false := by
  by_contra connects
  have place := armed.connects call (by simpa using connects)
  exact connects (quiet call place)

/-- The loop may go anywhere but to sleep once its call has returned. -/
private theorem Reconnect.Armed.goto (armed : s.Armed) (quiet : s.Quiet) {loop : LoopPc}
    (awake : ∀ signal, loop ≠ .waiting signal) : Reconnect.Armed { s with loop } where
  owned := armed.owned
  connects call connects := by simp [armed.nobody_connects quiet call] at connects
  live signal place := absurd place (awake signal)

private theorem Reconnect.Armed.continueLoop (armed : s.Armed) (quiet : s.Quiet) : s.continueLoop.Armed := by
  rw [Reconnect.continueLoop]
  split_ifs
  · exact armed.goto quiet (by simp)
  · have raised : s.world.client.SameHandles (s.world.client.raiseConnectionState .scanning) :=
      ⟨_, _, _, _, _, rfl⟩
    refine ⟨armed.owned.of_sameHandles raised, ?_, by simp⟩
    intro call connects
    simp [armed.nobody_connects quiet call] at connects

/-- Every call behind the gate is a disconnect inside `DisconnectCoreAsync` when nothing connects. -/
private theorem inCore_of_inside {pc : Pc} (inside : pc.inside = true) (disconnects : pc.connects = false) :
    pc.inCore = true := by
  cases pc <;> simp_all [Pc.inside, Pc.connects, Pc.inCore]

private theorem Reconnect.Armed.waitForDisconnect (armed : s.Armed) (quiet : s.Quiet)
    (outsideCore : s.world.client.isConnected = true → ∀ call, (s.world.calls call).inCore = false) :
    s.waitForDisconnect.Armed := by
  rw [Reconnect.waitForDisconnect]
  dsimp only
  split_ifs with connected
  · have nobody : ∀ call, (s.world.calls call).inside = false := by
      intro call
      by_contra inside
      have core := inCore_of_inside (by simpa using inside) (armed.nobody_connects quiet call)
      simp [outsideCore connected call] at core
    have nobodyConnects := armed.nobody_connects quiet
    split
    · next signal current =>
      refine ⟨armed.owned, by simp [nobodyConnects], ?_⟩
      rintro _ ⟨⟩
      exact .inr ⟨nobody, current, connected⟩
    · refine ⟨armed.owned.of_sameHandles ⟨_, _, _, _, _, rfl⟩, by simp [nobodyConnects], ?_⟩
      rintro _ ⟨⟩
      exact .inr ⟨nobody, rfl, connected⟩
  · exact armed.continueLoop quiet

/-- Calls that did not move connect as before. -/
private theorem Reconnect.Armed.put_connects (armed : s.Armed) {call : ℕ} {result : Client × Pc}
    (kept : (s.world.calls call).connects = false → result.2.connects = false) :
    ∀ other, ((s.world.put call result).calls other).connects = true → s.loop = .connecting other := by
  apply (s.world.forall_put_iff call result fun other pc => pc.connects = true → s.loop = .connecting other).mpr
  refine ⟨?_, fun other _ => armed.connects other⟩
  intro connects
  apply armed.connects
  by_contra disconnects
  rw [kept (by simpa using disconnects)] at connects
  cases connects

/-- A step that leaves the client alone and keeps its call outside the gate keeps the sleeper alive. -/
private theorem Reconnect.Armed.live_of_outside (armed : s.Armed) {call : ℕ} {pc : Pc} (outside : pc.inside = false) :
    ∀ signal, s.loop = .waiting signal → signal ∈ s.world.client.signalled ∨
      (∀ other, ((s.world.put call (s.world.client, pc)).calls other).inside = false) ∧
        s.world.client.disconnectSignal = some signal ∧ s.world.client.isConnected = true := by
  intro signal place
  rcases armed.live signal place with completed | ⟨nobody, current, connected⟩
  · exact .inl completed
  · refine .inr ⟨?_, current, connected⟩
    apply (s.world.forall_put_iff call _ fun _ pc => pc.inside = false).mpr
    exact ⟨outside, fun other _ => nobody other⟩

/-- Whatever moves in the world, only the loop's own call connects. -/
private theorem Reconnect.Armed.world_connects (armed : s.Armed) {a : Action} {world : World}
    (admitted : s.admits a = true) (moved : s.world.Moves a world) :
    ∀ call, (world.calls call).connects = true → s.loop = .connecting call := by
  cases moved with
  | invoke idle =>
    refine armed.put_connects fun _ => ?_
    obtain rfl := of_decide_eq_true admitted
    rfl
  | acquire waiting available =>
    refine armed.put_connects fun disconnects => ?_
    rw [waiting] at disconnects
    exact (startDisconnectCore_connects ..).trans disconnects
  | cancelWait waiting => exact armed.put_connects fun _ => rfl
  | resume resumed => exact armed.put_connects fun disconnects => resume_connects _ _ disconnects resumed
  | link => exact armed.connects

/-- The first piece of a disconnect completes the signal. -/
private theorem Reconnect.Armed.signalled_of_acquire (armed : s.Armed) {signal : ℕ} (place : s.loop = .waiting signal)
    (call : ℕ) (op : Operation) :
    signal ∈ ((s.world.client.acquireGate call).startDisconnectCore call op).1.signalled := by
  rcases armed.live signal place with completed | ⟨_, current, _⟩
  · rw [startDisconnectCore_signalled, Client.trySetDisconnectSignal]
    split
    · exact List.mem_cons_of_mem _ completed
    · exact completed
  · exact startDisconnectCore_completes (s.world.client.acquireGate call) _ current _

/-- A link that goes down completes the signal, and one that comes up leaves it current. -/
private theorem Reconnect.Armed.live_of_link (armed : s.Armed) {device : ℕ} {up : Bool}
    (isOpen : device ∈ s.world.client.opened) :
    ∀ signal, s.loop = .waiting signal → signal ∈ (s.world.client.linkChanged device up).signalled ∨
      (∀ call, (s.world.calls call).inside = false) ∧
        (s.world.client.linkChanged device up).disconnectSignal = some signal ∧
        (s.world.client.linkChanged device up).isConnected = true := by
  intro signal place
  obtain ⟨signalled, raised, changed, grows, completes⟩ := s.world.client.linkChanged_frame device up
  rw [changed]
  rcases armed.live signal place with completed | ⟨nobody, current, connected⟩
  · exact .inl (grows completed)
  · have consistent := armed.owned.guarded.consistent
    have attached := consistent.mem_opened_iff.mp isOpen
    cases up with
    | false => exact .inl (completes rfl (consistent.mem_linkHandlers_iff.mpr attached) signal current)
    | true =>
      refine .inr ⟨nobody, current, ?_⟩
      simp [Client.isConnected, attached]

/-- Whatever moves in the world, the signal the loop sleeps on is completed or still current. -/
private theorem Reconnect.Armed.world_live (armed : s.Armed) {a : Action} {world : World}
    (moved : s.world.Moves a world) :
    ∀ signal, s.loop = .waiting signal → signal ∈ world.client.signalled ∨
      (∀ call, (world.calls call).inside = false) ∧ world.client.disconnectSignal = some signal ∧
        world.client.isConnected = true := by
  cases moved with
  | invoke idle => exact armed.live_of_outside rfl
  | cancelWait waiting => exact armed.live_of_outside rfl
  | acquire waiting available => exact fun signal place => .inl (armed.signalled_of_acquire place _ _)
  | resume resumed =>
    intro signal place
    rcases armed.live signal place with completed | ⟨nobody, _, _⟩
    · left
      change signal ∈ Client.signalled (Prod.fst _)
      rwa [resume_signalled _ _ resumed]
    · have inside := inside_of_resume resumed
      simp [nobody] at inside
  | link isOpen changes => exact armed.live_of_link isOpen

private theorem Reconnect.Armed.world (armed : s.Armed) {a : Action} {world : World}
    (admitted : s.admits a = true) (moved : s.world.Moves a world) : Reconnect.Armed { s with world } := by
  constructor
  · exact armed.owned.moves moved
  · exact armed.world_connects admitted moved
  · exact armed.world_live moved

/-- The step calls `WaitForDisconnectAsync` and finds the client connected. -/
def Reconnect.EntersWait (s : Reconnect) (a : ReconnectAction) : Prop :=
  a = .connectReturned ∧ (∃ call op, s.loop = .connecting call ∧ s.world.calls call = .returned op (.ok ())) ∧
    s.world.client.isConnected = true

/-- The loop does not go to sleep while a `DisconnectCoreAsync` is suspended. -/
def Reconnect.WaitsOutsideCore (s : Reconnect) (a : ReconnectAction) : Prop :=
  s.EntersWait a → ∀ call, (s.world.calls call).inCore = false

private theorem Reconnect.Armed.moves (armed : s.Armed) {a : ReconnectAction} {next : Reconnect}
    (outside : s.WaitsOutsideCore a) (moved : s.Moves a next) : next.Armed := by
  cases moved with
  | world admitted moved => exact armed.world admitted moved
  | @attempt call ready idle =>
    refine ⟨armed.owned.moves (.invoke idle), ?_, by simp⟩
    intro other connects
    by_cases same : other = call
    · rw [same]
    · dsimp only at connects
      rw [World.put_calls_of_ne _ same] at connects
      simp [armed.connects other connects] at ready
  | @wait call op place returned =>
    apply armed.waitForDisconnect (Reconnect.quiet_of_returned place returned)
    exact fun connected => outside ⟨rfl, ⟨call, op, place, returned⟩, connected⟩
  | rest quiet => exact armed.continueLoop quiet
  | stop quiet => exact armed.goto quiet (by simp)
  | retry quiet => exact armed.goto quiet (by simp)
  | cancel => exact ⟨armed.owned, armed.connects, armed.live⟩

end Preservation

private theorem armed_of_reachableUnder {s : Reconnect}
    (reached : reconnectSystem.ReachableUnder Reconnect.WaitsOutsideCore s) : s.Armed := by
  apply reached.invariant
  · exact ⟨initial_owned, by simp [reconnectSystem, Pc.connects], by simp [reconnectSystem]⟩
  · intro s a next _ armed outside stepped
    exact armed.moves outside (Reconnect.step_moves stepped)

/-- The loop can go on to its next attempt. -/
def Reconnect.Wakes (s : Reconnect) : Prop :=
  ∃ resumed, s.step .disconnectSignalled = some resumed ∧ resumed.loop = .delaying

/-- A loop asleep on an uncompleted signal, with no disconnect under way, sleeps on the current signal
of an attached device whose link it watches; a link drop wakes it, and so does any `DisconnectAsync`. -/
def Reconnect.NoLostWakeUp (s : Reconnect) : Prop :=
  ∀ signal, s.loop = .waiting signal → signal ∉ s.world.client.signalled → s.cancelled = false →
    (∀ call, (s.world.calls call).inCore = false) →
    ∃ device, s.world.client.device = some device ∧ device ∈ s.world.client.linkHandlers ∧
      s.world.client.disconnectSignal = some signal ∧
      (∃ next, s.step (.world (.link device false)) = some next ∧ next.Wakes) ∧
      ∀ call, s.world.calls call = .gateWait .disconnect →
        ∃ next, s.step (.world (.acquire call)) = some next ∧ next.Wakes

private theorem wakes_of_signalled {s : Reconnect} {signal : ℕ} (place : s.loop = .waiting signal)
    (completed : signal ∈ s.world.client.signalled) (running : s.cancelled = false) : s.Wakes := by
  refine ⟨s.continueLoop, ?_, ?_⟩
  · simp [Reconnect.step, place, completed]
  · simp [Reconnect.continueLoop, running]

/-- In every run in which the loop never goes to sleep during a `DisconnectCoreAsync`, no wake-up is
lost. -/
theorem no_lost_wakeUp {s : Reconnect}
    (reached : reconnectSystem.ReachableUnder Reconnect.WaitsOutsideCore s) : s.NoLostWakeUp := by
  have armed := armed_of_reachableUnder reached
  have consistent := armed.owned.guarded.consistent
  intro signal place pending running _
  obtain ⟨nobody, current, connected⟩ := (armed.live signal place).resolve_left pending
  obtain ⟨device, attached, up⟩ : ∃ device, s.world.client.device = some device ∧
      s.world.client.linkUp.contains device = true := by
    rw [Client.isConnected] at connected
    split at connected
    · next device attached => exact ⟨device, attached, connected⟩
    · cases connected
  have isOpen := consistent.mem_opened_iff.mpr attached
  have subscribed := consistent.mem_linkHandlers_iff.mpr attached
  refine ⟨device, attached, subscribed, current, ?_, ?_⟩
  · obtain ⟨signalled, raised, changed, _, completes⟩ := s.world.client.linkChanged_frame device false
    refine ⟨{ s with world := { s.world with client := s.world.client.linkChanged device false } }, ?_, ?_⟩
    · simp only [Reconnect.step, Reconnect.admits, World.step, up]
      simp [isOpen]
    · refine wakes_of_signalled place ?_ running
      dsimp only
      rw [changed]
      exact completes rfl subscribed signal current
  · intro call waiting
    have available : 0 < s.world.client.gateCount := by
      cases armed.owned.guarded with
      | free count => omega
      | held owner _ inside => simp [nobody owner] at inside
    refine ⟨{ s with
      world := s.world.put call ((s.world.client.acquireGate call).startDisconnectCore call .disconnect) },
      ?_, ?_⟩
    · simp [Reconnect.step, Reconnect.admits, World.step, waiting, available]
    · exact wakes_of_signalled place (startDisconnectCore_completes (s.world.client.acquireGate call) _ current _)
        running

/-- A first connection made by the loop. -/
def firstConnect : List ReconnectAction :=
  [.attempt 0, .world (.acquire 0), .world (.resume 0 .completed), .world (.resume 0 (.opened true)),
    .world (.resume 0 (.found { id := 0 } { id := 0 })), .world (.resume 0 .completed),
    .world (.resume 0 .completed), .world (.resume 0 .completed), .world (.resume 0 .completed)]

def connectedOnce : Reconnect := (reconnectSystem.run reconnectSystem.init firstConnect).getD {}

/-- The loop asleep on its first connection. -/
def asleep : Reconnect := connectedOnce.waitForDisconnect

theorem no_lost_wakeUp_asleep : asleep.loop = .waiting 3 ∧ 3 ∉ asleep.world.client.signalled ∧
    asleep.NoLostWakeUp := by
  have awake : ∀ a ∈ firstConnect, ∀ s : Reconnect, s.WaitsOutsideCore a := by
    intro a member s enters
    obtain ⟨rfl, _⟩ := enters
    exact absurd member (by decide)
  have ran : reconnectSystem.run reconnectSystem.init firstConnect = some connectedOnce := rfl
  have connected := Machine.System.ReachableUnder.run .init awake ran
  have outside : connectedOnce.WaitsOutsideCore .connectReturned := by
    rintro _ (_ | call) <;> rfl
  have slept : reconnectSystem.step connectedOnce .connectReturned = some asleep := rfl
  exact ⟨rfl, by decide, no_lost_wakeUp (connected.step outside slept)⟩

/-- The disconnect overtakes the loop: it has cleared the signal and waits for the radio when the loop
comes back from `ConnectAsync`, and finishes afterwards. -/
def overtaken : List ReconnectAction :=
  firstConnect ++
    [.world (.invoke 1 .disconnect), .world (.acquire 1), .connectReturned, .world (.resume 1 .completed),
      .world (.resume 1 .completed)]

def stranded : Reconnect := (reconnectSystem.run reconnectSystem.init overtaken).getD {}

theorem lost_wakeUp : reconnectSystem.Reachable stranded ∧ stranded.world.client.device = none ∧
    ¬ stranded.NoLostWakeUp := by
  have ran : reconnectSystem.run reconnectSystem.init overtaken = some stranded := rfl
  refine ⟨.run .init ran, rfl, ?_⟩
  intro safe
  obtain ⟨device, attached, _⟩ := safe 4 rfl (by decide) rfl (by
    intro call
    rcases call with _ | _ | call <;> rfl)
  cases attached

end GestureSuite.Connection
