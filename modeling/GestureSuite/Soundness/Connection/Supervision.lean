import GestureSuite.Model.Connection.Supervisor

/-! # Which reconnect loops are tracked

A stop awaits the task it found and afterwards clears both fields, whatever they hold by then. A loop
started in between is running but in no field: no later stop finds it, and `IsAutoReconnectActive`
denies it. As long as starts keep out of that window, and neither starts nor stops re-enter a start, the
fields always name the one running loop.
-/

namespace GestureSuite.Connection

/-- The loop's task is not completed. -/
def Supervisor.Running (s : Supervisor) (loop : ℕ) : Prop := (s.loops loop).isRunning = true

/-- No start is in its synchronous part. -/
def Supervisor.NoStartInside (s : Supervisor) : Prop := ∀ call loop, s.starts call ≠ .inside loop

/-- No stop is suspended in front of its clearing piece. -/
def Supervisor.NoStopAwaiting (s : Supervisor) : Prop := ∀ call task, s.stops call ≠ .awaiting task

/-- A start that makes a loop is entered outside every other start and outside the await of every stop,
and a stop is entered outside every start. -/
def Supervisor.Serialized (s : Supervisor) : SupervisorAction → Prop
  | .startEnter _ _ => s.isAutoReconnectActive = false → s.NoStartInside ∧ s.NoStopAwaiting
  | .stopEnter _ => s.NoStartInside
  | _ => True

/-- The fields name the running loop, awaiting stops wait for it, and cleared ones have outlived it. -/
structure Supervisor.Supervised (s : Supervisor) : Prop where
  tracked : ∀ loop, s.Running loop → s.autoReconnectCts = some loop ∧
    (s.autoReconnectTask = some loop ∨ ∃ call, s.starts call = .inside loop)
  undisposed : ∀ source, s.autoReconnectCts = some source → source ∉ s.disposed
  made : ∀ source, s.autoReconnectCts = some source ∨ source ∈ s.disposed → source < s.fresh
  inside : ∀ call loop, s.starts call = .inside loop → s.autoReconnectCts = some loop ∧ s.NoStopAwaiting ∧
    ∀ other, other ≠ call → ∀ loop', s.starts other ≠ .inside loop'
  awaited : ∀ call task, s.stops call = .awaiting task → ∀ loop, s.Running loop → loop = task
  stopped : ∀ call later earlier, s.entered = later ++ .stop call :: earlier → (∀ c, .start c ∉ later) →
    s.stops call = .disconnecting ∨ s.stops call = .returned → ∀ loop, ¬ s.Running loop

private theorem progress_running {cancelled : Bool} {pc next : Instance} {event : Progress}
    (progressed : pc.progress cancelled event = some next) : pc.isRunning = true := by
  cases pc <;> simp_all [Instance.progress, Instance.isRunning]

/-- Behind the newest start there is no stop without a start after it. -/
private theorem not_order_of_start {call stop : ℕ} {entered later earlier : List SupervisorCall}
    (noStart : ∀ c, .start c ∉ later) : SupervisorCall.start call :: entered ≠ later ++ .stop stop :: earlier := by
  intro order
  rcases later with _ | ⟨first, later⟩
  · cases (List.cons.inj order).1
  · obtain rfl := (List.cons.inj order).1
    exact noStart call List.mem_cons_self

section Preservation

variable {s : Supervisor}

/-- A step that only lets a loop go on or end keeps everything. -/
private theorem Supervisor.Supervised.of_loops (held : s.Supervised) {loops : ℕ → Instance}
    (fewer : ∀ loop, (loops loop).isRunning = true → s.Running loop) :
    Supervisor.Supervised { s with loops } where
  tracked loop running := held.tracked loop (fewer loop running)
  undisposed := held.undisposed
  made := held.made
  inside := held.inside
  awaited call task waits loop running := held.awaited call task waits loop (fewer loop running)
  stopped call later earlier order noStart cleared loop running :=
    held.stopped call later earlier order noStart cleared loop (fewer loop running)

/-- Without a start in its synchronous part the task field names the running loop. -/
private theorem Supervisor.Supervised.task_of_running (held : s.Supervised) (outside : s.NoStartInside) {loop : ℕ}
    (running : s.Running loop) : s.autoReconnectTask = some loop := by
  obtain ⟨_, task | ⟨call, inside⟩⟩ := held.tracked loop running
  · exact task
  · exact absurd inside (outside call loop)

private theorem Supervisor.Supervised.not_running_of_inactive (held : s.Supervised) (outside : s.NoStartInside)
    (inactive : s.isAutoReconnectActive = false) (loop : ℕ) : ¬ s.Running loop := by
  intro running
  have task := held.task_of_running outside running
  simp only [Supervisor.isAutoReconnectActive, task, Bool.not_eq_eq_eq_not, Bool.not_false] at inactive
  rw [Supervisor.Running] at running
  cases place : s.loops loop <;> simp_all [Instance.isRunning, Instance.isCompleted]

/-- A start that finds a running loop leaves everything as it is. -/
private theorem Supervisor.Supervised.returnedStart (held : s.Supervised) {call : ℕ}
    (idle : s.starts call = .notStarted) :
    Supervisor.Supervised
      { s with entered := .start call :: s.entered, starts := Function.update s.starts call .returned } := by
  have unmoved : ∀ c loop, Function.update s.starts call .returned c = .inside loop ↔ s.starts c = .inside loop := by
    apply (Function.forall_update_iff s.starts fun c pc => ∀ loop, pc = .inside loop ↔ s.starts c = .inside loop).mpr
    exact ⟨by simp [idle], fun _ _ _ => Iff.rfl⟩
  refine ⟨?_, held.undisposed, held.made, ?_, held.awaited, ?_⟩
  · intro loop running
    obtain ⟨cts, task | ⟨c, inside⟩⟩ := held.tracked loop running
    · exact ⟨cts, .inl task⟩
    · exact ⟨cts, .inr ⟨c, (unmoved c loop).mpr inside⟩⟩
  · intro c loop inside
    obtain ⟨cts, noStop, alone⟩ := held.inside c loop ((unmoved c loop).mp inside)
    refine ⟨cts, noStop, ?_⟩
    intro other differs loop' insideOther
    exact alone other differs loop' ((unmoved other loop').mp insideOther)
  · intro c later earlier order noStart
    exact absurd order (not_order_of_start noStart)

private theorem Supervisor.Supervised.newLoop (held : s.Supervised) (call : ℕ) (externallyCancelled : Bool)
    (inactive : s.isAutoReconnectActive = false) (noStart : s.NoStartInside) (noStop : s.NoStopAwaiting) :
    Supervisor.Supervised
      { s with
        entered := .start call :: s.entered
        autoReconnectCts := some s.fresh
        cancelled := if externallyCancelled then s.fresh :: s.cancelled else s.cancelled
        loops := Function.update s.loops s.fresh (.enter externallyCancelled)
        starts := Function.update s.starts call (.inside s.fresh)
        fresh := s.fresh + 1 } := by
  have nobody := held.not_running_of_inactive noStart inactive
  have onlyCall : ∀ c loop, Function.update s.starts call (.inside s.fresh) c = .inside loop →
      c = call ∧ loop = s.fresh := by
    apply (Function.forall_update_iff s.starts fun c pc => ∀ loop, pc = .inside loop → c = call ∧ loop = s.fresh).mpr
    constructor
    · intro loop inside
      exact ⟨rfl, (StartPc.inside.inj inside).symm⟩
    · intro c _ loop inside
      exact absurd inside (noStart c loop)
  refine ⟨?_, ?_, ?_, ?_, ?_, ?_⟩
  · intro loop running
    have isNew : loop = s.fresh := by
      by_contra old
      rw [Supervisor.Running] at running
      dsimp only at running
      rw [Function.update_of_ne old] at running
      exact nobody loop running
    subst loop
    exact ⟨rfl, .inr ⟨call, Function.update_self ..⟩⟩
  · rintro source ⟨⟩ disposed
    exact lt_irrefl _ (held.made s.fresh (.inr disposed))
  · rintro source (⟨⟨⟩⟩ | disposed)
    · exact Nat.lt_succ_self _
    · exact Nat.lt_succ_of_lt (held.made source (.inr disposed))
  · intro c loop inside
    obtain ⟨rfl, rfl⟩ := onlyCall c loop inside
    refine ⟨rfl, noStop, ?_⟩
    intro other differs loop' insideOther
    exact differs (onlyCall other loop' insideOther).1
  · intro c task waits
    exact absurd waits (noStop c task)
  · intro c later earlier order noLater
    exact absurd order (not_order_of_start noLater)

private theorem Supervisor.Supervised.assignTask (held : s.Supervised) {call loop : ℕ}
    (inside : s.starts call = .inside loop) :
    Supervisor.Supervised
      { s with autoReconnectTask := some loop, starts := Function.update s.starts call .returned } := by
  obtain ⟨cts, noStop, alone⟩ := held.inside call loop inside
  have nobodyInside : ∀ c loop', Function.update s.starts call .returned c ≠ .inside loop' := by
    apply (Function.forall_update_iff s.starts fun _ pc => ∀ loop', pc ≠ .inside loop').mpr
    exact ⟨by simp, alone⟩
  refine ⟨?_, held.undisposed, held.made, ?_, held.awaited, held.stopped⟩
  · intro other running
    have current := (held.tracked other running).1
    exact ⟨current, .inl (cts.symm.trans current)⟩
  · intro c loop' insideOther
    exact absurd insideOther (nobodyInside c loop')

/-- Clearing the fields is harmless when no loop runs and no start is about to use them. -/
private theorem Supervisor.Supervised.clear (held : s.Supervised) (call : ℕ) (nobody : ∀ loop, ¬ s.Running loop)
    (outside : s.NoStartInside) : (s.clear call).Supervised := by
  refine ⟨?_, ?_, ?_, ?_, ?_, ?_⟩
  · intro loop running
    exact absurd running (nobody loop)
  · rintro source ⟨⟩
  · rintro source (⟨⟨⟩⟩ | disposed)
    rcases List.mem_append.mp disposed with current | old
    · exact held.made source (.inl (Option.mem_toList.mp current))
    · exact held.made source (.inr old)
  · intro c loop inside
    exact absurd inside (outside c loop)
  · intro _ _ _ loop running
    exact absurd running (nobody loop)
  · intro _ _ _ _ _ _ loop running
    exact nobody loop running

/-- Moving a stop to a place where it neither waits nor counts as done. -/
private theorem Supervisor.Supervised.moveStop (held : s.Supervised) (call : ℕ) {pc : StopPc}
    (waits : ∀ task, pc = .awaiting task → s.NoStartInside ∧ ∀ loop, s.Running loop → loop = task)
    (done : pc = .disconnecting ∨ pc = .returned → s.stops call = .disconnecting) :
    Supervisor.Supervised { s with stops := Function.update s.stops call pc } := by
  refine ⟨held.tracked, held.undisposed, held.made, ?_, ?_, ?_⟩
  · intro c loop inside
    obtain ⟨cts, noStop, alone⟩ := held.inside c loop inside
    refine ⟨cts, ?_, alone⟩
    apply (Function.forall_update_iff s.stops fun _ pc => ∀ task, pc ≠ .awaiting task).mpr
    exact ⟨fun task waiting => (waits task waiting).1 c loop inside, fun stop _ => noStop stop⟩
  · apply (Function.forall_update_iff s.stops fun _ pc => ∀ task, pc = .awaiting task →
      ∀ loop, s.Running loop → loop = task).mpr
    exact ⟨fun task waiting => (waits task waiting).2, fun stop _ => held.awaited stop⟩
  · have before : ∀ stop, Function.update s.stops call pc stop = .disconnecting ∨
        Function.update s.stops call pc stop = .returned →
          s.stops stop = .disconnecting ∨ s.stops stop = .returned := by
      apply (Function.forall_update_iff s.stops fun stop pc => pc = .disconnecting ∨ pc = .returned →
        s.stops stop = .disconnecting ∨ s.stops stop = .returned).mpr
      exact ⟨fun cleared => .inl (done cleared), fun _ _ cleared => cleared⟩
    intro stop later earlier order noStart cleared
    exact held.stopped stop later earlier order noStart (before stop cleared)

/-- Recording the entry of a stop that has not cleared anything. -/
private theorem Supervisor.Supervised.enter (held : s.Supervised) {call : ℕ} (idle : s.stops call = .notStarted) :
    Supervisor.Supervised { s with entered := .stop call :: s.entered } := by
  refine ⟨held.tracked, held.undisposed, held.made, held.inside, held.awaited, ?_⟩
  intro stop later earlier order noStart cleared
  rcases later with _ | ⟨first, later⟩
  · obtain ⟨entry, _⟩ := List.cons.inj order
    obtain rfl := SupervisorCall.stop.inj entry
    simp [idle] at cleared
  · exact held.stopped stop later earlier (List.cons.inj order).2
      (fun c member => noStart c (List.mem_cons_of_mem _ member)) cleared

private theorem Supervisor.Supervised.of_cancelled (held : s.Supervised) (cancelled : List ℕ) :
    Supervisor.Supervised { s with cancelled } :=
  ⟨held.tracked, held.undisposed, held.made, held.inside, held.awaited, held.stopped⟩

/-- A stop that finds a task waits for it; one that finds none clears the fields. -/
private theorem Supervisor.Supervised.stopEnter (held : s.Supervised) {call : ℕ} {next : Supervisor}
    (serialized : s.Serialized (.stopEnter call)) (stepped : s.step (.stopEnter call) = some next) :
    next.Supervised := by
  obtain ⟨idle, moved⟩ := Option.ite_none_right_eq_some.mp stepped
  obtain rfl := Option.some.inj moved
  have requested := (held.enter idle).of_cancelled (s.autoReconnectCts.toList ++ s.cancelled)
  rw [Supervisor.enterStop]
  dsimp only
  split
  · next task current =>
    refine requested.moveStop call ?_ (by simp)
    rintro _ ⟨⟩
    refine ⟨serialized, ?_⟩
    intro loop running
    exact Option.some.inj ((held.task_of_running serialized running).symm.trans current)
  · next current =>
    refine requested.clear call ?_ serialized
    intro loop running
    have task := held.task_of_running serialized running
    cases current.symm.trans task

/-- A stop goes on when the task it waits for is over. -/
private theorem Supervisor.Supervised.stopContinue (held : s.Supervised) {call : ℕ} {next : Supervisor}
    (stepped : s.step (.stopContinue call) = some next) : next.Supervised := by
  simp only [Supervisor.step] at stepped
  split at stepped
  · next task waits =>
    split at stepped
    · obtain rfl := Option.some.inj stepped
      exact held.moveStop call (by simp) (by simp)
    · next result notFaulted completed =>
      obtain rfl := Option.some.inj stepped
      apply held.clear call
      · intro loop running
        obtain rfl := held.awaited call task waits loop running
        simp [Supervisor.Running, completed, Instance.isRunning] at running
      · intro start loop inside
        exact (held.inside start loop inside).2.1 call task waits
    · cases stepped
  · cases stepped

private theorem Supervisor.Supervised.step (held : s.Supervised) {a : SupervisorAction} {next : Supervisor}
    (serialized : s.Serialized a) (stepped : s.step a = some next) : next.Supervised := by
  cases a with
  | startEnter call externallyCancelled =>
    obtain ⟨idle, moved⟩ := Option.ite_none_right_eq_some.mp stepped
    obtain rfl := Option.some.inj moved
    rw [Supervisor.enterStart]
    split
    · exact held.returnedStart idle
    · next active =>
      have inactive : s.isAutoReconnectActive = false := Bool.eq_false_iff.mpr active
      obtain ⟨noStart, noStop⟩ := serialized inactive
      exact held.newLoop call externallyCancelled inactive noStart noStop
  | startReturn call =>
    simp only [Supervisor.step] at stepped
    split at stepped
    · next loop inside =>
      obtain rfl := Option.some.inj stepped
      exact held.assignTask inside
    · cases stepped
  | stopEnter call => exact held.stopEnter serialized stepped
  | stopContinue call => exact held.stopContinue stepped
  | stopReturn call =>
    obtain ⟨cleared, moved⟩ := Option.ite_none_right_eq_some.mp stepped
    obtain rfl := Option.some.inj moved
    exact held.moveStop call (by simp) fun _ => cleared
  | cancelExternally source =>
    obtain ⟨_, moved⟩ := Option.ite_none_right_eq_some.mp stepped
    obtain rfl := Option.some.inj moved
    exact held.of_cancelled _
  | progress loop event =>
    obtain ⟨pc, progressed, rfl⟩ := Option.map_eq_some_iff.mp stepped
    apply held.of_loops
    intro other running
    by_cases same : other = loop
    · subst other
      exact progress_running progressed
    · rwa [Function.update_of_ne same] at running

end Preservation

private theorem supervised_of_reachableUnder {s : Supervisor}
    (reached : supervisorSystem.ReachableUnder Supervisor.Serialized s) : s.Supervised := by
  refine reached.invariant ?_ ?_
  · refine ⟨?_, ?_, ?_, ?_, ?_, ?_⟩ <;> simp [supervisorSystem, Supervisor.Running, Instance.isRunning]
  · intro s a next _ held serialized stepped
    exact held.step serialized stepped

/-- Between pieces of code, at most one loop runs, the fields name it with a live token source, and a
completed stop with no start after it has left none running. -/
def Supervisor.LoopsTracked (s : Supervisor) : Prop :=
  s.NoStartInside →
    (∀ loop other, s.Running loop → s.Running other → loop = other) ∧
    (∀ loop, s.Running loop → s.autoReconnectTask = some loop ∧ s.autoReconnectCts = some loop ∧
      loop ∉ s.disposed) ∧
    ∀ call later earlier, s.entered = later ++ .stop call :: earlier → (∀ c, .start c ∉ later) →
      s.stops call = .returned → ∀ loop, ¬ s.Running loop

/-- In every run whose starts and stops are serialized as far as `Serialized` says, every loop is tracked. -/
theorem loops_tracked {s : Supervisor} (reached : supervisorSystem.ReachableUnder Supervisor.Serialized s) :
    s.LoopsTracked := by
  have held := supervised_of_reachableUnder reached
  intro outside
  refine ⟨?_, ?_, ?_⟩
  · intro loop other running otherRunning
    have first := (held.tracked loop running).1
    have second := (held.tracked other otherRunning).1
    exact Option.some.inj (first.symm.trans second)
  · intro loop running
    have cts := (held.tracked loop running).1
    exact ⟨held.task_of_running outside running, cts, held.undisposed loop cts⟩
  · intro call later earlier order noStart returned
    exact held.stopped call later earlier order noStart (.inr returned)

/-- One loop, started and failing its first attempt. -/
def firstLoop : List SupervisorAction := [.startEnter 0 false, .startReturn 0, .progress 0 .attemptFailed]

/-- A stop waits for the loop to end, and a second start comes after the stop has cleared the fields. -/
def restarted : Supervisor :=
  (supervisorSystem.run supervisorSystem.init (firstLoop ++ [.stopEnter 0, .progress 0 .operationCanceled,
    .stopContinue 0, .stopReturn 0, .startEnter 1 false, .startReturn 1])).getD {}

theorem loops_tracked_restarted : restarted.Running 1 ∧ restarted.autoReconnectTask = some 1 ∧
    restarted.LoopsTracked := by
  have initial : supervisorSystem.ReachableUnder Supervisor.Serialized supervisorSystem.init := .init
  have entered := initial.step (a := SupervisorAction.startEnter 0 false)
    (fun _ => ⟨by rintro call loop ⟨⟩, by rintro call task ⟨⟩⟩) rfl
  have assigned := entered.step (a := SupervisorAction.startReturn 0) trivial rfl
  have failed := assigned.step (a := SupervisorAction.progress 0 .attemptFailed) trivial rfl
  have stopping := failed.step (a := SupervisorAction.stopEnter 0) (by rintro (_ | call) loop ⟨⟩) rfl
  have ended := stopping.step (a := SupervisorAction.progress 0 .operationCanceled) trivial rfl
  have cleared := ended.step (a := SupervisorAction.stopContinue 0) trivial rfl
  have stopped := cleared.step (a := SupervisorAction.stopReturn 0) trivial rfl
  have again := stopped.step (a := SupervisorAction.startEnter 1 false)
    (fun _ => ⟨by rintro (_ | call) loop ⟨⟩, by rintro (_ | call) loop ⟨⟩⟩) rfl
  have final := again.step (a := SupervisorAction.startReturn 1) trivial rfl
  exact ⟨rfl, rfl, loops_tracked final⟩

/-- The second start comes between the end of the first loop and the continuation of the stop. -/
def interleaved : List SupervisorAction :=
  firstLoop ++ [.stopEnter 0, .progress 0 .operationCanceled, .startEnter 1 false, .startReturn 1,
    .stopContinue 0, .stopReturn 0]

def orphaned : Supervisor := (supervisorSystem.run supervisorSystem.init interleaved).getD {}

theorem loop_orphaned : supervisorSystem.Reachable orphaned ∧ orphaned.Running 1 ∧
    orphaned.isAutoReconnectActive = false ∧ 1 ∈ orphaned.disposed ∧ ¬ orphaned.LoopsTracked := by
  have ran : supervisorSystem.run supervisorSystem.init interleaved = some orphaned := rfl
  refine ⟨.run .init ran, rfl, rfl, by decide, ?_⟩
  intro tracked
  obtain ⟨_, named, _⟩ := tracked (by rintro (_ | _ | call) loop ⟨⟩)
  obtain ⟨task, _⟩ := named 1 rfl
  cases task

end GestureSuite.Connection
