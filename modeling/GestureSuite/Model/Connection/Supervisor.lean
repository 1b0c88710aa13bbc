import GestureSuite.Machine.Run

/-! # Starting and stopping reconnect loops

`StartAutoReconnectLoopAsync` and `StopAutoReconnectLoopAsync` share the fields `_autoReconnectCts` and
`_autoReconnectTask`. A start is cut in two although it has no await: the loop it calls raises events
before it first suspends, and a subscriber may call start or stop again before `_autoReconnectTask` is
assigned. Loop number `n` runs on token source number `n`. What the awaits of a loop come back with is an
input of the step.
-/

namespace GestureSuite.Connection

/-- How a task ended. -/
inductive Completion where
  | ranToCompletion
  | canceled
  | faulted
deriving DecidableEq, Repr

/-- Where one instance of `MaintainConnectionLoopAsync` is suspended. -/
inductive Instance where
  | absent
  | connecting
  | waiting
  | delaying
  | completed (result : Completion)
deriving DecidableEq, Repr

def Instance.isRunning : Instance → Bool
  | .connecting | .waiting | .delaying => true
  | _ => false

def Instance.isCompleted : Instance → Bool
  | .completed _ => true
  | _ => false

/-- What the await of a loop comes back with. -/
inductive Progress where
  /-- `ConnectAsync` returned and the link is up. -/
  | connected
  /-- `ConnectAsync` returned but the link is down again, so `WaitForDisconnectAsync` has nothing to wait for. -/
  | linkLost
  /-- An exception other than a cancellation. -/
  | attemptFailed
  | operationCanceled
  | signalled
  | delayElapsed
  /-- A subscriber of `Log` or `ConnectionStateChanged` threw behind the `try`. -/
  | subscriberThrew
deriving DecidableEq, Repr

namespace Instance

/-- Behind the `try`. -/
def afterAttempt (cancelled : Bool) : Instance :=
  if cancelled then .completed .ranToCompletion else .delaying

/-- The test of the `while`. -/
def enter (cancelled : Bool) : Instance :=
  if cancelled then .completed .ranToCompletion else .connecting

/-- One piece of `MaintainConnectionLoopAsync`, given whether its token is cancelled. -/
def progress (cancelled : Bool) : Instance → Progress → Option Instance
  | .connecting, .connected => some .waiting
  | .connecting, .linkLost => some (afterAttempt cancelled)
  | .connecting, .attemptFailed => some (afterAttempt cancelled)
  | .connecting, .operationCanceled => some (afterAttempt cancelled)
  | .waiting, .signalled => some (afterAttempt cancelled)
  | .waiting, .operationCanceled => if cancelled then some (.completed .ranToCompletion) else none
  | .delaying, .delayElapsed => some (enter cancelled)
  | .delaying, .operationCanceled => if cancelled then some (.completed .canceled) else none
  | .connecting, .subscriberThrew => some (.completed .faulted)
  | .waiting, .subscriberThrew => some (.completed .faulted)
  | _, _ => none

end Instance

inductive StartPc where
  | notStarted
  /-- In the synchronous part of the loop it has just called. -/
  | inside (loop : ℕ)
  | returned
deriving DecidableEq, Repr

inductive StopPc where
  | notStarted
  | awaiting (loop : ℕ)
  | disconnecting
  | returned
  | failed
deriving DecidableEq, Repr

inductive SupervisorCall where
  | start (call : ℕ)
  | stop (call : ℕ)
deriving DecidableEq, Repr

structure Supervisor where
  autoReconnectCts : Option ℕ := none
  autoReconnectTask : Option ℕ := none
  /-- Token sources on which cancellation has been requested. -/
  cancelled : List ℕ := []
  disposed : List ℕ := []
  loops : ℕ → Instance := fun _ => .absent
  starts : ℕ → StartPc := fun _ => .notStarted
  stops : ℕ → StopPc := fun _ => .notStarted
  /-- Calls in the order they were entered, newest first. -/
  entered : List SupervisorCall := []
  fresh : ℕ := 0

inductive SupervisorAction where
  | startEnter (call : ℕ) (externallyCancelled : Bool)
  | startReturn (call : ℕ)
  | stopEnter (call : ℕ)
  | stopContinue (call : ℕ)
  | stopReturn (call : ℕ)
  | cancelExternally (source : ℕ)
  | progress (loop : ℕ) (event : Progress)
deriving DecidableEq, Repr

namespace Supervisor

def isAutoReconnectActive (s : Supervisor) : Bool :=
  match s.autoReconnectTask with
  | some task => !(s.loops task).isCompleted
  | none => false

/-- `StartAutoReconnectLoopAsync` up to the assignment of `_autoReconnectTask`. -/
def enterStart (s : Supervisor) (call : ℕ) (externallyCancelled : Bool) : Supervisor :=
  if s.isAutoReconnectActive then { s with starts := Function.update s.starts call .returned }
  else
    { s with
      autoReconnectCts := some s.fresh
      cancelled := if externallyCancelled then s.fresh :: s.cancelled else s.cancelled
      loops := Function.update s.loops s.fresh (.enter externallyCancelled)
      starts := Function.update s.starts call (.inside s.fresh)
      fresh := s.fresh + 1 }

/-- The piece of `StopAutoReconnectLoopAsync` behind the await of the task. -/
def clear (s : Supervisor) (call : ℕ) : Supervisor :=
  { s with
    autoReconnectTask := none
    disposed := s.autoReconnectCts.toList ++ s.disposed
    autoReconnectCts := none
    stops := Function.update s.stops call .disconnecting }

/-- `StopAutoReconnectLoopAsync` up to its first await. -/
def enterStop (s : Supervisor) (call : ℕ) : Supervisor :=
  let requested := { s with cancelled := s.autoReconnectCts.toList ++ s.cancelled }
  match s.autoReconnectTask with
  | some task => { requested with stops := Function.update s.stops call (.awaiting task) }
  | none => requested.clear call

/-- One atomic step of a start, a stop or a loop. `DisposeAsync` is a stop. -/
def step (s : Supervisor) : SupervisorAction → Option Supervisor
  | .startEnter call externallyCancelled =>
    if s.starts call = .notStarted then
      some ({ s with entered := .start call :: s.entered }.enterStart call externallyCancelled)
    else none
  | .startReturn call =>
    match s.starts call with
    | .inside loop =>
      some { s with autoReconnectTask := some loop, starts := Function.update s.starts call .returned }
    | _ => none
  | .stopEnter call =>
    if s.stops call = .notStarted then some ({ s with entered := .stop call :: s.entered }.enterStop call)
    else none
  | .stopContinue call =>
    match s.stops call with
    | .awaiting task =>
      match s.loops task with
      | .completed .faulted => some { s with stops := Function.update s.stops call .failed }
      | .completed _ => some (s.clear call)
      | _ => none
    | _ => none
  | .stopReturn call =>
    if s.stops call = .disconnecting then some { s with stops := Function.update s.stops call .returned }
    else none
  | .cancelExternally source =>
    if source < s.fresh ∧ source ∉ s.disposed then some { s with cancelled := source :: s.cancelled } else none
  | .progress loop event =>
    ((s.loops loop).progress (s.cancelled.contains loop) event).map fun next =>
      { s with loops := Function.update s.loops loop next }

end Supervisor

/-- All interleavings of starts, stops and the loops they make. -/
def supervisorSystem : Machine.System Supervisor SupervisorAction where
  init := {}
  step := Supervisor.step

end GestureSuite.Connection
