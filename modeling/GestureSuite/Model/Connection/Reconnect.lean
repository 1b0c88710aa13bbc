import GestureSuite.Model.Connection.Client

/-! # The reconnect loop

`MaintainConnectionLoopAsync` runs next to any number of `DisconnectAsync` calls and the link
callbacks. Its own awaits cut it the same way as the calls it makes. Nothing else calls
`ConnectAsync`, so every connecting call of the world is one the loop has started.
-/

namespace GestureSuite.Connection

/-- Where `MaintainConnectionLoopAsync` stands. -/
inductive LoopPc where
  /-- In front of the test of the `while`. -/
  | attempting
  | connecting (call : ℕ)
  | waiting (signal : ℕ)
  | delaying
  | stopped
deriving DecidableEq, Repr

/-- The loop, the state of its token, and the client it works on. -/
structure Reconnect where
  world : World := {}
  loop : LoopPc := .attempting
  cancelled : Bool := false

inductive ReconnectAction where
  | world (a : Action)
  | attempt (call : ℕ)
  | connectReturned
  | disconnectSignalled
  | waitCancelled
  | delayElapsed
  | delayCancelled
  | cancel
deriving DecidableEq, Repr

namespace Reconnect

/-- Behind the `try`: leave the loop or announce the next scan and wait half a second. -/
def continueLoop (s : Reconnect) : Reconnect :=
  if s.cancelled then { s with loop := .stopped }
  else
    { s with
      world := { s.world with client := s.world.client.raiseConnectionState .scanning }
      loop := .delaying }

/-- `WaitForDisconnectAsync`, called outside the gate: `_disconnectSignal ??= new ...`. -/
def waitForDisconnect (s : Reconnect) : Reconnect :=
  let c := s.world.client
  if c.isConnected then
    match c.disconnectSignal with
    | some signal => { s with loop := .waiting signal }
    | none =>
      { s with
        world := { s.world with client := { c with disconnectSignal := some c.fresh, fresh := c.fresh + 1 } }
        loop := .waiting c.fresh }
  else s.continueLoop

/-- The `catch` clauses: only a cancellation of the loop's own token leaves at once. -/
def catchFault (s : Reconnect) (fault : Fault) : Reconnect :=
  if fault = .cancelled ∧ s.cancelled then { s with loop := .stopped } else s.continueLoop

/-- Other code calls `DisconnectAsync` only, and a gate wait is abandoned through the loop's token only. -/
def admits (s : Reconnect) : Action → Bool
  | .invoke _ op => op = .disconnect
  | .cancelWait _ => s.cancelled
  | _ => true

/-- One atomic step of the loop, of a call or of the link. -/
def step (s : Reconnect) : ReconnectAction → Option Reconnect
  | .world a => if s.admits a then (s.world.step a).map fun world => { s with world } else none
  | .attempt call =>
    if s.loop = .attempting then
      if s.cancelled then some { s with loop := .stopped }
      else (s.world.step (.invoke call .connect)).map fun world => { s with world, loop := .connecting call }
    else none
  | .connectReturned =>
    match s.loop with
    | .connecting call =>
      match s.world.calls call with
      | .returned _ (.ok _) => some s.waitForDisconnect
      | .returned _ (.error fault) => some (s.catchFault fault)
      | _ => none
    | _ => none
  | .disconnectSignalled =>
    match s.loop with
    | .waiting signal => if signal ∈ s.world.client.signalled then some s.continueLoop else none
    | _ => none
  | .waitCancelled =>
    match s.loop with
    | .waiting _ => if s.cancelled then some { s with loop := .stopped } else none
    | _ => none
  | .delayElapsed => if s.loop = .delaying then some { s with loop := .attempting } else none
  | .delayCancelled => if s.loop = .delaying ∧ s.cancelled then some { s with loop := .stopped } else none
  | .cancel => some { s with cancelled := true }

end Reconnect

/-- The loop from its start, with all interleavings of disconnects and link changes. -/
def reconnectSystem : Machine.System Reconnect ReconnectAction where
  init := {}
  step := Reconnect.step

end GestureSuite.Connection
