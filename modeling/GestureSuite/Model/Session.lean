import GestureSuite.Model.Connection.Client
import GestureSuite.Model.Gesture.Update

/-! # One client object over many connections

The connection fields and the gesture fields live in the same object. Frames run the detector; the
pieces of `ConnectAsync` and `DisconnectCoreAsync` work on the connection fields and assign no gesture
field. A session is any sequence of the two.
-/

namespace GestureSuite

open Connection Gesture

/-- All fields of the client. -/
structure Session where
  world : World := {}
  detector : Detector := {}

inductive SessionEvent where
  | connection (a : Action)
  | frame (frame : Frame)
deriving DecidableEq

namespace Session

/-- One event. A connection step that is not enabled leaves everything as it is. -/
def next (rate : TickRate) (s : Session) : SessionEvent → Session
  | .connection a => { s with world := (s.world.step a).getD s.world }
  | .frame frame => { s with detector := s.detector.next rate frame }

/-- Some `ConnectAsync` returns successfully in this event. -/
def ConnectCompletes (rate : TickRate) (s : Session) (event : SessionEvent) : Prop :=
  ∃ call, s.world.calls call ≠ .returned .connect (.ok ()) ∧
    (s.next rate event).world.calls call = .returned .connect (.ok ())

end Session

/-- The session in front of event `k`. -/
def sessionAt (rate : TickRate) (events : List SessionEvent) (k : ℕ) : Session :=
  Machine.trajectory (Session.next rate) {} events k

theorem sessionAt_succ (rate : TickRate) {events : List SessionEvent} {k : ℕ} {event : SessionEvent}
    (present : events[k]? = some event) :
    sessionAt rate events (k + 1) = (sessionAt rate events k).next rate event :=
  Machine.trajectory_succ _ _ _ present

/-- The frames of a session, in order. -/
def imuFrames (events : List SessionEvent) : List Frame :=
  events.filterMap fun
    | .frame frame => some frame
    | .connection _ => none

end GestureSuite
