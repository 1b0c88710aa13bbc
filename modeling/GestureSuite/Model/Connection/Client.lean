import GestureSuite.Machine.Run

/-! # The connection half of the BLE client

`ConnectAsync` and `DisconnectAsync` are cut at their awaits. Each piece of code between two awaits
is one function on the client's fields, and a call remembers at which await it is suspended. Any
number of calls run at once; `_connectionGate` is the only thing that orders them. What the system
outside decides (whether a scan succeeds, what a discovery finds, when the link changes) is an input
of the step. Objects are numbers, and a subscription list has one entry per `+=`.
-/

namespace GestureSuite.Connection

inductive BleConnectionLifecycleState where
  | disconnected
  | scanning
  | connected
deriving DecidableEq, Repr

/-- A GATT characteristic object and the properties the client looks at. -/
structure GattCharacteristic where
  id : ℕ
  canNotify : Bool := true
  canIndicate : Bool := false
  canRead : Bool := true
deriving DecidableEq, Repr

/-- What happens at the gate, with the call that did it. -/
inductive GateEvent where
  | acquired (call : ℕ)
  | released (call : ℕ)
deriving DecidableEq, Repr

/-- The fields of the client, the objects it has subscribed to, and a record of the gate. -/
structure Client where
  device : Option ℕ := none
  statusCharacteristic : Option GattCharacteristic := none
  imuCharacteristic : Option GattCharacteristic := none
  disconnectSignal : Option ℕ := none
  gateCount : ℕ := 1
  gateLog : List GateEvent := []
  /-- Devices opened and not yet disposed. -/
  opened : List ℕ := []
  /-- Devices whose `ConnectionStatus` is `Connected`. -/
  linkUp : List ℕ := []
  /-- Subscriptions of `Device_ConnectionStatusChanged`. -/
  linkHandlers : List ℕ := []
  /-- Subscriptions of `StatusCharacteristic_ValueChanged`. -/
  statusHandlers : List ℕ := []
  /-- Subscriptions of `ImuCharacteristic_ValueChanged`. -/
  imuHandlers : List ℕ := []
  /-- Signals whose task has completed. -/
  signalled : List ℕ := []
  /-- The next unused object number. -/
  fresh : ℕ := 0
  /-- `ConnectionStateChanged` events, newest first. -/
  raised : List BleConnectionLifecycleState := []
deriving DecidableEq, Repr

inductive Operation where
  | connect
  | disconnect
deriving DecidableEq, Repr

/-- The kinds of exception that leave `ConnectAsync`. -/
inductive Fault where
  | cancelled
  | timeout
  | failed
deriving DecidableEq, Repr

/-- The await at which a call is suspended. -/
inductive Pc where
  | notStarted
  | gateWait (op : Operation)
  | disablingStatus (op : Operation)
  | disablingImu (op : Operation)
  | scanning
  | opening
  | discovering
  | enablingStatus
  | enablingImu
  | readingStatus
  | readingImu
  | returned (op : Operation) (result : Except Fault Unit)
deriving DecidableEq, Repr

namespace Client

def raiseConnectionState (c : Client) (state : BleConnectionLifecycleState) : Client :=
  { c with raised := state :: c.raised }

def isConnected (c : Client) : Bool :=
  match c.device with
  | some device => c.linkUp.contains device
  | none => false

/-- `_disconnectSignal?.TrySetResult(true)`. -/
def trySetDisconnectSignal (c : Client) : Client :=
  match c.disconnectSignal with
  | some signal => { c with signalled := signal :: c.signalled }
  | none => c

def acquireGate (c : Client) (call : ℕ) : Client :=
  { c with gateCount := c.gateCount - 1, gateLog := .acquired call :: c.gateLog }

def releaseGate (c : Client) (call : ℕ) : Client :=
  { c with gateCount := c.gateCount + 1, gateLog := .released call :: c.gateLog }

/-- From the last await to the end: release the device and forget the characteristics. -/
def releaseDevice (c : Client) : Client :=
  let released := match c.device with
    | some device =>
      { c with
        linkHandlers := c.linkHandlers.erase device
        opened := c.opened.erase device
        device := none }
    | none => c
  { released with statusCharacteristic := none, imuCharacteristic := none }.raiseConnectionState .disconnected

/-- The code behind the last await of `DisconnectCoreAsync`, up to the caller's next await. -/
def finishDisconnectCore (c : Client) (call : ℕ) : Operation → Client × Pc
  | .connect => (c.releaseDevice.raiseConnectionState .scanning, .scanning)
  | .disconnect => (c.releaseDevice.releaseGate call, .returned .disconnect (.ok ()))

def disableImu (c : Client) (call : ℕ) (op : Operation) : Client × Pc :=
  match c.imuCharacteristic with
  | some imu => ({ c with imuHandlers := c.imuHandlers.erase imu.id }, .disablingImu op)
  | none => c.finishDisconnectCore call op

def startDisconnectCore (c₀ : Client) (call : ℕ) (op : Operation) : Client × Pc :=
  let c := { c₀.trySetDisconnectSignal with disconnectSignal := none }
  match c.statusCharacteristic with
  | some status => ({ c with statusHandlers := c.statusHandlers.erase status.id }, .disablingStatus op)
  | none => c.disableImu call op

/-- An exception inside the `try`: the `finally` block releases the gate. -/
def abandonConnect (c : Client) (call : ℕ) (fault : Fault) : Client × Pc :=
  (c.releaseGate call, .returned .connect (.error fault))

/-- `_device = ...` and the subscription to its link status. -/
def attachDevice (c : Client) (up : Bool) : Client :=
  { c with
    device := some c.fresh
    opened := c.fresh :: c.opened
    linkUp := if up then c.fresh :: c.linkUp else c.linkUp
    linkHandlers := c.fresh :: c.linkHandlers
    fresh := c.fresh + 1 }

/-- The last piece: arm the signal and report the connection. -/
def completeConnect (c : Client) (call : ℕ) : Client × Pc :=
  let armed := { c with disconnectSignal := some c.fresh, fresh := c.fresh + 1 }
  ((armed.raiseConnectionState .connected).releaseGate call, .returned .connect (.ok ()))

def readImu (c : Client) (call : ℕ) : Client × Pc :=
  match c.imuCharacteristic with
  | some imu => if imu.canRead then (c, .readingImu) else c.completeConnect call
  | none => c.abandonConnect call .failed

def readStatus (c : Client) (call : ℕ) : Client × Pc :=
  match c.statusCharacteristic with
  | some status => if status.canRead then (c, .readingStatus) else c.readImu call
  | none => c.abandonConnect call .failed

def enableImu (c : Client) (call : ℕ) : Client × Pc :=
  match c.imuCharacteristic with
  | some imu =>
    let subscribed := { c with imuHandlers := imu.id :: c.imuHandlers }
    if imu.canNotify || imu.canIndicate then (subscribed, .enablingImu) else subscribed.readStatus call
  | none => c.abandonConnect call .failed

def enableStatus (c : Client) (call : ℕ) : Client × Pc :=
  match c.statusCharacteristic with
  | some status =>
    let subscribed := { c with statusHandlers := status.id :: c.statusHandlers }
    if status.canNotify || status.canIndicate then (subscribed, .enablingStatus) else subscribed.enableImu call
  | none => c.abandonConnect call .failed

/-- The two fresh objects of a successful discovery; only their properties are up to the device. -/
def discovered (c : Client) (status imu : GattCharacteristic) : Client :=
  { c with
    statusCharacteristic := some { status with id := c.fresh }
    imuCharacteristic := some { imu with id := c.fresh + 1 }
    fresh := c.fresh + 2 }

/-- One run of `Device_ConnectionStatusChanged`. -/
def connectionStatusChanged (up : Bool) (c : Client) : Client :=
  if up then c else c.trySetDisconnectSignal.raiseConnectionState .disconnected

/-- The link of a device changes; the handler runs once per subscription. -/
def linkChanged (c : Client) (device : ℕ) (up : Bool) : Client :=
  let changed := { c with linkUp := if up then device :: c.linkUp else c.linkUp.filter (· ≠ device) }
  (connectionStatusChanged up)^[c.linkHandlers.count device] changed

end Client

/-- What an awaited operation comes back with. -/
inductive Outcome where
  | completed
  | rejected
  | faulted (fault : Fault)
  | opened (up : Bool)
  | notOpened
  | found (status imu : GattCharacteristic)
deriving DecidableEq, Repr

/-- The code a call runs when its await completes; `none` when the outcome does not fit the await.
`DisableNotifySafeAsync` swallows every exception, so its two awaits accept any outcome. -/
def resume (c : Client) (call : ℕ) : Pc → Outcome → Option (Client × Pc)
  | .disablingStatus op, _ => some (c.disableImu call op)
  | .disablingImu op, _ => some (c.finishDisconnectCore call op)
  | .scanning, .completed => some (c, .opening)
  | .scanning, .faulted fault => some (c.abandonConnect call fault)
  | .opening, .opened up => some (c.attachDevice up, .discovering)
  | .opening, .notOpened => some ({ c with device := none }.abandonConnect call .failed)
  | .opening, .faulted fault => some (c.abandonConnect call fault)
  | .discovering, .found status imu => some ((c.discovered status imu).enableStatus call)
  | .discovering, .faulted fault => some (c.abandonConnect call fault)
  | .enablingStatus, .completed => some (c.enableImu call)
  | .enablingStatus, .rejected => some (c.abandonConnect call .failed)
  | .enablingStatus, .faulted fault => some (c.abandonConnect call fault)
  | .enablingImu, .completed => some (c.readStatus call)
  | .enablingImu, .rejected => some (c.abandonConnect call .failed)
  | .enablingImu, .faulted fault => some (c.abandonConnect call fault)
  | .readingStatus, .completed => some (c.readImu call)
  | .readingStatus, .rejected => some (c.readImu call)
  | .readingStatus, .faulted fault => some (c.abandonConnect call fault)
  | .readingImu, .completed => some (c.completeConnect call)
  | .readingImu, .rejected => some (c.completeConnect call)
  | .readingImu, .faulted fault => some (c.abandonConnect call fault)
  | _, _ => none

/-- The client together with every call made on it. -/
structure World where
  client : Client := {}
  calls : ℕ → Pc := fun _ => .notStarted

inductive Action where
  | invoke (call : ℕ) (op : Operation)
  | acquire (call : ℕ)
  | cancelWait (call : ℕ)
  | resume (call : ℕ) (outcome : Outcome)
  | link (device : ℕ) (up : Bool)
deriving DecidableEq, Repr

namespace World

/-- Store the outcome of a piece of code run by a call. -/
def put (w : World) (call : ℕ) (result : Client × Pc) : World :=
  { client := result.1, calls := Function.update w.calls call result.2 }

/-- One atomic step. Waiters of the gate are served in any order, and only the wait of
`ConnectAsync` can be cancelled. -/
def step (w : World) : Action → Option World
  | .invoke call op =>
    if w.calls call = .notStarted then some (w.put call (w.client, .gateWait op)) else none
  | .acquire call =>
    match w.calls call with
    | .gateWait op =>
      if 0 < w.client.gateCount then
        some (w.put call ((w.client.acquireGate call).startDisconnectCore call op))
      else none
    | _ => none
  | .cancelWait call =>
    if w.calls call = .gateWait .connect then
      some (w.put call (w.client, .returned .connect (.error .cancelled)))
    else none
  | .resume call outcome => (Connection.resume w.client call (w.calls call) outcome).map (w.put call)
  | .link device up =>
    if device ∈ w.client.opened ∧ up ≠ w.client.linkUp.contains device then
      some { w with client := w.client.linkChanged device up }
    else none

end World

/-- All interleavings of all calls, from a client that has never been used. -/
def connectionSystem : Machine.System World Action where
  init := {}
  step := World.step

end GestureSuite.Connection
