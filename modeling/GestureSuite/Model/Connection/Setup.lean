import GestureSuite.Model.Connection.Client
import GestureSuite.Model.Host.Payload

/-! # Finding the board

The two parts of `ConnectAsync` that the connection takes as one step each. `ScanTargetAddressAsync` is a race: the
watcher hands over advertisements on its own threads, a timer and the caller's token may cancel, and whichever
completes the task first decides. `DiscoverCharacteristicsAsync` asks up to six times; what the device answers is an
input.
-/

namespace GestureSuite.Firmware

/-- A `BLEUUID` by its value. -/
def kServiceUuid : ℕ := 0x7b1e000100004bcd12341234567890ab

def kStatusUuid : ℕ := 0x7b1e000300004bcd12341234567890ab

def kImuDataUuid : ℕ := 0x7b1e000400004bcd12341234567890ab

def kBleDeviceName : List Char := "ESP32C3-BLE-GESTURE".toList

end GestureSuite.Firmware

namespace GestureSuite.Connection

/-- A `Guid` by its value. -/
def serviceUuid : ℕ := 0x7b1e000100004bcd12341234567890ab

def statusUuid : ℕ := 0x7b1e000300004bcd12341234567890ab

def imuDataUuid : ℕ := 0x7b1e000400004bcd12341234567890ab

def targetDeviceName : List Char := "ESP32C3-BLE-GESTURE".toList

structure Advertisement where
  localName : List Char
  serviceUuids : List ℕ
  bluetoothAddress : UInt64
deriving DecidableEq, Repr

def Advertisement.nameMatched (advertisement : Advertisement) : Bool := advertisement.localName = targetDeviceName

def Advertisement.serviceMatched (advertisement : Advertisement) : Bool :=
  advertisement.serviceUuids.any (· = serviceUuid)

def Advertisement.matched (advertisement : Advertisement) : Bool :=
  advertisement.nameMatched || advertisement.serviceMatched

/-- The low six bytes, the highest first. -/
def formatAddress (address : UInt64) : List Char :=
  [':'].intercalate ((List.range 6).reverse.map fun i => Host.hexByte (address >>> (8 * i.toUInt64)).toUInt8)

def scanningLine : List Char := "Scanning BLE target: ".toList ++ targetDeviceName

def foundLine (advertisement : Advertisement) : List Char :=
  "Found target advertisement addr=".toList ++ formatAddress advertisement.bluetoothAddress ++ " reason=".toList ++
    (if advertisement.nameMatched then "name".toList else "service".toList)

/-- How the task of the completion source was completed. -/
inductive TaskCompletion where
  | result (address : UInt64)
  | canceled
deriving DecidableEq, Repr

/-- The next statement of the method; `waiting` is the await of the task. -/
inductive ScanPoint where
  | start
  | watching
  | armed
  | waiting
  | ended (result : Except Fault UInt64)
deriving DecidableEq, Repr

structure Scan where
  point : ScanPoint := .start
  task : Option TaskCompletion := none
  /-- `cancellationToken.IsCancellationRequested`. -/
  cancellationRequested : Bool := false
  /-- `timeoutCts.IsCancellationRequested`. -/
  timeoutRequested : Bool := false
  /-- The watcher runs and has the handler. -/
  listening : Bool := false
  log : List (List Char) := []
  /-- The advertisements the handler has run on, in order. -/
  heard : List Advertisement := []
  /-- The handler that has completed the task, in front of its log line. -/
  announcing : Option Advertisement := none
  /-- The timer of `CancelAfter` has run off. -/
  elapsed : Bool := false
deriving DecidableEq, Repr

inductive ScanAction where
  /-- The next statement of the method. -/
  | next
  | received (advertisement : Advertisement)
  /-- The log line of the handler. -/
  | announce
  | cancel
  /-- The linked source takes over the cancellation of the caller's. -/
  | propagate
  | elapse
  /-- The callback registered on the linked token. -/
  | callback
deriving DecidableEq, Repr

namespace Scan

/-- `tcs.TrySetCanceled`; a task that is complete stays as it is. -/
def trySetCanceled (s : Scan) : Scan := { s with task := s.task <|> some .canceled }

/-- The handler of the watcher up to `TrySetResult`. The continuations of the task do not run inside it, so the method
may go on before the line is logged. -/
def handle (s : Scan) (advertisement : Advertisement) : Scan :=
  let heard := { s with heard := s.heard ++ [advertisement] }
  if advertisement.matched && s.task.isNone then
    { heard with task := some (.result advertisement.bluetoothAddress), announcing := some advertisement }
  else heard

/-- The rest of a handler that has completed the task. -/
def announce (s : Scan) : Option Scan :=
  s.announcing.map fun advertisement => { s with announcing := none, log := s.log ++ [foundLine advertisement] }

/-- Leave the method through `finally`. -/
def finish (s : Scan) (result : Except Fault UInt64) : Scan := { s with point := .ended result, listening := false }

def nextStatement (s : Scan) : Option Scan :=
  match s.point with
  | .start => some { s with point := .watching, listening := true, log := s.log ++ [scanningLine] }
  | .watching => some { s with point := .armed, timeoutRequested := s.cancellationRequested }
  | .armed =>
    if s.timeoutRequested then some { s.trySetCanceled with point := .waiting } else some { s with point := .waiting }
  | .waiting =>
    match s.task with
    | some (.result address) => some (s.finish (.ok address))
    | some .canceled => some (s.finish (.error (if s.cancellationRequested then .cancelled else .timeout)))
    | none => none
  | .ended _ => none

/-- The timer and the linked source exist from `CreateLinkedTokenSource` to the end of the method. -/
def linked (s : Scan) : Bool := s.point = .armed || s.point = .waiting

/-- One atomic step. A handler that was started before the end may still run behind it. -/
def step (s : Scan) : ScanAction → Option Scan
  | .next => s.nextStatement
  | .received advertisement => if s.point = .start then none else some (s.handle advertisement)
  | .announce => s.announce
  | .cancel => some { s with cancellationRequested := true }
  | .propagate => if s.linked && s.cancellationRequested then some { s with timeoutRequested := true } else none
  | .elapse => if s.linked then some { s with timeoutRequested := true, elapsed := true } else none
  | .callback => if s.point = .waiting && s.timeoutRequested then some s.trySetCanceled else none

end Scan

/-- All interleavings of one call of `ScanTargetAddressAsync` with the watcher, the timer and the token. -/
def scanTargetAddressAsync : Machine.System Scan ScanAction where
  init := {}
  step := Scan.step

inductive GattCommunicationStatus where
  | success
  | unreachable
  | protocolError
  | accessDenied
deriving DecidableEq, Repr

/-- A characteristic as the device lists it. -/
structure ListedCharacteristic where
  uuid : ℕ
  characteristic : GattCharacteristic
deriving DecidableEq, Repr

/-- What one round of the discovery meets: the token at its start and in its delay, and the answers of the device, with
`none` for a call that throws. -/
structure Attempt where
  cancelledBefore : Bool := false
  services : Option (GattCommunicationStatus × List ℕ)
  characteristics : Option (GattCommunicationStatus × List ListedCharacteristic)
  cancelledInDelay : Bool := false
deriving DecidableEq, Repr

/-- The exceptions that leave the discovery. -/
inductive DiscoveryError where
  | operationCanceled
  /-- An exception of the Bluetooth stack. -/
  | stack
  /-- `ToDictionary` on two characteristics of one UUID. -/
  | duplicateKey
  | invalidOperation (message : List Char)
deriving DecidableEq, Repr

def DiscoveryError.fault : DiscoveryError → Fault
  | .operationCanceled => .cancelled
  | _ => .failed

def statusNotFound : DiscoveryError := .invalidOperation "Status characteristic not found.".toList

def imuNotFound : DiscoveryError := .invalidOperation "IMU characteristic not found.".toList

namespace Attempt

/-- `Task.Delay` and `continue`. -/
def delay (a : Attempt) : Except DiscoveryError (Option (GattCharacteristic × GattCharacteristic)) :=
  if a.cancelledInDelay then .error .operationCanceled else .ok none

/-- The two characteristics among those listed. -/
def pick (listed : List ListedCharacteristic) : Except DiscoveryError (GattCharacteristic × GattCharacteristic) :=
  if (listed.map (·.uuid)).Nodup then
    match listed.find? (·.uuid = statusUuid), listed.find? (·.uuid = imuDataUuid) with
    | some status, some imu => .ok (status.characteristic, imu.characteristic)
    | none, _ => .error statusNotFound
    | some _, none => .error imuNotFound
  else .error .duplicateKey

/-- The body of the loop behind the log line; `none` goes on with the next round. -/
def round (a : Attempt) : Except DiscoveryError (Option (GattCharacteristic × GattCharacteristic)) :=
  match a.services with
  | none => .error .stack
  | some (status, services) =>
    if status ≠ .success ∨ serviceUuid ∉ services then a.delay
    else
      match a.characteristics with
      | none => .error .stack
      | some (status, listed) => if status ≠ .success then a.delay else (pick listed).map some

end Attempt

end GestureSuite.Connection

namespace GestureSuite.Firmware

open Connection (GattCharacteristic ListedCharacteristic)

/-- A characteristic with `PROPERTY_READ | PROPERTY_NOTIFY`, as the object that the client gets for it. -/
def readNotify (id : ℕ) : GattCharacteristic := { id, canNotify := true, canIndicate := false, canRead := true }

/-- The characteristics that `BleTransport::begin` creates, in its order, as the objects of one answer. -/
def characteristics (status imu : ℕ) : List ListedCharacteristic :=
  [⟨kStatusUuid, readNotify status⟩, ⟨kImuDataUuid, readNotify imu⟩]

end GestureSuite.Firmware
