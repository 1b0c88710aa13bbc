import GestureSuite.Machine.Run
import GestureSuite.Model.Firmware.Imu

/-! # The firmware's controller and its BLE link

`AppController::begin` is a list of statements, executed one at a time. The stack delivers connect and
disconnect callbacks on its own task: between any two statements once advertising has started, and later
between two calls of `tick`. A callback runs as one step. What the hardware answers is an input.
-/

namespace GestureSuite.Firmware

open Text

inductive BleIndicatorMode where
  | pairing
  | connected
  | disconnected
deriving DecidableEq, Repr

def bleModeToText : BleIndicatorMode → List Char
  | .pairing => "PAIRING".toList
  | .connected => "CONNECTED".toList
  | .disconnected => "DISCONNECTED".toList

/-- The field of the status text that the indicator mode decides. -/
def buildStatusText (mode : BleIndicatorMode) (imuReady : Bool) (imuReadFailCount : UInt32) : List Char :=
  "BLE:".toList ++ bleModeToText mode ++ ",IMU:".toList ++ (if imuReady then "READY" else "NOT_READY").toList ++
    ",IMU_FAIL:".toList ++ Nat.toDigits 10 imuReadFailCount.toNat

inductive ResetReason where
  | powerOn
  | sw
  | panic
  | intWdt
  | taskWdt
  | wdt
  | deepSleep
  | brownout
  | sdio
  | other
deriving DecidableEq, Repr

def resetReasonToText : ResetReason → List Char
  | .powerOn => "POWERON".toList
  | .sw => "SW".toList
  | .panic => "PANIC".toList
  | .intWdt => "INT_WDT".toList
  | .taskWdt => "TASK_WDT".toList
  | .wdt => "WDT".toList
  | .deepSleep => "DEEPSLEEP".toList
  | .brownout => "BROWNOUT".toList
  | .sdio => "SDIO".toList
  | .other => "UNKNOWN".toList

/-- A characteristic: its value, and the values that were pushed to the client, newest first. -/
structure Characteristic where
  value : List Char
  notified : List (List Char) := []
deriving DecidableEq, Repr

/-- The fields of the controller and of the transport it owns. -/
structure Controller where
  bleIndicatorMode : BleIndicatorMode := .disconnected
  blinkOutputOn : Bool := false
  lastBlinkToggleMs : UInt32 := 0
  lastImuPublishMs : UInt32 := 0
  imuReadFailCount : UInt32 := 0
  lastImuReadFailLogMs : UInt32 := 0
  bootResetReason : List Char := []
  imuReady : Bool := false
  hasCallbacks : Bool := false
  clientConnected : Bool := false
  advertising : Bool := false
  statusCharacteristic : Option Characteristic := none
  imuCharacteristic : Option Characteristic := none
  /-- What `analogWrite` last received. -/
  ledOutput : ℕ := 0
deriving DecidableEq, Repr

def kPairingBlinkIntervalMs : UInt32 := 150
def kBreathingPeriodMs : ℕ := 2200
def kImuPublishIntervalMs : UInt32 := 20

namespace Controller

/-- `setValue`, and `notify` when a client is connected. -/
def write (c : Controller) (value : List Char) (characteristic : Characteristic) : Characteristic where
  value := value
  notified := if c.clientConnected then value :: characteristic.notified else characteristic.notified

/-- Nothing is written before the characteristic exists. -/
def publishStatus (c : Controller) : Controller :=
  let status := buildStatusText c.bleIndicatorMode c.imuReady c.imuReadFailCount ++ ",RST:".toList ++ c.bootResetReason
  { c with statusCharacteristic := c.statusCharacteristic.map (c.write status) }

def publishImuSample (c : Controller) (sample : ImuSample) : Controller :=
  { c with imuCharacteristic := c.imuCharacteristic.map (c.write (buildImuText sample)) }

/-- The LED is lit by a low level. -/
def writeIndicatorLevel (c : Controller) (brightness : ℕ) : Controller :=
  { c with ledOutput := 255 - brightness }

def setBleIndicatorMode (c : Controller) (mode : BleIndicatorMode) (millis : UInt32) : Controller :=
  let moded := { c with bleIndicatorMode := mode, blinkOutputOn := false, lastBlinkToggleMs := millis }
  if mode = .disconnected then moded.writeIndicatorLevel 0 else moded

/-- Blinking, breathing or dark. The triangle wave is computed exactly and cut to a byte. -/
def updateBleIndicator (c : Controller) (now : UInt32) : Controller :=
  match c.bleIndicatorMode with
  | .disconnected => c.writeIndicatorLevel 0
  | .pairing =>
    if kPairingBlinkIntervalMs ≤ now - c.lastBlinkToggleMs then
      { c with lastBlinkToggleMs := now, blinkOutputOn := !c.blinkOutputOn }.writeIndicatorLevel
        (if c.blinkOutputOn then 0 else 255)
    else c
  | .connected =>
    let phaseMs := now.toNat % kBreathingPeriodMs
    let halfPeriod := kBreathingPeriodMs / 2
    let distance := if phaseMs < halfPeriod then phaseMs else kBreathingPeriodMs - phaseMs
    c.writeIndicatorLevel (distance * 255 / halfPeriod)

def onBleConnected (c : Controller) (millis : UInt32) : Controller :=
  (c.setBleIndicatorMode .connected millis).publishStatus

def onBleDisconnected (c : Controller) (millis : UInt32) : Controller :=
  (c.setBleIndicatorMode .pairing millis).publishStatus

def handleConnect (c : Controller) (millis : UInt32) : Controller :=
  let linked := { c with clientConnected := true }
  if c.hasCallbacks then linked.onBleConnected millis else linked

def handleDisconnect (c : Controller) (millis : UInt32) : Controller :=
  let unlinked := { c with clientConnected := false, advertising := true }
  if c.hasCallbacks then unlinked.onBleDisconnected millis else unlinked

/-- `AppController::tick`, given the two readings of the clock and what the sensor's bus delivers. -/
def tick (c₀ : Controller) (millis now : UInt32) (readRegs : Option (Vector UInt8 14)) (sampleMs : UInt32) :
    Controller :=
  let c := c₀.updateBleIndicator millis
  if !c.clientConnected || !c.imuReady then c
  else if now - c.lastImuPublishMs < kImuPublishIntervalMs then c
  else
    match readSample c.imuReady readRegs sampleMs with
    | none =>
      let failed := { c with imuReadFailCount := c.imuReadFailCount + 1 }
      if 1000 ≤ now - failed.lastImuReadFailLogMs then { failed with lastImuReadFailLogMs := now }.publishStatus
      else failed
    | some sample =>
      let published := { c with lastImuPublishMs := now }
      let recovered :=
        if published.imuReadFailCount ≠ (0 : UInt32) then { published with imuReadFailCount := 0 }.publishStatus
        else published
      recovered.publishImuSample sample

end Controller

/-- The statements of `AppController::begin`, with `BleTransport::begin` in line. Those in front of the
start of advertising, where no callback can run, are grouped by what they initialise; the ones that only
print keep their place. -/
inductive Statement where
  | readResetReason
  | selfTest
  | imuBegin
  | createService
  | startAdvertising
  | printAdvertisingName
  | enterPairing
  | stampImuPublish
  | printStart
  | publishStatus
deriving DecidableEq, Repr

def beginStatements : List Statement :=
  [.readResetReason, .selfTest, .imuBegin, .createService, .startAdvertising, .printAdvertisingName, .enterPairing,
    .stampImuPublish, .printStart, .publishStatus]

/-- What the hardware answers while a statement runs. -/
structure Surroundings where
  resetReason : ResetReason := .powerOn
  imuFound : Bool := true
  millis : UInt32 := 0
deriving DecidableEq, Repr

namespace Controller

def execute (c : Controller) (surroundings : Surroundings) : Statement → Controller
  | .readResetReason => { c with bootResetReason := resetReasonToText surroundings.resetReason }
  | .selfTest => c.writeIndicatorLevel 0
  | .imuBegin => { c with imuReady := surroundings.imuFound }
  | .createService =>
    { c with
      hasCallbacks := true
      statusCharacteristic := some { value := "BOOTING".toList }
      imuCharacteristic := some { value := "IMU,0,0,0,0,0,0,0,0".toList } }
  | .startAdvertising => { c with advertising := true }
  | .printAdvertisingName => c
  | .enterPairing => c.setBleIndicatorMode .pairing surroundings.millis
  | .stampImuPublish => { c with lastImuPublishMs := surroundings.millis }
  | .printStart => c
  | .publishStatus => c.publishStatus

end Controller

/-- The controller and the part of `begin` that is still to run. -/
structure Board where
  controller : Controller := {}
  pending : List Statement := beginStatements
deriving DecidableEq, Repr

inductive BoardEvent where
  | statement (surroundings : Surroundings)
  | connect (millis : UInt32)
  | disconnect (millis : UInt32)
  | tick (millis now : UInt32) (readRegs : Option (Vector UInt8 14)) (sampleMs : UInt32)
deriving DecidableEq, Repr

namespace Board

/-- `begin` has returned. -/
def begun (b : Board) : Bool := b.pending.isEmpty

/-- A callback that can be delivered: connects and disconnects alternate, from the start of advertising. -/
def delivers (b : Board) : BoardEvent → Bool
  | .connect _ => b.controller.advertising && !b.controller.clientConnected
  | .disconnect _ => b.controller.clientConnected
  | _ => false

/-- One event. What cannot happen in a state (a callback that is not due, a `tick` during `begin`) is skipped. -/
def next (b : Board) : BoardEvent → Board
  | .statement surroundings =>
    match b.pending with
    | [] => b
    | statement :: rest => { controller := b.controller.execute surroundings statement, pending := rest }
  | .connect millis =>
    if b.delivers (.connect millis) then { b with controller := b.controller.handleConnect millis } else b
  | .disconnect millis =>
    if b.delivers (.disconnect millis) then { b with controller := b.controller.handleDisconnect millis } else b
  | .tick millis now readRegs sampleMs =>
    if b.begun then { b with controller := b.controller.tick millis now readRegs sampleMs } else b

end Board

/-- The board in front of event `k`. -/
def boardAt (events : List BoardEvent) (k : ℕ) : Board := Machine.trajectory Board.next {} events k

end GestureSuite.Firmware
