import GestureSuite.Machine.Run
import GestureSuite.Model.Gesture.Update

/-! # The hotkey and its receiver

`SendSystemHotkey` presses keys and releases them in reverse. `HotkeyReceiver` is a program of its own: its message
loop registers the hotkey and prints a line for every message of it, and its main thread waits for Enter, posts the
end of the loop and joins it. What the system does between the two is not part of the repository: the keyboard is a
parameter whose documented behaviour is `Keyboard.Documented`, every call of the loop may be refused, and the call
with which the loop's thread gets its message queue is a parameter of the receiver.
-/

namespace GestureSuite.Hotkey

/-- A call of `keybd_event`. -/
structure KeyEvent where
  key : UInt8
  up : Bool
deriving DecidableEq, Repr

def virtualKeyControl : UInt16 := 0x11
def virtualKeyMenu : UInt16 := 0x12
def virtualKeyQ : UInt16 := 0x51

/-- What `SendSystemHotkey` returns and the calls it makes; a key is cut to a byte. An exception ends it after so many
calls. -/
def sendSystemHotkey (virtualKeys : List UInt16) (thrownAfter : Option ℕ) : Bool × List KeyEvent :=
  let calls := virtualKeys.map (fun key => ⟨key.toUInt8, false⟩) ++
    virtualKeys.reverse.map (fun key => ⟨key.toUInt8, true⟩)
  if virtualKeys.isEmpty then (false, [])
  else
    match thrownAfter with
    | none => (true, calls)
    | some made => (false, calls.take made)

/-- The calls made for an event of the detector; those of a trigger are complete if it was sent. -/
def keyEvents (thrownAfter : Gesture.GestureTriggerResult → ℕ) : Gesture.Event → List KeyEvent
  | .gestureTriggered result =>
    (sendSystemHotkey [virtualKeyControl, virtualKeyMenu, virtualKeyQ]
      (if result.hotkeySent then none else some (thrownAfter result))).2
  | _ => []

/-- What the system keeps about the keyboard: the keys that are down, and how often the combination that
`HotkeyReceiver` registers has been reported. -/
structure Keyboard (S : Type*) where
  down : S → UInt8 → Bool
  posted : S → ℕ
  keybdEvent : S → KeyEvent → S

def vkShift : UInt8 := 0x10
def vkControl : UInt8 := 0x11
def vkMenu : UInt8 := 0x12
def vkQ : UInt8 := 0x51
def vkLWin : UInt8 := 0x5B
def vkRWin : UInt8 := 0x5C

/-- The keys of one side of a modifier, from `VK_LSHIFT` to `VK_RMENU`; they follow the modifier itself. -/
def sideKeys : List UInt8 := [0xA0, 0xA1, 0xA2, 0xA3, 0xA4, 0xA5]

namespace Keyboard

variable {S : Type*} (board : Keyboard S)

/-- The modifiers that are held are those of `MOD_ALT | MOD_CONTROL`. -/
def Held (s : S) : Prop :=
  board.down s vkControl = true ∧ board.down s vkMenu = true ∧ board.down s vkShift = false ∧
    board.down s vkLWin = false ∧ board.down s vkRWin = false

/-- The documented behaviour of `keybd_event`, and of `RegisterHotKey` for `MOD_ALT | MOD_CONTROL` and `VK_Q`. -/
structure Documented : Prop where
  /-- A call presses or releases its key and leaves the others as they are. -/
  pressed : ∀ s event key, event.key ∉ sideKeys → key ∉ sideKeys →
    board.down (board.keybdEvent s event) key = if key = event.key then !event.up else board.down s key
  /-- The combination is reported when its key goes down with exactly its modifiers held. -/
  reported : ∀ s, board.Held s → board.posted (board.keybdEvent s ⟨vkQ, false⟩) = board.posted s + 1
  silent : ∀ s event, ¬ (event = ⟨vkQ, false⟩ ∧ board.Held s) → board.posted (board.keybdEvent s event) = board.posted s

def after (s : S) (events : List KeyEvent) : S := events.foldl board.keybdEvent s

end Keyboard

/-- A message in the queue of the loop's thread. -/
inductive Message where
  | hotkey
  | quit
  | other
deriving DecidableEq, Repr

/-- What gives the loop's thread its message queue: the start of the thread itself, as for a thread of a
single-threaded apartment with a window of its own, or the first of the two calls of `MessageLoop`. -/
inductive QueueStart where
  | threadStart
  | registerClassEx
  | createWindowEx
deriving DecidableEq, Repr

/-- The statement of `MessageLoop` that is next. -/
inductive LoopPoint where
  | setThreadId
  | registerClass
  | createWindow
  | registerHotKey
  | getMessage
  | unregisterHotKey
  | destroyWindow
  | unregisterClass
  | ended
deriving DecidableEq, Repr

/-- The statement of `Main` that is next. -/
inductive MainPoint where
  | waitThreadId
  | readLine
  | postQuit
  | join
  | returned
deriving DecidableEq, Repr

structure Receiver where
  loop : LoopPoint := .setThreadId
  main : MainPoint := .waitThreadId
  /-- `_threadId != 0`. -/
  threadIdSet : Bool := false
  /-- The message queue of the loop's thread. -/
  queue : Option (List Message)
  classRegistered : Bool := false
  window : Bool := false
  hotkeyRegistered : Bool := false
  /-- The lines that `WndProc` has printed. -/
  fired : ℕ := 0
  /-- How many messages of the hotkey have been posted, and how many went away with the window or the thread. -/
  pressed : ℕ := 0
  discarded : ℕ := 0
deriving DecidableEq, Repr

inductive ReceiverAction where
  /-- The next statement of the loop; `ok` is the answer of the system. -/
  | loop (ok : Bool)
  | main
  | enter
  /-- The hotkey is pressed; the system chooses the place of the message in the queue. -/
  | press (place : ℕ)
  | postOther
deriving DecidableEq, Repr

namespace Receiver

/-- The messages that wait. -/
def waiting (r : Receiver) : List Message := r.queue.getD []

/-- Add a message at a place of the queue; without a queue the call fails. -/
def post (r : Receiver) (place : ℕ) (message : Message) : Receiver :=
  { r with queue := r.queue.map fun messages => messages.take place ++ message :: messages.drop place }

/-- `PostThreadMessage` posts behind the messages that wait. -/
def postThreadMessage (r : Receiver) (message : Message) : Receiver := r.post r.waiting.length message

/-- The thread has a queue from here on. -/
def withQueue (r : Receiver) : Receiver := { r with queue := some r.waiting }

/-- `DestroyWindow` flushes the queue of the thread. -/
def flush (r : Receiver) : Receiver := { r with queue := some [], discarded := r.discarded + r.waiting.count .hotkey }

/-- The thread ends, and its queue with it. -/
def threadEnd (r : Receiver) : Receiver :=
  { r with loop := .ended, queue := none, discarded := r.discarded + r.waiting.count .hotkey }

/-- `GetMessage` and `DispatchMessage`; `GetMessage` waits for a message, and `WndProc` prints a line for the hotkey. -/
def dispatchMessage (r : Receiver) : Option Receiver :=
  match r.queue with
  | some (.quit :: rest) => some { r with queue := some rest, loop := .unregisterHotKey }
  | some (.hotkey :: rest) => some { r with queue := some rest, fired := r.fired + 1 }
  | some (.other :: rest) => some { r with queue := some rest }
  | _ => none

def loopStep (start : QueueStart) (r : Receiver) (ok : Bool) : Option Receiver :=
  match r.loop with
  | .setThreadId => some { r with threadIdSet := true, loop := .registerClass }
  | .registerClass =>
    let called := if start = .registerClassEx then r.withQueue else r
    if ok then some { called with classRegistered := true, loop := .createWindow } else some called.threadEnd
  | .createWindow =>
    let called := r.withQueue
    if ok then some { called with window := true, loop := .registerHotKey }
    else some { called with loop := .unregisterClass }
  | .registerHotKey =>
    if ok then some { r with hotkeyRegistered := true, loop := .getMessage } else some { r with loop := .destroyWindow }
  | .getMessage =>
    if ok then r.dispatchMessage else some { r with loop := .unregisterHotKey }
  -- the answers of the three releases are not read
  | .unregisterHotKey =>
    some { r with hotkeyRegistered := r.hotkeyRegistered && !ok, loop := .destroyWindow }
  | .destroyWindow =>
    if ok then some { r.flush with window := false, loop := .unregisterClass }
    else some { r with loop := .unregisterClass }
  | .unregisterClass => some { r with classRegistered := r.classRegistered && !ok }.threadEnd
  | .ended => none

def mainStep (r : Receiver) : Option Receiver :=
  match r.main with
  | .waitThreadId => if r.threadIdSet then some { r with main := .readLine } else some r
  | .readLine => none
  | .postQuit =>
    if r.threadIdSet then some { r.postThreadMessage .quit with main := .join } else some { r with main := .join }
  | .join => if r.loop = .ended then some { r with main := .returned } else none
  | .returned => none

def step (start : QueueStart) (r : Receiver) : ReceiverAction → Option Receiver
  | .loop ok => r.loopStep start ok
  | .main => r.mainStep
  | .enter => if r.main = .readLine then some { r with main := .postQuit } else none
  | .press place =>
    if r.hotkeyRegistered && r.window && r.loop ≠ .ended then
      some { r.post place .hotkey with pressed := r.pressed + 1 }
    else none
  | .postOther => some (r.postThreadMessage .other)

end Receiver

def receiver (start : QueueStart) : Machine.System Receiver ReceiverAction where
  init := { queue := if start = .threadStart then some [] else none }
  step := Receiver.step start

end GestureSuite.Hotkey
