import GestureSuite.Model.Hotkey
import GestureSuite.Soundness.Gesture.Published
import GestureSuite.Soundness.Gesture.Trigger

/-! # The hotkey from the trigger to the receiver

On a keyboard that behaves as documented, the keys that a sent trigger presses are all released again, and on the way
the combination is reported once. The receiver acquires its window class, its window and its registration in this
order, makes every release on something it holds, and accounts for every press that was reported to it, in every
interleaving with the main thread and for every answer of the system. Whether the main thread can return is decided
when it posts the end of the loop: a thread that starts with a queue always gets it; without one the message is lost
and nothing ends the loop any more.
-/

namespace GestureSuite.Hotkey

open Machine

section Keys

variable {S : Type*} {board : Keyboard S} (documented : board.Documented)

private theorem after_append (s : S) (front back : List KeyEvent) :
    board.after s (front ++ back) = board.after (board.after s front) back := List.foldl_append

include documented

private theorem after_down {up : Bool} {keys : List UInt8} (generic : ∀ key ∈ keys, key ∉ sideKeys) (s : S)
    {key : UInt8} (other : key ∉ sideKeys) :
    board.down (board.after s (keys.map fun key => ⟨key, up⟩)) key = if key ∈ keys then !up else board.down s key := by
  induction keys generalizing s with
  | nil => rfl
  | cons first rest ih =>
    obtain ⟨here, later⟩ := List.forall_mem_cons.mp generic
    change board.down (board.after (board.keybdEvent s ⟨first, up⟩) (rest.map fun key => ⟨key, up⟩)) key = _
    rw [ih later, documented.pressed s ⟨first, up⟩ key here other]
    by_cases same : key = first
    · simp [same]
    · simp [same]

/-- Every key that `SendSystemHotkey` presses is up afterwards, and every other key is as it was. -/
theorem sendSystemHotkey_down {virtualKeys : List UInt16}
    (generic : ∀ key ∈ virtualKeys.map UInt16.toUInt8, key ∉ sideKeys) (s : S) {key : UInt8} (other : key ∉ sideKeys) :
    board.down (board.after s (sendSystemHotkey virtualKeys none).2) key =
      (board.down s key && !decide (key ∈ virtualKeys.map UInt16.toUInt8)) := by
  have calls : (sendSystemHotkey virtualKeys none).2 =
      (virtualKeys.map UInt16.toUInt8).map (fun key => ⟨key, false⟩) ++
        (virtualKeys.map UInt16.toUInt8).reverse.map fun key => ⟨key, true⟩ := by
    cases virtualKeys with
    | nil => rfl
    | cons first rest => simp [sendSystemHotkey, Function.comp_def]
  rw [calls]
  generalize virtualKeys.map UInt16.toUInt8 = keys at generic
  have backwards : ∀ key ∈ keys.reverse, key ∉ sideKeys := fun key member => generic key (List.mem_reverse.mp member)
  rw [after_append, after_down documented backwards _ other, after_down documented generic _ other]
  by_cases sent : key ∈ keys
  · simp [sent]
  · simp [sent]

/-- A call reports the combination at most once, and only with its own key. -/
private theorem posted_keybdEvent (s : S) (event : KeyEvent) :
    board.posted (board.keybdEvent s event) ≤ board.posted s + if event = ⟨vkQ, false⟩ then 1 else 0 := by
  by_cases completes : event = ⟨vkQ, false⟩ ∧ board.Held s
  · obtain ⟨rfl, held⟩ := completes
    rw [documented.reported s held, if_pos rfl]
  · rw [documented.silent s event completes]
    omega

private theorem posted_after (s : S) (events : List KeyEvent) :
    board.posted (board.after s events) ≤ board.posted s + events.count ⟨vkQ, false⟩ := by
  induction events generalizing s with
  | nil => exact le_rfl
  | cons event rest ih =>
    have step := posted_keybdEvent documented s event
    have later := ih (board.keybdEvent s event)
    rw [List.count_cons]
    change board.posted (board.after (board.keybdEvent s event) rest) ≤ _
    simp only [beq_iff_eq]
    omega

/-- The keys of the combination and the other modifiers. -/
def combinationKeys : List UInt8 := [vkControl, vkMenu, vkQ, vkShift, vkLWin, vkRWin]

omit documented in
private theorem not_mem_sideKeys {key : UInt8} (member : key ∈ combinationKeys) : key ∉ sideKeys := by
  simp only [combinationKeys, List.mem_cons, List.not_mem_nil, or_false] at member
  rcases member with rfl | rfl | rfl | rfl | rfl | rfl <;> decide

omit documented in
private theorem mem_combinationKeys {key : UInt8}
    (sent : key ∈ [virtualKeyControl, virtualKeyMenu, virtualKeyQ].map UInt16.toUInt8) : key ∈ combinationKeys :=
  List.mem_append_left [vkShift, vkLWin, vkRWin] sent

omit documented in
/-- None of the keys of the combination and none of the other modifiers is down. -/
def Keyboard.Free (board : Keyboard S) (s : S) : Prop :=
  ∀ key ∈ combinationKeys, board.down s key = false

/-- What is asked of a state and what is not, after the keys of some triggers. -/
private structure Pressed (board : Keyboard S) (s t : S) (triggers : ℕ) : Prop where
  posted : board.posted t = board.posted s + triggers
  down : ∀ key ∉ sideKeys, board.down t key = board.down s key

private theorem trigger_pressed {s : S} (free : board.Free s) :
    Pressed board s (board.after s (sendSystemHotkey [virtualKeyControl, virtualKeyMenu, virtualKeyQ] none).2) 1 := by
  constructor
  · set control := board.keybdEvent s ⟨vkControl, false⟩
    set menu := board.keybdEvent control ⟨vkMenu, false⟩
    have down (key : UInt8) (other : key ∉ sideKeys) :
        board.down menu key = if key = vkMenu then true else if key = vkControl then true else board.down s key := by
      rw [documented.pressed control ⟨vkMenu, false⟩ key (by decide) other,
        documented.pressed s ⟨vkControl, false⟩ key (by decide) other]
      rfl
    have up (key : UInt8) (other : key ∉ sideKeys) (menuKey : key ≠ vkMenu) (controlKey : key ≠ vkControl)
        (free : board.down s key = false) : board.down menu key = false := by
      rw [down key other, if_neg menuKey, if_neg controlKey, free]
    -- the keys go down in order, so both modifiers are held when the last one does
    have held : board.Held menu :=
      ⟨down vkControl (by decide), down vkMenu (by decide),
        up vkShift (by decide) (by decide) (by decide) (free vkShift (by decide)),
        up vkLWin (by decide) (by decide) (by decide) (free vkLWin (by decide)),
        up vkRWin (by decide) (by decide) (by decide) (free vkRWin (by decide))⟩
    have quiet (t : S) (event : KeyEvent) (other : event ≠ ⟨vkQ, false⟩) :
        board.posted (board.keybdEvent t event) = board.posted t :=
      documented.silent t event fun completes => other completes.1
    change board.posted (board.keybdEvent (board.keybdEvent (board.keybdEvent (board.keybdEvent menu ⟨vkQ, false⟩)
      ⟨vkQ, true⟩) ⟨vkMenu, true⟩) ⟨vkControl, true⟩) = _
    rw [quiet _ ⟨vkControl, true⟩ (by decide), quiet _ ⟨vkMenu, true⟩ (by decide), quiet _ ⟨vkQ, true⟩ (by decide),
      documented.reported menu held, quiet control ⟨vkMenu, false⟩ (by decide), quiet s ⟨vkControl, false⟩ (by decide)]
  · intro key other
    rw [sendSystemHotkey_down documented (fun key sent => not_mem_sideKeys (mem_combinationKeys sent)) s other]
    by_cases sent : key ∈ [virtualKeyControl, virtualKeyMenu, virtualKeyQ].map UInt16.toUInt8
    · rw [free key (mem_combinationKeys sent), Bool.false_and]
    · rw [decide_eq_false sent, Bool.not_false, Bool.and_true]

omit documented in
private theorem keyEvents_sent (thrownAfter : Gesture.GestureTriggerResult → ℕ) {result : Gesture.GestureTriggerResult}
    (sent : result.hotkeySent = true) :
    keyEvents thrownAfter (.gestureTriggered result) =
      (sendSystemHotkey [virtualKeyControl, virtualKeyMenu, virtualKeyQ] none).2 := by
  rw [keyEvents, sent]
  rfl

private theorem after_keyEvents (thrownAfter : Gesture.GestureTriggerResult → ℕ) (events : List Gesture.Event) {s : S}
    (free : board.Free s) (sent : ∀ result ∈ events.filterMap Gesture.Event.result?, result.hotkeySent = true) :
    Pressed board s (board.after s (events.flatMap (keyEvents thrownAfter)))
      (events.filterMap Gesture.Event.result?).length := by
  induction events generalizing s with
  | nil => exact ⟨rfl, fun _ _ => rfl⟩
  | cons event rest ih =>
    rw [List.flatMap_cons, after_append]
    cases event with
    | gestureTriggered result =>
      obtain ⟨here, later⟩ := List.forall_mem_cons.mp sent
      have first := trigger_pressed documented free
      rw [keyEvents_sent thrownAfter here]
      have next := ih (fun key member => (first.down key (not_mem_sideKeys member)).trans (free key member)) later
      refine ⟨?_, fun key other => (next.down key other).trans (first.down key other)⟩
      change _ = board.posted s + ((rest.filterMap Gesture.Event.result?).length + 1)
      rw [next.posted, first.posted]
      omega
    | hotkeySent | log | gestureStateChanged => exact ih free sent

omit documented in
/-- Whatever an exception leaves of them, the calls of one trigger press the key of the combination once. -/
private theorem count_keyEvents (thrownAfter : Gesture.GestureTriggerResult → ℕ) (events : List Gesture.Event) :
    (events.flatMap (keyEvents thrownAfter)).count ⟨vkQ, false⟩ ≤ (events.filterMap Gesture.Event.result?).length := by
  induction events with
  | nil => exact le_rfl
  | cons event rest ih =>
    rw [List.flatMap_cons, List.count_append]
    cases event with
    | gestureTriggered result =>
      have once : (keyEvents thrownAfter (.gestureTriggered result)).count ⟨vkQ, false⟩ ≤ 1 := by
        cases sent : result.hotkeySent with
        | true =>
          rw [keyEvents_sent thrownAfter sent]
          decide
        | false =>
          rw [keyEvents, sent]
          exact ((List.take_sublist _ _).count_le _).trans (by decide)
      change _ ≤ (rest.filterMap Gesture.Event.result?).length + 1
      omega
    | hotkeySent | log | gestureStateChanged => exact (Nat.zero_add _).trans_le ih

/-- Over every run of the detector, on a keyboard that behaves as documented and whose modifiers are held by nobody
else: the combination is reported at most once for every trigger, and if all of them were sent, exactly once for
each, with every key as it was before. -/
theorem triggers_press_hotkey (thrownAfter : Gesture.GestureTriggerResult → ℕ) (rate : Gesture.TickRate)
    (frames : List Gesture.Frame) (s : S) (free : board.Free s) :
    let raised := Gesture.Detector.raisedOver rate {} frames
    let triggers := raised.filterMap Gesture.Event.result?
    let t := board.after s (raised.flatMap (keyEvents thrownAfter))
    board.posted t ≤ board.posted s + triggers.length ∧
      ((∀ result ∈ triggers, result.hotkeySent = true) →
        board.posted t = board.posted s + triggers.length ∧
          ∀ key ∉ sideKeys, board.down t key = board.down s key) := by
  intro raised triggers t
  constructor
  · have reported := posted_after documented s (raised.flatMap (keyEvents thrownAfter))
    have pressed := count_keyEvents thrownAfter raised
    exact reported.trans (Nat.add_le_add_left pressed _)
  · intro sent
    have pressed := after_keyEvents documented thrownAfter raised free sent
    exact ⟨pressed.posted, pressed.down⟩

end Keys

/-- A keyboard that does what is documented and nothing else. -/
def sampleKeyboard : Keyboard ((UInt8 → Bool) × ℕ) where
  down s := s.1
  posted s := s.2
  keybdEvent s event :=
    (Function.update s.1 event.key !event.up,
      if event = ⟨vkQ, false⟩ ∧ (s.1 vkControl && s.1 vkMenu && !s.1 vkShift && !s.1 vkLWin && !s.1 vkRWin) then s.2 + 1
      else s.2)

private theorem sampleKeyboard_documented : sampleKeyboard.Documented where
  pressed s event key _ _ := by simp [sampleKeyboard, Function.update_apply]
  reported s held := by
    obtain ⟨control, menu, shift, left, right⟩ := held
    simp_all [sampleKeyboard]
  silent s event other := by
    refine if_neg fun completes => other ⟨completes.1, ?_⟩
    simpa [Keyboard.Held, sampleKeyboard, and_assoc] using completes.2

/-- One gesture, and the combination is reported once. -/
theorem triggers_press_hotkey_sampleGesture :
    sampleKeyboard.posted (sampleKeyboard.after (fun _ => false, 0)
      ((Gesture.Detector.raisedOver Gesture.sampleRate {} (Gesture.sampleGesture 1000)).flatMap
        (keyEvents fun _ => 0))) = 1 := by
  have pressed := (triggers_press_hotkey sampleKeyboard_documented (fun _ => 0) Gesture.sampleRate
    (Gesture.sampleGesture 1000) (fun _ => false, 0) fun _ _ => rfl).2 (by decide +kernel)
  rw [pressed.1]
  decide +kernel

namespace LoopPoint

/-- The place of a statement in `MessageLoop`. -/
def rank : LoopPoint → ℕ
  | .setThreadId => 0
  | .registerClass => 1
  | .createWindow => 2
  | .registerHotKey => 3
  | .getMessage => 4
  | .unregisterHotKey => 5
  | .destroyWindow => 6
  | .unregisterClass => 7
  | .ended => 8

/-- Behind the loop over the messages: nothing waits any more. -/
def leaves (point : LoopPoint) : Bool := 5 ≤ point.rank

def hasQueue (start : QueueStart) : LoopPoint → Bool
  | .setThreadId | .registerClass => start = .threadStart
  | .createWindow => start ≠ .createWindowEx
  | .ended => false
  | _ => true

end LoopPoint

/-- What the loop acquires and releases again. -/
inductive Resource where
  | windowClass
  | window
  | hotkey
deriving DecidableEq, Repr

namespace Resource

/-- The statement that releases it. -/
def release : Resource → LoopPoint
  | .windowClass => .unregisterClass
  | .window => .destroyWindow
  | .hotkey => .unregisterHotKey

/-- The statement in front of which it is first held. -/
def held : Resource → LoopPoint
  | .windowClass => .createWindow
  | .window => .registerHotKey
  | .hotkey => .getMessage

/-- It is held between the two. -/
def heldAt (x : Resource) (point : LoopPoint) : Bool := x.held.rank ≤ point.rank && point.rank ≤ x.release.rank

end Resource

namespace Receiver

def holds (r : Receiver) : Resource → Bool
  | .windowClass => r.classRegistered
  | .window => r.window
  | .hotkey => r.hotkeyRegistered

/-- What the two threads have done so far can be read off the places where they are. -/
structure Sound (start : QueueStart) (r : Receiver) : Prop where
  queue : r.queue.isSome = r.loop.hasQueue start
  named : r.threadIdSet = decide (r.loop ≠ .setThreadId)
  started : r.main ≠ .waitThreadId → r.threadIdSet = true
  joined : r.main = .returned → r.loop = .ended
  printed : r.fired + r.waiting.count .hotkey + r.discarded = r.pressed
  kept : r.loop.leaves = false → r.discarded = 0
  owned : ∀ x : Resource, r.loop.rank ≤ x.release.rank → r.holds x = x.heldAt r.loop

end Receiver

/-- The call that releases a resource is not refused. -/
def Releases (x : Resource) (r : Receiver) (a : ReceiverAction) : Prop := ¬ (r.loop = x.release ∧ a = .loop false)

/-- The end of the loop has been posted, or the loop is behind it. -/
def Receiver.Ends (r : Receiver) : Prop := .quit ∈ r.waiting ∨ r.loop.leaves = true

/-- What one statement of the loop does. -/
private structure Stepped (start : QueueStart) (r : Receiver) (ok : Bool) (t : Receiver) : Prop where
  main : t.main = r.main
  named : t.threadIdSet = true ↔ r.threadIdSet = true ∨ r.loop = .setThreadId
  onward : r.loop.rank < t.loop.rank ∨ r.loop = .getMessage ∧ t.loop = .getMessage
  queue : r.queue.isSome = r.loop.hasQueue start → t.queue.isSome = t.loop.hasQueue start
  printed : t.fired + t.waiting.count .hotkey + t.discarded = r.fired + r.waiting.count .hotkey + r.discarded
  pressed : t.pressed = r.pressed
  kept : t.loop.leaves = false → t.discarded = r.discarded
  holds : ∀ x : Resource, r.holds x = x.heldAt r.loop → Releases x r (.loop ok) → t.holds x = x.heldAt t.loop
  ends : r.Ends → t.Ends
  stays : ok = true → ¬ r.Ends → ¬ t.Ends

/-- A statement that leaves the queue and what was printed as they are. -/
private theorem Stepped.of_frame {start : QueueStart} {r t : Receiver} {ok : Bool} (main : t.main = r.main)
    (named : t.threadIdSet = true ↔ r.threadIdSet = true ∨ r.loop = .setThreadId) (onward : r.loop.rank < t.loop.rank)
    (queue : r.queue.isSome = r.loop.hasQueue start → t.queue.isSome = t.loop.hasQueue start)
    (waiting : t.waiting = r.waiting) (fired : t.fired = r.fired) (discarded : t.discarded = r.discarded)
    (pressed : t.pressed = r.pressed)
    (holds : ∀ x : Resource, r.holds x = x.heldAt r.loop → Releases x r (.loop ok) → t.holds x = x.heldAt t.loop)
    (stays : ok = true → r.loop.leaves = false → t.loop.leaves = false) : Stepped start r ok t where
  main := main
  named := named
  onward := .inl onward
  queue := queue
  printed := by rw [waiting, fired, discarded]
  pressed := pressed
  kept _ := discarded
  holds := holds
  ends := by
    rintro (posted | leaves)
    · exact .inl (waiting ▸ posted)
    · refine .inr ?_
      simp only [LoopPoint.leaves, decide_eq_true_eq] at leaves ⊢
      omega
  stays granted running := by
    rintro (posted | leaves)
    · exact running (.inl (waiting ▸ posted))
    · have before : r.loop.leaves = false := Bool.eq_false_iff.mpr fun left => running (.inr left)
      rw [stays granted before] at leaves
      cases leaves

/-- A statement behind the first one that changes nothing but what is held, and at most makes the queue. -/
private theorem Stepped.of_quiet {start : QueueStart} {r t : Receiver} {ok : Bool} {here : LoopPoint}
    (there : LoopPoint) (point : r.loop = here) (behind : here ≠ .setThreadId) (onward : here.rank < there.rank)
    (same : t = { r with
      loop := there, queue := t.queue, classRegistered := t.classRegistered, window := t.window
      hotkeyRegistered := t.hotkeyRegistered })
    (queue : r.queue.isSome = here.hasQueue start → t.queue.isSome = there.hasQueue start)
    (waiting : t.waiting = r.waiting)
    (holds : ∀ x : Resource, r.holds x = x.heldAt here → Releases x r (.loop ok) → t.holds x = x.heldAt there)
    (stays : ok = true → here.leaves = false → there.leaves = false) : Stepped start r ok t := by
  have next : t.loop = there := by rw [same]
  subst point next
  refine .of_frame ?_ ?_ onward queue waiting ?_ ?_ ?_ holds stays
  · rw [same]
  · rw [same]
    exact (or_iff_left behind).symm
  · rw [same]
  · rw [same]
  · rw [same]

/-- A statement that leaves the loop over the messages, or follows behind it. -/
private theorem Stepped.of_leaves {start : QueueStart} {r t : Receiver} {ok : Bool} (main : t.main = r.main)
    (named : t.threadIdSet = true ↔ r.threadIdSet = true ∨ r.loop = .setThreadId) (onward : r.loop.rank < t.loop.rank)
    (queue : r.queue.isSome = r.loop.hasQueue start → t.queue.isSome = t.loop.hasQueue start)
    (printed : t.fired + t.waiting.count .hotkey + t.discarded = r.fired + r.waiting.count .hotkey + r.discarded)
    (pressed : t.pressed = r.pressed) (leaves : t.loop.leaves = true)
    (holds : ∀ x : Resource, r.holds x = x.heldAt r.loop → Releases x r (.loop ok) → t.holds x = x.heldAt t.loop)
    (due : ok = true → r.Ends) : Stepped start r ok t where
  main := main
  named := named
  onward := .inl onward
  queue := queue
  printed := printed
  pressed := pressed
  kept running := absurd (leaves.symm.trans running) (by decide)
  holds := holds
  ends _ := .inr leaves
  stays granted running := absurd (due granted) running

/-- A message that is no end of the loop is taken out of the queue. -/
private theorem Stepped.of_dispatched {start : QueueStart} {r t : Receiver} {message : Message} {rest : List Message}
    (point : r.loop = .getMessage) (queue : r.queue = some (message :: rest)) (other : message ≠ .quit)
    (dispatched : t = { r with queue := some rest, fired := r.fired + [message].count .hotkey }) :
    Stepped start r true t := by
  have before : r.waiting = message :: rest := by rw [Receiver.waiting, queue]; rfl
  subst dispatched
  refine ⟨rfl, by simp [point], .inr ⟨point, point⟩, ?_, ?_, rfl, fun _ => rfl, fun x held _ => held, ?_, ?_⟩
  · intro _
    change true = r.loop.hasQueue start
    rw [point]
    rfl
  · change r.fired + [message].count .hotkey + rest.count .hotkey + r.discarded = _
    rw [before, List.count_singleton, List.count_cons]
    omega
  · rintro (posted | leaves)
    · rw [before, List.mem_cons] at posted
      exact .inl (posted.resolve_left (Ne.symm other))
    · exact .inr leaves
  · intro _ running
    rintro (posted | leaves)
    · refine running (.inl ?_)
      rw [before]
      exact List.mem_cons_of_mem message posted
    · exact running (.inr leaves)

/-- `GetMessage` and `DispatchMessage`. -/
private theorem dispatchMessage_stepped {start : QueueStart} {r t : Receiver} (point : r.loop = .getMessage)
    (moved : r.dispatchMessage = some t) : Stepped start r true t := by
  rw [Receiver.dispatchMessage] at moved
  split at moved
  · next rest queue =>
    have before : r.waiting = .quit :: rest := by rw [Receiver.waiting, queue]; rfl
    obtain rfl := Option.some.inj moved
    refine .of_leaves rfl (by simp [point]) (by simp [point, LoopPoint.rank]) (fun _ => rfl) ?_ rfl rfl ?_
      fun _ => .inl ?_
    · rw [before]
      rfl
    · intro x held _
      rw [point] at held
      exact held.trans (by cases x <;> rfl)
    · rw [before]
      exact List.mem_cons_self
  · next rest queue =>
    obtain rfl := Option.some.inj moved
    exact .of_dispatched point queue (by decide) rfl
  · next rest queue =>
    obtain rfl := Option.some.inj moved
    exact .of_dispatched point queue (by decide) rfl
  · cases moved

private theorem registerClass_called (start : QueueStart) (r : Receiver) :
    ∃ queue, (if start = .registerClassEx then r.withQueue else r) = { r with queue } ∧ queue.getD [] = r.waiting ∧
      (r.queue.isSome = LoopPoint.registerClass.hasQueue start →
        queue.isSome = LoopPoint.createWindow.hasQueue start) := by
  cases start with
  | registerClassEx => exact ⟨some r.waiting, rfl, rfl, fun _ => rfl⟩
  | threadStart | createWindowEx => exact ⟨r.queue, rfl, rfl, id⟩

/-- What still waits when the thread ends is discarded. -/
private theorem threadEnd_printed {r c : Receiver} (waiting : c.waiting = r.waiting) :
    c.threadEnd.fired + c.threadEnd.waiting.count .hotkey + c.threadEnd.discarded =
      c.fired + r.waiting.count .hotkey + c.discarded := by
  change c.fired + 0 + (c.discarded + c.waiting.count .hotkey) = _
  rw [waiting]
  omega

private theorem loopStep_stepped {start : QueueStart} {r t : Receiver} {ok : Bool}
    (moved : r.loopStep start ok = some t) : Stepped start r ok t := by
  rw [Receiver.loopStep] at moved
  cases point : r.loop with
  | setThreadId =>
    rw [point] at moved
    obtain rfl := Option.some.inj moved
    refine .of_frame rfl (by simp [point]) (by simp [point, LoopPoint.rank]) (by rw [point]; exact id) rfl rfl rfl rfl
      ?_ fun _ _ => rfl
    intro x held _
    rw [point] at held
    exact held.trans (by cases x <;> rfl)
  | registerClass =>
    rw [point] at moved
    obtain ⟨queue, called, waiting, present⟩ := registerClass_called start r
    dsimp only at moved
    rw [called] at moved
    cases ok with
    | true =>
      obtain rfl := Option.some.inj moved
      refine .of_quiet .createWindow point (by decide) (by decide) rfl present waiting (fun x held _ => ?_)
        fun _ _ => rfl
      cases x with
      | windowClass => rfl
      | window | hotkey => exact held
    | false =>
      obtain rfl := Option.some.inj moved
      refine .of_leaves rfl (by simp [point, Receiver.threadEnd]) (by simp [point, LoopPoint.rank, Receiver.threadEnd])
        (fun _ => rfl) ?_ rfl rfl ?_ (by simp)
      · exact threadEnd_printed waiting
      · intro x held _
        rw [point] at held
        exact held.trans (by cases x <;> rfl)
  | createWindow =>
    rw [point] at moved
    cases ok with
    | true =>
      obtain rfl := Option.some.inj moved
      refine .of_quiet .registerHotKey point (by decide) (by decide) rfl (fun _ => rfl) rfl (fun x held _ => ?_)
        fun _ _ => rfl
      cases x with
      | window => rfl
      | windowClass | hotkey => exact held
    | false =>
      obtain rfl := Option.some.inj moved
      refine .of_quiet .unregisterClass point (by decide) (by decide) rfl (fun _ => rfl) rfl (fun x held _ => ?_) nofun
      exact held.trans (by cases x <;> rfl)
  | registerHotKey =>
    rw [point] at moved
    cases ok with
    | true =>
      obtain rfl := Option.some.inj moved
      refine .of_quiet .getMessage point (by decide) (by decide) rfl id rfl (fun x held _ => ?_) fun _ _ => rfl
      cases x with
      | hotkey => rfl
      | windowClass | window => exact held
    | false =>
      obtain rfl := Option.some.inj moved
      refine .of_quiet .destroyWindow point (by decide) (by decide) rfl id rfl (fun x held _ => ?_) nofun
      exact held.trans (by cases x <;> rfl)
  | getMessage =>
    rw [point] at moved
    cases ok with
    | true => exact dispatchMessage_stepped point moved
    | false =>
      obtain rfl := Option.some.inj moved
      refine .of_quiet .unregisterHotKey point (by decide) (by decide) rfl id rfl (fun x held _ => ?_) nofun
      exact held.trans (by cases x <;> rfl)
  | unregisterHotKey =>
    rw [point] at moved
    obtain rfl := Option.some.inj moved
    refine .of_quiet .destroyWindow point (by decide) (by decide) rfl id rfl (fun x held released => ?_) fun _ => id
    cases x with
    | hotkey =>
      have granted : ok = true := by simpa [Releases, point, Resource.release] using released
      rw [granted]
      exact Bool.and_false _
    | windowClass | window => exact held
  | destroyWindow =>
    rw [point] at moved
    cases ok with
    | true =>
      obtain rfl := Option.some.inj moved
      refine .of_leaves rfl (by simp [point, Receiver.flush]) (by simp [point, LoopPoint.rank]) (fun _ => rfl) ?_ rfl
        rfl ?_ fun _ => .inr ?_
      · simp [Receiver.waiting, Receiver.flush]
        omega
      · intro x held _
        rw [point] at held
        cases x with
        | window => rfl
        | windowClass | hotkey => exact held
      · rw [point]
        rfl
    | false =>
      obtain rfl := Option.some.inj moved
      refine .of_quiet .unregisterClass point (by decide) (by decide) rfl id rfl (fun x held released => ?_) nofun
      cases x with
      | window => exact absurd ⟨point, rfl⟩ released
      | windowClass | hotkey => exact held
  | unregisterClass =>
    rw [point] at moved
    obtain rfl := Option.some.inj moved
    refine .of_leaves rfl (by simp [point, Receiver.threadEnd]) (by simp [point, LoopPoint.rank, Receiver.threadEnd])
      (fun _ => rfl) ?_ rfl rfl ?_ fun _ => .inr (by rw [point]; rfl)
    · exact threadEnd_printed rfl
    · intro x held released
      rw [point] at held
      cases x with
      | windowClass =>
        have granted : ok = true := by simpa [Releases, point, Resource.release] using released
        rw [granted]
        exact Bool.and_false _
      | window | hotkey => exact held
  | ended =>
    rw [point] at moved
    cases moved

private theorem loopStep_sound {start : QueueStart} {r t : Receiver} {ok : Bool} (sound : r.Sound start)
    (moved : r.loopStep start ok = some t) : t.Sound start := by
  have stepped := loopStep_stepped moved
  have behind : t.loop ≠ .setThreadId := by
    intro point
    have onward := stepped.onward
    simp [point, LoopPoint.rank] at onward
  have set : t.threadIdSet = true := by
    refine stepped.named.mpr ?_
    by_cases point : r.loop = .setThreadId
    · exact .inr point
    · exact .inl (by rw [sound.named, decide_eq_true point])
  refine ⟨stepped.queue sound.queue, set.trans (decide_eq_true behind).symm, fun _ => set, ?_, ?_, ?_, ?_⟩
  · intro returned
    have ended := sound.joined (stepped.main ▸ returned)
    rw [Receiver.loopStep, ended] at moved
    cases moved
  · rw [stepped.printed, stepped.pressed, sound.printed]
  · intro running
    rw [stepped.kept running]
    refine sound.kept ?_
    have onward := stepped.onward
    simp only [LoopPoint.leaves, decide_eq_false_iff_not] at running ⊢
    rcases onward with further | ⟨same, _⟩
    · omega
    · rw [same]
      decide
  · intro x bound
    have before : r.loop.rank ≤ x.release.rank ∧ r.loop ≠ x.release := by
      rcases stepped.onward with further | ⟨point, _⟩
      · exact ⟨by omega, fun same => by rw [same] at further; omega⟩
      · rw [point]
        cases x <;> decide
    exact stepped.holds x (sound.owned x before.1) fun refused => before.2 refused.1

/-- A step that moves the main thread alone. -/
private theorem Receiver.Sound.moves {start : QueueStart} {r : Receiver} (sound : r.Sound start) {main : MainPoint}
    (set : main ≠ .waitThreadId → r.threadIdSet = true) (joined : main = .returned → r.loop = .ended) :
    Receiver.Sound start { r with main } :=
  ⟨sound.queue, sound.named, set, joined, sound.printed, sound.kept, fun x => by cases x <;> exact sound.owned _⟩

private theorem waiting_post {r : Receiver} {messages : List Message} (queue : r.queue = some messages) (place : ℕ)
    (message : Message) :
    r.waiting = messages ∧ (r.post place message).waiting = messages.take place ++ message :: messages.drop place := by
  simp [Receiver.waiting, Receiver.post, queue]

/-- A message that is posted, or lost without a queue. -/
private theorem Receiver.Sound.posts {start : QueueStart} {r : Receiver} (sound : r.Sound start) (place : ℕ)
    {message : Message} {pressed : ℕ} (counted : r.queue.isSome = true → pressed = r.pressed + [message].count .hotkey)
    (lost : r.queue.isSome = false → pressed = r.pressed) :
    Receiver.Sound start { r.post place message with pressed } := by
  refine ⟨?_, sound.named, sound.started, sound.joined, ?_, sound.kept, fun x => by cases x <;> exact sound.owned _⟩
  · change (r.queue.map _).isSome = _
    rw [Option.isSome_map]
    exact sound.queue
  · change r.fired + (r.post place message).waiting.count .hotkey + r.discarded = pressed
    have printed := sound.printed
    cases queue : r.queue with
    | none =>
      have waiting : (r.post place message).waiting = r.waiting := by simp [Receiver.waiting, Receiver.post, queue]
      rw [waiting, printed, lost (by rw [queue]; rfl)]
    | some messages =>
      obtain ⟨before, after⟩ := waiting_post queue place message
      have whole :
          messages.count .hotkey = (messages.take place).count .hotkey + (messages.drop place).count .hotkey := by
        rw [← List.count_append, List.take_append_drop]
      rw [counted (by rw [queue]; rfl), ← printed, before, whole, after, List.count_append, List.count_singleton,
        List.count_cons]
      omega

private theorem mainStep_sound {start : QueueStart} {r t : Receiver} (sound : r.Sound start)
    (moved : r.mainStep = some t) : t.Sound start := by
  rw [Receiver.mainStep] at moved
  cases point : r.main with
  | waitThreadId =>
    rw [point] at moved
    dsimp only at moved
    split_ifs at moved with set
    · obtain rfl := Option.some.inj moved
      exact sound.moves (fun _ => set) (by simp)
    · obtain rfl := Option.some.inj moved
      exact sound
  | readLine =>
    rw [point] at moved
    cases moved
  | postQuit =>
    have set : r.threadIdSet = true := sound.started (by simp [point])
    rw [point] at moved
    dsimp only at moved
    rw [if_pos set] at moved
    obtain rfl := Option.some.inj moved
    have posted : Receiver.Sound start (r.postThreadMessage .quit) := sound.posts _ (fun _ => rfl) fun _ => rfl
    exact posted.moves (fun _ => set) (by simp)
  | join =>
    have set : r.threadIdSet = true := sound.started (by simp [point])
    rw [point] at moved
    dsimp only at moved
    split_ifs at moved with ended
    obtain rfl := Option.some.inj moved
    exact sound.moves (fun _ => set) fun _ => ended
  | returned =>
    rw [point] at moved
    cases moved

/-- The registration comes when the thread has its queue. -/
private theorem hasQueue_of_registered {start : QueueStart} {r : Receiver}
    (owned : r.loop.rank ≤ Resource.hotkey.release.rank → r.holds .hotkey = Resource.hotkey.heldAt r.loop)
    (registered : r.hotkeyRegistered = true) (alive : r.loop ≠ .ended) : r.loop.hasQueue start = true := by
  cases point : r.loop with
  | setThreadId | registerClass | createWindow =>
    rw [point] at owned
    exact absurd (registered.symm.trans (owned (by decide))) (by decide)
  | registerHotKey | getMessage | unregisterHotKey | destroyWindow | unregisterClass => rfl
  | ended => exact absurd point alive

private theorem step_sound {start : QueueStart} {r t : Receiver} (sound : r.Sound start) {a : ReceiverAction}
    (moved : r.step start a = some t) : t.Sound start := by
  cases a with
  | loop ok => exact loopStep_sound sound moved
  | main => exact mainStep_sound sound moved
  | enter =>
    dsimp only [Receiver.step] at moved
    split_ifs at moved with reading
    obtain rfl := Option.some.inj moved
    exact sound.moves (fun _ => sound.started (by simp [reading])) (by simp)
  | press place =>
    dsimp only [Receiver.step] at moved
    split_ifs at moved with reported
    obtain rfl := Option.some.inj moved
    simp only [Bool.and_eq_true, decide_eq_true_eq] at reported
    obtain ⟨⟨registered, -⟩, alive⟩ := reported
    have present : r.queue.isSome = true := by
      rw [sound.queue]
      exact hasQueue_of_registered (sound.owned .hotkey) registered alive
    exact sound.posts place (fun _ => rfl) fun absent => absurd (present.symm.trans absent) (by decide)
  | postOther =>
    obtain rfl := Option.some.inj moved
    exact sound.posts _ (fun _ => rfl) fun _ => rfl

theorem receiver_sound {start : QueueStart} {r : Receiver} (reached : (receiver start).Reachable r) :
    r.Sound start := by
  induction reached with
  | init =>
    refine ⟨by cases start <;> rfl, rfl, (by simp [receiver]), (by simp [receiver]), by cases start <;> rfl,
      fun _ => rfl, ?_⟩
    intro x _
    cases x <;> rfl
  | step _ _ moved sound => exact step_sound sound moved

/-- Only a statement of the loop moves the loop or what it holds. -/
private theorem step_frame {start : QueueStart} {r t : Receiver} {a : ReceiverAction} (other : ∀ ok, a ≠ .loop ok)
    (moved : (receiver start).step r a = some t) : t.loop = r.loop ∧ ∀ x, t.holds x = r.holds x := by
  cases a with
  | loop ok => exact absurd rfl (other ok)
  | main =>
    change r.mainStep = some t at moved
    rw [Receiver.mainStep] at moved
    split at moved
    · split_ifs at moved <;> obtain rfl := Option.some.inj moved <;> exact ⟨rfl, fun x => by cases x <;> rfl⟩
    · cases moved
    · split_ifs at moved <;> obtain rfl := Option.some.inj moved <;> exact ⟨rfl, fun x => by cases x <;> rfl⟩
    · split_ifs at moved
      obtain rfl := Option.some.inj moved
      exact ⟨rfl, fun x => by cases x <;> rfl⟩
    · cases moved
  | enter | press =>
    dsimp only [receiver, Receiver.step] at moved
    split_ifs at moved
    obtain rfl := Option.some.inj moved
    exact ⟨rfl, fun x => by cases x <;> rfl⟩
  | postOther =>
    obtain rfl := Option.some.inj moved
    exact ⟨rfl, fun x => by cases x <;> rfl⟩

/-- A resource whose release is not refused is held exactly between the two statements. -/
private theorem holds_of_released {start : QueueStart} {x : Resource} {r : Receiver}
    (reached : (receiver start).ReachableUnder (Releases x) r) : r.holds x = x.heldAt r.loop := by
  induction reached with
  | init => cases x <;> rfl
  | @step r t a _ released moved held =>
    cases a with
    | loop ok => exact (loopStep_stepped moved).holds x held released
    | main | enter | press | postOther =>
      obtain ⟨point, same⟩ := step_frame (by simp) moved
      rw [same, point, held]

/-- In every interleaving of the two threads, for every answer of the system and wherever the queue comes from: up to
its release, a resource is held exactly from its acquisition on, so the registration lies within the window and the
window within its class; every reported press has been printed once, still waits, or went away with the window or the
thread, and none goes away before the loop over the messages is left; the main thread returns only behind the loop.
A resource whose release is never refused is not held when the loop has ended. -/
theorem receiver_holds_nested (start : QueueStart) :
    (∀ r, (receiver start).Reachable r →
      (∀ x : Resource, r.loop.rank ≤ x.release.rank → r.holds x = x.heldAt r.loop) ∧
        r.fired + r.waiting.count .hotkey + r.discarded = r.pressed ∧
        (r.loop.leaves = false → r.discarded = 0) ∧ (r.loop = .ended → r.waiting = []) ∧
        (r.main = .returned → r.loop = .ended)) ∧
      ∀ x r, (receiver start).ReachableUnder (Releases x) r → r.holds x = x.heldAt r.loop := by
  refine ⟨fun r reached => ?_, fun x r => holds_of_released⟩
  have sound := receiver_sound reached
  refine ⟨sound.owned, sound.printed, sound.kept, fun ended => ?_, sound.joined⟩
  have absent := sound.queue
  rw [ended] at absent
  have queue : r.queue = none := by simpa [LoopPoint.hasQueue] using absent
  rw [Receiver.waiting, queue]
  rfl

/-- Two presses, the second of them accepted behind the message that ends the loop: one is printed, the other goes
away with the window, and the class whose release is refused is still held. -/
theorem receiver_holds_nested_press :
    let r : Receiver :=
      { loop := .ended, main := .join, threadIdSet := true, queue := none, classRegistered := true, fired := 1,
        pressed := 2, discarded := 1 }
    (receiver .threadStart).Reachable r ∧ r.fired + r.waiting.count .hotkey + r.discarded = r.pressed := by
  intro r
  have run : (receiver .threadStart).run (receiver .threadStart).init
      [.loop true, .main, .loop true, .loop true, .loop true, .press 0, .loop true, .enter, .main, .loop true, .press 0,
        .loop true, .loop true, .loop false] = some r := by decide
  have reached := System.Reachable.run .init run
  exact ⟨reached, ((receiver_holds_nested .threadStart).1 r reached).2.1⟩

/-- Steps in which the system grants every call. -/
def ReceiverAction.granted (a : ReceiverAction) : Bool := a ≠ .loop false

/-- How far the loop is from its end. -/
def Receiver.distance (r : Receiver) : ℕ := r.waiting.length + (8 - r.loop.rank)

/-- A loop that is to end has a next statement that brings it nearer to its end. -/
private theorem loopStep_nearer (start : QueueStart) {r : Receiver} (ends : r.Ends) (alive : r.loop ≠ .ended) :
    ∃ t, r.loopStep start true = some t ∧ t.distance < r.distance := by
  rw [Receiver.loopStep]
  cases point : r.loop with
  | setThreadId | registerHotKey | unregisterHotKey =>
    exact ⟨_, rfl, by simp [Receiver.distance, Receiver.waiting, point, LoopPoint.rank]⟩
  | registerClass =>
    obtain ⟨queue, called, waiting, -⟩ := registerClass_called start r
    dsimp only
    rw [called]
    refine ⟨_, rfl, ?_⟩
    change (queue.getD []).length + 6 < r.waiting.length + (8 - r.loop.rank)
    rw [waiting, point]
    exact Nat.lt_succ_self _
  | createWindow =>
    exact ⟨_, rfl, by simp [Receiver.distance, Receiver.waiting, Receiver.withQueue, point, LoopPoint.rank]⟩
  | getMessage =>
    have posted : .quit ∈ r.waiting := ends.resolve_right (by rw [point]; decide)
    cases queue : r.queue with
    | none => simp [Receiver.waiting, queue] at posted
    | some messages =>
      cases messages with
      | nil => simp [Receiver.waiting, queue] at posted
      | cons message rest =>
        cases message with
        | quit | hotkey | other =>
          simp [Receiver.dispatchMessage, queue, Receiver.distance, Receiver.waiting, point, LoopPoint.rank]
  | destroyWindow =>
    refine ⟨_, rfl, ?_⟩
    simp [Receiver.distance, Receiver.waiting, Receiver.flush, point, LoopPoint.rank]
  | unregisterClass =>
    refine ⟨_, rfl, ?_⟩
    simp [Receiver.distance, Receiver.waiting, Receiver.threadEnd, point, LoopPoint.rank]
  | ended => exact absurd point alive

/-- From a joining main thread whose loop is to end, the granted statements of the loop lead to the return. -/
private theorem exists_return (start : QueueStart) {r : Receiver} (joining : r.main = .join) (ends : r.Ends) :
    ∃ actions t, (∀ a ∈ actions, a.granted = true) ∧ (receiver start).run r actions = some t ∧ t.main = .returned := by
  induction distance : r.distance using Nat.strong_induction_on generalizing r with
  | _ n ih =>
    by_cases ended : r.loop = .ended
    · refine ⟨[.main], { r with main := .returned }, by decide, ?_, rfl⟩
      simp [System.run, receiver, Receiver.step, Receiver.mainStep, joining, ended]
    · obtain ⟨middle, moved, closer⟩ := loopStep_nearer start ends ended
      have stepped := loopStep_stepped moved
      obtain ⟨actions, t, granted, run, returned⟩ :=
        ih middle.distance (by omega) (stepped.main.trans joining) (stepped.ends ends) rfl
      refine ⟨.loop true :: actions, t, ?_, System.run_cons moved run, returned⟩
      intro a member
      rcases List.mem_cons.mp member with rfl | later
      · decide
      · exact granted a later

private theorem mem_waiting_post {r : Receiver} {place : ℕ} {message m : Message}
    (member : m ∈ (r.post place message).waiting) : m ∈ r.waiting ∨ m = message := by
  cases queue : r.queue with
  | none => simp [Receiver.waiting, Receiver.post, queue] at member
  | some messages =>
    obtain ⟨before, after⟩ := waiting_post queue place message
    rw [after, List.mem_append, List.mem_cons] at member
    rw [before]
    rcases member with front | same | back
    · exact .inl (List.mem_of_mem_take front)
    · exact .inr same
    · exact .inl (List.mem_of_mem_drop back)

/-- Another message does not end the loop. -/
private theorem post_stays {r : Receiver} (stays : ¬ r.Ends) (place : ℕ) {message : Message} (other : message ≠ .quit) :
    ¬ (r.post place message).Ends := by
  rintro (posted | leaves)
  · rcases mem_waiting_post posted with earlier | same
    · exact stays (.inl earlier)
    · exact other same.symm
  · exact stays (.inr leaves)

/-- A message is posted where there is a queue, and what waits stays. -/
private theorem mem_post {r : Receiver} (present : r.queue.isSome = true) (place : ℕ) (message : Message) :
    message ∈ (r.post place message).waiting ∧ ∀ m ∈ r.waiting, m ∈ (r.post place message).waiting := by
  obtain ⟨messages, queue⟩ := Option.isSome_iff_exists.mp present
  obtain ⟨before, after⟩ := waiting_post queue place message
  rw [after, before]
  refine ⟨List.mem_append_right _ List.mem_cons_self, fun m member => ?_⟩
  rw [← List.take_append_drop place messages, List.mem_append] at member
  rcases member with front | back
  · exact List.mem_append_left _ front
  · exact List.mem_append_right _ (List.mem_cons_of_mem _ back)

/-- Where the end has not been posted and the main thread is past posting it, no granted step changes that. -/
private theorem step_stays {start : QueueStart} {r t : Receiver} {a : ReceiverAction} (granted : a.granted = true)
    (joining : r.main = .join) (stays : ¬ r.Ends) (moved : r.step start a = some t) : t.main = .join ∧ ¬ t.Ends := by
  cases a with
  | loop ok =>
    have stepped := loopStep_stepped moved
    have answered : ok = true := by simpa [ReceiverAction.granted] using granted
    exact ⟨stepped.main.trans joining, stepped.stays answered stays⟩
  | main =>
    change r.mainStep = some t at moved
    rw [Receiver.mainStep, joining] at moved
    dsimp only at moved
    split_ifs at moved with ended
    exact absurd (.inr (by rw [ended]; rfl)) stays
  | enter => simp [Receiver.step, joining] at moved
  | press place =>
    dsimp only [Receiver.step] at moved
    split_ifs at moved
    obtain rfl := Option.some.inj moved
    exact ⟨joining, post_stays stays place (by decide)⟩
  | postOther =>
    obtain rfl := Option.some.inj moved
    exact ⟨joining, post_stays stays _ (by decide)⟩

private theorem run_stays {start : QueueStart} {r t : Receiver} {actions : List ReceiverAction}
    (granted : ∀ a ∈ actions, a.granted = true) (joining : r.main = .join) (stays : ¬ r.Ends)
    (run : (receiver start).run r actions = some t) : t.main = .join := by
  induction actions generalizing r with
  | nil =>
    obtain rfl := Option.some.inj run
    exact joining
  | cons a rest ih =>
    obtain ⟨middle, moved, later⟩ := Option.bind_eq_some_iff.mp run
    obtain ⟨main, still⟩ := step_stays (granted a List.mem_cons_self) joining stays moved
    exact ih (fun b member => granted b (List.mem_cons_of_mem a member)) main still later

/-- Enter is pressed at a time when the thread of the loop has its queue, or is over. -/
def EnterWithQueue (r : Receiver) (a : ReceiverAction) : Prop := a = .enter → r.queue.isSome = true ∨ r.loop = .ended

/-- The end is posted to an existing queue, and is waiting or done once the main thread joins. -/
private structure Receiver.Prompt (r : Receiver) : Prop where
  posting : r.main = .postQuit → r.queue.isSome = true ∨ r.loop.leaves = true
  joining : r.main = .join → r.Ends

private theorem Receiver.Prompt.posts {r : Receiver} (prompt : r.Prompt) (place : ℕ) {message : Message} {pressed : ℕ} :
    Receiver.Prompt { r.post place message with pressed } := by
  refine ⟨fun posting => ?_, fun joining => ?_⟩
  · change (r.queue.map _).isSome = true ∨ _
    rw [Option.isSome_map]
    exact prompt.posting posting
  · rcases prompt.joining joining with posted | leaves
    · have present : r.queue.isSome = true := by
        cases queue : r.queue with
        | none => simp [Receiver.waiting, queue] at posted
        | some _ => rfl
      exact .inl ((mem_post present place message).2 _ posted)
    · exact .inr leaves

private theorem mainStep_prompt {start : QueueStart} {r t : Receiver} (sound : r.Sound start) (prompt : r.Prompt)
    (moved : r.mainStep = some t) : t.Prompt := by
  rw [Receiver.mainStep] at moved
  cases point : r.main with
  | waitThreadId =>
    rw [point] at moved
    dsimp only at moved
    split_ifs at moved
    · obtain rfl := Option.some.inj moved
      exact ⟨by simp, by simp⟩
    · obtain rfl := Option.some.inj moved
      exact prompt
  | readLine =>
    rw [point] at moved
    cases moved
  | postQuit =>
    have set : r.threadIdSet = true := sound.started (by simp [point])
    rw [point] at moved
    dsimp only at moved
    rw [if_pos set] at moved
    obtain rfl := Option.some.inj moved
    refine ⟨by simp, fun _ => ?_⟩
    rcases prompt.posting point with present | leaves
    · exact .inl (mem_post present _ .quit).1
    · exact .inr leaves
  | join =>
    rw [point] at moved
    dsimp only at moved
    split_ifs at moved
    obtain rfl := Option.some.inj moved
    exact ⟨by simp, by simp⟩
  | returned =>
    rw [point] at moved
    cases moved

/-- A thread that has its queue keeps it as long as the loop runs. -/
private theorem LoopPoint.hasQueue_mono {start : QueueStart} {point later : LoopPoint} (bound : point.rank ≤ later.rank)
    (present : point.hasQueue start = true) : later.hasQueue start = true ∨ later.leaves = true := by
  cases later with
  | registerHotKey | getMessage => exact .inl rfl
  | unregisterHotKey | destroyWindow | unregisterClass | ended => exact .inr rfl
  | setThreadId | registerClass | createWindow => cases point <;> cases start <;> simp_all [rank, hasQueue]

private theorem step_prompt {start : QueueStart} {r t : Receiver} {a : ReceiverAction} (sound : r.Sound start)
    (prompt : r.Prompt) (timely : EnterWithQueue r a) (moved : r.step start a = some t) : t.Prompt := by
  cases a with
  | loop ok =>
    have stepped := loopStep_stepped moved
    have onward : r.loop.rank ≤ t.loop.rank := by
      rcases stepped.onward with further | ⟨here, there⟩
      · exact further.le
      · rw [here, there]
    refine ⟨fun posting => ?_, fun joining => stepped.ends (prompt.joining (stepped.main ▸ joining))⟩
    rw [stepped.queue sound.queue]
    rcases prompt.posting (stepped.main ▸ posting) with present | leaves
    · exact LoopPoint.hasQueue_mono onward (sound.queue ▸ present)
    · exact .inr (by simp only [LoopPoint.leaves, decide_eq_true_eq] at leaves ⊢; omega)
  | main => exact mainStep_prompt sound prompt moved
  | enter =>
    dsimp only [Receiver.step] at moved
    split_ifs at moved
    obtain rfl := Option.some.inj moved
    refine ⟨fun _ => ?_, by simp⟩
    rcases timely rfl with present | ended
    · exact .inl present
    · exact .inr (by change r.loop.leaves = true; rw [ended]; rfl)
  | press place =>
    dsimp only [Receiver.step] at moved
    split_ifs at moved
    obtain rfl := Option.some.inj moved
    exact prompt.posts place
  | postOther =>
    obtain rfl := Option.some.inj moved
    exact prompt.posts _

private theorem receiver_prompt {start : QueueStart} {r : Receiver}
    (reached : (receiver start).ReachableUnder EnterWithQueue r) : r.Prompt := by
  induction reached with
  | init => exact ⟨by simp [receiver], by simp [receiver]⟩
  | step before timely moved prompt => exact step_prompt (receiver_sound before.reachable) prompt timely moved

/-- A thread that starts with its queue has it whenever Enter is pressed. -/
private theorem enterWithQueue_of_threadStart {r : Receiver} (reached : (receiver .threadStart).Reachable r) :
    (receiver .threadStart).ReachableUnder EnterWithQueue r := by
  induction reached with
  | init => exact .init
  | @step r t a before _ moved under =>
    refine .step under (fun _ => ?_) moved
    rw [(receiver_sound before).queue]
    cases r.loop <;> simp [LoopPoint.hasQueue]

/-- Enter before the first window call of a thread without a queue: the end of the loop is lost. -/
private theorem enter_before_queue {start : QueueStart} (later : start ≠ .threadStart) :
    ∃ r, (receiver start).Reachable r ∧ r.main = .join ∧ ¬ r.Ends := by
  refine ⟨{ loop := .registerClass, main := .join, threadIdSet := true, queue := none }, ?_, rfl, ?_⟩
  · have run : (receiver start).run (receiver start).init [.loop true, .main, .enter, .main] =
        some { loop := .registerClass, main := .join, threadIdSet := true, queue := none } := by
      cases start with
      | threadStart => exact absurd rfl later
      | registerClassEx | createWindowEx => decide
    exact System.Reachable.run .init run
  · rintro (posted | leaves)
    · simp [Receiver.waiting] at posted
    · cases leaves

/-- From a state in which the main thread joins, it can return without a refused call exactly when the end of the
loop is waiting or done. That is so in every interleaving if the thread of the loop starts with its queue, and in every
interleaving in which Enter is pressed only once the thread has it; a thread that gets its queue from a call of
`MessageLoop` has a run with an earlier Enter, in which the main thread waits for good. -/
theorem receiver_returns_iff :
    (∀ start r, r.main = .join →
      ((∃ actions t, (∀ a ∈ actions, a.granted = true) ∧ (receiver start).run r actions = some t ∧ t.main = .returned) ↔
        r.Ends)) ∧
      (∀ r, (receiver .threadStart).Reachable r → r.main = .join → r.Ends) ∧
      (∀ start r, (receiver start).ReachableUnder EnterWithQueue r → r.main = .join → r.Ends) ∧
      ∀ start, start ≠ .threadStart → ∃ r, (receiver start).Reachable r ∧ r.main = .join ∧ ¬ r.Ends := by
  refine ⟨?_, ?_, ?_, fun start => enter_before_queue⟩
  · intro start r joining
    constructor
    · rintro ⟨actions, t, granted, run, returned⟩
      by_contra stays
      have waits := run_stays granted joining stays run
      rw [returned] at waits
      cases waits
    · exact exists_return start joining
  · intro r reached
    exact (receiver_prompt (enterWithQueue_of_threadStart reached)).joining
  · intro start r reached
    exact (receiver_prompt reached).joining

end GestureSuite.Hotkey
