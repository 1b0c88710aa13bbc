import Mathlib.Data.List.Forall2
import GestureSuite.Model.Pipeline
import GestureSuite.Soundness.Firmware.Streaming
import GestureSuite.Soundness.Payload

/-! # From the registers of the sensor to the gesture machine

The board sends a line for every sample it streams, the link may lose lines and cut what it delivers, and the
client makes frames of what arrives. Compared with a client that is handed the samples themselves, neither the
texts nor the cuts matter: a line that cannot be read leaves no trace in the calibrator and the detector, and
one that can be read has the motion values of its sample.
-/

namespace GestureSuite

open Firmware Gesture Host Text

namespace Firmware

/-- The sample an event sends to the client. -/
def Board.sends (b : Board) : BoardEvent → Option ImuSample
  | .tick millis now readRegs sampleMs =>
    if b.outcome (.tick millis now readRegs sampleMs) = .streamed then
      readSample b.controller.imuReady readRegs sampleMs
    else none
  | _ => none

/-- The samples that events send from a state on. -/
def Board.sentSamples (b : Board) : List BoardEvent → List ImuSample
  | [] => []
  | event :: rest => (b.sends event).toList ++ (b.next event).sentSamples rest

/-- The texts pushed to the client so far, in the order in which they were. -/
def Board.onAir (b : Board) : List (List Char) :=
  (b.controller.imuCharacteristic.map fun characteristic => characteristic.notified.reverse).getD []

/-- The IMU characteristic exists once the service does, and nothing has been pushed before; its value is the line
that was pushed last, or one of zeros. -/
structure Board.Serves (b : Board) : Prop where
  silent : .createService ∈ b.pending → b.controller.imuCharacteristic = none
  made : .createService ∉ b.pending → b.controller.imuCharacteristic.isSome = true
  current : ∀ characteristic ∈ b.controller.imuCharacteristic,
    characteristic.value = characteristic.notified.head?.getD (buildImuText {})

private theorem updateBleIndicator_imuCharacteristic (c : Controller) (now : UInt32) :
    (c.updateBleIndicator now).imuCharacteristic = c.imuCharacteristic ∧
      (c.updateBleIndicator now).clientConnected = c.clientConnected ∧
      (c.updateBleIndicator now).imuReady = c.imuReady ∧
      (c.updateBleIndicator now).lastImuPublishMs = c.lastImuPublishMs := by
  rw [Controller.updateBleIndicator]
  split
  · exact ⟨rfl, rfl, rfl, rfl⟩
  · split <;> exact ⟨rfl, rfl, rfl, rfl⟩
  · exact ⟨rfl, rfl, rfl, rfl⟩

private theorem publishImuSample_connected {c : Controller} (sample : ImuSample) (linked : c.clientConnected = true) :
    (c.publishImuSample sample).imuCharacteristic = c.imuCharacteristic.map fun characteristic =>
      { value := buildImuText sample, notified := buildImuText sample :: characteristic.notified } := by
  have written : c.write (buildImuText sample) = fun characteristic =>
      { value := buildImuText sample, notified := buildImuText sample :: characteristic.notified } := by
    funext characteristic
    rw [Controller.write, if_pos linked]
  rw [← written]
  rfl

/-- A tick pushes the line of the sample it streams, and nothing otherwise. -/
private theorem tick_imuCharacteristic (c : Controller) (millis now : UInt32) (readRegs : Option (Vector UInt8 14))
    (sampleMs : UInt32) :
    (c.outcome now readRegs sampleMs ≠ .streamed ∧
        (c.tick millis now readRegs sampleMs).imuCharacteristic = c.imuCharacteristic) ∨
      c.outcome now readRegs sampleMs = .streamed ∧ ∃ sample, readSample c.imuReady readRegs sampleMs = some sample ∧
        (c.tick millis now readRegs sampleMs).imuCharacteristic = c.imuCharacteristic.map fun characteristic =>
          { value := buildImuText sample, notified := buildImuText sample :: characteristic.notified } := by
  obtain ⟨same, connected, ready, published⟩ := updateBleIndicator_imuCharacteristic c millis
  rw [Controller.tick, Controller.outcome]
  generalize c.updateBleIndicator millis = d at same connected ready published
  dsimp only
  rw [← same, ← connected, ← ready, ← published]
  by_cases absent : (!d.clientConnected || !d.imuReady) = true
  · rw [if_pos absent, if_pos absent]
    exact .inl ⟨by decide, rfl⟩
  rw [if_neg absent, if_neg absent]
  by_cases early : now - d.lastImuPublishMs < kImuPublishIntervalMs
  · rw [if_pos early, if_pos early]
    exact .inl ⟨by decide, rfl⟩
  rw [if_neg early, if_neg early]
  have linked : d.clientConnected = true := by
    simp only [Bool.or_eq_true, Bool.not_eq_true', not_or, Bool.not_eq_false] at absent
    exact absent.1
  cases readSample d.imuReady readRegs sampleMs with
  | none =>
    refine .inl ⟨by simp, ?_⟩
    dsimp only
    split <;> rfl
  | some sample =>
    refine .inr ⟨rfl, sample, rfl, ?_⟩
    dsimp only
    split
    · exact publishImuSample_connected sample linked
    · exact publishImuSample_connected sample linked

private theorem execute_imuCharacteristic (c : Controller) (surroundings : Surroundings) {statement : Statement}
    (other : statement ≠ .createService) :
    (c.execute surroundings statement).imuCharacteristic = c.imuCharacteristic := by
  cases statement with
  | createService => exact absurd rfl other
  | enterPairing => rfl
  | _ => rfl

private theorem handleConnect_imuCharacteristic (c : Controller) (millis : UInt32) :
    (c.handleConnect millis).imuCharacteristic = c.imuCharacteristic := by
  rw [Controller.handleConnect]
  split <;> rfl

private theorem handleDisconnect_imuCharacteristic (c : Controller) (millis : UInt32) :
    (c.handleDisconnect millis).imuCharacteristic = c.imuCharacteristic := by
  rw [Controller.handleDisconnect]
  split <;> rfl

private theorem createService_not_mem_tail {statement : Statement} {rest : List Statement}
    (suffix : statement :: rest <:+ beginStatements) (first : statement = .createService) : .createService ∉ rest := by
  subst first
  simp only [beginStatements, List.suffix_cons_iff, List.cons.injEq, List.suffix_nil] at suffix
  rcases suffix with ⟨⟨⟩, rfl⟩ | ⟨⟨⟩, rfl⟩ | ⟨⟨⟩, rfl⟩ | ⟨_, rfl⟩ | ⟨⟨⟩, rfl⟩ | ⟨⟨⟩, rfl⟩ | ⟨⟨⟩, rfl⟩ |
    ⟨⟨⟩, rfl⟩ | ⟨⟨⟩, rfl⟩ | ⟨⟨⟩, rfl⟩ | ⟨⟨⟩⟩
  decide

/-- An event that sends nothing and leaves the service and the characteristic alone. -/
private theorem Board.Serves.idle {b after : Board} {event : BoardEvent} (serves : b.Serves)
    (silent : b.sends event = none) (pending : .createService ∈ after.pending ↔ .createService ∈ b.pending)
    (same : after.controller.imuCharacteristic = b.controller.imuCharacteristic) :
    after.Serves ∧ after.onAir = b.onAir ++ (b.sends event).toList.map buildImuText := by
  refine ⟨⟨fun later => same.trans (serves.silent (pending.mp later)), ?_, ?_⟩, ?_⟩
  · intro gone
    rw [same]
    exact serves.made (mt pending.mpr gone)
  · rw [same]
    exact serves.current
  · simp [silent, Board.onAir, same]

private theorem tick_onAir {b : Board} (serves : b.Serves) (begun : b.begun = true) (millis now : UInt32)
    (readRegs : Option (Vector UInt8 14)) (sampleMs : UInt32) {after : Board}
    (ticked : after = { b with controller := b.controller.tick millis now readRegs sampleMs }) :
    after.Serves ∧
      after.onAir = b.onAir ++ (b.sends (.tick millis now readRegs sampleMs)).toList.map buildImuText := by
  subst ticked
  have outcome : b.outcome (.tick millis now readRegs sampleMs) = b.controller.outcome now readRegs sampleMs :=
    if_pos begun
  have served : .createService ∉ b.pending := by
    rw [List.isEmpty_iff.mp begun]
    exact List.not_mem_nil
  rcases tick_imuCharacteristic b.controller millis now readRegs sampleMs with
    ⟨other, same⟩ | ⟨streamed, sample, read, pushed⟩
  · have silent : b.sends (.tick millis now readRegs sampleMs) = none := by
      rw [Board.sends, outcome, if_neg other]
    exact serves.idle silent Iff.rfl same
  · have sends : b.sends (.tick millis now readRegs sampleMs) = some sample := by
      rw [Board.sends, outcome, if_pos streamed, read]
    obtain ⟨characteristic, present⟩ := Option.isSome_iff_exists.mp (serves.made served)
    refine ⟨⟨fun later => absurd later served, fun _ => ?_, ?_⟩, ?_⟩
    · rw [pushed, present]
      rfl
    · rw [pushed, present]
      rintro _ ⟨⟩
      rfl
    · simp [sends, Board.onAir, pushed, present]

/-- An event keeps the service and pushes the line of the sample it sends. -/
private theorem Board.next_onAir {b : Board} (wired : b.Wired) (serves : b.Serves) (event : BoardEvent) :
    (b.next event).Serves ∧ (b.next event).onAir = b.onAir ++ (b.sends event).toList.map buildImuText := by
  cases event with
  | statement surroundings =>
    rw [Board.next]
    cases first : b.pending with
    | nil => exact serves.idle rfl Iff.rfl rfl
    | cons statement rest =>
      by_cases creates : statement = .createService
      · have suffix := wired.suffix
        rw [first] at suffix
        have gone := createService_not_mem_tail suffix creates
        have before : b.controller.imuCharacteristic = none := serves.silent (by rw [first, creates]; simp)
        subst creates
        have zeros : "IMU,0,0,0,0,0,0,0,0".toList = buildImuText {} := by decide
        refine ⟨⟨fun later => absurd later gone, fun _ => rfl, ?_⟩, ?_⟩
        · rintro _ ⟨⟩
          exact zeros
        · simp [Board.onAir, before, Board.sends, Controller.execute]
      · refine serves.idle rfl ?_ (execute_imuCharacteristic _ _ creates)
        rw [first, List.mem_cons, or_iff_right (Ne.symm creates)]
  | connect millis =>
    unfold Board.next
    dsimp only
    split_ifs
    · exact serves.idle rfl Iff.rfl (handleConnect_imuCharacteristic _ _)
    · exact serves.idle rfl Iff.rfl rfl
  | disconnect millis =>
    unfold Board.next
    dsimp only
    split_ifs
    · exact serves.idle rfl Iff.rfl (handleDisconnect_imuCharacteristic _ _)
    · exact serves.idle rfl Iff.rfl rfl
  | tick millis now readRegs sampleMs =>
    unfold Board.next
    dsimp only
    split_ifs with begun
    · exact tick_onAir serves begun millis now readRegs sampleMs rfl
    · have silent : b.sends (.tick millis now readRegs sampleMs) = none := by
        rw [Board.sends, Board.outcome, if_neg begun, if_neg (by decide)]
      exact serves.idle silent Iff.rfl rfl

private theorem foldl_wired (earlier : List BoardEvent) : (earlier.foldl Board.next {}).Wired := by
  have wired : (boardAt earlier earlier.length).Wired := boardAt_wired le_rfl
  rwa [boardAt, Machine.trajectory, List.take_length] at wired

/-- Behind earlier events, further ones push the lines of the samples they send, in order. -/
private theorem foldl_onAir (events earlier : List BoardEvent) (serves : (earlier.foldl Board.next {}).Serves) :
    ((earlier ++ events).foldl Board.next {}).onAir =
      (earlier.foldl Board.next {}).onAir ++
        ((earlier.foldl Board.next {}).sentSamples events).map buildImuText := by
  induction events generalizing earlier with
  | nil => simp [Board.sentSamples]
  | cons event rest ih =>
    obtain ⟨still, pushed⟩ := Board.next_onAir (foldl_wired earlier) serves event
    have after : (earlier ++ [event]).foldl Board.next {} = (earlier.foldl Board.next {}).next event := by simp
    rw [← after] at still pushed
    have later := ih (earlier ++ [event]) still
    rw [List.append_assoc, List.singleton_append] at later
    rw [later, pushed, after, Board.sentSamples]
    simp

private theorem serves_init : Board.Serves {} := ⟨fun _ => rfl, fun gone => absurd (by decide) gone, nofun⟩

/-- Everything that was ever on the air is the line of a sample the board read, in the order of the reads. -/
theorem boardAt_onAir (events : List BoardEvent) :
    (boardAt events events.length).onAir = (Board.sentSamples {} events).map buildImuText := by
  have pushed := foldl_onAir events [] serves_init
  rw [boardAt, Machine.trajectory, List.take_length]
  exact pushed

private theorem boardAt_serves (events : List BoardEvent) : (boardAt events events.length).Serves := by
  refine Machine.trajectory_invariant Board.next {} events (fun _ b => b.Serves) serves_init ?_ _ le_rfl
  intro k event present serves
  have wired : (boardAt events k).Wired := boardAt_wired (List.getElem?_eq_some_iff.mp present).1.le
  exact (Board.next_onAir wired serves event).1

private theorem Board.sentSamples_append (b : Board) (events later : List BoardEvent) :
    b.sentSamples (events ++ later) = b.sentSamples events ++ (events.foldl Board.next b).sentSamples later := by
  induction events generalizing b with
  | nil => rfl
  | cons event rest ih => simp only [List.cons_append, Board.sentSamples, ih, List.append_assoc, List.foldl_cons]

/-- The value of the characteristic is at any time the line of a sample that has been sent, or one of zeros. -/
theorem boardAt_value {events : List BoardEvent} {k : ℕ} {characteristic : Characteristic}
    (shown : (boardAt events k).controller.imuCharacteristic = some characteristic) :
    ∃ sample, characteristic.value = buildImuText sample ∧
      (sample = {} ∨ sample ∈ Board.sentSamples {} events) := by
  have here : boardAt events k = boardAt (events.take k) (events.take k).length := by
    rw [boardAt, boardAt, Machine.trajectory, Machine.trajectory, List.take_length]
  rw [here] at shown
  have current := (boardAt_serves (events.take k)).current characteristic shown
  have air := boardAt_onAir (events.take k)
  rw [Board.onAir, shown, Option.map_some, Option.getD_some, List.reverse_eq_iff] at air
  rw [air, List.head?_reverse, List.getLast?_map] at current
  cases last : (Board.sentSamples {} (events.take k)).getLast? with
  | none =>
    rw [last] at current
    exact ⟨{}, current, .inl rfl⟩
  | some sample =>
    rw [last] at current
    have whole : Board.sentSamples {} events = Board.sentSamples {} (events.take k ++ events.drop k) := by
      rw [List.take_append_drop]
    refine ⟨sample, current, .inr ?_⟩
    rw [whole, Board.sentSamples_append]
    exact List.mem_append_left _ (List.mem_of_getLast? last)

end Firmware

namespace Pipeline

variable (m : Numerics) (rate : TickRate)

/-- The client that is handed a sample instead of a text. -/
def Client.sense (c : Client) (reading : Readings × ImuRawSample) : Client × List Gesture.Event :=
  let (autoCalibrator, calibrated) := c.autoCalibrator.update reading.2
  match tryBuildPoseFromCalibratedGravity m calibrated with
  | none => ({ c with autoCalibrator }, [])
  | some pose =>
    let (detector, raised) :=
      updateGestureAndMaybeSendHotkey rate c.detector
        (frameOf m reading.1 { rawPayload := [], raw := reading.2, calibrated, pose })
    ({ autoCalibrator, detector }, raised)

/-- The client behind a list of samples, with everything the detector raised. -/
def Client.senseAll (c : Client) : List (Readings × ImuRawSample) → Client × List Gesture.Event
  | [] => (c, [])
  | reading :: rest =>
    let (middle, raised) := c.sense m rate reading
    let (last, later) := middle.senseAll rest
    (last, raised ++ later)

/-- The sample of a notification, if it can be read. -/
def readArrival (arrival : Readings × List UInt8) : Option (Readings × ImuRawSample) :=
  (tryParseImuRaw (bufferToUtf8OrHex arrival.2)).map fun raw => (arrival.1, raw)

/-- The events of the detector among those of the client. -/
def gestureEvents (raised : List ClientEvent) : List Gesture.Event :=
  raised.filterMap fun
    | .gesture event => some event
    | _ => none

/-- How many texts were reported as failed. -/
def failures (raised : List ClientEvent) : ℕ :=
  raised.countP fun
    | .imuFrameProcessingFailed _ _ => true
    | _ => false

@[simp] theorem gestureEvents_append (raised later : List ClientEvent) :
    gestureEvents (raised ++ later) = gestureEvents raised ++ gestureEvents later :=
  List.filterMap_append

@[simp] theorem failures_append (raised later : List ClientEvent) :
    failures (raised ++ later) = failures raised + failures later :=
  List.countP_append

private theorem gestureEvents_map (raised : List Gesture.Event) : gestureEvents (raised.map .gesture) = raised := by
  rw [gestureEvents, List.filterMap_map]
  exact List.filterMap_some

private theorem failures_map (raised : List Gesture.Event) : failures (raised.map .gesture) = 0 := by
  rw [failures, List.countP_map, List.countP_eq_zero]
  intro event _
  simp

/-- A text that cannot be read is reported and changes nothing. -/
private theorem handleImuPayloadText_unreadable (c : Client) (now : Readings) {payload : List Char}
    (unreadable : tryParseImuRaw payload = none) :
    c.handleImuPayloadText m rate now payload =
      (c, [.imuPayloadReceived payload, .imuFrameProcessingFailed .parseFailed payload]) := by
  rw [Client.handleImuPayloadText, process, unreadable]

/-- A text that can be read does what its sample does. -/
private theorem handleImuPayloadText_readable (c : Client) (now : Readings) {payload : List Char} {raw : ImuRawSample}
    (readable : tryParseImuRaw payload = some raw) :
    (c.handleImuPayloadText m rate now payload).1 = (c.sense m rate (now, raw)).1 ∧
      gestureEvents (c.handleImuPayloadText m rate now payload).2 = (c.sense m rate (now, raw)).2 ∧
      failures (c.handleImuPayloadText m rate now payload).2 = 0 := by
  rw [Client.handleImuPayloadText, process, readable]
  refine ⟨rfl, ?_, ?_⟩
  · exact gestureEvents_map _
  · exact failures_map _

/-- The client and its gesture events are those of the readable notifications alone; each of the others is
reported once. -/
theorem Client.receive_eq_senseAll (c : Client) (arrivals : List (Readings × List UInt8)) :
    (c.receive m rate arrivals).1 = (c.senseAll m rate (arrivals.filterMap readArrival)).1 ∧
      gestureEvents (c.receive m rate arrivals).2 = (c.senseAll m rate (arrivals.filterMap readArrival)).2 ∧
      failures (c.receive m rate arrivals).2 + (arrivals.filterMap readArrival).length = arrivals.length := by
  induction arrivals generalizing c with
  | nil => exact ⟨rfl, rfl, rfl⟩
  | cons arrival rest ih =>
    cases read : tryParseImuRaw (bufferToUtf8OrHex arrival.2) with
    | none =>
      have skipped : readArrival arrival = none := by rw [readArrival, read]; rfl
      obtain ⟨state, events, count⟩ := ih c
      rw [Client.receive, Client.imuCharacteristicValueChanged, handleImuPayloadText_unreadable m rate c arrival.1 read,
        List.filterMap_cons_none skipped]
      refine ⟨state, ?_, ?_⟩
      · rw [gestureEvents_append, events]
        rfl
      · rw [failures_append, List.length_cons]
        change 1 + _ + _ = _
        omega
    | some raw =>
      have taken : readArrival arrival = some (arrival.1, raw) := by rw [readArrival, read]; rfl
      obtain ⟨here, raised, clean⟩ := handleImuPayloadText_readable m rate c arrival.1 read
      obtain ⟨state, events, count⟩ := ih (c.sense m rate (arrival.1, raw)).1
      rw [Client.receive, Client.imuCharacteristicValueChanged, List.filterMap_cons_some taken, Client.senseAll]
      dsimp only
      rw [here]
      refine ⟨state, ?_, ?_⟩
      · rw [gestureEvents_append, raised, events]
      · rw [failures_append, clean, List.length_cons, List.length_cons]
        omega

/-- The samples of the frames among the events of the client. -/
def frames (raised : List ClientEvent) : List ImuRawSample :=
  raised.filterMap fun
    | .imuFrameProcessed result => some result.raw
    | _ => none

@[simp] theorem frames_append (raised later : List ClientEvent) :
    frames (raised ++ later) = frames raised ++ frames later :=
  List.filterMap_append

private theorem frames_map (raised : List Gesture.Event) : frames (raised.map .gesture) = [] := by
  rw [frames, List.filterMap_map, List.filterMap_eq_nil_iff]
  intro event _
  rfl

/-- There is a frame for every readable notification, with its sample. -/
theorem Client.receive_frames (c : Client) (arrivals : List (Readings × List UInt8)) :
    frames (c.receive m rate arrivals).2 = (arrivals.filterMap readArrival).map Prod.snd := by
  induction arrivals generalizing c with
  | nil => rfl
  | cons arrival rest ih =>
    rw [Client.receive, Client.imuCharacteristicValueChanged]
    dsimp only
    rw [frames_append, ih]
    cases read : tryParseImuRaw (bufferToUtf8OrHex arrival.2) with
    | none =>
      have skipped : readArrival arrival = none := by rw [readArrival, read]; rfl
      rw [handleImuPayloadText_unreadable m rate c arrival.1 read, List.filterMap_cons_none skipped]
      rfl
    | some raw =>
      have taken : readArrival arrival = some (arrival.1, raw) := by rw [readArrival, read]; rfl
      rw [Client.handleImuPayloadText, process, read, List.filterMap_cons_some taken, List.map_cons]
      change (raw :: frames (_ : List ClientEvent)) ++ _ = _
      rw [frames_map]
      rfl

/-- Neither the calibrator nor the detector looks at the temperature. -/
private theorem sense_temp (c : Client) (now : Readings) (raw : ImuRawSample) (temp : ℤ) :
    c.sense m rate (now, { raw with temp }) = c.sense m rate (now, raw) := rfl

variable {m rate} in
private theorem senseAll_congr {readings readings' : List (Readings × ImuRawSample)}
    (alike : List.Forall₂ (fun reading reading' => ∀ c, Client.sense m rate c reading = c.sense m rate reading')
      readings readings') (c : Client) : c.senseAll m rate readings = c.senseAll m rate readings' := by
  induction alike generalizing c with
  | nil => rfl
  | cons same _ ih => simp only [Client.senseAll, same c, ih]

/-- The readable arrivals are the sent samples of a sublist, but for their temperatures. -/
theorem exists_sensed {arrivals : List (Readings × List UInt8)} {samples : List ImuSample}
    (delivered : List.SublistForall₂ (fun arrival sample => arrival.2 <+: asciiBytes (buildImuText sample))
      arrivals samples) :
    ∃ sensed : List (Readings × ImuSample), (sensed.map Prod.snd).Sublist samples ∧
      (sensed.map Prod.fst).Sublist (arrivals.map Prod.fst) ∧
      List.Forall₂ (fun reading s => ∃ temp, reading = (s.1, { s.2.sent with temp }))
        (arrivals.filterMap readArrival) sensed := by
  induction delivered with
  | nil => exact ⟨[], List.nil_sublist _, List.nil_sublist _, .nil⟩
  | @cons arrival sample arrivals samples cut _ ih =>
    obtain ⟨sensed, ofSamples, ofArrivals, read⟩ := ih
    cases here : tryParseImuRaw (bufferToUtf8OrHex arrival.2) with
    | none =>
      refine ⟨sensed, ofSamples.cons _, ofArrivals.cons _, ?_⟩
      rwa [List.filterMap_cons_none (by rw [readArrival, here]; rfl)]
    | some raw =>
      refine ⟨(arrival.1, sample) :: sensed, ofSamples.cons_cons _, ofArrivals.cons_cons _, ?_⟩
      rw [List.filterMap_cons_some (b := (arrival.1, raw)) (by rw [readArrival, here]; rfl)]
      refine .cons ⟨raw.temp, ?_⟩ read
      rw [← motion_of_arrived cut here]
  | cons_right _ ih =>
    obtain ⟨sensed, ofSamples, rest⟩ := ih
    exact ⟨sensed, ofSamples.cons _, rest⟩

theorem readArrival_of_whole {arrival : Readings × List UInt8} {sample : ImuSample}
    (whole : arrival.2 = asciiBytes (buildImuText sample)) : readArrival arrival = some (arrival.1, sample.sent) := by
  rw [readArrival, whole, tryParseImuRaw_buildImuText]
  rfl

/-- Lines that arrive whole are all readable. -/
private theorem filterMap_length_of_whole {arrivals : List (Readings × List UInt8)} {samples : List ImuSample}
    (delivered : List.SublistForall₂ (fun arrival sample => arrival.2 = asciiBytes (buildImuText sample))
      arrivals samples) : (arrivals.filterMap readArrival).length = arrivals.length := by
  induction delivered with
  | nil => rfl
  | @cons arrival sample arrivals samples whole _ ih =>
    rw [List.filterMap_cons_some (readArrival_of_whole whole), List.length_cons, List.length_cons, ih]
  | cons_right _ ih => exact ih

/-- Whatever the link loses and cuts, the client and everything its detector raises are those of a client that
is handed samples the board has sent, in the order of the reads; only cut lines are ever reported as failed. -/
theorem sensor_to_gesture (events : List BoardEvent) (arrivals : List (Readings × List UInt8))
    (delivered : List.SublistForall₂ (fun arrival text => arrival.2 <+: asciiBytes text) arrivals
      (boardAt events events.length).onAir) :
    (∃ sensed : List (Readings × ImuSample),
      (sensed.map Prod.snd).Sublist (Board.sentSamples {} events) ∧
      (sensed.map Prod.fst).Sublist (arrivals.map Prod.fst) ∧
      (Client.receive m rate {} arrivals).1 = (Client.senseAll m rate {} (sensed.map fun s => (s.1, s.2.sent))).1 ∧
      gestureEvents (Client.receive m rate {} arrivals).2 =
        (Client.senseAll m rate {} (sensed.map fun s => (s.1, s.2.sent))).2 ∧
      failures (Client.receive m rate {} arrivals).2 + sensed.length = arrivals.length) ∧
    (List.SublistForall₂ (fun arrival text => arrival.2 = asciiBytes text) arrivals
        (boardAt events events.length).onAir →
      failures (Client.receive m rate {} arrivals).2 = 0) := by
  rw [boardAt_onAir, List.sublistForall₂_map_right_iff] at delivered
  obtain ⟨state, raised, count⟩ := Client.receive_eq_senseAll m rate {} arrivals
  constructor
  · obtain ⟨sensed, ofSamples, ofArrivals, read⟩ := exists_sensed delivered
    have alike : List.Forall₂ (fun reading reading' => ∀ c, Client.sense m rate c reading = c.sense m rate reading')
        (arrivals.filterMap readArrival) (sensed.map fun s => (s.1, s.2.sent)) := by
      rw [List.forall₂_map_right_iff]
      refine read.imp ?_
      rintro _ s ⟨temp, rfl⟩ c
      exact sense_temp m rate c s.1 s.2.sent temp
    have same := senseAll_congr alike {}
    refine ⟨sensed, ofSamples, ofArrivals, ?_, ?_, ?_⟩
    · rw [state, same]
    · rw [raised, same]
    · rw [← read.length_eq]
      exact count
  · intro whole
    rw [boardAt_onAir, List.sublistForall₂_map_right_iff] at whole
    rw [filterMap_length_of_whole whole] at count
    omega

/-- Roots of squares are exact; the angle of a vector along the axis is zero. -/
def axisNumerics : Numerics where
  sqrt q := Nat.sqrt q.num.toNat / Nat.sqrt q.den
  atan2 _ _ := 0
  radToDeg := 57.29577951308232

/-- A board at rest that streams two samples. -/
def restingBoard : List BoardEvent :=
  undisturbedStart ++
    [.tick 520 520 (some #v[0, 0, 0, 0, 64, 0, 0, 0, 0, 0, 0, 0, 0, 0]) 520,
      .tick 540 540 (some #v[0, 0, 0, 0, 64, 0, 0, 0, 0, 0, 0, 0, 0, 0]) 540]

/-- The first line is lost and the second arrives. -/
theorem sensor_to_gesture_restingBoard :
    failures (Client.receive axisNumerics ⟨10000000, by decide⟩ {}
      [({ ticks := 5400000 }, asciiBytes "IMU,540,0,0,16384,0,0,0,0".toList)]).2 = 0 := by
  have onAir : (boardAt restingBoard restingBoard.length).onAir =
      ["IMU,520,0,0,16384,0,0,0,0".toList, "IMU,540,0,0,16384,0,0,0,0".toList] := by decide
  refine (sensor_to_gesture axisNumerics _ restingBoard _ ?_).2 ?_
  · rw [onAir]
    exact .cons_right (.cons (List.prefix_refl _) .nil)
  · rw [onAir]
    exact .cons_right (.cons rfl .nil)

end Pipeline

end GestureSuite
