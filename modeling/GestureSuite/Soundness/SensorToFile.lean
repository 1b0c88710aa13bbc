import GestureSuite.Soundness.Pipeline
import GestureSuite.Soundness.SdkSample

/-! # From the sensor to the file

The chain of the sample window as a whole: the board reads samples and pushes their lines, the link loses and cuts
some, the client turns what arrives into frames, and the window records the frames on its own thread. Each connect
also ends with a read of the characteristic, which the client handles like a notification. What stands in the file
at the end are samples of the board, in the order it read them, and the answers to the reads between them.
-/

namespace GestureSuite.SdkSample

open Text Recorder Window Firmware Host

section Raised

variable (double : ℚ → Double)

/-- A frame as the window is handed it. -/
def shownFrame (result : Pipeline.ImuProcessingResult) : Window.ImuProcessingResult where
  raw := result.raw
  isReady := result.calibrated.isReady
  roll := double result.pose.roll
  pitch := double result.pose.pitch
  yaw := double result.pose.yaw
  rawPayload := utf16Encode result.rawPayload

/-- What the window makes of an event of the client's IMU texts; a change of the gesture state and the notice of
a hotkey are only displayed. -/
def shownEvent : Pipeline.ClientEvent → Option ClientEvent
  | .imuPayloadReceived payload => some (.imuPayloadReceived (utf16Encode payload))
  | .imuFrameProcessed result => some (.imuFrameProcessed (shownFrame double result))
  | .imuFrameProcessingFailed status payload => some (.imuFrameProcessingFailed status (utf16Encode payload))
  | .gesture (.gestureTriggered result) => some (.gestureTriggered result)
  | .gesture _ => none

end Raised

namespace ClientEvent

/-- The events that come from the IMU texts. -/
def isStream : ClientEvent → Bool
  | .connectionStateChanged _ => false
  | .statusPayloadReceived _ => false
  | _ => true

/-- The sample of a frame. -/
def sample? : ClientEvent → Option ImuRawSample
  | .imuFrameProcessed frame => some frame.raw
  | _ => none

end ClientEvent

private theorem filterMap_shownEvent (double : ℚ → Double) (raised : List Pipeline.ClientEvent) :
    (raised.filterMap (shownEvent double)).filterMap ClientEvent.sample? = Pipeline.frames raised := by
  rw [List.filterMap_filterMap, Pipeline.frames]
  refine List.filterMap_congr fun event _ => ?_
  cases event with
  | gesture event => cases event <;> rfl
  | _ => rfl

private theorem filterMap_isStream (raised : List ClientEvent) :
    (raised.filter ClientEvent.isStream).filterMap ClientEvent.sample? = raised.filterMap ClientEvent.sample? := by
  rw [List.filterMap_filter]
  refine List.filterMap_congr fun event _ => ?_
  cases event <;> rfl

/-- The accelerations and rates of a line, as they are logged. -/
def motion : LogCall → Option (List (Option ℤ))
  | .logImu _ ax ay az gx gy gz _ _ _ _ _ => some [ax, ay, az, gx, gy, gz]
  | _ => none

/-- The accelerations and rates of a sample. -/
def motionOf (raw : ImuRawSample) : List (Option ℤ) :=
  [some raw.ax, some raw.ay, some raw.az, some raw.gx, some raw.gy, some raw.gz]

/-- The samples of the frames that were handled. -/
def samples (handled : List Handled) : List ImuRawSample :=
  (handled.filterMap (·.action.event?)).filterMap ClientEvent.sample?

private theorem calls_motion (before : List Handled) (h : Handled) :
    (h.calls before).filterMap motion = (samples [h]).map motionOf := by
  obtain ⟨action, now, isConnected⟩ := h
  cases action with
  | event event => cases event <;> rfl
  | delayOver validation => rfl
  | check validation =>
    rw [Handled.calls]
    dsimp only
    split
    · cases diagnosis before <;> rfl
    · rfl

/-- The lines with a sample are those of the frames. -/
private theorem transcript_motion (before handled : List Handled) :
    (transcript before handled).filterMap (fun line => motion line.2) = (samples handled).map motionOf := by
  induction handled generalizing before with
  | nil => rfl
  | cons h rest ih =>
    have first : ((h.calls before).map fun call => (h.now, call)).filterMap (fun line => motion line.2) =
        (samples [h]).map motionOf := by
      rw [List.filterMap_map, ← calls_motion before h]
      rfl
    have both : samples (h :: rest) = samples [h] ++ samples rest := by
      rw [samples, samples, samples, ← List.filterMap_append, ← List.filterMap_append]
      rfl
    rw [transcript, List.filterMap_append, ih, first, both, List.map_append]

/-- How a value of the characteristic comes to the client: pushed by the board, or as the answer to the read that
ends a connect. -/
inductive Origin where
  | notification
  | read
deriving DecidableEq, Repr

/-- A value on its way to the client: its bytes, and what the client reads from the system as it handles them. -/
structure Delivery where
  origin : Origin
  readings : Pipeline.Readings
  bytes : List UInt8
deriving DecidableEq, Repr

/-- The client handles both kinds alike. -/
def Delivery.arrival (delivery : Delivery) : Pipeline.Readings × List UInt8 := (delivery.readings, delivery.bytes)

/-- What has been pushed, of things that carry their origin. -/
def pushed {α : Type*} (carried : List (Origin × α)) : List α :=
  carried.filterMap fun c => if c.1 = .notification then some c.2 else none

/-- The bytes of the notifications. -/
def notifications (deliveries : List Delivery) : List (List UInt8) :=
  pushed (deliveries.map fun delivery => (delivery.origin, delivery.bytes))

/-- The answer to a read is the value the characteristic has at some moment of the board's run, or what arrives
of it. -/
def Delivery.Answers (events : List BoardEvent) (delivery : Delivery) : Prop :=
  ∃ k characteristic, (boardAt events k).controller.imuCharacteristic = some characteristic ∧
    delivery.bytes <+: asciiBytes characteristic.value

/-- What is delivered is the line of the sample, or a part of it. -/
def Delivery.Carries (delivery : Delivery) (line : Origin × ImuSample) : Prop :=
  delivery.origin = line.1 ∧ delivery.bytes <+: asciiBytes (buildImuText line.2)

/-- Lines of a file, with the samples they show and where they come from. -/
structure Accounts (events : List BoardEvent) (deliveries : List Delivery) (lines : List (Origin × ImuSample)) :
    Prop where
  /-- Each line belongs to a delivery of its own, in the order of the deliveries. -/
  delivered : List.SublistForall₂ (fun line delivery => delivery.Carries line) lines deliveries
  /-- What has been pushed are samples the board has sent, in its order and each once. -/
  sent : (pushed lines).Sublist (Board.sentSamples {} events)
  /-- What has been read is a sample the board has sent, or the zeros in front of its first one. -/
  shown : ∀ line ∈ lines, line.1 = .read → line.2 = {} ∨ line.2 ∈ Board.sentSamples {} events

private theorem pushed_notification {α : Type*} (a : α) (rest : List (Origin × α)) :
    pushed ((.notification, a) :: rest) = a :: pushed rest := rfl

/-- A delivery that has been cut from a line cannot be read, or is read as the sample of the line but for the
temperature; if it is whole, it can be read. -/
private theorem arrival_cases {delivery : Delivery} {sample : ImuSample}
    (piece : delivery.bytes <+: asciiBytes (buildImuText sample)) (rest : List Delivery) :
    (delivery.bytes ≠ asciiBytes (buildImuText sample) ∧
      ((delivery :: rest).map Delivery.arrival).filterMap Pipeline.readArrival =
        (rest.map Delivery.arrival).filterMap Pipeline.readArrival) ∨
      ∃ raw, (∃ temp, raw = { sample.sent with temp }) ∧
        ((delivery :: rest).map Delivery.arrival).filterMap Pipeline.readArrival =
          (delivery.readings, raw) :: (rest.map Delivery.arrival).filterMap Pipeline.readArrival := by
  have arrives : Pipeline.readArrival delivery.arrival =
      (tryParseImuRaw (bufferToUtf8OrHex delivery.bytes)).map fun raw => (delivery.readings, raw) := rfl
  cases here : tryParseImuRaw (bufferToUtf8OrHex delivery.bytes) with
  | none =>
    rw [here] at arrives
    refine .inl ⟨fun whole => ?_, List.filterMap_cons_none arrives⟩
    rw [whole, tryParseImuRaw_buildImuText] at here
    cases here
  | some raw =>
    rw [here] at arrives
    exact .inr ⟨raw, ⟨raw.temp, motion_of_arrived piece here⟩, List.filterMap_cons_some arrives⟩

/-- The deliveries that can be read are the lines of a file, but for the temperatures; and none of the notifications
is missing if all of them are whole. -/
private theorem exists_lines {events : List BoardEvent} {deliveries : List Delivery} {sent : List ImuSample}
    (cut : List.Forall₂ (fun bytes sample => bytes <+: asciiBytes (buildImuText sample)) (notifications deliveries)
      sent)
    (answers : ∀ delivery ∈ deliveries, delivery.origin = .read → delivery.Answers events) :
    ∃ lines : List (Origin × ImuSample),
      List.SublistForall₂ (fun line delivery => delivery.Carries line) lines deliveries ∧
      (pushed lines).Sublist sent ∧
      (∀ line ∈ lines, line.1 = .read → line.2 = {} ∨ line.2 ∈ Board.sentSamples {} events) ∧
      List.Forall₂ (fun reading line => ∃ temp, reading.2 = { line.2.sent with temp })
        ((deliveries.map Delivery.arrival).filterMap Pipeline.readArrival) lines ∧
      (List.Forall₂ (fun bytes sample => bytes = asciiBytes (buildImuText sample)) (notifications deliveries) sent →
        pushed lines = sent) := by
  induction deliveries generalizing sent with
  | nil =>
    cases cut
    exact ⟨[], .nil, .slnil, nofun, .nil, fun _ => rfl⟩
  | cons delivery rest ih =>
    obtain ⟨origin, readings, bytes⟩ := delivery
    have answersRest : ∀ delivery ∈ rest, delivery.origin = .read → delivery.Answers events :=
      fun delivery member => answers delivery (List.mem_cons_of_mem _ member)
    cases origin with
    | notification =>
      change List.Forall₂ _ (bytes :: notifications rest) sent at cut
      obtain ⟨sample, later, piece, cutRest, rfl⟩ := List.forall₂_cons_left_iff.mp cut
      obtain ⟨lines, delivered, ofSent, shown, read, all⟩ := ih cutRest answersRest
      rcases @arrival_cases ⟨.notification, readings, bytes⟩ sample piece rest with
        ⟨part, skipped⟩ | ⟨raw, motion, taken⟩
      · rw [skipped]
        exact ⟨lines, delivered.cons_right, ofSent.cons _, shown, read,
          fun whole => absurd (List.forall₂_cons.mp whole).1 part⟩
      · rw [taken]
        refine ⟨(.notification, sample) :: lines, .cons ⟨rfl, piece⟩ delivered, ofSent.cons_cons _, ?_,
          .cons motion read, ?_⟩
        · rintro line (_ | ⟨_, member⟩) isRead
          · cases isRead
          · exact shown line member isRead
        · intro whole
          rw [pushed_notification, all (List.forall₂_cons.mp whole).2]
    | read =>
      obtain ⟨k, characteristic, value, piece⟩ := answers _ List.mem_cons_self rfl
      obtain ⟨sample, text, known⟩ := boardAt_value value
      rw [text] at piece
      obtain ⟨lines, delivered, ofSent, shown, read, all⟩ := ih cut answersRest
      rcases arrival_cases piece rest with ⟨-, skipped⟩ | ⟨raw, motion, taken⟩
      · rw [skipped]
        exact ⟨lines, delivered.cons_right, ofSent, shown, read, all⟩
      · rw [taken]
        refine ⟨(.read, sample) :: lines, .cons ⟨rfl, piece⟩ delivered, ofSent, ?_, .cons motion read, all⟩
        rintro line (_ | ⟨_, member⟩) isRead
        · exact known
        · exact shown line member isRead

private theorem map_motionOf_of_lines {readings : List (Pipeline.Readings × ImuRawSample)}
    {lines : List (Origin × ImuSample)}
    (read : List.Forall₂ (fun reading line => ∃ temp, reading.2 = { line.2.sent with temp }) readings lines) :
    (readings.map Prod.snd).map motionOf = lines.map fun line => motionOf line.2.sent := by
  induction read with
  | nil => rfl
  | cons same _ ih =>
    obtain ⟨temp, same⟩ := same
    simp only [List.map_cons, ih, same]
    rfl

/-- The first lines of a file are lines of a file. -/
private theorem Accounts.take {events : List BoardEvent} {deliveries : List Delivery}
    {lines : List (Origin × ImuSample)} (accounts : Accounts events deliveries lines) (count : ℕ) :
    Accounts events deliveries (lines.take count) where
  delivered := by
    obtain ⟨kept, alike, ofDeliveries⟩ := List.sublistForall₂_iff.mp accounts.delivered
    exact List.sublistForall₂_iff.mpr
      ⟨kept.take count, List.forall₂_take count alike, (List.take_sublist _ _).trans ofDeliveries⟩
  sent := ((List.take_sublist _ _).filterMap _).trans accounts.sent
  shown line member := accounts.shown line (List.mem_of_mem_take member)

/-- The lines of the file that carry a sample are accounted for by what the board has sent and shown: each comes from
a notification, in the order of the samples and each once, or from a read. The notified ones are all the samples, if
the link loses and cuts nothing and the window has handled everything before it stops. -/
theorem sensor_to_file (m : Pipeline.Numerics) (double : ℚ → Double) (p : Platform)
    (files : NetString → Option NetString) (opening : Opening) (events : List BoardEvent)
    (deliveries : List Delivery)
    (delivered : List.SublistForall₂ (fun bytes text => bytes <+: asciiBytes text) (notifications deliveries)
      (boardAt events events.length).onAir)
    (answers : ∀ delivery ∈ deliveries, delivery.origin = .read → delivery.Answers events)
    (s : BleSdkSampleWindow) (reached : (sampleWindow p files opening).Reachable s)
    (streamed : s.raised.filter ClientEvent.isStream =
      (Pipeline.Client.receive m p.rate {} (deliveries.map Delivery.arrival)).2.filterMap (shownEvent double))
    (stop : ClockReads) (stopped : s.stopped = some stop) :
    s.records.files (p.fs.key (recordPath p opening)) = some ((session opening s.recorded stop).file p.formats) ∧
      ∃ lines, Accounts events deliveries lines ∧
        (session opening s.recorded stop).calls.filterMap (fun line => motion line.2) =
          (lines.map fun line => motionOf line.2.sent) ∧
        (List.Forall₂ (fun bytes text => bytes = asciiBytes text) (notifications deliveries)
            (boardAt events events.length).onAir →
          s.late = [] → s.queue = [] → pushed lines = Board.sentSamples {} events) := by
  have recorded : Recorded p opening s := recorded_of_reachable reached
  have written : (session opening s.recorded stop).calls.filterMap (fun line => motion line.2) =
      (samples s.recorded).map motionOf := transcript_motion [] s.recorded
  have raised : samples s.recorded ++ (samples s.late ++
      (s.queue.filterMap UiAction.event?).filterMap ClientEvent.sample?) =
      ((deliveries.map Delivery.arrival).filterMap Pipeline.readArrival).map Prod.snd := by
    rw [← Pipeline.Client.receive_frames m p.rate {}, ← filterMap_shownEvent double, ← streamed, filterMap_isStream,
      recorded.events, samples, samples, List.filterMap_append, List.filterMap_append, List.filterMap_append,
      List.append_assoc]
  rw [boardAt_onAir, List.sublistForall₂_map_right_iff] at delivered
  rw [boardAt_onAir, List.forall₂_map_right_iff]
  -- The notifications are those of all samples if they are whole and none is lost, else of some of them.
  obtain ⟨sent, ofSamples, cut, entire⟩ : ∃ sent : List ImuSample, sent.Sublist (Board.sentSamples {} events) ∧
      List.Forall₂ (fun bytes sample => bytes <+: asciiBytes (buildImuText sample)) (notifications deliveries) sent ∧
      (List.Forall₂ (fun bytes sample => bytes = asciiBytes (buildImuText sample)) (notifications deliveries)
        (Board.sentSamples {} events) → sent = Board.sentSamples {} events) := by
    by_cases whole : List.Forall₂ (fun bytes sample => bytes = asciiBytes (buildImuText sample))
        (notifications deliveries) (Board.sentSamples {} events)
    · exact ⟨_, List.Sublist.refl _, whole.imp fun _ _ same => same ▸ List.prefix_refl _, fun _ => rfl⟩
    · obtain ⟨sent, cut, ofSamples⟩ := List.sublistForall₂_iff.mp delivered
      exact ⟨sent, ofSamples, cut, fun all => absurd all whole⟩
  obtain ⟨lines, carried, ofSent, shown, read, all⟩ := exists_lines cut answers
  let count := (samples s.recorded).length
  have accounts : Accounts events deliveries lines := ⟨carried, ofSent.trans ofSamples, shown⟩
  have first : samples s.recorded =
      (((deliveries.map Delivery.arrival).filterMap Pipeline.readArrival).map Prod.snd).take count := by
    rw [← raised, List.take_left']
    rfl
  refine ⟨(recorded.ended stop stopped).2, lines.take count, accounts.take count, ?_, ?_⟩
  · rw [written, first, List.map_take, map_motionOf_of_lines read, List.map_take]
  · intro whole nothing handled
    have complete : lines.length ≤ count := by
      have lengths := congrArg List.length raised
      rw [nothing, handled] at lengths
      simp only [samples, List.filterMap_nil, List.append_nil, List.length_map] at lengths
      exact (read.length_eq.symm.trans lengths.symm).le
    have sentAll := entire whole
    subst sentAll
    rw [List.take_of_length_le complete, all whole]

/-- A client that connects before the board has a sample, reads the line of zeros, and is then sent two samples, of
which the first is lost. -/
def restingDeliveries : List Delivery :=
  [{ origin := .read, readings := { ticks := 5100000 }, bytes := asciiBytes "IMU,0,0,0,0,0,0,0,0".toList },
    { origin := .notification, readings := { ticks := 5400000 }
      bytes := asciiBytes "IMU,540,0,0,16384,0,0,0,0".toList }]

def zeroDouble (_ : ℚ) : Double := .finite false 0

/-- A text that can be read raises itself, its frame and whatever the detector raises. -/
private theorem receive_cons (m : Pipeline.Numerics) (rate : Gesture.TickRate) (c : Pipeline.Client)
    (now : Pipeline.Readings) {bytes : List UInt8} (rest : List (Pipeline.Readings × List UInt8)) {raw : ImuRawSample}
    (readable : tryParseImuRaw (bufferToUtf8OrHex bytes) = some raw) :
    ∃ later result, ∃ gestures : List Gesture.Event, (c.receive m rate ((now, bytes) :: rest)).2 =
      (.imuPayloadReceived (bufferToUtf8OrHex bytes) :: .imuFrameProcessed result :: gestures.map .gesture) ++
        (Pipeline.Client.receive m rate later rest).2 := by
  rw [Pipeline.Client.receive, Pipeline.Client.imuCharacteristicValueChanged, Pipeline.Client.handleImuPayloadText,
    Pipeline.process, readable]
  exact ⟨_, _, _, rfl⟩

/-- The client raises each text and its frame. -/
private theorem restingDeliveries_events : ∃ result result',
    (Pipeline.Client.receive Pipeline.axisNumerics samplePlatform.rate {}
        (restingDeliveries.map Delivery.arrival)).2.filterMap (shownEvent zeroDouble) =
      [.imuPayloadReceived (utf16Encode "IMU,0,0,0,0,0,0,0,0".toList),
        .imuFrameProcessed (shownFrame zeroDouble result),
        .imuPayloadReceived (utf16Encode "IMU,540,0,0,16384,0,0,0,0".toList),
        .imuFrameProcessed (shownFrame zeroDouble result')] := by
  have arrivals : restingDeliveries.map Delivery.arrival =
      [({ ticks := 5100000 }, asciiBytes "IMU,0,0,0,0,0,0,0,0".toList),
        ({ ticks := 5400000 }, asciiBytes "IMU,540,0,0,16384,0,0,0,0".toList)] := rfl
  have count : (Pipeline.Client.receive Pipeline.axisNumerics samplePlatform.rate {}
      (restingDeliveries.map Delivery.arrival)).2.length = 4 := by
    decide +kernel
  have zeros : bufferToUtf8OrHex (asciiBytes "IMU,0,0,0,0,0,0,0,0".toList) = "IMU,0,0,0,0,0,0,0,0".toList := by decide
  have text : bufferToUtf8OrHex (asciiBytes "IMU,540,0,0,16384,0,0,0,0".toList) =
      "IMU,540,0,0,16384,0,0,0,0".toList := by decide
  have zerosParsed : tryParseImuRaw (bufferToUtf8OrHex (asciiBytes "IMU,0,0,0,0,0,0,0,0".toList)) =
      some { ax := 0, ay := 0, az := 0, gx := 0, gy := 0, gz := 0, temp := 0 } := by decide
  have parsed : tryParseImuRaw (bufferToUtf8OrHex (asciiBytes "IMU,540,0,0,16384,0,0,0,0".toList)) =
      some { ax := 0, ay := 0, az := 16384, gx := 0, gy := 0, gz := 0, temp := 0 } := by decide
  obtain ⟨later, result, gestures, raised⟩ := receive_cons Pipeline.axisNumerics samplePlatform.rate {}
    { ticks := 5100000 } [({ ticks := 5400000 }, asciiBytes "IMU,540,0,0,16384,0,0,0,0".toList)] zerosParsed
  obtain ⟨last, result', gestures', raised'⟩ := receive_cons Pipeline.axisNumerics samplePlatform.rate later
    { ticks := 5400000 } [] parsed
  rw [arrivals, raised, raised', Pipeline.Client.receive, List.append_nil] at count ⊢
  rw [zeros, text]
  have none : gestures = [] := List.eq_nil_of_length_eq_zero (by simp at count; omega)
  have none' : gestures' = [] := List.eq_nil_of_length_eq_zero (by simp at count; omega)
  rw [none, none']
  exact ⟨result, result', rfl⟩

theorem sensor_to_file_restingBoard : ∃ s stop lines,
    (sampleWindow samplePlatform (fun _ => none) sampleOpening).Reachable s ∧ (samples s.recorded).length = 2 ∧
      Accounts Pipeline.restingBoard restingDeliveries lines ∧
        (session sampleOpening s.recorded stop).calls.filterMap (fun line => motion line.2) =
          lines.map fun line => motionOf line.2.sent := by
  let system := sampleWindow samplePlatform (fun _ => none) sampleOpening
  obtain ⟨result, result', streamed⟩ := restingDeliveries_events
  obtain ⟨s, ran, raised, stopped, recorded⟩ : ∃ s, system.run system.init
      [.raise (.imuPayloadReceived (utf16Encode "IMU,0,0,0,0,0,0,0,0".toList)),
        .raise (.imuFrameProcessed (shownFrame zeroDouble result)),
        .raise (.imuPayloadReceived (utf16Encode "IMU,540,0,0,16384,0,0,0,0".toList)),
        .raise (.imuFrameProcessed (shownFrame zeroDouble result')), .dispatch (sampleClock 2) true,
        .dispatch (sampleClock 2) true, .dispatch (sampleClock 2) true, .dispatch (sampleClock 2) true, .close,
        .finishClose (sampleClock 3)] = some s ∧
      s.raised = [.imuPayloadReceived (utf16Encode "IMU,0,0,0,0,0,0,0,0".toList),
        .imuFrameProcessed (shownFrame zeroDouble result),
        .imuPayloadReceived (utf16Encode "IMU,540,0,0,16384,0,0,0,0".toList),
        .imuFrameProcessed (shownFrame zeroDouble result')] ∧
      s.stopped = some (sampleClock 3) ∧ (samples s.recorded).length = 2 := ⟨_, rfl, rfl, rfl, rfl⟩
  have reached : system.Reachable s := Machine.System.Reachable.run .init ran
  have onAir : (boardAt Pipeline.restingBoard Pipeline.restingBoard.length).onAir =
      ["IMU,520,0,0,16384,0,0,0,0".toList, "IMU,540,0,0,16384,0,0,0,0".toList] := by decide
  have delivered : List.SublistForall₂ (fun bytes text => bytes <+: asciiBytes text) (notifications restingDeliveries)
      (boardAt Pipeline.restingBoard Pipeline.restingBoard.length).onAir := by
    rw [onAir]
    exact .cons_right (.cons (List.prefix_refl _) .nil)
  -- The read is answered in front of the two ticks.
  have answers : ∀ delivery ∈ restingDeliveries, delivery.origin = .read →
      delivery.Answers Pipeline.restingBoard := by
    rintro delivery (_ | ⟨_, _ | ⟨_, ⟨⟩⟩⟩) isRead
    · exact ⟨11, { value := "IMU,0,0,0,0,0,0,0,0".toList }, by decide, List.prefix_refl _⟩
    · cases isRead
  obtain ⟨-, lines, accounts, shown, -⟩ := sensor_to_file Pipeline.axisNumerics zeroDouble samplePlatform
    (fun _ => none) sampleOpening Pipeline.restingBoard restingDeliveries delivered answers s reached
    (by rw [streamed, raised]; rfl) (sampleClock 3) stopped
  exact ⟨s, sampleClock 3, lines, reached, recorded, accounts, shown⟩

end GestureSuite.SdkSample
