import Mathlib
import GestureSuite.Model.Records
import GestureSuite.Soundness.Recording

/-! # What a crash can cost

Between two operations of the recorder, the file of the open session lacks at most the last 49 lines, and
all of these are IMU lines. Everything else has been flushed, and without a session nothing is pending.
-/

namespace GestureSuite.Recorder

open Text

/-- The events of the open session after one more operation. -/
def Operation.extend (events : Option (List (ℤ × Event))) : Operation → Option (List (ℤ × Event))
  | .call (.startSession start) =>
    if start.created then some [(start.reads.timestamp, { eventType := .sessionStart, note := start.sessionLabel })]
    else none
  | .call (.stopSession _) => none
  | .call (.log now logged) => events.map fun earlier => earlier ++ [(now.timestamp, logged.event)]
  | .dispose => none

/-- The events of the session that is open after the operations, in order. -/
def openEvents (operations : List Operation) : Option (List (ℤ × Event)) :=
  operations.foldl Operation.extend none

/-- The lines of events that follow `count` others of their session. -/
def linesFrom (formats : Formats) (count : ℕ) (events : List (ℤ × Event)) : NetString :=
  (events.mapIdx fun k event => eventLine formats (sequenceAt (count + k + 1)) event).flatten

def headerText : NetString := utf16Encode headerLine ++ utf16Encode ['\r', '\n']

private theorem linesFrom_append (formats : Formats) (count : ℕ) (events more : List (ℤ × Event)) :
    linesFrom formats count (events ++ more) =
      linesFrom formats count events ++ linesFrom formats (count + events.length) more := by
  have shifted : (fun k event => eventLine formats (sequenceAt (count + (k + events.length) + 1)) event) =
      fun k event => eventLine formats (sequenceAt (count + events.length + k + 1)) event := by
    funext k event
    rw [show count + (k + events.length) + 1 = count + events.length + k + 1 by omega]
  rw [linesFrom, List.mapIdx_append, List.flatten_append, shifted]
  rfl

private theorem linesFrom_singleton (formats : Formats) (count : ℕ) (event : ℤ × Event) :
    linesFrom formats count [event] = eventLine formats (sequenceAt (count + 1)) event := by
  simp [linesFrom]

/-- A file is open; the lines of `kept` have been flushed and those of `lost` not yet. -/
structure Unflushed (formats : Formats) (s : State) (kept lost : List (ℤ × Event)) : Prop where
  writer : s.writer = some
    { flushed := headerText ++ linesFrom formats 0 kept, buffered := linesFrom formats kept.length lost }
  counted : s.sequence = sequenceAt (kept.length + lost.length)
  pending : s.eventsSinceFlush = lost.length
  few : lost.length ≤ 49
  imu : ∀ event ∈ lost, event.2.eventType = .imu

/-- One more event joins the unflushed ones, or everything is flushed. -/
private theorem Unflushed.write {formats : Formats} {s : State} {kept lost : List (ℤ × Event)}
    (unflushed : Unflushed formats s kept lost) (now : ClockReads) (e : Event) :
    Unflushed formats (writeEventInternal formats now e s) kept (lost ++ [(now.timestamp, e)]) ∨
      Unflushed formats (writeEventInternal formats now e s) (kept ++ lost ++ [(now.timestamp, e)]) [] := by
  have next := sequenceAt_succ (kept.length + lost.length)
  have line : linesFrom formats kept.length (lost ++ [(now.timestamp, e)]) =
      linesFrom formats kept.length lost ++
        eventLine formats (sequenceAt (kept.length + lost.length + 1)) (now.timestamp, e) := by
    rw [linesFrom_append, linesFrom_singleton]
  have whole : linesFrom formats 0 (kept ++ lost ++ [(now.timestamp, e)]) =
      linesFrom formats 0 kept ++ linesFrom formats kept.length (lost ++ [(now.timestamp, e)]) := by
    rw [List.append_assoc, linesFrom_append, Nat.zero_add]
  rw [writeEventInternal]
  rw [unflushed.writer]
  dsimp only
  rw [unflushed.counted, next]
  split
  · right
    refine ⟨?_, ?_, rfl, by simp, by simp⟩
    · rw [whole, line, Option.map_some, Writer.flush, Writer.content, Writer.writeLine, List.append_assoc]
      rfl
    · simp [Nat.add_assoc]
  · next keep =>
    left
    simp only [shouldFlush, Bool.or_eq_true, not_or, decide_eq_true_eq, not_not, unflushed.pending,
      flushEventBatchSize] at keep
    obtain ⟨⟨imu, few⟩, -⟩ := keep
    refine ⟨?_, ?_, ?_, ?_, ?_⟩
    · rw [line]
      rfl
    · simp [Nat.add_assoc]
    · simp [unflushed.pending]
    · rw [List.length_append, List.length_singleton]
      omega
    · intro event member
      rcases List.mem_append.mp member with earlier | last
      · exact unflushed.imu event earlier
      · rw [List.mem_singleton.mp last]
        exact imu

/-- The folder between two operations, given the events of the open session, if any. Of an open session the
file holds the header and all but the last lines, which are IMU lines. -/
def BoundedLoss (fs : FileSystem) (formats : Formats) (r : Records) : Option (List (ℤ × Event)) → Prop
  | none => r.recorder.writer = none ∧ r.recorder.eventsSinceFlush = 0 ∧ r.currentFilePath = none
  | some events => ∃ kept lost path, events = kept ++ lost ∧ Unflushed formats r.recorder kept lost ∧
      r.currentFilePath = some path ∧ r.files (fs.key path) = some (headerText ++ linesFrom formats 0 kept)

private theorem stopSessionInternal_boundedLoss (fs : FileSystem) (formats : Formats) (r : Records) :
    BoundedLoss fs formats (r.stopSessionInternal fs) none :=
  ⟨rfl, rfl, rfl⟩

/-- The folder follows the writer. -/
private theorem BoundedLoss.of_unflushed {fs : FileSystem} {formats : Formats} {s : State} {path : NetString}
    {files : NetString → Option NetString} {events kept lost : List (ℤ × Event)} (split : events = kept ++ lost)
    (unflushed : Unflushed formats s kept lost) :
    BoundedLoss fs formats
      { recorder := s, currentFilePath := some path, files := Records.persist fs (some path) s.writer files }
      (some events) := by
  refine ⟨kept, lost, path, split, unflushed, rfl, ?_⟩
  rw [unflushed.writer]
  exact Function.update_self _ _ _

/-- Written to an open file, an event is kept or joins the lost ones. -/
private theorem BoundedLoss.write {fs : FileSystem} {formats : Formats} {s : State} {path : NetString}
    {files : NetString → Option NetString} {kept lost : List (ℤ × Event)}
    (unflushed : Unflushed formats s kept lost) (now : ClockReads) (e : Event) :
    BoundedLoss fs formats
      { recorder := writeEventInternal formats now e s
        currentFilePath := some path
        files := Records.persist fs (some path) (writeEventInternal formats now e s).writer files }
      (some (kept ++ lost ++ [(now.timestamp, e)])) := by
  rcases unflushed.write now e with pending | flushed
  · exact .of_unflushed (List.append_assoc _ _ _) pending
  · exact .of_unflushed (List.append_nil _).symm flushed

private theorem fresh_unflushed (formats : Formats) (s : State) (opened : ℤ) :
    Unflushed formats
      { s with
        writer := some (Writer.writeLine {} (utf16Encode headerLine)).flush
        sequence := 0
        eventsSinceFlush := 0
        lastFlushUtc := opened } [] [] where
  writer := rfl
  counted := rfl
  pending := rfl
  few := by simp
  imu := by simp

private theorem log_boundedLoss {fs : FileSystem} {formats : Formats} {r : Records}
    {events : Option (List (ℤ × Event))} (bounded : BoundedLoss fs formats r events) (now : ClockReads)
    (logged : LogCall) :
    BoundedLoss fs formats (r.log fs formats (now, logged))
      (events.map fun earlier => earlier ++ [(now.timestamp, logged.event)]) := by
  cases events with
  | none =>
    obtain ⟨closed, pending, path⟩ := bounded
    have same : writeEventInternal formats now logged.event r.recorder = r.recorder := by
      rw [writeEventInternal]
      rw [closed]
    refine ⟨?_, ?_, path⟩
    · exact (congrArg State.writer same).trans closed
    · exact (congrArg State.eventsSinceFlush same).trans pending
  | some events =>
    obtain ⟨kept, lost, path, rfl, unflushed, current, -⟩ := bounded
    rw [Records.log, Recorder.log]
    dsimp only
    rw [current]
    exact BoundedLoss.write unflushed now logged.event

/-- Every operation keeps the loss bounded. -/
private theorem perform_boundedLoss {fs : FileSystem} {formats : Formats} {r : Records}
    {events : Option (List (ℤ × Event))} (bounded : BoundedLoss fs formats r events) (operation : Operation) :
    BoundedLoss fs formats (r.perform fs formats operation) (operation.extend events) := by
  cases operation with
  | dispose => exact stopSessionInternal_boundedLoss fs formats r
  | call call =>
    cases call with
    | startSession start =>
      rw [Operation.extend, Records.perform, Records.next, Records.startSession]
      split
      · exact BoundedLoss.write (fresh_unflushed formats _ start.opened) start.reads _
      · exact stopSessionInternal_boundedLoss fs formats r
    | stopSession now => exact stopSessionInternal_boundedLoss fs formats _
    | log now logged => exact log_boundedLoss bounded now logged

/-- After every sequence of operations, whatever the clocks read: the lines not yet flushed are the last lines
of the open session, at most 49 and all of them IMU lines, the counter of the recorder tells how many they are,
and the file holds the header and all the others; without an open session nothing is pending. -/
theorem crash_loss_bounded (fs : FileSystem) (formats : Formats) (files : NetString → Option NetString)
    (operations : List Operation) :
    BoundedLoss fs formats (recordsPerformed fs formats files operations) (openEvents operations) := by
  induction operations using List.reverseRecOn with
  | nil => exact ⟨rfl, rfl, rfl⟩
  | append_singleton earlier operation ih =>
    rw [recordsPerformed, openEvents, List.foldl_append, List.foldl_append]
    exact perform_boundedLoss ih operation

end GestureSuite.Recorder
