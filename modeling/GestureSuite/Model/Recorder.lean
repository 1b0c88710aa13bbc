import GestureSuite.Text.Float
import GestureSuite.Text.Utf16

/-! # The recorder of the gesture lab

`GestureDataRecorder` appends one line of quoted fields for every event of a session to a CSV file.
Strings are the code units the runtime stores. The clock is given to every call as the readings it makes,
in ticks; `ToString("O")` and the rounding of `ToString("F6")` are parameters. Where a file is kept is
the matter of the records folder; here it is its content, up to the last flush and behind it.
-/

namespace GestureSuite.Recorder

open Text

/-- A `string`: UTF-16 code units, well formed or not. -/
abbrev NetString := List UInt16

/-- The formatting of the runtime that the recorder relies on. -/
structure Formats where
  /-- `DateTime.ToString("O")` of a time in ticks. -/
  roundTrip : ℤ → List Char
  /-- How many millionths `double.ToString("F6")` writes for a magnitude. -/
  millionths : ℚ≥0 → ℕ

/-- The readings of `UtcNow` in one `writeEventInternal`. -/
structure ClockReads where
  timestamp : ℤ
  flushCheck : ℤ
  flushed : ℤ

/-- A `StreamWriter`: what has reached the file and what is still in its buffer. -/
structure Writer where
  flushed : NetString := []
  buffered : NetString := []
deriving DecidableEq, Repr

def Writer.content (w : Writer) : NetString := w.flushed ++ w.buffered

def Writer.flush (w : Writer) : Writer := { flushed := w.content }

def Writer.writeLine (w : Writer) (line : NetString) : Writer :=
  { w with buffered := w.buffered ++ (line ++ utf16Encode ['\r', '\n']) }

structure State where
  writer : Option Writer := none
  sequence : ℤ := 0
  eventsSinceFlush : ℕ := 0
  lastFlushUtc : ℤ := 0
  /-- The content of the files closed so far. -/
  closedFiles : List NetString := []
deriving DecidableEq, Repr

inductive EventType where
  | sessionStart
  | sessionStop
  | status
  | mark
  | imu
deriving DecidableEq, Repr

def EventType.text : EventType → List Char
  | .sessionStart => "SESSION_START".toList
  | .sessionStop => "SESSION_STOP".toList
  | .status => "STATUS".toList
  | .mark => "MARK".toList
  | .imu => "IMU".toList

/-- The arguments of `writeEventInternal`; those that most callers pass as `null` or empty are such by
default. -/
structure Event where
  eventType : EventType
  rawPayload : NetString := []
  ax : Option ℤ := none
  ay : Option ℤ := none
  az : Option ℤ := none
  gx : Option ℤ := none
  gy : Option ℤ := none
  gz : Option ℤ := none
  temp : Option ℤ := none
  roll : Option Double := none
  pitch : Option Double := none
  yaw : Option Double := none
  note : NetString := []

def flushEventBatchSize : ℕ := 50

/-- Half a second, in ticks. -/
def flushInterval : ℤ := 5000000

def quoteUnit : UInt16 := 0x22

def commaUnit : UInt16 := 0x2C

def csv (value : NetString) : NetString :=
  quoteUnit :: (value.flatMap fun unit => if unit = quoteUnit then [quoteUnit, quoteUnit] else [unit]) ++ [quoteUnit]

/-- `ToText` of an `int?`. -/
def toTextInt : Option ℤ → List Char
  | some value => printInt value
  | none => []

/-- `ToText` of a `double?`, with the invariant culture's names of the special values. -/
def toTextDouble (formats : Formats) : Option Double → List Char
  | some (.finite negative magnitude) => printFixed 6 negative (formats.millionths magnitude)
  | some (.infinity negative) => (if negative then ['-'] else []) ++ "Infinity".toList
  | some .nan => "NaN".toList
  | none => []

/-- The fifteen values of a line, before they are quoted. -/
def Event.cells (formats : Formats) (timestamp sequence : ℤ) (e : Event) : List NetString :=
  [utf16Encode (formats.roundTrip timestamp), utf16Encode (printInt sequence), utf16Encode e.eventType.text,
    e.rawPayload, utf16Encode (toTextInt e.ax), utf16Encode (toTextInt e.ay), utf16Encode (toTextInt e.az),
    utf16Encode (toTextInt e.gx), utf16Encode (toTextInt e.gy), utf16Encode (toTextInt e.gz),
    utf16Encode (toTextInt e.temp), utf16Encode (toTextDouble formats e.roll),
    utf16Encode (toTextDouble formats e.pitch), utf16Encode (toTextDouble formats e.yaw), e.note]

def joinCells (cells : List NetString) : NetString := [commaUnit].intercalate (cells.map csv)

def shouldFlush (now : ClockReads) (e : Event) (s : State) : Bool :=
  e.eventType ≠ .imu || flushEventBatchSize ≤ s.eventsSinceFlush || flushInterval ≤ now.flushCheck - s.lastFlushUtc

def writeEventInternal (formats : Formats) (now : ClockReads) (e : Event) (s : State) : State :=
  match s.writer with
  | none => s
  | some writer =>
    -- `_sequence` is an `int` and its increment is unchecked
    let sequence := (s.sequence + 1).bmod (2 ^ 32)
    let written := { s with
      writer := some (writer.writeLine (joinCells (e.cells formats now.timestamp sequence)))
      sequence := sequence
      eventsSinceFlush := s.eventsSinceFlush + 1 }
    if shouldFlush now e written then
      { written with writer := written.writer.map Writer.flush, eventsSinceFlush := 0, lastFlushUtc := now.flushed }
    else written

/-- `Flush` and `Dispose` of the writer, if there is one. -/
def stopSessionInternal (s : State) : State :=
  { s with
    writer := none
    eventsSinceFlush := 0
    closedFiles := s.closedFiles ++ (s.writer.map fun writer => writer.flush.flushed).toList }

def headerLine : List Char := "utc_time,seq,event,raw_payload,ax,ay,az,gx,gy,gz,temp,roll,pitch,yaw,note".toList

/-- `opened` is the reading of the clock when the file has just been opened. -/
def startSession (formats : Formats) (opened : ℤ) (now : ClockReads) (sessionLabel : NetString) (s : State) : State :=
  let stopped := stopSessionInternal s
  writeEventInternal formats now { eventType := .sessionStart, note := sessionLabel }
    { stopped with
      writer := some (Writer.writeLine {} (utf16Encode headerLine)).flush
      sequence := 0
      eventsSinceFlush := 0
      lastFlushUtc := opened }

def stopSession (formats : Formats) (now : ClockReads) (s : State) : State :=
  stopSessionInternal (writeEventInternal formats now { eventType := .sessionStop } s)

/-- The calls that log something, with their arguments. -/
inductive LogCall where
  | logStatus (payload : NetString)
  | logMarker (note : NetString)
  | logImu (payload : NetString) (ax ay az gx gy gz temp : Option ℤ) (roll pitch yaw : Option Double)
      (note : NetString)

def LogCall.event : LogCall → Event
  | .logStatus payload => { eventType := .status, rawPayload := payload }
  | .logMarker note => { eventType := .mark, note }
  | .logImu payload ax ay az gx gy gz temp roll pitch yaw note =>
    { eventType := .imu, rawPayload := payload, ax, ay, az, gx, gy, gz, temp, roll, pitch, yaw, note }

def log (formats : Formats) (s : State) (call : ClockReads × LogCall) : State :=
  writeEventInternal formats call.1 call.2.event s

/-- The calls of one session. -/
structure Session where
  opened : ℤ
  start : ClockReads
  sessionLabel : NetString
  calls : List (ClockReads × LogCall)
  stop : ClockReads

/-- `StartSession`, the logging calls, `StopSession`. -/
def Session.record (formats : Formats) (session : Session) (s : State) : State :=
  stopSession formats session.stop
    (session.calls.foldl (log formats) (startSession formats session.opened session.start session.sessionLabel s))

end GestureSuite.Recorder
