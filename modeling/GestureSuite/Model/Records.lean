import Mathlib.Data.List.DropRight
import Mathlib.Logic.Function.Basic
import GestureSuite.Model.Host.Payload
import GestureSuite.Model.Recorder

/-! # The records folder

Where the recorder puts its files. A session's path is made of the local time, to the second, and of the
label with the characters replaced that a file name may not have. The file system compares names by its own
upper case. The folder holds, of an open file, what its writer has flushed; opening a path that is there
already empties it.
-/

namespace GestureSuite.Recorder

open Text

/-- The file system, and what the runtime knows about it. -/
structure FileSystem where
  /-- The folder of `SpecialFolder.LocalApplicationData`. -/
  localApplicationData : NetString
  /-- Two names with the same units after this are the same name. -/
  upcase : UInt16 → UInt16
  upcase_digit : ∀ unit, 0x30 ≤ unit → unit ≤ 0x39 → upcase unit = unit

/-- What a path is looked up by. -/
def FileSystem.key (fs : FileSystem) (path : NetString) : NetString := path.map fs.upcase

/-- `DateTime.Now` to the second, in the calendar of the culture. -/
structure LocalTime where
  year : Fin 10000
  month : Fin 14
  day : Fin 32
  hour : Fin 24
  minute : Fin 60
  second : Fin 60
deriving DecidableEq, Repr

/-- The format `HHmmss`. -/
def LocalTime.timeOfDay (t : LocalTime) : List Char :=
  padDigits 2 t.hour ++ padDigits 2 t.minute ++ padDigits 2 t.second

/-- The format `yyyyMMdd_HHmmss`. -/
def LocalTime.stamp (t : LocalTime) : List Char :=
  padDigits 4 t.year ++ padDigits 2 t.month ++ padDigits 2 t.day ++ '_' :: t.timeOfDay

def isSeparator (unit : UInt16) : Bool := unit = 0x5C || unit = 0x2F

/-- `Path.Combine`, where the second path is not rooted. -/
def combine (path1 path2 : NetString) : NetString :=
  match path1.getLast? with
  | none => path2
  | some last => if isSeparator last || last = 0x3A then path1 ++ path2 else path1 ++ 0x5C :: path2

def FileSystem.baseFolder (fs : FileSystem) : NetString :=
  combine (combine fs.localApplicationData (utf16Encode "GestureLab".toList)) (utf16Encode "records".toList)

/-- `Path.GetInvalidFileNameChars`, in its order. -/
def invalidFileNameChars : List UInt16 :=
  [0x22, 0x3C, 0x3E, 0x7C] ++ (List.range 32).map UInt16.ofNat ++ [0x3A, 0x2A, 0x3F, 0x5C, 0x2F]

def isWhiteSpaceUnit (unit : UInt16) : Bool := Host.isWhiteSpace (Char.ofNat unit.toNat)

def isNullOrWhiteSpace (value : NetString) : Bool := value.all isWhiteSpaceUnit

/-- `value.Trim()`. -/
def trim (value : NetString) : NetString := (value.dropWhile isWhiteSpaceUnit).rdropWhile isWhiteSpaceUnit

/-- `value.Replace(c, '_')`. -/
def replaceUnit (value : NetString) (c : UInt16) : NetString := value.map fun unit => if unit = c then 0x5F else unit

def makeSafeFilePart (value : NetString) : NetString :=
  let replaced := invalidFileNameChars.foldl replaceUnit value
  if isNullOrWhiteSpace replaced then utf16Encode "session".toList else replaced

def safeLabel (sessionLabel : NetString) : NetString :=
  makeSafeFilePart (if isNullOrWhiteSpace sessionLabel then utf16Encode "session".toList else trim sessionLabel)

def fileName (now : LocalTime) (sessionLabel : NetString) : NetString :=
  utf16Encode now.stamp ++ 0x5F :: safeLabel sessionLabel ++ utf16Encode ".csv".toList

def FileSystem.sessionPath (fs : FileSystem) (now : LocalTime) (sessionLabel : NetString) : NetString :=
  combine fs.baseFolder (fileName now sessionLabel)

/-- One call of `StartSession`: its argument, its readings of the clocks, and whether the file could be
created. -/
structure Start where
  now : LocalTime
  opened : ℤ
  reads : ClockReads
  sessionLabel : NetString
  created : Bool := true

/-- The recorder and the files by what they are looked up by. -/
structure Records where
  recorder : State := {}
  currentFilePath : Option NetString := none
  files : NetString → Option NetString := fun _ => none

namespace Records

variable (fs : FileSystem) (formats : Formats)

/-- The folder once the writer has passed on what it has flushed. -/
def persist (path : Option NetString) (writer : Option Writer) (files : NetString → Option NetString) :
    NetString → Option NetString :=
  match path, writer with
  | some path, some writer => Function.update files (fs.key path) (some writer.flushed)
  | _, _ => files

def stopSessionInternal (r : Records) : Records where
  recorder := Recorder.stopSessionInternal r.recorder
  currentFilePath := none
  files := persist fs r.currentFilePath (r.recorder.writer.map Writer.flush) r.files

/-- When the file cannot be created, the call throws and nothing is open. -/
def startSession (r : Records) (start : Start) : Records :=
  let stopped := r.stopSessionInternal fs
  if start.created then
    let path := fs.sessionPath start.now start.sessionLabel
    let recorder := Recorder.startSession formats start.opened start.reads start.sessionLabel r.recorder
    { recorder, currentFilePath := some path, files := persist fs (some path) recorder.writer stopped.files }
  else stopped

def log (r : Records) (call : ClockReads × LogCall) : Records :=
  let recorder := Recorder.log formats r.recorder call
  { r with recorder, files := persist fs r.currentFilePath recorder.writer r.files }

def stopSession (r : Records) (now : ClockReads) : Records :=
  let recorder := writeEventInternal formats now { eventType := .sessionStop } r.recorder
  stopSessionInternal fs { r with recorder, files := persist fs r.currentFilePath recorder.writer r.files }

end Records

/-- The calls of the recorder. -/
inductive Call where
  | startSession (start : Start)
  | stopSession (now : ClockReads)
  | log (now : ClockReads) (call : LogCall)

def Records.next (fs : FileSystem) (formats : Formats) (r : Records) : Call → Records
  | .startSession start => r.startSession fs formats start
  | .stopSession now => r.stopSession fs formats now
  | .log now call => r.log fs formats (now, call)

/-- The session a call begins, if it opens a file. -/
def Call.session : Call → Option Start
  | .startSession start => if start.created then some start else none
  | .stopSession _ => none
  | .log _ _ => none

def sessions (calls : List Call) : List Start := calls.filterMap Call.session

def FileSystem.sessionPaths (fs : FileSystem) (calls : List Call) : List NetString :=
  (sessions calls).map fun start => fs.sessionPath start.now start.sessionLabel

/-- The folder after the calls, from given files on. -/
def recordsAfter (fs : FileSystem) (formats : Formats) (files : NetString → Option NetString) (calls : List Call) :
    Records :=
  calls.foldl (Records.next fs formats) { files }

/-- Everything a caller can do with the recorder. -/
inductive Operation where
  | call (call : Call)
  | dispose

def Records.perform (fs : FileSystem) (formats : Formats) (r : Records) : Operation → Records
  | .call call => r.next fs formats call
  | .dispose => r.stopSessionInternal fs

/-- The folder after the operations, from given files on. -/
def recordsPerformed (fs : FileSystem) (formats : Formats) (files : NetString → Option NetString)
    (operations : List Operation) : Records :=
  operations.foldl (Records.perform fs formats) { files }

end GestureSuite.Recorder
