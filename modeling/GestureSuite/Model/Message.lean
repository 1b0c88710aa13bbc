import GestureSuite.Model.Recorder

/-! # Messages to the page

What `MainWindow` posts to its web view: poses and gestures as JSON objects, put together by string
interpolation. The page hands a message to `JSON.parse`, and treats one that does not parse as plain text.
-/

namespace GestureSuite.Message

open Text
open Recorder (NetString)

/-- The formatting of the runtime that the messages rely on, in the invariant culture. -/
structure Formats where
  /-- `double.ToString()`. -/
  general : Double → NetString
  /-- `double.ToString("F4")`, with the number of places. -/
  fixed : ℕ → Double → NetString

/-- A text of the source. -/
def text (s : String) : NetString := utf16Encode s.toList

/-- The rest of `Replace`, with so many units of the last occurrence still to be skipped. -/
def replaceFrom (old new : NetString) : ℕ → NetString → NetString
  | _, [] => []
  | skip + 1, _ :: rest => replaceFrom old new skip rest
  | 0, unit :: rest =>
    if old.isPrefixOf (unit :: rest) then new ++ replaceFrom old new (old.length - 1) rest
    else unit :: replaceFrom old new 0 rest

/-- `string.Replace(old, new)`: ordinal, from the left, without overlaps. -/
def replace (old new value : NetString) : NetString := replaceFrom old new 0 value

def escapeJson (value : NetString) : NetString :=
  replace (text "\"") (text "\\\"") (replace (text "\\") (text "\\\\") value)

def buildPoseMessageJson (formats : Formats) (roll pitch yaw : Double) (label : NetString) (tx ty tz : Double) :
    NetString :=
  [text "\x7b\"source\":\"host\",\"type\":\"pose\",\"label\":\"", escapeJson label,
    text "\",\"roll\":", formats.general roll, text ",\"pitch\":", formats.general pitch,
    text ",\"yaw\":", formats.general yaw, text ",\"tx\":", formats.fixed 4 tx, text ",\"ty\":", formats.fixed 4 ty,
    text ",\"tz\":", formats.fixed 4 tz, text "\x7d"].flatten

def buildGestureMessageJson (formats : Formats) (gesture : NetString) (roll pitch : Double) : NetString :=
  [text "\x7b\"source\":\"host\",\"type\":\"gesture\",\"name\":\"", escapeJson gesture,
    text "\",\"roll\":", formats.fixed 2 roll, text ",\"pitch\":", formats.fixed 2 pitch, text "\x7d"].flatten

end GestureSuite.Message
