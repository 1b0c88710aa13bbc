import GestureSuite.Text.Decimal
import GestureSuite.Text.Utf8

/-! # The firmware's sensor and its text

`readSample` turns a block of fourteen registers into a sample, and `buildImuText` turns a sample into
the line that is written to the IMU characteristic. The order of the fields differs between the two:
the temperature comes fourth in the registers and last in the line.
-/

namespace GestureSuite.Firmware

open Text

/-- Both operands are promoted to `int` before the shift and the `or`; the cast keeps sixteen bits. -/
def toInt16 (high low : UInt8) : Int16 :=
  ((high.toUInt32 <<< 8) ||| low.toUInt32).toUInt16.toInt16

structure ImuSample where
  ax : Int16 := 0
  ay : Int16 := 0
  az : Int16 := 0
  gx : Int16 := 0
  gy : Int16 := 0
  gz : Int16 := 0
  temp : Int16 := 0
  timestampMs : UInt32 := 0
deriving DecidableEq, Repr

/-- `ImuSensor::readSample`, given what the bus delivers and the clock. -/
def readSample (ready : Bool) (readRegs : Option (Vector UInt8 14)) (millis : UInt32) : Option ImuSample :=
  if !ready then none
  else
    readRegs.map fun raw =>
      { ax := toInt16 raw[0] raw[1]
        ay := toInt16 raw[2] raw[3]
        az := toInt16 raw[4] raw[5]
        temp := toInt16 raw[6] raw[7]
        gx := toInt16 raw[8] raw[9]
        gy := toInt16 raw[10] raw[11]
        gz := toInt16 raw[12] raw[13]
        timestampMs := millis }

/-- What `snprintf` leaves in a buffer of the given size, up to the terminating zero. -/
def snprintf (size : ℕ) (text : List Char) : List Char := text.take (size - 1)

/-- The arguments of the format `IMU,%lu,%d,%d,%d,%d,%d,%d,%d`, as text. -/
def ImuSample.fields (s : ImuSample) : List (List Char) :=
  [['I', 'M', 'U'], Nat.toDigits 10 s.timestampMs.toNat, printInt s.ax.toInt, printInt s.ay.toInt,
    printInt s.az.toInt, printInt s.gx.toInt, printInt s.gy.toInt, printInt s.gz.toInt, printInt s.temp.toInt]

def ImuSample.line (s : ImuSample) : List Char := [','].intercalate s.fields

def buildImuText (s : ImuSample) : List Char := snprintf 128 s.line

end GestureSuite.Firmware
