import Mathlib.Data.List.DropRight
import GestureSuite.Model.Fitter.Fit
import GestureSuite.Text.Csv
import GestureSuite.Text.Float

/-! # How the calibration script reads a recorded session

`read_record` goes through the rows of a CSV file and keeps the samples and the markers. The file is its
decoded text, and the reader is the one of RFC 4180: of texts outside the RFC, such as rows that end with a
bare line feed or a quote inside an unquoted field, which `csv.DictReader` also reads, the result is `none`.
`datetime.fromisoformat` is a parameter; on a time it cannot read the script raises, and the result is `none`.
-/

namespace GestureSuite.Fitter

open Text

/-- `str.isspace` of one character. -/
def isSpace (c : Char) : Bool :=
  let n := c.toNat
  (0x09 ≤ n && n ≤ 0x0D) || (0x1C ≤ n && n ≤ 0x20) || n = 0x85 || n = 0xA0 || n = 0x1680 ||
    (0x2000 ≤ n && n ≤ 0x200A) || n = 0x2028 || n = 0x2029 || n = 0x202F || n = 0x205F || n = 0x3000

def strip (text : List Char) : List Char := (text.dropWhile isSpace).rdropWhile isSpace

/-- `str.upper`, exact for texts that are compared with the two event names below: apart from the ASCII
letters only the dotless i is mapped to one of their letters. -/
def upper (text : List Char) : List Char := text.map fun c => if c = 'ı' then 'I' else c.toUpper

def parseIso8601 (fromIsoformat : List Char → Option ℤ) (text : List Char) : Option ℤ :=
  fromIsoformat (text.flatMap fun c => if c = 'Z' then ['+', '0', '0', ':', '0', '0'] else [c])

def safeFloat : Option (List Char) → Option Double
  | none => none
  | some text => if (strip text).isEmpty then none else floatParse (strip text)

/-- `value or 0.0`: both zeros are false. -/
def orZero : Double → Double
  | .finite negative magnitude => if magnitude = 0 then .finite false 0 else .finite negative magnitude
  | value => value

/-- `row.get(name)` of a `DictReader` row. The last column of a name counts, and a row that ends before it
has no value there. -/
def column (header row : List (List Char)) (name : List Char) : Option (List Char) :=
  (header.zipIdx.reverse.find? (·.1 = name)).bind fun found => row[found.2]?

/-- The body of the loop over the rows. -/
def readRow (fromIsoformat : List Char → Option ℤ) (header : List (List Char))
    (rows : List (ImuRow Double) × List MarkerRow) (row : List (List Char)) :
    Option (List (ImuRow Double) × List MarkerRow) :=
  let get := column header row
  let event := upper (strip ((get "event".toList).getD []))
  let utcTime := (get "utc_time".toList).getD []
  if utcTime.isEmpty then some rows
  else
    (parseIso8601 fromIsoformat utcTime).map fun t =>
      if event = "MARK".toList then
        (rows.1, rows.2 ++ [{ t, note := strip ((get "note".toList).getD []) }])
      else if event ≠ "IMU".toList then rows
      else
        match safeFloat (get "roll".toList), safeFloat (get "pitch".toList), safeFloat (get "yaw".toList),
          safeFloat (get "gx".toList), safeFloat (get "gy".toList), safeFloat (get "gz".toList) with
        | some roll, some pitch, some yaw, some gx, some gy, some gz =>
          (rows.1 ++ [{ t, roll := orZero roll, pitch := orZero pitch, yaw := orZero yaw,
                        gx := orZero gx, gy := orZero gy, gz := orZero gz }], rows.2)
        | _, _, _, _, _, _ => rows

def readRecord (fromIsoformat : List Char → Option ℤ) (text : List Char) :
    Option (List (ImuRow Double) × List MarkerRow) := do
  match ← csvParse text with
  | [] => return ([], [])
  | header :: rows =>
    let (imuRows, markerRows) ← rows.foldlM (readRow fromIsoformat header) ([], [])
    return (imuRows.insertionSort (·.t ≤ ·.t), markerRows.insertionSort (·.t ≤ ·.t))

end GestureSuite.Fitter
