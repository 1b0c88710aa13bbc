import GestureSuite.Model.Fitter.Fit
import GestureSuite.Model.Host.Payload

/-! # The pair mapping script

`analyze_pair_mapping.ps1` compares the mean acceleration behind a marker with the one in front of it, and
judges from two opposite markers whether their motion can be mapped to one axis. `Import-Csv` and the casts
have been done: a row holds its numbers, and rows of other events are left out. Numbers are exact.
-/

namespace GestureSuite.PairMapping

open Fitter (round)

/-- The key of an entry in the hashtable of `Get-DominantAxis`. -/
inductive Axis where
  | x
  | y
  | z
deriving DecidableEq, Repr

def Axis.letter : Axis → Char
  | .x => 'X'
  | .y => 'Y'
  | .z => 'Z'

/-- A `switch` over the axis with one value for each. -/
def Axis.pick (x y z : ℚ) : Axis → ℚ
  | .x => x
  | .y => y
  | .z => z

/-- The notes in `$allMarks`. -/
inductive Mark where
  | left
  | right
  | up
  | down
  | front
  | back
deriving DecidableEq, Repr

def Mark.letter : Mark → Char
  | .left => 'L'
  | .right => 'R'
  | .up => 'U'
  | .down => 'D'
  | .front => 'F'
  | .back => 'B'

def allMarks : List Mark := [.left, .right, .up, .down, .front, .back]

structure ImuRow where
  seq : ℤ
  ax : ℚ
  ay : ℚ
  az : ℚ
deriving DecidableEq, Repr

inductive Row where
  | imu (row : ImuRow)
  | mark (seq : ℤ) (note : List Char)
deriving DecidableEq, Repr

/-- `Trim`, `ToUpperInvariant` and the test against `$allMarks`. No character outside ASCII has one of the six
letters as its upper case. -/
def readMark (note : List Char) : Option Mark :=
  let trimmed := (note.dropWhile Host.isWhiteSpace).rdropWhile Host.isWhiteSpace
  allMarks.find? fun mark => trimmed.map Char.toUpper = [mark.letter]

/-- `Sort-Object Value -Descending | Select-Object -First 1` over the entries of a hashtable. Neither the order
of the entries nor that of equal values is specified, so any entry with the largest value can come first. -/
structure Sorter where
  first : (Axis → ℚ) → Axis
  largest : ∀ (value : Axis → ℚ) (axis : Axis), value axis ≤ value (first value)

def getDominantAxis (sorter : Sorter) (x y z : ℚ) : Axis := sorter.first (Axis.pick |x| |y| |z|)

def getSecondAbs (x y z : ℚ) : ℚ := ([|x|, |y|, |z|].insertionSort (· ≥ ·)).getD 1 0

def getMean (rows : List ImuRow) (prop : ImuRow → ℚ) : Option ℚ :=
  if rows.isEmpty then none else some ((rows.map prop).sum / rows.length)

/-- A difference of two means, where `$null` counts as zero. -/
def meanShift (pre post : List ImuRow) (prop : ImuRow → ℚ) : ℚ :=
  (getMean post prop).getD 0 - (getMean pre prop).getD 0

structure SingleMark where
  file : List Char
  mark : Mark
  seq : ℤ
  dx : ℚ
  dy : ℚ
  dz : ℚ
  dominantAxis : Axis
  dominantAbs : ℚ
  dominantRatio : ℚ
deriving DecidableEq, Repr

def getAxisValue (row : SingleMark) (axis : Axis) : ℚ := axis.pick row.dx row.dy row.dz

/-- The entry for a mark with the given deltas. -/
def singleMark (sorter : Sorter) (path : List Char) (mark : Mark) (seq : ℤ) (dx dy dz : ℚ) : SingleMark :=
  let dom := getDominantAxis sorter dx dy dz
  let domAbs := dom.pick |dx| |dy| |dz|
  let second := getSecondAbs dx dy dz
  let ratio := if second < 1e-6 then 999 else domAbs / second
  { file := path, mark, seq, dx := round dx 1, dy := round dy 1, dz := round dz 1, dominantAxis := dom,
    dominantAbs := round domAbs 1, dominantRatio := round ratio 2 }

/-- The loop body over the marks; `none` is the `continue`. -/
def analyzeMark (sorter : Sorter) (path : List Char) (imuRows : List ImuRow) (preFrames postFrames : ℤ) (mark : Mark)
    (seq : ℤ) : Option SingleMark :=
  let pre := imuRows.filter fun row => seq - preFrames ≤ row.seq && row.seq < seq
  let post := imuRows.filter fun row => seq < row.seq && row.seq ≤ seq + postFrames
  if pre.isEmpty || post.isEmpty then none
  else
    some (singleMark sorter path mark seq (meanShift pre post (·.ax)) (meanShift pre post (·.ay))
      (meanShift pre post (·.az)))

structure PairDef where
  name : List Char
  a : Mark
  b : Mark
deriving DecidableEq, Repr

def pairDefs : List PairDef :=
  [{ name := "L-R".toList, a := .left, b := .right }, { name := "U-D".toList, a := .up, b := .down },
    { name := "F-B".toList, a := .front, b := .back }]

inductive PairStatus where
  | missingMark
  | usable
  | weak
  | bad
deriving DecidableEq, Repr

def recommendation : PairStatus → List Char
  | .missingMark => "collect this pair".toList
  | .usable => "can map this pair".toList
  | .weak => "re-capture this pair with cleaner rotation".toList
  | .bad => "pair invalid; must re-capture".toList

/-- The empty axis of a missing mark is `none`. -/
structure PairSummary where
  file : List Char
  pair : List Char
  aMark : Mark
  bMark : Mark
  status : PairStatus
  dominantAxis : Option Axis
  contrastAbs : ℚ
  consistency : ℚ
  axisDirection : List Char
  recommendation : List Char
deriving DecidableEq, Repr

def signOf (value : ℚ) : Char := if 0 ≤ value then '+' else '-'

def directionText (a b : Mark) (aSign bSign : Char) (dom : Axis) : List Char :=
  [a.letter, '=', aSign, dom.letter, ',', ' ', b.letter, '=', bSign, dom.letter]

/-- How far the two marks cancel out on an axis, compared with how far they differ there. -/
def pairConsistency (domContrast domCancel : ℚ) : ℚ :=
  if domContrast < 1e-6 then 0 else 1 - min 1 (domCancel / domContrast)

def pairStatus (consistency : ℚ) : PairStatus :=
  if 0.6 ≤ consistency then .usable else if 0.35 ≤ consistency then .weak else .bad

/-- The summary of a pair both marks of which were found. -/
def comparePair (sorter : Sorter) (path : List Char) (p : PairDef) (a b : SingleMark) : PairSummary :=
  let cx := a.dx - b.dx
  let cy := a.dy - b.dy
  let cz := a.dz - b.dz
  let sx := a.dx + b.dx
  let sy := a.dy + b.dy
  let sz := a.dz + b.dz
  let dom := getDominantAxis sorter cx cy cz
  let domContrast := dom.pick |cx| |cy| |cz|
  let domCancel := dom.pick |sx| |sy| |sz|
  let consistency := pairConsistency domContrast domCancel
  let status := pairStatus consistency
  { file := path, pair := p.name, aMark := p.a, bMark := p.b, status, dominantAxis := some dom,
    contrastAbs := round domContrast 1, consistency := round consistency 2,
    axisDirection := directionText p.a p.b (signOf (getAxisValue a dom)) (signOf (getAxisValue b dom)) dom,
    recommendation := recommendation status }

def summarizePair (sorter : Sorter) (path : List Char) (single : List SingleMark) (p : PairDef) : PairSummary :=
  match single.find? (·.mark = p.a), single.find? (·.mark = p.b) with
  | some a, some b => comparePair sorter path p a b
  | _, _ =>
    { file := path, pair := p.name, aMark := p.a, bMark := p.b, status := .missingMark, dominantAxis := none,
      contrastAbs := 0, consistency := 0, axisDirection := [], recommendation := recommendation .missingMark }

structure Analysis where
  file : List Char
  single : List SingleMark
  pairSummary : List PairSummary
deriving DecidableEq, Repr

/-- The rows of a file that exists. -/
def analyzeRows (sorter : Sorter) (path : List Char) (rows : List Row) (preFrames postFrames : ℤ) : Analysis :=
  let imuRows := rows.filterMap fun
    | .imu row => some row
    | .mark _ _ => none
  let single := rows.filterMap fun
    | .imu _ => none
    | .mark seq note => (readMark note).bind fun mark => analyzeMark sorter path imuRows preFrames postFrames mark seq
  { file := path, single, pairSummary := pairDefs.map (summarizePair sorter path single) }

/-- The files are those `Test-Path` finds. -/
def analyzeFile (sorter : Sorter) (files : List Char → Option (List Row)) (path : List Char)
    (preFrames postFrames : ℤ) : Option Analysis :=
  (files path).map fun rows => analyzeRows sorter path rows preFrames postFrames

end GestureSuite.PairMapping
