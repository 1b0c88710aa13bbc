import GestureSuite.Model.PairMapping
import GestureSuite.Soundness.Fitter.Quantile

/-! # What a usable pair says

The axis of a pair is the one on which its two marks differ most, and the pair is judged by how little they
share there. On that axis the marks of a usable pair lie on opposite sides, and neither is small. The other two
axes are not looked at, so an offset common to both marks can still be the largest part of each of them; the
single marks agree with the pair when there is no such offset.
-/

namespace GestureSuite.PairMapping

open Fitter (round round_bounds)

section Cancel

variable {a b : ℚ}

private theorem opposite_of_cancel_of_lt (cancel : 5 * |a + b| ≤ 2 * |a - b|) (order : b < a) :
    (0 < a ∧ b < 0) ∧ 3 * |a - b| ≤ 10 * |a| ∧ 3 * |a - b| ≤ 10 * |b| := by
  have contrast : |a - b| = a - b := abs_of_pos (sub_pos.mpr order)
  have above := le_abs_self (a + b)
  have below := neg_abs_le (a + b)
  rw [contrast] at cancel
  have first : 0 ≤ 7 * a + 3 * b := by linarith
  have second : 3 * a + 7 * b ≤ 0 := by linarith
  have positive : 0 < a := by linarith
  have negative : b < 0 := by linarith
  rw [contrast, abs_of_pos positive, abs_of_neg negative]
  exact ⟨⟨positive, negative⟩, by linarith, by linarith⟩

/-- Two numbers whose sum is at most 0.4 of their difference lie on opposite sides of zero, and each makes up at
least 0.3 of the difference. -/
private theorem opposite_of_cancel (cancel : 5 * |a + b| ≤ 2 * |a - b|) (differ : 0 < |a - b|) :
    (0 < a ∧ b < 0 ∨ a < 0 ∧ 0 < b) ∧ 3 * |a - b| ≤ 10 * |a| ∧ 3 * |a - b| ≤ 10 * |b| := by
  rcases lt_or_gt_of_ne (sub_ne_zero.mp (abs_pos.mp differ)) with less | greater
  · have swapped : 5 * |b + a| ≤ 2 * |b - a| := by rwa [add_comm, abs_sub_comm]
    obtain ⟨⟨positive, negative⟩, second, first⟩ := opposite_of_cancel_of_lt swapped less
    rw [abs_sub_comm] at first second
    exact ⟨.inr ⟨negative, positive⟩, first, second⟩
  · obtain ⟨signs, first, second⟩ := opposite_of_cancel_of_lt cancel greater
    exact ⟨.inl signs, first, second⟩

end Cancel

private theorem cancel_of_usable {contrast cancel : ℚ}
    (usable : pairStatus (pairConsistency contrast cancel) = .usable) : 0 < contrast ∧ 5 * cancel ≤ 2 * contrast := by
  have consistent : 0.6 ≤ pairConsistency contrast cancel := by
    by_contra low
    rw [pairStatus, if_neg low] at usable
    split_ifs at usable
  rw [pairConsistency] at consistent
  split_ifs at consistent with tiny
  · norm_num at consistent
  · have positive : 0 < contrast := lt_of_lt_of_le (by norm_num) (not_lt.mp tiny)
    have ratio : cancel / contrast ≤ 2 / 5 := by
      rcases min_le_iff.mp (show min 1 (cancel / contrast) ≤ 2 / 5 by linarith) with one | small
      · norm_num at one
      · exact small
    rw [div_le_iff₀ positive] at ratio
    exact ⟨positive, by linarith⟩

section Axis

variable (x y z : ℚ)

private theorem pick_abs (axis : Axis) : axis.pick |x| |y| |z| = |axis.pick x y z| := by
  cases axis <;> rfl

private theorem abs_pick_le (sorter : Sorter) (axis : Axis) :
    |axis.pick x y z| ≤ |(getDominantAxis sorter x y z).pick x y z| := by
  rw [← pick_abs, ← pick_abs]
  exact sorter.largest (Axis.pick |x| |y| |z|) axis

/-- The stored deltas are off by at most half of their last digit. -/
private theorem abs_getAxisValue_sub_le (sorter : Sorter) (path : List Char) (mark : Mark) (seq : ℤ) (axis : Axis) :
    |getAxisValue (singleMark sorter path mark seq x y z) axis - axis.pick x y z| ≤ 1 / 20 := by
  have rounded : getAxisValue (singleMark sorter path mark seq x y z) axis = round (axis.pick x y z) 1 := by
    cases axis <;> rfl
  obtain ⟨lower, upper⟩ := round_bounds (axis.pick x y z) 1
  rw [rounded, abs_le]
  constructor <;> linarith

end Axis

/-- A mark whose stored delta on one axis exceeds the others by the rounding error has that axis. -/
private theorem dominantAxis_of_exceeds {sorter : Sorter} {path : List Char} {mark : Mark} {seq : ℤ} {x y z : ℚ}
    {s : SingleMark} (entry : s = singleMark sorter path mark seq x y z) {axis : Axis}
    (exceeds : ∀ other, other ≠ axis → |getAxisValue s other| + 1 / 10 < |getAxisValue s axis|) :
    s.dominantAxis = axis := by
  subst s
  by_contra differs
  have largest := abs_pick_le x y z sorter axis
  have gap := exceeds _ differs
  have axisError := abs_getAxisValue_sub_le x y z sorter path mark seq axis
  have otherError := abs_getAxisValue_sub_le x y z sorter path mark seq (getDominantAxis sorter x y z)
  have axisBound := abs_sub_abs_le_abs_sub (getAxisValue (singleMark sorter path mark seq x y z) axis) (axis.pick x y z)
  have otherBound := abs_sub_abs_le_abs_sub ((getDominantAxis sorter x y z).pick x y z)
    (getAxisValue (singleMark sorter path mark seq x y z) (getDominantAxis sorter x y z))
  rw [abs_sub_comm] at otherBound
  change |getAxisValue (singleMark sorter path mark seq x y z) (getDominantAxis sorter x y z)| + 1 / 10 <
    |getAxisValue (singleMark sorter path mark seq x y z) axis| at gap
  linarith

/-- By how much two marks differ on an axis. -/
def contrastOn (a b : SingleMark) (axis : Axis) : ℚ := |getAxisValue a axis - getAxisValue b axis|

/-- The pair maps the axis: its marks lie on opposite sides there and the text shows it, on no other axis do they
differ more, and each of them makes up at least 0.3 of the difference. -/
structure MapsAxis (summary : PairSummary) (a b : SingleMark) (axis : Axis) : Prop where
  dominantAxis : summary.dominantAxis = some axis
  opposite :
    0 < getAxisValue a axis ∧ getAxisValue b axis < 0 ∧
        summary.axisDirection = directionText summary.aMark summary.bMark '+' '-' axis ∨
      getAxisValue a axis < 0 ∧ 0 < getAxisValue b axis ∧
        summary.axisDirection = directionText summary.aMark summary.bMark '-' '+' axis
  widest : ∀ other, contrastOn a b other ≤ contrastOn a b axis
  aShare : 0.3 * contrastOn a b axis ≤ |getAxisValue a axis|
  bShare : 0.3 * contrastOn a b axis ≤ |getAxisValue b axis|

/-- On the other axes the mark stays below 0.3 of a contrast, by more than the rounding error. -/
def StaysOnAxis (s : SingleMark) (contrast : ℚ) (axis : Axis) : Prop :=
  ∀ other, other ≠ axis → |getAxisValue s other| + 0.1 < 0.3 * contrast

section Pair

variable {sorter : Sorter} {path : List Char} {p : PairDef} {a b : SingleMark}

/-- The axis `comparePair` settles on. -/
private def pairAxis (sorter : Sorter) (a b : SingleMark) : Axis :=
  getDominantAxis sorter (a.dx - b.dx) (a.dy - b.dy) (a.dz - b.dz)

private theorem pick_sub (axis : Axis) :
    axis.pick (a.dx - b.dx) (a.dy - b.dy) (a.dz - b.dz) = getAxisValue a axis - getAxisValue b axis := by
  cases axis <;> rfl

private theorem pick_add (axis : Axis) :
    axis.pick (a.dx + b.dx) (a.dy + b.dy) (a.dz + b.dz) = getAxisValue a axis + getAxisValue b axis := by
  cases axis <;> rfl

private theorem comparePair_status :
    (comparePair sorter path p a b).status = pairStatus (pairConsistency (contrastOn a b (pairAxis sorter a b))
      |getAxisValue a (pairAxis sorter a b) + getAxisValue b (pairAxis sorter a b)|) := by
  rw [contrastOn, ← pick_sub, ← pick_add, ← pick_abs, ← pick_abs]
  rfl

private theorem contrastOn_le_pairAxis (other : Axis) :
    contrastOn a b other ≤ contrastOn a b (pairAxis sorter a b) := by
  rw [contrastOn, contrastOn, ← pick_sub, ← pick_sub]
  exact abs_pick_le _ _ _ sorter other

private theorem mapsAxis_of_usable (usable : (comparePair sorter path p a b).status = .usable) :
    MapsAxis (comparePair sorter path p a b) a b (pairAxis sorter a b) := by
  rw [comparePair_status] at usable
  obtain ⟨differ, cancel⟩ := cancel_of_usable usable
  obtain ⟨signs, aShare, bShare⟩ := opposite_of_cancel cancel differ
  have text : (comparePair sorter path p a b).axisDirection = directionText p.a p.b
      (signOf (getAxisValue a (pairAxis sorter a b))) (signOf (getAxisValue b (pairAxis sorter a b)))
      (pairAxis sorter a b) := rfl
  refine ⟨rfl, ?_, contrastOn_le_pairAxis, ?_, ?_⟩
  · rcases signs with ⟨positive, negative⟩ | ⟨negative, positive⟩
    · rw [signOf, if_pos positive.le, signOf, if_neg (not_le.mpr negative)] at text
      exact .inl ⟨positive, negative, text⟩
    · rw [signOf, if_neg (not_le.mpr negative), signOf, if_pos positive.le] at text
      exact .inr ⟨negative, positive, text⟩
  · change 3 * contrastOn a b _ ≤ _ at aShare
    linarith
  · change 3 * contrastOn a b _ ≤ _ at bShare
    linarith

end Pair

/-- Every entry of the table of single marks has the axis of its own deltas. -/
private theorem single_entry {sorter : Sorter} {path : List Char} {rows : List Row} {preFrames postFrames : ℤ}
    {s : SingleMark} (listed : s ∈ (analyzeRows sorter path rows preFrames postFrames).single) :
    ∃ mark seq x y z, s = singleMark sorter path mark seq x y z := by
  obtain ⟨row, -, produced⟩ := List.mem_filterMap.mp listed
  cases row with
  | imu row => cases produced
  | mark seq note =>
    obtain ⟨mark, -, analyzed⟩ := Option.bind_eq_some_iff.mp produced
    rw [analyzeMark] at analyzed
    split_ifs at analyzed
    exact ⟨mark, seq, _, _, _, (Option.some.inj analyzed).symm⟩

private theorem dominantAxis_of_staysOnAxis {sorter : Sorter} {path : List Char} {rows : List Row}
    {preFrames postFrames : ℤ} {s : SingleMark}
    (listed : s ∈ (analyzeRows sorter path rows preFrames postFrames).single) {contrast : ℚ} {axis : Axis}
    (share : 0.3 * contrast ≤ |getAxisValue s axis|) (stays : StaysOnAxis s contrast axis) : s.dominantAxis = axis := by
  obtain ⟨mark, seq, x, y, z, entry⟩ := single_entry listed
  apply dominantAxis_of_exceeds entry
  intro other differs
  have small := stays other differs
  linarith

private theorem compared_of_usable {sorter : Sorter} {path : List Char} {single : List SingleMark} {p : PairDef}
    (usable : (summarizePair sorter path single p).status = .usable) :
    ∃ a b, single.find? (·.mark = p.a) = some a ∧ single.find? (·.mark = p.b) = some b ∧
      summarizePair sorter path single p = comparePair sorter path p a b := by
  rw [summarizePair] at usable ⊢
  split at usable
  · next a b firstA firstB => exact ⟨a, b, firstA, firstB, rfl⟩
  · cases usable

/-- A usable pair maps the axis it names: the first marks of both kinds lie on opposite sides there, and a mark
that keeps to that axis has it as its own dominant axis. -/
theorem usable_mapsAxis {sorter : Sorter} {files : List Char → Option (List Row)} {path : List Char}
    {preFrames postFrames : ℤ} {result : Analysis}
    (analyzed : analyzeFile sorter files path preFrames postFrames = some result) {summary : PairSummary}
    (listed : summary ∈ result.pairSummary) (usable : summary.status = .usable) :
    ∃ a b axis, result.single.find? (·.mark = summary.aMark) = some a ∧
      result.single.find? (·.mark = summary.bMark) = some b ∧ MapsAxis summary a b axis ∧
      (StaysOnAxis a (contrastOn a b axis) axis → a.dominantAxis = axis) ∧
      (StaysOnAxis b (contrastOn a b axis) axis → b.dominantAxis = axis) := by
  obtain ⟨rows, -, rfl⟩ := Option.map_eq_some_iff.mp analyzed
  obtain ⟨p, -, rfl⟩ := List.mem_map.mp listed
  obtain ⟨a, b, firstA, firstB, compared⟩ := compared_of_usable usable
  rw [compared] at usable ⊢
  have maps := mapsAxis_of_usable usable
  refine ⟨a, b, pairAxis sorter a b, firstA, firstB, maps, ?_, ?_⟩
  · exact dominantAxis_of_staysOnAxis (List.mem_of_find?_eq_some firstA) maps.aShare
  · exact dominantAxis_of_staysOnAxis (List.mem_of_find?_eq_some firstB) maps.bShare

/-- The first of the largest entries in the order X, Y, Z. -/
def firstLargest : Sorter where
  first value :=
    if value .y ≤ value .x ∧ value .z ≤ value .x then .x else if value .z ≤ value .y then .y else .z
  largest value axis := by
    split_ifs with atX atY
    · cases axis with
      | x => exact le_rfl
      | y => exact atX.1
      | z => exact atX.2
    · have above : value .x ≤ value .y := by
        by_contra below
        exact atX ⟨(not_le.mp below).le, atY.trans (not_le.mp below).le⟩
      cases axis with
      | x => exact above
      | y => exact le_rfl
      | z => exact atY
    · have above : value .x ≤ value .z := by
        by_contra below
        exact atX ⟨(not_le.mp atY).le.trans (not_le.mp below).le, (not_le.mp below).le⟩
      cases axis with
      | x => exact above
      | y => exact (not_le.mp atY).le
      | z => exact le_rfl

/-- A resting sample in front of each of two marks and a tilted one behind it. -/
def tiltedFile (left right : ImuRow) (_ : List Char) : Option (List Row) :=
  some [.imu ⟨1, 0, 0, 0⟩, .mark 2 "L".toList, .imu { left with seq := 3 }, .imu ⟨201, 0, 0, 0⟩, .mark 202 " r".toList,
    .imu { right with seq := 203 }]

theorem usable_mapsAxis_tilted : ∃ result summary a b axis,
    analyzeFile firstLargest (tiltedFile ⟨3, 10, 1, 0⟩ ⟨203, -9.5, 0, 1⟩) [] 35 65 = some result ∧
      summary ∈ result.pairSummary ∧ summary.status = .usable ∧ MapsAxis summary a b axis := by
  obtain ⟨result, analyzed⟩ : ∃ result,
      analyzeFile firstLargest (tiltedFile ⟨3, 10, 1, 0⟩ ⟨203, -9.5, 0, 1⟩) [] 35 65 = some result := ⟨_, rfl⟩
  have judged : ∃ summary ∈ result.pairSummary, summary.status = .usable := by
    obtain rfl := Option.some.inj analyzed
    decide +kernel
  obtain ⟨summary, listed, usable⟩ := judged
  obtain ⟨a, b, axis, -, -, maps, -, -⟩ := usable_mapsAxis analyzed listed usable
  exact ⟨result, summary, a, b, axis, analyzed, listed, usable, maps⟩

/-- Both marks of a usable pair can fall mainly on an axis that is not the pair's. -/
theorem usable_commonOffset : ∃ result,
    analyzeFile firstLargest (tiltedFile ⟨3, 10, 0, 11⟩ ⟨203, -10, 0, 11⟩) [] 35 65 = some result ∧
      ∃ summary ∈ result.pairSummary, summary.status = .usable ∧ summary.dominantAxis = some .x ∧
        (result.single.find? (·.mark = summary.aMark)).map (·.dominantAxis) = some .z ∧
        (result.single.find? (·.mark = summary.bMark)).map (·.dominantAxis) = some .z := by
  refine ⟨_, rfl, ?_⟩
  decide +kernel

end GestureSuite.PairMapping
