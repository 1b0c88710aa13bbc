import Mathlib.Data.List.DropRight
import GestureSuite.Model.Page
import GestureSuite.Soundness.Preview
import GestureSuite.ToMathlib.Smoothing

/-! # The page over whole runs

The cube is smoothed towards its target, so it never leaves the span of the targets the host and the controls can
set, and it reaches a target that stays. Its trail is the path since the last clearing, thinned by the distance to
the last point kept and cut to the last six hundred.
-/

namespace GestureSuite.Web

open Machine Smoothing

theorem rangeValue_mem {low high step : ℚ} (order : low ≤ high) (positive : 0 < step) (wide : low + step ≤ high)
    (value : ℚ) : rangeValue low high step value ∈ Set.Icc low high := by
  rw [rangeValue]
  set clamped := max low (min value high)
  have above : low ≤ clamped := le_max_left _ _
  have below : clamped ≤ high := max_le order (min_le_right _ _)
  set steps := ⌊(clamped - low) / step + 1 / 2⌋
  have nonneg : 0 ≤ steps := by
    apply Int.floor_nonneg.mpr
    have := div_nonneg (sub_nonneg.mpr above) positive.le
    linarith
  have rounded : (steps : ℚ) ≤ (clamped - low) / step + 1 / 2 := Int.floor_le _
  have near : low + steps * step ≤ clamped + step := by
    have scaled := mul_le_mul_of_nonneg_right rounded positive.le
    rw [add_mul, div_mul_cancel₀ _ positive.ne'] at scaled
    linarith
  have start : 0 ≤ steps * step := mul_nonneg (Int.cast_nonneg nonneg) positive.le
  split
  · next exceeds => constructor <;> linarith
  · next fits => constructor <;> linarith

def Vector3.Within (v : Vector3) (bound : ℚ) : Prop := |v.x| ≤ bound ∧ |v.y| ≤ bound ∧ |v.z| ≤ bound

namespace Page

variable (three : Three)

/-- Where the cube is to be. -/
def goal (s : Page) : Vector3 where
  x := s.targetPosition.x * s.motionScale + s.moduleLayout.offset.x
  y := s.targetPosition.y * s.motionScale + s.moduleLayout.offset.y
  z := s.targetPosition.z * s.motionScale + s.moduleLayout.offset.z

/-- How the cube is to be turned. -/
def goalRotation (s : Page) : Vector3 where
  x := s.targetRotation.x + three.degToRad s.moduleLayout.pitchDeg
  y := s.targetRotation.y + three.degToRad s.moduleLayout.yawDeg
  z := s.targetRotation.z + three.degToRad s.moduleLayout.rollDeg

end Page

/-- A part of the way to a goal, on every axis. -/
def approach (v goal : Vector3) (weight : ℚ) : Vector3 where
  x := smooth v.x (goal.x, weight)
  y := smooth v.y (goal.y, weight)
  z := smooth v.z (goal.z, weight)

section Cube

variable {three : Three} {s : Page}

private theorem lerp_eq_smooth (documented : three.Documented) (x y t : ℚ) : three.lerp x y t = smooth x (y, t) := by
  rw [documented.lerp, smooth]
  ring

private theorem pushTrailPoint_eq (s : Page) (point : Vector3) :
    ∃ trailPoints, s.pushTrailPoint three point = { s with trailPoints } := by
  rw [Page.pushTrailPoint]
  split
  · exact ⟨s.trailPoints, rfl⟩
  · exact ⟨_, rfl⟩

/-- The page once a frame has moved and turned the cube. -/
def Page.moved (three : Three) (s : Page) : Page :=
  { s with
    position := approach s.position s.goal 0.2
    rotation := approach s.rotation (s.goalRotation three) 0.14 }

private theorem animate_eq_push (documented : three.Documented) (s : Page) :
    s.animate three = (s.moved three).pushTrailPoint three (s.moved three).position := by
  rw [Page.animate]
  simp only [lerp_eq_smooth documented]
  rfl

/-- A frame moves and turns the cube and touches the trail. -/
theorem animate_eq (documented : three.Documented) (s : Page) :
    ∃ trailPoints, s.animate three = { s.moved three with trailPoints } := by
  rw [animate_eq_push documented]
  exact pushTrailPoint_eq _ _

private theorem abs_smooth_le {value target weight bound : ℚ} (inside : |value| ≤ bound) (reached : |target| ≤ bound)
    (part : weight ∈ Set.Icc 0 1) : |smooth value (target, weight)| ≤ bound := by
  rw [abs_le] at inside reached ⊢
  have moved : smoothAll value [(target, weight)] ∈ Set.Icc (-bound) bound :=
    smoothAll_mem_Icc inside (List.forall_mem_singleton.mpr reached) (List.forall_mem_singleton.mpr part)
  exact moved

private theorem approach_within {v goal : Vector3} {weight bound : ℚ} (inside : v.Within bound)
    (reached : goal.Within bound) (part : weight ∈ Set.Icc 0 1) : (approach v goal weight).Within bound := by
  obtain ⟨x, y, z⟩ := inside
  obtain ⟨toX, toY, toZ⟩ := reached
  exact ⟨abs_smooth_le x toX part, abs_smooth_le y toY part, abs_smooth_le z toZ part⟩

/-- What the controls and the messages of the host can set. -/
structure Confined (bound : ℚ) (s : Page) : Prop where
  target : s.targetPosition.Within bound
  scale : s.motionScale ∈ Set.Icc 1 20
  step : s.minTrailStep ∈ Set.Icc 0.004 0.08
  offset : s.moduleLayout.offset.Within 1
  position : s.position.Within (20 * bound + 1)

/-- A message does not send the cube further than the bound. -/
def Event.Within (bound : ℚ) : Event → Prop
  | .poseMessage payload => ∀ t ∈ [payload.tx, payload.ty, payload.tz], ∀ value, t = some value → |value| ≤ bound
  | _ => True

variable {bound : ℚ}

private theorem abs_goal_le {target scale offset : ℚ} (near : |target| ≤ bound) (scaled : scale ∈ Set.Icc 1 20)
    (moved : |offset| ≤ 1) : |target * scale + offset| ≤ 20 * bound + 1 := by
  have nonneg : 0 ≤ scale := le_trans (by norm_num) scaled.1
  have product : |target * scale| ≤ bound * 20 := by
    rw [abs_mul, abs_of_nonneg nonneg]
    exact mul_le_mul near scaled.2 nonneg ((abs_nonneg target).trans near)
  calc |target * scale + offset| ≤ |target * scale| + |offset| := abs_add_le _ _
    _ ≤ 20 * bound + 1 := by linarith

private theorem Confined.goal (confined : Confined bound s) : s.goal.Within (20 * bound + 1) := by
  obtain ⟨x, y, z⟩ := confined.target
  obtain ⟨offX, offY, offZ⟩ := confined.offset
  exact ⟨abs_goal_le x confined.scale offX, abs_goal_le y confined.scale offY, abs_goal_le z confined.scale offZ⟩

private theorem Confined.setPose (confined : Confined bound s) {payload : PosePayload}
    (inside : ∀ t ∈ [payload.tx, payload.ty, payload.tz], ∀ value, t = some value → |value| ≤ bound) :
    Confined bound (s.setPose three payload) := by
  have kept {t : Option ℚ} {current : ℚ} (member : t ∈ [payload.tx, payload.ty, payload.tz])
      (before : |current| ≤ bound) : |t.getD current| ≤ bound := by
    cases given : t with
    | none => exact before
    | some value => exact inside t member value given
  obtain ⟨x, y, z⟩ := confined.target
  exact ⟨⟨kept (by simp) x, kept (by simp) y, kept (by simp) z⟩, confined.scale, confined.step, confined.offset,
    confined.position⟩

private theorem Confined.applySliderPose (confined : Confined bound s) :
    Confined bound (s.applySliderPose three) := by
  obtain ⟨x, y, z⟩ := confined.target
  apply confined.setPose
  simp only [Page.readPoseFromSliders, List.forall_mem_cons, Option.some.injEq, forall_eq', List.not_mem_nil]
  exact ⟨x, y, z, by simp⟩

private theorem abs_moduleOffsetSlider_le (value : ℚ) : |moduleOffsetSlider value| ≤ 1 :=
  abs_le.mpr (rangeValue_mem (by norm_num) (by norm_num) (by norm_num) value)

private theorem Confined.next (documented : three.Documented) (confined : Confined bound s) {event : Event}
    (nonneg : 0 ≤ bound)
    (inside : event.Within bound) : Confined bound (s.next three event) := by
  obtain ⟨target, scale, step, offset, position⟩ := confined
  have confined : Confined bound s := ⟨target, scale, step, offset, position⟩
  have zero : |(0 : ℚ)| ≤ bound := by rwa [abs_zero]
  cases event with
  | frame =>
    obtain ⟨trailPoints, moved⟩ := animate_eq documented s
    rw [Page.next, moved]
    exact ⟨target, scale, step, offset, approach_within position confined.goal (by norm_num)⟩
  | poseMessage payload => exact confined.setPose inside
  | poseInput roll pitch yaw =>
    exact Confined.applySliderPose ⟨target, scale, step, offset, position⟩
  | viewInput motionScale minTrailStep =>
    refine ⟨target, ?_, ?_, offset, position⟩
    · exact rangeValue_mem (by norm_num) (by norm_num) (by norm_num) motionScale
    · exact rangeValue_mem (by norm_num) (by norm_num) (by norm_num) minTrailStep
  | layoutInput offset' yawDeg pitchDeg rollDeg =>
    refine ⟨target, scale, step, ⟨?_, ?_, ?_⟩, position⟩
    · exact abs_moduleOffsetSlider_le offset'.x
    · exact abs_moduleOffsetSlider_le offset'.y
    · exact abs_moduleOffsetSlider_le offset'.z
  | presetChange preset => exact Confined.applySliderPose ⟨target, scale, step, offset, position⟩
  | mapPitchChange token => exact Confined.applySliderPose ⟨target, scale, step, offset, position⟩
  | mapYawChange token => exact Confined.applySliderPose ⟨target, scale, step, offset, position⟩
  | mapRollChange token => exact Confined.applySliderPose ⟨target, scale, step, offset, position⟩
  | resetMapping => exact Confined.applySliderPose ⟨target, scale, step, offset, position⟩
  | resetViewport => exact ⟨target, by norm_num [Page.next], by norm_num [Page.next], offset, position⟩
  | resetLayout =>
    refine ⟨target, scale, step, ⟨?_, ?_, ?_⟩, position⟩ <;> norm_num [Page.next]
  | resetPose => exact ⟨⟨zero, zero, zero⟩, scale, step, offset, position⟩
  | clearPageLog => exact ⟨target, scale, step, offset, position⟩

private theorem after_confined (documented : three.Documented) {events : List Event} (nonneg : 0 ≤ bound)
    (inside : ∀ event ∈ events, event.Within bound)
    (confined : Confined bound s) : Confined bound (s.after three events) := by
  induction events generalizing s with
  | nil => exact confined
  | cons event rest ih =>
    apply ih
    · exact fun other member => inside other (List.mem_cons_of_mem event member)
    · exact confined.next documented nonneg (inside event List.mem_cons_self)

private theorem initial_confined (nonneg : 0 ≤ bound) : Confined bound {} := by
  have zero : |(0 : ℚ)| ≤ bound := by rwa [abs_zero]
  have far : |(0 : ℚ)| ≤ 20 * bound + 1 := by
    rw [abs_zero]
    linarith
  exact ⟨⟨zero, zero, zero⟩, by norm_num, by norm_num, by norm_num [Vector3.Within], ⟨far, far, far⟩⟩

/-- The parts of the way that are left, on every axis. -/
def Nears (v w goal : Vector3) (left : ℚ) : Prop :=
  w.x - goal.x = (v.x - goal.x) * left ∧ w.y - goal.y = (v.y - goal.y) * left ∧
    w.z - goal.z = (v.z - goal.z) * left

private theorem approach_nears (v goal : Vector3) (weight : ℚ) :
    Nears v (approach v goal weight) goal (1 - weight) := by
  have axis (value target : ℚ) : smooth value (target, weight) - target = (value - target) * (1 - weight) := by
    rw [smooth]
    ring
  exact ⟨axis _ _, axis _ _, axis _ _⟩

private theorem Nears.trans {u v w goal : Vector3} {left left' : ℚ} (first : Nears u v goal left)
    (second : Nears v w goal left') : Nears u w goal (left * left') := by
  obtain ⟨x, y, z⟩ := first
  obtain ⟨x', y', z'⟩ := second
  rw [x] at x'
  rw [y] at y'
  rw [z] at z'
  exact ⟨x'.trans (mul_assoc _ _ _), y'.trans (mul_assoc _ _ _), z'.trans (mul_assoc _ _ _)⟩

/-- Frames alone bring the cube to its goal. -/
theorem after_frames (documented : three.Documented) (s : Page) (n : ℕ) :
    let rested := s.after three (List.replicate n .frame)
    rested.goal = s.goal ∧ rested.goalRotation three = s.goalRotation three ∧
      Nears s.position rested.position s.goal (0.8 ^ n) ∧
      Nears s.rotation rested.rotation (s.goalRotation three) (0.86 ^ n) := by
  induction n generalizing s with
  | zero => exact ⟨rfl, rfl, by simp [Nears, Page.after], by simp [Nears, Page.after]⟩
  | succ n ih =>
    obtain ⟨trailPoints, moved⟩ := animate_eq documented s
    have first : (s.animate three).position = approach s.position s.goal 0.2 := by rw [moved]; rfl
    have turned : (s.animate three).rotation = approach s.rotation (s.goalRotation three) 0.14 := by
      rw [moved]
      rfl
    have goal : (s.animate three).goal = s.goal := by rw [moved]; rfl
    have turn : (s.animate three).goalRotation three = s.goalRotation three := by rw [moved]; rfl
    obtain ⟨same, sameTurn, near, nearTurn⟩ := ih (s.animate three)
    rw [goal] at same near
    rw [turn] at sameTurn nearTurn
    rw [first] at near
    rw [turned] at nearTurn
    refine ⟨same, sameTurn, ?_, ?_⟩
    · have both := (approach_nears s.position s.goal 0.2).trans near
      rwa [show (1 : ℚ) - 0.2 = 0.8 by norm_num, ← pow_succ'] at both
    · have both := (approach_nears s.rotation (s.goalRotation three) 0.14).trans nearTurn
      rwa [show (1 : ℚ) - 0.14 = 0.86 by norm_num, ← pow_succ'] at both

end Cube

/-- A number as the format `F4` writes it and the page reads it: four places, halves away from zero. -/
def fixed4 (value : ℚ) : ℚ := SignType.sign value * (⌊|value| * 10 ^ 4 + 1 / 2⌋ / 10 ^ 4)

/-- What the page reads from a pose message of the host. -/
def posePayload (post : Live.Post) : PosePayload where
  roll := some post.pose.roll
  pitch := some post.pose.pitch
  yaw := some post.pose.yaw
  tx := some (fixed4 post.tx)
  ty := some (fixed4 post.ty)
  tz := some (fixed4 post.tz)

private theorem abs_fixed4_le {value : ℚ} (inside : |value| ≤ 1.5) : |fixed4 value| ≤ 1.5 := by
  have rounded : ⌊|value| * 10 ^ 4 + 1 / 2⌋ ≤ 15000 := by
    apply Int.lt_add_one_iff.mp
    rw [Int.floor_lt]
    push_cast
    linarith
  have nonneg : 0 ≤ ⌊|value| * 10 ^ 4 + 1 / 2⌋ := by
    apply Int.floor_nonneg.mpr
    positivity
  have size : |(⌊|value| * 10 ^ 4 + 1 / 2⌋ : ℚ) / 10 ^ 4| ≤ 1.5 := by
    rw [abs_of_nonneg (by positivity), div_le_iff₀ (by norm_num)]
    have := Int.cast_le (R := ℚ).mpr rounded
    push_cast at this
    linarith
  rw [fixed4, abs_mul]
  have sign : |(SignType.sign value : ℚ)| ≤ 1 := by
    rcases lt_trichotomy value 0 with neg | zero | pos
    · simp [sign_neg neg]
    · simp [zero]
    · simp [sign_pos pos]
  calc _ ≤ 1 * (1.5 : ℚ) := mul_le_mul sign size (abs_nonneg _) zero_le_one
    _ = 1.5 := one_mul _

/-- Whatever frames the host has handled and whatever the user does with the controls, the cube stays within 31 units
of the origin on every axis; and while nothing but frames comes, four fifths of its distance to the goal remain
after each, and so for its rotation. -/
theorem cube_follows_host (rate : Gesture.TickRate) (frames : List Live.PreviewFrame)
    {three : Three} (documented : three.Documented) (events : List Event)
    (posted : ∀ payload, .poseMessage payload ∈ events →
      ∃ post ∈ (Live.Preview.after rate {} frames).posts, payload = posePayload post) (n : ℕ) :
    let s := Page.after three {} events
    let rested := s.after three (List.replicate n .frame)
    s.position.Within 31 ∧ rested.position.Within 31 ∧ Nears s.position rested.position s.goal (0.8 ^ n) ∧
      Nears s.rotation rested.rotation (s.goalRotation three) (0.86 ^ n) := by
  intro s rested
  have inside : ∀ event ∈ events, event.Within 1.5 := by
    intro event member
    cases event with
    | poseMessage payload =>
      obtain ⟨post, among, rfl⟩ := posted payload member
      obtain ⟨x, y, z⟩ := Live.posts_inBox rate frames post among
      simp only [Event.Within, posePayload, List.forall_mem_cons, Option.some.injEq, forall_eq', List.not_mem_nil]
      exact ⟨abs_fixed4_le x, abs_fixed4_le y, abs_fixed4_le z, by simp⟩
    | _ => trivial
  have confined : Confined 1.5 s := after_confined documented (by norm_num) inside (initial_confined (by norm_num))
  have later : Confined 1.5 rested := by
    refine after_confined documented (by norm_num) ?_ confined
    intro event member
    rw [List.eq_of_mem_replicate member]
    trivial
  obtain ⟨-, -, near, turned⟩ := after_frames documented s n
  have limit : (20 : ℚ) * 1.5 + 1 = 31 := by norm_num
  exact ⟨limit ▸ confined.position, limit ▸ later.position, near, turned⟩

/-- The first frame of a board at rest, which the page is told of at once. -/
def firstFrame : Live.PreviewFrame where
  calibrated := ⟨0, 0, 16384, 0, 0, 0, 0, 0, 0, true, true⟩
  pose := { roll := 0, pitch := 0 }
  motionTicks := 1
  publishTicks := 1
  telemetryTicks := 1

/-- The pose arrives while the user drags the controls, with frames between. -/
def draggedEvents : List Event :=
  [.frame, .viewInput 100 0, .poseMessage (posePayload ⟨1, { roll := 0, pitch := 0 }, 0, 0, 0⟩),
    .layoutInput { x := 5, y := -5 } 0 0 0, .frame]

/-- The documented formulas, with an approximate factor from degrees to radians. -/
def sampleThree : Three where
  degToRad degrees := degrees * 0.0175
  lerp x y t := (1 - t) * x + t * y
  isNear step last point := 0 < step && distanceSq last point < step ^ 2

private theorem sampleThree_documented : sampleThree.Documented where
  lerp _ _ _ := rfl
  isNear _ _ _ := by simp [sampleThree]

theorem cube_follows_host_dragged : (Page.after sampleThree {} draggedEvents).position.Within 31 := by
  refine (cube_follows_host ⟨10000000, by decide⟩ [firstFrame] sampleThree_documented draggedEvents ?_ 0).1
  intro payload member
  obtain rfl : payload = posePayload ⟨1, { roll := 0, pitch := 0 }, 0, 0, 0⟩ := by
    simpa [draggedEvents] using member
  exact ⟨_, by decide, rfl⟩

/-- The positions at the frames since the trail was cleared, each with the step that was in force. -/
def Page.track (three : Three) (s : Page) (path : List (ℚ × Vector3)) : List Event → List (ℚ × Vector3)
  | [] => path
  | event :: rest =>
    let later := match event with
      | .frame => path ++ [(s.minTrailStep, (s.next three .frame).position)]
      | .resetPose => []
      | .clearPageLog => []
      | _ => path
    (s.next three event).track three later rest

/-- A point is kept against the last one that was, unless it is nearer than its step. -/
def spaced (three : Three) (last input : ℚ × Vector3) : Bool := !three.isNear input.1 last.2 input.2

/-- The first point of a path, and of the others those that are kept. -/
def thinned (three : Three) : List (ℚ × Vector3) → List (ℚ × Vector3)
  | [] => []
  | first :: rest => first :: throttled (spaced three) first rest

section Thinned

variable (three : Three)

private theorem thinned_concat (path : List (ℚ × Vector3)) (input : ℚ × Vector3) :
    thinned three (path ++ [input]) =
      if (thinned three path).getLast?.any (fun last => !spaced three last input) then thinned three path
      else thinned three path ++ [input] := by
  cases path with
  | nil => rfl
  | cons first rest =>
    have last : (first :: throttled (spaced three) first rest).getLast? =
        some ((throttled (spaced three) first rest).getLastD first) := by
      rw [List.getLast?_cons, List.getLastD_eq_getLast?]
    rw [List.cons_append, thinned, thinned, throttled_concat, last, Option.any_some]
    cases spaced three ((throttled (spaced three) first rest).getLastD first) input <;> simp

end Thinned

/-- A buffer that drops its first element when it is over full holds the last elements. -/
private theorem push_rtake {α : Type*} (l : List α) (x : α) {n : ℕ} (positive : 0 < n) :
    (if n < (l.rtake n ++ [x]).length then (l.rtake n ++ [x]).tail else l.rtake n ++ [x]) = (l ++ [x]).rtake n := by
  obtain ⟨m, rfl⟩ : ∃ m, n = m + 1 := ⟨n - 1, by omega⟩
  rw [List.rtake_concat_succ]
  rcases le_or_gt (m + 1) l.length with full | free
  · have length : (l.rtake (m + 1)).length = m + 1 := by
      rw [List.rtake, List.length_drop]
      omega
    have shorter : (l.rtake (m + 1)).tail = l.rtake m := by
      rw [List.rtake, List.rtake, List.tail_drop]
      congr 1
      omega
    have nonempty : l.rtake (m + 1) ≠ [] := List.ne_nil_of_length_pos (by omega)
    rw [if_pos (by rw [List.length_append, length]; simp), List.tail_append_of_ne_nil nonempty, shorter]
  · have whole (k : ℕ) (enough : l.length ≤ k) : l.rtake k = l := by
      rw [List.rtake, Nat.sub_eq_zero_of_le enough, List.drop_zero]
    rw [whole (m + 1) free.le, whole m (by omega), if_neg]
    rw [List.length_append, List.length_singleton]
    omega

private theorem getLast?_rtake {α : Type*} (l : List α) {n : ℕ} (positive : 0 < n) :
    (l.rtake n).getLast? = l.getLast? := by
  rw [List.rtake, List.getLast?_drop]
  split
  · next short =>
    have nil : l = [] := List.eq_nil_of_length_eq_zero (by omega)
    rw [nil]
    rfl
  · rfl

/-- The trail holds the end of the thinned path. -/
private def Trails (three : Three) (s : Page) (path : List (ℚ × Vector3)) : Prop :=
  s.trailPoints = ((thinned three path).map Prod.snd).rtake maxTrailPoints

private theorem cleared_trails {three : Three} {s : Page} (cleared : s.trailPoints = []) : Trails three s [] := by
  rw [Trails, cleared, thinned, List.map_nil, List.rtake_nil]

private theorem pushTrailPoint_trails {three : Three} {s : Page} {path : List (ℚ × Vector3)}
    (trails : Trails three s path)
    (point : Vector3) : Trails three (s.pushTrailPoint three point) (path ++ [(s.minTrailStep, point)]) := by
  have last : s.trailPoints.getLast? = (thinned three path).getLast?.map Prod.snd := by
    rw [trails, getLast?_rtake _ (by decide), List.getLast?_map]
  have test : s.trailPoints.getLast?.any (fun last => three.isNear s.minTrailStep last point) =
      (thinned three path).getLast?.any (fun last => !spaced three last (s.minTrailStep, point)) := by
    rw [last, Option.any_map]
    simp [spaced]
  rw [Page.pushTrailPoint, test, Trails, thinned_concat]
  split
  · exact trails
  · rw [List.map_append, List.map_singleton, ← push_rtake _ _ (by decide), ← trails]

section Trail

variable {three : Three} {s : Page} {path : List (ℚ × Vector3)}

private theorem animate_trails (documented : three.Documented) (trails : Trails three s path) :
    Trails three (s.animate three) (path ++ [(s.minTrailStep, (s.animate three).position)]) := by
  have position : (s.animate three).position = (s.moved three).position := by
    obtain ⟨trailPoints, moved⟩ := animate_eq documented s
    rw [moved]
  rw [position, animate_eq_push documented]
  exact pushTrailPoint_trails (s := s.moved three) trails _

/-- Every step that a page can have in force is one of its control. -/
private theorem next_minTrailStep (documented : three.Documented) (step : 0.004 ≤ s.minTrailStep) (event : Event) :
    0.004 ≤ (s.next three event).minTrailStep := by
  cases event with
  | frame =>
    obtain ⟨trailPoints, moved⟩ := animate_eq documented s
    rw [Page.next, moved]
    exact step
  | viewInput motionScale minTrailStep =>
    exact (rangeValue_mem (by norm_num) (by norm_num) (by norm_num) minTrailStep).1
  | resetViewport => norm_num [Page.next]
  | _ => exact step

/-- The trail follows the path through any events, and the steps on the path stay those of the control. -/
private theorem after_trails (documented : three.Documented) (trails : Trails three s path)
    (step : 0.004 ≤ s.minTrailStep) (steps : ∀ point ∈ path, 0.004 ≤ point.1) (events : List Event) :
    Trails three (s.after three events) (s.track three path events) ∧
      ∀ point ∈ s.track three path events, 0.004 ≤ point.1 := by
  induction events generalizing s path with
  | nil => exact ⟨trails, steps⟩
  | cons event rest ih =>
    have next := next_minTrailStep documented step event
    cases event with
    | frame =>
      refine ih (animate_trails documented trails) next ?_
      intro point member
      rcases List.mem_append.mp member with before | new
      · exact steps point before
      · rw [List.mem_singleton.mp new]
        exact step
    | resetPose => exact ih (cleared_trails rfl) next (by simp)
    | clearPageLog => exact ih (cleared_trails rfl) next (by simp)
    | _ => exact ih trails next steps

end Trail

section Spacing

variable {three : Three}

private theorem thinned_sublist (path : List (ℚ × Vector3)) : (thinned three path).Sublist path := by
  cases path with
  | nil => exact List.Sublist.refl _
  | cons first rest => exact (throttled_sublist (spaced three) first rest).cons_cons first

private theorem thinned_isChain (documented : three.Documented) {path : List (ℚ × Vector3)}
    (steps : ∀ point ∈ path, 0.004 ≤ point.1) :
    (thinned three path).IsChain fun a b => 0.004 ^ 2 ≤ distanceSq a.2 b.2 := by
  have chain : (thinned three path).IsChain fun a b => spaced three a b = true := by
    cases path with
    | nil => exact List.isChain_nil
    | cons first rest => exact throttled_isChain (spaced three) first rest
  refine chain.imp_of_mem_imp fun a b _ member apart => ?_
  have step := steps b ((thinned_sublist path).subset member)
  have far : ¬ three.isNear b.1 a.2 b.2 = true := by simpa [spaced] using apart
  rw [documented.isNear, not_and, not_lt] at far
  calc (0.004 : ℚ) ^ 2 ≤ b.1 ^ 2 := pow_le_pow_left₀ (by norm_num) step 2
    _ ≤ distanceSq a.2 b.2 := far (by linarith)

private theorem thinned_covers (documented : three.Documented) {path : List (ℚ × Vector3)} {point : ℚ × Vector3}
    (member : point ∈ path) :
    point ∈ thinned three path ∨ ∃ kept ∈ thinned three path, distanceSq kept.2 point.2 < point.1 ^ 2 := by
  cases path with
  | nil => cases member
  | cons first rest =>
    rcases List.mem_cons.mp member with rfl | later
    · exact .inl List.mem_cons_self
    · have any : (first :: rest).Pairwise fun _ _ => True := List.pairwise_of_forall fun _ _ => trivial
      have covered : point ∈ throttled (spaced three) first rest ∨ _ := throttled_covers any later
      rcases covered with passed | ⟨kept, among, -, close⟩
      · exact .inl (List.mem_cons_of_mem first passed)
      · have near : three.isNear point.1 kept.2 point.2 = true := by simpa [spaced] using close
        exact .inr ⟨kept, among, ((documented.isNear _ _ _).mp near).2⟩

end Spacing

/-- Whatever the user and the host do, the trail is the end of the path since it was cleared last, thinned out: two
neighbouring points of it are at least the smallest step apart, and every position of the cube is a point of the
thinned path or lies within a step of one. -/
theorem trail_thinned {three : Three} (documented : three.Documented) (events : List Event) :
    let path := Page.track three {} [] events
    (Page.after three {} events).trailPoints = ((thinned three path).map Prod.snd).rtake 600 ∧
      (thinned three path).Sublist path ∧
      (thinned three path).IsChain (fun a b => 0.004 ^ 2 ≤ distanceSq a.2 b.2) ∧
      ∀ point ∈ path, point ∈ thinned three path ∨
        ∃ kept ∈ thinned three path, distanceSq kept.2 point.2 < point.1 ^ 2 := by
  intro path
  obtain ⟨trails, steps⟩ :=
    @after_trails three {} [] documented (cleared_trails rfl) (by norm_num) (by simp) events
  exact ⟨trails, thinned_sublist path, thinned_isChain documented steps,
    fun point member => thinned_covers documented member⟩

/-- While the user drags the controls the cube moves, and both of its positions are kept. -/
theorem trail_thinned_dragged :
    (Page.after sampleThree {} draggedEvents).trailPoints =
      ((thinned sampleThree (Page.track sampleThree {} [] draggedEvents)).map Prod.snd).rtake 600 ∧
      (Page.after sampleThree {} draggedEvents).trailPoints.length = 2 :=
  ⟨(trail_thinned sampleThree_documented draggedEvents).1, by decide +kernel⟩

end GestureSuite.Web
