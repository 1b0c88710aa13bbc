import Mathlib.Data.Rat.Floor
import Mathlib.Tactic

/-! # The page that shows the pose

`Web/app.js` in the window's web view: a message of the host or a control of the page sets where the cube is to go,
and every animation frame moves the cube a part of the way and adds to its trail. A range control keeps what it is
given inside its limits and on its steps. Arithmetic is exact; what the page calls of three.js, which it loads from
outside, is a parameter. Texts, the camera and the drawing are left out.
-/

namespace GestureSuite.Web

structure Vector3 where
  x : ℚ := 0
  y : ℚ := 0
  z : ℚ := 0
deriving DecidableEq, Repr

def distanceSq (a b : Vector3) : ℚ := (a.x - b.x) ^ 2 + (a.y - b.y) ^ 2 + (a.z - b.z) ^ 2

/-- What the page calls of three.js: `MathUtils.degToRad`, `MathUtils.lerp`, and `distanceTo` as far as it is compared
with a step. -/
structure Three where
  degToRad : ℚ → ℚ
  lerp : ℚ → ℚ → ℚ → ℚ
  /-- `last.distanceTo(point) < step`. -/
  isNear : ℚ → Vector3 → Vector3 → Bool

/-- The documented formulas; the distance is compared without its root. -/
structure Three.Documented (three : Three) : Prop where
  lerp : ∀ x y t, three.lerp x y t = (1 - t) * x + t * y
  isNear : ∀ step last point, three.isNear step last point = true ↔ 0 < step ∧ distanceSq last point < step ^ 2

structure Angles where
  roll : ℚ := 0
  pitch : ℚ := 0
  yaw : ℚ := 0
deriving DecidableEq, Repr

/-- The values of the three mapping controls; a minus sign reverses the axis. -/
inductive AxisToken where
  | roll
  | minusRoll
  | pitch
  | minusPitch
  | yaw
  | minusYaw
deriving DecidableEq, Repr

inductive OrientationPreset where
  | calibratedV1
  | default
  | swapRp
  | invertRoll
  | invertPitch
  | swapRpInvertRoll
  | swapRpInvertPitch
deriving DecidableEq, Repr

structure OrientationAxisMap where
  pitch : AxisToken := .pitch
  yaw : AxisToken := .yaw
  roll : AxisToken := .minusRoll
deriving DecidableEq, Repr

def readAxisToken (token : AxisToken) (values : Angles) : ℚ :=
  match token with
  | .roll => values.roll
  | .minusRoll => -values.roll
  | .pitch => values.pitch
  | .minusPitch => -values.pitch
  | .yaw => values.yaw
  | .minusYaw => -values.yaw

def mapOrientationByPreset (preset : OrientationPreset) (pose : Angles) : Angles :=
  match preset with
  | .calibratedV1 => pose
  | .swapRp => { roll := pose.pitch, pitch := pose.roll, yaw := pose.yaw }
  | .invertRoll => { pose with roll := -pose.roll }
  | .invertPitch => { pose with pitch := -pose.pitch }
  | .swapRpInvertRoll => { roll := -pose.pitch, pitch := pose.roll, yaw := pose.yaw }
  | .swapRpInvertPitch => { roll := pose.pitch, pitch := -pose.roll, yaw := pose.yaw }
  | .default => pose

/-- What a range control makes of a value: the nearest step between its limits, the upper one of two. -/
def rangeValue (low high step value : ℚ) : ℚ :=
  let clamped := max low (min value high)
  let stepped := low + ⌊(clamped - low) / step + 1 / 2⌋ * step
  if high < stepped then stepped - step else stepped

def rollSlider : ℚ → ℚ := rangeValue (-90) 90 1
def pitchSlider : ℚ → ℚ := rangeValue (-90) 90 1
def yawSlider : ℚ → ℚ := rangeValue (-180) 180 1
def viewMotionScaleSlider : ℚ → ℚ := rangeValue 1 20 0.5
def viewTrailStepSlider : ℚ → ℚ := rangeValue 0.004 0.08 0.002
def moduleOffsetSlider : ℚ → ℚ := rangeValue (-1) 1 0.01
def moduleAngleSlider : ℚ → ℚ := rangeValue (-180) 180 1

structure ModuleLayout where
  offset : Vector3 := { y := 0.18 }
  yawDeg : ℚ := 0
  pitchDeg : ℚ := 0
  rollDeg : ℚ := 0
deriving DecidableEq, Repr

def maxTrailPoints : ℕ := 600

structure Page where
  pose : Angles := {}
  /-- The values of the pose's range controls. -/
  sliders : Angles := {}
  orientationPreset : OrientationPreset := .calibratedV1
  orientationAxisMap : OrientationAxisMap := {}
  targetRotation : Vector3 := {}
  targetPosition : Vector3 := {}
  motionScale : ℚ := 8
  minTrailStep : ℚ := 0.018
  moduleLayout : ModuleLayout := {}
  /-- `cubeGroup.position`. -/
  position : Vector3 := {}
  /-- `cubeGroup.rotation`. -/
  rotation : Vector3 := {}
  trailPoints : List Vector3 := []
deriving DecidableEq, Repr

/-- The fields of a pose that `setPose` reads; an angle that is missing counts as zero. -/
structure PosePayload where
  roll : Option ℚ := none
  pitch : Option ℚ := none
  yaw : Option ℚ := none
  tx : Option ℚ := none
  ty : Option ℚ := none
  tz : Option ℚ := none
deriving DecidableEq, Repr

namespace Page

variable (three : Three)

def setPose (s : Page) (nextPose : PosePayload) : Page :=
  let pose : Angles :=
    { roll := nextPose.roll.getD 0, pitch := nextPose.pitch.getD 0, yaw := nextPose.yaw.getD 0 }
  let mapped := mapOrientationByPreset s.orientationPreset pose
  { s with
    pose
    sliders := { roll := rollSlider pose.roll, pitch := pitchSlider pose.pitch, yaw := yawSlider pose.yaw }
    targetRotation :=
      { x := three.degToRad (readAxisToken s.orientationAxisMap.pitch mapped)
        y := three.degToRad (readAxisToken s.orientationAxisMap.yaw mapped)
        z := three.degToRad (readAxisToken s.orientationAxisMap.roll mapped) }
    targetPosition :=
      { x := nextPose.tx.getD s.targetPosition.x
        y := nextPose.ty.getD s.targetPosition.y
        z := nextPose.tz.getD s.targetPosition.z } }

def readPoseFromSliders (s : Page) : PosePayload where
  roll := some s.sliders.roll
  pitch := some s.sliders.pitch
  yaw := some s.sliders.yaw
  tx := some s.targetPosition.x
  ty := some s.targetPosition.y
  tz := some s.targetPosition.z

def applySliderPose (s : Page) : Page := s.setPose three s.readPoseFromSliders

def pushTrailPoint (s : Page) (point : Vector3) : Page :=
  if s.trailPoints.getLast?.any fun last => three.isNear s.minTrailStep last point then s
  else
    let pushed := s.trailPoints ++ [point]
    { s with trailPoints := if maxTrailPoints < pushed.length then pushed.tail else pushed }

def clearTrail (s : Page) : Page := { s with trailPoints := [] }

/-- One frame of `animate`. -/
def animate (s : Page) : Page :=
  let layout := s.moduleLayout
  let position : Vector3 :=
    { x := three.lerp s.position.x (s.targetPosition.x * s.motionScale + layout.offset.x) 0.2
      y := three.lerp s.position.y (s.targetPosition.y * s.motionScale + layout.offset.y) 0.2
      z := three.lerp s.position.z (s.targetPosition.z * s.motionScale + layout.offset.z) 0.2 }
  let rotation : Vector3 :=
    { x := three.lerp s.rotation.x (s.targetRotation.x + three.degToRad layout.pitchDeg) 0.14
      y := three.lerp s.rotation.y (s.targetRotation.y + three.degToRad layout.yawDeg) 0.14
      z := three.lerp s.rotation.z (s.targetRotation.z + three.degToRad layout.rollDeg) 0.14 }
  { s with position, rotation }.pushTrailPoint three position

end Page

/-- What the page handles. A control is given the value the user drags it to. -/
inductive Event where
  | frame
  | poseMessage (payload : PosePayload)
  | poseInput (roll pitch yaw : ℚ)
  | viewInput (motionScale minTrailStep : ℚ)
  | layoutInput (offset : Vector3) (yawDeg pitchDeg rollDeg : ℚ)
  | presetChange (preset : OrientationPreset)
  | mapPitchChange (token : AxisToken)
  | mapYawChange (token : AxisToken)
  | mapRollChange (token : AxisToken)
  | resetMapping
  | resetViewport
  | resetLayout
  | resetPose
  | clearPageLog
deriving DecidableEq, Repr

namespace Page

variable (three : Three)

def next (s : Page) : Event → Page
  | .frame => s.animate three
  | .poseMessage payload => s.setPose three payload
  | .poseInput roll pitch yaw =>
    { s with
      sliders := { roll := rollSlider roll, pitch := pitchSlider pitch, yaw := yawSlider yaw } }.applySliderPose three
  | .viewInput motionScale minTrailStep =>
    { s with
      motionScale := viewMotionScaleSlider motionScale
      minTrailStep := viewTrailStepSlider minTrailStep }
  | .layoutInput offset yawDeg pitchDeg rollDeg =>
    { s with
      moduleLayout :=
        { offset :=
            { x := moduleOffsetSlider offset.x, y := moduleOffsetSlider offset.y, z := moduleOffsetSlider offset.z }
          yawDeg := moduleAngleSlider yawDeg
          pitchDeg := moduleAngleSlider pitchDeg
          rollDeg := moduleAngleSlider rollDeg } }
  | .presetChange preset => { s with orientationPreset := preset }.applySliderPose three
  | .mapPitchChange token =>
    { s with orientationAxisMap := { s.orientationAxisMap with pitch := token } }.applySliderPose three
  | .mapYawChange token =>
    { s with orientationAxisMap := { s.orientationAxisMap with yaw := token } }.applySliderPose three
  | .mapRollChange token =>
    { s with orientationAxisMap := { s.orientationAxisMap with roll := token } }.applySliderPose three
  | .resetMapping => { s with orientationAxisMap := {} }.applySliderPose three
  | .resetViewport => { s with motionScale := 8, minTrailStep := 0.018 }
  | .resetLayout => { s with moduleLayout := {} }
  | .resetPose =>
    (s.setPose three
      { roll := some 0, pitch := some 0, yaw := some 0, tx := some 0, ty := some 0, tz := some 0 }).clearTrail
  | .clearPageLog => s.clearTrail

/-- The page behind a list of events. -/
def after (s : Page) (events : List Event) : Page := events.foldl (Page.next three) s

end Page

end GestureSuite.Web
