import Mathlib.Data.Rat.Init

/-!
This module contains the control offsets that are resolved for one DMX mode of a GDTF file and the
channel bindings that are made of them for a patched fixture.
-/

namespace Peraviz.Dmx

/-- The controls of a fixture that one channel each drives. -/
inductive Attribute where
  | dimmer | pan | tilt | zoom | cyan | magenta | yellow | strobe | prism | prismIndex
  | prismRotation | colorWheel | colorWheelRotation | animationWheel | animationWheelRotation
  | gobo | goboIndex | goboRotation
  deriving DecidableEq

/-- One-based offsets of the bytes of a channel, `-1` where there is none. -/
structure ChannelOffsets where
  coarse : Int32 := -1
  fine : Int32 := -1
  ultraFine : Int32 := -1
  deriving DecidableEq

structure FixtureGoboSlot where
  slotIndex : Int32 := -1
  imagePath : String
  deriving DecidableEq

inductive FixtureGoboRangeBehavior where
  | fixed | index | rotation | shake
  deriving DecidableEq

structure FixtureGoboRange where
  dmxFrom : Int := 0
  dmxTo : Int := 255
  modeFrom8bit : Int := 0
  modeTo8bit : Int := 255
  slotIndex : Int32 := -1
  behavior : FixtureGoboRangeBehavior := .fixed
  deriving DecidableEq

structure FixtureGoboRotationRange where
  dmxFrom : Int := 0
  dmxTo : Int := 255
  modeFrom8bit : Int := 0
  modeTo8bit : Int := 255
  physicalFrom : ℚ := 0
  physicalTo : ℚ := 0
  isStopRange : Bool := false
  isRotationChannelRange : Bool := false
  deriving DecidableEq

inductive FixtureGoboShakeControlType where
  | sameChannelSelect | dedicatedShakeChannel
  deriving DecidableEq

structure FixtureGoboShakeRange where
  dmxFrom : Int := 0
  dmxTo : Int := 255
  modeFrom8bit : Int := 0
  modeTo8bit : Int := 255
  physicalFrom : ℚ := 0
  physicalTo : ℚ := 0
  hasExplicitAmplitude : Bool := false
  amplitudeFromDegrees : ℚ := 0
  amplitudeToDegrees : ℚ := 0
  slotIndex : Int32 := -1
  controlType : FixtureGoboShakeControlType := .sameChannelSelect
  deriving DecidableEq

/-- What a gobo wheel has apart from its channels. -/
structure GoboWheelTraits where
  supportsIndex : Bool := false
  supportsRotation : Bool := false
  supportsSpinRotation : Bool := false
  supportsShake : Bool := false
  hasIndexPhysicalLimits : Bool := false
  indexPhysicalMin : ℚ := 0
  indexPhysicalMax : ℚ := 0
  rotationRanges : List FixtureGoboRotationRange := []
  shakeRanges : List FixtureGoboShakeRange := []
  wheelNumber : Int32 := 0
  wheelName : String := ""
  slots : List FixtureGoboSlot := []
  ranges : List FixtureGoboRange := []
  deriving DecidableEq

structure FixtureGoboWheelOffset extends GoboWheelTraits where
  select : ChannelOffsets := {}
  index : ChannelOffsets := {}
  rotation : ChannelOffsets := {}
  rotationChannelPriority : Int32 := -1
  deriving DecidableEq

structure FixtureUnboundReason where
  fixtureUuid : String
  reason : String
  deriving DecidableEq

/-- What a fixture has apart from its channels and wheels. -/
structure FixtureTraits where
  goboWheelNumber : Int32 := 0
  goboWheelName : String := ""
  goboSlots : List FixtureGoboSlot := []
  goboRanges : List FixtureGoboRange := []
  hasZoomPhysicalLimits : Bool := false
  zoomPhysicalMinDegrees : ℚ := -1
  zoomPhysicalMaxDegrees : ℚ := -1
  deriving DecidableEq

/-- The lease of the extracted assets is given by its directory. -/
structure FixtureControlOffsets extends FixtureTraits where
  assetCacheLease : Option String := none
  warnings : List FixtureUnboundReason := []
  offsets : Attribute → ChannelOffsets := fun _ => {}
  goboWheels : List FixtureGoboWheelOffset := []

structure FixturePatch where
  fixtureUuid : String
  mvrUniverse : Int32 := -1
  mvrAddress : Int32 := -1
  dmxMode : String
  gdtfPath : String

/-- Zero-based slots of the bytes of a channel, `-1` where there is none. -/
structure FixtureAttributeChannel where
  coarse : Int32 := -1
  fine : Int32 := -1
  ultraFine : Int32 := -1
  deriving DecidableEq

structure FixtureGoboWheelBinding extends GoboWheelTraits where
  channel : FixtureAttributeChannel
  indexChannel : FixtureAttributeChannel
  rotationChannel : FixtureAttributeChannel

structure FixtureControlBinding extends FixtureTraits where
  fixtureUuid : String
  dmxMode : String
  gdtfPath : String
  artnetUniverseId : Int32
  channels : Attribute → FixtureAttributeChannel
  goboWheels : List FixtureGoboWheelBinding
  scale : ℚ := 1

structure FixtureBindingBuildResult where
  bindings : List FixtureControlBinding := []
  unbound : List FixtureUnboundReason := []
  warnings : List FixtureUnboundReason := []
  assetCacheLeases : List String := []
  fixtureLookup : String → Option FixtureControlBinding := fun _ => none

end Peraviz.Dmx
