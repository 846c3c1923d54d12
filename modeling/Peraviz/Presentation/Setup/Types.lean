import Peraviz.Runtime.Types

/-!
This module contains the compiled scene as the presentation setup reads it. The scalars are of an
arbitrary type: the setup only compares them, and no law of the comparisons is assumed.
-/

namespace Peraviz.Presentation.Setup

open Peraviz.Runtime

class Scalar (σ : Type) where
  zero : σ
  one : σ
  isFinite : σ → Bool
  lt : σ → σ → Bool
  eq : σ → σ → Bool
  bits : σ → Int

inductive ColorPresentationStatus where
  | resolved
  | unsupportedEffectApproximation
  | missingWheelResource
  deriving DecidableEq, Repr

section

variable (σ : Type)

structure CompiledWheelPaletteSlot where
  slotIndex : Int32 := 0
  srgbRed : σ
  srgbGreen : σ
  srgbBlue : σ
  linearRed : σ
  linearGreen : σ
  linearBlue : σ
  gain : σ
  identity : Bool := true
  mediaFileName : String := ""
  uniformColorPresentation : Bool := false

structure CompiledWheelPalette where
  wheelRendererId : Int32 := 0
  fixtureId : Int32 := 0
  placementOffsetDegrees : σ
  slots : List (CompiledWheelPaletteSlot σ) := []

structure CompiledWheelChannelSet where
  dmxFrom : UInt32 := 0
  dmxTo : UInt32 := 255
  wheelSlotIndex : Int32 := 0
  physicalFrom : σ
  physicalTo : σ

structure CompiledWheelTargetBinding where
  bindingId : Int32 := 0
  fixtureId : Int32 := 0
  beamRenderTargetId : Int32 := 0
  wheelRendererId : Int32 := 0
  sourceProgramId : Int32 := 0
  mode : CompiledWheelMode := .listed .select
  snap : Bool := false
  placementOffsetDegrees : σ
  channelSets : List (CompiledWheelChannelSet σ) := []

structure CompiledGoboBinding where
  fixtureId : Int32 := 0
  beamRenderTargetId : Int32 := 0

structure CompiledDmxSourceProgram where
  programId : Int32 := 0
  semantic : CompiledSemantic := .listed .unknown
  sources : List CompiledDmxByteSource := []
  dmxFrom : UInt32 := 0
  dmxTo : UInt32 := 255
  physicalFrom : σ
  physicalTo : σ
  activation : ModeMasterCondition := {}

structure CompiledComponentProperty where
  propertyId : Int32 := 0
  fixtureId : Int32 := 0
  semantic : CompiledSemantic := .listed .unknown
  geometryName : String := ""
  contributors : List Int32 := []

structure CompiledColorInputBinding where
  sourceProgramId : Int32 := 0
  semantic : CompiledSemantic := .listed .unknown
  defaultValue : σ
  useNormalizedValue : Bool := false
  emitterResourceId : Int32 := 0
  filterResourceId : Int32 := 0

structure CompiledColorTargetProgram where
  fixtureId : Int32 := 0
  beamRenderTargetId : Int32 := 0
  inputs : List (CompiledColorInputBinding σ) := []
  additiveSource : Bool := false

structure CompiledShutterBinding where
  fixtureId : Int32 := 0
  beamTargetId : Int32 := 0
  shutterIndex : Int32 := 1
  sourceProgramId : Int32 := 0
  wave : ShutterWave := .listed .unsupported
  duration : σ
  duty : σ
  offset : σ
  dmxFrom : UInt32 := 0
  dmxTo : UInt32 := 255
  physicalFrom : σ
  physicalTo : σ
  status : Int32 := 0
  modeFrom : UInt32 := 0
  modeTo : UInt32 := 4294967295
  activationFunctionId : Int32 := 0

structure CompiledBeamOpticalProfile where
  fixtureId : Int32 := 0
  fixtureUuid : String := ""
  geometryPath : String := ""
  geometryKey : String := ""
  renderTargetId : Int32 := 0
  beamType : String := "Wash"
  beamAngleExplicit : Bool := false
  fieldAngleExplicit : Bool := false
  beamAngleDeg : σ
  fieldAngleDeg : σ
  beamRadiusM : σ
  throwRatio : σ
  rectangleRatio : σ
  luminousFlux : σ
  effectiveLuminousFluxLm : σ
  projectedLumenScale : σ
  emissionLumenScale : σ
  colorTemperature : σ
  beamRadiusSource : String := "fallback"
  hasProjectedBeam : Bool := true
  valid : Bool := true
  colorPresentationStatus : ColorPresentationStatus := .resolved
  approximatedColorSourcePrograms : List Int32 := []

structure CompiledRuntimeScene where
  sourcePrograms : List (CompiledDmxSourceProgram σ) := []
  properties : List CompiledComponentProperty := []
  colorTargets : List (CompiledColorTargetProgram σ) := []
  wheelPalettes : List (CompiledWheelPalette σ) := []
  wheelBindings : List (CompiledWheelTargetBinding σ) := []
  goboBindings : List CompiledGoboBinding := []
  goboMotionBindings : List CompiledGoboBinding := []
  shutterBindings : List (CompiledShutterBinding σ) := []
  beamProfiles : List (CompiledBeamOpticalProfile σ) := []

end

end Peraviz.Presentation.Setup
