import Mathlib.Data.Rat.Defs
import Peraviz.Enumeration.Basic

namespace Peraviz.Runtime

def kCompiledRuntimeSceneContractVersion : Int32 := 9

inductive SemanticName where
  | unknown
  | pan
  | tilt
  | dimmer
  | zoom
  | cieX
  | cieY
  | cieBrightness
  | cto
  | ctb
  | ctc
  | tint
  | colorAddRed
  | colorAddGreen
  | colorAddBlue
  | colorAddWhite
  | colorAddAmber
  | colorAddLime
  | colorSubCyan
  | colorSubMagenta
  | colorSubYellow
  deriving DecidableEq, Repr

instance : Enumerators Int32 SemanticName where
  all := [.unknown, .pan, .tilt, .dimmer, .zoom, .cieX, .cieY, .cieBrightness, .cto, .ctb, .ctc,
    .tint, .colorAddRed, .colorAddGreen, .colorAddBlue, .colorAddWhite, .colorAddAmber,
    .colorAddLime, .colorSubCyan, .colorSubMagenta, .colorSubYellow]
  toUnderlying e := Int32.ofNat e.ctorIdx
  complete e := by cases e <;> decide
  nodup := by decide

abbrev CompiledSemantic := Enumeration SemanticName

inductive WheelModeName where
  | select
  | index
  | spin
  | random
  | audioUnsupported
  | otherUnsupported
  deriving DecidableEq, Repr

instance : Enumerators Int32 WheelModeName where
  all := [.select, .index, .spin, .random, .audioUnsupported, .otherUnsupported]
  toUnderlying e := Int32.ofNat e.ctorIdx
  complete e := by cases e <;> decide
  nodup := by decide

abbrev CompiledWheelMode := Enumeration WheelModeName

inductive GoboSelectionModeName where
  | seatedStatic
  | movingCompositionUnsupported
  deriving DecidableEq, Repr

instance : Enumerators Int32 GoboSelectionModeName where
  all := [.seatedStatic, .movingCompositionUnsupported]
  toUnderlying e := Int32.ofNat e.ctorIdx
  complete e := by cases e <;> decide
  nodup := by decide

abbrev CompiledGoboSelectionMode := Enumeration GoboSelectionModeName

inductive ContributorOperationName where
  | weightedAdd
  deriving DecidableEq, Repr

instance : Enumerators Int32 ContributorOperationName where
  all := [.weightedAdd]
  toUnderlying e := Int32.ofNat e.ctorIdx
  complete e := by cases e; decide
  nodup := by decide

abbrev CompiledContributorOperation := Enumeration ContributorOperationName

inductive ModeMasterTargetName where
  | none
  | dmxChannel
  | channelFunction
  | invalid
  deriving DecidableEq, Repr

instance : Enumerators UInt8 ModeMasterTargetName where
  all := [.none, .dmxChannel, .channelFunction, .invalid]
  toUnderlying e := UInt8.ofNat e.ctorIdx
  complete e := by cases e <;> decide
  nodup := by decide

abbrev ModeMasterTargetKind := Enumeration ModeMasterTargetName

inductive GoboSemanticName where
  | none
  | selection
  | selectSpin
  | selectShake
  | selectEffects
  | wheelIndex
  | wheelSpin
  | wheelShake
  | wheelRandom
  | wheelAudio
  | pos
  | posRotate
  | posShake
  deriving DecidableEq, Repr

instance : Enumerators UInt8 GoboSemanticName where
  all := [.none, .selection, .selectSpin, .selectShake, .selectEffects, .wheelIndex, .wheelSpin,
    .wheelShake, .wheelRandom, .wheelAudio, .pos, .posRotate, .posShake]
  toUnderlying e := UInt8.ofNat e.ctorIdx
  complete e := by cases e <;> decide
  nodup := by decide

abbrev GoboSemanticKind := Enumeration GoboSemanticName

inductive GoboScopeName where
  | none
  | selection
  | selectedGobo
  | completeWheel
  | selectionAndSelectedGobo
  deriving DecidableEq, Repr

instance : Enumerators UInt8 GoboScopeName where
  all := [.none, .selection, .selectedGobo, .completeWheel, .selectionAndSelectedGobo]
  toUnderlying e := UInt8.ofNat e.ctorIdx
  complete e := by cases e <;> decide
  nodup := by decide

abbrev GoboControlledScope := Enumeration GoboScopeName

inductive ShutterWaveName where
  | unsupported
  | open
  | closed
  | strobe
  | pulse
  | pulseOpen
  | pulseClose
  | duration
  | frequency
  | mode
  | randomStrobe
  | randomPulse
  | randomOpen
  | randomClose
  deriving DecidableEq, Repr

instance : Enumerators Int32 ShutterWaveName where
  all := [.unsupported, .open, .closed, .strobe, .pulse, .pulseOpen, .pulseClose, .duration,
    .frequency, .mode, .randomStrobe, .randomPulse, .randomOpen, .randomClose]
  toUnderlying e := Int32.ofNat e.ctorIdx - 1
  complete e := by cases e <;> decide
  nodup := by decide

abbrev ShutterWave := Enumeration ShutterWaveName

structure ModeMasterCondition where
  targetKind : ModeMasterTargetKind := .listed .none
  targetId : Int32 := 0
  masterProgramId : Int32 := 0
  fromValue : UInt32 := 0
  toValue : UInt32 := 0
  valid : Bool := true
  masterChannelId : Int32 := 0
  deriving DecidableEq

structure CompiledDmxByteSource where
  universeId : Int32 := -1
  address : Int32 := -1
  byteOrder : Int32 := 0
  deriving DecidableEq

structure CompiledEmitterResource where
  resourceId : Int32 := 0
  fallbackLinearR : ℚ := 0
  fallbackLinearG : ℚ := 0
  fallbackLinearB : ℚ := 0
  valid : Bool := false
  deriving DecidableEq

structure CompiledFilterResource where
  resourceId : Int32 := 0
  fallbackLinearR : ℚ := 1
  fallbackLinearG : ℚ := 1
  fallbackLinearB : ℚ := 1
  fallbackTransmission : ℚ := 1
  valid : Bool := false
  deriving DecidableEq

structure CompiledWheelPaletteSlot where
  slotIndex : Int32 := 0
  srgbRed : ℚ := 1
  srgbGreen : ℚ := 1
  srgbBlue : ℚ := 1
  linearRed : ℚ := 1
  linearGreen : ℚ := 1
  linearBlue : ℚ := 1
  gain : ℚ := 1
  identity : Bool := true
  deriving DecidableEq

structure CompiledWheelPalette where
  wheelRendererId : Int32 := 0
  fixtureId : Int32 := 0
  placementOffsetDegrees : ℚ := 270
  slots : List CompiledWheelPaletteSlot := []
  deriving DecidableEq

structure CompiledWheelChannelSet where
  dmxFrom : UInt32 := 0
  dmxTo : UInt32 := 255
  wheelSlotIndex : Int32 := 0
  physicalFrom : ℚ := 0
  physicalTo : ℚ := 1
  deriving DecidableEq

structure CompiledWheelTargetBinding where
  bindingId : Int32 := 0
  fixtureId : Int32 := 0
  beamRenderTargetId : Int32 := 0
  wheelRendererId : Int32 := 0
  sourceProgramId : Int32 := 0
  mode : CompiledWheelMode := .listed .select
  snap : Bool := false
  placementOffsetDegrees : ℚ := 270
  channelSets : List CompiledWheelChannelSet := []
  deriving DecidableEq

structure CompiledGoboAsset where
  goboAssetId : Int32 := 0
  wheelId : Int32 := 0
  slotIndex : Int32 := 0
  openSlot : Bool := true
  mediaValid : Bool := false
  deriving DecidableEq

structure CompiledGoboSelectionBinding where
  bindingId : Int32 := 0
  fixtureId : Int32 := 0
  beamRenderTargetId : Int32 := 0
  wheelId : Int32 := 0
  wheelInstanceIndex : Int32 := 0
  sourceProgramId : Int32 := 0
  mode : CompiledGoboSelectionMode := .listed .seatedStatic
  channelSets : List CompiledWheelChannelSet := []
  deriving DecidableEq

structure CompiledGoboMotionBinding where
  bindingId : Int32 := 0
  fixtureId : Int32 := 0
  beamRenderTargetId : Int32 := 0
  wheelId : Int32 := 0
  wheelInstanceIndex : Int32 := 0
  sourceProgramId : Int32 := 0
  semanticKind : GoboSemanticKind := .listed .none
  controlledScope : GoboControlledScope := .listed .none
  physicalFrom : ℚ := 0
  physicalTo : ℚ := 1
  physicalUnit : String := ""
  channelSets : List CompiledWheelChannelSet := []
  scalarEvaluable : Bool := false
  rendered : Bool := false
  deriving DecidableEq

structure CompiledDmxSourceProgram where
  programId : Int32 := 0
  semantic : CompiledSemantic := .listed .unknown
  sources : List CompiledDmxByteSource := []
  dmxFrom : UInt32 := 0
  dmxTo : UInt32 := 255
  physicalFrom : ℚ := 0
  physicalTo : ℚ := 1
  activation : ModeMasterCondition := {}
  deriving DecidableEq

structure CompiledPropertyContributor where
  sourceProgramId : Int32 := 0
  weight : ℚ := 1
  operation : CompiledContributorOperation := .listed .weightedAdd
  deriving DecidableEq

structure CompiledComponentProperty where
  propertyId : Int32 := 0
  fixtureId : Int32 := 0
  componentId : Int32 := 0
  renderTargetId : Int32 := 0
  semantic : CompiledSemantic := .listed .unknown
  contributors : List CompiledPropertyContributor := []
  deriving DecidableEq

structure CompiledColorInputBinding where
  sourceProgramId : Int32 := 0
  semantic : CompiledSemantic := .listed .unknown
  defaultValue : ℚ := 0
  useNormalizedValue : Bool := false
  emitterResourceId : Int32 := 0
  filterResourceId : Int32 := 0
  deriving DecidableEq

structure CompiledColorTargetProgram where
  colorTargetId : Int32 := 0
  fixtureId : Int32 := 0
  beamRenderTargetId : Int32 := 0
  geometryId : Int32 := 0
  inputs : List CompiledColorInputBinding := []
  additiveSource : Bool := false
  deriving DecidableEq

structure CompiledFixtureInstance where
  fixtureId : Int32 := 0
  fixtureUuid : String := ""
  universeId : Int32 := -1
  startAddress : Int32 := -1
  luminousFlux : ℚ := 10000
  beamAngleDefault : ℚ := 25
  spotMultiplier : ℚ := 1
  beamMultiplier : ℚ := 20
  deriving DecidableEq

structure CompiledShutterBinding where
  fixtureId : Int32 := 0
  beamTargetId : Int32 := 0
  shutterIndex : Int32 := 1
  sourceProgramId : Int32 := 0
  wave : ShutterWave := .listed .unsupported
  duration : ℚ := 25 / 1000
  duty : ℚ := 1
  offset : ℚ := 1
  dmxFrom : UInt32 := 0
  dmxTo : UInt32 := 255
  physicalFrom : ℚ := 0
  physicalTo : ℚ := 1
  status : Int32 := 0
  modeFrom : UInt32 := 0
  modeTo : UInt32 := 4294967295
  activationFunctionId : Int32 := 0
  deriving DecidableEq

structure CompiledRuntimeDiagnostic where
  code : String
  severity : String
  message : String
  subject : String
  deriving DecidableEq

structure CompiledRuntimeScene where
  contractVersion : Int32 := kCompiledRuntimeSceneContractVersion
  fixtures : List CompiledFixtureInstance := []
  emitterResources : List CompiledEmitterResource := []
  filterResources : List CompiledFilterResource := []
  sourcePrograms : List CompiledDmxSourceProgram := []
  properties : List CompiledComponentProperty := []
  colorTargets : List CompiledColorTargetProgram := []
  wheelPalettes : List CompiledWheelPalette := []
  wheelBindings : List CompiledWheelTargetBinding := []
  goboAssets : List CompiledGoboAsset := []
  goboBindings : List CompiledGoboSelectionBinding := []
  goboMotionBindings : List CompiledGoboMotionBinding := []
  shutterBindings : List CompiledShutterBinding := []
  diagnostics : List CompiledRuntimeDiagnostic := []
  deriving DecidableEq

end Peraviz.Runtime
