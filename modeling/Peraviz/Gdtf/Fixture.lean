import Peraviz.Gdtf.Xml
import Peraviz.Runtime.Types

/-!
This module contains the parser-owned fixture type that one GDTF mode compiles to.
-/

namespace Peraviz.Gdtf

open CheckedInt Peraviz.Runtime

structure AttributeIdentity where
  id : Int32 := 0
  name : String := ""
  canonicalFamily : String := ""
  goboKind : GoboSemanticKind := .listed .none

structure GeometryInstance where
  id : Int32 := 0
  name : String := ""
  path : String := ""
  deriving Inhabited

structure ComponentBinding where
  componentId : Int32 := 0
  geometryInstanceId : Int32 := 0
  attributeId : Int32 := 0
  renderTargetId : Int32 := 0
  deriving Inhabited

structure ParsedWheel where
  id : Int32 := 0
  name : String := ""
  slotCount : Nat := 0

structure ParsedWheelChannelSet where
  declaredDmxFrom : UInt32 := 0
  effectiveDmxTo : UInt32 := 255
  wheelSlotIndex : Int32 := 0
  name : String := ""
  physicalFrom : ℚ := 0
  physicalTo : ℚ := 1

structure ChannelProgram where
  id : Int32 := 0
  dmxOffsetsOneBased : List Int32 := []
  attributeId : Int32 := 0
  geometryInstanceId : Int32 := 0
  componentId : Int32 := 0
  dmxFrom : UInt32 := 0
  dmxTo : UInt32 := 255
  physicalFrom : ℚ := 0
  physicalTo : ℚ := 1
  attributeName : String := ""
  functionName : String := ""
  wheelId : Int32 := 0
  dmxChannelId : Int32 := 0
  modeMaster : ModeMasterCondition := {}
  modeMasterLink : String := ""
  modeFromSource : String := ""
  modeToSource : String := ""
  nodePath : String := ""
  wheelChannelSets : List ParsedWheelChannelSet := []
  dmxBreak : Int32 := 1

structure ParsedDmxChannel where
  id : Int32 := 0
  nodeName : String := ""
  dmxOffsetsOneBased : List Int32 := []
  sourceProgramId : Int32 := 0
  deriving Inhabited

structure RuntimeDiagnostic where
  code : String
  severity : String
  message : String
  subject : String

structure CompiledGdtfFixtureType where
  dmxPatchSupported : Bool := true
  fixtureTypeName : String := ""
  dmxModeName : String := ""
  attributes : List AttributeIdentity := []
  wheels : List ParsedWheel := []
  geometries : List GeometryInstance := []
  components : List ComponentBinding := []
  channelPrograms : List ChannelProgram := []
  dmxChannels : List ParsedDmxChannel := []
  diagnostics : List RuntimeDiagnostic := []

end Peraviz.Gdtf
