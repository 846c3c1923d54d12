import Peraviz.Gdtf.Routing

/-!
This module contains the compilation of one DMX mode of a GDTF file into a fixture type: the mode is
found, its byte declarations are validated, every DMXChannel contributes the programs of its
functions, and the programs are expanded along the geometry references.
-/

namespace Peraviz.Gdtf

open CheckedInt Peraviz.Runtime

structure FunctionRecord where
  attributeName : String := ""
  functionName : String := ""
  logicalAttribute : String := ""
  dmxFrom : UInt32 := 0
  dmxTo : UInt32 := 255
  physicalFrom : ℚ := 0
  physicalTo : ℚ := 1
  wheelId : Int32 := 0
  modeMasterLink : String := ""
  modeFromSource : String := ""
  modeToSource : String := ""
  wheelChannelSets : List ParsedWheelChannelSet := []

/-- What the importer reads of a file without looking at an address: the document itself, the
functions of the LogicalChannels of a channel with that many bytes, wheels, names and mode
masters. Nothing is assumed of it. -/
structure GdtfReader where
  description : String → Option XMLElement
  wheels : XMLElement → List ParsedWheel
  functions : XMLElement → XMLElement → Nat → List FunctionRecord
  normalizeAttributeIdentity : Int32 → String → AttributeIdentity
  resolveModeMaster : List ParsedDmxChannel → List ChannelProgram → ChannelProgram →
    ModeMasterCondition

def findMode (root : XMLElement) (dmxModeName : String) : Option XMLElement :=
  let modes := collectElementsByName "dmxmode" root
  let trimmedName := trimAscii dmxModeName
  (modes.find? (fun mode => readAttr mode "Name" "name" = trimmedName)).or
    (modes.find? (fun mode => lowerAscii (readAttr mode "Name" "name") = lowerAscii trimmedName))

mutual

/-- The DMXChannels of a mode, without those of a nested mode and those inside of a channel. -/
def collectModeDmxChannels (selected : Bool) : XMLElement → List XMLElement
  | .node handle name attributes children =>
    if !selected && lowerAscii name == "dmxmode" then []
    else if lowerAscii name = "dmxchannel" then [.node handle name attributes children]
    else channelsOfChildren children

def channelsOfChildren : List XMLElement → List XMLElement
  | [] => []
  | child :: children => collectModeDmxChannels false child ++ channelsOfChildren children

end

structure FixtureBuilder where
  fixture : CompiledGdtfFixtureType
  attributeIds : List (String × Int32) := []
  geometryIds : List (String × Int32) := []
  componentByKey : List (String × Int32) := []
  nextComponentId : Int32 := 1
  nextProgramId : Int32 := 1

namespace FixtureBuilder

variable (reader : GdtfReader)

def attributeIdFor (x : FixtureBuilder) (attributeName : String) : Int32 × FixtureBuilder :=
  match x.attributeIds.lookup attributeName with
  | some id => (id, x)
  | none =>
    let id := nextId x.fixture.attributes
    (id, { x with
      attributeIds := x.attributeIds ++ [(attributeName, id)]
      fixture := { x.fixture with
        attributes := x.fixture.attributes ++
          [reader.normalizeAttributeIdentity id attributeName] } })

def geometryIdFor (x : FixtureBuilder) (geometryName geometryPath : String)
    : Int32 × FixtureBuilder :=
  let name := if geometryName = "" then "Fixture" else geometryName
  let path := if geometryPath = "" then name else geometryPath
  match x.geometryIds.lookup name with
  | some id => (id, x)
  | none =>
    let id := nextId x.fixture.geometries
    (id, { x with
      geometryIds := x.geometryIds ++ [(name, id)]
      fixture := { x.fixture with geometries := x.fixture.geometries ++ [⟨id, name, path⟩] } })

def componentIdFor (x : FixtureBuilder) (geometryId attributeId : Int32)
    : Int32 × FixtureBuilder :=
  let key := toString geometryId ++ ":" ++ toString attributeId
  match x.componentByKey.lookup key with
  | some id => (id, x)
  | none =>
    let id := x.nextComponentId
    (id, { x with
      componentByKey := x.componentByKey ++ [(key, id)]
      nextComponentId := id + 1
      fixture := { x.fixture with
        components := x.fixture.components ++ [⟨id, geometryId, attributeId, id⟩] } })

end FixtureBuilder

def sourceBreakOf (channel : XMLElement) : Int32 :=
  let sourceBreak := readAttr channel "DMXBreak" "dmxbreak"
  if sourceBreak = "Overwrite" then 0
  else if sourceBreak = "" then 1
  -- the validation of the mode has refused every other spelling
  else (patchNumber sourceBreak.toList 1).getD 1

def appendFunction (reader : GdtfReader) (channel : XMLElement) (offsets : List Int32)
    (parsed : ParsedDmxChannel) (geometryId : Int32) (x : FixtureBuilder)
    (record : FunctionRecord) : FixtureBuilder :=
  let (attributeId, x) := x.attributeIdFor reader record.attributeName
  let (componentId, x) := x.componentIdFor geometryId attributeId
  let id := x.nextProgramId
  let program : ChannelProgram := {
    id, dmxOffsetsOneBased := offsets, attributeId, geometryInstanceId := geometryId
    componentId, dmxFrom := record.dmxFrom, dmxTo := record.dmxTo
    physicalFrom := record.physicalFrom, physicalTo := record.physicalTo
    attributeName := record.attributeName, functionName := record.functionName
    wheelId := record.wheelId, dmxChannelId := parsed.id
    modeMaster :=
      if record.modeMasterLink = "" then {} else { targetKind := .listed .invalid }
    modeMasterLink := record.modeMasterLink, modeFromSource := record.modeFromSource
    modeToSource := record.modeToSource
    nodePath := parsed.nodeName ++ "." ++ record.logicalAttribute ++ "." ++ record.functionName
    wheelChannelSets := record.wheelChannelSets, dmxBreak := sourceBreakOf channel }
  { x with
    nextProgramId := id + 1
    fixture := { x.fixture with
      channelPrograms := x.fixture.channelPrograms ++ [program]
      dmxChannels := Expansion.claimChannel x.fixture.dmxChannels parsed.id id } }

def duplicateChannel (nodeName : String) : RuntimeDiagnostic where
  code := "PVZ-GDTF-DMXCHANNEL-NODE-INVALID"
  severity := "error"
  message := "Derived DMXChannel node name is empty or not unique in the selected DMXMode."
  subject := nodeName

def dmxChannelNodeName (geometryName firstLogicalAttribute : String) : String :=
  let channelGeometryName := if geometryName = "" then "Fixture" else geometryName
  channelGeometryName ++ "_" ++ firstLogicalAttribute

def appendChannel (reader : GdtfReader) (root : XMLElement) (x : FixtureBuilder)
    (channel : XMLElement) : Option FixtureBuilder := do
  let offsets ← parseOffsets (readAttr channel "Offset" "offset")
  if offsets = [] then return x
  let geometryName := readAttr channel "Geometry" "geometry"
  match collectDirectChildrenByName channel "logicalchannel" with
  | [] => return x
  | logical :: _ =>
    let firstLogicalAttribute := readAttr logical "Attribute" "attribute"
    let nodeName := dmxChannelNodeName geometryName firstLogicalAttribute
    if (x.fixture.dmxChannels.any (fun existing => existing.nodeName = nodeName)) = true ∨
        firstLogicalAttribute = "" then
      return { x with fixture := { x.fixture with
        diagnostics := x.fixture.diagnostics ++ [duplicateChannel nodeName] } }
    let parsed : ParsedDmxChannel :=
      { id := nextId x.fixture.dmxChannels, nodeName, dmxOffsetsOneBased := offsets }
    let x := { x with fixture := { x.fixture with
      dmxChannels := x.fixture.dmxChannels ++ [parsed] } }
    let (geometryId, x) := x.geometryIdFor geometryName geometryName
    return (reader.functions root channel offsets.length).foldl
      (appendFunction reader channel offsets parsed geometryId) x

def resolveModeMasters (reader : GdtfReader) (fixture : CompiledGdtfFixtureType)
    : CompiledGdtfFixtureType :=
  { fixture with
    channelPrograms := fixture.channelPrograms.map (fun program =>
      if program.modeMasterLink = "" then program
      else { program with
        modeMaster := reader.resolveModeMaster fixture.dmxChannels fixture.channelPrograms
          program }) }

def unsupportedPatch (message subject : String) : RuntimeDiagnostic where
  code := "PVZ-GDTF-DMX-PATCH-UNSUPPORTED"
  severity := "error"
  message := message
  subject := subject

/-- `none` is an integer overflow. The programs of a fixture that is not supported are not
read. -/
def compileGdtfFixtureType (reader : GdtfReader) (gdtfPath dmxModeName : String)
    : Option CompiledGdtfFixtureType := do
  let fixture : CompiledGdtfFixtureType :=
    { fixtureTypeName := gdtfPath, dmxModeName }
  match reader.description gdtfPath with
  | none =>
    return { fixture with diagnostics :=
      [⟨"PVZ-GDTF-XML-MISSING", "warning", "GDTF description.xml not found.", gdtfPath⟩] }
  | some root =>
    match findMode root dmxModeName with
    | none =>
      return { fixture with diagnostics :=
        [⟨"PVZ-GDTF-MODE-MISSING", "warning",
          "Selected DMX mode was not found in the parsed GDTF.", dmxModeName⟩] }
    | some selectedMode =>
      match validateChannelAddresses selectedMode with
      | some patchIssue =>
        return { fixture with
          dmxPatchSupported := false
          diagnostics := [unsupportedPatch patchIssue dmxModeName] }
      | none =>
        let fixture := { fixture with wheels := reader.wheels root }
        let built ← (collectModeDmxChannels true selectedMode).foldlM
          (appendChannel reader root) { fixture }
        let fixture := resolveModeMasters reader built.fixture
        match ← (expandInstanceDmxRoutes fixture root selectedMode).run with
        | .ok expanded => return expanded
        | .error routeIssue =>
          return { fixture with
            dmxPatchSupported := false
            diagnostics := fixture.diagnostics ++ [unsupportedPatch routeIssue dmxModeName] }

end Peraviz.Gdtf
